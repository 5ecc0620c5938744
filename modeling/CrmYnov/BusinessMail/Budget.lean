import CrmYnov.BusinessMail.Emission
import Mathlib.Algebra.Order.BigOperators.Group.List
import Mathlib.Algebra.Order.Ring.Nat

/-!
# The budgets of the business mail

The sending time of a delivery is when its transaction began, and the transactions are counted in
the order in which they obtain the lock. A reservation counts the deliveries from the beginning of
its own hour and of its own day on, later ones included: at least all those of its hour and of its
day (`CrmYnov.BusinessMail.inWindow_sublist`). Whatever the order of the times, no window holds
more than its budget; and what was sent of a follow-up after the interval of a warning began,
even later than the warning, holds it back.
-/

namespace CrmYnov.BusinessMail

open List

/-- The deliveries whose sending time is in a window: the `n`th hour, or day, of the epoch. -/
def inWindow (span n : ℤ) (rows : List DeliveryRow) : List DeliveryRow :=
  rows.filter fun row => row.sendingAt / span = n

/-- No hour and no day has more messages, or more recipients, than its budget. -/
structure WithinBudget (limits : MailSendingLimits) (rows : List DeliveryRow) : Prop where
  messagesPerHour : ∀ n, ((inWindow hour n rows).length : ℤ) ≤ limits.messagesPerHour
  messagesPerDay : ∀ n, ((inWindow day n rows).length : ℤ) ≤ limits.messagesPerDay
  recipientsPerHour : ∀ n, (recipientCount (inWindow hour n rows) : ℤ) ≤ limits.recipientsPerHour
  recipientsPerDay : ∀ n, (recipientCount (inWindow day n rows) : ℤ) ≤ limits.recipientsPerDay

/-- The interval of a warning separates it from every mail of the follow-up that was reserved
before: the deliveries are in the order of the reservations. -/
def Spaced (limits : MailSendingLimits) (rows : List DeliveryRow) : Prop :=
  rows.Pairwise fun a b => a.resourceId = b.resourceId → a.eventType.OfFollowUp →
    b.eventType = .FOLLOW_UP_OVERDUE →
    a.sendingAt + limits.warningIntervalHours * hour ≤ b.sendingAt

/-! ### What a reservation counts -/

variable {limits : MailSendingLimits} {rows : List DeliveryRow} {now : ℤ}

theorem windowStart_le {span t n : ℤ} (hspan : 0 < span) (h : t / span = n) : n * span ≤ t :=
  h ▸ Int.ediv_mul_le t hspan.ne'

/-- **What is in the hour of a reservation is counted**, and what is in its day. -/
theorem inWindow_sublist (rows : List DeliveryRow) (now : ℤ) :
    (inWindow hour (now / hour) rows).Sublist
        (sentSince (windowStart hour now) (sentSince (windowStart day now) rows)) ∧
      (inWindow day (now / day) rows).Sublist (sentSince (windowStart day now) rows) := by
  constructor
  · rw [sentSince, sentSince, filter_filter]
    refine monotone_filter_right rows fun row hrow => ?_
    have hhour : windowStart hour now ≤ row.sendingAt :=
      windowStart_le (by decide) (by simpa using hrow)
    have hday : windowStart day now ≤ windowStart hour now := by
      simp only [windowStart, day, hour]
      omega
    simpa using ⟨hhour, hday.trans hhour⟩
  · refine monotone_filter_right rows fun row hrow => ?_
    have hday : windowStart day now ≤ row.sendingAt :=
      windowStart_le (by decide) (by simpa using hrow)
    simpa using hday

theorem recipientCount_le {l l' : List DeliveryRow} (h : l.Sublist l') :
    recipientCount l ≤ recipientCount l' := (h.map _).sum_le_sum fun _ _ => Nat.zero_le _

@[simp] theorem recipientCount_append (l l' : List DeliveryRow) :
    recipientCount (l ++ l') = recipientCount l + recipientCount l' := by
  simp [recipientCount]

theorem inWindow_snoc (span n : ℤ) (row : DeliveryRow) :
    inWindow span n (rows ++ [row]) =
      inWindow span n rows ++ if row.sendingAt / span = n then [row] else [] := by
  rw [inWindow, filter_append]
  congr 1
  by_cases h : row.sendingAt / span = n <;> simp [h]

/-- **A delivery that is reserved within the budgets.** -/
theorem WithinBudget.reserve (h : WithinBudget limits rows) {input : MailJournalInput}
    (hquota : ¬BudgetReached limits rows input.recipientSnapshots.length now) (token : String) :
    WithinBudget limits (rows ++ [deliveryOf input token now]) := by
  simp only [BudgetReached, not_or, not_le, not_lt] at hquota
  obtain ⟨hhour, hday, hhour', hday'⟩ := hquota
  obtain ⟨hsubhour, hsubday⟩ := inWindow_sublist rows now
  have hrow : (deliveryOf input token now).sendingAt = now := rfl
  have hcount : recipientCount [deliveryOf input token now] = input.recipientSnapshots.length := by
    simp [recipientCount, deliveryOf]
  refine ⟨fun n => ?_, fun n => ?_, fun n => ?_, fun n => ?_⟩
  · rw [inWindow_snoc, hrow]
    by_cases hn : now / hour = n
    · subst hn
      rw [if_pos rfl, length_append, length_singleton]
      have := hsubhour.length_le
      omega
    · rw [if_neg hn, append_nil]
      exact h.messagesPerHour n
  · rw [inWindow_snoc, hrow]
    by_cases hn : now / day = n
    · subst hn
      rw [if_pos rfl, length_append, length_singleton]
      have := hsubday.length_le
      omega
    · rw [if_neg hn, append_nil]
      exact h.messagesPerDay n
  · rw [inWindow_snoc, hrow]
    by_cases hn : now / hour = n
    · subst hn
      rw [if_pos rfl, recipientCount_append, hcount]
      have := recipientCount_le hsubhour
      omega
    · rw [if_neg hn, append_nil]
      exact h.recipientsPerHour n
  · rw [inWindow_snoc, hrow]
    by_cases hn : now / day = n
    · subst hn
      rw [if_pos rfl, recipientCount_append, hcount]
      have := recipientCount_le hsubday
      omega
    · rw [if_neg hn, append_nil]
      exact h.recipientsPerDay n

/-- **A warning that nothing holds back** is separated from what was sent before. -/
theorem Spaced.reserve (h : Spaced limits rows) {input : MailJournalInput}
    (hquota : input.eventType = .FOLLOW_UP_OVERDUE →
      ¬WarnedRecently limits rows input.resourceId now) (token : String) :
    Spaced limits (rows ++ [deliveryOf input token now]) := by
  refine pairwise_append.mpr ⟨h, pairwise_singleton _ _, fun a ha b hb => ?_⟩
  obtain rfl := mem_singleton.mp hb
  intro hresource hfollowUp hoverdue
  by_contra hlt
  refine hquota hoverdue ⟨a, ha, hresource, hfollowUp, ?_⟩
  have hsent : (deliveryOf input token now).sendingAt = now := rfl
  rw [hsent] at hlt
  omega

/-! ### What settles a delivery -/

section Map

variable {f : DeliveryRow → DeliveryRow} (hf : ∀ row, (f row).identity = row.identity)

include hf

theorem sendingAt_eq (row : DeliveryRow) : (f row).sendingAt = row.sendingAt := by
  have h := hf row
  simp only [DeliveryRow.identity, Prod.mk.injEq] at h
  exact h.2.2.2.2.2.2.2

theorem inWindow_map (span n : ℤ) : inWindow span n (rows.map f) = (inWindow span n rows).map f := by
  rw [inWindow, filter_map, inWindow]
  congr 1
  refine filter_congr fun row _ => ?_
  simp [sendingAt_eq hf row]

theorem recipientCount_map : recipientCount (rows.map f) = recipientCount rows := by
  rw [recipientCount, map_map, recipientCount]
  congr 1
  refine map_congr_left fun row _ => ?_
  have h := hf row
  simp only [DeliveryRow.identity, Prod.mk.injEq] at h
  simp [h.2.2.2.2.2.1]

theorem WithinBudget.map (h : WithinBudget limits rows) : WithinBudget limits (rows.map f) := by
  constructor <;> intro n <;> rw [inWindow_map hf]
  · simpa using h.messagesPerHour n
  · simpa using h.messagesPerDay n
  · rw [recipientCount_map hf]
    exact h.recipientsPerHour n
  · rw [recipientCount_map hf]
    exact h.recipientsPerDay n

theorem Spaced.map (h : Spaced limits rows) : Spaced limits (rows.map f) := by
  refine pairwise_map.mpr (h.imp fun {a b} hab hresource hfollowUp hoverdue => ?_)
  have ha := hf a
  have hb := hf b
  simp only [DeliveryRow.identity, Prod.mk.injEq] at ha hb
  rw [sendingAt_eq hf, sendingAt_eq hf]
  exact hab (ha.2.2.1 ▸ hb.2.2.1 ▸ hresource) (ha.2.1 ▸ hfollowUp) (hb.2.1 ▸ hoverdue)

end Map

/-- **A statement of the journal keeps the budgets.** -/
theorem Step.withinBudget {t t' : Deliveries} (h : Step (fun input => input.limits = limits) t t')
    (hbudget : WithinBudget limits t.rows ∧ Spaced limits t.rows) :
    WithinBudget limits t'.rows ∧ Spaced limits t'.rows := by
  cases h with
  | same => exact hbudget
  | @settled p _ f hf h =>
    have hidentity : ∀ row, (if p row then f row else row).identity = row.identity := by
      intro row
      split
      · rename_i hp
        exact (h row hp).2.2
      · rfl
    exact ⟨hbudget.1.map hidentity, hbudget.2.map hidentity⟩
  | reserved input token now hinput hquota hcreate =>
    rw [Table.create_rows hcreate]
    simp only [quotaHold, hinput] at hquota
    split at hquota
    · cases hquota
    · rename_i hreached
      split at hquota
      · cases hquota
      · rename_i hwarned
        exact ⟨hbudget.1.reserve hreached token,
          hbudget.2.reserve (fun hoverdue hrecent => hwarned ⟨hoverdue, hrecent⟩) token⟩

/-! ### Every run -/

def UnderLimits (limits : MailSendingLimits) : MailAction → Prop
  | .start _ input _ => input.limits = limits
  | _ => True

/-- The emissions are under the limits, and so are the deliveries. -/
structure Outbound.Bounded (limits : MailSendingLimits) (w : Outbound) : Prop where
  inputs : ∀ i e, w.emissions i = some e → e.input.limits = limits
  deliveries : WithinBudget limits w.deliveries.rows ∧ Spaced limits w.deliveries.rows

theorem Outbound.Bounded.next {w : Outbound} (h : w.Bounded limits) {a : MailAction}
    (ha : UnderLimits limits a) : (w.next a).Bounded limits := by
  refine ⟨fun i e he => ?_, (step_next w h.inputs a).withinBudget h.deliveries⟩
  rcases input_next he with ⟨e', he', hinput⟩ | ⟨token, rfl⟩
  · exact hinput ▸ h.inputs i e' he'
  · exact ha

/-- **The budgets hold**: with limits that do not change, in every run of any number of emissions
whose transactions begin at any times, no hour and no day has more messages or recipients than its
budget, and a warning is separated by its interval from what was reserved before of the same
follow-up. -/
theorem within_budget (hlimits : limits.Valid) (as : List MailAction)
    (h : ∀ a ∈ as, UnderLimits limits a) :
    mailMachine.Throughout
      (fun w => WithinBudget limits w.deliveries.rows ∧ Spaced limits w.deliveries.rows) .empty as := by
  have hinit : Outbound.Bounded limits .empty := by
    obtain ⟨hh, hd, hrh, hrd, -⟩ := hlimits
    refine ⟨(by intro i e he; cases he), ⟨fun n => ?_, fun n => ?_, fun n => ?_, fun n => ?_⟩,
      Pairwise.nil⟩
    · exact (show (0 : ℤ) ≤ limits.messagesPerHour by omega)
    · exact (show (0 : ℤ) ≤ limits.messagesPerDay by omega)
    · exact (show (0 : ℤ) ≤ limits.recipientsPerHour by omega)
    · exact (show (0 : ℤ) ≤ limits.recipientsPerDay by omega)
  have hbounded := Machine.throughout_of_meets (M := mailMachine) (I := Outbound.Bounded limits)
    (fun w a hw ha => hw.next ha) hinit (Machine.meets_of_forall _ h)
  exact fun pre hpre => (hbounded pre hpre).deliveries

namespace Sample

def hourly : MailSendingLimits := ⟨1, 24, 10, 240, 24⟩

def input (digit : Char) (eventType : MailType) : MailJournalInput where
  key := String.ofList (replicate 64 digit)
  eventType := eventType
  resourceId := "follow-up-1"
  templateVersion := "fr-v1"
  fingerprint := String.ofList (replicate 64 'f')
  recipientSnapshots := [⟨1, "user-1", "ada@school.example", .TO, "campus-1", none⟩]
  limits := hourly

/-- Two emissions: the second transaction began first, and obtains the lock later. -/
def crossed : List MailAction :=
  [.start 0 (input '0' .FOLLOW_UP_DUE) "token-0", .start 1 (input '1' .RETURN_EXPECTED) "token-1",
    .proceed 0 { now := hour }, .proceed 1 { now := hour - 1 }]

end Sample

/-- Mails of two hours, reserved in the other order. -/
theorem within_budget_crossed :
    mailMachine.Throughout (fun w => WithinBudget Sample.hourly w.deliveries.rows ∧
      Spaced Sample.hourly w.deliveries.rows) .empty Sample.crossed :=
  within_budget (by decide) Sample.crossed (by
    intro a ha
    simp only [Sample.crossed, mem_cons, not_mem_nil, or_false] at ha
    rcases ha with rfl | rfl | rfl | rfl <;> trivial)

end CrmYnov.BusinessMail
