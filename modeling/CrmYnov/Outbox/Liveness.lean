import CrmYnov.Base.Page
import CrmYnov.Outbox.Workers
import Mathlib.Data.Prod.Lex
import Mathlib.Data.String.Basic

/-!
# When a claim serves a live event

A claim reads a page of twice the number of events it may take, and skips on the
page the events that have no attempt left. Such an event is due forever: its
status is `FAILED`, or `PROCESSING` under a lease that expired, and nothing
changes it any more. It keeps its place in the order of the page, so that a page
can consist of nothing else while a live event waits behind it
(`CrmYnov.Outbox.claim_starves`).

A claim serves some live event exactly when one of them has room on the page
behind the spent events that stand before it (`CrmYnov.Outbox.claim_serves_iff`).
-/

namespace CrmYnov.Outbox

open Js Checked List

variable (now staleBefore : Instant)

/-- The event can be taken now and has an attempt left. -/
def Live (e : OutboxEvent) : Prop :=
  Due now staleBefore e ∧ e.attempts < e.maxAttempts
deriving Decidable

variable (s : Store)

variable (e : OutboxEvent)

/-- How many spent events stand before an event among those that are due. -/
def spentBefore : ℕ :=
  s.count fun x => Due now staleBefore x ∧ x.maxAttempts ≤ x.attempts ∧ Precedes x e

/-! ### The order of the page -/

/-- The columns a page is ordered by. -/
def OutboxEvent.rank : ℤ ×ₗ ℤ ×ₗ String :=
  toLex (e.availableAt, toLex (e.createdAt, e.id))

theorem precedes_iff (e e' : OutboxEvent) : Precedes e e' ↔ e.rank < e'.rank := by
  simp only [Precedes, OutboxEvent.rank, Prod.Lex.toLex_lt_toLex]

theorem rows_pairwise : s.rows.Pairwise fun e e' => e.rank ≠ e'.rank := by
  refine s.distinct.imp fun {e e'} hkeys hrank => ?_
  have hid : e.id = e'.id := congrArg (fun r => (ofLex (ofLex r).2).2) hrank
  exact hkeys (mem_keys_id.mpr rfl) (mem_keys_id.mpr hid.symm)

theorem dueInOrder_pairwise : (dueInOrder now staleBefore s).Pairwise Precedes :=
  Page.pairwise_lt_insertionSort OutboxEvent.rank precedes_iff ((rows_pairwise s).filter _)

theorem length_rejectedBefore :
    (Page.rejectedBefore (fun x => x.attempts < x.maxAttempts) Precedes
      (dueInOrder now staleBefore s) e).length = spentBefore now staleBefore s e := by
  have hperm := (perm_insertionSort (fun e e' => ¬Precedes e' e)
    (s.findMany (Due now staleBefore))).filter
    fun x => decide (¬x.attempts < x.maxAttempts ∧ Precedes x e)
  rw [Page.rejectedBefore, dueInOrder, hperm.length_eq, spentBefore, Table.count, Table.findMany,
    Table.findMany, filter_filter]
  congr 1
  refine filter_congr fun x _ => ?_
  by_cases hdue : Due now staleBefore x <;> simp [hdue]

/-! ### The loop on the page -/

theorem claimLoop_ne_nil {workerId : String} {limit : ℕ} {now : Instant}
    (page : List OutboxEvent) {claimed : List OutboxEvent} (h : claimed ≠ []) (s : Store) :
    (claimLoop workerId limit now page claimed s).1 ≠ [] := by
  induction page generalizing claimed s with
  | nil => exact h
  | cons item rest ih =>
    simp only [claimLoop]
    split
    · exact h
    split
    · exact ih h s
    split
    · exact ih (append_ne_nil_of_left_ne_nil h _) _
    · exact ih h _

/-- **The loop serves an event exactly when its page holds a live one.** Spent
candidates leave the table as it was, so the first live one is still as it was
read. -/
theorem claimLoop_serves_iff {limit : ℕ} (hlimit : 1 ≤ limit) {page : List OutboxEvent}
    {s : Store} (hpage : ∀ e ∈ page, e ∈ s.rows) (workerId : String) (now : Instant) :
    (claimLoop workerId limit now page [] s).1 ≠ [] ↔ ∃ e ∈ page, e.attempts < e.maxAttempts := by
  induction page with
  | nil => simp [claimLoop]
  | cons item rest ih =>
    have hroom : ¬limit ≤ ([] : List OutboxEvent).length := Nat.not_le.mpr hlimit
    have hrest := ih fun e he => hpage e (mem_cons_of_mem _ he)
    by_cases hspent : item.maxAttempts ≤ item.attempts
    · simp only [claimLoop, if_neg hroom, if_pos hspent, hrest, mem_cons, exists_eq_or_imp,
        Nat.not_lt.mpr hspent, false_or]
    · have hmem : item ∈ s.rows := hpage item (mem_cons_self ..)
      have htaken : Taken item s := taken_iff.mpr ⟨item, hmem, rfl, rfl, rfl, fun _ => rfl⟩
      have hfind : find (takeLease workerId now item s) item.id =
          some (item.lease workerId now) := by
        rw [takeLease, find_updateMany, find_eq_some.mpr ⟨hmem, rfl⟩]
        simp [Unchanged]
      simp only [claimLoop, if_neg hroom, if_neg hspent, if_pos htaken, hfind]
      refine iff_of_true (claimLoop_ne_nil rest (by simp) _) ⟨item, by simp, ?_⟩
      exact Nat.lt_of_not_le hspent

/-! ### When a claim serves -/

def Serves (workerId : String) (limit : ℤ) (now leaseMs : Instant) (s : Store) : Prop :=
  ∃ e claimed s', claim workerId limit now leaseMs s = .ok (e :: claimed, s')

theorem serves_iff {workerId : String} {limit : ℤ} {now leaseMs : Instant} {s : Store}
    (hlimit : 1 ≤ limit) :
    Serves workerId limit now leaseMs s ↔ isWorkerId workerId ∧ limit ≤ 100 ∧
      ∃ e ∈ candidates limit.toNat now (now - leaseMs) s, e.attempts < e.maxAttempts := by
  have hrows : ∀ e ∈ candidates limit.toNat now (now - leaseMs) s, e ∈ s.rows :=
    fun e he => (mem_rows_of_mem_candidates he).1
  have hroom : 1 ≤ limit.toNat := by omega
  rw [← claimLoop_serves_iff hroom hrows workerId now]
  simp only [Serves, claim, openClaim, bind_assoc, pure_bind, ok_iff]
  constructor
  · rintro ⟨e, claimed, s', -, ⟨hid, -, hmax⟩, hrun⟩
    exact ⟨hid, hmax, by rw [hrun]; simp⟩
  · rintro ⟨hid, hmax, hne⟩
    obtain ⟨e, claimed, hcons⟩ := exists_cons_of_ne_nil hne
    exact ⟨e, claimed, _, (), ⟨hid, hlimit, hmax⟩, Prod.ext hcons rfl⟩

/-- **When a claim serves.** A claim for one event or more serves one whenever a
live event waits, exactly when no live event waits or the call is admitted and
some live event has fewer spent events before it than the page has room for. -/
theorem claim_serves_iff (workerId : String) (limit : ℤ) (hlimit : 1 ≤ limit)
    (now leaseMs : Instant) (s : Store) :
    ((∃ e ∈ s.rows, Live now (now - leaseMs) e) → Serves workerId limit now leaseMs s) ↔
      (¬∃ e ∈ s.rows, Live now (now - leaseMs) e) ∨ (isWorkerId workerId ∧ limit ≤ 100 ∧
        ∃ e ∈ s.rows, Live now (now - leaseMs) e ∧
          spentBefore now (now - leaseMs) s e < limit.toNat * 2) := by
  have hasymm : ∀ a b, Precedes a b → ¬Precedes b a := fun a b => by
    simpa only [precedes_iff] using fun h => lt_asymm h
  have hpage := Page.exists_mem_take_iff (p := fun x => x.attempts < x.maxAttempts) hasymm
    (dueInOrder_pairwise now (now - leaseMs) s) (limit.toNat * 2)
  simp only [length_rejectedBefore, mem_dueInOrder] at hpage
  rw [serves_iff hlimit, candidates, hpage]
  simp only [Live, and_assoc]
  exact imp_iff_not_or

/-! ### A run that starves -/

/-- An event that may be tried once. -/
def singleAttempt (idempotencyKey : String) : OutboxInput where
  topic := "LEAD.CREATED"
  aggregateType := "LEAD"
  aggregateId := "lead-1"
  idempotencyKey := idempotencyKey
  payload := .obj [("operation", .str "CREATE")]
  maxAttempts := some 1

/-- A live event is served when nothing stands before it. -/
theorem claim_serves_single :
    Serves "worker-1" 1 6000 30000
      ((workers fun v => v).run .init [.enqueue (singleAttempt "lead-event-a") "a" 0]).store :=
  (claim_serves_iff "worker-1" 1 (by decide) 6000 30000 _).mpr
    (.inr (by decide)) (by decide)

/-- Two events whose only attempt fails, and a third one enqueued afterwards. -/
def starvingRun : List Statement :=
  [.enqueue (singleAttempt "lead-event-a") "a" 0, .enqueue (singleAttempt "lead-event-b") "b" 0,
    .claim 0 "worker-1" 2 10 30000, .advance 0, .advance 0, .advance 0,
    .failed 1 "a" "worker-1" "handler_failed" 20, .settle 1,
    .failed 2 "b" "worker-1" "handler_failed" 20, .settle 2,
    .enqueue (singleAttempt "lead-event-c") "c" 5000]

/-- **A claim can starve**: in a state the workers reach, a live event waits and
a claim for one event returns none. -/
theorem claim_starves :
    (∃ e ∈ ((workers fun v => v).run .init starvingRun).store.rows, Live 6000 (6000 - 30000) e) ∧
    ¬Serves "worker-1" 1 6000 30000 ((workers fun v => v).run .init starvingRun).store := by
  refine ⟨by decide, ?_⟩
  rw [serves_iff (by decide)]
  decide

end CrmYnov.Outbox
