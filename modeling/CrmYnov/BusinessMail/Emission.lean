import CrmYnov.Base.Machine
import CrmYnov.BusinessMail.Journal
import Mathlib.Logic.Function.Basic

/-!
# A mail is sent at most once

Any number of workers send mails. Each emission reserves a delivery, checks that its transaction
still holds, calls the provider, and confirms the delivery or gives it up; it may end at any of
these points, and its reservation may be committed without being answered. Meanwhile what was
interrupted is given up by others, even a delivery whose emission goes on.

A delivery is never taken away and its key is never free again, so that the emission that made it
is the only one that ever calls the provider for this key
(`CrmYnov.BusinessMail.Outbound.Safe`).
-/

namespace CrmYnov.BusinessMail

open Function List

/-! ### Emissions -/

inductive EmissionStage
  | reserving
  /-- The reservation is committed and answered. -/
  | probing
  | transporting
  | confirming (providerMessageId : String)
  | givingUp (code : UncertaintyCode)
  | ended

/-- An emission: what it sends, the token it draws, and how far it has come. -/
structure Emission where
  input : MailJournalInput
  token : String
  stage : EmissionStage

/-- The emission is the one that reserved the delivery, and has not called the provider. -/
def Emission.Holds (e : Emission) : Prop := e.stage = .probing ∨ e.stage = .transporting

structure ProviderCall where
  (key token : String)

/-- The journal, the emissions of all workers, and the calls that were made. -/
structure Outbound where
  deliveries : Deliveries
  emissions : ℕ → Option Emission
  calls : List ProviderCall

inductive TransactionEnd
  | answered
  /-- It is committed, and its answer is lost. -/
  | unanswered
  | failed
deriving DecidableEq

structure EmissionCircumstance where
  now : ℤ := 0
  /-- How the transaction of the stage ends. -/
  transaction : TransactionEnd := .answered
  /-- The outer transaction still holds and no deadline has passed. -/
  alive : Bool := true
  /-- What the provider answers, when its answer arrives. -/
  answer : Option String := none

inductive MailAction
  /-- A worker begins an emission. -/
  | start (i : ℕ) (input : MailJournalInput) (token : String)
  | proceed (i : ℕ) (c : EmissionCircumstance)
  /-- The worker ends. -/
  | crash (i : ℕ)
  /-- What was interrupted is given up. -/
  | recover (olderThan : ℤ) (limit : ℕ) (locked : List String) (now : ℤ)

namespace Outbound

variable (w : Outbound)

variable (i : ℕ) (e : Emission)

def goto (stage : EmissionStage) : Outbound :=
  { w with emissions := update w.emissions i (some { e with stage }) }

variable (c : EmissionCircumstance)

/-- The reservation of `emit`. -/
def reserve : Outbound :=
  match c.transaction, reserveSending w.deliveries e.input e.token c.now with
  | .failed, _ => w.goto i e .ended
  | _, .error _ => w.goto i e .ended
  | .answered, .ok (.reserved _, deliveries) => { w with deliveries }.goto i e .probing
  | _, .ok (_, deliveries) => { w with deliveries }.goto i e .ended

/-- The confirmation of `emit`. -/
def confirm (providerMessageId : String) (c : EmissionCircumstance) : Outbound :=
  match c.transaction, accepted w.deliveries e.input.key e.token providerMessageId c.now with
  | .failed, _ => w.goto i e (.givingUp .ACCEPTANCE_COMMIT_UNCONFIRMED)
  | _, .error _ => w.goto i e (.givingUp .ACCEPTANCE_COMMIT_UNCONFIRMED)
  | .answered, .ok (true, deliveries) => { w with deliveries }.goto i e .ended
  | _, .ok (_, deliveries) =>
    { w with deliveries }.goto i e (.givingUp .ACCEPTANCE_COMMIT_UNCONFIRMED)

/-- The end of `emit`, when the emission is not confirmed. -/
def giveUp (code : UncertaintyCode) (c : EmissionCircumstance) : Outbound :=
  match c.transaction, uncertain w.deliveries e.input.key e.token code c.now with
  | .failed, _ => w.goto i e .ended
  | _, .error _ => w.goto i e .ended
  | _, .ok (_, deliveries) => { w with deliveries }.goto i e .ended

def transport : Outbound :=
  { w with calls := w.calls ++ [ProviderCall.mk e.input.key e.token] }.goto i e
    (match c.answer with
    | some providerMessageId => .confirming providerMessageId
    | none => .givingUp .TRANSPORT_UNCONFIRMED)

/-- `emit`, one stage at a time. -/
def proceed : Outbound :=
  match e.stage with
  | .reserving => w.reserve i e c
  | .probing => w.goto i e (if c.alive then .transporting else .givingUp .TRANSPORT_UNCONFIRMED)
  | .transporting => w.transport i e c
  | .confirming providerMessageId => w.confirm i e providerMessageId c
  | .givingUp code => w.giveUp i e code c
  | .ended => w

def next (a : MailAction) : Outbound :=
  match a with
  | .start i input token =>
    if w.emissions i = none then
      { w with emissions := update w.emissions i (some ⟨input, token, .reserving⟩) }
    else w
  | .proceed i c =>
    match w.emissions i with
    | some e => w.proceed i e c
    | none => w
  | .crash i =>
    match w.emissions i with
    | some e => w.goto i e .ended
    | none => w
  | .recover olderThan limit locked now =>
    match retainInterrupted w.deliveries olderThan limit locked now with
    | .ok deliveries => { w with deliveries }
    | .error _ => w

def empty : Outbound := ⟨Table.empty, fun _ => none, []⟩

end Outbound

def mailMachine : Machine Outbound MailAction Unit := ⟨fun w a => ((), w.next a)⟩

/-! ### What a step keeps -/

def Reserved (t : Deliveries) (key token : String) : Prop :=
  ∃ row ∈ t.rows, row.key = key ∧ row.sendingToken = token

theorem Reserved.grows {t t' : Deliveries} {key token : String} (h : Reserved t key token)
    (hgrows : t.Grows Settles t') : Reserved t' key token := by
  obtain ⟨row, hrow, hkey, htoken⟩ := h
  obtain ⟨row', hrow', rfl | ⟨-, -, hidentity⟩⟩ := hgrows row hrow
  · exact ⟨row', hrow', hkey, htoken⟩
  · simp only [DeliveryRow.identity, Prod.mk.injEq] at hidentity
    exact ⟨row', hrow', hidentity.1.trans hkey, hidentity.2.2.2.2.2.2.1.trans htoken⟩

namespace Outbound

variable {w : Outbound} {i : ℕ} {e : Emission}

/-- The invariant of the emissions: what is held or was called is reserved, a key is held by one
emission at most, and the emission that holds it has not called the provider. -/
structure Safe (w : Outbound) : Prop where
  held : ∀ i e, w.emissions i = some e → e.Holds → Reserved w.deliveries e.input.key e.token
  called : ∀ call ∈ w.calls, Reserved w.deliveries call.key call.token
  alone : ∀ i j e e', w.emissions i = some e → w.emissions j = some e' → e.Holds → e'.Holds →
    e.input.key = e'.input.key → i = j
  fresh : ∀ i e, w.emissions i = some e → e.Holds → ∀ call ∈ w.calls, call.key ≠ e.input.key
  once : (w.calls.map ProviderCall.key).Nodup

variable {stage : EmissionStage}

theorem not_holds (h : stage ≠ .probing ∧ stage ≠ .transporting) :
    ¬({ e with stage } : Emission).Holds := fun hholds => hholds.elim h.1 h.2

theorem emissions_goto {j : ℕ} {e' : Emission} (h : (w.goto i e stage).emissions j = some e') :
    (j = i ∧ e' = { e with stage }) ∨ (j ≠ i ∧ w.emissions j = some e') := by
  have h' : update w.emissions i (some { e with stage }) j = some e' := h
  by_cases hj : j = i
  · subst hj
    rw [update_self] at h'
    exact .inl ⟨rfl, (Option.some.inj h').symm⟩
  · rw [update_of_ne hj] at h'
    exact .inr ⟨hj, h'⟩

namespace Safe

theorem grow (h : w.Safe) {deliveries : Deliveries} {P : MailJournalInput → Prop}
    (hstep : Step P w.deliveries deliveries) : Safe { w with deliveries } :=
  ⟨fun i e he hholds => (h.held i e he hholds).grows hstep.grows,
    fun call hcall => (h.called call hcall).grows hstep.grows, h.alone, h.fresh, h.once⟩

theorem goto (h : w.Safe) (he : w.emissions i = some e)
    (hstage : ({ e with stage } : Emission).Holds → e.Holds) : (w.goto i e stage).Safe := by
  have hback : ∀ j e', (w.goto i e stage).emissions j = some e' → e'.Holds →
      ∃ e'', w.emissions j = some e'' ∧ e''.Holds ∧ e''.input = e'.input ∧
        e''.token = e'.token := by
    intro j e' he' hholds
    rcases emissions_goto he' with ⟨rfl, rfl⟩ | ⟨-, he'⟩
    · exact ⟨e, he, hstage hholds, rfl, rfl⟩
    · exact ⟨e', he', hholds, rfl, rfl⟩
  refine ⟨fun j e' he' hholds => ?_, h.called, fun j k e' e'' he' he'' hh' hh'' hkey => ?_,
    fun j e' he' hholds call hcall => ?_, h.once⟩
  · obtain ⟨e'', he'', hh, hinput, htoken⟩ := hback j e' he' hholds
    exact hinput ▸ htoken ▸ h.held j e'' he'' hh
  · obtain ⟨f, hf, hhf, hinput, -⟩ := hback j e' he' hh'
    obtain ⟨g, hg, hhg, hinput', -⟩ := hback k e'' he'' hh''
    exact h.alone j k f g hf hg hhf hhg (by rw [hinput, hinput', hkey])
  · obtain ⟨e'', he'', hh, hinput, -⟩ := hback j e' he' hholds
    exact hinput ▸ h.fresh j e'' he'' hh call hcall

theorem release (h : w.Safe) (he : w.emissions i = some e)
    (hstage : stage ≠ .probing ∧ stage ≠ .transporting) : (w.goto i e stage).Safe :=
  h.goto he fun hholds => absurd hholds (not_holds hstage)

/-- **A reservation is made by one emission**: its key was free. -/
theorem reserved (h : w.Safe) {deliveries : Deliveries} {now : ℤ}
    (hfree : w.deliveries.findUnique (.key e.input.key) = none)
    (hcreate : w.deliveries.create (deliveryOf e.input e.token now) = some deliveries) :
    (Outbound.goto { w with deliveries } i e .probing).Safe := by
  have hgrows : w.deliveries.Grows Settles deliveries := .of_create hcreate
  -- what is held or was called is under another key
  have hother : ∀ {key token : String}, Reserved w.deliveries key token → key ≠ e.input.key := by
    rintro key token ⟨row, hrow, rfl, -⟩ hkey
    exact Table.findUnique_eq_none.mp hfree row hrow (by simp [DeliveryRow.keys, hkey])
  have hnew : Reserved deliveries e.input.key e.token :=
    ⟨_, (Table.mem_create hcreate).mpr (.inr rfl), rfl, rfl⟩
  refine ⟨fun j e' he' hholds => ?_, fun call hcall => (h.called call hcall).grows hgrows,
    fun j k e' e'' he' he'' hh' hh'' hkey => ?_, fun j e' he' hholds call hcall => ?_, h.once⟩
  · rcases emissions_goto he' with ⟨-, rfl⟩ | ⟨-, he'⟩
    · exact hnew
    · exact (h.held j e' he' hholds).grows hgrows
  · rcases emissions_goto he' with ⟨rfl, rfl⟩ | ⟨-, he'⟩
    · rcases emissions_goto he'' with ⟨rfl, -⟩ | ⟨-, he''⟩
      · rfl
      · exact absurd hkey.symm (hother (h.held k e'' he'' hh''))
    · rcases emissions_goto he'' with ⟨-, rfl⟩ | ⟨-, he''⟩
      · exact absurd hkey (hother (h.held j e' he' hh'))
      · exact h.alone j k e' e'' he' he'' hh' hh'' hkey
  · rcases emissions_goto he' with ⟨-, rfl⟩ | ⟨-, he'⟩
    · exact hother (h.called call hcall)
    · exact h.fresh j e' he' hholds call hcall

/-- **The provider is called** by the emission that holds the delivery, which then holds it no
more. -/
theorem transport (h : w.Safe) (he : w.emissions i = some e) (hholds : e.Holds)
    (c : EmissionCircumstance) : (w.transport i e c).Safe := by
  rw [Outbound.transport]
  generalize hstage : (match c.answer with
    | some providerMessageId => EmissionStage.confirming providerMessageId
    | none => .givingUp .TRANSPORT_UNCONFIRMED) = stage
  have hne : stage ≠ .probing ∧ stage ≠ .transporting := by
    subst hstage
    cases c.answer <;> exact ⟨by simp, by simp⟩
  have hkept : ∀ j e', (Outbound.goto { w with calls := w.calls ++ [ProviderCall.mk e.input.key e.token] } i e
      stage).emissions j = some e' → e'.Holds → j ≠ i ∧ w.emissions j = some e' := by
    intro j e' he' hh
    rcases emissions_goto he' with ⟨rfl, rfl⟩ | hold
    · exact absurd hh (not_holds hne)
    · exact hold
  refine ⟨fun j e' he' hh => h.held j e' (hkept j e' he' hh).2 hh, fun call hcall => ?_,
    fun j k e' e'' he' he'' hh' hh'' hkey => h.alone j k e' e'' (hkept j e' he' hh').2
      (hkept k e'' he'' hh'').2 hh' hh'' hkey, fun j e' he' hh call hcall => ?_, ?_⟩
  · rcases mem_append.mp hcall with hcall | hcall
    · exact h.called call hcall
    · rw [mem_singleton.mp hcall]
      exact h.held i e he hholds
  · obtain ⟨hj, he'⟩ := hkept j e' he' hh
    rcases mem_append.mp hcall with hcall | hcall
    · exact h.fresh j e' he' hh call hcall
    · rw [mem_singleton.mp hcall]
      exact fun hkey => hj (h.alone j i e' e he' he hh hholds hkey.symm)
  · show ((w.calls ++ [ProviderCall.mk e.input.key e.token]).map ProviderCall.key).Nodup
    rw [map_append, nodup_append]
    refine ⟨h.once, nodup_singleton _, fun a ha b hb hab => ?_⟩
    obtain ⟨call, hcall, rfl⟩ := mem_map.mp ha
    rw [map_singleton, mem_singleton] at hb
    exact h.fresh i e he hholds call hcall (hab.trans hb)

theorem reserve (h : w.Safe) (he : w.emissions i = some e) (c : EmissionCircumstance) :
    (w.reserve i e c).Safe := by
  rw [Outbound.reserve]
  split
  · exact h.release he (by simp)
  · exact h.release he (by simp)
  · rename_i hreserve
    obtain ⟨-, hfree, -, hcreate⟩ := reserveSending_ok hreserve
    exact h.reserved hfree hcreate
  · rename_i hreserve _ _
    exact (h.grow (P := fun _ => True) (reserveSending_step trivial hreserve)).release he (by simp)

theorem confirm (h : w.Safe) (he : w.emissions i = some e) (providerMessageId : String)
    (c : EmissionCircumstance) : (w.confirm i e providerMessageId c).Safe := by
  rw [Outbound.confirm]
  split
  · exact h.release he (by simp)
  · exact h.release he (by simp)
  · rename_i hacc
    exact (h.grow (P := fun _ => True) (accepted_step hacc)).release he (by simp)
  · rename_i hacc _ _
    exact (h.grow (P := fun _ => True) (accepted_step hacc)).release he (by simp)

theorem giveUp (h : w.Safe) (he : w.emissions i = some e) (code : UncertaintyCode)
    (c : EmissionCircumstance) : (w.giveUp i e code c).Safe := by
  rw [Outbound.giveUp]
  split
  · exact h.release he (by simp)
  · exact h.release he (by simp)
  · rename_i huncertain _
    exact (h.grow (P := fun _ => True) (uncertain_step huncertain)).release he (by simp)

theorem proceed (h : w.Safe) (he : w.emissions i = some e) (c : EmissionCircumstance) :
    (w.proceed i e c).Safe := by
  rw [Outbound.proceed]
  cases hstage : e.stage with
  | reserving => exact h.reserve he c
  | probing => exact h.goto he fun _ => .inl hstage
  | transporting => exact h.transport he (.inr hstage) c
  | confirming providerMessageId => exact h.confirm he providerMessageId c
  | givingUp code => exact h.giveUp he code c
  | ended => exact h

/-- **Every step keeps the emissions safe.** -/
theorem next (h : w.Safe) (a : MailAction) : (w.next a).Safe := by
  cases a with
  | start i input token =>
    rw [Outbound.next]
    split
    · -- the new emission holds nothing
      have hold : ∀ j e', (update w.emissions i (some ⟨input, token, .reserving⟩)) j =
          some e' → e'.Holds → w.emissions j = some e' := by
        intro j e' he' hh
        by_cases hj : j = i
        · subst hj
          rw [update_self] at he'
          cases he'
          rcases hh with hh | hh <;> cases hh
        · rwa [update_of_ne hj] at he'
      exact ⟨fun j e' he' hh => h.held j e' (hold j e' he' hh) hh, h.called,
        fun j k e' e'' he' he'' hh' hh'' => h.alone j k e' e'' (hold j e' he' hh')
          (hold k e'' he'' hh'') hh' hh'',
        fun j e' he' hh => h.fresh j e' (hold j e' he' hh) hh, h.once⟩
    · exact h
  | proceed i c =>
    rw [Outbound.next]
    cases he : w.emissions i with
    | none => exact h
    | some e => exact h.proceed he c
  | crash i =>
    rw [Outbound.next]
    cases he : w.emissions i with
    | none => exact h
    | some e => exact h.release he (by simp)
  | recover olderThan limit locked now =>
    rw [Outbound.next]
    split
    · rename_i hretain
      exact h.grow (P := fun _ => True) (retainInterrupted_step hretain)
    · exact h

end Safe

/-- **What a step does to the deliveries**: one statement of the journal, at most. -/
theorem step_next (w : Outbound) {P : MailJournalInput → Prop}
    (hP : ∀ i e, w.emissions i = some e → P e.input) (a : MailAction) :
    Step P w.deliveries (w.next a).deliveries := by
  cases a with
  | start i input token =>
    rw [Outbound.next]
    split <;> exact .same
  | proceed i c =>
    rw [Outbound.next]
    cases he : w.emissions i with
    | none => exact .same
    | some e =>
      show Step P w.deliveries (w.proceed i e c).deliveries
      rw [Outbound.proceed]
      cases e.stage with
      | reserving =>
        show Step P w.deliveries (w.reserve i e c).deliveries
        rw [Outbound.reserve]
        split
        · exact .same
        · exact .same
        · rename_i hreserve
          exact reserveSending_step (hP i e he) hreserve
        · rename_i hreserve _ _
          exact reserveSending_step (hP i e he) hreserve
      | probing => exact .same
      | transporting => exact .same
      | confirming providerMessageId =>
        show Step P w.deliveries (w.confirm i e providerMessageId c).deliveries
        rw [Outbound.confirm]
        split
        · exact .same
        · exact .same
        · rename_i hacc
          exact accepted_step hacc
        · rename_i hacc _ _
          exact accepted_step hacc
      | givingUp code =>
        show Step P w.deliveries (w.giveUp i e code c).deliveries
        rw [Outbound.giveUp]
        split
        · exact .same
        · exact .same
        · rename_i huncertain _
          exact uncertain_step huncertain
      | ended => exact .same
  | crash i =>
    rw [Outbound.next]
    cases w.emissions i <;> exact .same
  | recover olderThan limit locked now =>
    rw [Outbound.next]
    split
    · rename_i hretain
      exact retainInterrupted_step hretain
    · exact .same

theorem input_next {a : MailAction} {i : ℕ} {e : Emission} (h : (w.next a).emissions i = some e) :
    (∃ e', w.emissions i = some e' ∧ e'.input = e.input) ∨ ∃ token, a = .start i e.input token := by
  have hgoto : ∀ {w' : Outbound} {j : ℕ} {e₀ : Emission} {stage : EmissionStage},
      w'.emissions = w.emissions → w.emissions j = some e₀ →
      (w'.goto j e₀ stage).emissions i = some e →
      ∃ e', w.emissions i = some e' ∧ e'.input = e.input := by
    intro w' j e₀ stage hw' he₀ hgo
    rcases emissions_goto hgo with ⟨rfl, rfl⟩ | ⟨-, hold⟩
    · exact ⟨e₀, he₀, rfl⟩
    · exact ⟨e, hw' ▸ hold, rfl⟩
  cases a with
  | start j input token =>
    rw [Outbound.next] at h
    split at h
    · by_cases hj : i = j
      · subst hj
        have h' : update w.emissions i (some ⟨input, token, .reserving⟩) i = some e := h
        rw [update_self] at h'
        cases h'
        exact .inr ⟨token, rfl⟩
      · have h' : update w.emissions j (some ⟨input, token, .reserving⟩) i = some e := h
        rw [update_of_ne hj] at h'
        exact .inl ⟨e, h', rfl⟩
    · exact .inl ⟨e, h, rfl⟩
  | proceed j c =>
    left
    rw [Outbound.next] at h
    cases he₀ : w.emissions j with
    | none =>
      rw [he₀] at h
      exact ⟨e, h, rfl⟩
    | some e₀ =>
      rw [he₀] at h
      replace h : (w.proceed j e₀ c).emissions i = some e := h
      rw [Outbound.proceed] at h
      cases hstage : e₀.stage with
      | reserving =>
        simp only [hstage, Outbound.reserve] at h
        split at h <;> exact hgoto rfl he₀ h
      | probing =>
        simp only [hstage] at h
        exact hgoto rfl he₀ h
      | transporting =>
        simp only [hstage, Outbound.transport] at h
        exact hgoto rfl he₀ h
      | confirming providerMessageId =>
        simp only [hstage, Outbound.confirm] at h
        split at h <;> exact hgoto rfl he₀ h
      | givingUp code =>
        simp only [hstage, Outbound.giveUp] at h
        split at h <;> exact hgoto rfl he₀ h
      | ended =>
        simp only [hstage] at h
        exact ⟨e, h, rfl⟩
  | crash j =>
    left
    rw [Outbound.next] at h
    cases he₀ : w.emissions j with
    | none =>
      rw [he₀] at h
      exact ⟨e, h, rfl⟩
    | some e₀ =>
      rw [he₀] at h
      exact hgoto rfl he₀ h
  | recover olderThan limit locked now =>
    left
    rw [Outbound.next] at h
    split at h <;> exact ⟨e, h, rfl⟩

theorem settled_run {w : Outbound} {row : DeliveryRow} (hrow : row ∈ w.deliveries.rows)
    (hsettled : row.status ≠ .SENDING) (as : List MailAction) :
    row ∈ (mailMachine.run w as).deliveries.rows := by
  refine Machine.run_of_stable (M := mailMachine) (P := fun w => row ∈ w.deliveries.rows)
    (fun w a hmem => ?_) hrow as
  obtain ⟨row', hrow', rfl | ⟨hsending, -⟩⟩ :=
    (step_next w (P := fun _ => True) (fun _ _ _ => trivial) a).grows row hmem
  · exact hrow'
  · exact absurd hsending hsettled

theorem calls_proceed (w : Outbound) (i : ℕ) (e : Emission) (c : EmissionCircumstance) :
    (w.proceed i e c).calls = w.calls ∨
      e.stage = .transporting ∧ (w.proceed i e c).calls = w.calls ++ [⟨e.input.key, e.token⟩] := by
  rw [Outbound.proceed]
  cases hstage : e.stage with
  | reserving =>
    left
    show (w.reserve i e c).calls = w.calls
    rw [Outbound.reserve]
    split <;> rfl
  | probing => exact .inl rfl
  | transporting => exact .inr ⟨rfl, rfl⟩
  | confirming providerMessageId =>
    left
    show (w.confirm i e providerMessageId c).calls = w.calls
    rw [Outbound.confirm]
    split <;> rfl
  | givingUp code =>
    left
    show (w.giveUp i e code c).calls = w.calls
    rw [Outbound.giveUp]
    split <;> rfl
  | ended => exact .inl rfl

/-- **A call is made by an emission whose reservation is committed.** -/
theorem calls_next (h : w.Safe) (a : MailAction) {call : ProviderCall}
    (hcall : call ∈ (w.next a).calls) :
    call ∈ w.calls ∨ ∃ i e, w.emissions i = some e ∧ call = ⟨e.input.key, e.token⟩ ∧
      Reserved w.deliveries e.input.key e.token := by
  cases a with
  | start i input token =>
    rw [Outbound.next] at hcall
    split at hcall <;> exact .inl hcall
  | proceed i c =>
    rw [Outbound.next] at hcall
    cases he : w.emissions i with
    | none =>
      rw [he] at hcall
      exact .inl hcall
    | some e =>
      rw [he] at hcall
      rcases calls_proceed w i e c with hsame | ⟨hstage, hnew⟩
      · exact .inl (hsame ▸ hcall)
      · have hcall' : call ∈ w.calls ++ [⟨e.input.key, e.token⟩] := hnew ▸ hcall
        rcases mem_append.mp hcall' with hcall' | hcall'
        · exact .inl hcall'
        · exact .inr ⟨i, e, he, mem_singleton.mp hcall', h.held i e he (.inr hstage)⟩
  | crash i =>
    rw [Outbound.next] at hcall
    cases he : w.emissions i <;> rw [he] at hcall <;> exact .inl hcall
  | recover olderThan limit locked now =>
    rw [Outbound.next] at hcall
    split at hcall <;> exact .inl hcall

end Outbound

/-- **A mail is sent at most once**: in every run of any number of emissions, of their crashes and
of recoveries, the provider is called at most once for a key, by the emission whose reservation
of it is committed, and a delivery that is accepted or uncertain stays as it is. -/
theorem emitted_once (as : List MailAction) :
    let w := mailMachine.run .empty as
    (w.calls.map ProviderCall.key).Nodup ∧
      (∀ a, ∀ call ∈ (mailMachine.next w a).calls, call ∈ w.calls ∨
        ∃ i e, w.emissions i = some e ∧ call = ⟨e.input.key, e.token⟩ ∧
          Reserved w.deliveries e.input.key e.token) ∧
      ∀ row ∈ w.deliveries.rows, row.status ≠ .SENDING →
        ∀ as', row ∈ (mailMachine.run w as').deliveries.rows := by
  have hinit : Outbound.empty.Safe :=
    ⟨(by intro i e he; cases he), (by intro call hcall; cases hcall),
      (by intro i j e e' he; cases he), (by intro i e he; cases he), nodup_nil⟩
  have hsafe := Machine.run_of_stable (M := mailMachine) (P := Outbound.Safe)
    (fun w a hw => hw.next a) hinit as
  exact ⟨hsafe.once, fun a call hcall => Outbound.calls_next hsafe a hcall,
    fun row hrow hsettled as' => Outbound.settled_run hrow hsettled as'⟩

end CrmYnov.BusinessMail
