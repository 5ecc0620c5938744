import CrmYnov.Assignment.Imports
import CrmYnov.Assignment.Previews
import Mathlib.Data.List.Rotate

/-!
# Turns that are taken, and turns that are lost

Leads that are committed one after the other along a cursor go to the candidates in turn, wherever
the cursor stands: it is a position, not a name (`CrmYnov.Assignment.takeTurns_perm`). A batch asks
its engine first and writes the lead after that, so that an item may be refused when its turn is
already recorded (`CrmYnov.Assignment.refused_keeps_iff`).
-/

namespace CrmYnov.Assignment

open Checked Leads BatchService Principal List

variable (rt : Runtime) (collate : String → String → Bool)

/-! ### Turns along a cursor -/

/-- What a turn finds: the database, the candidates, the event and the lead. -/
structure Turn where
  db : Database := {}
  candidates : List AssignmentCandidate
  (eventKey leadId : String)

/-- A candidate is selected along the cursor of a cohort, and its assignment is committed. -/
def takeTurn (cohort : Cohort) (t : Turn) (L : Ledger) : Outcome (String × Ledger) := do
  let selection ← selectAssignmentCandidate rt collate cohort.ruleId .ROUND_ROBIN (L.cursor cohort)
    t.candidates t.eventKey 0
  let L ← commitSheetAssignment rt t.db L
    { targetUserId := some selection.selectedUserId
      selection := some selection.toAssignmentSelection
      campusId := some cohort.campusId, configurationVersion := some cohort.version } t.leadId
  pure (selection.selectedUserId, L)

def takeTurns (cohort : Cohort) : List Turn → Ledger → Outcome (List String × Ledger)
  | [], L => pure ([], L)
  | t :: turns, L => do
    let (userId, L) ← takeTurn rt collate cohort t L
    let (userIds, L) ← takeTurns cohort turns L
    pure (userId :: userIds, L)

def Cohort.Proper (cohort : Cohort) : Prop := cohort.campusId ≠ "" ∧ cohort.version ≠ 0

variable {rt collate} {cohort : Cohort} {ids : List String}

/-- **One turn**: who stands at the cursor is selected, and the cursor moves by one. -/
theorem takeTurn_ok (hcohort : cohort.Proper) {t : Turn} (hlead : t.leadId ≠ "")
    (hids : eligibleIds collate t.candidates = ids) (hne : ids ≠ []) (L : Ledger) :
    ∃ userId L', takeTurn rt collate cohort t L = .ok (userId, L') ∧
      ids[L.cursor cohort % ids.length]? = some userId ∧
      L'.cursor cohort = L.cursor cohort + 1 := by
  obtain ⟨userId, huser, hselect⟩ := selectAssignmentCandidate_of_ne_nil rt cohort.ruleId t.eventKey
    .ROUND_ROBIN (L.cursor cohort) 0 (hids.symm ▸ hne)
  obtain ⟨L', hmove, hcursor⟩ := moveCursor_moves L cohort
  refine ⟨userId, L', ?_, ?_, by rw [hcursor, if_pos rfl]⟩
  · have hcampus : nonEmpty (some cohort.campusId) = some cohort.campusId := by
      simp [nonEmpty, hcohort.1]
    have hver : (some cohort.version).filter (fun v => decide (v ≠ 0)) = some cohort.version := by
      simp [hcohort.2]
    rw [takeTurn, hselect, ok_bind, commitSheetAssignment]
    simp only [hcampus, hver, demand_some, ok_bind, require_pos hlead, if_true, hmove]
    rfl
  · rw [hids] at huser
    exact huser

/-- **A run of turns** goes through the candidates from the cursor on. -/
theorem takeTurns_ok (hcohort : cohort.Proper) (hne : ids ≠ []) (turns : List Turn)
    (hturns : ∀ t ∈ turns, t.leadId ≠ "" ∧ eligibleIds collate t.candidates = ids) (L : Ledger) :
    ∃ userIds L', takeTurns rt collate cohort turns L = .ok (userIds, L') ∧
      userIds.length = turns.length ∧
      ∀ i < turns.length, userIds[i]? = ids[(i + L.cursor cohort) % ids.length]? := by
  induction turns generalizing L with
  | nil => exact ⟨[], L, rfl, rfl, fun i hi => absurd hi (Nat.not_lt_zero i)⟩
  | cons t turns ih =>
    obtain ⟨hlead, hids⟩ := hturns t mem_cons_self
    obtain ⟨userId, L', htake, huser, hcursor⟩ := @takeTurn_ok rt _ _ _ hcohort _ hlead hids hne L
    obtain ⟨userIds, L'', hrest, hlength, hat⟩ :=
      ih (fun t ht => hturns t (mem_cons_of_mem _ ht)) L'
    refine ⟨userId :: userIds, L'', ?_, congrArg Nat.succ hlength, fun i hi => ?_⟩
    · rw [takeTurns, htake, ok_bind]
      dsimp only
      rw [hrest]
      rfl
    · cases i with
      | zero => rw [getElem?_cons_zero, Nat.zero_add, huser]
      | succ i =>
        rw [getElem?_cons_succ, hat i (Nat.lt_of_succ_lt_succ hi), hcursor]
        congr 2
        omega

/-- **Every candidate has a turn**: as many leads as there are candidates, committed one after the
other while the candidates stay the same, go to each of them once, whatever the cursor is. -/
theorem takeTurns_perm (hcohort : cohort.Proper) (hne : ids ≠ []) {turns : List Turn}
    (hturns : ∀ t ∈ turns, t.leadId ≠ "" ∧ eligibleIds collate t.candidates = ids)
    (hlength : turns.length = ids.length) (L : Ledger) :
    ∃ userIds L', takeTurns rt collate cohort turns L = .ok (userIds, L') ∧ userIds.Perm ids := by
  obtain ⟨userIds, L', htake, hcount, hat⟩ := @takeTurns_ok rt _ _ _ hcohort hne turns hturns L
  have hrotate : userIds = ids.rotate (L.cursor cohort) := by
    refine ext_getElem? fun i => ?_
    by_cases hi : i < ids.length
    · rw [getElem?_rotate hi, hat i (hlength ▸ hi)]
    · rw [getElem?_eq_none (by omega),
        getElem?_eq_none (by rw [length_rotate]; omega)]
  exact ⟨userIds, L', htake, hrotate ▸ rotate_perm ids _⟩

/-- Two collaborators, and a cursor that stands further than there are collaborators. -/
theorem takeTurns_perm_two : ∃ userIds L', takeTurns .plain (fun a b => a ≤ b) ⟨"campus", 1, "rule"⟩
        ((Rounds.rules.map fun rule => rule.candidates).flatMap fun candidates =>
          [⟨{}, candidates, "event-1", "lead-1"⟩, ⟨{}, candidates, "event-2", "lead-2"⟩])
        { cursors := .ofRows [⟨⟨"campus", 1, "rule"⟩, 7⟩] } = .ok (userIds, L') ∧
      userIds.Perm ["first", "second"] :=
  takeTurns_perm ⟨by decide, by decide⟩ (by decide) (by decide) rfl _

/-! ### Turns that are lost -/

section Batches

variable (rt collate)

/-- A turn is lost on an item: the engine decides of a lead that is free, for the first time, and
what it decides is of no use, as the rule is of another strategy than the batch or as the principal
may not assign leads. -/
def Lost (s : BatchService) (input : BatchAssignmentInput) (principal : Principal)
    (entry : BatchEntry) : Prop :=
  (∃ lead, s.leads.leads.get entry.1.leadId = some lead ∧ lead.assignedToId = none) ∧
    input.strategy ≠ .FIXED ∧ principal.hasSome (.ADMISSIONS :: managers) ∧
    s.engine.decisions.get (input.context entry).eventKey = none ∧
    ∃ rule, s.engine.applicableRule (input.context entry) = .ok rule ∧
      eligibleIds collate rule.candidates ≠ [] ∧
      (rule.strategy.ofBatch ≠ input.strategy ∨ ¬principal.hasSome managers)

variable (input : BatchAssignmentInput) (principal : Principal) (correlationId : String)
  (draw : BatchDraw)

/-- One turn of the loop, with what the batch draws for it. -/
def itemOf (s : BatchService) (entry : BatchEntry) : ItemOutcome × BatchService :=
  s.assignItem rt collate input principal correlationId entry (draw.decisionId entry.2)
    (draw.occasion entry.2)

/-- What is refused leaves the engine of a batch as it was before the item: the items in front of it
are done, and it is the next one. -/
def RefusedKeep (s : BatchService) : Prop :=
  ∀ done entry rest, input.items.zipIdx = done ++ entry :: rest →
    let before := (assignItems rt collate input principal correlationId draw done s).2
    (∃ item, (itemOf rt collate input principal correlationId draw before entry).1 = .refused item) →
      (itemOf rt collate input principal correlationId draw before entry).2.engine = before.engine

variable {input principal correlationId draw}

/-- What the engine decides for the first time is another engine. -/
theorem assign_ne {e e' : Engine} {context : AssignmentContext} {decisionId : String} {now : Instant}
    {decision : AssignmentDecision} (hnew : e.decisions.get context.eventKey = none)
    (h : e.assign rt collate context principal decisionId now = .ok (decision, e')) : e' ≠ e := by
  rintro rfl
  rw [Engine.assign, hnew] at h
  simp only [ok_iff] at h
  obtain ⟨-, -, p, -, rfl, he⟩ := h
  have hkept := congrArg (fun e : Engine => e.decisions.get context.eventKey) he
  simp only [Dict.get_set_self, hnew] at hkept
  cases hkept

/-- What the engine decides for the first time comes from a rule that has candidates. -/
theorem assign_rule {e e' : Engine} {context : AssignmentContext} {decisionId : String}
    {now : Instant} {decision : AssignmentDecision} (hnew : e.decisions.get context.eventKey = none)
    (h : e.assign rt collate context principal decisionId now = .ok (decision, e')) :
    principal.hasSome (.ADMISSIONS :: managers) ∧
      ∃ rule, e.applicableRule context = .ok rule ∧ eligibleIds collate rule.candidates ≠ [] ∧
        decision.strategy = rule.strategy := by
  rw [Engine.assign, hnew] at h
  simp only [ok_iff, Engine.select] at h
  obtain ⟨-, hrole, p, ⟨rule, hrule, selection, hselect, rfl⟩, rfl, -⟩ := h
  simp only [selectAssignmentCandidate, ok_iff] at hselect
  obtain ⟨-, hids, -, -, rfl⟩ := hselect
  exact ⟨hrole, rule, hrule, hids, rfl⟩

/-- **One item**: it is refused with another engine exactly when a turn is lost on it. -/
theorem item_keeps_iff (s : BatchService) (entry : BatchEntry) :
    ((∃ item, (itemOf rt collate input principal correlationId draw s entry).1 = .refused item) →
      (itemOf rt collate input principal correlationId draw s entry).2.engine = s.engine) ↔
      ¬Lost collate s input principal entry := by
  rw [itemOf, assignItem]
  cases hlead : s.leads.leads.get entry.1.leadId with
  | none => exact iff_of_true (fun _ => rfl) fun h => by simpa [hlead] using h.1
  | some lead =>
    dsimp only
    by_cases hfree : lead.assignedToId = none
    swap
    · rw [if_pos hfree]
      exact iff_of_true (fun _ => rfl) fun h => by
        obtain ⟨⟨l, hl, hnone⟩, -⟩ := h
        rw [hlead] at hl
        exact hfree (Option.some.inj hl ▸ hnone)
    rw [if_neg (not_not.mpr hfree), batchTarget]
    by_cases hfixed : input.strategy = .FIXED
    · rw [if_pos hfixed]
      refine iff_of_true (fun _ => ?_) fun h => h.2.1 hfixed
      cases fixedTarget s.engine input with
      | error f => rfl
      | ok target =>
        dsimp only
        split <;> rfl
    rw [if_neg hfixed, engineTarget]
    cases hassign : s.engine.assign rt collate (input.context entry) principal
        (draw.decisionId entry.2) (draw.occasion entry.2).now with
    | error f =>
      refine iff_of_true (fun _ => rfl) fun h => ?_
      obtain ⟨-, -, hrole, hnew, rule, hrule, hids, -⟩ := h
      obtain ⟨userId, -, hselect⟩ := selectAssignmentCandidate_of_ne_nil rt rule.id
        (input.context entry).eventKey rule.strategy rule.cursor 0 hids
      rw [Engine.assign, require_pos hrole, hnew] at hassign
      simp only [ok_bind, Engine.select_of_rule hrule, hselect] at hassign
      cases hassign
    | ok p =>
      obtain ⟨decision, e'⟩ := p
      cases hknown : s.engine.decisions.get (input.context entry).eventKey with
      | some existing =>
        rw [Engine.assign, hknown] at hassign
        simp only [ok_iff] at hassign
        obtain ⟨-, -, -, rfl⟩ := hassign
        refine iff_of_true (fun _ => ?_) fun h => by simpa [hknown] using h.2.2.2.1
        dsimp only
        cases checkedTarget input decision.toSelection with
        | error f => rfl
        | ok target =>
          dsimp only
          split <;> rfl
      | none =>
        have hne := assign_ne rt collate hknown hassign
        obtain ⟨hrole, rule, hrule, hids, hstrat⟩ := assign_rule rt collate hknown hassign
        dsimp only
        by_cases hsame : rule.strategy.ofBatch = input.strategy
        · have htarget : checkedTarget input decision.toSelection = .ok decision.selectedUserId := by
            rw [checkedTarget, hstrat, require_pos hsame]
            rfl
          simp only [htarget]
          by_cases hmanager : principal.hasSome managers
          · have hnot : ¬Lost collate s input principal entry := by
              rintro ⟨-, -, -, -, r, hr, -, hwhy⟩
              rw [hrule] at hr
              cases hr
              exact hwhy.elim (fun h => h hsame) fun h => h hmanager
            refine iff_of_true (fun h => ?_) hnot
            obtain ⟨item, hitem⟩ := h
            simp only [assignLocalLead, require_pos hmanager, ok_bind, LeadMemory.requireLead, hlead,
              demand_some, require_pos hfree] at hitem
            cases hitem
          · refine iff_of_false (fun h => hne ?_) fun h => h ⟨⟨lead, hlead, hfree⟩, hfixed, hrole,
              hknown, rule, hrule, hids, .inr hmanager⟩
            simp only [assignLocalLead, require_neg hmanager] at h
            exact h ⟨_, rfl⟩
        · have htarget : checkedTarget input decision.toSelection =
              .error (.conflict "assignment_strategy_rule_mismatch") := by
            rw [checkedTarget, hstrat, require_neg hsame]
            rfl
          simp only [htarget]
          exact iff_of_false (fun h => hne (h ⟨_, rfl⟩)) fun h => h ⟨⟨lead, hlead, hfree⟩, hfixed,
            hrole, hknown, rule, hrule, hids, .inl hsame⟩

/-- **When a refusal leaves no trace**: the items of a batch that are refused leave the cursors and
the decisions of the engine as they were exactly when no turn is lost on an item. -/
theorem refused_keeps_iff (s : BatchService) :
    RefusedKeep rt collate input principal correlationId draw s ↔
      ∀ done entry rest, input.items.zipIdx = done ++ entry :: rest →
        ¬Lost collate
          (assignItems rt collate input principal correlationId draw done s).2
          input principal entry :=
  forall_congr' fun _ => forall_congr' fun entry => forall_congr' fun _ => forall_congr' fun _ =>
    item_keeps_iff rt collate _ entry

/-- The rule of a lead gives out turns, and the batch wants a draw: the lead is refused, and the
turn is gone. -/
theorem refused_moves_one :
    ¬RefusedKeep .plain (fun a b => a ≤ b)
      { Rounds.batch ["lead-1"] with strategy := .CONTROLLED_RANDOM } Rounds.manager "correlation"
      Rounds.draw ((batching .plain fun a b => a ≤ b).run {} Rounds.calls) := fun h =>
  (item_keeps_iff _ _ _ _).mp (h [] _ [] rfl) ⟨⟨_, rfl, rfl⟩, by decide, by decide, by decide +kernel,
    _, rfl, by decide +kernel, .inl (by decide)⟩

end Batches

end CrmYnov.Assignment
