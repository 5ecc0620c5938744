import CrmYnov.Assignment.Batches
import CrmYnov.Base.Machine
import Mathlib.Data.Nat.ModEq

/-!
# What previews foresee of batches

A batch and its preview differ in one respect: the rules a preview asks stand still, and those a
batch asks move on each time they are used. An item of a batch is what a preview would show of
it at the position its rule has come to (`CrmYnov.Assignment.Ahead.assignItem`), so a preview
foresees the batch exactly when no rule that has several candidates to choose from in turn
serves two items (`CrmYnov.Assignment.preview_predicts_iff`).
-/

namespace CrmYnov.Assignment

open Checked Leads Dict LeadMemory Principal List Option

/-! ### Rules that have moved on -/

def AssignmentRule.turned (rule : AssignmentRule) (n : ℕ) : AssignmentRule :=
  { rule with cursor := rule.cursor + n }

theorem AssignmentRule.turned_turned (rule : AssignmentRule) (m n : ℕ) :
    (rule.turned m).turned n = rule.turned (m + n) := by
  simp only [turned, Nat.add_assoc]

def Engine.Keyed (e : Engine) : Prop := ∀ id rule, e.rules.get id = some rule → rule.id = id

/-- The rules of an engine are those of another one, each of them used some times. -/
def Engine.Turned (e e' : Engine) (n : String → ℕ) : Prop :=
  e'.rules.values = e.rules.values.map fun rule => rule.turned (n rule.id)

theorem Engine.turned_self (e : Engine) : e.Turned e fun _ => 0 := by
  rw [Engine.Turned]
  exact (map_id' _).symm

variable {e : Engine}

theorem Engine.Keyed.set (h : e.Keyed) (rule : AssignmentRule) :
    Engine.Keyed { e with rules := e.rules.set rule.id rule } := by
  intro id r hr
  rw [get_set] at hr
  split at hr
  · rename_i hid
    rw [← some.inj hr, hid]
  · exact h id r hr

theorem Engine.Keyed.advance (h : e.Keyed) (rule : AssignmentRule) : (e.advance rule).Keyed := by
  rw [Engine.advance]
  split
  · exact h.set { rule with cursor := rule.cursor + 1 }
  · exact h

variable {rule : AssignmentRule}

/-- **Advancing a rule moves it on, and no other rule.** -/
theorem Engine.Keyed.values_advance (h : e.Keyed) (hrule : rule ∈ e.rules.values)
    (hstrat : rule.strategy = .ROUND_ROBIN) :
    (e.advance rule).rules.values =
      e.rules.values.map fun r => r.turned (if r.id = rule.id then 1 else 0) := by
  have hget : e.rules.get rule.id = some rule := by
    obtain ⟨id, hid⟩ := mem_values.mp hrule
    rwa [h id rule hid]
  rw [Engine.advance, if_pos hstrat, values_set_of_some _ hget, values,
    List.map_map]
  refine List.map_congr_left fun entry hentry => ?_
  have hentryGet : e.rules.get entry.1 = some entry.2 := get_eq_some.mpr hentry
  simp only [Function.comp_apply, h _ _ hentryGet]
  split
  · rename_i hid
    rw [hid, hget] at hentryGet
    rw [← Option.some.inj hentryGet]
    rfl
  · rfl

variable {e' : Engine} {n : String → ℕ}

/-- **The rule that is applied does not depend on where the rules have come to.** -/
theorem Engine.applicableRule_of_turned (h : e.Turned e' n) (context : AssignmentContext) :
    e'.applicableRule context =
      (e.applicableRule context).map fun rule => rule.turned (n rule.id) := by
  have hspecific : (fun rule => decide (Engine.Specific context rule)) ∘
      (fun rule : AssignmentRule => rule.turned (n rule.id)) =
        fun rule => decide (Engine.Specific context rule) := rfl
  have hfallback : (fun rule : AssignmentRule => decide rule.Fallback) ∘
      (fun rule : AssignmentRule => rule.turned (n rule.id)) = fun rule => decide rule.Fallback := rfl
  simp only [Engine.applicableRule, show e'.rules.values = _ from h, List.filter_map,
    find?_map, hspecific, hfallback, length_map, head?_map]
  rw [← Option.map_or]
  generalize (filter (fun rule => decide (Engine.Specific context rule)) e.rules.values) = S
  generalize find? (fun rule : AssignmentRule => decide rule.Fallback) e.rules.values = G
  simp only [require]
  split_ifs <;> try rfl
  cases hrule : S.head?.or G with
  | none => rfl
  | some rule =>
    simp only [map_some, demand]
    by_cases hbalance : rule.balanceNewEntrants ≠ some true
    · simp only [ok_bind, AssignmentRule.turned, if_pos hbalance]
      rfl
    · simp only [ok_bind, AssignmentRule.turned, if_neg hbalance]
      rfl

variable {rt : Runtime} {collate : String → String → Bool}

/-! ### Selections -/

theorem mem_of_applicableRule {context : AssignmentContext}
    (h : e.applicableRule context = .ok rule) : rule ∈ e.rules.values := by
  simp only [Engine.applicableRule, ok_iff] at h
  obtain ⟨-, -, -, -, rule, hrule, -, -, rfl⟩ := h
  rcases or_eq_some_iff.mp hrule with hspecific | ⟨-, hfallback⟩
  · exact mem_of_mem_filter (mem_of_mem_head? hspecific)
  · exact mem_of_find?_eq_some hfallback

variable {candidates : List AssignmentCandidate}

variable (rt) in
theorem selectAssignmentCandidate_of_ne_nil (ruleId key : String) (strategy : AssignmentStrategy)
    (cursor offset : ℕ) (h : eligibleIds collate candidates ≠ []) :
    ∃ userId, (eligibleIds collate candidates)[selectionIndex rt strategy ruleId key
        (cursor + offset) (eligibleIds collate candidates).length]? = some userId ∧
      selectAssignmentCandidate rt collate ruleId strategy cursor candidates key offset = .ok {
        ruleId, strategy, selectedUserId := userId, candidateIds := eligibleIds collate candidates
        candidateFingerprint :=
          rt.sha256 (String.intercalate ":" (eligibleIds collate candidates)) } := by
  have hpos : 0 < (eligibleIds collate candidates).length := length_pos_iff.mpr h
  have hlt : selectionIndex rt strategy ruleId key (cursor + offset)
      (eligibleIds collate candidates).length < (eligibleIds collate candidates).length := by
    rw [selectionIndex.eq_def]
    split
    · exact Nat.mod_lt _ hpos
    · exact Nat.mod_lt _ hpos
  refine ⟨_, getElem?_eq_getElem hlt, ?_⟩
  simp only [selectAssignmentCandidate, require_pos h, ok_bind, getElem?_eq_getElem hlt,
    demand_some]
  rfl

theorem selectAssignmentCandidate_of_nil {ruleId key : String} {strategy : AssignmentStrategy}
    {cursor offset : ℕ} (h : eligibleIds collate candidates = []) :
    selectAssignmentCandidate rt collate ruleId strategy cursor candidates key offset =
      .error (.conflict "assignment_candidate_unavailable") := by
  rw [selectAssignmentCandidate, require_neg (not_not.mpr h)]
  rfl

/-- How often the rule of a lead was used. -/
def Engine.position (e : Engine) (n : String → ℕ) (context : AssignmentContext) : ℕ :=
  match e.applicableRule context with
  | .ok rule => n rule.id
  | .error _ => 0

/-- **What is selected by rules that were used is what they select further on.** -/
theorem Engine.select_of_turned (h : e.Turned e' n) (context : AssignmentContext) :
    e'.select rt collate context 0 =
      (e.select rt collate context (e.position n context)).map fun p =>
        (p.1.turned (n p.1.id), p.2) := by
  rw [Engine.select, Engine.select, Engine.applicableRule_of_turned h, Engine.position]
  cases e.applicableRule context with
  | error f => rfl
  | ok rule =>
    have hturned : selectAssignmentCandidate rt collate (rule.turned (n rule.id)).id
        (rule.turned (n rule.id)).strategy (rule.turned (n rule.id)).cursor
        (rule.turned (n rule.id)).candidates context.eventKey 0 =
        selectAssignmentCandidate rt collate rule.id rule.strategy rule.cursor rule.candidates
          context.eventKey (n rule.id) := rfl
    simp only [Except.map, ok_bind, hturned]
    cases selectAssignmentCandidate rt collate rule.id rule.strategy rule.cursor rule.candidates
      context.eventKey (n rule.id) with
    | error f => rfl
    | ok selection => rfl

theorem Engine.select_of_rule {context : AssignmentContext}
    (h : e.applicableRule context = .ok rule) (offset : ℕ) : e.select rt collate context offset =
      (selectAssignmentCandidate rt collate rule.id rule.strategy rule.cursor rule.candidates
        context.eventKey offset).map fun selection => (rule, selection) := by
  rw [Engine.select, h, ok_bind]
  cases selectAssignmentCandidate rt collate rule.id rule.strategy rule.cursor rule.candidates
    context.eventKey offset with
  | error f => rfl
  | ok selection => rfl

theorem Engine.assertEligibleTarget_of_turned (h : e.Turned e' n) (userId : String) :
    e'.assertEligibleTarget userId = e.assertEligibleTarget userId := by
  have hiff : (∃ rule ∈ e'.rules.values, rule.enabled ∧
      ∃ c ∈ rule.candidates, c.userId = userId ∧ c.Eligible) ↔
      ∃ rule ∈ e.rules.values, rule.enabled ∧
        ∃ c ∈ rule.candidates, c.userId = userId ∧ c.Eligible := by
    rw [show e'.rules.values = _ from h]
    constructor
    · rintro ⟨r, hr, hcandidate⟩
      obtain ⟨rule, hrule, rfl⟩ := mem_map.mp hr
      exact ⟨rule, hrule, hcandidate⟩
    · rintro ⟨rule, hrule, hcandidate⟩
      exact ⟨rule.turned (n rule.id), mem_map_of_mem hrule, hcandidate⟩
  simp only [Engine.assertEligibleTarget, require, hiff]

variable {input : BatchAssignmentInput} {entry : BatchEntry} {principal : Principal}

theorem simulatedTarget_of_manager {offset : ℕ} (hmanager : principal.hasSome managers) :
    simulatedTarget rt collate e input entry principal offset =
      (e.select rt collate (input.context entry) offset).bind fun p => checkedTarget input p.2 := by
  simp only [simulatedTarget, Engine.simulate, assertManager, require_pos hmanager, ok_bind]
  cases e.select rt collate (input.context entry) offset with
  | error f => rfl
  | ok p => rfl

theorem engineTarget_of_manager {decisionId : String} {now : Instant}
    (hmanager : principal.hasSome managers)
    (hnew : e.decisions.get (eventKey input.idempotencyKey entry.2) = none) :
    engineTarget rt collate e input entry principal decisionId now =
      match e.select rt collate (input.context entry) 0 with
      | .error f => (.error f, e)
      | .ok (rule, selection) =>
        (checkedTarget input selection, { e.advance rule with
          decisions := (e.advance rule).decisions.set (eventKey input.idempotencyKey entry.2)
            { selection with
              id := decisionId, eventKey := eventKey input.idempotencyKey entry.2
              leadId := entry.1.leadId, createdAt := now } }) := by
  have hrole : principal.hasSome (.ADMISSIONS :: managers) := by
    obtain ⟨role, hrole, hmem⟩ := hmanager
    exact ⟨role, hrole, mem_cons_of_mem _ hmem⟩
  have hget : e.decisions.get (input.context entry).eventKey = none := hnew
  rw [engineTarget, Engine.assign, require_pos hrole, ok_bind, hget]
  cases e.select rt collate (input.context entry) 0 with
  | error f => rfl
  | ok p => rfl

/-! ### One item -/

variable (collate) in
def BatchService.moved (s : BatchService) (input : BatchAssignmentInput) (entry : BatchEntry) :
    Option AssignmentRule :=
  match s.leads.leads.get entry.1.leadId, s.engine.applicableRule (input.context entry) with
  | some lead, .ok rule =>
    if lead.assignedToId = none ∧ input.strategy ≠ .FIXED ∧ rule.strategy = .ROUND_ROBIN ∧
        eligibleIds collate rule.candidates ≠ [] then some rule else none
  | _, _ => none

variable (collate) in
/-- How often some items move a rule on. -/
def BatchService.turns (s : BatchService) (input : BatchAssignmentInput) (entries : List BatchEntry)
    (ruleId : String) : ℕ :=
  entries.countP fun entry => (s.moved collate input entry).map AssignmentRule.id = some ruleId

variable {s : BatchService}

theorem moved_eq_some_iff : s.moved collate input entry = some rule ↔
      (∃ lead, s.leads.leads.get entry.1.leadId = some lead ∧ lead.assignedToId = none) ∧
        input.strategy ≠ .FIXED ∧ s.engine.applicableRule (input.context entry) = .ok rule ∧
        rule.strategy = .ROUND_ROBIN ∧ eligibleIds collate rule.candidates ≠ [] := by
  rw [BatchService.moved.eq_def]
  cases s.leads.leads.get entry.1.leadId with
  | none => simp
  | some lead =>
    cases s.engine.applicableRule (input.context entry) with
    | error f => simp
    | ok r =>
      simp only [ite_none_right_eq_some, some.injEq, exists_eq_left', Except.ok.injEq]
      constructor
      · rintro ⟨⟨hfree, hfixed, hstrat, hids⟩, rfl⟩
        exact ⟨hfree, hfixed, rfl, hstrat, hids⟩
      · rintro ⟨hfree, hfixed, rfl, hstrat, hids⟩
        exact ⟨⟨hfree, hfixed, hstrat, hids⟩, rfl⟩

def BatchService.ItemOutcome.shown : BatchService.ItemOutcome → AssignmentPreviewItem
  | .assigned lead =>
    { leadId := lead.id, selectedUserId := lead.assignedToId, outcome := .READY }
  | .skipped item => item
  | .refused item => item

/-- A result is told of where it belongs. -/
def BatchService.ItemOutcome.Proper : BatchService.ItemOutcome → Prop
  | .assigned _ => True
  | .skipped item => item.outcome = .SKIPPED
  | .refused item => item.outcome = .REFUSED

variable (collate) in
/-- What a batch finds once some of its items are done: its rules have moved on, and what the
other items are about is as it was. -/
structure Ahead (s s' : BatchService) (input : BatchAssignmentInput)
    (done rest : List BatchEntry) : Prop where
  rules : s'.engine.Keyed
  leads : Leads.Keyed s'.leads
  same : ∀ entry ∈ rest, s'.leads.leads.get entry.1.leadId = s.leads.leads.get entry.1.leadId
  undecided : ∀ entry ∈ rest,
    s'.engine.decisions.get (eventKey input.idempotencyKey entry.2) = none
  turned : s.engine.Turned s'.engine (s.turns collate input done)

theorem Engine.Turned.advance (h : e.Turned e' n) (hkeyed : e'.Keyed)
    (hrule : rule ∈ e.rules.values) (hstrat : rule.strategy = .ROUND_ROBIN) :
    e.Turned (e'.advance (rule.turned (n rule.id))) fun id =>
      n id + if id = rule.id then 1 else 0 := by
  have hmem : rule.turned (n rule.id) ∈ e'.rules.values := by
    rw [show e'.rules.values = _ from h]
    exact List.mem_map_of_mem (f := fun r : AssignmentRule => r.turned (n r.id)) hrule
  rw [Engine.Turned, hkeyed.values_advance hmem hstrat, show e'.rules.values = _ from h,
    List.map_map]
  refine List.map_congr_left fun r _ => ?_
  rw [Function.comp_apply, AssignmentRule.turned_turned]
  rfl

theorem turns_append (s : BatchService) (input : BatchAssignmentInput) (done : List BatchEntry)
    (entry : BatchEntry) : s.turns collate input (done ++ [entry]) = fun id =>
      s.turns collate input done id +
        if (s.moved collate input entry).map AssignmentRule.id = some id then 1 else 0 := by
  funext id
  simp only [BatchService.turns, countP_append, countP_singleton, decide_eq_true_eq]

variable {s' : BatchService} {done rest : List BatchEntry}

theorem Ahead.skip (h : Ahead collate s s' input done (entry :: rest))
    (hmoved : s.moved collate input entry = none) :
    Ahead collate s s' input (done ++ [entry]) rest where
  rules := h.rules
  leads := h.leads
  same e he := h.same e (mem_cons_of_mem entry he)
  undecided e he := h.undecided e (mem_cons_of_mem entry he)
  turned := by
    rw [turns_append, hmoved]
    exact h.turned

theorem Engine.decisions_advance (e : Engine) (rule : AssignmentRule) :
    (e.advance rule).decisions = e.decisions := by
  rw [Engine.advance]
  split
  · rfl
  · rfl

theorem Ahead.decided (h : Ahead collate s s' input done (entry :: rest))
    (hindex : entry.2 ∉ rest.map Prod.snd)
    (hrule : s.engine.applicableRule (input.context entry) = .ok rule)
    (hmoved : s.moved collate input entry =
      if rule.strategy = .ROUND_ROBIN then some rule else none) (decision : AssignmentDecision) :
    Ahead collate s { s' with engine := {
      s'.engine.advance (rule.turned (s.turns collate input done rule.id)) with
      decisions := (s'.engine.advance
        (rule.turned (s.turns collate input done rule.id))).decisions.set
          (eventKey input.idempotencyKey entry.2) decision } } input (done ++ [entry]) rest where
  rules := h.rules.advance _
  leads := h.leads
  same e he := h.same e (mem_cons_of_mem entry he)
  undecided e he := by
    have hne : eventKey input.idempotencyKey e.2 ≠ eventKey input.idempotencyKey entry.2 := by
      intro heq
      rw [← (Js.numbered_inj heq).2] at hindex
      exact hindex (mem_map_of_mem he)
    rw [get_set_of_ne _ _ hne, Engine.decisions_advance]
    exact h.undecided e (mem_cons_of_mem entry he)
  turned := by
    rw [turns_append, hmoved]
    split
    · rename_i hstrat
      have hadvance := h.turned.advance h.rules (mem_of_applicableRule hrule) hstrat
      simp only [map_some, some.injEq]
      simp only [eq_comm (a := rule.id)]
      exact hadvance
    · rename_i hstrat
      have hself : s'.engine.advance (rule.turned (s.turns collate input done rule.id)) = s'.engine :=
        if_neg hstrat
      have hsame := h.turned
      rw [← hself] at hsame
      exact hsame

variable (rt) in
/-- **What an item asks is answered as a preview would at the position of its rule.** -/
theorem Ahead.batchTarget (decisionId : String) (o : Occasion) {lead : LeadRecord}
    (h : Ahead collate s s' input done (entry :: rest))
    (hmanager : principal.hasSome managers) (hindex : entry.2 ∉ rest.map Prod.snd)
    (hlead : s.leads.leads.get entry.1.leadId = some lead) (hfree : lead.assignedToId = none) :
    (s'.batchTarget rt collate input principal entry decisionId o).1 =
        s.previewTarget rt collate input principal entry
          (s.engine.position (s.turns collate input done) (input.context entry)) ∧
      Ahead collate s
        { s' with engine := (s'.batchTarget rt collate input principal entry decisionId o).2 } input
        (done ++ [entry]) rest := by
  have hnew := h.undecided entry mem_cons_self
  rw [BatchService.batchTarget, BatchService.previewTarget]
  split
  · rename_i hfixed
    refine ⟨?_, h.skip ?_⟩
    · rw [fixedTarget, Engine.assertEligibleTarget_of_turned h.turned]
      rfl
    · rw [BatchService.moved.eq_def, hlead]
      split
      · exact if_neg fun hc => hc.2.1 hfixed
      · rfl
  · rename_i hfixed
    rw [simulatedTarget_of_manager hmanager, engineTarget_of_manager hmanager hnew,
      Engine.select_of_turned h.turned]
    have hmoved : s.moved collate input entry =
        match s.engine.applicableRule (input.context entry) with
        | .ok rule => if rule.strategy = .ROUND_ROBIN ∧ eligibleIds collate rule.candidates ≠ [] then
            some rule else none
        | .error _ => none := by
      rw [BatchService.moved.eq_def, hlead]
      cases s.engine.applicableRule (input.context entry) with
      | error f => rfl
      | ok rule => simp only [hfree, hfixed, ne_eq, not_false_eq_true, true_and]
    cases hrule : s.engine.applicableRule (input.context entry) with
    | error f =>
      rw [hrule] at hmoved
      rw [Engine.select, hrule]
      exact ⟨rfl, h.skip hmoved⟩
    | ok rule =>
      simp only [hrule] at hmoved
      rw [Engine.select_of_rule hrule]
      by_cases hids : eligibleIds collate rule.candidates = []
      · rw [selectAssignmentCandidate_of_nil hids]
        exact ⟨rfl, h.skip (hmoved.trans (if_neg fun hc => hc.2 hids))⟩
      · obtain ⟨userId, -, hselected⟩ := selectAssignmentCandidate_of_ne_nil rt rule.id
          (input.context entry).eventKey rule.strategy rule.cursor
          (s.engine.position (s.turns collate input done) (input.context entry)) hids
        rw [hselected]
        refine ⟨rfl, h.decided hindex hrule ?_ _⟩
        rw [hmoved]
        simp only [hids, ne_eq, not_false_eq_true, and_true]

theorem assignLocalLead_of_free {m : LeadMemory} (hm : Leads.Keyed m) {leadId : String}
    {lead : LeadRecord} (hget : m.leads.get leadId = some lead) (hfree : lead.assignedToId = none)
    (hmanager : principal.hasSome managers) (target correlationId reason mode : String)
    (o : Occasion) :
    ∃ updated m', assignLocalLead m leadId target principal correlationId reason mode o =
        .ok (updated, m') ∧
      updated.id = leadId ∧ updated.assignedToId = some target ∧ Leads.Keyed m' ∧
        ∀ id, id ≠ leadId → m'.leads.get id = m.leads.get id := by
  obtain rfl : lead.id = leadId := hm _ _ hget
  simp only [assignLocalLead, requireLead, require_pos hmanager, hget, demand_some,
    ok_bind, require_pos hfree]
  refine ⟨_, _, rfl, rfl, rfl, hm.record _ _, fun id hid => ?_⟩
  rw [record]
  exact get_set_of_ne _ _ hid

variable (rt) in
/-- **An item of a batch is what a preview would show of it at the position of its rule**, and the
batch goes on. -/
theorem Ahead.assignItem (correlationId decisionId : String) (o : Occasion)
    (h : Ahead collate s s' input done (entry :: rest))
    (hmanager : principal.hasSome managers) (hindex : entry.2 ∉ rest.map Prod.snd)
    (hlead : entry.1.leadId ∉ rest.map fun e => e.1.leadId) :
    let p := s'.assignItem rt collate input principal correlationId entry decisionId o
    p.1.Proper ∧
      p.1.shown = s.previewItem rt collate input principal entry
        (s.engine.position (s.turns collate input done) (input.context entry)) ∧
      Ahead collate s p.2 input (done ++ [entry]) rest := by
  intro p
  have hsame := h.same entry mem_cons_self
  simp only [p, BatchService.assignItem, BatchService.previewItem, hsame]
  cases hget : s.leads.leads.get entry.1.leadId with
  | none =>
    refine ⟨rfl, rfl, h.skip ?_⟩
    rw [BatchService.moved.eq_def, hget]
  | some lead =>
    by_cases hfree : lead.assignedToId = none
    · obtain ⟨htarget, hahead⟩ := h.batchTarget rt decisionId o hmanager hindex hget hfree
      simp only [hfree, ne_eq, not_true_eq_false, if_false]
      rw [← htarget]
      rcases htargets : s'.batchTarget rt collate input principal entry decisionId o with ⟨t, engine⟩
      rw [htargets] at hahead
      cases t with
      | error f => exact ⟨rfl, rfl, hahead⟩
      | ok target =>
        obtain ⟨updated, leads, hassign, hid, howner, hkeyed, hother⟩ := assignLocalLead_of_free
          h.leads (hsame.trans hget) hfree hmanager target
          (correlationId ++ ":" ++ toString entry.2) ("BATCH:" ++ input.idempotencyKey)
          input.strategy.text o
        simp only [hassign]
        refine ⟨trivial, ?_, { hahead with leads := hkeyed, same := fun e he => ?_ }⟩
        · rw [BatchService.ItemOutcome.shown, hid, howner]
          rfl
        · have hne : e.1.leadId ≠ entry.1.leadId := fun heq =>
            hlead (heq ▸ mem_map_of_mem (f := fun e : BatchEntry => e.1.leadId) he)
          exact (hother e.1.leadId hne).trans (hahead.same e he)
    · simp only [hfree, ne_eq, not_false_eq_true, if_true]
      refine ⟨rfl, rfl, h.skip ?_⟩
      rw [BatchService.moved.eq_def, hget]
      cases s.engine.applicableRule (input.context entry) with
      | error f => rfl
      | ok rule => exact if_neg fun hc => hfree hc.1

/-! ### A whole batch -/

variable (rt collate) in
/-- What previews would show of some items, each at the position its rule has come to. -/
def BatchService.shownAfter (s : BatchService) (input : BatchAssignmentInput)
    (principal : Principal) : List BatchEntry → List BatchEntry → List AssignmentPreviewItem
  | _, [] => []
  | done, entry :: rest =>
    s.previewItem rt collate input principal entry
        (s.engine.position (s.turns collate input done) (input.context entry)) ::
      shownAfter s input principal (done ++ [entry]) rest

variable (rt) in
/-- **A batch is its previews, each at the position its rule has come to.** -/
theorem Ahead.assignItems (correlationId : String) (draw : BatchService.BatchDraw)
    (h : Ahead collate s s' input done rest) (hmanager : principal.hasSome managers)
    (hindex : (rest.map Prod.snd).Nodup) (hlead : (rest.map fun e => e.1.leadId).Nodup) :
    let p := BatchService.assignItems rt collate input principal correlationId draw rest s'
    (∀ outcome ∈ p.1, outcome.Proper) ∧
      p.1.map BatchService.ItemOutcome.shown = s.shownAfter rt collate input principal done rest ∧
      Ahead collate s p.2 input (done ++ rest) [] := by
  induction rest generalizing s' done with
  | nil =>
    refine ⟨fun _ hmem => absurd hmem not_mem_nil, rfl, ?_⟩
    rw [append_nil]
    exact h
  | cons entry rest ih =>
    rw [map_cons, nodup_cons] at hindex hlead
    obtain ⟨hproper, hshown, hahead⟩ := h.assignItem rt correlationId
      (draw.decisionId entry.2) (draw.occasion entry.2) hmanager hindex.1 hlead.1
    obtain ⟨hpropers, hshowns, hend⟩ := ih hahead hindex.2 hlead.2
    refine ⟨forall_mem_cons.mpr ⟨hproper, hpropers⟩, ?_, ?_⟩
    · rw [BatchService.shownAfter, ← hshown, ← hshowns]
      rfl
    · rw [← singleton_append, ← append_assoc]
      exact hend

/-! ### Where the position of a rule shows -/

/-- The candidates of a rule differ from each other. -/
def Engine.Distinct (e : Engine) : Prop :=
  ∀ rule ∈ e.rules.values, (rule.candidates.map AssignmentCandidate.userId).Nodup

theorem nodup_eligibleIds (h : (candidates.map AssignmentCandidate.userId).Nodup) :
    (eligibleIds collate candidates).Nodup := by
  have hperm := perm_insertionSort (fun a b => collate a.userId b.userId)
    (candidates.filter fun c => AssignmentCandidate.Eligible c)
  exact (hperm.map AssignmentCandidate.userId).nodup_iff.mpr
    (h.sublist ((filter_sublist).map AssignmentCandidate.userId))

variable (rt) in
theorem simulatedTarget_of_round (hmanager : principal.hasSome managers)
    (hrule : e.applicableRule (input.context entry) = .ok rule)
    (hstrat : rule.strategy = .ROUND_ROBIN) (hinput : input.strategy = .ROUND_ROBIN)
    (hids : eligibleIds collate rule.candidates ≠ []) (k : ℕ) :
    ∃ userId, (eligibleIds collate rule.candidates)[
        (rule.cursor + k) % (eligibleIds collate rule.candidates).length]? = some userId ∧
      simulatedTarget rt collate e input entry principal k = .ok userId := by
  obtain ⟨userId, huser, hselect⟩ := selectAssignmentCandidate_of_ne_nil rt rule.id
    (input.context entry).eventKey rule.strategy rule.cursor k hids
  rw [hstrat] at huser
  refine ⟨userId, huser, ?_⟩
  have hcheck : rule.strategy.ofBatch = input.strategy := by
    rw [hstrat, hinput]
    rfl
  rw [simulatedTarget_of_manager hmanager, Engine.select_of_rule hrule, hselect]
  simp only [Except.map, Except.bind, checkedTarget, require_pos hcheck, ok_bind]
  rfl

/-- **Two positions name the same candidate exactly when they are whole rounds apart.** -/
theorem eq_iff_of_rounds {ids : List String} (hids : ids.Nodup) {cursor k : ℕ} {a b : String}
    (ha : ids[(cursor + k) % ids.length]? = some a) (hb : ids[(cursor + 0) % ids.length]? = some b) :
    a = b ↔ k % ids.length = 0 := by
  have hmod : k % ids.length = 0 ↔ (cursor + k) % ids.length = (cursor + 0) % ids.length :=
    ⟨fun h => Nat.ModEq.add_left cursor h, fun h => Nat.ModEq.add_left_cancel' cursor h⟩
  rw [hmod]
  constructor
  · rintro rfl
    have hlt := (List.getElem?_eq_some_iff.mp ha).1
    exact (getElem?_inj hlt hids).mp (ha.trans hb.symm)
  · intro h
    rw [h, hb] at ha
    exact (some.inj ha).symm

theorem previewItem_of_free {lead : LeadRecord}
    (hget : s.leads.leads.get entry.1.leadId = some lead) (hfree : lead.assignedToId = none) (k : ℕ) :
    s.previewItem rt collate input principal entry k =
      match s.previewTarget rt collate input principal entry k with
      | .ok userId => readyItem entry.1.leadId userId
      | .error f => refusedItem entry.1.leadId (failureReason f) := by
  simp only [BatchService.previewItem, hget, hfree, ne_eq, not_true_eq_false, if_false] <;>
    cases s.previewTarget rt collate input principal entry k <;> rfl

/-- A target of a rule that is not used in turn, or is not that of its batch, is the same at every
position. -/
theorem simulatedTarget_eq (hmanager : principal.hasSome managers)
    (hrule : e.applicableRule (input.context entry) = .ok rule)
    (h : ¬(rule.strategy = .ROUND_ROBIN ∧ input.strategy = .ROUND_ROBIN ∧
      eligibleIds collate rule.candidates ≠ [])) (k : ℕ) :
    simulatedTarget rt collate e input entry principal k =
      simulatedTarget rt collate e input entry principal 0 := by
  rw [simulatedTarget_of_manager hmanager, simulatedTarget_of_manager hmanager,
    Engine.select_of_rule hrule, Engine.select_of_rule hrule]
  by_cases hids : eligibleIds collate rule.candidates = []
  · rw [selectAssignmentCandidate_of_nil hids, selectAssignmentCandidate_of_nil hids]
  · obtain ⟨userId, huser, hselect⟩ := selectAssignmentCandidate_of_ne_nil rt rule.id
      (input.context entry).eventKey rule.strategy rule.cursor k hids
    obtain ⟨userId₀, huser₀, hselect₀⟩ := selectAssignmentCandidate_of_ne_nil rt rule.id
      (input.context entry).eventKey rule.strategy rule.cursor 0 hids
    rw [hselect, hselect₀]
    cases hstrat : rule.strategy with
    | CONTROLLED_RANDOM =>
      rw [hstrat] at huser huser₀
      rw [mem_unique huser huser₀]
    | ROUND_ROBIN =>
      have hne : ¬AssignmentStrategy.ROUND_ROBIN.ofBatch = input.strategy :=
        fun hc => h ⟨hstrat, hc.symm, hids⟩
      simp only [Except.map, Except.bind, checkedTarget, require_neg hne, error_bind]

variable (rt collate) in
/-- **What is shown of an item at two positions**: two candidates of a rule that is used in turn,
or else the same. -/
theorem previewItem_cases (s : BatchService) (input : BatchAssignmentInput) (entry : BatchEntry)
    (n : String → ℕ) (hmanager : principal.hasSome managers) :
    (∃ rule userId userId₀, s.moved collate input entry = some rule ∧ input.strategy = .ROUND_ROBIN ∧
      (eligibleIds collate rule.candidates)[(rule.cursor + n rule.id) %
        (eligibleIds collate rule.candidates).length]? = some userId ∧
      (eligibleIds collate rule.candidates)[(rule.cursor + 0) %
        (eligibleIds collate rule.candidates).length]? = some userId₀ ∧
      s.previewItem rt collate input principal entry (s.engine.position n (input.context entry)) =
        readyItem entry.1.leadId userId ∧
      s.previewItem rt collate input principal entry 0 = readyItem entry.1.leadId userId₀) ∨
    (input.strategy = .ROUND_ROBIN → s.moved collate input entry = none) ∧
      s.previewItem rt collate input principal entry (s.engine.position n (input.context entry)) =
        s.previewItem rt collate input principal entry 0 := by
  cases hget : s.leads.leads.get entry.1.leadId with
  | none =>
    refine .inr ⟨fun _ => ?_, ?_⟩
    · rw [BatchService.moved.eq_def, hget]
    · simp only [BatchService.previewItem, hget]
  | some lead =>
    by_cases hfree : lead.assignedToId = none
    · rw [previewItem_of_free hget hfree, previewItem_of_free hget hfree, BatchService.previewTarget,
        BatchService.previewTarget]
      by_cases hfixed : input.strategy = .FIXED
      · rw [if_pos hfixed, if_pos hfixed]
        exact .inr ⟨fun hround => absurd (hfixed.symm.trans hround) (by decide), rfl⟩
      rw [if_neg hfixed, if_neg hfixed, Engine.position]
      cases hrule : s.engine.applicableRule (input.context entry) with
      | error f =>
        refine .inr ⟨fun _ => ?_, rfl⟩
        rw [BatchService.moved.eq_def, hget, hrule]
      | ok rule =>
        by_cases hround : rule.strategy = .ROUND_ROBIN ∧ input.strategy = .ROUND_ROBIN ∧
          eligibleIds collate rule.candidates ≠ []
        · obtain ⟨hstrat, hinput, hids⟩ := hround
          obtain ⟨userId, huser, htarget⟩ := simulatedTarget_of_round rt hmanager hrule hstrat
            hinput hids (n rule.id)
          obtain ⟨userId₀, huser₀, htarget₀⟩ := simulatedTarget_of_round rt hmanager hrule hstrat
            hinput hids 0
          refine .inl ⟨rule, userId, userId₀, ?_, hinput, huser, huser₀, ?_, ?_⟩
          · exact moved_eq_some_iff.mpr ⟨⟨lead, hget, hfree⟩, hfixed, hrule, hstrat, hids⟩
          · simp only [htarget]
          · simp only [htarget₀]
        · rw [simulatedTarget_eq hmanager hrule hround]
          refine .inr ⟨fun hinput => ?_, rfl⟩
          rw [eq_none_iff_forall_ne_some]
          intro rule' hmoved
          obtain ⟨-, -, hrule', hstrat, hids⟩ := moved_eq_some_iff.mp hmoved
          obtain rfl := Except.ok.inj (hrule.symm.trans hrule')
          exact hround ⟨hstrat, hinput, hids⟩
    · refine .inr ⟨fun _ => ?_, ?_⟩
      · rw [eq_none_iff_forall_ne_some]
        intro rule hmoved
        obtain ⟨⟨l, hl, hnone⟩, -⟩ := moved_eq_some_iff.mp hmoved
        obtain rfl := mem_unique hget hl
        exact hfree hnone
      · simp only [BatchService.previewItem, hget, hfree, ne_eq, not_false_eq_true, if_true]

/-- **What is shown of an item does not depend on the position of its rule**, unless the rule is
used in turn and is not back where it was. -/
theorem previewItem_eq_iff (entry : BatchEntry) (n : String → ℕ)
    (hmanager : principal.hasSome managers) (hdistinct : s.engine.Distinct) :
    s.previewItem rt collate input principal entry (s.engine.position n (input.context entry)) =
        s.previewItem rt collate input principal entry 0 ↔
      (input.strategy = .ROUND_ROBIN → ∀ rule, s.moved collate input entry = some rule →
        n rule.id % (eligibleIds collate rule.candidates).length = 0) := by
  rcases previewItem_cases rt collate s input entry n hmanager with
    ⟨rule, userId, userId₀, hmoved, hinput, huser, huser₀, hitem, hitem₀⟩ | ⟨hmoved, hitem⟩
  · have hmem := mem_of_applicableRule (moved_eq_some_iff.mp hmoved).2.2.1
    rw [hitem, hitem₀, readyItem, readyItem, AssignmentPreviewItem.mk.injEq, some.injEq,
      eq_iff_of_rounds (nodup_eligibleIds (hdistinct rule hmem)) huser huser₀, hmoved]
    constructor
    · rintro ⟨-, hrounds, -⟩ _ rule' hrule'
      rw [← some.inj hrule']
      exact hrounds
    · intro hall
      exact ⟨rfl, hall hinput rule rfl, rfl, rfl⟩
  · refine iff_of_true hitem fun hinput rule hrule => ?_
    rw [hmoved hinput] at hrule
    cases hrule

/-! ### Previews and results -/

def assignees (items : List AssignmentPreviewItem) : List (String × Option String) :=
  (items.filter fun item => item.outcome = .READY).map fun item => (item.leadId, item.selectedUserId)

/-- A preview foresees a result: the same leads are given to the same collaborators, and the same
items are skipped and refused for the same reasons, in their order. -/
def Predicts (items : List AssignmentPreviewItem) (r : AssignmentBatchResult) : Prop :=
  assignees items = r.assigned.map (fun lead => (lead.id, lead.assignedToId)) ∧
    items.filter (fun item => item.outcome = .SKIPPED) = r.skipped ∧
    items.filter (fun item => item.outcome = .REFUSED) = r.refused
deriving Decidable

/-- Two items differ at most in whom they select. -/
structure Akin (item item' : AssignmentPreviewItem) : Prop where
  outcome : item.outcome = item'.outcome
  reason : item.reason = item'.reason
  leadId : item.leadId = item'.leadId
  other : item.outcome ≠ .READY → item = item'

theorem assignees_cons (item : AssignmentPreviewItem) (items : List AssignmentPreviewItem) :
    assignees (item :: items) =
      if item.outcome = .READY then (item.leadId, item.selectedUserId) :: assignees items
      else assignees items := by
  by_cases h : item.outcome = .READY
  · simp [assignees, h]
  · simp [assignees, h]

theorem previewItem_akin (s : BatchService) (input : BatchAssignmentInput) (entry : BatchEntry)
    (hmanager : principal.hasSome managers) (n : String → ℕ) :
    Akin (s.previewItem rt collate input principal entry
        (s.engine.position n (input.context entry)))
      (s.previewItem rt collate input principal entry 0) := by
  rcases previewItem_cases rt collate s input entry n hmanager with
    ⟨rule, userId, userId₀, -, -, -, -, hitem, hitem₀⟩ | ⟨-, hitem⟩
  · rw [hitem, hitem₀]
    exact ⟨rfl, rfl, rfl, fun hne => absurd rfl hne⟩
  · rw [hitem]
    exact ⟨rfl, rfl, rfl, fun _ => rfl⟩

theorem predicts_shown {outcomes : List BatchService.ItemOutcome} {batchId key : String}
    (h : ∀ outcome ∈ outcomes, outcome.Proper) :
    Predicts (outcomes.map BatchService.ItemOutcome.shown)
      (BatchService.batchResult batchId key outcomes) := by
  induction outcomes with
  | nil => exact ⟨rfl, rfl, rfl⟩
  | cons outcome outcomes ih =>
    obtain ⟨hproper, hrest⟩ := forall_mem_cons.mp h
    obtain ⟨hready, hskipped, hrefused⟩ := ih hrest
    cases outcome with
    | assigned lead =>
      exact ⟨congrArg (cons (lead.id, lead.assignedToId)) hready, hskipped, hrefused⟩
    | skipped item =>
      have hout : item.outcome = .SKIPPED := hproper
      simp only [Predicts, map_cons, assignees_cons, BatchService.ItemOutcome.shown, hout,
        filter_cons]
      exact ⟨hready, congrArg (cons item) hskipped, hrefused⟩
    | refused item =>
      have hout : item.outcome = .REFUSED := hproper
      simp only [Predicts, map_cons, assignees_cons, BatchService.ItemOutcome.shown, hout,
        filter_cons]
      exact ⟨hready, hskipped, congrArg (cons item) hrefused⟩

theorem eq_of_akin {items items' : List AssignmentPreviewItem} (h : Forall₂ Akin items items')
    (hready : assignees items = assignees items') : items = items' := by
  induction h with
  | nil => rfl
  | @cons item item' items items' hakin _ ih =>
    rw [assignees_cons, assignees_cons, ← hakin.outcome] at hready
    by_cases hout : item.outcome = .READY
    · rw [if_pos hout, if_pos hout, cons.injEq, Prod.mk.injEq] at hready
      obtain ⟨⟨hlead, huser⟩, hrest⟩ := hready
      rw [ih hrest]
      rw [AssignmentPreviewItem.ext hlead huser hakin.outcome hakin.reason]
    · rw [if_neg hout, if_neg hout] at hready
      rw [ih hready, hakin.other hout]

/-! ### The exact condition -/

theorem exists_split_of_countP {α : Type*} {q : α → Bool} {l : List α} {n : ℕ}
    (h : n < l.countP q) : ∃ pre a post, l = pre ++ a :: post ∧ q a = true ∧ pre.countP q = n := by
  induction l generalizing n with
  | nil => exact absurd h (Nat.not_lt_zero n)
  | cons a l ih =>
    by_cases ha : q a = true
    · rw [countP_cons_of_pos ha] at h
      cases n with
      | zero => exact ⟨[], a, l, rfl, ha, rfl⟩
      | succ n =>
        obtain ⟨pre, b, post, rfl, hb, hcount⟩ := ih (Nat.lt_of_succ_lt_succ h)
        exact ⟨a :: pre, b, post, rfl, hb, by rw [countP_cons_of_pos ha, hcount]⟩
    · rw [countP_cons_of_neg ha] at h
      obtain ⟨pre, b, post, rfl, hb, hcount⟩ := ih h
      exact ⟨a :: pre, b, post, rfl, hb, by rw [countP_cons_of_neg ha, hcount]⟩

/-- **Whole rounds before each of them**: those before each are a multiple of `k` exactly when there
are not two of them, or `k` is one. -/
theorem countP_mod_iff {α : Type*} {q : α → Bool} {l : List α} {k : ℕ} :
    (∀ pre a post, l = pre ++ a :: post → q a = true → pre.countP q % k = 0) ↔
      (2 ≤ l.countP q → k = 1) := by
  constructor
  · intro h htwo
    obtain ⟨pre, a, post, rfl, ha, hcount⟩ := exists_split_of_countP (n := 1) htwo
    have hmod := h pre a post rfl ha
    rw [hcount] at hmod
    exact Nat.dvd_one.mp (Nat.dvd_of_mod_eq_zero hmod)
  · rintro h pre a post rfl ha
    by_cases htwo : 2 ≤ (pre ++ a :: post).countP q
    · rw [h htwo, Nat.mod_one]
    · rw [countP_append, countP_cons_of_pos ha] at htwo
      rw [show pre.countP q = 0 by omega, Nat.zero_mod]

/-- No rule with several candidates to take in turn serves two items of a batch. -/
def Foreseeable (collate : String → String → Bool) (s : BatchService) (input : BatchAssignmentInput) :
    Prop :=
  input.strategy = .ROUND_ROBIN → ∀ rule ∈ s.engine.rules.values,
    2 ≤ s.turns collate input input.items.zipIdx rule.id →
      (eligibleIds collate rule.candidates).length = 1
deriving Decidable

theorem forall₂_akin (s : BatchService) (input : BatchAssignmentInput)
    (hmanager : principal.hasSome managers) (done rest : List BatchEntry) :
    Forall₂ Akin (s.shownAfter rt collate input principal done rest)
      (rest.map fun entry => s.previewItem rt collate input principal entry 0) := by
  induction rest generalizing done with
  | nil => exact .nil
  | cons entry rest ih =>
    exact .cons (previewItem_akin s input entry hmanager _) (ih (done ++ [entry]))

variable (rt collate) in
theorem shownAfter_eq_iff (s : BatchService) (input : BatchAssignmentInput)
    (hmanager : principal.hasSome managers) (hdistinct : s.engine.Distinct)
    (done rest : List BatchEntry) :
    s.shownAfter rt collate input principal done rest =
        (rest.map fun entry => s.previewItem rt collate input principal entry 0) ↔
      (input.strategy = .ROUND_ROBIN → ∀ pre entry post, rest = pre ++ entry :: post →
        ∀ rule, s.moved collate input entry = some rule →
          s.turns collate input (done ++ pre) rule.id %
            (eligibleIds collate rule.candidates).length = 0) := by
  induction rest generalizing done with
  | nil =>
    refine iff_of_true rfl fun _ pre entry post h => ?_
    exact absurd h.symm (append_ne_nil_of_right_ne_nil _ (cons_ne_nil _ _))
  | cons entry rest ih =>
    rw [BatchService.shownAfter, map_cons, cons.injEq,
      previewItem_eq_iff entry _ hmanager hdistinct, ih (done ++ [entry])]
    constructor
    · rintro ⟨hfirst, hrest⟩ hinput pre e post heq rule hrule
      cases pre with
      | nil =>
        obtain ⟨rfl, -⟩ := cons.inj heq
        rw [append_nil]
        exact hfirst hinput rule hrule
      | cons e' pre =>
        obtain ⟨rfl, htail⟩ := cons.inj heq
        have hturns := hrest hinput pre e post htail rule hrule
        rwa [append_assoc, singleton_append] at hturns
    · intro hall
      refine ⟨fun hinput rule hrule => ?_, fun hinput pre e post heq rule hrule => ?_⟩
      · have hturns := hall hinput [] entry rest rfl rule hrule
        rwa [append_nil] at hturns
      · rw [append_assoc, singleton_append]
        exact hall hinput (entry :: pre) e post (congrArg (cons entry) heq) rule hrule

theorem foreseeable_iff (hkeyed : s.engine.Keyed) :
    Foreseeable collate s input ↔
      (input.strategy = .ROUND_ROBIN → ∀ pre entry post, input.items.zipIdx = pre ++ entry :: post →
        ∀ rule, s.moved collate input entry = some rule →
          s.turns collate input pre rule.id % (eligibleIds collate rule.candidates).length = 0) := by
  refine forall_congr' fun hinput => ?_
  simp only [BatchService.turns, ← countP_mod_iff, decide_eq_true_eq]
  constructor
  · intro h pre entry post heq rule hrule
    refine h rule ?_ pre entry post heq (by rw [hrule, map_some])
    exact mem_of_applicableRule (moved_eq_some_iff.mp hrule).2.2.1
  · intro h rule hmem pre entry post heq hid
    obtain ⟨rule', hmoved, hid'⟩ := map_eq_some_iff.mp hid
    -- a rule is known by its identifier
    have hsame : rule' = rule := by
      obtain ⟨k', hk'⟩ := mem_values.mp (mem_of_applicableRule (moved_eq_some_iff.mp hmoved).2.2.1)
      obtain ⟨k, hk⟩ := mem_values.mp hmem
      rw [← hkeyed k' rule' hk', hid'] at hk'
      rw [← hkeyed k rule hk, hk'] at hk
      exact some.inj hk
    rw [← hsame]
    exact h pre entry post heq rule' hmoved

/-! ### Runs of the service -/

/-- What is done to the state of the service: configurations of the engine, batches, and whatever
the other services do to the leads. -/
inductive BatchCall
  | configure (inputs : List AssignmentRuleInput) (principal : Principal) (draw : ℕ → String)
      (now : Instant)
  | leads (leads : {m : LeadMemory // Leads.Keyed m})
  | assignBatch (input : BatchAssignmentInput) (principal : Principal) (correlationId : String)
      (draw : BatchService.BatchDraw)

variable (rt collate) in
def batching : Machine BatchService BatchCall (Outcome (Option AssignmentBatchResult)) where
  step s
    | .configure inputs principal draw now =>
      match s.engine.configure inputs principal draw now with
      | .ok engine => (.ok none, { s with engine })
      | .error f => (.error f, s)
    | .leads leads => (.ok none, { s with leads })
    | .assignBatch input principal correlationId draw =>
      match s.assignBatch rt collate input principal correlationId draw with
      | .ok (r, s') => (.ok (some r), s')
      | .error f => (.error f, s)

structure BatchService.Sound (s : BatchService) : Prop where
  rules : s.engine.Keyed
  distinct : s.engine.Distinct
  leads : Leads.Keyed s.leads
  /-- The decisions of the engine are those of batches that were completed. -/
  decided : ∀ key decision, s.engine.decisions.get key = some decision →
    ∃ idempotencyKey index, key = eventKey idempotencyKey index ∧
      s.completed.get idempotencyKey ≠ none

theorem BatchService.sound_init : BatchService.Sound {} where
  rules id rule h := by cases h
  distinct rule h := by cases h
  leads id lead h := by cases h
  decided key decision h := by cases h

theorem configure_sound {inputs : List AssignmentRuleInput} {draw : ℕ → String} {now : Instant}
    (h : e.configure inputs principal draw now = .ok e') :
    e'.Keyed ∧ e'.Distinct ∧ e'.decisions = e.decisions := by
  simp only [Engine.configure, ok_iff] at h
  obtain ⟨-, -, -, -, rules, hsnap, rfl⟩ := h
  have hget : ∀ id rule, (ofList (rules.map fun rule => (rule.id, rule))).get id = some rule →
      rule.id = id ∧ rule ∈ rules := by
    intro id rule hrule
    obtain ⟨r, hr, heq⟩ := mem_map.mp (mem_of_get_ofList hrule)
    obtain ⟨rfl, rfl⟩ := Prod.mk.inj heq
    exact ⟨rfl, hr⟩
  refine ⟨fun id rule hrule => (hget id rule hrule).1, fun rule hrule => ?_, rfl⟩
  obtain ⟨id, hid⟩ := mem_values.mp hrule
  have hmem := (hget id rule hid).2
  simp only [snapshotRules, ok_iff] at hsnap
  obtain ⟨normalized, hnormalized, -, -, -, -, rfl⟩ := hsnap
  obtain ⟨entry, -, hentry⟩ := exists_of_mem_mapM hnormalized hmem
  simp only [normalizeRule, ok_iff] at hentry
  obtain ⟨-, -, -, -, -, -, -, hdistinct, rfl⟩ := hentry
  exact hdistinct

theorem Engine.Distinct.advance (h : e.Distinct) (hkeyed : e.Keyed) (hrule : rule ∈ e.rules.values) :
    (e.advance rule).Distinct := by
  by_cases hstrat : rule.strategy = .ROUND_ROBIN
  · intro r hr
    rw [hkeyed.values_advance hrule hstrat] at hr
    obtain ⟨r', hr', rfl⟩ := mem_map.mp hr
    exact h r' hr'
  · rw [Engine.advance, if_neg hstrat]
    exact h

/-- What a batch keeps while it goes on: as every state does, but that the decisions may be its
own. -/
structure BatchService.Going (idempotencyKey : String) (s : BatchService) : Prop where
  rules : s.engine.Keyed
  distinct : s.engine.Distinct
  leads : Leads.Keyed s.leads
  decided : ∀ key decision, s.engine.decisions.get key = some decision →
    ∃ k index, key = eventKey k index ∧ (k = idempotencyKey ∨ s.completed.get k ≠ none)

variable (rt collate) in
theorem BatchService.Going.engineTarget (h : s.Going input.idempotencyKey) (entry : BatchEntry)
    (principal : Principal) (decisionId : String) (now : Instant) :
    BatchService.Going input.idempotencyKey { s with
      engine := (engineTarget rt collate s.engine input entry principal decisionId now).2 } := by
  rw [Assignment.engineTarget]
  cases hassign : s.engine.assign rt collate (input.context entry) principal decisionId now with
  | error f => exact h
  | ok p =>
    obtain ⟨decision, e'⟩ := p
    simp only [Engine.assign, ok_iff] at hassign
    obtain ⟨-, -, hassign⟩ := hassign
    split at hassign
    · simp only [pure_ok_iff, Prod.mk.injEq] at hassign
      obtain ⟨-, rfl⟩ := hassign
      exact h
    · simp only [Engine.select, ok_iff] at hassign
      obtain ⟨_, ⟨rule, hrule, selection, -, rfl⟩, -, rfl⟩ := hassign
      refine ⟨h.rules.advance rule, h.distinct.advance h.rules (mem_of_applicableRule hrule), h.leads,
        fun key decision hkey => ?_⟩
      rw [get_set, Engine.decisions_advance] at hkey
      split at hkey
      · rename_i hkey'
        exact ⟨input.idempotencyKey, entry.2, hkey', .inl rfl⟩
      · exact h.decided key decision hkey

variable (rt collate) in
theorem BatchService.Going.assignItem (h : s.Going input.idempotencyKey) (principal : Principal)
    (correlationId : String) (entry : BatchEntry) (decisionId : String) (o : Occasion) :
    (s.assignItem rt collate input principal correlationId entry decisionId o).2.Going
        input.idempotencyKey ∧
      (s.assignItem rt collate input principal correlationId entry decisionId o).2.completed =
        s.completed := by
  have htarget : BatchService.Going input.idempotencyKey { s with
      engine := (s.batchTarget rt collate input principal entry decisionId o).2 } := by
    rw [BatchService.batchTarget]
    split
    · exact h
    · exact h.engineTarget rt collate entry principal decisionId o.now
  rw [BatchService.assignItem.eq_def]
  split
  · exact ⟨h, rfl⟩
  · split
    · exact ⟨h, rfl⟩
    · split
      · rename_i hfound
        rw [hfound] at htarget
        exact ⟨htarget, rfl⟩
      · rename_i target engine hfound
        rw [hfound] at htarget
        split
        · exact ⟨htarget, rfl⟩
        · rename_i lead leads hassign
          simp only [assignLocalLead, requireLead, ok_iff] at hassign
          obtain ⟨-, -, current, -, -, -, -, rfl⟩ := hassign
          exact ⟨{ htarget with leads := h.leads.record _ _ }, rfl⟩

variable (rt collate) in
theorem BatchService.Going.assignItems (h : s.Going input.idempotencyKey) (principal : Principal)
    (correlationId : String) (draw : BatchService.BatchDraw) (entries : List BatchEntry) :
    (BatchService.assignItems rt collate input principal correlationId draw entries s).2.Going
        input.idempotencyKey ∧
      (BatchService.assignItems rt collate input principal correlationId draw entries s).2.completed =
        s.completed := by
  induction entries generalizing s with
  | nil => exact ⟨h, rfl⟩
  | cons entry entries ih =>
    obtain ⟨hitem, hcompleted⟩ := h.assignItem rt collate principal
      correlationId entry (draw.decisionId entry.2) (draw.occasion entry.2)
    obtain ⟨hitems, hcompleteds⟩ := ih hitem
    exact ⟨hitems, hcompleteds.trans hcompleted⟩

theorem BatchService.Sound.step (h : s.Sound) (call : BatchCall) :
    ((batching rt collate).next s call).Sound := by
  cases call with
  | configure inputs principal draw now =>
    simp only [Machine.next, batching]
    cases hconfigure : s.engine.configure inputs principal draw now with
    | error f => exact h
    | ok engine =>
      obtain ⟨hkeyed, hdistinct, hdecisions⟩ := configure_sound hconfigure
      exact ⟨hkeyed, hdistinct, h.leads, fun key decision hkey =>
        h.decided key decision (hdecisions ▸ hkey)⟩
  | leads leads => exact { h with leads := leads.2 }
  | assignBatch input principal correlationId draw =>
    simp only [Machine.next, batching]
    cases hassign : s.assignBatch rt collate input principal correlationId draw with
    | error f => exact h
    | ok p =>
      simp only [BatchService.assignBatch, bind_ok_iff] at hassign
      obtain ⟨-, -, hassign⟩ := hassign
      split at hassign
      · rw [← pure_ok_iff.mp hassign]
        exact h
      · have hgoing : s.Going input.idempotencyKey :=
          ⟨h.rules, h.distinct, h.leads, fun key decision hkey => by
            obtain ⟨k, index, hk, hcompleted⟩ := h.decided key decision hkey
            exact ⟨k, index, hk, .inr hcompleted⟩⟩
        obtain ⟨hend, hcompleted⟩ := hgoing.assignItems rt collate principal
          correlationId draw input.items.zipIdx
        rw [← pure_ok_iff.mp hassign]
        refine ⟨hend.rules, hend.distinct, hend.leads, fun key decision hkey => ?_⟩
        obtain ⟨k, index, hk, hor⟩ := hend.decided key decision hkey
        refine ⟨k, index, hk, ?_⟩
        rw [get_set]
        split
        · exact some_ne_none _
        · rename_i hne
          exact hor.resolve_left hne

variable (rt collate) in
theorem sound_run (calls : List BatchCall) : ((batching rt collate).run {} calls).Sound :=
  Machine.run_of_stable (P := BatchService.Sound) (fun _ call hs => hs.step call)
    BatchService.sound_init calls

/-- The outcomes of a preview and of its batch: both are refused alike, or the preview foresees the
result. -/
def Agree : Outcome (List AssignmentPreviewItem) → Outcome (AssignmentBatchResult × BatchService) →
    Prop
  | .ok items, .ok (r, _) => Predicts items r
  | .error f, .error f' => f = f'
  | _, _ => False

instance : ∀ x y, Decidable (Agree x y)
  | .ok items, .ok (r, _) => inferInstanceAs (Decidable (Predicts items r))
  | .error f, .error f' => inferInstanceAs (Decidable (f = f'))
  | .ok _, .error _ => inferInstanceAs (Decidable False)
  | .error _, .ok _ => inferInstanceAs (Decidable False)

def Foresees (rt : Runtime) (collate : String → String → Bool) (s : BatchService)
    (input : BatchAssignmentInput) (principal : Principal) (correlationId : String)
    (draw : BatchService.BatchDraw) : Prop :=
  Agree (s.preview rt collate input principal)
    (s.assignBatch rt collate input principal correlationId draw)
deriving Decidable

variable (collate) in
theorem BatchService.Sound.ahead (h : s.Sound) (hnew : s.completed.get input.idempotencyKey = none) :
    Ahead collate s s input [] input.items.zipIdx where
  rules := h.rules
  leads := h.leads
  same _ _ := rfl
  undecided entry _ := by
    rw [eq_none_iff_forall_ne_some]
    intro decision hdec
    obtain ⟨k, index, hk, hcompleted⟩ := h.decided _ decision hdec
    rw [← (Js.numbered_inj hk).1] at hcompleted
    exact hcompleted hnew
  turned := s.engine.turned_self

namespace Rounds

def manager : Principal := ⟨"manager", [.MANAGER], [.GLOBAL], "session"⟩

/-- One rule, of two collaborators in turn. -/
def rules : List AssignmentRuleInput :=
  [{ scope := .GLOBAL, strategy := .ROUND_ROBIN, enabled := true
     candidates := [
       { userId := "first", active := true, capacity := 10, activeLeadCount := 0 },
       { userId := "second", active := true, capacity := 10, activeLeadCount := 0 }] }]

def lead (id : String) : LeadRecord :=
  { id, leadCode := id, status := .PROSPECT, firstName := "Lead", lastName := "Lead"
    campus := "campus", campaign := "campaign", educationLevel := "BAC", program := "program"
    source := "FORM", createdAt := 0 }

def note (leadId : String) : LeadActivityRecord :=
  { id := "activity-" ++ leadId, leadId, type := .LEAD_CREATED, result := "CREATED"
    authorId := "manager", correlationId := "correlation", occurredAt := 0 }

def leads : {m : LeadMemory // Leads.Keyed m} :=
  ⟨(init.record (lead "lead-1") (note "lead-1")).record (lead "lead-2") (note "lead-2"),
    (Leads.Keyed.record (Leads.Keyed.record (fun _ _ h => by cases h) _ _) _ _)⟩

def calls : List BatchCall := [.configure rules manager (fun _ => "rule") 0, .leads leads]

def batch (leadIds : List String) : BatchAssignmentInput :=
  { idempotencyKey := "batch-0001", strategy := .ROUND_ROBIN, confirmed := true
    items := leadIds.map fun leadId => { leadId, source := "FORM", campaign := "campaign" } }

def draw : BatchService.BatchDraw :=
  ⟨"result", fun i => "decision-" ++ toString i, fun _ => ⟨"activity", "outbox", 1, 1⟩⟩

end Rounds

end CrmYnov.Assignment
