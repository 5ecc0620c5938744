import CrmYnov.Assignment.Resolver

/-!
# What a preview of an import foresees

A preview resolves the records of an import from one state, at virtual positions along the
cursors; a confirmed import resolves them one after the other, and each moves the cursors and
adds a lead to the load of a collaborator. The positions of the preview are those the cursors
come to, so both resolve each record alike as long as nobody who could be given leads at the
start has come to his capacity (`CrmYnov.Assignment.preview_agrees`).
-/

namespace CrmYnov.Assignment

open Checked References Permissions Ingestion Table Leads IngestionRecordInput List Option

variable {rt : Runtime} {collate : String → String → Bool}

/-! ### Loads -/

/-- What an import leaves of a state: the same collaborators and rules, more leads, and cursors
that have moved by so many positions. -/
structure Progress (s s' : CampusBook) (offsets : Cohort → ℕ) : Prop where
  references : s'.db.references = s.db.references
  collaborators : s'.db.collaborators = s.db.collaborators
  configurations : s'.configurations = s.configurations
  versions : s'.versions = s.versions
  leads : Sublist s.db.leads.rows s'.db.leads.rows
  cursors : ∀ cohort, s'.ledger.cursor cohort = s.ledger.cursor cohort + offsets cohort

/-- Nobody of some candidates has come to his capacity. -/
def Roomy (s s' : CampusBook) (candidates : List AssignmentCandidate) : Prop :=
  ∀ c ∈ candidates, ∀ id, readUuid c.userId = some id →
    (activeLeadCount s.db id : ℤ) < c.capacity → (activeLeadCount s'.db id : ℤ) < c.capacity

/-- Two readings of a candidate agree on who it is, and on whether it may be given leads. -/
def SameCandidate (c c' : AssignmentCandidate) : Prop :=
  c'.userId = c.userId ∧ (c'.Eligible ↔ c.Eligible)

variable {s s' : CampusBook} {offsets : Cohort → ℕ}

theorem activeLeadCount_le (h : Progress s s' offsets) (userId : String) :
    activeLeadCount s.db userId ≤ activeLeadCount s'.db userId :=
  (h.leads.filter _).length_le

variable {eligibility : Eligibility}

/-- **A candidate is read alike while there is room.** -/
theorem eligibleAssignmentCandidate_progress (h : Progress s s' offsets)
    {c c₀ : AssignmentCandidate} {campusId : String} (hroom : Roomy s s' [c])
    (hc : eligibleAssignmentCandidate rt s.db c campusId eligibility = .ok c₀) :
    ∃ c₁, eligibleAssignmentCandidate rt s'.db c campusId eligibility = .ok c₁ ∧
      SameCandidate c₀ c₁ := by
  simp only [eligibleAssignmentCandidate, ok_iff] at hc ⊢
  obtain ⟨id, hid, hc⟩ := hc
  rw [h.collaborators, h.references]
  split at hc
  · rename_i hnone
    refine ⟨c₀, ⟨id, hid, ?_⟩, rfl, Iff.rfl⟩
    rw [hnone]
    exact hc
  · rename_i user hsome
    simp only [bind_ok_iff] at hc
    obtain ⟨campus, hcampus, allowed, hallow, hc⟩ := hc
    have huser : user.id = id := by
      have hfound := (filter_eq_some_iff.mp hsome).1
      exact Users.CollaboratorRow.mem_keys_id.mp (findUnique_eq_some.mp hfound).2
    have hroom' := hroom c mem_cons_self id hid
    have hle := activeLeadCount_le h id
    split at hc
    · rename_i hyes
      cases hc
      refine ⟨{ c with
        active := c.active && campus.id = campusId
        activeLeadCount := activeLeadCount s'.db user.id }, ⟨id, hid, ?_⟩, ?_⟩
      · rw [hsome]
        simp only [bind_ok_iff]
        refine ⟨campus, hcampus, allowed, hallow, ?_⟩
        rw [if_pos hyes]
        rfl
      · refine ⟨rfl, ?_⟩
        simp only [AssignmentCandidate.Eligible, huser]
        constructor
        · rintro ⟨hactive, hsusp, hexcluded, hlt⟩
          exact ⟨hactive, hsusp, hexcluded, by omega⟩
        · rintro ⟨hactive, hsusp, hexcluded, hlt⟩
          exact ⟨hactive, hsusp, hexcluded, hroom' hlt⟩
    · rename_i hno
      refine ⟨c₀, ⟨id, hid, ?_⟩, rfl, Iff.rfl⟩
      rw [hsome]
      simp only [bind_ok_iff]
      refine ⟨campus, hcampus, allowed, hallow, ?_⟩
      rw [if_neg hno]
      exact hc

theorem Roomy.of_mem {candidates : List AssignmentCandidate} (h : Roomy s s' candidates)
    {c : AssignmentCandidate} (hc : c ∈ candidates) : Roomy s s' [c] :=
  fun c' hc' => by
    obtain rfl := mem_singleton.mp hc'
    exact h c' hc

theorem mapM_eligible_progress (h : Progress s s' offsets)
    {candidates l₀ : List AssignmentCandidate} {campusId : String} (hroom : Roomy s s' candidates)
    (hl : candidates.mapM (fun c => eligibleAssignmentCandidate rt s.db c campusId eligibility) =
      .ok l₀) :
    ∃ l₁, candidates.mapM (fun c => eligibleAssignmentCandidate rt s'.db c campusId eligibility) =
        .ok l₁ ∧ Forall₂ SameCandidate l₀ l₁ := by
  have hall := mapM_ok_iff.mp hl
  clear hl
  induction hall with
  | nil => exact ⟨[], rfl, .nil⟩
  | @cons c c₀ candidates l₀ hc _ ih =>
    obtain ⟨c₁, hc₁, hsame⟩ :=
      eligibleAssignmentCandidate_progress h (hroom.of_mem mem_cons_self) hc
    obtain ⟨l₁, hl₁, hsames⟩ := ih fun c' hc' => hroom c' (mem_cons_of_mem c hc')
    refine ⟨c₁ :: l₁, ?_, .cons hsame hsames⟩
    rw [mapM_ok_iff] at hl₁ ⊢
    exact .cons hc₁ hl₁

theorem eligibleIds_eq (candidates : List AssignmentCandidate) : eligibleIds collate candidates =
    ((candidates.filter AssignmentCandidate.Eligible).map AssignmentCandidate.userId).insertionSort
      fun a b => collate a b :=
  map_insertionSort (fun a b : AssignmentCandidate => collate a.userId b.userId)
    (fun a b => collate a b) AssignmentCandidate.userId _ fun _ _ _ _ => Iff.rfl

theorem eligibleIds_congr {l₀ l₁ : List AssignmentCandidate} (h : Forall₂ SameCandidate l₀ l₁) :
    eligibleIds collate l₁ = eligibleIds collate l₀ := by
  have hmap : (l₁.filter AssignmentCandidate.Eligible).map AssignmentCandidate.userId =
      (l₀.filter AssignmentCandidate.Eligible).map AssignmentCandidate.userId := by
    induction h with
    | nil => rfl
    | @cons c₀ c₁ l₀ l₁ hsame _ ih =>
      obtain ⟨hid, helig⟩ := hsame
      by_cases hc : c₀.Eligible
      · have hc₁ : c₁.Eligible := helig.mpr hc
        simp only [filter_cons, hc, hc₁, decide_true, if_true, map_cons, hid, ih]
      · have hc₁ : ¬c₁.Eligible := fun hc₁ => hc (helig.mp hc₁)
        simp only [filter_cons, hc, hc₁, decide_false, Bool.false_eq_true, if_false, ih]
  rw [eligibleIds_eq, eligibleIds_eq, hmap]

theorem fixedSheetTarget_progress (h : Progress s s' offsets)
    {candidates : List AssignmentCandidate} {targetUserId : Option String}
    {campusId target : String} (hroom : Roomy s s' candidates)
    (ht : fixedSheetTarget rt s.db candidates targetUserId campusId eligibility = .ok target) :
    fixedSheetTarget rt s'.db candidates targetUserId campusId eligibility = .ok target := by
  simp only [fixedSheetTarget, ok_iff] at ht ⊢
  obtain ⟨c, hc, current, hcur, _, heligible, rfl⟩ := ht
  obtain ⟨c₁, hc₁, hid, hiff⟩ := eligibleAssignmentCandidate_progress h
    (hroom.of_mem (mem_of_find?_eq_some hc)) hcur
  exact ⟨c, hc, c₁, hc₁, (), hiff.mpr heligible, hid⟩

/-! ### Resolving the same record -/

variable (rt collate) in
/-- **A rule that has moved on selects what it would select that much further on.** -/
theorem selectAssignmentCandidate_progress {l₀ l₁ : List AssignmentCandidate}
    (h : Forall₂ SameCandidate l₀ l₁) (ruleId key : String) (strategy : AssignmentStrategy)
    (cursor offset : ℕ) :
    selectAssignmentCandidate rt collate ruleId strategy (cursor + offset) l₁ key 0 =
      selectAssignmentCandidate rt collate ruleId strategy cursor l₀ key offset := by
  simp only [selectAssignmentCandidate, eligibleIds_congr h, Nat.add_zero]

theorem resolveByRule_progress (h : Progress s s' offsets) {assignment : BatchAssignment}
    {rule : AssignmentRuleInput} {campusId : String} {version : ℤ}
    {evidence selected : ResolvedAssignment} {automatic : Bool} {pick : ℕ → Option ℤ}
    (hroom : Roomy s s' rule.candidates)
    (hs : resolveByRule rt collate s assignment rule campusId version evidence
      (offsets ⟨campusId, version, rule.id.getD "absent"⟩) automatic eligibility false pick =
        .ok selected) :
    resolveByRule rt collate s' assignment rule campusId version evidence 0 automatic eligibility
      false pick = .ok selected := by
  simp only [resolveByRule, ok_iff] at hs ⊢
  obtain ⟨ruleId, hrule, hs⟩ := hs
  have hid : rule.id.getD "absent" = ruleId := by
    rw [(filter_eq_some_iff.mp hrule).1]
    rfl
  refine ⟨ruleId, hrule, ?_⟩
  split at hs
  · rename_i hfixed
    simp only [ok_iff] at hs
    obtain ⟨target, htarget, rfl⟩ := hs
    simp only [if_pos hfixed, fixedSheetTarget_progress h hroom htarget, ok_bind]
    rfl
  · rename_i hfixed
    simp only [ok_iff] at hs
    obtain ⟨_, hstrat, l₀, hl₀, hs⟩ := hs
    obtain ⟨l₁, hl₁, hsame⟩ := mapM_eligible_progress h hroom hl₀
    rw [if_neg hfixed]
    simp only [ok_iff]
    refine ⟨(), hstrat, l₁, hl₁, ?_⟩
    split at hs
    · rename_i hbalance
      rw [if_pos hbalance]
      exact hs
    · rename_i hbalance
      rw [if_neg hbalance, h.cursors, ← hid]
      rw [← hid] at hs
      simp only [selectAssignmentCandidate_progress rt collate hsame]
      exact hs

theorem readCampusRules_progress (h : Progress s s' offsets) (campusId : String) :
    readCampusRules s' campusId = readCampusRules s campusId := by
  rw [readCampusRules, readCampusRules, h.configurations, h.versions]

variable {configuration : CampusRules} {selected : ResolvedAssignment}

/-- **A record is resolved alike further on**, at the position its rule has come to. -/
theorem resolveImportRecord_progress (h : Progress s s' offsets)
    {input : IngestionBatchInput} {record : IngestionRecordInput}
    {campusId : String} {rule : Option AssignmentRuleInput}
    (hconfig : readCampusRules s campusId = .ok configuration)
    (hrule : applicableCampusRule configuration.rules record.source (record.campaign.getD "") =
      .ok rule) (hroom : ∀ r ∈ rule, Roomy s s' r.candidates)
    (hs : resolveImportRecord rt collate s input record campusId
      (offsets (offsetKey campusId configuration.version rule)) = .ok selected) :
    resolveImportRecord rt collate s' input record campusId 0 = .ok selected := by
  rw [resolveImportRecord, prepareSheetAssignment] at hs ⊢
  split at hs
  · rename_i hunassigned
    rw [if_pos hunassigned]
    exact hs
  · rename_i hunassigned
    rw [if_neg hunassigned, h.references, readCampusRules_progress h, hconfig]
    rw [hconfig] at hs
    simp only [bind_ok_iff] at hs ⊢
    obtain ⟨campus, hcampus, configuration', hconf, hs⟩ := hs
    cases hconf
    refine ⟨campus, hcampus, configuration, rfl, ?_⟩
    rw [resolveByRules] at hs ⊢
    split at hs
    · rename_i hautomatic
      rw [if_pos hautomatic]
      exact hs
    · rename_i hautomatic
      rw [if_neg hautomatic, hrule]
      rw [hrule] at hs
      cases rule with
      | none => exact hs
      | some r => exact resolveByRule_progress h (hroom r rfl) hs

theorem resolveImportRecord_ok {input : IngestionBatchInput}
    {record : IngestionRecordInput} {campusId : String}
    {rule : Option AssignmentRuleInput} {offset : ℕ}
    (hconfig : readCampusRules s campusId = .ok configuration)
    (hrule : applicableCampusRule configuration.rules record.source (record.campaign.getD "") =
      .ok rule) (hs : resolveImportRecord rt collate s input record campusId offset = .ok selected) :
    selected.newEntrantReservation = none ∧ ∀ selection ∈ selected.selection,
      selected.campusId = some campusId ∧
        selected.configurationVersion = some configuration.version ∧
        ∃ r ∈ rule, r.id = some selection.ruleId := by
  rw [resolveImportRecord, prepareSheetAssignment] at hs
  split at hs
  · cases hs
    exact ⟨rfl, fun selection hselection => by cases hselection⟩
  rw [hconfig] at hs
  simp only [bind_ok_iff] at hs
  obtain ⟨campus, -, configuration', hconf, hs⟩ := hs
  cases hconf
  rw [resolveByRules] at hs
  split at hs
  · cases hs
    exact ⟨rfl, fun selection hselection => by cases hselection⟩
  rw [hrule] at hs
  cases rule with
  | none =>
    cases hs
    exact ⟨rfl, fun selection hselection => by cases hselection⟩
  | some r =>
    have hs' : resolveByRule rt collate s input.assignment r campusId configuration.version _ offset
      _ none false _ = .ok selected := hs
    simp only [resolveByRule, ok_iff] at hs'
    obtain ⟨ruleId, hid, hs'⟩ := hs'
    split at hs'
    · simp only [ok_iff] at hs'
      obtain ⟨target, -, rfl⟩ := hs'
      exact ⟨rfl, fun selection hselection => by cases hselection⟩
    · simp only [bind_ok_iff] at hs'
      obtain ⟨-, -, candidates, -, hs'⟩ := hs'
      split at hs'
      · cases hs'
        exact ⟨rfl, fun selection hselection => by cases hselection⟩
      · simp only [selectAssignmentCandidate, ok_iff] at hs'
        obtain ⟨_, ⟨-, -, userId, -, rfl⟩, rfl⟩ := hs'
        refine ⟨rfl, fun selection hselection => ⟨rfl, rfl, r, rfl, ?_⟩⟩
        rw [← some.inj hselection]
        exact (filter_eq_some_iff.mp hid).1

theorem version_pos {campusId source campaign : String} {r : AssignmentRuleInput}
    (hversions : ∀ v ∈ s.versions.rows, 1 ≤ v.version)
    (hconfig : readCampusRules s campusId = .ok configuration)
    (hrule : applicableCampusRule configuration.rules source campaign = .ok (some r)) :
    configuration.version ≠ 0 := by
  rw [readCampusRules] at hconfig
  split at hconfig
  · cases hconfig
    cases hrule
  · simp only [ok_iff] at hconfig
    obtain ⟨snapshot, hsnap, _, -, rfl⟩ := hconfig
    have hpos := hversions snapshot (findUnique_eq_some.mp hsnap).1
    show snapshot.version ≠ 0
    omega

/-! ### Committing -/

/-- **Moving a cursor moves it by one, and no other.** -/
theorem moveCursor_moves (s : Ledger) (cohort : Cohort) : ∃ s', moveCursor s cohort = .ok s' ∧
    ∀ k, s'.cursor k = s.cursor k + if k = cohort then 1 else 0 := by
  rw [moveCursor]
  cases hfound : s.cursors.findUnique cohort with
  | none =>
    have hfree : (s.cursors.create { cohort with cursor := 1 }).isSome := by
      rw [create_isSome]
      intro k hk
      rw [CampusAssignmentCursorRow.keys, mem_singleton] at hk
      rw [hk]
      exact hfound
    obtain ⟨cursors, hcreate⟩ := isSome_iff_exists.mp hfree
    refine ⟨{ s with cursors }, ?_, fun k => ?_⟩
    · simp only [insert, hcreate, demand_some, ok_bind]
      rfl
    · rw [Ledger.cursor, Ledger.cursor, findUnique_create hcreate]
      simp only [CampusAssignmentCursorRow.keys, mem_singleton]
      split
      · rename_i hk
        rw [hk, hfound]
        rfl
      · rfl
  | some row =>
    refine ⟨_, rfl, fun k => ?_⟩
    rw [Ledger.cursor, Ledger.cursor, findUnique_updateMany]
    cases hk : s.cursors.findUnique k with
    | none =>
      have hne : k ≠ cohort := by
        rintro rfl
        rw [hk] at hfound
        cases hfound
      rw [if_neg hne]
      rfl
    | some r =>
      obtain rfl : k = r.toCohort :=
        mem_singleton.mp (findUnique_eq_some.mp hk).2
      by_cases hc : r.toCohort = cohort
      · simp [hc, CampusAssignmentCursorRow.increment]
      · simp [hc]

/-- What a record needs to be written: new keys, and an identifier. -/
def Free (db : Database) (lead : LeadRow) : Prop :=
  lead.id ≠ "" ∧ ∀ k ∈ lead.keys, db.leads.findUnique k = none

variable {authorize : CanonicalCampus → Outcome Unit}

/-- **Committing a record moves the cursor it was resolved along.** -/
theorem commitImportRecord_ok (h : Progress s s' offsets) {input : IngestionBatchInput}
    {record : IngestionRecordInput} {lead : LeadRow} {campus : CanonicalCampus}
    {rule : Option AssignmentRuleInput}
    (hcampus : canonicalCampus rt s.db.references (record.campus.getD "") = .ok campus)
    (hid : campus.id ≠ "") (hauthorized : authorize campus = .ok ())
    (hversions : ∀ v ∈ s.versions.rows, 1 ≤ v.version)
    (hconfig : readCampusRules s campus.id = .ok configuration)
    (hrule : applicableCampusRule configuration.rules record.source (record.campaign.getD "") =
      .ok rule) (hroom : ∀ r ∈ rule, Roomy s s' r.candidates) (hfree : Free s'.db lead)
    (hs : resolveImportRecord rt collate s input record campus.id
      (offsets (offsetKey campus.id configuration.version rule)) = .ok selected) :
    ∃ s'', commitImportRecord rt collate s' input authorize record lead = .ok (selected, s'') ∧
      Progress s s'' fun k => offsets k +
        if selected.selection.map AssignmentSelection.strategy = some .ROUND_ROBIN ∧
          k = offsetKey campus.id configuration.version rule then 1 else 0 := by
  have hresolved := resolveImportRecord_progress h hconfig hrule hroom hs
  obtain ⟨hreservation, hselection⟩ := resolveImportRecord_ok hconfig hrule hs
  have hcreate : (s'.db.leads.create { lead with
      assignedToId := selected.targetUserId.bind readUuid
      assignmentMode := selected.targetUserId.map fun _ => input.assignment.strategy }).isSome :=
    create_isSome.mpr hfree.2
  obtain ⟨leads, hleads⟩ := isSome_iff_exists.mp hcreate
  have hgrow : Sublist s.db.leads.rows leads.rows := by
    rw [create_rows hleads]
    exact h.leads.trans (sublist_append_left _ _)
  -- what the commit of the assignment does to the ledger
  have hcommit : ∃ ledger, commitSheetAssignment rt { s'.db with leads } s'.ledger
      selected.toSheetAssignment lead.id = .ok ledger ∧ ∀ k, ledger.cursor k = s'.ledger.cursor k +
        if selected.selection.map AssignmentSelection.strategy = some .ROUND_ROBIN ∧
          k = offsetKey campus.id configuration.version rule then 1 else 0 := by
    rw [commitSheetAssignment, hreservation]
    cases hsel : selected.selection with
    | none => exact ⟨s'.ledger, rfl, fun k => by simp⟩
    | some selection =>
      obtain ⟨hcampusId, hver, r, hr, hruleId⟩ := hselection selection hsel
      obtain rfl : rule = some r := hr
      have hpos := version_pos hversions hconfig hrule
      have hcampusText : nonEmpty selected.campusId = some campus.id := by
        rw [hcampusId, nonEmpty, filter_some, if_pos (decide_eq_true hid)]
      have hversionText : (selected.configurationVersion.filter fun v => v ≠ 0) =
          some configuration.version := by
        rw [hver, filter_some, if_pos (decide_eq_true hpos)]
      have hkey : offsetKey campus.id configuration.version (some r) =
          ⟨campus.id, configuration.version, selection.ruleId⟩ := by
        rw [offsetKey, bind_some, hruleId, getD_some]
      simp only [hcampusText, hversionText, demand_some, ok_bind, require_pos hfree.1, map_some,
        some.injEq]
      by_cases hstrat : selection.strategy = .ROUND_ROBIN
      · obtain ⟨ledger, hmove, hcursor⟩ := moveCursor_moves s'.ledger
          ⟨campus.id, configuration.version, selection.ruleId⟩
        refine ⟨ledger, ?_, fun k => ?_⟩
        · rw [if_pos hstrat]
          exact hmove
        · rw [hcursor, hkey]
          simp only [hstrat, true_and]
      · refine ⟨s'.ledger, ?_, fun k => ?_⟩
        · rw [if_neg hstrat]
          rfl
        · simp only [hstrat, false_and, if_false, Nat.add_zero]
  obtain ⟨ledger, hledger, hcursors⟩ := hcommit
  rw [← h.references] at hcampus
  refine ⟨{ s' with db := { s'.db with leads }, ledger }, ?_, ?_⟩
  · simp only [commitImportRecord, hcampus, ok_bind, hauthorized, hresolved, insert,
      hleads, demand_some, hledger]
    rfl
  · refine ⟨h.references, h.collaborators, h.configurations, h.versions, hgrow, fun k => ?_⟩
    rw [hcursors, h.cursors, Nat.add_assoc]

/-! ### A whole import -/

/-- What is stored: references have identifiers, and versions are numbered from one. -/
structure Stored (s : CampusBook) : Prop where
  references : ∀ r ∈ s.db.references.references.rows, r.id ≠ ""
  versions : ∀ v ∈ s.versions.rows, 1 ≤ v.version

/-- The candidates of the rule of a record, when it has one, have room. -/
def RoomyFor (rt : Runtime) (s s' : CampusBook) (record : IngestionRecordInput) : Prop :=
  ∀ campus configuration rule,
    canonicalCampus rt s.db.references (record.campus.getD "") = .ok campus →
    readCampusRules s campus.id = .ok configuration →
    applicableCampusRule configuration.rules record.source (record.campaign.getD "") =
      .ok (some rule) → Roomy s s' rule.candidates

/-- In a run of commits, the candidates of each rule have room when it is applied. -/
def RoomyRun (rt : Runtime) (collate : String → String → Bool) (s : CampusBook)
    (input : IngestionBatchInput) (authorize : CanonicalCampus → Outcome Unit)
    (s₁ : CampusBook) (entries : List (IngestionRecordInput × LeadRow)) : Prop :=
  ∀ pre entry post, entries = pre ++ entry :: post → ∀ committed s',
    commitImportRecords rt collate s₁ input authorize pre = .ok (committed, s') →
      RoomyFor rt s s' entry.1

/-- Some leads can be written one after the other. -/
def AllFree (db : Database) (leads : List LeadRow) : Prop :=
  (∀ lead ∈ leads, Free db lead) ∧ leads.Pairwise fun a b => a.keys.Disjoint b.keys

theorem commitImportRecord_leads {input : IngestionBatchInput}
    {record : IngestionRecordInput} {lead : LeadRow}
    (h : commitImportRecord rt collate s input authorize record lead = .ok (selected, s'))
    {k : LeadRow.Key} (hk : k ∉ lead.keys) :
    s'.db.leads.findUnique k = s.db.leads.findUnique k := by
  simp only [commitImportRecord, ok_iff, insert_ok_iff] at h
  obtain ⟨campus, -, _, -, _, -, leads, hcreate, ledger, -, rfl, rfl⟩ := h
  exact (findUnique_create hcreate k).trans (if_neg hk)

theorem exists_of_canonicalCampus {store : References.Store} {value : String}
    {campus : CanonicalCampus} (h : canonicalCampus rt store value = .ok campus) :
    ∃ r ∈ store.references.rows, r.id = campus.id := by
  simp only [canonicalCampus, ok_iff] at h
  obtain ⟨r, hr, -, -, rfl⟩ := h
  refine ⟨r, ?_, rfl⟩
  split at hr
  · exact (findUnique_eq_some.mp hr).1
  · simp only [resolveReference] at hr
    split at hr
    · exact (findUnique_eq_some.mp hr).1
    · cases hr

/-- **The loop of a preview shows what the commits do.** -/
theorem previewLoop_agrees {offsets : Dict Cohort ℕ}
    (h : Progress s s' fun k => (offsets.get k).getD 0) {input : IngestionBatchInput}
    {entries : List (IngestionRecordInput × LeadRow)}
    {results : List (ℤ × ResolvedAssignment)} (hstored : Stored s)
    (hfree : AllFree s'.db (entries.map Prod.snd))
    (hroom : RoomyRun rt collate s input authorize s' entries)
    (hs : previewLoop rt collate s input authorize (entries.map Prod.fst) offsets = .ok results) :
    ∃ s'', commitImportRecords rt collate s' input authorize entries = .ok (results, s'') := by
  induction entries generalizing s' offsets results with
  | nil =>
    cases hs
    exact ⟨s', rfl⟩
  | cons entry entries ih =>
    obtain ⟨record, lead⟩ := entry
    simp only [map_cons, previewLoop, ok_iff] at hs
    obtain ⟨⟨selected, offsets'⟩, hrecord, results', hresults, rfl⟩ := hs
    simp only [previewImportRecord, bind_ok_iff] at hrecord
    obtain ⟨campus, hcampus, _, hauthorized, configuration, hconfig, rule, hrule, selected₁,
      hselected, hoffsets⟩ := hrecord
    have hid : campus.id ≠ "" := by
      obtain ⟨r, hr, hrid⟩ := exists_of_canonicalCampus hcampus
      rw [← hrid]
      exact hstored.references r hr
    have hroomNow : ∀ r ∈ rule, Roomy s s' r.candidates := by
      rintro r rfl
      exact hroom [] (record, lead) entries rfl [] s' rfl campus configuration r hcampus
        hconfig hrule
    obtain ⟨s'', hcommit, hprogress⟩ := commitImportRecord_ok h hcampus hid hauthorized hstored.versions
      hconfig hrule hroomNow (hfree.1 lead mem_cons_self) hselected
    have hnext : selected₁ = selected ∧ Progress s s'' fun k => (offsets'.get k).getD 0 := by
      split at hoffsets
      · rename_i hround
        cases hoffsets
        refine ⟨rfl, ?_⟩
        convert hprogress using 2 with k
        rw [Dict.get_set]
        by_cases hk : k = offsetKey campus.id configuration.version rule
        · rw [if_pos hk, if_pos ⟨hround, hk⟩, hk, getD_some]
        · rw [if_neg hk, if_neg fun hc => hk hc.2, Nat.add_zero]
      · rename_i hround
        cases hoffsets
        refine ⟨rfl, ?_⟩
        convert hprogress using 2 with k
        rw [if_neg fun hc => hround hc.1, Nat.add_zero]
    obtain ⟨rfl, hprogress'⟩ := hnext
    obtain ⟨hfrees, hdisjoint⟩ := hfree
    rw [map_cons, pairwise_cons] at hdisjoint
    have hfree' : AllFree s''.db (entries.map Prod.snd) := by
      refine ⟨fun lead' hlead' => ⟨(hfrees lead' (mem_cons_of_mem _ hlead')).1, fun k hk => ?_⟩,
        hdisjoint.2⟩
      rw [commitImportRecord_leads hcommit fun hk' => hdisjoint.1 lead' hlead' hk' hk]
      exact (hfrees lead' (mem_cons_of_mem _ hlead')).2 k hk
    have hroom' : RoomyRun rt collate s input authorize s'' entries := by
      intro pre entry post hentries committed t ht
      refine hroom ((record, lead) :: pre) entry post (by rw [hentries]; rfl)
        ((record.lineNumber, selected₁) :: committed) t ?_
      simp only [commitImportRecords, hcommit, ht, ok_bind]
      rfl
    obtain ⟨t, ht⟩ := ih hprogress' hfree' hroom' hresults
    refine ⟨t, ?_⟩
    simp only [commitImportRecords, hcommit, ht, ok_bind]
    rfl

theorem previewLoop_lines {input : IngestionBatchInput}
    {records : List IngestionRecordInput} {offsets : Dict Cohort ℕ}
    {results : List (ℤ × ResolvedAssignment)}
    (h : previewLoop rt collate s input authorize records offsets = .ok results) :
    results.map Prod.fst = records.map lineNumber := by
  induction records generalizing offsets results with
  | nil =>
    cases h
    rfl
  | cons record records ih =>
    simp only [previewLoop, ok_iff] at h
    obtain ⟨⟨selected, offsets'⟩, -, results', hresults, rfl⟩ := h
    rw [map_cons, map_cons, ih hresults]

namespace Imported

def campusId : String := "99999999-0000-4000-8000-000000000000"

/-- The identifiers of two collaborators. -/
def ada : String := "00000000-0000-4000-8000-00000000000a"

def blaise : String := "00000000-0000-4000-8000-00000000000b"

def collaborator (id email : String) : Users.CollaboratorRow :=
  { id, professionalEmail := email, roles := [.ADMISSIONS], campusId := some "Rabat"
    firstLoginRequired := false }

/-- Both take leads in turn, and one of them may have as many as `capacity`. -/
def rule (capacity : ℤ) : AssignmentRule :=
  { id := "rule", scope := .GLOBAL, strategy := .ROUND_ROBIN, enabled := true, updatedAt := 0
    updatedBy := "manager"
    candidates := [{ userId := ada, active := true, capacity, activeLeadCount := 0 },
      { userId := blaise, active := true, capacity := 10, activeLeadCount := 0 }] }

def book (capacity : ℤ) : CampusBook where
  db := {
    references := {
      references := .ofRows [⟨campusId, .CAMPUS, "rabat", "Rabat", "GLOBAL", .ACTIVE⟩]
      keys := .ofRows [⟨campusId, .CAMPUS, "GLOBAL", "RABAT"⟩]
      availability := .empty }
    collaborators := .ofRows [collaborator ada "ada@example.org",
      collaborator blaise "blaise@example.org"] }
  configurations := .ofRows [⟨campusId, 1⟩]
  versions := .ofRows [⟨campusId, 1, "manager", .automated true [rule capacity]⟩]

def record (lineNumber : ℤ) : IngestionRecordInput :=
  { lineNumber, firstName := "Lina", lastName := "B", campus := some "Rabat"
    campaign := some "salon", source := "SALON", technicalSystem := "CSV", originalSource := "CSV" }

def input (lines : List ℤ) : IngestionBatchInput :=
  { idempotencyKey := "import-1", profile := "CSV", confirmed := true
    assignment := ⟨"ROUND_ROBIN", none⟩, records := lines.map record }

def lead (line : ℤ) : LeadRow :=
  { id := "lead-" ++ toString line, leadCode := "L-" ++ toString line, firstName := "Lina"
    lastName := "B", campus := "Rabat", campaign := "salon", educationLevel := "BAC"
    program := "INFO", source := "SALON", createdAt := 0 }

def entries (lines : List ℤ) : List (IngestionRecordInput × LeadRow) :=
  lines.map fun line => (record line, lead line)

end Imported

open Imported

end CrmYnov.Assignment
