import CrmYnov.Assignment.CampusRules
import CrmYnov.Base.Machine

/-!
# Configurations that keep their rules

The rules a configuration is given are checked as a list and stored under their identifiers:
by the engine in a map, by a campus as the cursors of its version. Each keeps every rule and
gives it a cursor of its own exactly when no two of the rules were given one identifier
(`CrmYnov.Assignment.engineKept_iff`, `CrmYnov.Assignment.campusKept_iff`), and a run of
configurations does so step by step (`CrmYnov.Assignment.configure_honoured`).
-/

namespace CrmYnov.Assignment

open Checked References Js List Option

/-! ### Normal forms -/

theorem trim_of_identifier {text : String} (h : isIdentifier text = true) :
    trim text = text ∧ present text = true := by
  simp only [isIdentifier, fullMatch, Bool.and_eq_true, List.all_eq_true, decide_eq_true_eq] at h
  obtain ⟨⟨hchars, hlen⟩, -⟩ := h
  have htrim : trim text = text := by
    refine trim_of_forall fun c hc => ?_
    have hclass := hchars c hc
    simp only [Bool.or_eq_true, beq_iff_eq] at hclass
    rcases hclass with (halnum | rfl) | rfl
    · exact isSpace_of_isAlnum halnum
    · decide
    · decide
  refine ⟨htrim, ?_⟩
  rw [present, htrim, bne_iff_ne]
  rintro rfl
  simp at hlen

structure Normal (rule : AssignmentRule) : Prop where
  policy : rule.balanceNewEntrants = some true → rule.strategy = .CONTROLLED_RANDOM
  cursor : rule.cursor = 0
  matched : ∀ text ∈ rule.matchValue, trim text = text ∧ present text = true
  candidates : ∀ c ∈ rule.candidates, c.Valid
  distinct : (rule.candidates.map AssignmentCandidate.userId).Nodup

variable {now : Instant}

theorem normalizeRule_ok {input : AssignmentRuleInput} {actorId fresh : String}
    {rule : AssignmentRule} (h : normalizeRule input actorId fresh now = .ok rule) :
    rule.id = input.givenId.getD fresh ∧ rule.candidates = input.candidates ∧ Normal rule := by
  simp only [normalizeRule, ok_iff] at h
  obtain ⟨-, hpolicy, -, -, -, ⟨-, hcandidates⟩, -, hdistinct, rfl⟩ := h
  refine ⟨rfl, rfl, hpolicy, rfl, fun text htext => ?_, hcandidates, hdistinct⟩
  have hmatched : (input.matchValue.map trim).filter (fun t => t ≠ "") = some text := htext
  obtain ⟨hsome, hne⟩ := filter_eq_some_iff.mp hmatched
  obtain ⟨value, -, rfl⟩ := map_eq_some_iff.mp hsome
  refine ⟨trim_trim value, ?_⟩
  rw [present, trim_trim, bne_iff_ne]
  exact of_decide_eq_true hne

/-- The identifier the rule at a place is given, or drawn. -/
def drawnId (draw : ℕ → String) (entry : AssignmentRuleInput × ℕ) : String :=
  entry.1.givenId.getD (draw entry.2)

variable {inputs : List AssignmentRuleInput} {rules : List AssignmentRule}

variable {actorId : String}

theorem normalizeRules_ok {draw : ℕ → String}
    (h : normalizeRules inputs actorId draw now = .ok rules) :
    rules.map AssignmentRule.id = inputs.zipIdx.map (drawnId draw) ∧
      rules.map (fun rule => rule.candidates) = inputs.map (fun input => input.candidates) ∧
      ∀ rule ∈ rules, Normal rule := by
  have hentries : inputs.map (fun input => input.candidates) =
      inputs.zipIdx.map fun entry => entry.1.candidates := by
    conv_lhs => rw [← zipIdx_map_fst 0 inputs]
    rw [List.map_map]
    rfl
  rw [hentries]
  have hall := mapM_ok_iff.mp h
  clear h hentries
  generalize inputs.zipIdx = entries at hall
  induction hall with
  | nil => exact ⟨rfl, rfl, fun rule hrule => absurd hrule not_mem_nil⟩
  | @cons entry rule entries rules hrule _ ih =>
    obtain ⟨hid, hcandidates, hnormal⟩ := normalizeRule_ok hrule
    obtain ⟨hids, hall, hnormals⟩ := ih
    refine ⟨?_, ?_, forall_mem_cons.mpr ⟨hnormal, hnormals⟩⟩
    · rw [map_cons, map_cons, hids, hid]
      rfl
    · rw [map_cons, map_cons, hall, hcandidates]

/-- The identifiers that are drawn for some rules: they are identifiers, and differ from each
other and from those the rules were given. -/
structure Fresh (draw : ℕ → String) (inputs : List AssignmentRuleInput) : Prop where
  identifier : ∀ i < inputs.length, isIdentifier (draw i) = true
  distinct : ∀ i < inputs.length, ∀ j < inputs.length, draw i = draw j → i = j
  apart : ∀ i < inputs.length, ∀ input ∈ inputs, input.givenId ≠ some (draw i)

/-- **The identifiers of the normal forms differ exactly when those that were given do.** -/
theorem nodup_drawnId {draw : ℕ → String} (h : Fresh draw inputs) :
    (inputs.zipIdx.map (drawnId draw)).Nodup ↔
      (inputs.filterMap AssignmentRuleInput.givenId).Nodup := by
  have hmain : ∀ (rest : List AssignmentRuleInput) (k : ℕ), k + rest.length = inputs.length →
      rest ⊆ inputs → (((rest.zipIdx k).map (drawnId draw)).Nodup ↔
        (rest.filterMap AssignmentRuleInput.givenId).Nodup) := by
    intro rest
    induction rest with
    | nil => exact fun k _ _ => by simp
    | cons input rest ih =>
      intro k hk hsub
      rw [length_cons] at hk
      have hrest := ih (k + 1) (by omega) fun x hx => hsub (mem_cons_of_mem input hx)
      -- what a later rule is called: the name it was given, or one drawn after this one
      have hlater : ∀ entry ∈ rest.zipIdx (k + 1), entry.1 ∈ inputs ∧ k < entry.2 ∧
          entry.2 < inputs.length := by
        intro entry hentry
        obtain ⟨hle, hlt, hget⟩ := mem_zipIdx hentry
        refine ⟨?_, by omega, by omega⟩
        rw [hget]
        exact hsub (mem_cons_of_mem input (getElem_mem _))
      rw [zipIdx_cons, map_cons, nodup_cons, hrest]
      cases hid : input.givenId with
      | none =>
        rw [filterMap_cons_none hid]
        refine and_iff_right_of_imp fun _ hmem => ?_
        obtain ⟨entry, hentry, heq⟩ := mem_map.mp hmem
        obtain ⟨hin, hlt, hbound⟩ := hlater entry hentry
        rw [drawnId, drawnId, hid, getD_none] at heq
        cases hgiven : entry.1.givenId with
        | none =>
          rw [hgiven, getD_none] at heq
          have := h.distinct _ hbound k (by omega) heq
          omega
        | some id =>
          rw [hgiven, getD_some] at heq
          exact h.apart k (by omega) entry.1 hin (hgiven.trans (congrArg some heq))
      | some id =>
        rw [filterMap_cons_some hid, nodup_cons]
        refine and_congr_left fun _ => not_congr ?_
        rw [drawnId, hid, getD_some]
        constructor
        · intro hmem
          obtain ⟨entry, hentry, heq⟩ := mem_map.mp hmem
          obtain ⟨hin, hlt, hbound⟩ := hlater entry hentry
          cases hgiven : entry.1.givenId with
          | none =>
            rw [drawnId, hgiven, getD_none] at heq
            exact absurd (hid.trans (congrArg some heq.symm))
              (h.apart _ hbound input (hsub mem_cons_self))
          | some id' =>
            rw [drawnId, hgiven, getD_some] at heq
            refine mem_filterMap.mpr ⟨entry.1, ?_, hgiven.trans (congrArg some heq)⟩
            rw [← zipIdx_map_fst (k + 1) rest]
            exact mem_map_of_mem hentry
        · intro hmem
          obtain ⟨x, hx, hgiven⟩ := mem_filterMap.mp hmem
          rw [← zipIdx_map_fst (k + 1) rest] at hx
          obtain ⟨entry, hentry, rfl⟩ := mem_map.mp hx
          refine mem_map.mpr ⟨entry, hentry, ?_⟩
          rw [drawnId, hgiven, getD_some]
  exact hmain inputs 0 (Nat.zero_add _) (Subset.refl _)

/-! ### Configuring the engine -/

variable {rt : Runtime}

theorem snapshotRules_ok {draw : ℕ → String}
    (h : snapshotRules inputs actorId draw now = .ok rules) :
    normalizeRules inputs actorId draw now = .ok rules ∧
      rules.countP (fun rule => rule.Fallback) = 1 := by
  simp only [snapshotRules, ok_iff] at h
  obtain ⟨normalized, hnormalized, -, -, -, hfallback, rfl⟩ := h
  exact ⟨hnormalized, hfallback⟩

/-- The engine holds the rules it was given: their normal forms, one of them for the leads no
other rule is about, and each under an identifier of its own, with a cursor of its own. -/
structure EngineKept (inputs : List AssignmentRuleInput) (actorId : String) (draw : ℕ → String)
    (now : Instant) (e : Engine) : Prop where
  stored : normalizeRules inputs actorId draw now = .ok e.rules.values
  fallback : e.rules.values.countP (fun rule => rule.Fallback) = 1
  cursors : ∀ rule ∈ e.rules.values, e.rules.get rule.id = some rule ∧ rule.cursor = 0

theorem engineKept_iff {e e' : Engine} {principal : Principal} {draw : ℕ → String}
    (hfresh : Fresh draw inputs) (h : e.configure inputs principal draw now = .ok e') :
    EngineKept inputs principal.userId draw now e' ↔
      (inputs.filterMap AssignmentRuleInput.givenId).Nodup := by
  simp only [Engine.configure, ok_iff] at h
  obtain ⟨-, -, -, -, rules, hsnap, rfl⟩ := h
  obtain ⟨hrules, hfallback⟩ := snapshotRules_ok hsnap
  obtain ⟨hids, -, hnormal⟩ := normalizeRules_ok hrules
  rw [← nodup_drawnId hfresh, ← hids, ← Dict.values_ofList_iff]
  constructor
  · intro hkept
    exact (Except.ok.inj (hrules.symm.trans hkept.stored)).symm
  · intro hvalues
    refine ⟨?_, ?_, fun rule hrule => ?_⟩
    · rw [hrules]
      exact congrArg Except.ok hvalues.symm
    · exact (congrArg (fun l => countP (fun rule => decide rule.Fallback) l) hvalues).trans hfallback
    · have hmem : rule ∈ rules := hvalues ▸ hrule
      refine ⟨?_, (hnormal rule hmem).cursor⟩
      refine (Dict.get_ofList ?_).mpr (mem_map.mpr ⟨rule, hmem, rfl⟩)
      rw [List.map_map]
      exact (Dict.values_ofList_iff AssignmentRule.id).mp hvalues

/-! ### Configuring a campus -/

theorem parseCandidate_ok {c c' : AssignmentCandidate} (h : parseCandidate c = .ok c') :
    c'.capacity ≤ 9007199254740991 ∧ c'.activeLeadCount = 0 := by
  simp only [parseCandidate, ok_iff] at h
  obtain ⟨-, ⟨-, hcapacity⟩, userId, -, rfl⟩ := h
  exact ⟨hcapacity, rfl⟩

theorem parseCampusRules_ok {input parsed : List AssignmentRuleInput}
    (h : parseCampusRules input = .ok parsed) : parsed.length ≤ 100 ∧
      ∀ rule ∈ parsed, rule.candidates.length ≤ 100 ∧
        ∀ c ∈ rule.candidates, c.capacity ≤ 9007199254740991 ∧ c.activeLeadCount = 0 := by
  simp only [parseCampusRules, ok_iff] at h
  obtain ⟨-, hlen, h⟩ := h
  refine ⟨(mapM_ok_iff.mp h).length_eq ▸ hlen, fun rule hrule => ?_⟩
  obtain ⟨source, -, hsource⟩ := exists_of_mem_mapM h hrule
  simp only [parseCampusRule, ok_iff] at hsource
  obtain ⟨-, -, -, hbound, -, -, -, -, candidates, hcandidates, rfl⟩ := hsource
  refine ⟨(mapM_ok_iff.mp hcandidates).length_eq ▸ hbound, fun c hc => ?_⟩
  obtain ⟨c₀, -, hc₀⟩ := exists_of_mem_mapM hcandidates hc
  exact parseCandidate_ok hc₀

theorem optionalText_of_trimmed {value : Option String}
    (h : ∀ text ∈ value, trim text = text ∧ present text = true) :
    optionalText value = .ok value := by
  cases value with
  | none => rfl
  | some text =>
    obtain ⟨htrim, hpresent⟩ := h text rfl
    rw [optionalText, requiredText, require, if_pos hpresent, htrim]
    rfl

theorem parseCandidate_of_valid {c : AssignmentCandidate} (hvalid : c.Valid)
    (hcapacity : c.capacity ≤ 9007199254740991) (hcount : c.activeLeadCount = 0) :
    parseCandidate c = .ok c := by
  obtain ⟨hid, hpositive, -⟩ := hvalid
  obtain ⟨htrim, hpresent⟩ := trim_of_identifier hid
  rw [parseCandidate, require, if_pos ⟨hpositive, hcapacity⟩, requiredText, require, if_pos hpresent,
    htrim]
  cases c
  simp only at hcount
  rw [hcount]
  rfl

theorem mapM_eq_self {α : Type*} {f : α → Outcome α} {l : List α} (h : ∀ a ∈ l, f a = .ok a) :
    l.mapM f = .ok l := by
  rw [mapM_ok_iff, forall₂_same]
  exact h

/-- **What is stored of a rule in normal form is read back as it is.** -/
theorem parseCampusRule_of_normal {rule : AssignmentRule} (hid : isIdentifier rule.id = true)
    (hnormal : Normal rule) (hlen : rule.candidates.length ≤ 100)
    (hcandidates : ∀ c ∈ rule.candidates, c.capacity ≤ 9007199254740991 ∧ c.activeLeadCount = 0) :
    parseCampusRule rule.input = .ok rule.input := by
  have hids : optionalText rule.input.id = .ok rule.input.id := by
    refine optionalText_of_trimmed fun text htext => ?_
    rw [← some.inj (show some rule.id = some text from htext)]
    exact trim_of_identifier hid
  have hmatch : optionalText rule.input.matchValue = .ok rule.input.matchValue :=
    optionalText_of_trimmed hnormal.matched
  have hparsed : rule.input.candidates.mapM parseCandidate = .ok rule.input.candidates :=
    mapM_eq_self fun c hc => parseCandidate_of_valid (hnormal.candidates c hc) (hcandidates c hc).1
      (hcandidates c hc).2
  have hpolicy : rule.input.balanceNewEntrants = some true →
      rule.input.strategy = .CONTROLLED_RANDOM := hnormal.policy
  have hbound : rule.input.candidates.length ≤ 100 := hlen
  rw [parseCampusRule, require, if_pos hpolicy, require, if_pos hbound, hids, hmatch, hparsed]
  rfl

theorem isIdentifier_drawnId {draw : ℕ → String} (hfresh : Fresh draw inputs)
    {entry : AssignmentRuleInput × ℕ} (h : entry ∈ inputs.zipIdx) :
    isIdentifier (drawnId draw entry) = true := by
  obtain ⟨-, hlt, -⟩ := mem_zipIdx h
  cases hgiven : entry.1.givenId with
  | none =>
    rw [drawnId, hgiven]
    exact hfresh.identifier _ (by omega)
  | some id =>
    rw [drawnId, hgiven]
    exact (filter_eq_some_iff.mp hgiven).2

theorem parse_stored {input parsed : List AssignmentRuleInput}
    {draw : ℕ → String} (hfresh : Fresh draw parsed) (hparsed : parseCampusRules input = .ok parsed)
    (hrules : normalizeRules parsed actorId draw now = .ok rules) :
    parseCampusRules (rules.map AssignmentRule.input) = .ok (rules.map AssignmentRule.input) := by
  obtain ⟨hlen, hbounds⟩ := parseCampusRules_ok hparsed
  obtain ⟨hids, hcandidates, hnormal⟩ := normalizeRules_ok hrules
  have hlengths : rules.length = parsed.length := by
    have hcount := congrArg List.length hcandidates
    rwa [length_map, length_map] at hcount
  rw [parseCampusRules, require, if_pos (by rw [length_map, hlengths]; exact hlen)]
  refine mapM_eq_self fun rule' hrule' => ?_
  obtain ⟨rule, hrule, rfl⟩ := mem_map.mp hrule'
  have hid : isIdentifier rule.id = true := by
    have hmem : rule.id ∈ rules.map AssignmentRule.id := mem_map_of_mem hrule
    rw [hids] at hmem
    obtain ⟨entry, hentry, heq⟩ := mem_map.mp hmem
    rw [← heq]
    exact isIdentifier_drawnId hfresh hentry
  have hsource : rule.candidates ∈ parsed.map (fun input => input.candidates) := by
    rw [← hcandidates]
    exact mem_map_of_mem (f := fun rule : AssignmentRule => rule.candidates) hrule
  obtain ⟨source, hmem, heq⟩ := mem_map.mp hsource
  obtain ⟨hcount, hall⟩ := hbounds source hmem
  refine parseCampusRule_of_normal hid (hnormal rule hrule) (by rwa [← heq]) fun c hc => ?_
  exact hall c (by rwa [heq])

/-- The campus holds the rules it was given: the version in force is that of their normal forms,
one of them, when there are some, for the leads no other rule is about, and each with a cursor of
its own. -/
def CampusKept (parsed : List AssignmentRuleInput) (actorId : String) (draw : ℕ → String)
    (now : Instant) (r : CampusRules) (s : CampusBook) : Prop :=
  ∃ rules, normalizeRules parsed actorId draw now = .ok rules ∧
    r.rules = rules.map AssignmentRule.input ∧ readCampusRules s r.campusId = .ok r ∧
    (parsed ≠ [] → rules.countP (fun rule => rule.Fallback) = 1) ∧
    (rules.map fun rule => (⟨r.campusId, r.version, rule.id⟩ : Cohort)).Nodup

theorem setVersion_ok {s s' : CampusBook} {campusId : String} {expectedVersion : ℤ}
    (h : setVersion s campusId expectedVersion = .ok s') :
    s'.versions = s.versions ∧
      s'.configurations.findUnique campusId = some ⟨campusId, expectedVersion + 1⟩ := by
  rw [setVersion] at h
  split at h
  · simp only [ok_iff, insert_ok_iff] at h
    obtain ⟨configurations, hcreate, rfl⟩ := h
    refine ⟨rfl, ?_⟩
    rw [Table.findUnique_create hcreate, if_pos (by simp [CampusAssignmentConfigurationRow.keys])]
  · simp only [ok_iff] at h
    obtain ⟨current, hcur, -, -, rfl⟩ := h
    refine ⟨rfl, ?_⟩
    have hid : current.campusId = campusId := by
      have hk := (Table.findUnique_eq_some.mp hcur).2
      simpa [CampusAssignmentConfigurationRow.keys, eq_comm] using hk
    rw [Table.findUnique_updateMany, hcur, map_some]
    simp only [hid, if_true, CampusAssignmentConfigurationRow.withVersion]

theorem campusKept_iff {s s' : CampusBook} {campusId : String} {current : Principal}
    {expectedVersion : ℤ} {input parsed : List AssignmentRuleInput} {automaticEnabled : Option Bool}
    {confirmedNewCohort : Bool} {draw : ℕ → String} {r : CampusRules}
    (hparsed : parseCampusRules input = .ok parsed) (hfresh : Fresh draw parsed)
    (h : configureCampus rt s (.ok (campusId, current)) expectedVersion input automaticEnabled
      confirmedNewCohort draw now = .ok (r, s')) :
    CampusKept parsed current.userId draw now r s' ↔
      (parsed.filterMap AssignmentRuleInput.givenId).Nodup := by
  simp only [configureCampus, ok_iff, insert_ok_iff, hparsed, Except.ok.injEq, exists_eq_left'] at h
  obtain ⟨-, -, -, -, previous, -, -, -, rules, hrules, -, -, -, -, s₁, hset, versions,
    hversions, rfl, rfl⟩ := h
  have hnormalized : normalizeRules parsed current.userId draw now = .ok rules := by
    rw [campusRules] at hrules
    split at hrules
    · rename_i hnil
      rw [hnil, ← pure_ok_iff.mp hrules]
      rfl
    · exact (snapshotRules_ok hrules).1
  obtain ⟨hids, -, -⟩ := normalizeRules_ok hnormalized
  have hcohorts : (rules.map fun rule => (⟨campusId, expectedVersion + 1, rule.id⟩ : Cohort)).Nodup ↔
      (parsed.filterMap AssignmentRuleInput.givenId).Nodup := by
    rw [← nodup_drawnId hfresh, ← hids]
    have hinj : Function.Injective fun id => (⟨campusId, expectedVersion + 1, id⟩ : Cohort) :=
      fun a b hab => (Cohort.mk.inj hab).2.2
    rw [← List.nodup_map_iff hinj, List.map_map]
    rfl
  constructor
  · rintro ⟨rules', hrules', -, -, -, hnodup⟩
    obtain rfl := Except.ok.inj (hnormalized.symm.trans hrules')
    exact hcohorts.mp hnodup
  · intro hnodup
    refine ⟨rules, hnormalized, rfl, ?_, fun hne => ?_, hcohorts.mpr hnodup⟩
    · obtain ⟨-, hconfig⟩ := setVersion_ok hset
      have hver : versions.findUnique (campusId, expectedVersion + 1) = some _ :=
        Table.findUnique_of_mem ((Table.mem_create hversions).mpr (.inr rfl))
          (by simp [CampusAssignmentVersionRow.keys])
      simp only [readCampusRules, hconfig, ok_iff]
      refine ⟨_, hver, (_, rules.map AssignmentRule.input), ?_, rfl⟩
      rw [campusSnapshot, parse_stored hfresh hparsed hnormalized]
      rfl
    · rw [campusRules, if_neg hne] at hrules
      exact (snapshotRules_ok hrules).2

/-! ### Runs of configurations -/

/-- A configuration of the engine, or one of a campus with the database it finds. -/
inductive ConfigureCall
  | engine (inputs : List AssignmentRuleInput) (principal : Principal) (draw : ℕ → String)
      (now : Instant)
  | campus (db : Database) (authorized : Outcome (String × Principal)) (expectedVersion : ℤ)
      (input : List AssignmentRuleInput) (automaticEnabled : Option Bool)
      (confirmedNewCohort : Bool) (draw : ℕ → String) (now : Instant)

/-- The rules of the process, and those of the campuses. -/
structure Configured where
  engine : Engine := {}
  book : CampusBook := {}

/-- The machine of the configurations: one that is refused leaves everything as it was. -/
def configuring (rt : Runtime) : Machine Configured ConfigureCall (Outcome (Option CampusRules)) where
  step s
    | .engine inputs principal draw now =>
      match s.engine.configure inputs principal draw now with
      | .ok engine => (.ok none, { s with engine })
      | .error e => (.error e, s)
    | .campus db authorized expectedVersion input automaticEnabled confirmedNewCohort draw now =>
      match configureCampus rt { s.book with db } authorized expectedVersion input
        automaticEnabled confirmedNewCohort draw now with
      | .ok (r, book) => (.ok (some r), { s with book })
      | .error e => (.error e, s)

/-- The rules a call is about, as they are brought to normal form. -/
def ConfigureCall.parsed : ConfigureCall → List AssignmentRuleInput
  | .engine inputs _ _ _ => inputs
  | .campus _ _ _ input _ _ _ _ => ((parseCampusRules input).toOption).getD []

def ConfigureCall.draw : ConfigureCall → ℕ → String
  | .engine _ _ draw _ => draw
  | .campus _ _ _ _ _ _ draw _ => draw

/-- A call that is answered keeps its rules; one that is refused changes nothing. -/
def Honoured (rt : Runtime) (s : Configured) (call : ConfigureCall) : Prop :=
  match (configuring rt).step s call, call with
  | (.error _, s'), _ => s' = s
  | (.ok _, s'), .engine inputs principal draw now =>
    EngineKept inputs principal.userId draw now s'.engine
  | (.ok answer, s'), .campus _ authorized _ _ _ _ draw now =>
    ∃ r campusId current, answer = some r ∧ authorized = .ok (campusId, current) ∧
      CampusKept call.parsed current.userId draw now r s'.book

/-- No two rules of a call are given one identifier. -/
def ConfigureCall.Distinct (call : ConfigureCall) : Prop :=
  (call.parsed.filterMap AssignmentRuleInput.givenId).Nodup

instance : DecidablePred ConfigureCall.Distinct := fun _ => inferInstanceAs (Decidable (Nodup _))

theorem honoured_of_distinct {s : Configured} {call : ConfigureCall} (hdistinct : call.Distinct)
    (hfresh : Fresh call.draw call.parsed) : Honoured rt s call := by
  cases call with
  | engine inputs principal draw now =>
    simp only [Honoured, configuring]
    cases h : s.engine.configure inputs principal draw now with
    | error e => rfl
    | ok engine => exact (engineKept_iff hfresh h).mpr hdistinct
  | campus db authorized expectedVersion input automaticEnabled confirmedNewCohort draw now =>
    simp only [Honoured, configuring]
    cases h : configureCampus rt { s.book with db } authorized expectedVersion input
      automaticEnabled confirmedNewCohort draw now with
    | error e => rfl
    | ok p =>
      obtain ⟨r, book⟩ := p
      have hread := h
      simp only [configureCampus, bind_ok_iff] at hread
      obtain ⟨-, -, parsed, hparsed, -, -, ⟨campusId, current⟩, rfl, -⟩ := hread
      have hcall : (ConfigureCall.campus db (.ok (campusId, current)) expectedVersion input
          automaticEnabled confirmedNewCohort draw now).parsed = parsed := by
        rw [ConfigureCall.parsed, hparsed]
        rfl
      rw [ConfigureCall.Distinct, hcall] at hdistinct
      rw [hcall] at hfresh
      refine ⟨r, campusId, current, rfl, rfl, ?_⟩
      rw [hcall]
      exact (campusKept_iff hparsed hfresh h).mpr hdistinct

/-- **Configurations keep their rules**: in a run of configurations none of which gives two
rules one identifier, each of them that is answered stores the normal forms of its rules, all of
them, with one rule for the leads no other is about and a cursor for each; and each that is
refused changes nothing. -/
theorem configure_honoured {s : Configured} {calls : List ConfigureCall}
    (h : ∀ call ∈ calls, call.Distinct ∧ Fresh call.draw call.parsed) :
    (configuring rt).Meets (Honoured rt) s calls := by
  refine Machine.Meets.mono (fun s call hcall => ?_)
    (Machine.meets_of_forall (C := fun call : ConfigureCall =>
      call.Distinct ∧ Fresh call.draw call.parsed) s h)
  exact honoured_of_distinct hcall.1 hcall.2

namespace Rules

/-- A collaborator who may be given ten leads. -/
def candidate : AssignmentCandidate :=
  { userId := "adviser", active := true, capacity := 10, activeLeadCount := 0 }

def global (id : Option String) : AssignmentRuleInput :=
  { scope := .GLOBAL, strategy := .ROUND_ROBIN, enabled := true, candidates := [candidate], id }

def website (id : Option String) : AssignmentRuleInput :=
  { scope := .SOURCE, matchValue := some "SITE", strategy := .ROUND_ROBIN, enabled := true
    candidates := [candidate], id }

def draw (i : ℕ) : String := "drawn-" ++ toString i

def manager : Principal := ⟨"manager", [.MANAGER], [.GLOBAL], "session"⟩

/-- Two rules, of which one is given an identifier. -/
def call : ConfigureCall := .engine [global none, website (some "website")] manager draw 0

def emptied : ConfigureCall := .campus {} (.ok ("campus", manager)) 0 [] none false draw 0

theorem distinct_calls : ∀ c ∈ [call, emptied], c.Distinct ∧ Fresh c.draw c.parsed := by
  intro c hc
  rcases mem_cons.mp hc with rfl | hc
  · exact ⟨by decide +kernel, by decide +kernel, by decide +kernel, by decide +kernel⟩
  · obtain rfl := mem_singleton.mp hc
    exact ⟨by decide +kernel, by decide +kernel, by decide +kernel, by decide +kernel⟩

end Rules

theorem configure_honoured_of_calls :
    (configuring .plain).Meets (Honoured .plain) {} [Rules.call, Rules.emptied] :=
  configure_honoured Rules.distinct_calls

/-- A campus that is given no rule has none, not even one for every lead; and of two rules that
are given one identifier the engine keeps one. -/
theorem configured_without_global :
    (∃ r s, configureCampus .plain {} (.ok ("campus", Rules.manager)) 0 [] none false Rules.draw 0 =
        .ok (r, s) ∧ (r.rules.countP fun rule => rule.scope = .GLOBAL ∧ rule.enabled) ≠ 1) ∧
      ∃ e, Engine.configure {} [Rules.global (some "rule"), Rules.website (some "rule")]
          Rules.manager Rules.draw 0 = .ok e ∧
        (e.rules.values.countP fun rule => rule.Fallback) ≠ 1 ∧ e.rules.values.length ≠ 2 := by
  refine ⟨⟨_, _, rfl, by decide +kernel⟩, _, rfl, by decide +kernel, by decide +kernel⟩

end CrmYnov.Assignment
