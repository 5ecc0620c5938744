import CrmYnov.Cutover.Journal

/-!
# What an observation covers

The invariant of a ledger between its transactions (`CrmYnov.Cutover.Covered`): the inventory,
the effects, the cases and the dispositions agree with each other (`CrmYnov.Cutover.Sound`), and
the last observation names, for each exception there is, the latest case of its slot
(`CrmYnov.Cutover.Journaled`). From it the state of the exceptions is computed: it covers all
of them, and says of each reference what was disposed of its case
(`CrmYnov.Cutover.exceptionState_covered`); what is not covered is a reading that is no longer
the current one (`CrmYnov.Cutover.exceptionState_valid`).
-/

namespace CrmYnov.Cutover

open Checked Keyed CutoverEntry

variable {rt : Runtime} {L : Ledger}

/-! ### The invariant -/

def CutoverOutcome.decision : CutoverOutcome → OverlapDecision
  | CREATED => .KEEP_FOR_CATCHUP
  | LINKED_BASELINE => .LINK_BASELINE
  | REVIEW => .KEEP_FOR_CATCHUP

def Decided (inventory : List CutoverEntry) (effect : CutoverEffect) : Prop :=
  ∃ entry ∈ inventory, entry.key = effect.sourceKey ∧ entry.classification = .BACKLOG ∧
    entry.decision = some effect.outcome.decision

structure Sound (rt : Runtime) (L : Ledger) : Prop where
  reviewable : Reviewable L
  fingerprints : ∀ entry ∈ L.manifest.inventory,
    entry.fingerprint = cutoverHash rt entry.payload.json
  effects : ∀ effect ∈ L.effects.rows, Decided L.manifest.inventory effect
  cases : ∀ c ∈ L.cases.rows, CaseSound rt c ∧ c.slot ∈ exceptionsOf L
  disposed : ∀ d ∈ L.dispositions.rows, ∃ c ∈ L.cases.rows,
    c.id = d.caseId ∧ c.evidenceSha256 = d.evidenceSha256

structure Observed (rt : Runtime) (row : StoredCutover) (o : CutoverExceptionObservation) :
    Prop where
  binding : o.bindingSha256 = cutoverExceptionBindingHash rt row
  header : row.headerSha256 = some o.headerSha256
  /-- The reading of the observation is the current one, or there is none. -/
  observedAt : ∀ t ∈ row.observedAt, t = o.observedAt
  version : o.observedManifestVersion ≤ row.version
  digest : o.sourceEvidenceSha256 =
    cutoverTrueObservationHash rt o.bindingSha256 o.headerSha256 o.sources
  covers : Covers row.inventory o.sources

/-- The last observation names the case of each exception. -/
structure Journaled (rt : Runtime) (L : Ledger) (o : CutoverExceptionObservation) : Prop where
  observed : Observed rt L.manifest o
  named : ∃ expected, expectedEvidence rt L o.sources = .ok expected ∧
    List.Forall₂ (Named rt L.cases.rows) expected o.cases

/-- **What holds of a ledger between its transactions.** -/
structure Covered (rt : Runtime) (L : Ledger) : Prop where
  sound : Sound rt L
  journaled : ∀ o ∈ L.manifest.exceptionObservation, Journaled rt L o

/-! ### References -/

theorem slots_of_named {cases : List CutoverExceptionCase}
    {evidences : List CutoverExceptionEvidence} {references : List CutoverExceptionReference}
    (h : List.Forall₂ (Named rt cases) evidences references) :
    references.map CutoverExceptionReference.slot =
      evidences.map CutoverExceptionEvidence.slot := by
  induction h with
  | nil => rfl
  | cons hr _ ih => rw [List.map_cons, List.map_cons, hr.slot, ih]

variable {o : CutoverExceptionObservation}

theorem Journaled.slots_perm (h : Sound rt L) (hj : Journaled rt L o) :
    (o.cases.map CutoverExceptionReference.slot).Perm (exceptionsOf L) := by
  obtain ⟨expected, hexpected, hnamed⟩ := hj.named
  obtain ⟨expected', hexpected', hperm, -⟩ :=
    expectedEvidence_ok rt h.reviewable hj.observed.covers.keys
  obtain rfl : expected' = expected := Except.ok.inj (hexpected'.symm.trans hexpected)
  rw [slots_of_named hnamed]
  exact hperm

theorem Journaled.nodup (h : Sound rt L) (hj : Journaled rt L o) :
    (o.cases.map CutoverExceptionReference.slot).Nodup :=
  (hj.slots_perm h).nodup_iff.mpr (nodup_exceptionsOf h.reviewable)

theorem find?_slot (references : List CutoverExceptionReference) (ev : CutoverExceptionEvidence) :
    (references.find? fun r => r.sourceKey = ev.sourceKey ∧ r.kind = ev.kind) =
      references.find? fun r => r.slot = ev.slot := by
  congr 1
  funext r
  rw [decide_eq_decide, CutoverExceptionReference.slot, CutoverExceptionEvidence.slot,
    Prod.mk.injEq]

theorem Journaled.item (hj : Journaled rt L o) {r : CutoverExceptionReference} (hr : r ∈ o.cases) :
    ∃ item, item.id = r.caseId ∧ item.slot = r.slot ∧ Latest L.cases.rows item := by
  obtain ⟨expected, -, hnamed⟩ := hj.named
  obtain ⟨ev, -, hev⟩ := exists_of_forall₂ hnamed.flip hr
  obtain ⟨item, hid, hvalid, hlatest⟩ := hev.item
  exact ⟨item, hid, (slot_of_validCase hvalid).1.trans hev.slot.symm, hlatest⟩

theorem Covered.referred (h : Covered rt L) (evidences : List CutoverExceptionEvidence) :
    Referred ((L.manifest.exceptionObservation.map CutoverExceptionObservation.cases).getD [])
      L.cases.rows evidences := by
  intro ev _ r hr hslot
  cases ho : L.manifest.exceptionObservation with
  | none =>
    rw [ho] at hr
    cases hr
  | some o =>
    rw [ho] at hr
    obtain ⟨item, hid, hitem, hlatest⟩ := (h.journaled o ho).item hr
    exact ⟨item, hid, hitem.trans hslot, hlatest⟩

/-! ### The state of the exceptions -/

/-- **What the state says of a reference.** -/
structure CurrentOf (L : Ledger) (o : CutoverExceptionObservation) (r : CutoverExceptionReference)
    (c : CurrentException) : Prop where
  id : c.item.id = r.caseId
  slot : c.item.slot = r.slot
  digest : c.item.evidenceSha256 = r.evidenceSha256
  latest : Latest L.cases.rows c.item
  disposition : c.disposition = L.dispositions.findUnique (.caseId r.caseId)
  again : c.requiresReobservation =
    c.disposition.any fun d => o.observedManifestVersion ≤ d.decidedManifestVersion

theorem mapM_of_forall₂ {α β γ : Type} {f : α → Option γ} {P : β → γ → Prop} {l : List α}
    {l' : List β} (h : List.Forall₂ (fun a b => ∃ c, f a = some c ∧ P b c) l l') :
    ∃ cs, l.mapM f = some cs ∧ List.Forall₂ P l' cs := by
  induction h with
  | nil => exact ⟨[], rfl, .nil⟩
  | cons hab _ ih =>
    obtain ⟨c, hc, hP⟩ := hab
    obtain ⟨cs, hcs, hrest⟩ := ih
    exact ⟨c :: cs, by simp [List.mapM_cons, hc, hcs], .cons hP hrest⟩

theorem forall₂_mem {α β : Type} {R : α → β → Prop} {l : List α} {l' : List β}
    (h : List.Forall₂ R l l') : List.Forall₂ (fun a b => R a b ∧ b ∈ l') l l' := by
  induction h with
  | nil => exact .nil
  | cons hab _ ih =>
    exact .cons ⟨hab, List.mem_cons_self⟩
      (ih.imp fun _ _ hb => ⟨hb.1, List.mem_cons_of_mem _ hb.2⟩)

theorem currentException_of_named (h : Sound rt L)
    (hnodup : (o.cases.map CutoverExceptionReference.slot).Nodup) {ev : CutoverExceptionEvidence}
    {r : CutoverExceptionReference} (hr : r ∈ o.cases) (hnamed : Named rt L.cases.rows ev r) :
    ∃ c, currentException rt L o ev = some c ∧ CurrentOf L o r c := by
  obtain ⟨item, hid, hvalid, hlatest⟩ := hnamed.item
  obtain ⟨hslot, hdigest⟩ := slot_of_validCase hvalid
  have href := find?_slot o.cases ev
  rw [(find?_eq_some hnodup).mpr ⟨hr, hnamed.slot⟩] at href
  have hitem : L.cases.findUnique (.id r.caseId) = some item :=
    Table.findUnique_of_mem hlatest.mem (by simp [CutoverExceptionCase.keys, hid])
  have hdisposed : ∀ d ∈ L.dispositions.findUnique (.caseId item.id),
      d.evidenceSha256 = item.evidenceSha256 := by
    intro d hd
    obtain ⟨hmem, hkey⟩ := Table.findUnique_eq_some.mp (Option.mem_def.mp hd)
    simp only [CutoverExceptionDisposition.keys, List.mem_cons, List.not_mem_nil, or_false,
      reduceCtorEq, false_or, CutoverExceptionDisposition.Key.caseId.injEq] at hkey
    obtain ⟨c, hc, hcid, hcdigest⟩ := h.disposed d hmem
    rw [← hcdigest, eq_of_caseId hc hlatest.mem (hcid.trans hkey.symm)]
  refine ⟨⟨item, L.dispositions.findUnique (.caseId item.id),
      (L.dispositions.findUnique (.caseId item.id)).any fun d =>
        o.observedManifestVersion ≤ d.decidedManifestVersion⟩, ?_,
    ⟨hid, hslot.trans hnamed.slot.symm, hdigest.trans hnamed.digest.symm, hlatest, ?_, rfl⟩⟩
  · simp only [currentException, href, hitem, Option.bind_eq_bind, Option.bind_some,
      hnamed.digest, hvalid, and_self, guard, if_true, if_pos hdisposed, Option.pure_def]
  · rw [hid]

theorem validSources_of_covers {row : StoredCutover} {sources : List CutoverObservedSource}
    (hkeys : (row.inventory.map key).Nodup) (h : Covers row.inventory sources) :
    validSources row sources = true := by
  refine decide_eq_true ⟨?_, h.keys.nodup_iff.mpr hkeys, fun source hsource => ⟨?_, ?_⟩⟩
  · simpa using h.keys.length_eq
  · exact List.mem_map.mp (h.keys.mem_iff.mp (List.mem_map.mpr ⟨source, hsource, rfl⟩))
  · exact h.shape source hsource

theorem validObservation_of_observed {row : StoredCutover}
    (hkeys : (row.inventory.map key).Nodup) (h : Observed rt row o)
    (ho : row.exceptionObservation = some o) (hat : row.observedAt = some o.observedAt) :
    validObservation rt row = true := by
  rw [validObservation, ho, Option.any_some]
  exact decide_eq_true ⟨hat, h.version, h.binding, h.header,
    validSources_of_covers hkeys h.covers, h.digest⟩

theorem rawExpectedCount_eq (L : Ledger) : rawExpectedCount L = (exceptionsOf L).length := by
  have hissues : (L.manifest.inventory.filterMap slot?).length =
      L.manifest.inventory.countP fun entry => entry.issue.isSome := by
    induction L.manifest.inventory with
    | nil => rfl
    | cons entry entries ih =>
      cases hissue : entry.issue with
      | none => simp [slot?, hissue, ih]
      | some issue => simp [slot?, hissue, ih]
  rw [rawExpectedCount, exceptionsOf, List.length_append, List.length_map, hissues]

/-- **The state of the exceptions covers all of them**, while the reading is the current one. -/
theorem exceptionState_covered (h : Covered rt L) (ho : L.manifest.exceptionObservation = some o)
    (hat : L.manifest.observedAt = some o.observedAt) :
    ∃ cases, cutoverExceptionState rt L = .ok ⟨true, rawExpectedCount L, cases⟩ ∧
      List.Forall₂ (CurrentOf L o) o.cases cases := by
  have hj := h.journaled o ho
  have hperm := hj.slots_perm h.sound
  have hnodup := hj.nodup h.sound
  obtain ⟨expected, hexpected, hnamed⟩ := hj.named
  have hlen : o.cases.length = (exceptionsOf L).length := by simpa using hperm.length_eq
  have hpairs : (unique (o.cases.map fun r => pair r.sourceKey r.kind)).length =
      expected.length := by
    have hdistinct : (o.cases.map fun r => pair r.sourceKey r.kind).Nodup := by
      rw [List.Nodup, List.pairwise_map]
      exact (List.pairwise_map.mp hnodup).imp fun hne heq => hne (pair_injective heq)
    rw [unique, List.length_reverse, List.dedup_eq_self.mpr (List.nodup_reverse.mpr hdistinct),
      List.length_reverse, List.length_map, hnamed.length_eq]
  have hfound : List.Forall₂ (fun ev r => ∃ c, currentException rt L o ev = some c ∧
      CurrentOf L o r c) expected o.cases :=
    (forall₂_mem hnamed).imp fun ev r hr =>
      currentException_of_named h.sound hnodup hr.2 hr.1
  obtain ⟨cases, hcases, hcur⟩ := mapM_of_forall₂ hfound
  refine ⟨cases, ?_, hcur⟩
  have hvalid := validObservation_of_observed h.sound.reviewable.keys hj.observed ho hat
  have hcount : ¬(expected.length ≠ rawExpectedCount L ∨ o.cases.length ≠ expected.length ∨
      (unique (o.cases.map fun r => pair r.sourceKey r.kind)).length ≠ expected.length) := by
    rw [hpairs, rawExpectedCount_eq, hnamed.length_eq, hlen]
    simp
  simp only [cutoverExceptionState, ho, hvalid, not_true_eq_false, if_false, hexpected, ok_bind,
    if_neg hcount, hcases]
  rfl

/-- **A coverage that is valid is the one of the last observation.** -/
theorem exceptionState_valid (h : Covered rt L) {state : CutoverExceptionState}
    (hstate : cutoverExceptionState rt L = .ok state) (hvalid : state.coverageValid = true) :
    ∃ o, L.manifest.exceptionObservation = some o ∧ L.manifest.observedAt = some o.observedAt ∧
      List.Forall₂ (CurrentOf L o) o.cases state.cases := by
  cases ho : L.manifest.exceptionObservation with
  | none =>
    rw [cutoverExceptionState, ho] at hstate
    rw [← pure_ok_iff.mp hstate] at hvalid
    cases hvalid
  | some o =>
    by_cases hobs : validObservation rt L.manifest = true
    · have hat : L.manifest.observedAt = some o.observedAt := by
        have hobs' := hobs
        rw [validObservation, ho, Option.any_some] at hobs'
        exact (of_decide_eq_true hobs').1
      obtain ⟨cases, hcases, hcur⟩ := exceptionState_covered h ho hat
      obtain rfl := Except.ok.inj (hcases.symm.trans hstate)
      exact ⟨o, rfl, hat, hcur⟩
    · rw [cutoverExceptionState, ho] at hstate
      simp only at hstate
      rw [if_pos hobs] at hstate
      rw [← pure_ok_iff.mp hstate] at hvalid
      cases hvalid

end CrmYnov.Cutover
