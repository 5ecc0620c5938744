import CrmYnov.Cutover.Reading

/-!
# The evidences of the exceptions there are

An exception has a *slot*, the key of its source and its kind: one for each issue of the
inventory, and one for each effect that waits for a review (`CrmYnov.Cutover.exceptionsOf`).
Where every source was read and every such effect has its batch, the evidences can be
collected, and there is exactly one in each of these slots
(`CrmYnov.Cutover.expectedEvidence_ok`).
-/

namespace CrmYnov.Cutover

open Checked Keyed CutoverEntry

variable {rt : Runtime}

/-! ### Slots -/

abbrev Slot : Type := String × CutoverExceptionKind

def CutoverExceptionEvidence.slot (e : CutoverExceptionEvidence) : Slot := (e.sourceKey, e.kind)

def CutoverExceptionCase.slot (c : CutoverExceptionCase) : Slot := (c.sourceKey, c.kind)

def CutoverExceptionReference.slot (r : CutoverExceptionReference) : Slot := (r.sourceKey, r.kind)

def CutoverEntry.slot? (entry : CutoverEntry) : Option Slot :=
  entry.issue.map fun issue => (entry.key, issue.kind)

def CutoverEffect.slot (effect : CutoverEffect) : Slot := (effect.sourceKey, .EFFECT_REVIEW)

def exceptionsOf (L : Ledger) : List Slot :=
  L.manifest.inventory.filterMap slot? ++ (reviewEffects L).map CutoverEffect.slot

theorem Issue.kind_ne_review (issue : Issue) : issue.kind ≠ .EFFECT_REVIEW := by
  cases issue <;> exact fun h => by cases h

theorem CutoverExceptionKind.eq_of_ending {kind kind' : CutoverExceptionKind}
    (h : kind.text.toList.reverse.take 3 = kind'.text.toList.reverse.take 3) : kind = kind' := by
  revert h
  cases kind <;> cases kind' <;> decide

/-- **The text of a slot tells it**, whatever the key is. -/
theorem pair_injective {key key' : String} {kind kind' : CutoverExceptionKind}
    (h : pair key kind = pair key' kind') : (key, kind) = (key', kind') := by
  have hlist : key.toList ++ ':' :: kind.text.toList = key'.toList ++ ':' :: kind'.text.toList := by
    simpa [pair] using congrArg String.toList h
  have hlong : ∀ kind : CutoverExceptionKind, 3 ≤ kind.text.toList.reverse.length := by
    intro kind
    cases kind <;> decide
  have hkind : kind = kind' := by
    have hend := congrArg (fun l : List Char => l.reverse.take 3) hlist
    simp only [List.reverse_append, List.reverse_cons, List.append_assoc,
      List.take_append_of_le_length (hlong _)] at hend
    exact CutoverExceptionKind.eq_of_ending hend
  subst hkind
  rw [List.append_cancel_right_eq] at hlist
  rw [String.toList_inj.mp hlist]

/-! ### Evidences -/

inductive IsEvidence (rt : Runtime) (L : Ledger) (sources : List CutoverObservedSource) :
    CutoverExceptionEvidence → Prop
  /-- The issue of an entry. -/
  | issue {entry : CutoverEntry} {source : CutoverObservedSource} {issue : Issue}
      (hentry : entry ∈ L.manifest.inventory)
      (hsource : sources.find? (fun s => s.sourceKey = entry.key) = some source)
      (hissue : entry.issue = some issue) :
      IsEvidence rt L sources (issueEvidence rt L.manifest entry source issue.kind none)
  /-- The review of the effect of an entry. -/
  | review {entry : CutoverEntry} {source : CutoverObservedSource} {effect : CutoverEffect}
      {record : IngestedRecord} (hentry : entry ∈ L.manifest.inventory)
      (hsource : sources.find? (fun s => s.sourceKey = entry.key) = some source)
      (heff : effect ∈ reviewEffects L) (hkey : effect.sourceKey = entry.key)
      (hrecord : effect.batchId.bind L.ingested.findUnique = some record) :
      IsEvidence rt L sources (issueEvidence rt L.manifest entry source .EFFECT_REVIEW
        (some ⟨effect.id, effect.batchId, reviewFingerprint rt effect record, effect.reason⟩))

theorem IsEvidence.source {L : Ledger} {sources : List CutoverObservedSource}
    {ev : CutoverExceptionEvidence} (h : IsEvidence rt L sources ev) :
    ev.source ∈ sources ∧ ev.source.sourceKey = ev.sourceKey := by
  have hfound : ∀ {key source}, sources.find? (fun s => s.sourceKey = key) = some source →
      source ∈ sources ∧ source.sourceKey = key := fun {key source} h =>
    ⟨List.mem_of_find?_eq_some h, by simpa using List.find?_some h⟩
  cases h with
  | issue _ hsource _ => exact hfound hsource
  | review _ hsource _ _ _ => exact hfound hsource

structure Reviewable (L : Ledger) : Prop where
  keys : (L.manifest.inventory.map key).Nodup
  bounded : L.manifest.inventory.length ≤ CUTOVER_ROW_LIMIT
  entry : ∀ effect ∈ reviewEffects L, ∃ entry ∈ L.manifest.inventory, entry.key = effect.sourceKey
  record : ∀ effect ∈ reviewEffects L, ∃ record ∈ L.ingested.rows,
    effect.batchId = some record.batchId

section Expected

variable {L : Ledger} {sources : List CutoverObservedSource}

theorem nodup_reviewEffects (L : Ledger) : ((reviewEffects L).map CutoverEffect.sourceKey).Nodup := by
  have h : ((L.effects.rows.map CutoverEffect.sourceKey).map CutoverEffect.Key.sourceKey).Nodup := by
    rw [List.map_map]
    exact L.effects.nodup_keys fun e => by simp [CutoverEffect.keys]
  exact (h.of_map _).sublist (List.filter_sublist.map _)

theorem Reviewable.found (h : Reviewable L) {effect : CutoverEffect}
    (heff : effect ∈ reviewEffects L) :
    ∃ record, effect.batchId.bind L.ingested.findUnique = some record := by
  obtain ⟨record, hrecord, hbatch⟩ := h.record effect heff
  refine ⟨record, ?_⟩
  rw [hbatch]
  exact Table.findUnique_of_mem hrecord List.mem_cons_self

variable (rt) in
theorem entryEvidence_ok (h : Reviewable L) {entry : CutoverEntry}
    (hentry : entry ∈ L.manifest.inventory) {source : CutoverObservedSource}
    (hsource : sources.find? (fun s => s.sourceKey = entry.key) = some source) :
    ∃ evidences, entryEvidence rt L sources entry = .ok evidences ∧
      evidences.map CutoverExceptionEvidence.slot = entry.slot?.toList ++
        ((reviewEffects L).find? fun e => e.sourceKey = entry.key).toList.map CutoverEffect.slot ∧
      ∀ ev ∈ evidences, IsEvidence rt L sources ev := by
  have hissues : ∀ ev ∈ entry.issue.toList.map fun issue =>
      issueEvidence rt L.manifest entry source issue.kind none, IsEvidence rt L sources ev := by
    intro ev hev
    obtain ⟨issue, hissue, rfl⟩ := List.mem_map.mp hev
    exact .issue hentry hsource (Option.mem_toList.mp hissue)
  have hslots : (entry.issue.toList.map fun issue =>
      issueEvidence rt L.manifest entry source issue.kind none).map
        CutoverExceptionEvidence.slot = entry.slot?.toList := by
    cases hissue : entry.issue with
    | none => simp [slot?, hissue]
    | some issue => simp [slot?, hissue, CutoverExceptionEvidence.slot, issueEvidence]
  cases heff : (reviewEffects L).find? fun e => e.sourceKey = entry.key with
  | none =>
    refine ⟨_, ?_, ?_, hissues⟩
    · simp only [entryEvidence, hsource, heff, demand_some, ok_bind]
      rfl
    · simpa using hslots
  | some effect =>
    have hmem := List.mem_of_find?_eq_some heff
    have hkey : effect.sourceKey = entry.key := by simpa using List.find?_some heff
    obtain ⟨record, hrecord⟩ := h.found hmem
    refine ⟨(entry.issue.toList.map fun issue =>
        issueEvidence rt L.manifest entry source issue.kind none) ++
          [issueEvidence rt L.manifest entry source .EFFECT_REVIEW (some
            ⟨effect.id, effect.batchId, reviewFingerprint rt effect record, effect.reason⟩)],
      ?_, ?_, ?_⟩
    · simp only [entryEvidence, hsource, heff, hrecord, demand_some, ok_bind]
      rfl
    · rw [List.map_append, hslots]
      simp [CutoverExceptionEvidence.slot, issueEvidence, CutoverEffect.slot, hkey]
    · intro ev hev
      rcases List.mem_append.mp hev with hev | hev
      · exact hissues ev hev
      · obtain rfl := List.mem_singleton.mp hev
        exact .review hentry hsource hmem hkey hrecord

variable (rt) in
theorem flatten_evidences (h : Reviewable L)
    (hcovers : (sources.map CutoverObservedSource.sourceKey).Perm
      (L.manifest.inventory.map key)) {entries : List CutoverEntry}
    (hentries : entries ⊆ L.manifest.inventory) :
    ∃ evidences, entries.mapM (entryEvidence rt L sources) = .ok evidences ∧
      evidences.flatten.map CutoverExceptionEvidence.slot = entries.flatMap (fun entry =>
        entry.slot?.toList ++ ((reviewEffects L).find? fun e => e.sourceKey = entry.key).toList.map
          CutoverEffect.slot) ∧ ∀ ev ∈ evidences.flatten, IsEvidence rt L sources ev := by
  induction entries with
  | nil => exact ⟨[], rfl, rfl, by simp⟩
  | cons entry entries ih =>
    obtain ⟨evidences, hevidences, hslots, hall⟩ :=
      ih fun e he => hentries (List.mem_cons_of_mem entry he)
    have hentry := hentries List.mem_cons_self
    have hkeys : (sources.map CutoverObservedSource.sourceKey).Nodup :=
      hcovers.nodup_iff.mpr h.keys
    obtain ⟨source, hsource, hkey⟩ : ∃ source ∈ sources, source.sourceKey = entry.key :=
      List.mem_map.mp (hcovers.mem_iff.mpr (List.mem_map.mpr ⟨entry, hentry, rfl⟩))
    obtain ⟨first, hfirst, hslots', hall'⟩ := entryEvidence_ok rt h hentry
      ((find?_eq_some hkeys).mpr ⟨hsource, hkey⟩)
    refine ⟨first :: evidences, ?_, ?_, fun ev hev => ?_⟩
    · simp only [List.mapM_cons, hfirst, hevidences, ok_bind]
      rfl
    · rw [List.flatten_cons, List.map_append, hslots, hslots', List.flatMap_cons]
    · rw [List.flatten_cons] at hev
      exact (List.mem_append.mp hev).elim (hall' ev) (hall ev)

theorem slots_perm (h : Reviewable L) :
    (L.manifest.inventory.flatMap fun entry => entry.slot?.toList ++
      ((reviewEffects L).find? fun e => e.sourceKey = entry.key).toList.map
        CutoverEffect.slot).Perm (exceptionsOf L) := by
  refine (List.flatMap_append_perm _ _ _).symm.trans ?_
  refine List.Perm.append (List.Perm.of_eq (List.filterMap_eq_flatMap_toList _ _).symm) ?_
  have hreviews := (filterMap_find?_perm h.keys (nodup_reviewEffects L) h.entry).map
    CutoverEffect.slot
  refine List.Perm.trans (List.Perm.of_eq ?_) hreviews
  rw [List.filterMap_eq_flatMap_toList, List.map_flatMap]

theorem records_bounded (h : Reviewable L) :
    let batchIds := (reviewEffects L).filterMap CutoverEffect.batchId
    let records := ingestedOf L batchIds
    (records.filterMap IngestedRecord.reviewItem).length ≤ CUTOVER_ROW_LIMIT ∧
      records.length = (unique batchIds).length := by
  intro batchIds records
  have hnodup : (records.map IngestedRecord.batchId).Nodup :=
    (L.ingested.nodup_keys fun r => List.mem_cons_self).sublist (List.filter_sublist.map _)
  have hperm : (records.map IngestedRecord.batchId).Perm (unique batchIds) := by
    rw [List.perm_ext_iff_of_nodup hnodup nodup_unique]
    intro batchId
    rw [mem_unique, List.mem_map]
    constructor
    · rintro ⟨record, hrecord, rfl⟩
      exact (Table.mem_findMany.mp hrecord).2
    · intro hbatch
      obtain ⟨effect, heff, hid⟩ := List.mem_filterMap.mp hbatch
      obtain ⟨record, hrecord, hid'⟩ := h.record effect heff
      obtain rfl : record.batchId = batchId := by rw [hid] at hid'; exact (Option.some.inj hid').symm
      exact ⟨record, Table.mem_findMany.mpr ⟨hrecord, hbatch⟩, rfl⟩
  have hlen : records.length = (unique batchIds).length := by
    rw [← hperm.length_eq, List.length_map]
  refine ⟨?_, hlen⟩
  -- as many records as batches, batches as reviews, and reviews as entries at most
  have hbatches : (unique batchIds).length ≤ batchIds.length :=
    (nodup_unique.subperm fun _ hmem => mem_unique.mp hmem).length_le
  have hreviews : (reviewEffects L).length ≤ L.manifest.inventory.length := by
    have hsub := ((nodup_reviewEffects L).subperm fun key hkey => by
      obtain ⟨effect, heff, rfl⟩ := List.mem_map.mp hkey
      obtain ⟨entry, hentry, hkey⟩ := h.entry effect heff
      exact List.mem_map.mpr ⟨entry, hentry, hkey⟩ :
        ((reviewEffects L).map CutoverEffect.sourceKey).Subperm
          (L.manifest.inventory.map key)).length_le
    simpa using hsub
  calc (records.filterMap IngestedRecord.reviewItem).length
      ≤ records.length := List.length_filterMap_le _ _
    _ ≤ batchIds.length := hlen.le.trans hbatches
    _ ≤ (reviewEffects L).length := List.length_filterMap_le _ _
    _ ≤ CUTOVER_ROW_LIMIT := hreviews.trans h.bounded

/-- **The evidences can be collected, one for each exception.** -/
theorem expectedEvidence_ok (rt : Runtime) (h : Reviewable L)
    (hcovers : (sources.map CutoverObservedSource.sourceKey).Perm (L.manifest.inventory.map key)) :
    ∃ expected, expectedEvidence rt L sources = .ok expected ∧
      (expected.map CutoverExceptionEvidence.slot).Perm (exceptionsOf L) ∧
      ∀ ev ∈ expected, IsEvidence rt L sources ev := by
  obtain ⟨evidences, hevidences, hslots, hall⟩ :=
    flatten_evidences rt h hcovers (List.Subset.refl _)
  have hsort := List.perm_insertionSort
    (fun a b : CutoverExceptionEvidence => pair a.sourceKey a.kind ≤ pair b.sourceKey b.kind)
    evidences.flatten
  refine ⟨sortEvidence evidences.flatten, ?_, ?_, fun ev hev => hall ev (hsort.mem_iff.mp hev)⟩
  · simp only [expectedEvidence, ok_iff]
    exact ⟨(), records_bounded h, evidences, hevidences, (), h.entry, rfl⟩
  · refine (hsort.map _).trans ?_
    rw [hslots]
    exact slots_perm h

theorem nodup_exceptionsOf (h : Reviewable L) : (exceptionsOf L).Nodup := by
  refine List.nodup_append.mpr ⟨?_, ?_, fun slot hslot slot' hslot' => ?_⟩
  · rw [List.Nodup, List.pairwise_filterMap]
    refine (List.pairwise_map.mp h.keys).imp fun {a b} hne slot ha slot' hb heq => hne ?_
    obtain ⟨issue, -, rfl⟩ := Option.map_eq_some_iff.mp ha
    obtain ⟨issue', -, rfl⟩ := Option.map_eq_some_iff.mp hb
    exact congrArg Prod.fst heq
  · refine (List.Nodup.of_map Prod.fst ?_)
    rw [List.map_map]
    exact nodup_reviewEffects L
  · rintro rfl
    obtain ⟨entry, -, hentry⟩ := List.mem_filterMap.mp hslot
    obtain ⟨issue, -, rfl⟩ := Option.map_eq_some_iff.mp hentry
    obtain ⟨effect, -, heq⟩ := List.mem_map.mp hslot'
    exact issue.kind_ne_review (congrArg Prod.snd heq).symm

end Expected

end CrmYnov.Cutover
