import CrmYnov.Base.Keyed
import CrmYnov.Cutover.Runtime

/-!
# What a reading leaves of an inventory

An accepted reading gives each of its rows one identity, and the second pass over it reads the
same rows (`CrmYnov.Cutover.readRows_ok`). The inventory it leaves is described entry by entry:
an entry continues one there was (`CrmYnov.Cutover.Continues`), or it is new; an entry without
an issue has its row in the reading, as it was first read
(`CrmYnov.Cutover.observeCutover_ok`). So that what was actually read covers the inventory, and
a true observation of it is never refused (`CrmYnov.Cutover.cutoverTrueObservation_ok`).
-/

namespace CrmYnov.Cutover

open Checked Keyed Dict List Option

variable {rt : Runtime} {contract : CutoverContract}

/-! ### Rows -/

/-- What an accepted reading says of its rows. -/
structure ReadRows (rt : Runtime) (observed : List String) (rows : List SourceRow) : Prop where
  keys : (rows.map SourceRow.key).Nodup
  unseen : ∀ row ∈ rows, row.key ∉ observed
  fingerprint : ∀ row ∈ rows, row.fingerprint = cutoverHash rt row.payload.json

/-- **Both passes over a reading read the same rows.** -/
theorem readRows_ok {columns : List String} {payloads : List Payload} {observed : List String}
    {rows : List SourceRow} (h : readRows rt contract columns observed payloads = .ok rows) :
    ReadRows rt observed rows ∧ trueRows rt contract observed payloads = .ok rows := by
  induction payloads generalizing observed rows with
  | nil =>
    cases h
    exact ⟨⟨nodup_nil, by simp, by simp⟩, rfl⟩
  | cons payload payloads ih =>
    simp only [readRows, bind_ok_iff] at h
    obtain ⟨-, -, h⟩ := h
    rw [trueRows]
    by_cases hblank : payload.isBlank
    · rw [if_pos hblank] at h ⊢
      exact ih h
    · rw [if_neg hblank] at h ⊢
      simp only [ok_iff] at h ⊢
      obtain ⟨externalId, hid, arrived, harrived, ⟨⟩, hunseen, rows', hrows, rfl⟩ := h
      obtain ⟨hread, htrue⟩ := ih hrows
      refine ⟨⟨?_, ?_, ?_⟩, externalId, hid, (), hunseen, arrived, harrived, rows', htrue, rfl⟩
      · refine nodup_cons.mpr ⟨fun hmem => ?_, hread.keys⟩
        obtain ⟨row, hrow, hkey⟩ := mem_map.mp hmem
        exact hread.unseen row hrow (by rw [hkey]; exact mem_cons_self)
      · intro row hrow
        rcases mem_cons.mp hrow with rfl | hrow
        · exact hunseen
        · exact fun hmem => hread.unseen row hrow (mem_cons_of_mem _ hmem)
      · intro row hrow
        rcases mem_cons.mp hrow with rfl | hrow
        · rfl
        · exact hread.fingerprint row hrow

/-! ### Entries -/

def CutoverEntry.undecided (entry : CutoverEntry) : CutoverEntry :=
  { entry with decision := none, targetBootstrapRowId := none }

/-- **An entry continues another one**: it is what it was first read as, with what was decided
of it and the issue it had. -/
structure Continues (old entry : CutoverEntry) : Prop where
  same : { entry with issue := old.issue } = old
  issue : ∀ issue ∈ old.issue, entry.issue = some issue

theorem Continues.key {old entry : CutoverEntry} (h : Continues old entry) :
    entry.key = old.key := by
  have hkey := congrArg CutoverEntry.key h.same
  exact hkey

theorem Continues.fingerprint {old entry : CutoverEntry} (h : Continues old entry) :
    entry.fingerprint = old.fingerprint := by
  have hprint := congrArg CutoverEntry.fingerprint h.same
  exact hprint

theorem continues_reread (old : CutoverEntry) (row : SourceRow) : Continues old (old.reread row) :=
  ⟨rfl, fun issue h => by rw [CutoverEntry.reread, mem_def.mp h, some_or]⟩

theorem continues_removed (old : CutoverEntry) : Continues old old.removed :=
  ⟨rfl, fun issue h => by rw [CutoverEntry.removed, mem_def.mp h, some_or]⟩

/-- A new entry: its row has just been read for the first time. -/
structure Arrives (rows : List SourceRow) (entry : CutoverEntry) : Prop where
  issue : entry.issue = none
  row : ∃ row ∈ rows, row.key = entry.key ∧ row.fingerprint = entry.fingerprint ∧
    row.payload = entry.payload

/-- What an inventory is after a reading. -/
structure Reread (rt : Runtime) (previous : List CutoverEntry) (rows : List SourceRow)
    (entries : List CutoverEntry) : Prop where
  read : ReadRows rt [] rows
  keys : (entries.map CutoverEntry.key).Nodup
  bounded : entries.length ≤ CUTOVER_ROW_LIMIT
  /-- Every entry stays. -/
  stays : ∀ old ∈ previous, ∃ entry ∈ entries, Continues old entry
  /-- An entry was there, or has arrived. -/
  origin : ∀ entry ∈ entries, (∃ old ∈ previous, Continues old entry) ∨
    entry.key ∉ previous.map CutoverEntry.key ∧ Arrives rows entry
  /-- An entry without an issue is as it was first read. -/
  undisturbed : ∀ entry ∈ entries, entry.issue = none →
    ∃ row ∈ rows, row.key = entry.key ∧ row.fingerprint = entry.fingerprint
  /-- Every row has its entry. -/
  covered : ∀ row ∈ rows, ∃ entry ∈ entries, entry.key = row.key

section Entries

variable {previous : List CutoverEntry} {rows : List SourceRow}

variable (contract) in
theorem entryOf_cases (hprev : (previous.map CutoverEntry.key).Nodup) (row : SourceRow) :
    let entry := entryOf contract (ofList (previous.map fun e => (e.key, e))) row
    entry.key = row.key ∧
      ((∃ old ∈ previous, old.key = row.key ∧ entry = old.reread row) ∨
        row.key ∉ previous.map CutoverEntry.key ∧ entry.issue = none ∧
          entry.fingerprint = row.fingerprint ∧ entry.payload = row.payload) := by
  have hkeys : ((previous.map fun e => (e.key, e)).map Prod.fst).Nodup := by
    rwa [List.map_map]
  cases hget : (ofList (previous.map fun e => (e.key, e))).get row.key with
  | some old =>
    obtain ⟨e, he, heq⟩ := mem_map.mp ((get_ofList hkeys).mp hget)
    obtain ⟨hkey, rfl⟩ := Prod.mk.inj heq
    simp only [entryOf, hget]
    exact ⟨hkey, .inl ⟨e, he, hkey, rfl⟩⟩
  | none =>
    simp only [entryOf, hget]
    refine ⟨trivial, .inr ⟨fun hmem => ?_, trivial, trivial, trivial⟩⟩
    obtain ⟨e, he, hkey⟩ := mem_map.mp hmem
    have hsome : (ofList (previous.map fun e => (e.key, e))).get row.key = some e :=
      (get_ofList hkeys).mpr (mem_map.mpr ⟨e, he, by rw [hkey]⟩)
    rw [hget] at hsome
    cases hsome

theorem mem_observedEntries {entry : CutoverEntry} :
    entry ∈ observedEntries contract previous rows ↔
      (∃ row ∈ rows, entry = entryOf contract (ofList (previous.map fun e => (e.key, e))) row) ∨
        ∃ old ∈ previous, old.key ∉ rows.map SourceRow.key ∧ entry = old.removed := by
  simp only [observedEntries, List.mem_append, List.mem_map, List.mem_filter, decide_eq_true_eq]
  constructor
  · rintro (⟨row, hrow, rfl⟩ | ⟨old, ⟨hold, hgone⟩, rfl⟩)
    · exact .inl ⟨row, hrow, rfl⟩
    · exact .inr ⟨old, hold, hgone, rfl⟩
  · rintro (⟨row, hrow, rfl⟩ | ⟨old, hold, hgone, rfl⟩)
    · exact .inl ⟨row, hrow, rfl⟩
    · exact .inr ⟨old, ⟨hold, hgone⟩, rfl⟩

theorem nodup_observedEntries (hprev : (previous.map CutoverEntry.key).Nodup)
    (hrows : (rows.map SourceRow.key).Nodup) :
    ((observedEntries contract previous rows).map CutoverEntry.key).Nodup := by
  have hthere : (rows.map (entryOf contract
      (ofList (previous.map fun e => (e.key, e))))).map CutoverEntry.key =
        rows.map SourceRow.key := by
    rw [List.map_map]
    exact map_congr_left fun row _ => (entryOf_cases _ hprev row).1
  have hgone : ((previous.filter fun old => old.key ∉ rows.map SourceRow.key).map
      CutoverEntry.removed).map CutoverEntry.key =
        (previous.filter fun old => old.key ∉ rows.map SourceRow.key).map CutoverEntry.key := by
    rw [List.map_map]
    rfl
  rw [observedEntries, map_append, hthere, hgone]
  refine nodup_append.mpr ⟨hrows, ?_, fun k hk k' hk' => ?_⟩
  · exact hprev.sublist (filter_sublist.map _)
  · obtain ⟨old, hold, rfl⟩ := mem_map.mp hk'
    rintro rfl
    exact of_decide_eq_true (mem_filter.mp hold).2 hk

theorem reread_observedEntries (hprev : (previous.map CutoverEntry.key).Nodup)
    (hread : ReadRows rt [] rows) {entries : List CutoverEntry}
    (hperm : entries.Perm (observedEntries contract previous rows))
    (hbounded : entries.length ≤ CUTOVER_ROW_LIMIT) : Reread rt previous rows entries where
  read := hread
  keys := (hperm.map CutoverEntry.key).nodup_iff.mpr (nodup_observedEntries hprev hread.keys)
  bounded := hbounded
  stays old hold := by
    by_cases hrow : old.key ∈ rows.map SourceRow.key
    · obtain ⟨row, hrow, hkey⟩ := mem_map.mp hrow
      refine ⟨_, hperm.mem_iff.mpr (mem_observedEntries.mpr (.inl ⟨row, hrow, rfl⟩)), ?_⟩
      rcases (entryOf_cases contract hprev row).2 with
        ⟨old', hold', hkey', heq⟩ | ⟨hnew, -⟩
      · rw [heq, eq_of_key hprev hold' hold (hkey'.trans hkey)]
        exact continues_reread old row
      · exact absurd (mem_map.mpr ⟨old, hold, hkey.symm⟩) hnew
    · exact ⟨old.removed,
        hperm.mem_iff.mpr (mem_observedEntries.mpr (.inr ⟨old, hold, hrow, rfl⟩)),
        continues_removed old⟩
  origin entry hentry := by
    rcases mem_observedEntries.mp (hperm.mem_iff.mp hentry) with
      ⟨row, hrow, rfl⟩ | ⟨old, hold, -, rfl⟩
    · obtain ⟨hkey, hcases⟩ := entryOf_cases contract hprev row
      rcases hcases with ⟨old, hold, -, heq⟩ | ⟨hnew, hissue, hprint, hpayload⟩
      · exact .inl ⟨old, hold, by rw [heq]; exact continues_reread old row⟩
      · exact .inr ⟨by rwa [hkey], hissue, row, hrow, hkey.symm, hprint.symm, hpayload.symm⟩
    · exact .inl ⟨old, hold, continues_removed old⟩
  undisturbed entry hentry hissue := by
    rcases mem_observedEntries.mp (hperm.mem_iff.mp hentry) with
      ⟨row, hrow, rfl⟩ | ⟨old, -, -, rfl⟩
    · obtain ⟨hkey, hcases⟩ := entryOf_cases contract hprev row
      refine ⟨row, hrow, hkey.symm, ?_⟩
      rcases hcases with ⟨old, -, -, heq⟩ | ⟨-, -, hprint, -⟩
      · -- a row that has changed leaves an issue
        rw [heq] at hissue ⊢
        by_contra hne
        have hchanged : old.fingerprint ≠ row.fingerprint ∨
            old.originalArrivedAt ≠ row.originalArrivedAt := .inl (Ne.symm hne)
        simp only [CutoverEntry.reread, or_eq_none_iff, if_pos hchanged] at hissue
        exact absurd hissue.2 (some_ne_none _)
      · exact hprint.symm
    · simp [CutoverEntry.removed] at hissue
  covered row hrow :=
    ⟨_, hperm.mem_iff.mpr (mem_observedEntries.mpr (.inl ⟨row, hrow, rfl⟩)),
      (entryOf_cases _ hprev row).1⟩

end Entries

theorem undecided_automatic (keys : List String) (entry : CutoverEntry) :
    (entry.automatic keys).undecided = entry.undecided := by
  rw [CutoverEntry.automatic]
  split
  · rfl
  · rfl

theorem automatic_of_mem {keys : List String} {entry : CutoverEntry} (h : entry.key ∈ keys) :
    entry.automatic keys = entry := if_neg fun hnew => hnew.1 h

theorem read_of_undecided {old entry : CutoverEntry} (h : old.undecided = entry.undecided) :
    old.key = entry.key ∧ old.issue = entry.issue ∧ old.fingerprint = entry.fingerprint ∧
      old.payload = entry.payload := by
  have hkey := congrArg CutoverEntry.key h
  have hissue := congrArg CutoverEntry.issue h
  have hprint := congrArg CutoverEntry.fingerprint h
  have hpayload := congrArg CutoverEntry.payload h
  exact ⟨hkey, hissue, hprint, hpayload⟩

theorem automatic_read (keys : List String) (entry : CutoverEntry) :
    (entry.automatic keys).key = entry.key ∧ (entry.automatic keys).issue = entry.issue ∧
      (entry.automatic keys).fingerprint = entry.fingerprint ∧
      (entry.automatic keys).payload = entry.payload :=
  read_of_undecided (undecided_automatic keys entry)

/-- **What is decided of the entries that have arrived is nothing to the reading.** -/
theorem Reread.automatic {previous entries : List CutoverEntry} {rows : List SourceRow}
    (h : Reread rt previous rows entries) :
    Reread rt previous rows
      (entries.map (CutoverEntry.automatic (previous.map CutoverEntry.key))) where
  read := h.read
  keys := by
    rw [List.map_map]
    have hkeys := h.keys
    rwa [← List.map_congr_left fun entry _ => (automatic_read _ entry).1] at hkeys
  bounded := by
    rw [List.length_map]
    exact h.bounded
  stays old hold := by
    obtain ⟨entry, hentry, hcontinues⟩ := h.stays old hold
    have hkey : entry.key ∈ previous.map CutoverEntry.key :=
      List.mem_map.mpr ⟨old, hold, hcontinues.key.symm⟩
    exact ⟨entry, List.mem_map.mpr ⟨entry, hentry, automatic_of_mem hkey⟩, hcontinues⟩
  origin entry' hentry' := by
    obtain ⟨entry, hentry, rfl⟩ := List.mem_map.mp hentry'
    rcases h.origin entry hentry with ⟨old, hold, hcontinues⟩ | ⟨hnew, harrives⟩
    · have hkey : entry.key ∈ previous.map CutoverEntry.key :=
        List.mem_map.mpr ⟨old, hold, hcontinues.key.symm⟩
      exact .inl ⟨old, hold, by rwa [automatic_of_mem hkey]⟩
    · obtain ⟨hkey, hissue, hprint, hpayload⟩ :=
        automatic_read (previous.map CutoverEntry.key) entry
      refine .inr ⟨by rwa [hkey], by rw [hissue, harrives.issue], ?_⟩
      rw [hkey, hprint, hpayload]
      exact harrives.row
  undisturbed entry' hentry' hissue' := by
    obtain ⟨entry, hentry, rfl⟩ := List.mem_map.mp hentry'
    obtain ⟨hkey, hissue, hprint, -⟩ := automatic_read (previous.map CutoverEntry.key) entry
    rw [hkey, hprint]
    exact h.undisturbed entry hentry (by rw [← hissue, hissue'])
  covered row hrow := by
    obtain ⟨entry, hentry, hkey⟩ := h.covered row hrow
    exact ⟨_, List.mem_map.mpr ⟨entry, hentry, rfl⟩, (automatic_read _ entry).1.trans hkey⟩

/-- **What an accepted reading leaves**, and what the second pass over it reads. -/
theorem observeCutover_ok {values : SheetValues} {previous : List CutoverEntry}
    {header : Option String} {observed : ObservedCutover}
    (hprev : (previous.map CutoverEntry.key).Nodup)
    (h : observeCutover rt contract values previous header = .ok observed) :
    (∀ digest ∈ header, digest = observed.headerSha256) ∧
      ∃ rows, trueRows rt contract [] values.rows = .ok rows ∧
        Reread rt previous rows observed.entries := by
  simp only [observeCutover, ok_iff] at h
  obtain ⟨⟨⟩, -, ⟨⟩, -, ⟨⟩, hheader, rows, hrows, ⟨⟩, hbound, rfl⟩ := h
  obtain ⟨hread, htrue⟩ := readRows_ok hrows
  have hperm := perm_insertionSort (fun a b : CutoverEntry => a.key ≤ b.key)
    (observedEntries contract previous rows)
  refine ⟨hheader, rows, htrue, reread_observedEntries hprev hread hperm ?_⟩
  exact hperm.length_eq.le.trans hbound.1

/-! ### What was actually read -/

/-- The sources of an observation are those of an inventory, and an undisturbed entry has its
source as it was first read. -/
structure Covers (inventory : List CutoverEntry) (sources : List CutoverObservedSource) :
    Prop where
  keys : (sources.map CutoverObservedSource.sourceKey).Perm (inventory.map CutoverEntry.key)
  shape : ∀ source ∈ sources,
    if source.present then source.fingerprint.isSome ∧ source.originalArrivedAt.isSome
    else source.fingerprint = none ∧ source.originalArrivedAt = none
  undisturbed : ∀ entry ∈ inventory, entry.issue = none → ∃ source ∈ sources,
    source.sourceKey = entry.key ∧ source.present ∧ source.fingerprint = some entry.fingerprint

/-- A source is a row of the reading, or it is gone from it. -/
def Witnessed (rows : List SourceRow) (source : CutoverObservedSource) : Prop :=
  (∃ row ∈ rows, source = row.observed) ∨
    source.sourceKey ∉ rows.map SourceRow.key ∧ source.present = false

section Sources

variable {rows : List SourceRow} {entry : CutoverEntry}

theorem observedSource_of_row (hrows : (rows.map SourceRow.key).Nodup) {row : SourceRow}
    (hrow : row ∈ rows) (hkey : row.key = entry.key) :
    observedSource rows entry = row.observed := by
  rw [observedSource, (find?_eq_some hrows).mpr ⟨hrow, hkey⟩]
  rfl

theorem observedSource_of_gone (hgone : entry.key ∉ rows.map SourceRow.key) :
    observedSource rows entry = .absent entry.key := by
  rw [observedSource, find?_eq_none.mpr hgone]
  rfl

theorem observedSource_cases (hrows : (rows.map SourceRow.key).Nodup) (entry : CutoverEntry) :
    (∃ row ∈ rows, row.key = entry.key ∧ observedSource rows entry = row.observed) ∨
      entry.key ∉ rows.map SourceRow.key ∧ observedSource rows entry = .absent entry.key := by
  by_cases h : entry.key ∈ rows.map SourceRow.key
  · obtain ⟨row, hrow, hkey⟩ := mem_map.mp h
    exact .inl ⟨row, hrow, hkey, observedSource_of_row hrows hrow hkey⟩
  · exact .inr ⟨h, observedSource_of_gone h⟩

theorem observedSource_key (hrows : (rows.map SourceRow.key).Nodup) (entry : CutoverEntry) :
    (observedSource rows entry).sourceKey = entry.key := by
  rcases observedSource_cases hrows entry with ⟨row, -, hkey, heq⟩ | ⟨-, heq⟩
  · rw [heq]
    exact hkey
  · rw [heq]
    rfl

theorem observedSource_present (hrows : (rows.map SourceRow.key).Nodup) (entry : CutoverEntry) :
    (observedSource rows entry).present = decide (entry.key ∈ rows.map SourceRow.key) := by
  rcases observedSource_cases hrows entry with ⟨row, hrow, hkey, heq⟩ | ⟨hgone, heq⟩
  · rw [heq, decide_eq_true (mem_map.mpr ⟨row, hrow, hkey⟩)]
    rfl
  · rw [heq, decide_eq_false hgone]
    rfl

end Sources

/-- **A true observation of what an accepted reading has left is never refused**, and it covers
the inventory. -/
theorem cutoverTrueObservation_ok {values : SheetValues} {rows : List SourceRow}
    {previous inventory : List CutoverEntry}
    (htrue : trueRows rt contract [] values.rows = .ok rows)
    (h : Reread rt previous rows inventory) :
    ∃ sources, cutoverTrueObservation rt contract values inventory = .ok (sources, rows) ∧
      Covers inventory sources ∧ ∀ source ∈ sources, Witnessed rows source := by
  have hrows := h.read.keys
  have hkeys : (inventory.map (observedSource rows)).map CutoverObservedSource.sourceKey =
      inventory.map CutoverEntry.key := by
    rw [List.map_map]
    exact map_congr_left fun entry _ => observedSource_key hrows entry
  have hcount : (inventory.map (observedSource rows)).countP CutoverObservedSource.present =
      rows.length := by
    have hsub : rows.map SourceRow.key ⊆ inventory.map CutoverEntry.key := fun k hk => by
      obtain ⟨row, hrow, rfl⟩ := mem_map.mp hk
      obtain ⟨entry, hentry, hkey⟩ := h.covered row hrow
      exact mem_map.mpr ⟨entry, hentry, hkey⟩
    have hmem := countP_mem h.keys hrows hsub
    rw [length_map] at hmem
    rw [countP_map, ← hmem]
    exact countP_congr fun entry _ => by
      rw [Function.comp, observedSource_present hrows]
  have hperm := perm_insertionSort
    (fun a b : CutoverObservedSource => a.sourceKey ≤ b.sourceKey)
    (inventory.map (observedSource rows))
  refine ⟨sortSources (inventory.map (observedSource rows)), ?_, ⟨?_, ?_, ?_⟩, ?_⟩
  · simp only [cutoverTrueObservation, ok_iff]
    exact ⟨rows, htrue, (), ⟨hcount.symm, by rw [hkeys]; exact h.keys⟩, rfl, rfl⟩
  · rw [← hkeys]
    exact hperm.map _
  · intro source hsource
    obtain ⟨entry, -, rfl⟩ := mem_map.mp (hperm.mem_iff.mp hsource)
    rcases observedSource_cases hrows entry with ⟨row, -, -, heq⟩ | ⟨-, heq⟩
    · rw [heq]
      exact ⟨rfl, rfl⟩
    · rw [heq]
      exact ⟨rfl, rfl⟩
  · intro entry hentry hissue
    obtain ⟨row, hrow, hkey, hprint⟩ := h.undisturbed entry hentry hissue
    refine ⟨observedSource rows entry,
      hperm.mem_iff.mpr (mem_map.mpr ⟨entry, hentry, rfl⟩), ?_⟩
    rw [observedSource_of_row hrows hrow hkey]
    exact ⟨hkey, rfl, congrArg some hprint⟩
  · intro source hsource
    obtain ⟨entry, -, rfl⟩ := mem_map.mp (hperm.mem_iff.mp hsource)
    rcases observedSource_cases hrows entry with ⟨row, hrow, -, heq⟩ | ⟨hgone, heq⟩
    · exact .inl ⟨row, hrow, heq⟩
    · rw [heq]
      exact .inr ⟨hgone, rfl⟩

end CrmYnov.Cutover
