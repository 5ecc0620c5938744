import CrmYnov.Bootstrap.Rows

/-!
# No evidence is lost by a mapping

The cells and the annotations of a sheet are sorted in two places: the coverage of the sheet
counts the rows it is going to give to the ledger, and the mapping writes them. Both go through
the rows of the sheet and those that annotations alone make (`CrmYnov.Bootstrap.sourceRows`),
and both leave a row out when nothing in it is kept.

The sorting is followed one annotation at a time (`CrmYnov.Bootstrap.Placed`): what has been
placed is in the header or in the row it is at, and the cells of the rows are as they were. What
a mapping writes for a sheet then holds every annotation once and every cell that is not left
out on purpose, in as many rows as the coverage has announced
(`CrmYnov.Bootstrap.SheetPreserved`).
-/

namespace CrmYnov

/-! ### Values under keys -/

/-- **What a row is given more is in the rows once**, whether or not the row was there. -/
theorem flatMap_set_perm {κ ν β : Type*} [DecidableEq κ] {d : Dict κ ν} {k : κ} {v : ν}
    {g : ν → List β} {extra : List β} (hnew : d.get k = none → g v = extra)
    (hold : ∀ old, d.get k = some old → g v = g old ++ extra) :
    ((d.set k v).values.flatMap g).Perm (d.values.flatMap g ++ extra) := by
  cases hget : d.get k with
  | none =>
    rw [Dict.values_set_of_none v hget, List.flatMap_append, List.flatMap_singleton, hnew hget]
  | some old =>
    obtain ⟨before, after, hsplit⟩ := List.append_of_mem (Dict.get_eq_some.mp hget)
    have hnodup := Dict.nodup_entries d
    rw [hsplit, List.map_append, List.map_cons, List.nodup_append, List.nodup_cons] at hnodup
    obtain ⟨-, ⟨hafter, -⟩, hbefore⟩ := hnodup
    have hkeep : ∀ entries : List (κ × ν), (∀ e ∈ entries, e.1 ≠ k) →
        entries.map (fun e => if e.1 = k then v else e.2) = entries.map Prod.snd :=
      fun entries hne => List.map_congr_left fun e he => if_neg (hne e he)
    rw [Dict.values_set_of_some v hget, Dict.values, hsplit, List.map_append, List.map_append,
      List.map_cons, List.map_cons, if_pos rfl,
      hkeep before fun e he heq => hbefore e.1 (List.mem_map_of_mem he) k List.mem_cons_self heq,
      hkeep after fun e he heq => hafter (List.mem_map.mpr ⟨e, he, heq⟩)]
    simp only [List.flatMap_append, List.flatMap_cons, hold old hget, List.append_assoc]
    exact (List.perm_append_comm.append_left _).append_left _

/-! ### Lists that are sorted into classes -/

section Classes

variable {ε : Type*} {α β γ : Type*}

/-- What is found of some things holds what is read of them all, when nothing is read of those
that are left out. -/
theorem flatMap_reduceOption {f : α → Except ε (Option β)} {l : List α} {found : List (Option β)}
    {g : β → List γ} {h : α → List γ} (hfound : List.Forall₂ (fun a b => f a = .ok b) l found)
    (hsome : ∀ a ∈ l, ∀ b, f a = .ok (some b) → g b = h a)
    (hnone : ∀ a ∈ l, f a = .ok none → h a = []) : found.reduceOption.flatMap g = l.flatMap h := by
  induction hfound with
  | nil => rfl
  | @cons a b l found hb _ ih =>
    have hrest := ih (fun a' ha' => hsome a' (List.mem_cons_of_mem a ha'))
      (fun a' ha' => hnone a' (List.mem_cons_of_mem a ha'))
    cases b with
    | none =>
      rw [List.reduceOption_cons_of_none, List.flatMap_cons, hnone a List.mem_cons_self hb, hrest,
        List.nil_append]
    | some b =>
      rw [List.reduceOption_cons_of_some, List.flatMap_cons, List.flatMap_cons,
        hsome a List.mem_cons_self b hb, hrest]

theorem reduceOption_sublist {κ : Type*} {f : α → Except ε (Option β)} {l : List α}
    {found : List (Option β)} {name : α → κ} {key : β → κ}
    (hfound : List.Forall₂ (fun a b => f a = .ok b) l found)
    (hkey : ∀ a b, f a = .ok (some b) → key b = name a) :
    (found.reduceOption.map key).Sublist (l.map name) := by
  induction hfound with
  | nil => exact List.Sublist.slnil
  | @cons a b l found hb _ ih =>
    cases b with
    | none => exact ih.cons _
    | some b =>
      rw [List.reduceOption_cons_of_some, List.map_cons, List.map_cons, hkey a b hb]
      exact ih.cons_cons _

/-- What some things are given stays apart, when the things have names that differ and what
each is given bears its name. -/
theorem filter_flatten_of_forall₂ {κ : Type*} [DecidableEq κ] {R : α → List β → Prop}
    {name : α → κ} {key : β → κ} {l : List α} {lists : List (List β)} (h : List.Forall₂ R l lists)
    (hkey : ∀ a ∈ l, ∀ bs, R a bs → ∀ b ∈ bs, key b = name a) (hnodup : (l.map name).Nodup)
    {a : α} (ha : a ∈ l) : ∃ bs, R a bs ∧ lists.flatten.filter (fun b => key b = name a) = bs := by
  induction h with
  | nil => cases ha
  | @cons a₀ bs l lists hR hrest ih =>
    rw [List.map_cons, List.nodup_cons] at hnodup
    have hkeys := fun a' (ha' : a' ∈ l) => hkey a' (List.mem_cons_of_mem a₀ ha')
    have hother : ∀ b ∈ lists.flatten, ∃ a' ∈ l, key b = name a' := by
      intro b hb
      obtain ⟨bs', hbs', hb⟩ := List.mem_flatten.mp hb
      obtain ⟨a', ha', hR'⟩ := Checked.exists_of_forall₂ hrest.flip hbs'
      exact ⟨a', ha', hkeys a' ha' bs' hR' b hb⟩
    rw [List.flatten_cons, List.filter_append]
    rcases List.mem_cons.mp ha with rfl | ha
    · refine ⟨bs, hR, ?_⟩
      rw [List.filter_eq_self.mpr, List.filter_eq_nil_iff.mpr, List.append_nil]
      · intro b hb
        obtain ⟨a', ha', hb⟩ := hother b hb
        rw [hb, decide_eq_true_eq]
        exact fun heq => hnodup.1 (heq ▸ List.mem_map_of_mem ha')
      · exact fun b hb => decide_eq_true (hkey a List.mem_cons_self bs hR b hb)
    · obtain ⟨bs', hR', hfilter⟩ := ih hkeys hnodup.2 ha
      refine ⟨bs', hR', ?_⟩
      rw [hfilter, List.filter_eq_nil_iff.mpr, List.nil_append]
      intro b hb
      rw [hkey a₀ List.mem_cons_self bs hR b hb, decide_eq_true_eq]
      exact fun heq => hnodup.1 (heq ▸ List.mem_map_of_mem ha)

theorem map_filter_mapIdx {δ : Type*} {f : ℕ → α → β} {p : β → Bool} {q : α → Bool} {g : β → δ}
    {h : α → δ} (hp : ∀ i a, p (f i a) = q a) (hg : ∀ i a, g (f i a) = h a) (l : List α) :
    ((l.mapIdx f).filter p).map g = (l.filter q).map h := by
  induction l generalizing f with
  | nil => rfl
  | cons a l ih =>
    have hrest := ih (fun i => hp (i + 1)) (fun i => hg (i + 1))
    rw [List.mapIdx_cons, List.filter_cons, List.filter_cons, hp]
    split
    · rw [List.map_cons, List.map_cons, hg, hrest]
    · exact hrest

end Classes

namespace Bootstrap

open Checked List Option

variable {rt : ImportRuntime} {sheet : SnapshotSheet} {mapping : HistoricalSheetMapping}

/-! ### Placing the annotations -/

def inHeader (native : HistoricalAnnotation) : Bool :=
  match annotationRow native with
  | .ok rowNumber => rowNumber ≤ 6
  | .error _ => false

/-- The rows of a sheet, once some of its annotations have been placed. -/
structure Placed (sheet : SnapshotSheet) (done : List HistoricalAnnotation)
    (rows : Dict ℕ SourceRow) : Prop where
  numbered : ∀ k row, rows.get k = some row → row.rowNumber = k
  natives : (done.filter inHeader ++ rows.values.flatMap SourceRow.annotations).Perm done
  located : ∀ k row, rows.get k = some row → ∀ native ∈ row.annotations,
    annotationRow native = .ok k ∧ 6 < k
  cells : ∀ source ∈ sheet.rows, ∃ row, rows.get source.rowNumber = some row ∧
    row.cells = source.cells

def bareRows (sheet : SnapshotSheet) : Dict ℕ SourceRow :=
  sheet.rows.foldl (fun rows row => rows.set row.rowNumber { row with annotations := [] }) .empty

theorem get_bareRows {k : ℕ} {row : SourceRow} :
    (bareRows sheet).get k = some row ↔
      ∃ source ∈ sheet.rows, source.rowNumber = k ∧ row = { source with annotations := [] } := by
  have hbare : bareRows sheet =
      .ofList (sheet.rows.map fun row => (row.rowNumber, { row with annotations := [] })) := by
    rw [bareRows, Dict.ofList, List.foldl_map]
  rw [hbare, Dict.get_ofList]
  · simp only [List.mem_map, Prod.mk.injEq]
    exact exists_congr fun source => and_congr_right fun _ => and_congr_right fun _ => eq_comm
  · rw [List.map_map]
    exact sheet.rows_nodup

theorem placed_bareRows : Placed sheet [] (bareRows sheet) where
  numbered k row h := by
    obtain ⟨source, -, hnumber, rfl⟩ := get_bareRows.mp h
    exact hnumber
  natives := by
    rw [filter_nil, nil_append, flatMap_eq_nil_iff.mpr]
    intro row hrow
    obtain ⟨k, hk⟩ := Dict.mem_values.mp hrow
    obtain ⟨source, -, -, rfl⟩ := get_bareRows.mp hk
    rfl
  located k row h native hnative := by
    obtain ⟨source, -, -, rfl⟩ := get_bareRows.mp h
    cases hnative
  cells source hsource := ⟨_, get_bareRows.mpr ⟨source, hsource, rfl, rfl⟩, rfl⟩

/-- **One annotation**: it is in the header, or goes to the row it is at. -/
theorem Placed.step {done : List HistoricalAnnotation} {rows rows' : Dict ℕ SourceRow}
    {native : HistoricalAnnotation} (hplaced : Placed sheet done rows)
    (h : placeAnnotation rows native = .ok rows') : Placed sheet (done ++ [native]) rows' := by
  simp only [ placeAnnotation, bind_ok_iff] at h
  obtain ⟨number, hnumber, h⟩ := h
  split at h
  · rename_i hheader
    cases h
    refine ⟨hplaced.numbered, ?_, hplaced.located, hplaced.cells⟩
    have hin : inHeader native = true := by simpa [inHeader, hnumber] using hheader
    rw [filter_append, filter_cons_of_pos hin, filter_nil, append_assoc]
    exact (perm_append_comm.append_left _).trans
      (by rw [← append_assoc]; exact hplaced.natives.append_right _)
  · rename_i hrow
    simp only [ok_iff] at h
    obtain ⟨-, -, rfl⟩ := h
    have hout : inHeader native ≠ true := by simpa [inHeader, hnumber] using hrow
    refine ⟨fun k row hk => ?_, ?_, fun k row hk => ?_, fun source hsource => ?_⟩
    · rw [Dict.get_set] at hk
      split at hk
      · rename_i heq
        rw [heq, ← some.inj hk]
        cases hold : rows.get number with
        | none => rfl
        | some old => exact hplaced.numbered number old hold
      · exact hplaced.numbered k row hk
    · rw [filter_append, filter_cons_of_neg hout, filter_nil, append_nil]
      refine ((@flatMap_set_perm _ _ _ _ rows number _ _ [native] (fun hnone => ?_)
        fun old hold => ?_).append_left _).trans ?_
      · simp [hnone]
      · simp [hold]
      · rw [← append_assoc]
        exact hplaced.natives.append_right _
    · rw [Dict.get_set] at hk
      split at hk
      · rename_i heq
        rw [← some.inj hk]
        intro other hother
        rcases mem_append.mp hother with hother | hother
        · cases hold : rows.get number with
          | none => simp [hold] at hother
          | some old =>
            rw [hold] at hother
            rw [heq]
            exact hplaced.located number old hold other hother
        · obtain rfl := mem_singleton.mp hother
          rw [heq]
          exact ⟨hnumber, Nat.lt_of_not_le hrow⟩
      · exact hplaced.located k row hk
    · obtain ⟨row, hget, hcells⟩ := hplaced.cells source hsource
      by_cases heq : source.rowNumber = number
      · refine ⟨_, by rw [Dict.get_set, if_pos heq], ?_⟩
        rw [heq] at hget
        simpa [hget] using hcells
      · exact ⟨row, by rw [Dict.get_set_of_ne _ _ heq]; exact hget, hcells⟩

theorem Placed.run {natives done : List HistoricalAnnotation} {rows rows' : Dict ℕ SourceRow}
    (hplaced : Placed sheet done rows) (h : natives.foldlM placeAnnotation rows = .ok rows') :
    Placed sheet (done ++ natives) rows' := by
  induction natives generalizing done rows with
  | nil =>
    rw [foldlM_nil, pure_ok_iff] at h
    rwa [append_nil, ← h]
  | cons native natives ih =>
    rw [foldlM_cons, bind_ok_iff] at h
    obtain ⟨rows₁, hplace, h⟩ := h
    have hrest := ih (hplaced.step hplace) h
    rwa [append_assoc, singleton_append] at hrest

/-! ### The rows of a sheet -/

structure Gathered (sheet : SnapshotSheet) (sources : List SourceRow) : Prop where
  nodup : (sources.map SourceRow.rowNumber).Nodup
  natives : (sheet.annotations.filter inHeader ++ sources.flatMap SourceRow.annotations).Perm
    sheet.annotations
  located : ∀ row ∈ sources, ∀ native ∈ row.annotations,
    annotationRow native = .ok row.rowNumber ∧ 6 < row.rowNumber
  cells : ∀ source ∈ sheet.rows, ∃ row ∈ sources, row.rowNumber = source.rowNumber ∧
    row.cells = source.cells

theorem gathered_sourceRows {sources : List SourceRow} (h : sourceRows sheet = .ok sources) :
    Gathered sheet sources := by
  simp only [sourceRows, ok_iff] at h
  obtain ⟨rows, hrows, rfl⟩ := h
  have hplaced := placed_bareRows.run hrows
  rw [nil_append] at hplaced
  have hperm :=
    perm_insertionSort (fun a b : SourceRow => a.rowNumber ≤ b.rowNumber) rows.values
  have hmem : ∀ {row}, row ∈ rows.values ↔ rows.get row.rowNumber = some row := by
    intro row
    rw [Dict.mem_values]
    refine ⟨fun ⟨k, hk⟩ => ?_, fun h => ⟨_, h⟩⟩
    rwa [hplaced.numbered k row hk]
  refine ⟨?_, (Perm.append_left _ (hperm.flatMap_right _)).trans hplaced.natives,
    fun row hrow => ?_, fun source hsource => ?_⟩
  · rw [(hperm.map _).nodup_iff]
    have hnumbers : rows.values.map SourceRow.rowNumber = rows.entries.rows.map Prod.fst := by
      rw [Dict.values, List.map_map]
      exact map_congr_left fun e he => hplaced.numbered e.1 e.2 (Dict.get_eq_some.mpr he)
    rw [hnumbers]
    exact rows.nodup_entries
  · exact hplaced.located _ row (hmem.mp (hperm.mem_iff.mp hrow))
  · obtain ⟨row, hget, hcells⟩ := hplaced.cells source hsource
    exact ⟨row, hperm.mem_iff.mpr (Dict.mem_values.mpr ⟨_, hget⟩), hplaced.numbered _ row hget,
      hcells⟩

/-! ### What the ledger keeps of a row -/

variable {date1904 : Bool}

/-- Another date system changes the evidence of a date, and nothing that decides whether a row
is kept. -/
theorem mapHistoricalRow_date {row : SourceRow} {dated : MappedRowOf Members}
    (h : mapHistoricalRow rt { row with date1904 } mapping = .ok dated) :
    ∃ mapped, mapHistoricalRow rt row mapping = .ok mapped ∧
      isKept rt sheet mapping { row with date1904 } dated = isKept rt sheet mapping row mapped := by
  simp only [mapHistoricalRow, ok_iff] at h
  obtain ⟨-, hsource, rfl⟩ := h
  exact ⟨_, bind_ok_iff.mpr ⟨(), require_ok_iff.mpr hsource, rfl⟩, rfl⟩

variable {source : SourceRow}

/-- **A row is kept** when the coverage counts it. -/
theorem pendingRow_ok {kept : Option PendingRow}
    (h : pendingRow rt date1904 sheet mapping source = .ok kept) :
    ∃ mapped, mapHistoricalRow rt source mapping = .ok mapped ∧
      kept.isSome = isKept rt sheet mapping source mapped ∧
      ∀ pending, kept = some pending → pending.sheet = sheet ∧
        pending.source = { source with date1904 } := by
  simp only [pendingRow, bind_ok_iff] at h
  obtain ⟨dated, hdated, h⟩ := h
  obtain ⟨mapped, hmapped, hkept⟩ := @mapHistoricalRow_date _ sheet _ _ _ _ hdated
  refine ⟨mapped, hmapped, ?_⟩
  rw [← hkept]
  split at h
  · rename_i hnot
    rw [pure_ok_iff] at h
    subst h
    exact ⟨by simpa using hnot, fun pending hpend => by cases hpend⟩
  · rename_i hyes
    rw [pure_ok_iff] at h
    subst h
    refine ⟨by simpa using hyes, fun pending hpend => ?_⟩
    rw [some.injEq] at hpend
    subst hpend
    exact ⟨rfl, rfl⟩

theorem mem_evidence {column : String} {cell : Cell} (hcell : source.cells.get column = some cell)
    (hevidence : cell.isEvidence) : column ∈ evidence source :=
  mem_map.mpr ⟨(column, cell),
    mem_filter.mpr ⟨Dict.get_eq_some.mp hcell, hevidence⟩, rfl⟩

theorem not_kept {mapped : MappedRowOf Members} (h : isKept rt sheet mapping source mapped = false) :
    source.annotations = [] ∧ ∀ column ∈ evidence source, column ∈ mapping.excluded := by
  simp only [isKept, Bool.or_eq_false_iff, Bool.not_eq_false', List.isEmpty_iff,
    List.any_eq_false, decide_eq_true_eq, not_not] at h
  exact ⟨h.2, h.1.1.2⟩

/-- **The coverage announces a row for each that is kept.** -/
theorem coverRow_ledgerRows {mapped : MappedRowOf Members} {result result' : SourceCoverage}
    (hmapped : mapHistoricalRow rt source mapping = .ok mapped)
    (h : coverRow rt sheet mapping result source = .ok result') :
    result'.ledgerRows = result.ledgerRows + (isKept rt sheet mapping source mapped).toNat := by
  simp only [coverRow, hmapped, ok_bind, pure_ok_iff] at h
  rw [← h]

theorem ledgerRows_of_pending {sources : List SourceRow} {found : List (Option PendingRow)}
    {result result' : SourceCoverage} (hfound : Forall₂ (fun source kept =>
      pendingRow rt date1904 sheet mapping source = .ok kept) sources found)
    (h : sources.foldlM (coverRow rt sheet mapping) result = .ok result') :
    result'.ledgerRows = result.ledgerRows + found.reduceOption.length := by
  induction hfound generalizing result with
  | nil =>
    rw [foldlM_nil, pure_ok_iff] at h
    rw [h, reduceOption_nil, length_nil, Nat.add_zero]
  | @cons source kept sources found hkept _ ih =>
    rw [foldlM_cons, bind_ok_iff] at h
    obtain ⟨result₁, hcover, h⟩ := h
    obtain ⟨mapped, hmapped, hsome, -⟩ := pendingRow_ok hkept
    rw [ih h, coverRow_ledgerRows hmapped hcover, ← hsome]
    cases kept with
    | none => rfl
    | some pending =>
      rw [reduceOption_cons_of_some, length_cons, isSome_some, Bool.toNat_true]
      omega

/-! ### What a mapping keeps of a sheet -/

theorem quarantine_natives {sha256 : Sha} {kept : List MetadataQuarantine}
    (h : historicalMetadataQuarantine rt sha256 sheet = .ok kept) :
    kept.map MetadataQuarantine.native = sheet.annotations.filter inHeader ∧
      ∀ q ∈ kept, q.relationId = sheet.relationId ∧ inHeader q.native = true := by
  simp only [historicalMetadataQuarantine, ok_iff, mapM_ok_iff] at h
  obtain ⟨found, hfound, rfl⟩ := h
  generalize sheet.annotations = natives at hfound
  induction hfound with
  | nil => simp
  | @cons native out natives found hout _ ih =>
    simp only [quarantined, bind_ok_iff] at hout
    obtain ⟨rowNumber, hrow, hout⟩ := hout
    split at hout
    · rename_i hbelow
      rw [pure_ok_iff] at hout
      subst hout
      have hnot : inHeader native ≠ true := by simpa [inHeader, hrow] using hbelow
      rwa [filter_cons_of_neg hnot, reduceOption_cons_of_none]
    · rename_i habove
      rw [pure_ok_iff] at hout
      subst hout
      have hin : inHeader native = true := by simpa [inHeader, hrow] using habove
      rw [filter_cons_of_pos hin, reduceOption_cons_of_some, map_cons, ih.1]
      refine ⟨rfl, fun q hq => ?_⟩
      rcases mem_cons.mp hq with rfl | hq
      · exact ⟨rfl, hin⟩
      · exact ih.2 q hq

/-- **What a mapping keeps of a sheet**: the annotations, each in the quarantine of the header or
in one row of the ledger, that it is at; and the cells that are not left out on purpose. The rows
of the ledger are as many as the coverage has announced. -/
structure SheetPreserved (sheet : SnapshotSheet) (mapping : HistoricalSheetMapping)
    (quarantine : List MetadataQuarantine) (coverage : SourceCoverage) (ledger : List SourceRow) :
    Prop where
  nodup : (ledger.map SourceRow.rowNumber).Nodup
  natives : (quarantine.map MetadataQuarantine.native ++
    ledger.flatMap SourceRow.annotations).Perm sheet.annotations
  header : ∀ q ∈ quarantine, inHeader q.native = true
  located : ∀ row ∈ ledger, ∀ native ∈ row.annotations,
    annotationRow native = .ok row.rowNumber ∧ 6 < row.rowNumber
  cells : ∀ source ∈ sheet.rows, ∀ column cell, source.cells.get column = some cell →
    cell.isEvidence → column ∉ mapping.excluded →
    ∃ row ∈ ledger, row.rowNumber = source.rowNumber ∧ row.cells.get column = some cell
  predicted : coverage.ledgerRows = ledger.length

theorem sheet_of_sheetRows {s : ImportStore} {campusId : String}
    {mappings : List HistoricalSheetMapping} {pending : List PendingRow}
    (h : sheetRows rt s campusId date1904 mappings sheet = .ok pending) :
    ∀ row ∈ pending, row.sheet = sheet := by
  simp only [sheetRows, ok_iff, mapM_ok_iff] at h
  obtain ⟨mapping, -, -, -, -, -, -, -, sources, -, found, hfound, rfl⟩ := h
  intro row hrow
  obtain ⟨source, -, hkept⟩ := exists_of_forall₂ hfound.flip (reduceOption_mem_iff.mp hrow)
  obtain ⟨-, -, -, hsome⟩ := pendingRow_ok hkept
  exact (hsome row rfl).1

/-- **One sheet** is kept. -/
theorem sheet_preserved {s : ImportStore} {campusId : String} {sha256 : Sha}
    {mappings : List HistoricalSheetMapping} {quarantine : List MetadataQuarantine}
    {coverage : SourceCoverage} {pending : List PendingRow}
    (hcoverage : sheetCoverage rt mappings sheet = .ok coverage)
    (hquarantine : historicalMetadataQuarantine rt sha256 sheet = .ok quarantine)
    (hpend : sheetRows rt s campusId date1904 mappings sheet = .ok pending) :
    ∃ mapping ∈ mappings, mapping.name = sheet.name ∧
      SheetPreserved sheet mapping quarantine coverage (pending.map PendingRow.source) := by
  simp only [sheetCoverage, historicalSourceCoverage, ok_iff] at hcoverage
  obtain ⟨mapping, hfind, sources, hsources, hcover⟩ := hcoverage
  simp only [sheetRows, hfind, demand_some, ok_bind, hsources, ok_iff, mapM_ok_iff] at hpend
  obtain ⟨-, -, -, -, -, -, found, hfound, rfl⟩ := hpend
  have hgathered := gathered_sourceRows hsources
  obtain ⟨hnatives, hheader⟩ := quarantine_natives hquarantine
  have hsource : ∀ source kept, pendingRow rt date1904 sheet mapping source = .ok (some kept) →
      kept.source = { source with date1904 } := fun source kept hkept => by
    obtain ⟨-, -, -, hsome⟩ := pendingRow_ok hkept
    exact (hsome kept rfl).2
  have horigin : ∀ row ∈ found.reduceOption, ∃ source ∈ sources,
      pendingRow rt date1904 sheet mapping source = .ok (some row) := fun row hrow =>
    exists_of_forall₂ hfound.flip (reduceOption_mem_iff.mp hrow)
  have hdropped : ∀ source ∈ sources, pendingRow rt date1904 sheet mapping source = .ok none →
      source.annotations = [] ∧ ∀ column ∈ evidence source, column ∈ mapping.excluded := by
    intro source _ hnone
    obtain ⟨mapped, -, hkept, -⟩ := pendingRow_ok hnone
    exact not_kept hkept.symm
  refine ⟨mapping, mem_of_find?_eq_some hfind,
    by simpa using find?_some hfind, ?_, ?_, fun q hq => (hheader q hq).2, fun row hrow => ?_,
    fun source hmem column cell hcell hevidence hexcluded => ?_, ?_⟩
  · rw [List.map_map]
    refine (reduceOption_sublist hfound fun source kept hkept => ?_).nodup hgathered.nodup
    rw [Function.comp_apply, hsource source kept hkept]
  · rw [hnatives, flatMap_map, flatMap_reduceOption hfound (fun source _ kept hkept => ?_)
      fun source hsource hnone => (hdropped source hsource hnone).1]
    · exact hgathered.natives
    · rw [hsource source kept hkept]
  · obtain ⟨kept, hkept, rfl⟩ := mem_map.mp hrow
    obtain ⟨source, hmem, hout⟩ := horigin kept hkept
    rw [hsource source kept hout]
    exact hgathered.located source hmem
  · obtain ⟨row, hrow, hnumber, hcells⟩ := hgathered.cells source hmem
    rw [← hcells] at hcell
    obtain ⟨kept, hkept, hout⟩ := exists_of_forall₂ hfound hrow
    cases kept with
    | none =>
      exact absurd ((hdropped row hrow hout).2 column (mem_evidence hcell hevidence)) hexcluded
    | some kept =>
      refine ⟨_, mem_map_of_mem (reduceOption_mem_iff.mpr hkept), ?_⟩
      rw [hsource row kept hout]
      exact ⟨hnumber, hcell⟩
  · rw [ledgerRows_of_pending hfound hcover, Nat.zero_add, length_map]

/-- **What a mapping preserves**: whenever a mapping changes something, all of the evidence of
each sheet is in the quarantine of its header or in the rows that have been created for it, as
many as its coverage announces. -/
theorem mapping_preserves {s s' : ImportStore} {auth : Authority} {id : String}
    {input : HistoricalMappingInput} {draw : Draw}
    (h : Bootstrap.mapping rt s auth id input draw = .ok s') (hchanged : s' ≠ s) :
    ∃ p ∈ s.packages.rows, ∃ snapshot, p.snapshot = some snapshot ∧ Uuid.read id = some p.id ∧
      ∃ created, s'.rows.rows = s.rows.rows ++ created ∧
      ∃ plan ∈ s'.plans.rows, plan.packageId = p.id ∧
      Forall₂ (fun sheet coverage => ∃ mapping ∈ input.sheets, mapping.name = sheet.name ∧
        SheetPreserved sheet mapping
          (plan.metadataQuarantine.filter fun q => q.relationId = sheet.relationId) coverage
          ((created.filter fun row => row.relationId = sheet.relationId).map
            BootstrapImportRow.payload)) snapshot.sheets plan.sourceCoverage := by
  simp only [Bootstrap.mapping, bind_ok_iff] at h
  obtain ⟨-, -, p, hp, h⟩ := h
  obtain ⟨u, hid, hpack⟩ := package_ok hp
  obtain ⟨-, rfl⟩ := ImportStore.package_eq_some.mp hpack
  split at h
  · exact absurd (pure_ok_iff.mp h).symm hchanged
  · simp only [mapPackage, ok_iff, insert_ok_iff] at h
    obtain ⟨-, -, snapshot, hsnap, batches, -, coverage, hcoverage, quarantine, hquarantine,
      plans, hplans, sheets, hsheets, -, -, rows, hinserted, h⟩ := h
    rw [updatePackage_ok h]
    refine ⟨p, package_mem hp, snapshot, hsnap, hid, _, insertAll_rows hinserted, _,
      (Table.mem_create hplans).mpr (.inr rfl), rfl, ?_⟩
    have hcovered := mapM_ok_iff.mp hcoverage
    refine ((forall₂_and_left _ _).mpr ⟨fun sheet hsheet => hsheet, hcovered⟩).imp
      fun sheet cover hboth => ?_
    obtain ⟨hsheet, hcover⟩ := hboth
    obtain ⟨kept, hkept, hquarantined⟩ := filter_flatten_of_forall₂ (mapM_ok_iff.mp hquarantine)
      (fun sheet _ kept hkept q hq => ((quarantine_natives hkept).2 q hq).1)
      snapshot.relations_nodup hsheet
    obtain ⟨pending, hpend, hrows⟩ := filter_flatten_of_forall₂ (mapM_ok_iff.mp hsheets)
      (fun sheet _ pending hpend row hrow => congrArg SnapshotSheet.relationId
        (sheet_of_sheetRows hpend row hrow)) snapshot.relations_nodup hsheet
    obtain ⟨mapping, hmapping, hname, hpreserved⟩ := sheet_preserved hcover hkept hpend
    refine ⟨mapping, hmapping, hname, ?_⟩
    have hledger : ((plannedRows rt p draw sheets.flatten).filter fun row =>
        row.relationId = sheet.relationId).map BootstrapImportRow.payload =
        (sheets.flatten.filter fun row => row.sheet.relationId = sheet.relationId).map
          PendingRow.source := by
      refine map_filter_mapIdx (fun i row => ?_) (fun i row => ?_) _
      · rfl
      · rfl
    rw [hquarantined, hledger, hrows]
    exact hpreserved

namespace Sample

def note (reference : String) : HistoricalAnnotation where
  annotationId := reference
  reference := reference
  text := "to be called again"
  relationshipId := "rId1"

/-- The workbook, with annotations of the header, of the visitor and of an empty row. -/
def annotated : BootstrapImportPackage := { workbook with
  snapshot := some { sheets := historicalSheets.map fun name =>
    { name, relationId := name, columns := [⟨"A", "Nom"⟩]
      rows := if name = "JOBINTECH REACT" then [visitor] else []
      annotations := if name = "JOBINTECH REACT" then [note "A1", note "A7", note "B9"] else []
      rows_nodup := rows_nodup name } } }

/-- The world gives two identifiers of rows. -/
def twoRows : Draw := { draw with
  rowId := fun i => if i = 0 then draw.rowId 0
    else ⟨"66666666-0000-4000-8000-000000000000", by decide⟩ }

def mappingInput : HistoricalMappingInput where
  expectedVersion := 2
  mappingVersion := "R8-v1"
  sheets := historicalSheets.map sheetMapping

end Sample

open Bootstrap.Sample

/-- The visitor and the empty row get a row of the ledger each. -/
theorem mapping_preserves_annotated :
    ∃ s', Bootstrap.mapping .plain { store with packages := .ofRows [annotated] }
        author annotated.id.val mappingInput twoRows = .ok s' ∧ s'.rows.rows.length = 2 ∧
      ∃ plan ∈ s'.plans.rows, plan.sourceCoverage.length = historicalSheets.length := by
  have hrun : (Bootstrap.mapping .plain { store with packages := .ofRows [annotated] } author
      annotated.id.val mappingInput twoRows).map (fun s' => s'.rows.rows.length) = .ok 2 := by
    decide +kernel
  obtain ⟨s', h, hlen⟩ := map_ok_iff.mp hrun
  obtain ⟨p, hp, snapshot, hsnap, -, created, -, plan, hplan, -, hsheets⟩ :=
    mapping_preserves h fun heq => by
      rw [heq] at hlen
      cases hlen
  obtain rfl := mem_singleton.mp hp
  cases hsnap
  exact ⟨s', h, hlen, plan, hplan, by rw [← hsheets.length_eq, length_map]⟩

end Bootstrap

end CrmYnov
