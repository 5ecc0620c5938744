import CrmYnov.Base.Keyed
import CrmYnov.SheetImport.Append.Advance

/-!
# Observations that are written

The conflict check is what the rows of a ledger owe their history to: where it finds nothing,
every row there is has its position in the observation, as it was or completed
(`CrmYnov.SheetImport.develops_of_unconflicted`); where it finds something, no row is changed
and the stream is suspended. Either way the rows that are new are queued, so that every row down
to the last one observed is in the ledger (`CrmYnov.SheetImport.sound_writeObservation`).
-/

namespace CrmYnov.SheetImport

open Checked Dict List

variable {rt : Runtime}

/-! ### What was read before -/

variable {row : AppendRow}

theorem mem_appendRows {S : AppendStore} {id : String}
    (h : row ∈ appendRows S id) : row ∈ S.rows.rows ∧ row.streamId = id := by
  have hmem := mem_of_mem_take h
  rw [mem_insertionSort, Table.mem_findMany] at hmem
  exact hmem

theorem row_of_earlier {S : AppendStore} {id : String} {n : ℕ} {old : AppendRow}
    (h : (ofList ((appendRows S id).map fun row => (row.rowNumber, row))).get n = some old) :
    old ∈ appendRows S id ∧ old ∈ S.rows.rows ∧ old.At id n := by
  obtain ⟨row, hrow, heq⟩ := mem_map.mp (mem_of_get_ofList h)
  obtain ⟨rfl, rfl⟩ := Prod.mk.inj heq
  obtain ⟨hmem, hid⟩ := mem_appendRows hrow
  exact ⟨hrow, hmem, hid, rfl⟩

theorem mem_appendRecords {contract : SheetAppendContract}
    {positions : List SheetAppendPosition} {records : List AppendRecord}
    (h : appendRecords rt contract positions = .ok records) {record : AppendRecord}
    (hrecord : record ∈ records) :
    record.position ∈ positions ∧ contract.boundaryRow < record.position.row := by
  obtain ⟨position, hposition, hread⟩ := exists_of_mem_mapM h hrecord
  simp only [ok_iff] at hread
  obtain ⟨key, -, rfl⟩ := hread
  simpa using mem_filter.mp hposition

theorem exists_record {contract : SheetAppendContract} {positions : List SheetAppendPosition}
    {records : List AppendRecord} (h : appendRecords rt contract positions = .ok records)
    {position : SheetAppendPosition} (hposition : position ∈ positions)
    (hboundary : contract.boundaryRow < position.row) :
    ∃ record ∈ records, record.position = position := by
  obtain ⟨record, hrecord, hread⟩ := exists_of_mapM h
    (mem_filter.mpr ⟨hposition, by simpa using hboundary⟩)
  simp only [ok_iff] at hread
  obtain ⟨key, -, rfl⟩ := hread
  exact ⟨_, hrecord, rfl⟩

theorem unaltered_of_conflict {stream : AppendStream} {contract : SheetAppendContract}
    {observation : Observation} {rows : List AppendRow} {approved : List (ℕ × String)}
    (h : appendObservationConflict rt stream contract observation rows approved = none) :
    ∀ row ∈ rows, ¬Altered (byRow observation.positions) row := by
  rw [appendObservationConflict] at h
  split at h
  · cases h
  · split at h
    · cases h
    · split at h
      · cases h
      · rename_i hrows
        exact fun row hrow haltered => hrows ⟨row, hrow, haltered⟩

/-- **A row that is not altered develops** into what its position says, where the position says
something else. -/
theorem develops_of_unconflicted {observation : Observation} {scope : SheetLocalScope}
    (hcomplete : observation.Complete scope) {record : AppendRecord}
    (hunaltered : ¬Altered (byRow observation.positions) row)
    (hposition : record.position ∈ observation.positions)
    (hrow : record.position.row = row.rowNumber)
    (hprint : row.fingerprint ≠ record.position.fingerprint) (observedAt : Instant) :
    Develops row (row.completed record observedAt) := by
  simp only [Altered, not_forall, not_and, Bool.not_eq_false] at hunaltered
  obtain ⟨current, hcur, hcomplete'⟩ := hunaltered
  obtain ⟨position, hmem, heq⟩ := mem_map.mp (mem_of_get_ofList hcur)
  obtain ⟨hnumber, rfl⟩ := Prod.mk.inj heq
  -- a row number has one position, so that what is found is the record's own
  obtain rfl : position = record.position :=
    Keyed.eq_of_key hcomplete.rows hmem hposition (hnumber.trans hrow.symm)
  have hmay := hcomplete' (Ne.symm hprint)
  simp only [appendRowMayComplete, Bool.and_eq_true, decide_eq_true_eq, mem_cons,
    not_mem_nil, or_false, appendCompletion_iff] at hmay
  exact ⟨rfl, hmay.1, hmay.2⟩

variable {rows : Table AppendRow AppendRow.keys}

theorem rowsGrow_completeRows {id : String} {updates : List AppendRecord} {observedAt : Instant}
    (h : ∀ row ∈ rows.rows, row.streamId = id → ∀ record ∈ updates,
      record.position.row = row.rowNumber → Develops row (row.completed record observedAt)) :
    RowsGrow rows (completeRows rows id updates observedAt) := by
  refine Table.Grows.of_updateMany _ fun row hrow hp => ?_
  obtain ⟨hid, record, hrecord, hnumber⟩ := hp
  cases hfind : updates.find? fun record => record.position.row = row.rowNumber with
  | none =>
    have := find?_eq_none.mp hfind record hrecord
    simp [hnumber] at this
  | some found =>
    have hfound : found.position.row = row.rowNumber := by simpa using find?_some hfind
    exact h row hrow hid found (mem_of_find?_eq_some hfind) hfound

theorem mem_completeRows_of_ne {id : String} {updates : List AppendRecord} {observedAt : Instant}
    (hid : row.streamId ≠ id) :
    row ∈ (completeRows rows id updates observedAt).rows ↔ row ∈ rows.rows := by
  rw [completeRows, Table.mem_updateMany]
  constructor
  · rintro ⟨old, hold, rfl⟩
    by_cases hp : old.streamId = id ∧ ∃ record ∈ updates, record.position.row = old.rowNumber
    · rw [if_pos hp] at hid
      cases hfind : updates.find? fun record => record.position.row = old.rowNumber with
      | none => rw [hfind] at hid; exact absurd hp.1 hid
      | some found => rw [hfind] at hid; exact absurd hp.1 hid
    · rwa [if_neg hp]
  · exact fun hrow => ⟨row, hrow, if_neg fun hp => hid hp.1⟩

section Writing

variable {S : AppendStore} {w : ObservationOccasion} {id : String} {stream : AppendStream}
  {contract : SheetAppendContract} {observation : Observation} {scope : SheetLocalScope}
  {records : List AppendRecord} {conflict : Option String}

structure RowsWritten (S : AppendStore) (id : String) (records : List AppendRecord)
    (rows : Table AppendRow AppendRow.keys) : Prop where
  grows : RowsGrow S.rows rows
  others : ∀ row : AppendRow, row.streamId ≠ id → (row ∈ rows.rows ↔ row ∈ S.rows.rows)
  present : ∀ record ∈ records, ∃ row ∈ rows.rows, row.At id record.position.row

/-- **The rows of an observation are written**: those there were are completed or kept, and
every record has its row. -/
theorem rowsWritten (hcomplete : observation.Complete scope)
    (hrecords : appendRecords rt contract observation.positions = .ok records)
    (hconflict : conflict = none → ∀ row ∈ appendRows S id,
      ¬Altered (byRow observation.positions) row)
    (hrows : ((records.filter fun record =>
        ((ofList ((appendRows S id).map fun row => (row.rowNumber, row))).get
          record.position.row).isNone).map
        fun record => record.row w id conflict).foldlM insert S.rows = .ok rows) :
    RowsWritten S id records (completeRows rows id
      (if conflict.isSome then [] else records.filter fun record =>
        ((ofList ((appendRows S id).map fun row => (row.rowNumber, row))).get
          record.position.row).any fun old => old.fingerprint != record.position.fingerprint)
      w.observedAt) := by
  have hall := insertAll_rows hrows
  have hkept : ∀ row ∈ S.rows.rows, row ∈ rows.rows := fun row hrow => by
    rw [hall]
    exact mem_append_left _ hrow
  have hgrows : RowsGrow rows (completeRows rows id
      (if conflict.isSome then [] else records.filter fun record =>
        ((ofList ((appendRows S id).map fun row => (row.rowNumber, row))).get
          record.position.row).any fun old => old.fingerprint != record.position.fingerprint)
      w.observedAt) := by
    refine rowsGrow_completeRows fun row hrow hid record hrecord hnumber => ?_
    cases conflict with
    | some reason => exact absurd hrecord not_mem_nil
    | none =>
      obtain ⟨hmem, hany⟩ := mem_filter.mp hrecord
      obtain ⟨old, hold, hne⟩ := (Option.any_eq_true _ _).mp hany
      obtain ⟨holdrow, hmemold, hat⟩ := row_of_earlier hold
      -- the row the update finds is the one that was read before
      obtain rfl : old = row := rows.eq_of_key (hkept old hmemold) hrow hat.mem_keys
        (AppendRow.At.mem_keys ⟨hid, hnumber.symm⟩)
      exact develops_of_unconflicted hcomplete (hconflict rfl old holdrow)
        (mem_appendRecords hrecords hmem).1 hnumber (by simpa using hne) w.observedAt
  refine ⟨fun row hrow => hgrows row (hkept row hrow), fun row hid => ?_, fun record hrecord => ?_⟩
  · rw [mem_completeRows_of_ne hid, hall, mem_append, or_iff_left]
    intro hnew
    obtain ⟨record, -, rfl⟩ := mem_map.mp hnew
    exact hid rfl
  · cases hearlier : (ofList ((appendRows S id).map fun row => (row.rowNumber, row))).get
        record.position.row with
    | some old =>
      obtain ⟨-, hmemold, rfl, hnumber⟩ := row_of_earlier hearlier
      rw [← hnumber]
      exact hgrows.at (hkept old hmemold)
    | none =>
      have hnew : record.row w id conflict ∈ rows.rows := by
        rw [hall]
        refine mem_append_right _ (mem_map.mpr ⟨record, ?_, rfl⟩)
        exact mem_filter.mpr ⟨hrecord, by rw [hearlier]; rfl⟩
      exact hgrows.at hnew

/-- **An observation is written**: the ledger advances, and the rows of its stream are all
there. -/
theorem sound_writeObservation {S' : AppendStore} (hstream : S.streams.get id = some stream)
    (hcontract : stream.contract = some contract) (hsusp : stream.suspended = false)
    (hscope : parseSheetLocalRange contract.range = .ok scope)
    (hcomplete : observation.Complete scope)
    (hrecords : appendRecords rt contract observation.positions = .ok records)
    (hconflict : conflict = none → ∀ row ∈ appendRows S id,
      ¬Altered (byRow observation.positions) row)
    (h : writeObservation S w id stream observation records conflict = .ok S') : Sound S S' := by
  simp only [writeObservation, bind_ok_iff] at h
  obtain ⟨rows, hrows, versions, -, h⟩ := h
  have hwritten := rowsWritten (w := w) hcomplete hrecords hconflict hrows
  generalize hrows' : completeRows rows id _ w.observedAt = rows' at h hwritten
  generalize hnew : ({ stream with
    lastObservedRow := max stream.lastObservedRow observation.lastOccupiedRow
    lastDurableRow := _ } : AppendStream) = new at h
  have hnewcontract : new.contract = some contract := by rw [← hnew]; exact hcontract
  have hnewlast : new.lastObservedRow = max stream.lastObservedRow observation.lastOccupiedRow := by
    rw [← hnew]
  -- without the suspension, which comes last
  have hsound : Sound S { S with streams := S.streams.set id new, rows := rows', versions } := by
    intro hS
    have hget := fun id' => get_set S.streams id id' new
    refine ⟨⟨fun e he => ?_, hS.once, fun id' stream' hstream' => ?_,
      fun id' stream' hstream' => ?_⟩, hwritten.grows, fun id' stream' hstream' => ?_,
      fun id' stream' hstream' hhalted => ⟨fun row hrow => hwritten.others row ?_, rfl⟩⟩
    · obtain ⟨row, hrow, hat, hsettled⟩ := hS.settled e he
      exact ⟨row, hwritten.grows.settled hrow hsettled, hat, hsettled⟩
    · simp only [hget] at hstream'
      split at hstream'
      · cases hstream'
        intro c hc
        rw [hnewcontract] at hc
        exact hS.bounded id stream hstream c (hcontract.trans hc)
      · exact hS.bounded id' stream' hstream'
    · simp only [hget] at hstream'
      split at hstream'
      · rename_i hid
        cases hstream'
        intro c hc n hboundary hlast
        rw [hnewcontract] at hc
        cases hc
        rw [hid]
        rw [hnewlast] at hlast
        by_cases hseen : n ≤ stream.lastObservedRow
        · have hcovered := hS.covered id stream hstream
          exact hcovered.mono hwritten.grows contract hcontract n hboundary hseen
        · obtain ⟨scope', hscope', hheader⟩ := hS.bounded id stream hstream contract hcontract
          rw [hscope] at hscope'
          cases hscope'
          obtain ⟨position, hposition, rfl⟩ := hcomplete.covers n (by omega) (by omega)
          obtain ⟨record, hrecord, rfl⟩ := exists_record hrecords hposition hboundary
          exact hwritten.present record hrecord
      · exact (hS.covered id' stream' hstream').mono hwritten.grows
    · by_cases hid : id' = id
      · subst hid
        rw [hstream] at hstream'
        cases hstream'
        refine ⟨new, (hget _).trans (if_pos rfl), fun c hc => ?_, fun hs => ?_⟩
        · rw [hnewcontract]
          exact hcontract.symm.trans hc
        · rw [hsusp] at hs
          cases hs
      · exact ⟨stream', (hget _).trans ((if_neg hid).trans hstream'), fun _ hc => hc, fun hs => hs⟩
    · intro hid
      rw [← hrow, hid, hstream] at hstream'
      cases hstream'
      rw [hsusp] at hhalted
      cases hhalted
  cases conflict with
  | none =>
    cases h
    exact hsound
  | some reason =>
    cases h
    exact hsound.trans (sound_suspendAppend (by simp) reason)

end Writing

/-- **`persistAppendObservation`, whatever the response holds.** -/
theorem sound_persist {S S' : AppendStore} {connector : AppendConnector}
    {configuration : SheetConfiguration} {values : Js.Json} {w : ObservationOccasion} {b : Bool}
    (h : persistAppendObservation rt S connector configuration values w = .ok (b, S')) :
    Sound S S' := by
  simp only [persistAppendObservation, bind_ok_iff] at h
  obtain ⟨⟨id, stream, contract⟩, hbinding, h⟩ := h
  obtain ⟨hstream, hcontract, hsusp⟩ := assertAppendBinding_ok hbinding
  cases hobservation : appendPositions rt contract.range values with
  | error e =>
    simp only [hobservation, pure_ok_iff, Prod.mk.injEq] at h
    obtain ⟨-, rfl⟩ := h
    exact sound_suspendAppend hstream _
  | ok observation =>
    simp only [hobservation, bind_ok_iff] at h
    obtain ⟨approved, -, records, hrecords, h⟩ := h
    obtain ⟨scope, hscope, hcomplete⟩ := appendPositions_ok rt hobservation
    split at h
    · cases h
      exact sound_suspendAppend hstream _
    · simp only [ok_iff] at h
      obtain ⟨S₁, hwrite, -, rfl⟩ := h
      exact sound_writeObservation hstream hcontract hsusp hscope hcomplete hrecords
        unaltered_of_conflict hwrite

end CrmYnov.SheetImport
