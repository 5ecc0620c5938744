import CrmYnov.SheetImport.Append.Observation

/-!
# What the ledger of an append-only sheet keeps

Over any transactions, from where nothing is stored: a row that is neither pending nor
incomplete stays as it is, the payloads of a row fill one another, a row is handed to the
ingestion once, the rows of a stream after its boundary are all in the ledger, and nothing is
done about a stream once it is suspended (`CrmYnov.SheetImport.append_ledger_kept`).

A row is handed over in the transaction that settles it, and is pending until then: this is why
it is handed over once.
-/

namespace CrmYnov.SheetImport

open Checked List

variable {rt : Runtime}

/-! ### Rows that are processed -/

variable {tracked : AppendRow}

variable {S : AppendStore}

theorem mem_settleRow (htracked : tracked ∈ S.rows.rows)
    (receiptKey : String × String) (status : AppendStatus) (errorCode batchId : Option String)
    (outcome : ReceiptOutcome) :
    { tracked with status, errorCode, batchId := batchId.or tracked.batchId } ∈
      (settleRow S tracked receiptKey status errorCode batchId outcome).rows.rows :=
  mem_map.mpr ⟨tracked, htracked, if_pos rfl⟩

variable {stream : AppendStream}

/-- **A pending row is settled.** -/
theorem sound_settleRow {id : String} (hstream : S.streams.get id = some stream)
    (hsusp : stream.suspended = false) (htracked : tracked ∈ S.rows.rows)
    (hid : tracked.streamId = id) (hopen : tracked.Open) (receiptKey : String × String)
    (status : AppendStatus) (errorCode batchId : Option String) (outcome : ReceiptOutcome) :
    Sound S (settleRow S tracked receiptKey status errorCode batchId outcome) := by
  have hsame : ∀ row ∈ S.rows.rows, row.id = tracked.id → row = tracked := fun row hrow heq =>
    S.rows.eq_of_key hrow htracked (k := .id tracked.id) (by simp [AppendRow.keys, heq])
      (by simp [AppendRow.keys])
  have hgrows : RowsGrow S.rows
      (settleRow S tracked receiptKey status errorCode batchId outcome).rows := by
    intro row hrow
    refine ⟨_, mem_map.mpr ⟨row, hrow, rfl⟩, ?_⟩
    by_cases hp : row.id = tracked.id
    · rw [if_pos hp]
      obtain rfl := hsame row hrow hp
      exact .inr ⟨rfl, hopen, Fills.refl _⟩
    · rw [if_neg hp]
      exact .inl rfl
  intro hS
  refine ⟨⟨fun e he => ?_, hS.once, hS.bounded, fun id' stream' hstream' =>
    (hS.covered id' stream' hstream').mono hgrows⟩, hgrows,
    fun id' stream' hstream' => ⟨stream', hstream', fun _ hc => hc, fun hs => hs⟩,
    fun id' stream' hstream' hhalted => ⟨fun row hrow => ?_, rfl⟩⟩
  · obtain ⟨row, hrow, hat, hsettled⟩ := hS.settled e he
    exact ⟨row, hgrows.settled hrow hsettled, hat, hsettled⟩
  · have hne : id' ≠ id := by
      rintro rfl
      rw [hstream] at hstream'
      cases hstream'
      rw [hsusp] at hhalted
      cases hhalted
    refine mem_map.trans ⟨?_, fun hmem => ⟨row, hmem, if_neg fun hp => ?_⟩⟩
    · rintro ⟨old, hold, rfl⟩
      by_cases hp : old.id = tracked.id
      · rw [if_pos hp, hsame old hold hp] at hrow
        exact absurd (hrow.symm.trans hid) hne
      · rwa [if_neg hp]
    · exact hne (hrow.symm.trans ((congrArg AppendRow.streamId (hsame row hmem hp)).trans hid))

theorem not_open_of_status {row : AppendRow} {outcome : ReceiptOutcome}
    (h : row.status = outcome.status) : ¬row.Open := by
  rintro (hstatus | hstatus) <;> rw [h] at hstatus <;> cases outcome <;> cases hstatus

/-- **A pending row is handed to the ingestion**, and settled at once. -/
theorem sound_ingest {id : String} (hstream : S.streams.get id = some stream)
    (hsusp : stream.suspended = false) (htracked : tracked ∈ S.rows.rows)
    (hid : tracked.streamId = id) (hopen : tracked.Open) (receiptKey : String × String)
    (errorCode batchId : Option String) (outcome : ReceiptOutcome)
    (record : Ingestion.IngestionRecordInput) (batch : String) :
    Sound S { settleRow S tracked receiptKey outcome.status errorCode batchId outcome with
      ingested := S.ingested ++ [⟨tracked.streamId, tracked.rowNumber, record, batch⟩] } := by
  intro hS
  obtain ⟨hinv, hadvance⟩ := sound_settleRow hstream hsusp htracked hid hopen receiptKey
    outcome.status errorCode batchId outcome hS
  refine ⟨⟨fun e he => ?_, ?_, hinv.bounded, hinv.covered⟩, hadvance.rows, hadvance.streams,
    fun id' stream' hstream' hhalted => ?_⟩
  · rcases mem_append.mp he with he | he
    · exact hinv.settled e he
    · obtain rfl := mem_singleton.mp he
      exact ⟨_, mem_settleRow htracked receiptKey outcome.status errorCode batchId outcome,
        ⟨rfl, rfl⟩, not_open_of_status rfl⟩
  · rw [map_append, map_singleton]
    refine nodup_append'.mpr ⟨hS.once, nodup_singleton _, ?_⟩
    rw [disjoint_singleton]
    intro hmem
    obtain ⟨e, he, heq⟩ := mem_map.mp hmem
    obtain ⟨hstreamId, hnumber⟩ := Prod.mk.inj heq
    -- what was handed over before is settled, and this row is not
    obtain ⟨row, hrow, hat, hsettled⟩ := hS.settled e he
    rw [hstreamId, hnumber] at hat
    obtain rfl : row = tracked := S.rows.eq_of_key hrow htracked hat.mem_keys
      (AppendRow.At.mem_keys ⟨rfl, rfl⟩)
    exact hsettled hopen
  · have hhalt := hadvance.halted id' stream' hstream' hhalted
    refine ⟨hhalt.rows, ?_⟩
    have hne : tracked.streamId ≠ id' := by
      rintro rfl
      rw [← hid, hstream'] at hstream
      cases hstream
      rw [hsusp] at hhalted
      cases hhalted
    rw [filter_append, filter_singleton]
    simp [hne]

theorem sound_processTracked {S S' : AppendStore} {id : String}
    (hstream : S.streams.get id = some stream) (hsusp : stream.suspended = false)
    {services : RowServices} (htracked : tracked ∈ S.rows.rows) (hid : tracked.streamId = id)
    (hopen : tracked.Open) {receiptKey : String × String} {columns : List String}
    (h : processTracked S services tracked receiptKey columns = .ok S') : Sound S S' := by
  have hsettle := sound_settleRow hstream hsusp htracked hid hopen receiptKey
  simp only [processTracked] at h
  split at h
  · cases h
    exact hsettle _ _ _ _
  · cases h
  · cases h
  · split at h
    · cases h
      exact hsettle _ _ _ _
    · obtain ⟨issue, -, h⟩ := bind_ok_iff.mp h
      cases issue with
      | some issue =>
        cases h
        exact hsettle _ _ _ _
      | none =>
        obtain ⟨result, -, h⟩ := bind_ok_iff.mp h
        cases h
        exact sound_ingest hstream hsusp htracked hid hopen receiptKey _ _ _ _ _

/-- **`processAppendRow`, whatever it is told was read.** -/
theorem sound_process {S S' : AppendStore} {connector : AppendConnector}
    {configuration : SheetConfiguration} {streamId runId : String} {services : RowServices}
    {observed : AppendRow} {columns : List String}
    (h : processAppendRow rt S connector configuration streamId runId services observed columns =
      .ok S') : Sound S S' := by
  simp only [processAppendRow, ok_iff] at h
  obtain ⟨⟨id, stream, contract⟩, hbinding, -, rfl, h⟩ := h
  obtain ⟨hstream, -, hsusp⟩ := assertAppendBinding_ok hbinding
  split at h
  · cases h
    exact .refl S
  · rename_i tracked hfind
    obtain ⟨htracked, hid⟩ := mem_appendRows (mem_of_find?_eq_some hfind)
    split at h
    · cases h
      exact .refl S
    · rename_i hpend
      simp only [not_or, not_not] at hpend
      exact sound_processTracked hstream hsusp htracked hid (.inl hpend.2.1) h

/-! ### Runs -/

variable (rt)

/-- **One transaction**, whichever it is. -/
theorem sound_next (S : AppendStore) (a : AppendAction) : Sound S ((appendMachine rt).next S a) := by
  simp only [Machine.next, appendMachine, AppendStore.step]
  cases h : S.transact rt a with
  | error e => exact .refl S
  | ok S' =>
    cases a with
    | register connector boundary artifactSha256 now =>
      simp only [AppendStore.transact, ok_iff] at h
      obtain ⟨read, hread, ⟨contract, S₁⟩, hregister, rfl⟩ := h
      exact sound_register hread hregister
    | qualify connector configuration schemaVersion => exact sound_qualify h
    | observe connector configuration values w =>
      simp only [AppendStore.transact, ok_iff] at h
      obtain ⟨⟨b, S₁⟩, hpersist, rfl⟩ := h
      exact sound_persist hpersist
    | process connector configuration streamId runId services observed columns =>
      exact sound_process h
    | suspendLocal campusId workbookId sheetId range reason => exact sound_suspendLocal h
    | verifyLocal campusId workbookId sheetId range check =>
      simp only [AppendStore.transact, ok_iff] at h
      obtain ⟨⟨b, S₁⟩, hverify, rfl⟩ := h
      exact sound_verifyLocal hverify

theorem sound_run (S : AppendStore) (as : List AppendAction) :
    Sound S ((appendMachine rt).run S as) := by
  induction as generalizing S with
  | nil => exact .refl S
  | cons a as ih => exact (sound_next rt S a).trans (ih _)

/-- What a ledger has kept, from one moment to a later one. -/
structure LedgerKept (S S' : AppendStore) : Prop where
  /-- A row that is neither pending nor incomplete stays as it is. -/
  settled : ∀ row ∈ S.rows.rows, ¬row.Open → row ∈ S'.rows.rows
  /-- A position that is taken stays taken, and what is found there fills what was there. -/
  filled : ∀ row ∈ S.rows.rows,
    (∃ row' ∈ S'.rows.rows, row'.At row.streamId row.rowNumber) ∧
    ∀ row' ∈ S'.rows.rows, row'.At row.streamId row.rowNumber → Fills row.payload row'.payload
  /-- A position is handed to the ingestion once. -/
  once : ∀ position, S'.ingested.countP (fun e => e.position = position) ≤ 1
  /-- The rows after the boundary are all there, down to the last one observed. -/
  covered : ∀ id stream, S'.streams.get id = some stream → Covered S' id stream
  /-- A suspended stream stays suspended, and nothing is done about its rows. -/
  halted : ∀ id stream, S.streams.get id = some stream → stream.suspended = true →
    (∃ stream', S'.streams.get id = some stream' ∧ stream'.suspended = true) ∧ Halted id S S'

/-- **The ledger of an append-only sheet is kept**: over any transactions, whatever the sheet
holds, from where nothing is stored. -/
theorem append_ledger_kept (as bs : List AppendAction) :
    LedgerKept ((appendMachine rt).run {} as) ((appendMachine rt).run {} (as ++ bs)) := by
  obtain ⟨hinv, -⟩ := sound_run rt {} as appendInv_start
  obtain ⟨hinv', hadvance⟩ := sound_run rt ((appendMachine rt).run {} as) bs hinv
  rw [Machine.run_append]
  refine ⟨fun row hrow => hadvance.rows.settled hrow, fun row hrow => ⟨hadvance.rows.at hrow,
    fun row' hrow' hat => hadvance.rows.fills hrow hrow' hat⟩, fun position => ?_, hinv'.covered,
    fun id stream hstream hsusp => ⟨?_, hadvance.halted id stream hstream hsusp⟩⟩
  · have hcount := nodup_iff_count_le_one.mp hinv'.once position
    rw [count, countP_map] at hcount
    refine le_of_eq_of_le (countP_congr fun e _ => ?_) hcount
    simp
  · obtain ⟨stream', hstream', hkept⟩ := hadvance.streams id stream hstream
    exact ⟨stream', hstream', hkept.suspended hsusp⟩

end CrmYnov.SheetImport
