import CrmYnov.SheetImport.Append.Contract

/-!
# The ledger of the append-only sheets

A stream is a sheet, whatever the connector that reads it. Its boundary is registered once, and
every observation of it is written whole before anything is done about its rows
(`CrmYnov.SheetImport.persistAppendObservation`): the rows that are new are queued, those that
are incomplete may be completed, and a row that is otherwise not what it was suspends the stream.
A queued row is then processed from what the ledger holds, not from the latest response
(`CrmYnov.SheetImport.processAppendRow`).

A transaction is given by what it makes of the ledger; the lease of its worker and the authority
it acts under are checked around it, and what they refuse leaves the ledger as it is.
-/

namespace CrmYnov.SheetImport

open Checked Ingestion

/-- A row of `sheet_local_streams`. A stream without a contract is read row by row. -/
structure AppendStream where
  campusId : String
  suspended : Bool := false
  errorCode : Option String := none
  contract : Option SheetAppendContract := none
  /-- The schema version of the qualification of the stream. -/
  qualification : Option ℕ := none
  lastObservedRow : ℕ
  lastDurableRow : Option ℕ := none

inductive AppendStatus
  | PENDING | INCOMPLETE | REVIEW | CREATED | DUPLICATE | IGNORED
deriving DecidableEq

/-- A row of `sheet_local_rows`, of an append-only stream. -/
structure AppendRow where
  (id streamId : String)
  rowNumber : ℕ
  fingerprint : String
  status : AppendStatus
  errorCode : Option String := none
  batchId : Option String := none
  payload : List String
  occurrenceKey : String
  (firstObservedAt lastObservedAt : Instant)

/-- The unique indexes of `sheet_local_rows`. -/
inductive AppendRow.Key
  | id (value : String)
  | position (streamId : String) (rowNumber : ℕ)
  | occurrenceKey (value : String)
deriving DecidableEq

def AppendRow.keys (row : AppendRow) : List AppendRow.Key :=
  [.id row.id, .position row.streamId row.rowNumber, .occurrenceKey row.occurrenceKey]

/-- A row of `sheet_append_observations`: a version of a row that was observed. -/
structure AppendVersion where
  (id streamId occurrenceKey : String)
  rowNumber : ℕ
  fingerprint : String
  payload : List String
  observedAt : Instant
  runId : String

/-- The unique indexes of `sheet_append_observations`. -/
inductive AppendVersion.Key
  | id (value : String)
  | identity (streamId occurrenceKey fingerprint : String)
deriving DecidableEq

def AppendVersion.keys (version : AppendVersion) : List AppendVersion.Key :=
  [.id version.id, .identity version.streamId version.occurrenceKey version.fingerprint]

/-- A record that was handed to the ingestion, and the row it was read from. -/
structure SheetIngestion where
  streamId : String
  rowNumber : ℕ
  record : IngestionRecordInput
  batchId : String

/-- What is stored of the append-only sheets. Receipts are under their run and the key of their
row; `ingested` is what the ingestion was given, and has kept. -/
structure AppendStore where
  streams : Dict String AppendStream := .empty
  rows : Table AppendRow AppendRow.keys := .empty
  versions : Table AppendVersion AppendVersion.keys := .empty
  receipts : Dict (String × String) ReceiptOutcome := .empty
  ingested : List SheetIngestion := []

structure AppendConnector where
  (workbookId tab campusId : String)

variable (rt : Runtime)

/-! ### Streams -/

variable (S : AppendStore)

variable (connector : AppendConnector)

def assertAppendBinding (configuration : SheetConfiguration) :
    Outcome (String × AppendStream × SheetAppendContract) := do
  require (configuration.identityMode = some .LOCAL_ROW_APPEND_ONLY) (appendInvalid "mode_required")
  let sheetId ← demand configuration.sheetId (appendInvalid "mode_required")
  let id := sheetStreamId rt connector.workbookId sheetId
  let stream ← demand (S.streams.get id) (appendInvalid "boundary_required")
  let contract ← demand stream.contract (appendInvalid "boundary_required")
  require (stream.campusId = connector.campusId ∧ contract.bindingSha256 =
      appendBinding rt connector.workbookId connector.tab connector.campusId configuration)
    (appendInvalid "boundary_required")
  require (stream.suspended = false) (appendInvalid "suspended")
  pure (id, stream, contract)

def registerAppendBoundary (connector : SheetImportConnector) (boundary : SheetAppendBoundary)
    (artifactSha256 : String) : Outcome (SheetAppendContract × AppendStore) := do
  let configuration := connector.configuration
  require (configuration.identityMode = some .LOCAL_ROW_APPEND_ONLY ∧
      configuration.sheetId = some boundary.sheetId ∧
      configuration.source.bind SheetSource.range = some boundary.range ∧
      connector.workbookId = boundary.workbookId ∧ connector.tab = boundary.tab ∧
      connector.enabled = false ∧ connector.activeRunId = none ∧ connector.manualRequested = false)
    (appendInvalid "binding_invalid")
  let id := sheetStreamId rt boundary.workbookId boundary.sheetId
  let observation ← appendPositions rt boundary.range boundary.values
  let binding := appendBinding rt connector.workbookId connector.tab connector.campusId configuration
  require (appendHash rt (.arr (configuration.columns.map fun column => .str column.sourceColumn)) =
      appendHash rt (.arr (observation.header.map .str)))
    (appendInvalid "mapping_headers_mismatch")
  match S.streams.get id with
  | some previous => do
    let contract ← demand previous.contract (appendInvalid "rebaseline_refused")
    require (previous.campusId = connector.campusId ∧ contract.artifactSha256 = artifactSha256 ∧
        contract.generation = boundary.generation ∧ contract.bindingSha256 = binding)
      (appendInvalid "rebaseline_refused")
    pure (contract, S)
  | none =>
    let contract : SheetAppendContract :=
      ⟨boundary.workbookId, boundary.sheetId, boundary.tab, boundary.generation, boundary.range,
        boundary.capturedAt, boundary.boundaryRow, artifactSha256,
        appendHash rt (.arr (observation.header.map .str)),
        observation.positions.map fun position => (position.row, position.fingerprint), binding⟩
    let stream : AppendStream :=
      { campusId := connector.campusId
        contract := some contract
        lastObservedRow := boundary.boundaryRow
        lastDurableRow := some boundary.boundaryRow }
    pure (contract, { S with streams := S.streams.set id stream })

def suspendAppend (id : String) (stream : AppendStream) (reason : String) : AppendStore :=
  if stream.suspended then S
  else { S with
    streams := S.streams.set id { stream with suspended := true, errorCode := some reason } }

/-- The stream of a sheet that is read row by row: it is created by what first reads it. -/
def localStream (id campusId : String) (lastObservedRow : ℕ) :
    Outcome (AppendStream × AppendStore) := do
  let stream := (S.streams.get id).getD { campusId, lastObservedRow }
  require (stream.campusId = campusId) (.error "sheet_source_scope_refused")
  pure (stream, { S with streams := S.streams.set id stream })

def suspendLocalStream (campusId workbookId : String) (sheetId : ℕ) (range reason : String) :
    Outcome AppendStore := do
  let id := sheetStreamId rt workbookId sheetId
  let bounds ← parseSheetLocalRange range
  let (stream, S) ← localStream S id campusId bounds.headerRow
  pure (suspendAppend S id stream reason)

/-- `verifyLocalLedger`, as to its stream: `check` is what its rows are found to be. -/
def verifyLocalLedger (campusId workbookId : String) (sheetId : ℕ) (range : String)
    (check : Option String) : Outcome (Bool × AppendStore) := do
  let id := sheetStreamId rt workbookId sheetId
  let bounds ← parseSheetLocalRange range
  let (stream, S) ← localStream S id campusId bounds.headerRow
  require (stream.contract = none) (.error "sheet_append_legacy_execution_refused")
  if stream.suspended then pure (false, S)
  else match check with
    | none => pure (true, S)
    | some reason => pure (false, suspendAppend S id stream reason)

def qualifyAppend (configuration : SheetConfiguration) (schemaVersion : ℕ) :
    Outcome AppendStore := do
  let (id, stream, _) ← assertAppendBinding rt S connector configuration
  pure { S with streams := S.streams.set id { stream with qualification := some schemaVersion } }

/-! ### Observations -/

def appendRows (streamId : String) : List AppendRow :=
  ((S.rows.findMany fun row => row.streamId = streamId).insertionSort
    fun a b => a.rowNumber ≤ b.rowNumber).take 10000

def appendRowMayComplete (row : AppendRow) (cells : List String) : Bool :=
  row.status ∈ [.PENDING, .INCOMPLETE] && appendCompletion row.payload cells

def byRow (positions : List SheetAppendPosition) : Dict ℕ SheetAppendPosition :=
  .ofList (positions.map fun position => (position.row, position))

/-- A row is no more what it was, and may not become what it is. -/
def Altered (present : Dict ℕ SheetAppendPosition) (row : AppendRow) : Prop :=
  ∀ current ∈ present.get row.rowNumber,
    current.fingerprint ≠ row.fingerprint ∧ appendRowMayComplete row current.cells = false
deriving Decidable

def appendObservationConflict (stream : AppendStream) (contract : SheetAppendContract)
    (observation : Observation) (rows : List AppendRow) (approved : List (ℕ × String)) :
    Option String :=
  let present := byRow observation.positions
  let accepted := Dict.ofList approved
  if appendHash rt (.arr (observation.header.map .str)) ≠ contract.headerFingerprint ∨
      observation.lastOccupiedRow < stream.lastObservedRow then
    some "append_source_structure_changed"
  else if ∃ position ∈ contract.historicalFingerprints,
      (present.get position.1).map SheetAppendPosition.fingerprint ≠
        some ((accepted.get position.1).getD position.2) then
    some "append_historical_row_changed"
  else if ∃ row ∈ rows, Altered present row then some "append_observed_row_changed"
  else none

/-- What the world gives to an observation that is written. -/
structure ObservationOccasion where
  runId : String
  observedAt : Instant
  (rowId versionId : ℕ → String)
  /-- What `assertHistoricalQualification` finds approved. -/
  approved : Outcome (List (ℕ × String))
  /-- `octet_length(payload::text)` -/
  octets : List String → ℕ

/-- The amendments of the history that the qualification of a stream approves. -/
def approvedPositions (stream : AppendStream) (w : ObservationOccasion) :
    Outcome (List (ℕ × String)) :=
  if stream.qualification = some 3 then w.approved else pure []

structure AppendRecord where
  position : SheetAppendPosition
  key : String

/-- The positions after the boundary, under the keys of their occurrences. -/
def appendRecords (contract : SheetAppendContract) (positions : List SheetAppendPosition) :
    Outcome (List AppendRecord) :=
  (positions.filter fun position => contract.boundaryRow < position.row).mapM fun position => do
    let key ← appendOccurrenceKey rt contract position.row
    pure ⟨position, key⟩

/-- Whether the versions of a stream would outgrow their bound. -/
def CapacityReached (w : ObservationOccasion) (id : String) (records : List AppendRecord) : Prop :=
  let versions := S.versions.findMany fun version => version.streamId = id
  let additions := records.filter fun record => ¬∃ old ∈ versions,
    old.occurrenceKey = record.key ∧ old.fingerprint = record.position.fingerprint
  50000 < versions.length + additions.length ∨
    64 * 1024 * 1024 < (versions.map fun version => w.octets version.payload).sum +
      (additions.map fun record => w.octets record.position.cells).sum
deriving Decidable

def AppendRecord.row (record : AppendRecord) (w : ObservationOccasion) (id : String)
    (conflict : Option String) : AppendRow where
  id := w.rowId record.position.row
  streamId := id
  rowNumber := record.position.row
  fingerprint := record.position.fingerprint
  status := if conflict.isSome then .REVIEW
    else if record.position.empty then .INCOMPLETE else .PENDING
  payload := record.position.cells
  occurrenceKey := record.key
  firstObservedAt := w.observedAt
  lastObservedAt := w.observedAt

def AppendRecord.version (record : AppendRecord) (w : ObservationOccasion) (id : String) :
    AppendVersion where
  id := w.versionId record.position.row
  streamId := id
  occurrenceKey := record.key
  rowNumber := record.position.row
  fingerprint := record.position.fingerprint
  payload := record.position.cells
  observedAt := w.observedAt
  runId := w.runId

def AppendRow.completed (row : AppendRow) (record : AppendRecord) (observedAt : Instant) :
    AppendRow :=
  { row with
    fingerprint := record.position.fingerprint
    payload := record.position.cells
    status := .PENDING
    errorCode := none
    lastObservedAt := observedAt }

/-- `UPDATE sheet_local_rows … FROM …`: the rows of a stream become what their records say. -/
def completeRows (rows : Table AppendRow AppendRow.keys) (id : String)
    (updates : List AppendRecord) (observedAt : Instant) : Table AppendRow AppendRow.keys :=
  rows.updateMany (fun row => row.streamId = id ∧
      ∃ record ∈ updates, record.position.row = row.rowNumber)
    (fun row => ((updates.find? fun record => record.position.row = row.rowNumber).map
      fun record => row.completed record observedAt).getD row)
    (fun row => by
      cases h : updates.find? fun record => record.position.row = row.rowNumber with
      | none => rfl
      | some record => rfl)

/-- `ON CONFLICT(stream_id,occurrence_key,fingerprint) DO NOTHING` -/
def keepVersion (versions : Table AppendVersion AppendVersion.keys) (version : AppendVersion) :
    Outcome (Table AppendVersion AppendVersion.keys) :=
  if (versions.findUnique (.identity version.streamId version.occurrenceKey
      version.fingerprint)).isSome then pure versions
  else insert versions version

/-- An observation is written: `conflict` is why it may not be followed. -/
def writeObservation (w : ObservationOccasion) (id : String) (stream : AppendStream)
    (observation : Observation) (records : List AppendRecord) (conflict : Option String) :
    Outcome AppendStore := do
  let earlier := Dict.ofList ((appendRows S id).map fun row => (row.rowNumber, row))
  let newRows := records.filter fun record => (earlier.get record.position.row).isNone
  let rows ← (newRows.map fun record => record.row w id conflict).foldlM insert S.rows
  let updates := if conflict.isSome then [] else records.filter fun record =>
    (earlier.get record.position.row).any fun old =>
      old.fingerprint != record.position.fingerprint
  let versions ← (records.map fun record => record.version w id).foldlM keepVersion S.versions
  let last := observation.lastOccupiedRow
  let stream := { stream with
    lastObservedRow := max stream.lastObservedRow last
    lastDurableRow := some ((stream.lastDurableRow.map fun row => max row last).getD last) }
  let S := { S with
    streams := S.streams.set id stream
    rows := completeRows rows id updates w.observedAt
    versions }
  -- a snapshot in conflict still leaves its new rows and its versions
  match conflict with
  | some reason => pure (suspendAppend S id stream reason)
  | none => pure S

/-- `persistAppendObservation`: the whole observation is written before anything comes of it. -/
def persistAppendObservation (configuration : SheetConfiguration) (values : Js.Json)
    (w : ObservationOccasion) : Outcome (Bool × AppendStore) := do
  let (id, stream, contract) ← assertAppendBinding rt S connector configuration
  match appendPositions rt contract.range values with
  | .error _ => pure (false, suspendAppend S id stream "append_observation_invalid")
  | .ok observation => do
    let approved ← approvedPositions stream w
    let conflict :=
      appendObservationConflict rt stream contract observation (appendRows S id) approved
    let records ← appendRecords rt contract observation.positions
    if CapacityReached S w id records then
      pure (false, suspendAppend S id stream "append_journal_capacity_reached")
    else do
      let S ← writeObservation S w id stream observation records conflict
      pure (conflict.isNone, S)

/-! ### Rows -/

def receiptOutcome : LineOutcome → ReceiptOutcome
  | .CREATED => .CREATED
  | .ATTACHED => .DUPLICATE
  | .IGNORED => .IGNORED
  | .MANUAL_REVIEW | .INVALID => .REVIEW

def ReceiptOutcome.status : ReceiptOutcome → AppendStatus
  | .CREATED => .CREATED
  | .DUPLICATE => .DUPLICATE
  | .IGNORED => .IGNORED
  | .REVIEW => .REVIEW

/-- What `persistSheetRecord` gives back. -/
structure SheetResult where
  outcome : LineOutcome
  batchId : String

structure RowServices where
  /-- `recordsFromSnapshot`: the record of a row; an error is that of its cells. -/
  recordsFromSnapshot : List (String × String) → Outcome (Option IngestionRecordInput)
  /-- `evaluateLocalMappedRow` -/
  evaluateLocalMappedRow : IngestionRecordInput → List (String × String) → Option String
  /-- `deferredHistoricalCollision` -/
  deferredHistoricalCollision : IngestionRecordInput → Outcome (Option String)
  /-- `persistSheetRecord` -/
  persistSheetRecord : IngestionRecordInput → Outcome SheetResult

/-- The issues that a completion of the row may settle. -/
def incompleteIssues : List String :=
  ["sheet_required_column_missing", "identity_name_missing", "CONTACT_IDENTITY_MISSING",
    "sheet_required_reference_missing"]

/-- A row that was processed: its status, and the receipt of the run. -/
def settleRow (row : AppendRow) (receiptKey : String × String) (status : AppendStatus)
    (errorCode batchId : Option String) (outcome : ReceiptOutcome) : AppendStore :=
  { S with
    rows := S.rows.updateMany (fun r => r.id = row.id) fun r =>
      { r with status, errorCode, batchId := batchId.or r.batchId }
    receipts := S.receipts.set receiptKey outcome }

def processTracked (services : RowServices) (tracked : AppendRow) (receiptKey : String × String)
    (columns : List String) : Outcome AppendStore :=
  let row := columns.zipIdx.map fun (column, index) => (column, tracked.payload.getD index "")
  match services.recordsFromSnapshot row with
  | .error (.http _ "dry_run_cell_refused" _) => pure
      (settleRow S tracked receiptKey .REVIEW (some "dry_run_cell_refused") none .REVIEW)
  | .error e => .error e
  | .ok none => .error (.error "sheet_append_record_missing")
  | .ok (some mapped) =>
    match services.evaluateLocalMappedRow mapped row with
    | some issue => pure (settleRow S tracked receiptKey
        (if issue ∈ incompleteIssues then .INCOMPLETE else .REVIEW) (some issue) none .REVIEW)
    | none => do
      match ← services.deferredHistoricalCollision mapped with
      | some issue => pure (settleRow S tracked receiptKey .REVIEW (some issue) none .REVIEW)
      | none => do
        let record := { mapped with
          occurredAt := none
          externalId := some tracked.occurrenceKey
          lineNumber := tracked.rowNumber
          technicalSystem := "GOOGLE_SHEETS_LOCAL" }
        let result ← services.persistSheetRecord record
        let outcome := receiptOutcome result.outcome
        let S := settleRow S tracked receiptKey outcome.status
          (if outcome = .REVIEW then some "sheet_append_business_review" else none)
          (some result.batchId) outcome
        pure { S with
          ingested := S.ingested ++ [⟨tracked.streamId, tracked.rowNumber, record, result.batchId⟩] }

/-- `processAppendRow`: what was read of a row before is compared with what there is. -/
def processAppendRow (configuration : SheetConfiguration) (streamId runId : String)
    (services : RowServices) (observed : AppendRow) (columns : List String) :
    Outcome AppendStore := do
  let (id, _, _) ← assertAppendBinding rt S connector configuration
  require (id = streamId) (.error "sheet_append_binding_changed")
  match (appendRows S streamId).find? fun row => row.occurrenceKey = observed.occurrenceKey with
  | none => pure S
  | some tracked =>
    let rowKey := appendHash rt (.arr [.str tracked.occurrenceKey, .str tracked.fingerprint])
    if tracked.fingerprint ≠ observed.fingerprint ∨ tracked.status ≠ .PENDING ∨
        (S.receipts.get (runId, rowKey)).isSome then pure S
    else processTracked S services tracked (runId, rowKey) columns

end CrmYnov.SheetImport
