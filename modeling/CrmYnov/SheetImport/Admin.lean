import CrmYnov.SheetImport.Coordinator

/-!
# The administration of the connectors

Saving a connector gives it a new version, under which its configuration is kept; what is saved
disabled is also stopped (`CrmYnov.SheetImport.save`). A run is asked for by hand where none is
active (`CrmYnov.SheetImport.requestRun`). Both are refused on a stream that is bound by a
cutover, and what is decided without the store, as the authority of the actor or the parts of the
request, is given with the request.
-/

namespace CrmYnov.SheetImport

open Checked

variable (rt : Runtime)

/-- What the world gives a request. -/
structure Occasion where
  now : Instant
  actorId : String
  /-- `authorize`, of the campus. -/
  authorize : Outcome Unit
  /-- What is asked of the source, of the ledgers of its rows and of the authority of the worker. -/
  qualified : Outcome Unit
  newId : String

structure SaveInput where
  expectedVersion : ℕ
  enabled : Bool
  intervalMinutes : Option ℕ
  (workbook tab campusId : String)
  configuration : SheetConfiguration

def conflict (code : String) : Failure := .conflict code

def SaveInput.row (input : SaveInput) (previous : SheetImportConnector) (w : Occasion) :
    SheetImportConnector :=
  { previous with
    campusId := input.campusId, workbookId := input.workbook, tab := input.tab
    enabled := input.enabled, intervalMinutes := input.intervalMinutes.getD 15
    version := input.expectedVersion + 1, updatedBy := w.actorId
    configuration := input.configuration, nextRunAt := w.now }

def SheetImportConnector.stopped (c : SheetImportConnector) : SheetImportConnector :=
  { c with activeRunId := none, leaseUntil := none, manualRequested := false }

def SheetImportConnector.recorded (c : SheetImportConnector) : ConfigurationVersion where
  snapshot := c.snapshot
  enabled := c.enabled
  intervalMinutes := c.intervalMinutes
  nextRunAt := c.nextRunAt
  actorId := c.updatedBy

def SaveInput.created (input : SaveInput) (w : Occasion) : SheetImportConnector where
  id := w.newId
  campusId := input.campusId
  workbookId := input.workbook
  tab := input.tab
  configuration := input.configuration
  enabled := input.enabled
  intervalMinutes := input.intervalMinutes.getD 15
  version := input.expectedVersion + 1
  nextRunAt := w.now
  updatedBy := w.actorId

variable (S : Store)

/-- What a connector is saved as is written, with its version. A workbook has one connector for
a tab. -/
def write (c : SheetImportConnector) : Outcome Store := do
  require (∀ other ∈ S.connectors.values, other.id ≠ c.id →
      ¬(other.workbookId = c.workbookId ∧ other.tab = c.tab)) .database
  require ((S.versions.get (c.id, c.version)).isNone) .database
  pure { S with
    connectors := S.connectors.set c.id (if c.enabled then c else c.stopped)
    versions := S.versions.set (c.id, c.version) c.recorded }

/-- What is bound by a cutover is prepared by it, and executed by nothing else. -/
def assertUnbound (locked : List String) (connectorId : String) (source : Option (String × ℕ)) :
    Outcome Unit := do
  let bound ← cutoverConnectorBound rt S locked connectorId source
  require (bound = false) (conflict "sheet_cutover_preparation_only")

/-- A connector is not enabled while it is bound, nor while a worker has its lease. -/
def assertStopped (locked : List String) (row : SheetImportConnector) (w : Occasion) :
    Outcome Unit := do
  assertUnbound rt S locked row.id none
  require (∀ limit ∈ row.leaseUntil, limit ≤ w.now) (conflict "sheet_execution_active")

/-- The active run of a connector that is disabled is given up. -/
def stopRun (row : SheetImportConnector) (w : Occasion) : Outcome Store :=
  match row.activeRunId with
  | none => pure S
  | some runId => S.updateRun runId fun run => run.cancelled "sheet_connector_disabled" w.now

/-- `authorizeActivation`: one connector is enabled at a time. -/
def authorizeActivation (connectorId : String) : Outcome Unit :=
  require (∀ other ∈ S.connectors.values, other.enabled = true → other.id = connectorId)
    (conflict "sheet_automatic_channel_active")

/-- The stream a connector is to read is not bound. -/
def assertUnboundSource (locked : List String) (connectorId : String) (input : SaveInput) :
    Outcome Unit :=
  match input.configuration.sheetId with
  | none => pure ()
  | some sheetId => assertUnbound rt S locked connectorId (some (input.workbook, sheetId))

/-- What is checked of a connector before it is enabled. -/
def assertActivation (locked : List String) (connectorId : String) (input : SaveInput)
    (w : Occasion) : Outcome Unit :=
  if input.enabled then do
    assertUnboundSource rt S locked connectorId input
    w.qualified
    authorizeActivation S connectorId
  else w.qualified

/-- `save`, of a new connector. -/
def saveNew (locked : List String) (input : SaveInput) (w : Occasion) : Outcome Store := do
  require (input.expectedVersion = 0) (conflict "sheet_version_conflict")
  assertActivation rt S locked w.newId input w
  require ((S.connectors.get w.newId).isNone) .database
  write S (input.created w)

/-- `save`, of the connector there is. -/
def saveRow (locked : List String) (row : SheetImportConnector) (input : SaveInput) (w : Occasion) :
    Outcome Store := do
  require (row.version = input.expectedVersion ∧ row.campusId = input.campusId)
    (conflict "sheet_version_conflict")
  if input.enabled then do
    assertStopped rt S locked row w
    assertActivation rt S locked row.id input w
    write S (input.row row w)
  else do
    assertActivation rt S locked row.id input w
    let S ← stopRun S row w
    write S (input.row row w)

def save (locked : List String) (id : Option String) (input : SaveInput) (w : Occasion) :
    Outcome Store := do
  require (∀ n ∈ input.intervalMinutes, 5 ≤ n ∧ n ≤ 15) (.badRequest "sheet_interval_invalid")
  w.authorize
  match id with
  | none => saveNew rt S locked input w
  | some id => do
    let row ← demand (S.connectors.get id) (.notFound "sheet_connector_not_found")
    saveRow rt S locked row input w

def requestRun (locked : List String) (id : String) (expectedVersion : ℕ) (w : Occasion) :
    Outcome Store := do
  let row ← demand (S.connectors.get id) (.notFound "sheet_connector_not_found")
  assertUnbound rt S locked row.id none
  assertUnbound rt S locked row.id row.snapshot.stream
  require ((row.enabled = true ∨ row.configuration.identityMode = some .LOCAL_ROW ∨
      row.configuration.identityMode = some .LOCAL_ROW_APPEND_ONLY) ∧ row.version = expectedVersion)
    (conflict "sheet_disabled_or_version_conflict")
  w.qualified
  w.authorize
  require (row.activeRunId = none ∧ row.manualRequested = false) (conflict "sheet_execution_active")
  S.updateConnector id fun c => { c with nextRunAt := w.now, manualRequested := true }

end CrmYnov.SheetImport
