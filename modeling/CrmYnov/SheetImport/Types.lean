import CrmYnov.Cutover.Ledger

/-!
# Sheet connectors and their runs

A connector reads a tab of a workbook under a configuration, whose every version is kept. A run
carries the snapshot of the configuration it was begun under. A worker is told apart from those
it has replaced by the epoch of its lease (`CrmYnov.SheetImport.SheetLease`), which the connector
counts.

A stream is a sheet of a workbook, whatever the connector that reads it and the tab it is found
under; a cutover manifest binds one of them (`CrmYnov.SheetImport.Binding`).
-/

namespace CrmYnov.SheetImport

open Checked

inductive SourceMode
  | SIMULATED | GOOGLE
deriving DecidableEq

inductive IdentityMode
  | EXTERNAL_ID | LOCAL_ROW | LOCAL_ROW_APPEND_ONLY
deriving DecidableEq

/-- `SheetConfiguration["source"]` -/
structure SheetSource where
  mode : SourceMode
  identityMode : IdentityMode
  sheetId : Option ℕ := none
  range : Option String := none

inductive MappingAction
  | DIRECT | TRIM | LOWERCASE | PHONE | DATE | METADATA | IGNORE
deriving DecidableEq

structure MappingColumn where
  sourceColumn : String
  action : MappingAction
  targetField : Option String

/-- `SheetConfiguration`, with the value it is stored as. -/
structure SheetConfiguration where
  source : Option SheetSource
  columns : List MappingColumn
  document : Js.Json

def SheetConfiguration.sheetId (c : SheetConfiguration) : Option ℕ := c.source.bind SheetSource.sheetId

/-- How a configuration tells rows apart. -/
def SheetConfiguration.identityMode (c : SheetConfiguration) : Option IdentityMode :=
  c.source.map SheetSource.identityMode

/-- `configurationSnapshot`: what a run is executed under. -/
structure Snapshot where
  configuration : SheetConfiguration
  (workbookId tab campusId authorizedBy : String)

/-- The stream a snapshot reads, when its configuration names a sheet. -/
def Snapshot.stream (snapshot : Snapshot) : Option (String × ℕ) :=
  snapshot.configuration.sheetId.map fun sheetId => (snapshot.workbookId, sheetId)

/-- A row of `sheet_import_connectors`. -/
structure SheetImportConnector where
  (id campusId workbookId tab : String)
  configuration : SheetConfiguration
  enabled : Bool
  intervalMinutes : ℕ
  manualRequested : Bool := false
  version : ℕ
  epoch : ℕ := 0
  leaseUntil : Option Instant := none
  activeRunId : Option String := none
  nextRunAt : Instant
  updatedBy : String

def SheetImportConnector.snapshot (c : SheetImportConnector) : Snapshot :=
  ⟨c.configuration, c.workbookId, c.tab, c.campusId, c.updatedBy⟩

inductive Trigger
  | MANUAL | SCHEDULED
deriving DecidableEq

inductive RunStatus
  | RUNNING | COMPLETED | FAILED | CANCELLED
deriving DecidableEq

/-- A row of `sheet_import_runs`. -/
structure SheetImportRun where
  (id connectorId : String)
  status : RunStatus
  trigger : Trigger
  configurationSnapshot : Option Snapshot
  configurationVersion : Option ℕ
  sourceFailures : ℕ := 0
  errorCode : Option String := none
  startedAt : Instant
  completedAt : Option Instant := none

/-- A row of `sheet_import_configuration_versions`. -/
structure ConfigurationVersion where
  snapshot : Snapshot
  enabled : Bool
  intervalMinutes : ℕ
  nextRunAt : Instant
  actorId : String

inductive ReceiptOutcome
  | CREATED | DUPLICATE | IGNORED | REVIEW
deriving DecidableEq

/-- A cutover manifest, and the request that created it. -/
structure Binding where
  manifest : Cutover.StoredCutover
  (key fingerprint : String)

/-- The unique indexes of `import_cutover_manifests`. -/
inductive Binding.Key
  | id (value : String)
  | bootstrapPackageId (value : String)
  | connectorId (value : String)
  | streamKey (value : String)
deriving DecidableEq

def Binding.keys (b : Binding) : List Binding.Key :=
  [.id b.manifest.id, .bootstrapPackageId b.manifest.bootstrapPackageId,
    .connectorId b.manifest.connectorId] ++ (b.manifest.contract.streamKey.map .streamKey).toList

/-- What is stored of the connectors. Receipts are under their run and the key of their row. -/
structure Store where
  connectors : Dict String SheetImportConnector := .empty
  runs : Dict String SheetImportRun := .empty
  versions : Dict (String × ℕ) ConfigurationVersion := .empty
  receipts : Dict (String × String) ReceiptOutcome := .empty
  manifests : Table Binding Binding.keys := .empty

structure SheetLease where
  (connectorId runId : String)
  (epoch version : ℕ)

/-- `SheetClaim`: the lease a worker was given, and the run it executes. -/
structure SheetClaim where
  lease : SheetLease
  run : SheetImportRun

namespace Store

variable (S : Store)

/-- `sheetImportConnector.update({ where: { id } })` -/
def updateConnector (id : String) (f : SheetImportConnector → SheetImportConnector) :
    Outcome Store := do
  let connector ← demand (S.connectors.get id) .database
  pure { S with connectors := S.connectors.set id (f connector) }

/-- `sheetImportRun.update({ where: { id } })` -/
def updateRun (id : String) (f : SheetImportRun → SheetImportRun) : Outcome Store := do
  let run ← demand (S.runs.get id) .database
  pure { S with runs := S.runs.set id (f run) }

/-- Whether a manifest is bound to a connector, or to its stream. -/
def Bound (connectorId : String) (streamKey : Option String) : Prop :=
  ∃ b ∈ S.manifests.rows, b.manifest.connectorId = connectorId ∨
    ∃ key ∈ streamKey, b.manifest.contract.streamKey = some key
deriving Decidable

end Store

end CrmYnov.SheetImport
