import CrmYnov.SheetImport.Admin

/-!
# The creation of a cutover

A manifest binds a connector, its package and its stream, each of which is bound once. The
connector has to be stopped, and the locks under which a claim looks for a binding are taken, of
the connector first and of the stream then (`CrmYnov.SheetImport.create`).
-/

namespace CrmYnov.SheetImport

open Checked Cutover

variable (rt : Runtime)

structure BootstrapPackage where
  (campusId sha256 : String)
  /-- Whether it is sealed, with its snapshot. -/
  sealed : Bool

structure CreateRequest where
  (bootstrapPackageId connectorId key fingerprint : String)
  (t0 excelFrozenAt originalArrivalColumn identityEvidenceSha256 : Option String)
  sourceSheetId : ℕ

/-- What the world gives the creation of a manifest. -/
structure CreateOccasion where
  now : Instant
  (actorId newId : String)
  /-- `cutoverTimeZone` -/
  timeZone : Outcome String
  package : Option BootstrapPackage
  authorize : Outcome Unit
  /-- What is checked of a manifest that is there. -/
  binding : Outcome Unit

def cutoverSha (value : Option String) : Outcome String := do
  let result ← cutoverText value 64
  require (Js.fullMatch Js.isHexDigit 64 64 result) cutoverInvalid
  pure result

/-- What a contract says that the request does. -/
structure CutoverTerms where
  (t0 excelFrozenAt timeZone originalArrivalColumn identityEvidenceSha256 : String)

def readTerms (request : CreateRequest) (w : CreateOccasion) : Outcome CutoverTerms := do
  let t0 ← cutoverInstant rt request.t0
  let excelFrozenAt ← cutoverInstant rt request.excelFrozenAt
  let timeZone ← w.timeZone
  require (excelFrozenAt ≤ t0 ∧ ∀ frozen ∈ rt.parseDate excelFrozenAt, frozen ≤ w.now)
    (cutoverInvalid "cutover_freeze_window_invalid")
  cutoverFinalFreeze rt excelFrozenAt t0
  let originalArrivalColumn ← cutoverText request.originalArrivalColumn 200
  let identityEvidenceSha256 ← cutoverSha request.identityEvidenceSha256
  pure ⟨t0, excelFrozenAt, timeZone, originalArrivalColumn, identityEvidenceSha256⟩

variable (connector : SheetImportConnector)

def externalIdColumn (originalArrivalColumn : String) : Outcome String :=
  match connector.configuration.columns.filter fun item => item.targetField = some "externalId" with
  | [column] => do
    require ((column.action = .DIRECT ∨ column.action = .TRIM) ∧
        column.sourceColumn ≠ originalArrivalColumn)
      (conflict "cutover_external_identity_mapping_invalid")
    pure column.sourceColumn
  | _ => .error (conflict "cutover_external_identity_mapping_invalid")

/-- A manifest that is there answers the request that created it, and no other one. -/
def replayCreate (S : Store) (b : Binding) (package : BootstrapPackage) (request : CreateRequest)
    (w : CreateOccasion) : Outcome (Option StoredCutover × Store) := do
  require (b.manifest.campusId = package.campusId ∧ b.manifest.connectorId = request.connectorId ∧
      b.manifest.bootstrapPackageId = request.bootstrapPackageId)
    (conflict "cutover_binding_conflict")
  w.binding
  require (b.key = request.key) (conflict "cutover_already_bound")
  require (b.fingerprint = request.fingerprint) (conflict "cutover_idempotency_conflict")
  pure (none, S)

def contractOf (package : BootstrapPackage) (request : CreateRequest) (terms : CutoverTerms)
    (externalId : String) : CutoverContract where
  schemaVersion := 2
  streamKey := some (streamKey rt (connector.workbookId, request.sourceSheetId))
  sourceSheetId := some request.sourceSheetId
  bootstrapPackageId := request.bootstrapPackageId
  connectorId := request.connectorId
  excelSha256 := package.sha256
  connectorVersion := connector.version
  configurationSha256 := cutoverHash rt connector.configuration.document
  t0 := terms.t0
  timeZone := terms.timeZone
  excelFrozenAt := terms.excelFrozenAt
  originalArrivalColumn := terms.originalArrivalColumn
  externalIdColumn := externalId
  identityEvidenceSha256 := terms.identityEvidenceSha256

def bind (S : Store) (locked : List String) (package : BootstrapPackage) (request : CreateRequest)
    (terms : CutoverTerms) (w : CreateOccasion) : Outcome (Option StoredCutover × Store) := do
  let connector ← demand (S.connectors.get request.connectorId)
    (.notFound "cutover_connector_not_found")
  require (connector.campusId = package.campusId) (.notFound "cutover_connector_not_found")
  require (connector.enabled = false ∧ connector.activeRunId = none ∧
      connector.manualRequested = false ∧ ∀ limit ∈ connector.leaseUntil, limit ≤ w.now)
    (conflict "cutover_producer_must_be_stopped")
  require (package.sealed = true) (conflict "cutover_excel_snapshot_not_sealed")
  let source ← demand connector.configuration.source
    (conflict "cutover_durable_source_identity_required")
  require (source.identityMode = .EXTERNAL_ID) (conflict "cutover_durable_source_identity_required")
  require (source.mode = .GOOGLE → source.sheetId = some request.sourceSheetId)
    (conflict "cutover_sheet_identity_mismatch")
  let key := streamKey rt (connector.workbookId, request.sourceSheetId)
  require (key ∉ locked) .database
  require (∀ b ∈ S.manifests.rows, b.manifest.contract.streamKey ≠ some key)
    (conflict "cutover_stream_already_bound")
  let externalId ← externalIdColumn connector terms.originalArrivalColumn
  let manifest : StoredCutover := {
    id := w.newId, campusId := package.campusId, actorId := w.actorId
    bootstrapPackageId := request.bootstrapPackageId, connectorId := request.connectorId
    contract := contractOf rt connector package request terms externalId }
  let manifests ← demand (S.manifests.create ⟨manifest, request.key, request.fingerprint⟩) .database
  pure (some manifest, { S with manifests })

def create (S : Store) (locked : List String) (request : CreateRequest) (w : CreateOccasion) :
    Outcome (Option StoredCutover × Store) := do
  let terms ← readTerms rt request w
  let package ← demand w.package (.notFound "cutover_package_not_found")
  w.authorize
  require (request.connectorId ∉ locked) .database
  let existing := S.manifests.findFirst fun b =>
    b.manifest.connectorId = request.connectorId ∨
      b.manifest.bootstrapPackageId = request.bootstrapPackageId
  match existing with
  | some b => replayCreate S b package request w
  | none => bind rt S locked package request terms w

/-- **What a creation does**: nothing, or it binds the stream of a connector that is stopped. -/
theorem create_ok {S S' : Store} {locked : List String} {request : CreateRequest}
    {w : CreateOccasion} {created : Option StoredCutover}
    (h : create rt S locked request w = .ok (created, S')) :
    created = none ∧ S' = S ∨ ∃ manifest connector manifests,
      created = some manifest ∧ S' = { S with manifests } ∧
      S.manifests.create ⟨manifest, request.key, request.fingerprint⟩ = some manifests ∧
      manifest.connectorId = request.connectorId ∧
      S.connectors.get request.connectorId = some connector ∧
      (connector.enabled = false ∧ connector.activeRunId = none ∧
        connector.manualRequested = false ∧ ∀ limit ∈ connector.leaseUntil, limit ≤ w.now) ∧
      manifest.contract.streamKey =
        some (streamKey rt (connector.workbookId, request.sourceSheetId)) ∧
      request.connectorId ∉ locked ∧
      streamKey rt (connector.workbookId, request.sourceSheetId) ∉ locked ∧
      (∃ raw, cutoverInstant rt raw = .ok manifest.contract.t0) ∧ manifest = {
        id := manifest.id, campusId := manifest.campusId, actorId := manifest.actorId
        bootstrapPackageId := manifest.bootstrapPackageId
        connectorId := manifest.connectorId, contract := manifest.contract } := by
  simp only [create, ok_iff] at h
  obtain ⟨terms, hterms, package, -, ⟨⟩, -, ⟨⟩, hlock, h⟩ := h
  split at h
  · simp only [replayCreate, ok_iff] at h
    obtain ⟨⟨⟩, -, ⟨⟩, -, ⟨⟩, -, ⟨⟩, -, rfl, rfl⟩ := h
    exact .inl ⟨rfl, rfl⟩
  · simp only [bind, ok_iff] at h
    obtain ⟨connector, hconnector, ⟨⟩, -, ⟨⟩, hstopped, ⟨⟩, -, source, -, ⟨⟩, -, ⟨⟩, -, ⟨⟩, hstream,
      ⟨⟩, -, externalId, -, manifests, hcreate, rfl, rfl⟩ := h
    simp only [readTerms, ok_iff] at hterms
    obtain ⟨t0, ht0, _, -, _, -, ⟨⟩, -, ⟨⟩, -, _, -, _, -, rfl⟩ := hterms
    exact .inr ⟨_, connector, manifests, rfl, rfl, hcreate, rfl, hconnector, hstopped, rfl, hlock,
      hstream, ⟨_, ht0⟩, rfl⟩

end CrmYnov.SheetImport
