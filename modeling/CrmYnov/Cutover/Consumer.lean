import CrmYnov.Cutover.Exceptions

/-!
# The catch-up of a cutover

Each entry of the backlog that is decided and neither done nor in quarantine receives one
effect: it is ingested as a new record, or linked to the baseline. The manual and the
scheduled consumer share this function (`CrmYnov.Cutover.consumeCutover`); what differs is the
authority they act under, which is part of what the world gives to a transaction
(`CrmYnov.Cutover.Occasion`), as are the tables of other services and what the ingestion
makes of a record.
-/

namespace CrmYnov.Cutover

open Checked

/-- What a transaction reads of the connector of a manifest. -/
structure BoundConnector where
  (campusId workbookId : String)
  version : ℕ
  configurationSha256 : String
  enabled : Bool
  activeRunId : Option String
  manualRequested : Bool
  leaseUntil : Option Instant
  google : Bool
  sourceColumns : List String

/-- What a transaction reads of the package of a manifest. -/
structure BoundPackage where
  (campusId sha256 : String)

structure BaselineRow where
  packageId : String
  accepted : Bool
  leadId : Option String

/-- What the ingestion makes of a record: it stores a batch and its report. -/
structure Persisted where
  record : IngestedRecord
  created : Bool
  (leadId reason : Option String)
  acquisitionNew : Bool

/-- What the world gives to a transaction. -/
structure Occasion where
  now : Instant
  /-- `Date.now()`, when a lease is written -/
  renewedAt : Instant
  /-- `clock_timestamp()` -/
  clock : Instant
  /-- `manifest`, `currentPrincipal`, `manualAuthority`, `assertCutoverRuntimeAuthority`, `flags` -/
  authorize : Outcome Unit
  actorId : String
  delegation : CutoverDelegation
  /-- `assertCutoverFixtureDatabase` -/
  fixtureDatabase : Outcome Unit
  /-- `cutoverFixtureArtifact` -/
  artifact : Option String
  connector : Option BoundConnector
  pack : Option BoundPackage
  /-- `report()` -/
  report : Outcome Js.Json
  /-- `authorizeLead` -/
  authorizeLead : String → Outcome Unit
  baselineRow : String → Option BaselineRow
  /-- The campus of a lead, when there is such a lead. -/
  leadCampus : String → Outcome (Option String)
  /-- `recordsFromSnapshot`: the campus of the record of an entry, when there is one. -/
  mappedCampus : CutoverEntry → Outcome (Option String)
  /-- `persist` -/
  persist : CutoverEntry → Outcome Persisted
  /-- `cutoverDownstreamHash` -/
  (downstreamHash effectId : String → String)
  caseId : ℕ → String
  (id owner : String)

def cutoverBinding (row : StoredCutover) (w : Occasion) : Outcome BoundConnector := do
  let changed := conflict "cutover_binding_changed"
  let connector ← demand w.connector changed
  let pack ← demand w.pack changed
  require (connector.campusId = row.campusId ∧ pack.campusId = row.campusId ∧
      pack.sha256 = row.contract.excelSha256 ∧
      connector.version = row.contract.connectorVersion ∧
      connector.configurationSha256 = row.contract.configurationSha256) changed
  require (connector.enabled = false ∧ connector.activeRunId = none ∧
      connector.manualRequested = false ∧ ∀ until' ∈ connector.leaseUntil, until' ≤ w.now)
    (conflict "cutover_producer_must_be_stopped")
  pure connector

def cutoverBaselineTarget (row : StoredCutover) (w : Occasion) (targetId : Option String) :
    Outcome String := do
  let invalid := conflict "cutover_baseline_target_invalid"
  let target ← demand (targetId.bind w.baselineRow) invalid
  require (target.packageId = row.bootstrapPackageId ∧ target.accepted) invalid
  let leadId ← demand target.leadId invalid
  let found ← w.leadCampus leadId
  let campus ← demand found invalid
  require (campus = row.campusId) (conflict "cutover_baseline_campus_mismatch")
  pure leadId

variable (L : Ledger)

variable (w : Occasion)

def exceptionTargets (item : CutoverExceptionCase) : Outcome (List String) := do
  let source ← demand (L.manifest.inventory.find? fun entry => entry.key = item.sourceKey)
    (conflict "cutover_exception_evidence_changed")
  let effects := L.effects.rows.filter fun effect => effect.sourceKey = item.sourceKey
  match source.targetBootstrapRowId with
  | none => pure (effects.filterMap CutoverEffect.leadId)
  | some target => do
    let leadId ← cutoverBaselineTarget L.manifest w (some target)
    pure (leadId :: effects.filterMap CutoverEffect.leadId)

def authorizeCutoverExceptionTargets (items : List CutoverExceptionCase) : Outcome Unit := do
  let leadIds ← items.mapM (exceptionTargets L w)
  (unique leadIds.flatten).forM w.authorizeLead

def saveCutoverEffect (effect : CutoverEffect) : Outcome Ledger := do
  let effects ← insert L.effects effect
  pure { L with effects }

variable (entry : CutoverEntry)

/-- An entry that is linked to the baseline: nothing but the effect is written. -/
def linkEntry : Outcome Ledger := do
  let leadId ← cutoverBaselineTarget L.manifest w entry.targetBootstrapRowId
  w.authorizeLead leadId
  saveCutoverEffect L {
    id := w.effectId entry.key, sourceKey := entry.key, outcome := .LINKED_BASELINE
    batchId := none, leadId := some leadId, reason := none, downstreamSha256 := none }

/-- An entry that is ingested: what is not created waits for a review. -/
def keepEntry : Outcome Ledger := do
  let mapped ← w.mappedCampus entry
  let campus ← demand mapped (conflict "cutover_mapping_record_missing")
  require (campus = L.manifest.campusId) (conflict "cutover_record_campus_mismatch")
  let result ← w.persist entry
  let ingested ← insert L.ingested result.record
  result.leadId.toList.forM w.authorizeLead
  require (result.created → result.leadId.isSome ∧ result.acquisitionNew)
    (conflict "cutover_new_effect_required")
  saveCutoverEffect { L with ingested } {
    id := w.effectId entry.key, sourceKey := entry.key
    outcome := if result.created then .CREATED else .REVIEW
    batchId := some result.record.batchId, leadId := result.leadId, reason := result.reason
    downstreamSha256 := if result.created then result.leadId.map w.downstreamHash else none }

/-- One turn of the loop of `consumeCutover`. -/
def consumeEntry : Outcome Ledger :=
  match entry.decision with
  | some .LINK_BASELINE => linkEntry L w entry
  | some .KEEP_FOR_CATCHUP => keepEntry L w entry
  | none => .error (conflict "cutover_overlap_decision_invalid")

def pendingEntries (quarantinedKeys : List String) (limit : ℕ) : List CutoverEntry :=
  (L.manifest.inventory.filter fun entry => entry.classification = .BACKLOG ∧
    entry.key ∉ L.effects.rows.map CutoverEffect.sourceKey ∧
    entry.key ∉ quarantinedKeys).take limit

/-- An entry of the backlog that is neither decided nor in quarantine. -/
def Undecided (quarantinedKeys : List String) : Prop :=
  ∃ entry ∈ L.manifest.inventory, entry.classification = .BACKLOG ∧ entry.decision = none ∧
    entry.key ∉ quarantinedKeys
deriving Decidable

variable (rt : Runtime)

/-- The report is the one the manifest was reconciled with. -/
def assertReport (row : StoredCutover) (w : Occasion) : Outcome Unit := do
  let report ← w.report
  require (isBlocked report = false ∧ some (cutoverHash rt report) = row.reportSha256)
    (conflict "cutover_reconciliation_required")
where
  /-- `report.cutoverBlocked !== false` -/
  isBlocked (report : Js.Json) : Bool :=
    match report.member "cutoverBlocked" with
    | some (.bool false) => false
    | _ => true

def consumeCutover (L : Ledger) (limit : ℕ) (w : Occasion) : Outcome (ℕ × Ledger) := do
  require (1 ≤ limit ∧ limit ≤ 25) (conflict "cutover_chunk_invalid")
  let connector ← cutoverBinding L.manifest w
  cutoverFinalFreeze rt L.manifest.contract.excelFrozenAt L.manifest.contract.t0
  require (L.manifest.contract.schemaVersion = 2 ∧ L.manifest.contract.streamKey.isSome ∧
      L.manifest.contract.sourceSheetId.isSome)
    (conflict "cutover_durable_stream_upgrade_required")
  require (L.manifest.state = .READY_FOR_CATCHUP ∧ L.manifest.reportSha256.isSome ∧
      L.manifest.observedAt.isSome)
    (conflict "cutover_reconciliation_required")
  assertReport rt L.manifest w
  let exceptions ← assertCutoverExceptions rt L
  authorizeCutoverExceptionTargets L w (exceptions.cases.map CurrentException.item)
  require (¬(overlapReview L.manifest.inventory ≠ 0 ∧ Undecided L exceptions.quarantinedKeys))
    (conflict "cutover_reconciliation_incomplete")
  let pending := pendingEntries L exceptions.quarantinedKeys limit
  require (some (headerHash rt connector.sourceColumns) = L.manifest.headerSha256)
    (conflict "cutover_mapping_headers_mismatch")
  let L ← pending.foldlM (fun L entry => consumeEntry L w entry) L
  pure (pending.length, L)

end CrmYnov.Cutover
