import CrmYnov.Cutover.Consumer

/-!
# The manual operations of a cutover

Each operation is one transaction under the lock of the manifest. A request that is known
answers what it answered; another one names the version it was made against, and is refused
once the manifest has another.

A reading of the source is split: it is prepared in one transaction, made outside of any, and
recorded in another one that checks again what the first had checked
(`CrmYnov.Cutover.prepareObserve`, `CrmYnov.Cutover.observe`). After a quarantine the manifest
is suspended, and recording a reading is what resumes it.
-/

namespace CrmYnov.Cutover

open Checked

def CUTOVER_QUARANTINE_PAUSE : String := "cutover_quarantine_requires_reobservation"

def expected (row : StoredCutover) (version : ℕ) : Outcome Unit :=
  require (row.version = version) (conflict "cutover_version_conflict")

def available (row : StoredCutover) (observing : Bool := false) : Outcome Unit :=
  require (¬(row.state = .SUSPENDED ∧
      ¬(observing ∧ row.suspensionReason = some CUTOVER_QUARANTINE_PAUSE)))
    (conflict "cutover_suspended")

variable (rt : Runtime) (bytes : Ledger → ℕ)

variable (L : Ledger)

/-- `view`: what is answered shows the exceptions. -/
def view : Outcome Ledger := do
  let _ ← cutoverExceptionState rt L
  pure L

/-! ### Readings -/

/-- The first transaction of `observe`, and what is checked of the reading made after it; a
request that is known makes no reading. -/
def prepareObserve (request : CutoverRequest) (values : SheetValues) (w : Occasion) :
    Outcome Bool := do
  w.authorize
  let connector ← cutoverBinding L.manifest w
  let known ← replayed L.receipts "OBSERVE" request.key request.fingerprint
  if known then pure false
  else do
    expected L.manifest request.expectedVersion
    available L.manifest true
    require (¬(connector.google ∧
        values.observation.map SheetObservation.sheetId ≠ L.manifest.contract.sourceSheetId))
      (conflict "cutover_sheet_identity_mismatch")
    pure true

/-- A manifest with what was read of its source. -/
def StoredCutover.observed (row : StoredCutover) (observed : ObservedCutover)
    (observedAt : Instant) : StoredCutover :=
  { row with
    inventory := observed.entries, headerSha256 := some observed.headerSha256
    snapshotSha256 := some observed.snapshotSha256, observedAt := some observedAt
    sourceCount := observed.sourceCount }

/-- The second transaction of `observe` -/
def observe (request : CutoverRequest) (values : SheetValues) (capturedAt : Instant) (w : Occasion) :
    Outcome Ledger := do
  w.authorize
  let _ ← cutoverBinding L.manifest w
  recorded L "OBSERVE" request do
    expected L.manifest request.expectedVersion
    available L.manifest true
    let observed ← observeCutover rt L.manifest.contract values L.manifest.inventory
      L.manifest.headerSha256
    let L ← updateCutover bytes L { L.manifest.observed observed capturedAt with
      state := .BASELINED, reportSha256 := none, suspensionReason := none }
    let L ← observeCutoverExceptions rt bytes L values w.caseId
    view rt L

/-! ### Decisions and the reconciliation -/

def CutoverEntry.decided (sourceKey : String) (action : OverlapDecision) (target : Option String)
    (entry : CutoverEntry) : CutoverEntry :=
  if entry.key = sourceKey then
    { entry with decision := some action, targetBootstrapRowId := target }
  else entry

/-- `decide` -/
def decideOverlap (sourceKey : String) (action : OverlapDecision) (target : String)
    (request : CutoverRequest) (w : Occasion) : Outcome Ledger := do
  let targetBootstrapRowId := if action = .LINK_BASELINE then some target else none
  w.authorize
  let _ ← cutoverBinding L.manifest w
  recorded L "DECIDE" request do
    expected L.manifest request.expectedVersion
    available L.manifest
    require L.manifest.observedAt.isSome (conflict "cutover_baseline_missing")
    let invalid := conflict "cutover_overlap_decision_invalid"
    let source ← demand (L.manifest.inventory.find? fun entry => entry.key = sourceKey) invalid
    require (source.classification = .BACKLOG ∧ source.issue = none ∧ source.decision = none)
      invalid
    targetBootstrapRowId.toList.forM fun target => do
      let leadId ← cutoverBaselineTarget L.manifest w (some target)
      w.authorizeLead leadId
    let inventory :=
      L.manifest.inventory.map (CutoverEntry.decided sourceKey action targetBootstrapRowId)
    let L ← updateCutover bytes L { L.manifest with
      inventory, state := .BASELINED, reportSha256 := none }
    view rt L

def reconcile (request : CutoverRequest) (w : Occasion) : Outcome Ledger := do
  w.authorize
  let _ ← cutoverBinding L.manifest w
  cutoverFinalFreeze rt L.manifest.contract.excelFrozenAt L.manifest.contract.t0
  recorded L "RECONCILE" request do
    expected L.manifest request.expectedVersion
    available L.manifest
    require (L.manifest.observedAt.isSome ∧ L.manifest.headerSha256.isSome ∧
        L.manifest.snapshotSha256.isSome)
      (conflict "cutover_baseline_missing")
    let report ← w.report
    let exceptions ← assertCutoverExceptions rt L
    authorizeCutoverExceptionTargets L w (exceptions.cases.map CurrentException.item)
    require (assertReport.isBlocked report = false ∧ ¬Undecided L exceptions.quarantinedKeys)
      (conflict "cutover_reconciliation_incomplete")
    (L.manifest.inventory.filterMap CutoverEntry.targetBootstrapRowId).forM fun target => do
      let leadId ← cutoverBaselineTarget L.manifest w (some target)
      w.authorizeLead leadId
    let L ← updateCutover bytes L { L.manifest with
      state := .READY_FOR_CATCHUP, reportSha256 := some (cutoverHash rt report) }
    view rt L

def suspend (reason : String) (resume : Bool) (request : CutoverRequest) (w : Occasion) :
    Outcome Ledger := do
  w.authorize
  let _ ← cutoverBinding L.manifest w
  recorded L (if resume then "RESUME" else "SUSPEND") request do
    expected L.manifest request.expectedVersion
    require (resume ↔ L.manifest.state = .SUSPENDED) (conflict "cutover_state_conflict")
    let L ← updateCutover bytes L { L.manifest with
      state := if resume then .DRAFT else .SUSPENDED
      observedAt := if resume then none else L.manifest.observedAt
      reportSha256 := none
      suspensionReason := if resume then none else some reason }
    view rt L

/-! ### The catch-up -/

/-- What is done after a consumption: the effects that wait for a review join the journal. -/
def catchUp (limit : ℕ) (w : Occasion) : Outcome (ℕ × Ledger) := do
  let (processed, L) ← consumeCutover rt L limit w
  let L ← updateCutover bytes L L.manifest
  let L ← refreshCutoverExceptions rt bytes L w.caseId
  pure (processed, L)

def consume (limit : ℕ) (request : CutoverRequest) (w : Occasion) : Outcome Ledger := do
  w.authorize
  let _ ← cutoverBinding L.manifest w
  cutoverFinalFreeze rt L.manifest.contract.excelFrozenAt L.manifest.contract.t0
  recorded L "CONSUME" request do
    expected L.manifest request.expectedVersion
    available L.manifest
    let (_, L) ← catchUp rt bytes L limit w
    let exceptions ← cutoverExceptionState rt L
    if exceptions.unresolvedCases = 0 then view rt L
    else do
      let L ← updateCutover bytes L { L.manifest with state := .BASELINED, reportSha256 := none }
      view rt L

/-! ### Quarantine and compensation -/

/-- A run is given up while it is running. -/
def abandonRun (runId : Option String) (errorCode : String) : Ledger :=
  { L with
    runs := L.runs.updateMany (fun run => some run.id = runId ∧ run.status = .RUNNING)
      fun run => { run with status := .ABANDONED, errorCode := some errorCode } }

def activeRunId : Option String := L.runtime.bind StoredCutoverRuntime.activeRunId

/-- `quarantineCutoverCase`: the decision ends the run there is. -/
def quarantineCutoverCase (item : CutoverExceptionCase) (actorId reason id : String) :
    Outcome Ledger := do
  let dispositions ← insert L.dispositions {
    id, caseId := item.id, evidenceSha256 := item.evidenceSha256, reason, actorId
    decidedManifestVersion := L.manifest.version + 1 }
  let L := { L with dispositions }
  assertCutoverJournalBounds bytes L
  let L := abandonRun L (activeRunId L) "cutover_quarantined"
  pure { L with
    runtime := L.runtime.map fun runtime => { runtime with
      state := .PAUSED, version := runtime.version + 1, epoch := runtime.epoch + 1
      leaseOwner := none, leaseUntil := none, activeRunId := none } }

def quarantine (caseId evidenceSha256 reason : String) (request : CutoverRequest) (w : Occasion) :
    Outcome Ledger := do
  w.authorize
  let _ ← cutoverBinding L.manifest w
  authorizeCutoverExceptionTargets L w (L.cases.findUnique (.id caseId)).toList
  recorded L "QUARANTINE" request do
    expected L.manifest request.expectedVersion
    available L.manifest true
    let state ← cutoverExceptionState rt L
    let changed := conflict "cutover_exception_evidence_changed"
    let entry ← demand (state.cases.find? fun c => c.item.id = caseId) changed
    require (state.coverageValid ∧ entry.item.evidenceSha256 = evidenceSha256) changed
    require (entry.disposition = none) (conflict "cutover_exception_already_disposed")
    authorizeCutoverExceptionTargets L w [entry.item]
    let L ← quarantineCutoverCase bytes L entry.item w.actorId reason w.id
    let L ← updateCutover bytes L { L.manifest with
      state := .SUSPENDED, suspensionReason := some CUTOVER_QUARANTINE_PAUSE
      reportSha256 := none }
    view rt L

/-- `compensate`: what is asked for is noted on the effect, and not applied. -/
def compensate (sourceKey reason : String) (request : CutoverRequest) (w : Occasion) :
    Outcome Ledger := do
  w.authorize
  let _ ← cutoverBinding L.manifest w
  recorded L "COMPENSATE" request do
    expected L.manifest request.expectedVersion
    let invalid := conflict "cutover_compensation_target_invalid"
    let effect ← demand (L.effects.findUnique (.sourceKey sourceKey)) invalid
    let leadId ← demand effect.leadId invalid
    require (effect.outcome = .CREATED ∧ effect.compensationStatus = none) invalid
    w.authorizeLead leadId
    let same := effect.downstreamSha256 = some (w.downstreamHash leadId)
    let L := { L with
      effects := L.effects.updateMany (fun e => e.id = effect.id) fun e => { e with
        compensationStatus := some (if same then .REQUESTED else .BLOCKED_DOWNSTREAM)
        compensationReason := some reason } }
    let L ← updateCutover bytes L { L.manifest with
      state := .SUSPENDED, reportSha256 := none
      suspensionReason := some "cutover_compensation_requires_controlled_forward_action" }
    view rt L

end CrmYnov.Cutover
