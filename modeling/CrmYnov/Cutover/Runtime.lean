import CrmYnov.Cutover.Service

/-!
# The scheduled worker of a cutover

A runtime is qualified on one version of the manifest, and armed. A worker then claims it: the
claim opens a run in a new epoch, under a lease that each transaction of the run renews. The
worker reads the source outside of any transaction, and consumes the backlog by chunks; a
chunk is carried out only by the owner of the lease, at the version of the manifest it has
last left (`CrmYnov.Cutover.owned`). Whatever becomes of the run, its end is recorded as long
as no other run has taken its place (`CrmYnov.Cutover.finish`).
-/

namespace CrmYnov.Cutover

open Checked

def LEASE_MS : ℤ := 60000

/-- `Claim`: what a worker holds. -/
structure Claim where
  (runId owner : String)
  (epoch version manifestVersion : ℕ)

def cutoverRuntimeError : Failure → String
  | .http _ code _ =>
    if code.toList.all (fun c => c.isLower || c.isDigit || c == '_') ∧ 1 ≤ code.length ∧
        code.length ≤ 128 then code
    else "cutover_runtime_operation_failed"
  | _ => "cutover_runtime_operation_failed"

/-- `/^synthetic_[a-z0-9_-]{1,60}$/u` -/
def isSyntheticWorkbook (workbookId : String) : Bool :=
  let rest := workbookId.toList.drop 10
  workbookId.toList.take 10 = "synthetic_".toList ∧ 1 ≤ rest.length ∧ rest.length ≤ 60 ∧
    rest.all fun c => c.isLower || c.isDigit || c == '_' || c == '-'

variable (rt : Runtime) (bytes : Ledger → ℕ)

/-! ### Authority -/

def runtimeBindingHash (row : StoredCutover) : String :=
  cutoverHash rt (.obj [("contract", row.contract.json), ("headerSha256", text? row.headerSha256)])

def qualification (row : StoredCutover) (runtime : StoredCutoverRuntime) (w : Occasion) :
    Outcome Unit := do
  w.fixtureDatabase
  let connector ← cutoverBinding row w
  let unqualified := conflict "cutover_upstream_not_qualified"
  let artifact ← demand w.artifact unqualified
  require (connector.google = false ∧ runtime.qualification.artifact = artifact ∧
      runtime.qualification.artifactSha256 = cutoverHash rt (.str artifact) ∧
      runtime.qualification.bindingSha256 = runtimeBindingHash rt row)
    unqualified

def authority (row : StoredCutover) (runtime : StoredCutoverRuntime) (w : Occasion) :
    Outcome Unit := do
  qualification rt row runtime w
  require runtime.delegation.isSome (conflict "cutover_runtime_not_armed")
  let _ ← cutoverBinding row w
  w.authorize

variable (L : Ledger)

def ready (w : Occasion) : Outcome Unit := do
  cutoverFinalFreeze rt L.manifest.contract.excelFrozenAt L.manifest.contract.t0
  let exceptions ← assertCutoverExceptions rt L
  authorizeCutoverExceptionTargets L w (exceptions.cases.map CurrentException.item)
  require (L.manifest.state = .READY_FOR_CATCHUP ∧ L.manifest.reportSha256.isSome ∧
      L.manifest.observedAt.isSome ∧ ¬Undecided L exceptions.quarantinedKeys)
    (conflict "cutover_reconciliation_required")
  let _ ← cutoverBinding L.manifest w
  assertReport rt L.manifest w

/-! ### Qualifying and arming -/

def runtimeReceipt (operation key fingerprint : String) : Outcome Ledger := do
  let runtimeReceipts ← insert L.runtimeReceipts ⟨operation, key, fingerprint⟩
  pure { L with runtimeReceipts }

/-- A request to the runtime that is known changes nothing; another one is carried out and
recorded. -/
def runtimeRecorded (operation : String) (request : CutoverRequest) (act : Outcome Ledger) :
    Outcome Ledger := do
  let known ← replayed L.runtimeReceipts operation request.key request.fingerprint
  if known then pure L
  else do
    let L ← act
    runtimeReceipt L operation request.key request.fingerprint

theorem runtimeRecorded_ok {L L' : Ledger} {operation : String} {request : CutoverRequest}
    {act : Outcome Ledger} (h : runtimeRecorded L operation request act = .ok L') :
    L' = L ∨ ∃ L₁ runtimeReceipts, act = .ok L₁ ∧ L' = { L₁ with runtimeReceipts } := by
  simp only [runtimeRecorded, bind_ok_iff] at h
  obtain ⟨known, -, h⟩ := h
  cases known with
  | true => exact .inl (pure_ok_iff.mp h).symm
  | false =>
    simp only [Bool.false_eq_true, if_false, ok_iff, runtimeReceipt] at h
    obtain ⟨L₁, hact, runtimeReceipts, -, rfl⟩ := h
    exact .inr ⟨L₁, runtimeReceipts, hact, rfl⟩

def qualified (previous : Option StoredCutoverRuntime) (qualification : CutoverQualification)
    (manifestVersion : ℕ) : StoredCutoverRuntime :=
  match previous with
  | none => { state := .PREPARED, qualification, leaseManifestVersion := some manifestVersion }
  | some runtime => { runtime with
      state := .PREPARED, qualification, delegation := none, epoch := runtime.epoch + 1
      leaseOwner := none, leaseUntil := none, activeRunId := none
      leaseManifestVersion := some manifestVersion, version := runtime.version + 1 }

/-- `qualify`: the run there was is not given up. -/
def qualify (request : CutoverRequest) (w : Occasion) : Outcome Ledger := do
  w.authorize
  let connector ← cutoverBinding L.manifest w
  cutoverFinalFreeze rt L.manifest.contract.excelFrozenAt L.manifest.contract.t0
  runtimeRecorded L "QUALIFY" request do
    expected L.manifest request.expectedVersion
    require (∀ previous ∈ L.runtime, previous.state ≠ .ARMED ∧
        ∀ until' ∈ previous.leaseUntil, until' ≤ w.now)
      (conflict "cutover_runtime_must_be_disarmed")
    let unqualified := conflict "cutover_upstream_not_qualified"
    let artifact ← demand w.artifact unqualified
    require (connector.google = false ∧ isSyntheticWorkbook connector.workbookId) unqualified
    w.fixtureDatabase
    ready rt L w
    require (some (headerHash rt connector.sourceColumns) = L.manifest.headerSha256)
      (conflict "cutover_mapping_headers_mismatch")
    pure { L with runtime := some (qualified L.runtime {
      artifact, artifactSha256 := cutoverHash rt (.str artifact)
      bindingSha256 := runtimeBindingHash rt L.manifest
      qualifiedManifestVersion := L.manifest.version, qualifiedBy := w.actorId }
      L.manifest.version) }

/-- What is checked of a runtime before it is armed. -/
def armable (runtime : StoredCutoverRuntime) (disarm : Bool) (w : Occasion) : Outcome Unit :=
  if disarm then pure ()
  else do
    qualification rt L.manifest runtime w
    ready rt L w
    require (L.manifest.version = runtime.qualification.qualifiedManifestVersion ∧
        runtime.state ≠ .ARMED)
      (conflict "cutover_runtime_requalification_required")

def arm (disarm : Bool) (request : CutoverRequest) (w : Occasion) : Outcome Ledger := do
  w.authorize
  let _ ← cutoverBinding L.manifest w
  let runtime ← demand L.runtime (.notFound "cutover_runtime_not_prepared")
  runtimeRecorded L (if disarm then "DISARM" else "ARM") request do
    require (runtime.version = request.expectedVersion)
      (conflict "cutover_runtime_version_conflict")
    armable rt L runtime disarm w
    let L := abandonRun L runtime.activeRunId "cutover_runtime_disarmed"
    pure { L with runtime := some { runtime with
      state := if disarm then .PAUSED else .ARMED
      delegation := if disarm then runtime.delegation else some w.delegation
      version := runtime.version + 1, epoch := runtime.epoch + 1, leaseOwner := none
      leaseUntil := none, activeRunId := none
      leaseManifestVersion := some L.manifest.version } }

/-! ### Claims -/

def openRun (runtime : StoredCutoverRuntime) (w : Occasion) : Outcome (Claim × Ledger) := do
  let L := abandonRun L runtime.activeRunId "cutover_lease_expired"
  let epoch := runtime.epoch + 1
  let runs ← insert L.runs { id := w.id, epoch, status := .RUNNING }
  let L := { L with
    runs
    runtime := some { runtime with
      epoch, leaseOwner := some w.owner, leaseUntil := some (w.renewedAt + LEASE_MS)
      activeRunId := some w.id } }
  pure (⟨w.id, w.owner, epoch, runtime.version, L.manifest.version⟩, L)

/-- What `claim` does of a runtime that is armed. -/
def claimArmed (runtime : StoredCutoverRuntime) (w : Occasion) :
    Outcome (Option Claim × Ledger) := do
  authority rt L.manifest runtime w
  ready rt L w
  require (runtime.leaseManifestVersion = some L.manifest.version)
    (conflict "cutover_runtime_manifest_changed")
  if ∃ until' ∈ runtime.leaseUntil, w.now < until' then pure (none, L)
  else do
    let (claim, L) ← openRun L runtime w
    pure (some claim, L)

def claim (w : Occasion) : Outcome (Option Claim × Ledger) :=
  match L.runtime with
  | none => pure (none, L)
  | some runtime =>
    if runtime.state = .ARMED then claimArmed rt L runtime w else pure (none, L)

def leaseLost : Failure := conflict "cutover_runtime_lease_lost"

def owned (claim : Claim) (w : Occasion) : Outcome StoredCutoverRuntime := do
  let runtime ← demand L.runtime leaseLost
  let leaseUntil ← demand runtime.leaseUntil leaseLost
  require (runtime.state = .ARMED ∧ runtime.epoch = claim.epoch ∧
      runtime.version = claim.version ∧ runtime.leaseOwner = some claim.owner ∧
      runtime.activeRunId = some claim.runId ∧ w.now < leaseUntil ∧
      runtime.leaseManifestVersion = some L.manifest.version ∧
      L.manifest.version = claim.manifestVersion)
    leaseLost
  pure runtime

def renew (claim : Claim) (w : Occasion) : Outcome Ledger := do
  let runtime ← demand L.runtime leaseLost
  let leaseUntil ← demand runtime.leaseUntil leaseLost
  require (runtime.version = claim.version ∧ runtime.epoch = claim.epoch ∧
      runtime.leaseOwner = some claim.owner ∧ runtime.activeRunId = some claim.runId ∧
      w.clock < leaseUntil)
    leaseLost
  pure { L with runtime := some { runtime with
    leaseUntil := some (w.renewedAt + LEASE_MS)
    leaseManifestVersion := some L.manifest.version } }

def checkSource (claim : Claim) (w : Occasion) : Outcome Unit := do
  let runtime ← owned L claim w
  authority rt L.manifest runtime w
  ready rt L w
  let _ ← cutoverBinding L.manifest w
  pure ()

/-- `finish`: the end of a run, as long as no other run has taken its place. -/
def finish (claim : Claim) (status : RunStatus) (errorCode : Option String) : Ledger :=
  match L.runtime with
  | none => L
  | some runtime =>
    if runtime.epoch ≠ claim.epoch ∨ runtime.leaseOwner ≠ some claim.owner ∨
        runtime.activeRunId ≠ some claim.runId then L
    else { L with
      runs := L.runs.updateMany (fun run => run.id = claim.runId ∧ run.status = .RUNNING)
        fun run => { run with status, errorCode }
      runtime := some { runtime with
        state := if status = .FAILED then .PAUSED else runtime.state
        leaseOwner := none, leaseUntil := none, activeRunId := none } }

/-! ### Chunks -/

/-- An entry that has just arrived is kept for the catch-up. -/
def CutoverEntry.automatic (previousKeys : List String) (entry : CutoverEntry) : CutoverEntry :=
  if entry.key ∉ previousKeys ∧ entry.classification = .BACKLOG ∧ entry.issue = none then
    { entry with decision := some .KEEP_FOR_CATCHUP }
  else entry

/-- What the first chunk records of the reading. -/
def observeChunk (values : SheetValues) (w : Occasion) : Outcome Ledger := do
  let previousKeys := L.manifest.inventory.map CutoverEntry.key
  let observed ← observeCutover rt L.manifest.contract values L.manifest.inventory
    L.manifest.headerSha256
  let inventory := observed.entries.map (CutoverEntry.automatic previousKeys)
  let L ← updateCutover bytes L { L.manifest.observed observed w.now with inventory }
  observeCutoverExceptions rt bytes L values w.caseId

/-- Whether the exceptions keep a run from going on. -/
def CutoverExceptionState.blocks (state : CutoverExceptionState) : Bool :=
  !state.coverageValid || state.unresolvedCases ≠ 0 || state.requiresReobservation

def pauseRun : Outcome Ledger := do
  let L ← updateCutover bytes L { L.manifest with state := .BASELINED, reportSha256 := none }
  pure { L with
    runtime := L.runtime.map fun runtime => { runtime with
      state := .PAUSED, leaseManifestVersion := some L.manifest.version } }

def CutoverDelegation.json (d : CutoverDelegation) : Js.Json :=
  .obj [("creatorId", .str d.creatorId), ("authorizedBy", .str d.authorizedBy),
    ("creatorAuthenticationVersion", .nat d.creatorAuthenticationVersion),
    ("authorizerAuthenticationVersion", .nat d.authorizerAuthenticationVersion)]

def chunkSummary (claim : Claim) (runtime : StoredCutoverRuntime) (processed : ℕ) : Js.Json :=
  .obj [("processed", .nat processed), ("runId", .str claim.runId), ("epoch", .nat claim.epoch),
    ("manifestVersion", .nat L.manifest.version), ("runtimeVersion", .nat runtime.version),
    ("delegation", (runtime.delegation.map CutoverDelegation.json).getD .null)]

/-- What a chunk consumes, under the runtime it has found: how many entries it has processed,
and whether the run is to be reviewed. -/
def consumeChunk (claim : Claim) (runtime : StoredCutoverRuntime) (chunk limit : ℕ) (w : Occasion) :
    Outcome ((ℕ × Bool) × Ledger) := do
  let (processed, L) ← catchUp rt bytes L limit w
  let exceptions ← cutoverExceptionState rt L
  let L ← if exceptions.blocks then pauseRun bytes L else pure L
  let L ← runtimeReceipt L "CONSUME" (claim.runId ++ ":" ++ toString chunk)
    (cutoverHash rt (chunkSummary L claim runtime processed))
  authority rt L.manifest runtime w
  let L ← renew L claim w
  pure ((processed, exceptions.blocks), L)

/-- What the first chunk does: the reading is recorded, and may be what is to be reviewed. -/
def firstChunk (claim : Claim) (runtime : StoredCutoverRuntime) (values : SheetValues) (limit : ℕ)
    (w : Occasion) : Outcome ((ℕ × Bool) × Ledger) := do
  let L ← observeChunk rt bytes L values w
  let exceptions ← cutoverExceptionState rt L
  if exceptions.blocks then do
    let L ← pauseRun bytes L
    let L ← renew L claim w
    pure ((0, true), L)
  else consumeChunk rt bytes L claim runtime 0 limit w

/-- A transaction of `tick` -/
def chunkTransaction (claim : Claim) (values : SheetValues) (chunk limit : ℕ) (w : Occasion) :
    Outcome ((ℕ × Bool) × Ledger) := do
  let runtime ← owned L claim w
  authority rt L.manifest runtime w
  ready rt L w
  if chunk = 0 then firstChunk rt bytes L claim runtime values limit w
  else consumeChunk rt bytes L claim runtime chunk limit w

end CrmYnov.Cutover
