import CrmYnov.Cutover.Contract
import CrmYnov.Platform.Database

/-!
# The ledger of a cutover

What is stored of one manifest: the manifest itself with its inventory, the effects of the
catch-up under the key of their source, the cases of the exceptions and what was disposed of
them, the runtime of the scheduled worker with its runs, and the receipts of the requests.
Everything is written under the lock of the manifest, one transaction after the other; what
is added to the journal is bounded as a whole (`CrmYnov.Cutover.assertCutoverJournalBounds`).
-/

namespace CrmYnov.Cutover

open Checked

/-! ### Exceptions -/

inductive CutoverExceptionKind
  | SOURCE_CHANGED | SOURCE_REMOVED | EFFECT_REVIEW
deriving DecidableEq

def CutoverExceptionKind.text : CutoverExceptionKind → String
  | SOURCE_CHANGED => "SOURCE_CHANGED"
  | SOURCE_REMOVED => "SOURCE_REMOVED"
  | EFFECT_REVIEW => "EFFECT_REVIEW"

def Issue.kind : Issue → CutoverExceptionKind
  | SOURCE_CHANGED => .SOURCE_CHANGED
  | SOURCE_REMOVED => .SOURCE_REMOVED

structure CutoverObservedSource where
  sourceKey : String
  present : Bool
  (fingerprint originalArrivedAt : Option String)

/-- The case an observation names. -/
structure CutoverExceptionReference where
  (caseId sourceKey : String)
  kind : CutoverExceptionKind
  evidenceSha256 : String

structure CutoverExceptionObservation where
  (bindingSha256 headerSha256 sourceEvidenceSha256 : String)
  observedAt : Instant
  observedManifestVersion : ℕ
  sources : List CutoverObservedSource
  cases : List CutoverExceptionReference

structure CutoverReview where
  effectId : String
  batchId : Option String
  fingerprint : String
  reason : Option String

structure CutoverExceptionEvidence where
  (bindingSha256 headerSha256 sourceKey : String)
  kind : CutoverExceptionKind
  (originalFingerprint originalArrivedAt : String)
  source : CutoverObservedSource
  review : Option CutoverReview

structure CutoverExceptionCase where
  (id sourceKey : String)
  kind : CutoverExceptionKind
  generation : ℕ
  evidenceSha256 : String
  evidence : CutoverExceptionEvidence
  observedPayload : Option Payload

/-- The unique indexes of `import_cutover_exception_cases`. -/
inductive CutoverExceptionCase.Key
  | id (value : String)
  | generation (sourceKey : String) (kind : CutoverExceptionKind) (value : ℕ)
deriving DecidableEq

def CutoverExceptionCase.keys (c : CutoverExceptionCase) : List CutoverExceptionCase.Key :=
  [.id c.id, .generation c.sourceKey c.kind c.generation]

/-- What was decided of a case: it is preserved in quarantine. -/
structure CutoverExceptionDisposition where
  (id caseId evidenceSha256 reason actorId : String)
  decidedManifestVersion : ℕ

/-- The unique indexes of `import_cutover_exception_dispositions`. -/
inductive CutoverExceptionDisposition.Key
  | id (value : String)
  | caseId (value : String)
deriving DecidableEq

def CutoverExceptionDisposition.keys (d : CutoverExceptionDisposition) :
    List CutoverExceptionDisposition.Key := [.id d.id, .caseId d.caseId]

/-! ### Effects -/

inductive CutoverOutcome
  | CREATED | LINKED_BASELINE | REVIEW
deriving DecidableEq

inductive CompensationStatus
  | REQUESTED | BLOCKED_DOWNSTREAM

/-- A row of `import_cutover_effects`. -/
structure CutoverEffect where
  (id sourceKey : String)
  outcome : CutoverOutcome
  (batchId leadId reason downstreamSha256 : Option String)
  compensationStatus : Option CompensationStatus := none
  compensationReason : Option String := none

/-- The unique indexes of `import_cutover_effects`. -/
inductive CutoverEffect.Key
  | id (value : String)
  | sourceKey (value : String)
deriving DecidableEq

def CutoverEffect.keys (e : CutoverEffect) : List CutoverEffect.Key :=
  [.id e.id, .sourceKey e.sourceKey]

/-- What an ingestion has stored of a record: its batch, the report of it and, when the record
waits for one, its review. -/
structure IngestedRecord where
  batchId : String
  (batch report : Js.Json)
  reviewItem : Option Js.Json

def IngestedRecord.keys (r : IngestedRecord) : List String := [r.batchId]

/-! ### The scheduled worker -/

inductive RuntimeState
  | PREPARED | ARMED | PAUSED
deriving DecidableEq

structure CutoverQualification where
  (artifact artifactSha256 bindingSha256 : String)
  qualifiedManifestVersion : ℕ
  qualifiedBy : String

/-- `CutoverDelegation`: the authority a worker acts under. -/
structure CutoverDelegation where
  (creatorId authorizedBy : String)
  (creatorAuthenticationVersion authorizerAuthenticationVersion : ℕ)

/-- A row of `import_cutover_runtimes`. -/
structure StoredCutoverRuntime where
  version : ℕ := 1
  state : RuntimeState
  qualification : CutoverQualification
  delegation : Option CutoverDelegation := none
  epoch : ℕ := 0
  leaseOwner : Option String := none
  leaseUntil : Option Instant := none
  leaseManifestVersion : Option ℕ
  activeRunId : Option String := none

inductive RunStatus
  | RUNNING | COMPLETED | FAILED | BLOCKED | ABANDONED
deriving DecidableEq

/-- A row of `import_cutover_runtime_runs`. -/
structure CutoverRun where
  id : String
  epoch : ℕ
  status : RunStatus
  errorCode : Option String := none

/-- The unique indexes of `import_cutover_runtime_runs`. -/
inductive CutoverRun.Key
  | id (value : String)
  | epoch (value : ℕ)
deriving DecidableEq

def CutoverRun.keys (r : CutoverRun) : List CutoverRun.Key := [.id r.id, .epoch r.epoch]

/-! ### The manifest -/

/-- A row of `import_cutover_manifests`. -/
structure StoredCutover where
  (id campusId actorId bootstrapPackageId connectorId : String)
  state : CutoverState := .DRAFT
  version : ℕ := 1
  contract : CutoverContract
  inventory : List CutoverEntry := []
  headerSha256 : Option String := none
  snapshotSha256 : Option String := none
  observedAt : Option Instant := none
  sourceCount : ℕ := 0
  reportSha256 : Option String := none
  suspensionReason : Option String := none
  exceptionObservation : Option CutoverExceptionObservation := none

structure Receipt where
  (operation key fingerprint : String)

def Receipt.keys (r : Receipt) : List (String × String) := [(r.operation, r.key)]

structure Ledger where
  manifest : StoredCutover
  effects : Table CutoverEffect CutoverEffect.keys := .empty
  ingested : Table IngestedRecord IngestedRecord.keys := .empty
  cases : Table CutoverExceptionCase CutoverExceptionCase.keys := .empty
  dispositions : Table CutoverExceptionDisposition CutoverExceptionDisposition.keys := .empty
  receipts : Table Receipt Receipt.keys := .empty
  runtime : Option StoredCutoverRuntime := none
  runs : Table CutoverRun CutoverRun.keys := .empty
  runtimeReceipts : Table Receipt Receipt.keys := .empty

def conflict (code : String) : Failure := .conflict code

/-- `assertCutoverJournalBounds`: the entries, the cases and the dispositions of a manifest are
counted together, and so are their bytes, which the database measures. -/
def assertCutoverJournalBounds (bytes : Ledger → ℕ) (L : Ledger) : Outcome Unit :=
  require (L.manifest.inventory.length + L.cases.rows.length + L.dispositions.rows.length ≤
      CUTOVER_ROW_LIMIT ∧ bytes L ≤ CUTOVER_BYTE_LIMIT)
    (conflict "cutover_exception_journal_bound_exceeded")

/-- `updateCutover`: the manifest is locked, and its version counts the updates. -/
def updateCutover (bytes : Ledger → ℕ) (L : Ledger) (next : StoredCutover) : Outcome Ledger := do
  let L := { L with manifest := { next with version := L.manifest.version + 1 } }
  assertCutoverJournalBounds bytes L
  pure L

theorem updateCutover_ok_iff {bytes : Ledger → ℕ} {L L' : Ledger} {next : StoredCutover} :
    updateCutover bytes L next = .ok L' ↔ assertCutoverJournalBounds bytes L' = .ok () ∧
        L' = { L with manifest := { next with version := L.manifest.version + 1 } } := by
  simp only [updateCutover, ok_iff]
  constructor
  · rintro ⟨⟨⟩, hbounds, rfl⟩
    exact ⟨hbounds, rfl⟩
  · rintro ⟨hbounds, rfl⟩
    exact ⟨(), hbounds, rfl⟩

structure CutoverRequest where
  (key fingerprint : String)
  expectedVersion : ℕ

/-- `cutoverReplay`, `runtimeReplay`: whether a request is known already. -/
def replayed (receipts : Table Receipt Receipt.keys) (operation key fingerprint : String) :
    Outcome Bool :=
  match receipts.findUnique (operation, key) with
  | none => pure false
  | some receipt => do
    require (receipt.fingerprint = fingerprint) (conflict "cutover_idempotency_conflict")
    pure true

def saveCutoverReceipt (L : Ledger) (operation key fingerprint : String) : Outcome Ledger := do
  let receipts ← insert L.receipts ⟨operation, key, fingerprint⟩
  pure { L with receipts }

/-- A request that is known changes nothing; another one is carried out and recorded. -/
def recorded (L : Ledger) (operation : String) (request : CutoverRequest)
    (act : Outcome Ledger) : Outcome Ledger := do
  let known ← replayed L.receipts operation request.key request.fingerprint
  if known then pure L
  else do
    let L ← act
    saveCutoverReceipt L operation request.key request.fingerprint

theorem recorded_ok {L L' : Ledger} {operation : String} {request : CutoverRequest}
    {act : Outcome Ledger} (h : recorded L operation request act = .ok L') :
    L' = L ∨ ∃ L₁ receipts, act = .ok L₁ ∧ L' = { L₁ with receipts } := by
  simp only [recorded, bind_ok_iff] at h
  obtain ⟨known, -, h⟩ := h
  cases known with
  | true => exact .inl (pure_ok_iff.mp h).symm
  | false =>
    simp only [Bool.false_eq_true, if_false, ok_iff, saveCutoverReceipt] at h
    obtain ⟨L₁, hact, receipts, -, rfl⟩ := h
    exact .inr ⟨L₁, receipts, hact, rfl⟩

end CrmYnov.Cutover
