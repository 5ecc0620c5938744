import CrmYnov.Base.Machine
import CrmYnov.Cutover.Runtime

/-!
# A cutover, step by step

One manifest, the readings that were prepared and are not recorded yet, and the workers. Every
step is one transaction, and the steps of all of them come in any order; what a worker or an
operator never comes back to do is a step that is never taken. The world gives each transaction
its clocks, its identifiers and what it reads of other services.

A state also keeps two numbers that the program does not: how many dispositions were known when
a reading of the source was begun, and when the one behind the manifest was
(`CrmYnov.Cutover.State.seen`).
-/

namespace CrmYnov.Cutover

open Checked

/-- A reading that was made, and is not recorded yet. -/
structure Reading where
  request : CutoverRequest
  values : SheetValues
  capturedAt : Instant
  /-- How many dispositions were known when the reading was begun. -/
  known : ℕ

inductive Ending
  | completed
  | blocked
  | failed (code : String)

namespace Ending

def status : Ending → RunStatus
  | completed => .COMPLETED
  | blocked => .BLOCKED
  | failed _ => .FAILED

def errorCode : Ending → Option String
  | completed => none
  | blocked => some "cutover_source_review_required"
  | failed code => some code

end Ending

inductive Progress
  /-- The run is opened. -/
  | claimed
  /-- The source was read, and some chunks were consumed. -/
  | consuming (values : SheetValues) (known chunk : ℕ)
  /-- What is left is to record the end of the run. -/
  | ending (e : Ending)
  | ended

/-- A worker: its claim, and the options of its `tick`. -/
structure Worker where
  claim : Claim
  (limit chunks : ℕ)
  progress : Progress := .claimed

/-- A cutover between two transactions. -/
structure State where
  ledger : Ledger
  readings : List Reading := []
  workers : List Worker := []
  /-- How many dispositions were known when the reading behind the manifest was begun. -/
  seen : ℕ := 0

inductive Action
  | prepare (request : CutoverRequest) (values : SheetValues) (capturedAt : Instant) (w : Occasion)
  | observe (i : ℕ) (w : Occasion)
  | decide (sourceKey : String) (action : OverlapDecision) (target : String)
      (request : CutoverRequest) (w : Occasion)
  | reconcile (request : CutoverRequest) (w : Occasion)
  | suspend (reason : String) (resume : Bool) (request : CutoverRequest) (w : Occasion)
  | consume (limit : ℕ) (request : CutoverRequest) (w : Occasion)
  | quarantine (caseId evidenceSha256 reason : String) (request : CutoverRequest) (w : Occasion)
  | compensate (sourceKey reason : String) (request : CutoverRequest) (w : Occasion)
  | qualify (request : CutoverRequest) (w : Occasion)
  | arm (disarm : Bool) (request : CutoverRequest) (w : Occasion)
  /-- A worker comes to the manifest. -/
  | claim (limit chunks : ℕ) (w : Occasion)
  /-- A worker checks its lease, and reads the source. -/
  | source (i : ℕ) (values : SheetValues) (w : Occasion)
  /-- Something is refused to a worker outside of its transactions. -/
  | fail (i : ℕ) (e : Failure)
  | chunk (i : ℕ) (w : Occasion)
  | finish (i : ℕ)

variable (rt : Runtime) (bytes : Ledger → ℕ)

namespace State

variable (s : State)

def known : ℕ := s.ledger.dispositions.rows.length

/-- A transaction leaves another ledger, or the one there was. -/
def commit (result : Outcome Ledger) : Outcome Unit × State :=
  match result with
  | .ok L => (.ok (), { s with ledger := L })
  | .error e => (.error e, s)

variable (i : ℕ) (worker : Worker)

def setWorker : State := { s with workers := s.workers.set i worker }

/-- A worker gives up: what is left is to say so. -/
def failWorker (e : Failure) : State :=
  s.setWorker i { worker with progress := .ending (.failed (cutoverRuntimeError e)) }

def prepared (request : CutoverRequest) (values : SheetValues) (capturedAt : Instant)
    (w : Occasion) : Outcome Unit × State :=
  match prepareObserve s.ledger request values w with
  | .ok true => (.ok (), { s with readings := s.readings ++ [⟨request, values, capturedAt, s.known⟩] })
  | .ok false => (.ok (), s)
  | .error e => (.error e, s)

/-- A reading is recorded. A request that is known by then has recorded another one. -/
def observed (reading : Reading) (i : ℕ) (w : Occasion) : Outcome Unit × State :=
  let s := { s with readings := s.readings.eraseIdx i }
  match observe rt bytes s.ledger reading.request reading.values reading.capturedAt w with
  | .ok L => (.ok (), { s with
      ledger := L
      seen := if L.manifest.version = s.ledger.manifest.version then s.seen else reading.known })
  | .error e => (.error e, s)

/-- A worker comes to the manifest. -/
def claimed (limit chunks : ℕ) (w : Occasion) : Outcome Unit × State :=
  if 1 ≤ limit ∧ limit ≤ 25 ∧ 1 ≤ chunks ∧ chunks ≤ 4 then
    match claim rt s.ledger w with
    | .ok (some claim, L) =>
      (.ok (), { s with ledger := L, workers := s.workers ++ [{ claim, limit, chunks }] })
    | .ok (none, L) => (.ok (), { s with ledger := L })
    | .error e => (.error e, s)
  else (.error (cutoverInvalid "cutover_chunk_invalid"), s)

/-- A worker checks its lease, and reads the source. -/
def sourced (values : SheetValues) (w : Occasion) : Outcome Unit × State :=
  match worker.progress with
  | .claimed =>
    match checkSource rt s.ledger worker.claim w with
    | .ok () => (.ok (), s.setWorker i { worker with progress := .consuming values s.known 0 })
    | .error e => (.error e, s.failWorker i worker e)
  | _ => (.ok (), s)

/-- Something is refused to a worker outside of its transactions. -/
def failed (e : Failure) : State :=
  match worker.progress with
  | .claimed => s.failWorker i worker e
  | .consuming _ _ _ => s.failWorker i worker e
  | _ => s

def afterChunk (values : SheetValues) (known chunk processed : ℕ) (blocked : Bool) : Progress :=
  if blocked then .ending .blocked
  else if processed < worker.limit ∨ chunk + 1 = worker.chunks then .ending .completed
  else .consuming values known (chunk + 1)

def chunked (w : Occasion) : Outcome Unit × State :=
  match worker.progress with
  | .consuming values known chunk =>
    match chunkTransaction rt bytes s.ledger worker.claim values chunk worker.limit w with
    | .ok ((processed, blocked), L) =>
      (.ok (), { s with
        ledger := L
        seen := if chunk = 0 then known else s.seen
        workers := s.workers.set i { worker with
          claim := { worker.claim with manifestVersion := L.manifest.version }
          progress := afterChunk worker values known chunk processed blocked } })
    | .error e => (.error e, s.failWorker i worker e)
  | _ => (.ok (), s)

/-- The end of a run is recorded. -/
def finished : State :=
  match worker.progress with
  | .ending e => { s with
      ledger := Cutover.finish s.ledger worker.claim e.status e.errorCode
      workers := s.workers.set i { worker with progress := .ended } }
  | _ => s

def withWorker (f : Worker → Outcome Unit × State) : Outcome Unit × State :=
  match s.workers[i]? with
  | some worker => f worker
  | none => (.ok (), s)

def step (a : Action) : Outcome Unit × State :=
  match a with
  | .prepare request values capturedAt w => s.prepared request values capturedAt w
  | .observe i w =>
    match s.readings[i]? with
    | some reading => s.observed rt bytes reading i w
    | none => (.ok (), s)
  | .decide sourceKey action target request w =>
    s.commit (decideOverlap rt bytes s.ledger sourceKey action target request w)
  | .reconcile request w => s.commit (Cutover.reconcile rt bytes s.ledger request w)
  | .suspend reason resume request w =>
    s.commit (Cutover.suspend rt bytes s.ledger reason resume request w)
  | .consume limit request w => s.commit (Cutover.consume rt bytes s.ledger limit request w)
  | .quarantine caseId evidenceSha256 reason request w =>
    s.commit (Cutover.quarantine rt bytes s.ledger caseId evidenceSha256 reason request w)
  | .compensate sourceKey reason request w =>
    s.commit (Cutover.compensate rt bytes s.ledger sourceKey reason request w)
  | .qualify request w => s.commit (Cutover.qualify rt s.ledger request w)
  | .arm disarm request w => s.commit (Cutover.arm rt s.ledger disarm request w)
  | .claim limit chunks w => s.claimed rt limit chunks w
  | .source i values w => s.withWorker i fun worker => s.sourced rt i worker values w
  | .fail i e => s.withWorker i fun worker => (.ok (), s.failed i worker e)
  | .chunk i w => s.withWorker i fun worker => s.chunked rt bytes i worker w
  | .finish i => s.withWorker i fun worker => (.ok (), s.finished i worker)

end State

def machine : Machine State Action (Outcome Unit) := ⟨State.step rt bytes⟩

structure Created (s : State) : Prop where
  manifest : s.ledger = {
    manifest := {
      id := s.ledger.manifest.id, campusId := s.ledger.manifest.campusId
      actorId := s.ledger.manifest.actorId
      bootstrapPackageId := s.ledger.manifest.bootstrapPackageId
      connectorId := s.ledger.manifest.connectorId, contract := s.ledger.manifest.contract } }
  readings : s.readings = []
  workers : s.workers = []
  seen : s.seen = 0

end CrmYnov.Cutover
