import CrmYnov.SheetImport.Types

/-!
# The coordinator of the runs

`SheetImportCoordinator`: short transactions give a worker the lease of a connector, renew it,
put it off and end it. Everything a worker writes is between two checks of its lease
(`CrmYnov.SheetImport.transaction`); a lease is good while the connector is at its epoch, at its
version and in its run, and has not expired.

A claim reads the connector first and writes it afterwards, and what other transactions do in
between it can only notice when it writes: it is in two steps (`CrmYnov.SheetImport.look`,
`CrmYnov.SheetImport.take`), under the locks it has taken (`CrmYnov.SheetImport.PendingClaim.locks`).
-/

namespace CrmYnov.SheetImport

open Checked

variable (rt : Runtime)

def LEASE_MS : ℤ := 30000

/-- `cutoverStreamKey`, of a stream. -/
def streamKey (stream : String × ℕ) : String := Cutover.cutoverStreamKey rt stream.1 stream.2

variable (S : Store)

/-- `cutoverConnectorBound`: the locks of the connector and of its stream are taken first, and
are not to be had while another transaction holds them. -/
def cutoverConnectorBound (locked : List String) (connectorId : String)
    (source : Option (String × ℕ)) : Outcome Bool := do
  let stream := source.map (streamKey rt)
  require (connectorId ∉ locked ∧ ∀ key ∈ stream, key ∉ locked) .database
  pure (decide (S.Bound connectorId stream))

/-! ### Claims -/

/-- A claim that has read its connector and has not written it yet. -/
structure PendingClaim where
  trigger : Trigger
  now : Instant
  candidate : SheetImportConnector
  /-- The run to be resumed even where the connector is not enabled. -/
  manualResume : Option String

def PendingClaim.locks (p : PendingClaim) : List String :=
  p.candidate.id :: (p.candidate.snapshot.stream.map (streamKey rt)).toList

/-- `claim`, up to its first write. -/
def look (locked : List String) (connectorId : String) (trigger : Trigger)
    (eligible : SheetImportConnector → Bool) (now : Instant) : Outcome (Option PendingClaim) :=
  match S.connectors.get connectorId with
  | none => pure none
  | some candidate =>
    if eligible candidate then do
      let bound ← cutoverConnectorBound rt S locked connectorId candidate.snapshot.stream
      let active := candidate.activeRunId.bind S.runs.get
      let manual := active.filter fun run => run.trigger = .MANUAL ∧ run.status = .RUNNING
      pure (if bound then none else some ⟨trigger, now, candidate, manual.map SheetImportRun.id⟩)
    else pure none

/-- What the write of a claim asks of the connector it finds. -/
def Claimable (p : PendingClaim) (c : SheetImportConnector) : Prop :=
  c.version = p.candidate.version ∧ (∀ limit ∈ c.leaseUntil, limit ≤ p.now) ∧
    (c.enabled = true ∨ c.manualRequested = true ∨ ∃ id ∈ p.manualResume, c.activeRunId = some id) ∧
    (c.activeRunId = none ∨ c.nextRunAt ≤ p.now) ∧ (p.trigger = .SCHEDULED → c.nextRunAt ≤ p.now)
deriving Decidable

variable (connector : SheetImportConnector)

variable (trigger : Trigger)

def newRun (now : Instant) (runId : String) : SheetImportRun where
  id := runId
  connectorId := connector.id
  status := .RUNNING
  trigger
  startedAt := now
  configurationVersion := some connector.version
  configurationSnapshot := some connector.snapshot

def startRun (now : Instant) (runId : String) : Outcome (SheetImportRun × Store) := do
  require ((S.runs.get runId).isNone) .database
  let run := newRun connector trigger now runId
  let S ← { S with runs := S.runs.set runId run }.updateConnector connector.id fun c =>
    { c with activeRunId := some runId }
  pure (run, S)

/-- Whether an active run can go on under the configuration there is. -/
def Resumable (previous : SheetImportRun) : Prop :=
  previous.configurationVersion = some connector.version ∧
    previous.configurationSnapshot.isSome ∧ previous.status = .RUNNING
deriving Decidable

def SheetImportRun.cancelled (run : SheetImportRun) (errorCode : String) (now : Instant) :
    SheetImportRun :=
  { run with status := .CANCELLED, errorCode := some errorCode, completedAt := some now }

/-- `execution`: the active run goes on, or is given up for a new one. An old or changed
configuration is never resumed under a different mapping. -/
def execution (now : Instant) (runId : String) : Outcome (SheetImportRun × Store) :=
  match connector.activeRunId with
  | none => startRun S connector trigger now runId
  | some id => do
    let previous ← demand (S.runs.get id) .database
    if Resumable connector previous then pure (previous, S)
    else do
      let S ← S.updateRun id fun run => run.cancelled "sheet_configuration_changed" now
      startRun S connector trigger now runId

def SheetImportConnector.granted (c : SheetImportConnector) (now : Instant) :
    SheetImportConnector :=
  { c with epoch := c.epoch + 1, leaseUntil := some (now + LEASE_MS) }

/-- `claim`, from its first write on. -/
def take (p : PendingClaim) (runId : String) : Outcome (Option SheetClaim × Store) :=
  match S.connectors.get p.candidate.id with
  | none => pure (none, S)
  | some c =>
    if Claimable p c then do
      let connector := c.granted p.now
      let trigger := if connector.manualRequested then .MANUAL else p.trigger
      let (run, S) ← execution { S with connectors := S.connectors.set p.candidate.id connector }
        connector trigger p.now runId
      let S ← S.updateConnector p.candidate.id fun c => { c with manualRequested := false }
      pure (some ⟨⟨connector.id, run.id, connector.epoch, connector.version⟩, run⟩, S)
    else pure (none, S)

/-! ### Leases -/

structure Fenced (S : Store) (lease : SheetLease) (clock : Instant) (run : SheetImportRun)
    (c : SheetImportConnector) : Prop where
  found : S.runs.get lease.runId = some run
  running : run.status = .RUNNING
  connector : S.connectors.get lease.connectorId = some c
  enabled : run.trigger = .MANUAL ∨ c.enabled = true
  epoch : c.epoch = lease.epoch
  version : c.version = lease.version
  active : c.activeRunId = some lease.runId
  unexpired : ∃ limit ∈ c.leaseUntil, clock < limit

/-- `sheet_lease_lost` -/
def leaseLost : Failure := .error "sheet_lease_lost"

variable (lease : SheetLease)

/-- `fence`: the row of the connector is locked until the transaction ends. -/
def fence (clock : Instant) : Outcome Unit := do
  let run ← demand (S.runs.get lease.runId) leaseLost
  require (run.status = .RUNNING) leaseLost
  let c ← demand (S.connectors.get lease.connectorId) leaseLost
  require ((run.trigger = .MANUAL ∨ c.enabled = true) ∧ c.epoch = lease.epoch ∧
      c.version = lease.version ∧ c.activeRunId = some lease.runId ∧
      ∃ limit ∈ c.leaseUntil, clock < limit)
    leaseLost

/-- **What a fence lets through.** -/
theorem fence_ok {S : Store} {lease : SheetLease} {clock : Instant} {u : Unit} :
    fence S lease clock = .ok u ↔ ∃ run c, Fenced S lease clock run c := by
  simp only [fence, ok_iff]
  constructor
  · rintro ⟨run, hrun, ⟨⟩, hrunning, c, hc, henabled, hepoch, hversion, hactive, hlease⟩
    exact ⟨run, c, hrun, hrunning, hc, henabled, hepoch, hversion, hactive, hlease⟩
  · rintro ⟨run, c, h⟩
    exact ⟨run, h.found, (), h.running, c, h.connector, h.enabled, h.epoch, h.version, h.active,
      h.unexpired⟩

/-- `transaction`: an action between two checks of the lease. -/
def transaction {α : Type} (begins ends : Instant) (action : Store → Outcome (α × Store)) :
    Outcome (α × Store) := do
  fence S lease begins
  let result ← action S
  fence result.2 lease ends
  pure result

def renew (begins now ends : Instant) : Outcome (Unit × Store) :=
  transaction S lease begins ends fun S => do
    let S ← S.updateConnector lease.connectorId fun c =>
      { c with leaseUntil := some (now + LEASE_MS) }
    pure ((), S)

/-- `/^[a-z_]{1,80}$/` -/
def isErrorCode (code : String) : Bool := Js.fullMatch (fun c => Js.isLower c || c == '_') 1 80 code

/-- `defer`, but for the release of the lease. -/
def defer (delayMs : ℤ) (errorCode : String) (begins now ends : Instant) :
    Outcome (Unit × Store) := do
  require (0 ≤ delayMs ∧ delayMs ≤ 900000 ∧ isErrorCode errorCode)
    (.error "sheet_retry_context_invalid")
  transaction S lease begins ends fun S => do
    let S ← S.updateRun lease.runId fun run =>
      { run with sourceFailures := run.sourceFailures + 1, errorCode := some errorCode }
    let S ← S.updateConnector lease.connectorId fun c => { c with nextRunAt := now + delayMs }
    pure ((), S)

/-- The release of a lease that was put off: a takeover in between is not released. -/
def release : Store :=
  match S.connectors.get lease.connectorId with
  | none => S
  | some c =>
    if c.epoch = lease.epoch ∧ c.version = lease.version ∧ c.activeRunId = some lease.runId then
      { S with connectors := S.connectors.set lease.connectorId { c with leaseUntil := none } }
    else S

def SheetImportRun.finished (run : SheetImportRun) (errorCode : Option String) (now : Instant) :
    SheetImportRun :=
  { run with
    status := if errorCode.isSome then .FAILED else .COMPLETED
    errorCode, completedAt := some now }

def finish (errorCode : Option String) (begins now : Instant) : Outcome Store := do
  require (∀ code ∈ errorCode, isErrorCode code) (.error "sheet_error_code_invalid")
  fence S lease begins
  let S ← S.updateRun lease.runId fun run => run.finished errorCode now
  S.updateConnector lease.connectorId fun c =>
    { c with activeRunId := none, leaseUntil := none, nextRunAt := now + c.intervalMinutes * 60000 }

/-- What the transaction of a row does: nothing, when the run has a receipt of the row. -/
def processRow (runId rowKey : String) (work : Outcome ReceiptOutcome) : Outcome (Unit × Store) :=
  match S.receipts.get (runId, rowKey) with
  | some _ => pure ((), S)
  | none => do
    let outcome ← work
    pure ((), { S with receipts := S.receipts.set (runId, rowKey) outcome })

/-- `authorizedTransaction`, of a row. -/
def rowTransaction (rowKey : String) (authority : Outcome Unit) (work : Outcome ReceiptOutcome)
    (begins ends : Instant) : Outcome (Unit × Store) :=
  transaction S lease begins ends fun S => do
    authority
    processRow S lease.runId rowKey work

end CrmYnov.SheetImport
