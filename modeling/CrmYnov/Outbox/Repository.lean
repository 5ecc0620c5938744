import CrmYnov.Outbox.Event
import Mathlib.Algebra.Order.Ring.Int
import Mathlib.Data.List.Sort

/-!
# The transactional outbox: leases

A worker *claims* events: it reads a page of those that are due, and takes each
of them with an update guarded by what it read – a compare-and-set on the
status, the counter of attempts and the instant of the previous lease. It then
reports each event as delivered or as failed, and both reports are updates
guarded by the worker's own name.

The statements are written here one by one, and the operations of the
repository are made of them: `claim` is its loop run without interruption, and
the loop's body is what `CrmYnov.Outbox.Workers` interleaves with the statements
of other workers.
-/

namespace CrmYnov.Outbox

open Js Checked

/-! ### The page of candidates -/

/-- The event can be taken now: it is waiting and its time has come, or its
lease has expired. -/
def Due (now staleBefore : Instant) (e : OutboxEvent) : Prop :=
  ((e.status = .PENDING ∨ e.status = .FAILED) ∧ e.availableAt ≤ now) ∨
    (e.status = .PROCESSING ∧ e.lockedAt.any fun t => t < staleBefore)
deriving Decidable

/-- The order candidates are read in: by `availableAt`, `createdAt` and `id`. -/
def Precedes (e e' : OutboxEvent) : Prop :=
  e.availableAt < e'.availableAt ∨ (e.availableAt = e'.availableAt ∧
    (e.createdAt < e'.createdAt ∨ (e.createdAt = e'.createdAt ∧ e.id < e'.id)))
deriving Decidable

def dueInOrder (now staleBefore : Instant) (s : Store) : List OutboxEvent :=
  (s.findMany (Due now staleBefore)).insertionSort fun e e' => ¬Precedes e' e

/-- The page a claim works on: twice as many events as it may take. -/
def candidates (limit : ℕ) (now staleBefore : Instant) (s : Store) : List OutboxEvent :=
  (dueInOrder now staleBefore s).take (limit * 2)

theorem mem_dueInOrder {now staleBefore : Instant} {s : Store} {e : OutboxEvent} :
    e ∈ dueInOrder now staleBefore s ↔ e ∈ s.rows ∧ Due now staleBefore e := by
  rw [dueInOrder, List.mem_insertionSort, Table.mem_findMany]

theorem mem_rows_of_mem_candidates {limit : ℕ} {now staleBefore : Instant} {s : Store}
    {e : OutboxEvent} (h : e ∈ candidates limit now staleBefore s) :
    e ∈ s.rows ∧ Due now staleBefore e :=
  mem_dueInOrder.mp (List.mem_of_mem_take h)

theorem Due.not_delivered {now staleBefore : Instant} {e : OutboxEvent}
    (h : Due now staleBefore e) : e.status ≠ .DELIVERED := by
  rcases h with ⟨h | h, -⟩ | ⟨h, -⟩ <;> rw [h] <;> decide

/-! ### Taking a lease -/

/-- The event is still as the candidate was read. -/
def Unchanged (item e : OutboxEvent) : Prop :=
  e.id = item.id ∧ e.status = item.status ∧ e.attempts = item.attempts ∧
    (item.lockedAt.isSome → e.lockedAt = item.lockedAt)
deriving Decidable

variable (workerId : String)

variable (now : Instant) (e : OutboxEvent)

/-- The event under a worker's lease: one more attempt. -/
def OutboxEvent.lease : OutboxEvent :=
  { e with
    status := .PROCESSING, attempts := e.attempts + 1, lockedAt := some now,
    lockedBy := some workerId, lastErrorCode := none }

theorem OutboxEvent.keys_lease : (e.lease workerId now).keys = e.keys := rfl

/-- The guarded update that takes a candidate. -/
def takeLease (item : OutboxEvent) (s : Store) : Store :=
  s.updateMany (Unchanged item) (OutboxEvent.lease workerId now)
    (OutboxEvent.keys_lease workerId now)

/-- The guarded update takes the candidate: its row is as it was read. -/
def Taken (item : OutboxEvent) (s : Store) : Prop := s.count (Unchanged item) = 1
deriving Decidable

theorem taken_iff {item : OutboxEvent} {s : Store} :
    Taken item s ↔ ∃ e ∈ s.rows, Unchanged item e := by
  constructor
  · intro h
    refine Table.count_pos.mp ?_
    rw [h]
    exact Nat.one_pos
  · rintro ⟨e, he, hu⟩
    exact Table.count_eq_one (find_eq_some.mpr ⟨he, hu.1⟩) hu fun x hx => mem_keys_id.mpr hx.1

/-- A claim that has been opened: what is left of its page, and what it has
taken. -/
structure Claim where
  workerId : String
  limit : ℕ
  now : Instant
  /-- The candidates that are still to be examined. -/
  pending : List OutboxEvent
  /-- The event just taken, whose row is to be read again. -/
  taken : Option String := none
  /-- The rows to return. -/
  claimed : List OutboxEvent := []

/-- `/^[A-Za-z0-9._-]{3,80}$/` -/
def isWorkerId : Bool :=
  fullMatch (fun c => isAlnum c || c == '.' || c == '_' || c == '-') 3 80 workerId

/-- The beginning of `LocalOutboxRepository.claim`: the page is read. -/
def openClaim (limit : ℤ) (now leaseMs : Instant) (s : Store) : Outcome Claim := do
  require (isWorkerId workerId ∧ 1 ≤ limit ∧ limit ≤ 100) (.error "outbox_claim_invalid")
  pure { workerId, limit := limit.toNat, now, pending := candidates limit.toNat now (now - leaseMs) s }

/-- The loop of `LocalOutboxRepository.claim`. -/
def claimLoop (workerId : String) (limit : ℕ) (now : Instant) :
    List OutboxEvent → List OutboxEvent → Store → List OutboxEvent × Store
  | [], claimed, s => (claimed, s)
  | item :: rest, claimed, s =>
    if limit ≤ claimed.length then (claimed, s)
    else if item.maxAttempts ≤ item.attempts then claimLoop workerId limit now rest claimed s
    else
      let s' := takeLease workerId now item s
      if Taken item s then
        claimLoop workerId limit now rest (claimed ++ (find s' item.id).toList) s'
      else claimLoop workerId limit now rest claimed s'

/-- `LocalOutboxRepository.claim`, with no other statement in between. -/
def claim (limit : ℤ) (now leaseMs : Instant) (s : Store) : Outcome (List OutboxEvent × Store) := do
  let c ← openClaim workerId limit now leaseMs s
  pure (claimLoop c.workerId c.limit c.now c.pending c.claimed s)

/-! ### One statement of a claim -/

/-- A worker took an event for an attempt. -/
structure Grant where
  event : String
  attempt : ℕ
  worker : String
deriving DecidableEq

/-- The next statement of a claim that has been opened: read again the row just
taken, or examine the next candidate. -/
def Claim.advance (c : Claim) (s : Store) : Option Grant × Claim × Store :=
  match c.taken with
  | some id => (none, { c with taken := none, claimed := c.claimed ++ (find s id).toList }, s)
  | none =>
    match c.pending with
    | [] => (none, c, s)
    | item :: rest =>
      if c.limit ≤ c.claimed.length then (none, { c with pending := [] }, s)
      else if item.maxAttempts ≤ item.attempts then (none, { c with pending := rest }, s)
      else
        let s' := takeLease c.workerId c.now item s
        if Taken item s then
          (some ⟨item.id, item.attempts + 1, c.workerId⟩,
            { c with pending := rest, taken := some item.id }, s')
        else (none, { c with pending := rest }, s')

/-! ### Reporting -/

def Held (id workerId : String) (e : OutboxEvent) : Prop :=
  e.id = id ∧ e.status = .PROCESSING ∧ e.lockedBy = some workerId
deriving Decidable

def OutboxEvent.deliver : OutboxEvent :=
  { e with
    status := .DELIVERED, deliveredAt := some now, lockedAt := none, lockedBy := none,
    lastErrorCode := none }

theorem OutboxEvent.keys_deliver : (e.deliver now).keys = e.keys := rfl

/-- `LocalOutboxRepository.delivered` -/
def delivered (id workerId : String) (now : Instant) (s : Store) : Bool × Store :=
  (s.count (Held id workerId) = 1,
    s.updateMany (Held id workerId) (OutboxEvent.deliver now) (OutboxEvent.keys_deliver now))

/-- How long a failed event waits, in seconds. -/
def backoffSeconds (attempts : ℕ) : ℕ := min 300 (2 ^ min attempts 8)

/-- The event after a failed attempt, as the worker read it before: it waits for
another attempt, or has none left. -/
def OutboxEvent.fail (current : OutboxEvent) (errorCode : String) (now : Instant)
    (e : OutboxEvent) : OutboxEvent :=
  { e with
    status := if current.maxAttempts ≤ current.attempts then .FAILED else .PENDING,
    availableAt := now + backoffSeconds current.attempts * 1000,
    lockedAt := none, lockedBy := none, lastErrorCode := some errorCode }

theorem OutboxEvent.keys_fail (current : OutboxEvent) (errorCode : String) (now : Instant)
    (e : OutboxEvent) : (current.fail errorCode now e).keys = e.keys := rfl

/-- A report of failure that has been opened: the row as it was read. -/
structure FailureReport where
  (workerId errorCode : String)
  now : Instant
  current : OutboxEvent

/-- `/^[a-z][a-z0-9_]{2,79}$/` -/
def isErrorCode (errorCode : String) : Bool :=
  headMatch isLower (fun c => isLower c || isDigit c || c == '_') 2 79 errorCode

/-- The beginning of `LocalOutboxRepository.failed`: the row is read, and the
report goes no further when the worker does not hold it. -/
def openFailure (id workerId errorCode : String) (now : Instant) (s : Store) :
    Outcome (Option FailureReport) := do
  require (isErrorCode errorCode) (.error "outbox_error_code_invalid")
  match find s id with
  | none => pure none
  | some current =>
    if current.status ≠ .PROCESSING ∨ current.lockedBy ≠ some workerId then pure none
    else pure (some { workerId, errorCode, now, current })

def FailureReport.Stands (r : FailureReport) (e : OutboxEvent) : Prop :=
  Held r.current.id r.workerId e ∧ e.attempts = r.current.attempts
deriving Decidable

/-- The end of `LocalOutboxRepository.failed`: the guarded update. -/
def FailureReport.settle (r : FailureReport) (s : Store) : Bool × Store :=
  (s.count r.Stands = 1,
    s.updateMany r.Stands (r.current.fail r.errorCode r.now)
      (OutboxEvent.keys_fail r.current r.errorCode r.now))

end CrmYnov.Outbox
