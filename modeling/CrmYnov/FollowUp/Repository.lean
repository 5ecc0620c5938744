import CrmYnov.Js.Date
import CrmYnov.Leads.Repository
import CrmYnov.Platform.Notifications

/-!
# The persistence of follow-ups

Planning a follow-up and deciding one are each one transaction. It answers a known
key from its receipt; otherwise it puts its conditions on the rows as they are –
no open follow-up on the lead, the follow-up open and at the version that was read,
the lead at its version – and writes the follow-up, the next action of the lead, an
activity, an audit event and a receipt.

Closing a lead cancels what is open on it, inside the transaction of the closure.
-/

namespace CrmYnov.FollowUp

open Checked Leads

structure FollowUpMutationInput where
  (idempotencyKey fingerprint : String)
  principal : Principal
  correlationId : String
  expectedLeadVersion : ℕ

/-- What the world gives to a mutation: its clock and the identifiers it draws. -/
structure Draw where
  now : Instant
  /-- The identifier of a new follow-up. -/
  (rowId activityId : String)
  /-- What stands for the key of a request without one. -/
  keyId : String

/-- `replay` -/
def replayFollowUp (receipt : LeadFollowUpMutationReceipt) (fingerprint : String) :
    Outcome FollowUpRecord := do
  require (receipt.fingerprint = fingerprint) (.conflict "follow_up_idempotency_conflict")
  pure receipt.result

def findReplay (db : Database) (idempotencyKey fingerprint : String) :
    Outcome (Option FollowUpRecord) :=
  match db.leadFollowUpMutationReceipts.findUnique idempotencyKey with
  | some receipt => (replayFollowUp receipt fingerprint).map some
  | none => pure none

/-- `mapConcurrency`: what the database refuses is a conflict. -/
def mapConcurrency {α : Type} : Outcome α → Outcome α
  | .error .database => .error (.conflict "follow_up_concurrent")
  | outcome => outcome

theorem mapConcurrency_ok_iff {α : Type} {x : Outcome α} {a : α} :
    mapConcurrency x = .ok a ↔ x = .ok a := by
  rcases x with e | b
  · cases e <;> simp [mapConcurrency]
  · simp [mapConcurrency]

/-! ### What both mutations write -/

def LeadAt (leadId : String) (version : ℕ) (l : LeadRow) : Prop :=
  l.id = leadId ∧ l.version = version
deriving Decidable

def setNextAction (nextActionAt : Option Instant) (now : Instant) (l : LeadRow) : LeadRow :=
  { l with nextActionAt, lastActivityAt := some now, version := l.version + 1 }

theorem keys_setNextAction (nextActionAt : Option Instant) (now : Instant) (l : LeadRow) :
    (setNextAction nextActionAt now l).keys = l.keys := rfl

/-- The next action a follow-up leaves on its lead, at the version of the lead that
was read. -/
def updateLead (db : Database) (leadId : String) (version : ℕ) (nextActionAt : Option Instant)
    (now : Instant) : Outcome Database := do
  require (db.leads.count (LeadAt leadId version) = 1) (.conflict "lead_concurrent_mutation")
  pure { db with
    leads := db.leads.updateMany (LeadAt leadId version) (setNextAction nextActionAt now)
      (keys_setNextAction nextActionAt now) }

def followUpActivity (leadId eventType reason : String) (nextActionAt : Option Instant)
    (mutation : FollowUpMutationInput) (d : Draw) : LeadActivityRow :=
  activityData {
    id := d.activityId, leadId, type := .COMMENT, result := eventType, note := some reason
    authorId := mutation.principal.userId, nextActionAt, correlationId := mutation.correlationId
    occurredAt := d.now } ("follow-up-activity:" ++ mutation.idempotencyKey)

variable (rt : Runtime)

variable (db : Database)

/-- `audit` -/
def auditFollowUp (record : FollowUpRecord) (mutation : FollowUpMutationInput) (eventType : String)
    (leadVersion : ℕ) : Outcome Database := do
  let lead ← demand (db.lead record.leadId) .database
  db.audit {
    eventType, campusId := lead.campus, resourceId := record.leadId
    actorId := mutation.principal.userId, actorRoles := mutation.principal.roles, sessionId := none
    correlationId := mutation.correlationId
    idempotencyKey := "follow-up-audit:" ++ rt.sha256 mutation.idempotencyKey
    before := .null
    after := .obj [("followUpId", .str record.id), ("state", .str record.state.text),
      ("dueAt", .str (Js.isoString record.dueAt)), ("version", .nat record.version),
      ("leadVersion", .nat leadVersion)] }

def addFollowUpReceipt (result : FollowUpRecord) (mutation : FollowUpMutationInput) :
    Outcome Database := do
  let leadFollowUpMutationReceipts ← insert db.leadFollowUpMutationReceipts {
    idempotencyKey := mutation.idempotencyKey, followUpId := result.id
    fingerprint := mutation.fingerprint, result }
  pure { db with leadFollowUpMutationReceipts }

/-- The activity, the audit event and the receipt of a mutation. -/
def recordFollowUp (activity : LeadActivityRow) (result : FollowUpRecord) (eventType : String)
    (mutation : FollowUpMutationInput) : Outcome Database := do
  let db ← db.addActivity activity
  let db ← auditFollowUp rt db result mutation eventType (mutation.expectedLeadVersion + 1)
  addFollowUpReceipt db result mutation

/-! ### Planning -/

def Pending (leadId : String) (f : LeadFollowUpRow) : Prop := f.leadId = leadId ∧ f.state.Open
deriving Decidable

/-- The columns of an identifier keep it as the database reads it. -/
def storedId (text : String) : Outcome String := demand (readUuid text) (.error "P2023")

def scheduleNextActionInTransaction (record : FollowUpRecord) (mutation : FollowUpMutationInput)
    (d : Draw) : Outcome (FollowUpRecord × Database) :=
  match db.leadFollowUpMutationReceipts.findUnique mutation.idempotencyKey with
  | some receipt => do
    let result ← replayFollowUp receipt mutation.fingerprint
    pure (result, db)
  | none => do
    require (db.leadFollowUps.findFirst (Pending record.leadId) = none)
      (.conflict "follow_up_pending")
    let db ← updateLead db record.leadId mutation.expectedLeadVersion (some record.dueAt) d.now
    let id ← storedId record.id
    let ownerId ← storedId record.ownerId
    let stored : LeadFollowUpRow := {
      id, leadId := record.leadId, ownerId, dueAt := record.dueAt, state := record.state
      reason := record.reason, version := record.version
      idempotencyKey := mutation.idempotencyKey }
    let leadFollowUps ← insert db.leadFollowUps stored
    let activity := followUpActivity record.leadId "FOLLOW_UP_SCHEDULED" record.reason
      (some record.dueAt) mutation d
    let db ← recordFollowUp rt { db with leadFollowUps } activity stored.record
      "FOLLOW_UP_SCHEDULED" mutation
    pure (stored.record, db)

def schedule (record : FollowUpRecord) (mutation : FollowUpMutationInput) (d : Draw) :
    Outcome (FollowUpRecord × Database) := do
  requireAuditActor mutation.principal
  mapConcurrency (scheduleNextActionInTransaction rt db record mutation d)

/-! ### Deciding -/

def Undecided (id : String) (version : ℕ) (f : LeadFollowUpRow) : Prop :=
  f.id = id ∧ f.version = version ∧ f.state.Open
deriving Decidable

def settle (next : FollowUpRecord) (f : LeadFollowUpRow) : LeadFollowUpRow :=
  { f with state := next.state, dueAt := next.dueAt, reason := next.reason
           version := f.version + 1 }

theorem keys_settle (next : FollowUpRecord) (f : LeadFollowUpRow) :
    (settle next f).keys = f.keys := rfl

/-- The next action a decision leaves: the date of a follow-up that stays open. -/
def nextActionOf (next : FollowUpRecord) : Option Instant :=
  if next.state.Open then some next.dueAt else none

/-- The transaction of `decide`, for a key without a receipt. -/
def decideInTransaction (current next : FollowUpRecord) (eventType : String)
    (mutation : FollowUpMutationInput) (d : Draw) : Outcome (FollowUpRecord × Database) := do
  require (db.leadFollowUps.count (Undecided current.id current.version) = 1)
    (.conflict "follow_up_concurrent")
  let db := { db with
    leadFollowUps := db.leadFollowUps.updateMany (Undecided current.id current.version)
      (settle next) (keys_settle next) }
  let db ← updateLead db current.leadId mutation.expectedLeadVersion (nextActionOf next) d.now
  let row ← demand (db.leadFollowUps.findUnique (.id current.id)) .database
  let activity := followUpActivity current.leadId eventType next.reason (nextActionOf next) mutation d
  let db ← recordFollowUp rt db activity row.record eventType mutation
  pure (row.record, db)

def decide (current next : FollowUpRecord) (eventType : String) (mutation : FollowUpMutationInput)
    (d : Draw) : Outcome (FollowUpRecord × Database) := do
  requireAuditActor mutation.principal
  mapConcurrency <|
    match db.leadFollowUpMutationReceipts.findUnique mutation.idempotencyKey with
    | some receipt => do
      let result ← replayFollowUp receipt mutation.fingerprint
      pure (result, db)
    | none => decideInTransaction rt db current next eventType mutation d

end CrmYnov.FollowUp
