import CrmYnov.Leads.Repository

/-!
# Asking for another owner, and deciding

A request and a decision are each one transaction. A request records who owned
the lead; a decision is made by someone else, while the lead still has that
owner, and an approval moves the lead, and the scheduled follow-ups of its
previous owner when that was asked for.

Who may act and who may own a lead is decided by the permissions and the
assignment rules of the campus. Their answers are part of a step
(`CrmYnov.Assignment.Authority`): what is proved of the requests holds whatever
the answers are.
-/

namespace CrmYnov.Assignment

open Checked Leads FollowUp Js

/-- The answers of the permissions and of the assignment rules, on the database
of a transaction. -/
structure Authority where
  /-- `authorizedLead`: the current account of the principal, when it may act. -/
  access : Database → Outcome Principal
  /-- `assertReassignmentTarget` -/
  target : Database → Outcome Unit
  /-- `reassignmentApprovers` -/
  approvers : Database → Outcome (List String)

structure CreateReassignmentInput where
  (targetUserId reason : String)
  moveOpenTasks : Bool
  idempotencyKey : String

structure DecideReassignmentInput where
  approved : Bool
  reason : String
  expectedVersion : Option ℤ := none
  idempotencyKey : Option String := none

/-- `/^[a-zA-Z0-9:_-]{8,128}$/` -/
def isIdempotencyKey (key : String) : Bool :=
  fullMatch (fun c => isAlnum c || c == ':' || c == '_' || c == '-') 8 128 key

def isReason (reason : String) : Bool :=
  4 ≤ length (trim reason) && length (trim reason) ≤ 500

def validateRequest (input : CreateReassignmentInput) : Outcome Unit :=
  require (isIdempotencyKey input.idempotencyKey ∧ isReason input.reason ∧
      References.looksLikeId input.targetUserId)
    (.badRequest "reassignment_request_invalid")

def validateDecision (input : DecideReassignmentInput) : Outcome Unit :=
  require (isReason input.reason ∧ (input.expectedVersion.all fun v => 1 ≤ v) ∧
      input.idempotencyKey.all isIdempotencyKey)
    (.badRequest "reassignment_decision_invalid")

def ReassignmentStatus.text : ReassignmentStatus → String
  | PENDING => "PENDING"
  | APPROVED => "APPROVED"
  | REJECTED => "REJECTED"

def request? (db : Database) (id : String) : Option ReassignmentRequestRow :=
  db.reassignmentRequests.findUnique (.id id)

variable (rt : Runtime)

variable (db : Database)

def assignmentNotification (recipientId leadId type key suffix : String) : Outcome Database := do
  let href := "/leads/" ++ leadId ++ suffix
  let internalNotifications ← insert db.internalNotifications {
    recipientId, type, resourceId := leadId, href
    deduplicationKey := "assignment:" ++ rt.sha256 (key ++ ":" ++ recipientId)
    fingerprint := notificationFingerprint rt recipientId type "NORMAL" "LEAD" leadId href }
  pure { db with internalNotifications }

def notifyAll (db : Database) (leadId type key : String) : List String → Outcome Database
  | [] => pure db
  | recipientId :: recipients => do
    let db ← assignmentNotification rt db recipientId leadId type key "/collaborators"
    notifyAll db leadId type key recipients

/-! ### The effect on the lead -/

inductive ReassignmentOperation
  | REQUEST | DECISION
deriving DecidableEq

def ReassignmentOperation.text : ReassignmentOperation → String
  | REQUEST => "REASSIGNMENT_REQUEST"
  | DECISION => "REASSIGNMENT_DECISION"

variable (operation : ReassignmentOperation)

def ReassignmentOperation.activityType (approved : Bool) : ActivityType :=
  match operation with
  | REQUEST => .REASSIGNMENT_REQUESTED
  | DECISION => if approved then .ASSIGNMENT_CHANGED else .REASSIGNMENT_REJECTED

def ReassignmentOperation.eventType (approved : Bool) : String :=
  match operation with
  | REQUEST => "LEAD_REASSIGNMENT_REQUESTED"
  | DECISION => if approved then "LEAD_REASSIGNMENT_APPROVED" else "LEAD_REASSIGNMENT_REJECTED"

/-- The lead is as the transaction has read it; a decision also compares its
owner with the one of the request. -/
def StillOwned (lead : LeadRow) (request : ReassignmentRequestRow)
    (operation : ReassignmentOperation) (row : LeadRow) : Prop :=
  AtVersion lead row ∧
    (operation = .DECISION → row.assignedToId = some request.currentOwnerId)
deriving Decidable

/-- The lead after an operation: with its new owner when the request is
approved. -/
def moveLead (request : ReassignmentRequestRow) (now : Instant) (row : LeadRow) : LeadRow :=
  { row with
    assignedToId :=
      if request.status = .APPROVED then some request.targetUserId else row.assignedToId
    assignmentMode :=
      if request.status = .APPROVED then some "REASSIGNMENT" else row.assignmentMode
    version := row.version + 1, lastActivityAt := some now }

theorem keys_moveLead (request : ReassignmentRequestRow) (now : Instant) (row : LeadRow) :
    (moveLead request now row).keys = row.keys := rfl

def reassignmentActivity (request : ReassignmentRequestRow) (operation : ReassignmentOperation)
    (lead : LeadRow) (principal : Principal) (correlationId key : String) (o : Occasion) :
    LeadActivityRow where
  id := o.activityId
  leadId := lead.id
  type := operation.activityType (request.status = .APPROVED)
  result := if request.status = .APPROVED
    then request.currentOwnerId ++ "->" ++ request.targetUserId else request.id
  note := if operation = .REQUEST then some request.reason else request.decisionReason
  authorId := principal.userId
  nextActionAt := none
  correlationId := correlationId
  idempotencyKey := some key
  originalEventId := none
  correctionOperation := none
  correctionReasonCode := none
  previousSnapshot := none
  replacementSnapshot := none
  occurredAt := o.now

def reassignmentReceipt (request : ReassignmentRequestRow) (operation : ReassignmentOperation)
    (leadId key fingerprint : String) (transferred : Option ℕ) : LeadMutationReceipt where
  leadId := leadId
  idempotencyKey := key
  fingerprint := fingerprint
  operation := operation.text
  result := .reassignment request.id transferred

/-- What identifies an operation: its key, the fingerprint of the request it was
made for, its author and its correlation. -/
structure Intent where
  (key fingerprint : String)
  principal : Principal
  correlationId : String

def appendReassignmentEffect (lead : LeadRow) (request : ReassignmentRequestRow)
    (operation : ReassignmentOperation) (intent : Intent) (transferred : Option ℕ) (o : Occasion) :
    Outcome Database := do
  let campus ← References.canonicalCampus rt db.references lead.campus
  let approved : Bool := request.status = .APPROVED
  require (db.leads.count (StillOwned lead request operation) = 1)
    (.conflict "reassignment_owner_changed")
  let db := { db with
    leads := db.leads.updateMany (StillOwned lead request operation) (moveLead request o.now)
      (keys_moveLead request o.now) }
  let db ← db.addActivity (reassignmentActivity request operation lead intent.principal
    intent.correlationId intent.key o)
  let db ← db.audit {
    eventType := operation.eventType approved, resourceId := lead.id, campusId := campus.id
    actorId := intent.principal.userId, actorRoles := intent.principal.roles
    sessionId := some intent.principal.sessionId, correlationId := intent.correlationId
    idempotencyKey := "reassignment-audit:" ++ rt.sha256 intent.key
    before := .null
    after := .obj [("requestId", .str request.id), ("status", .str request.status.text),
      ("version", .nat request.version), ("moveOpenTasks", .bool request.moveOpenTasks),
      ("transferredScheduledFollowUps", .nat (transferred.getD 0)),
      ("retainedDueFollowUps", .bool true)] }
  let db ← db.addReceipt (reassignmentReceipt request operation lead.id intent.key
    intent.fingerprint transferred)
  let event : Outbox.OutboxInput := {
    topic := "LEAD.MUTATED", aggregateType := "LEAD", aggregateId := lead.id
    idempotencyKey := "outbox:" ++ intent.key
    payload := .obj [("operation", .str operation.text), ("version", .nat (lead.version + 1)),
      ("status", .str lead.status.text),
      ("activityTypes", .arr [.str (operation.activityType approved).text])] }
  let localOutboxEvents ← insert db.localOutboxEvents
    (event.toEvent rt.jsonb o.outboxId o.storedAt)
  let db := { db with localOutboxEvents }
  let recipients := if operation = .DECISION
    then (request.requestedBy :: if approved then [request.targetUserId] else []).dedup else []
  notifyAll rt db lead.id "REASSIGNMENT_DECISION" intent.key recipients

/-! ### The follow-ups of the previous owner -/

def Transferable (request : ReassignmentRequestRow) (f : LeadFollowUpRow) : Prop :=
  f.leadId = request.leadId ∧ f.ownerId = request.currentOwnerId ∧ f.state = .SCHEDULED
deriving Decidable

def moveFollowUp (request : ReassignmentRequestRow) (f : LeadFollowUpRow) : LeadFollowUpRow :=
  { f with ownerId := request.targetUserId, version := f.version + 1 }

theorem keys_moveFollowUp (request : ReassignmentRequestRow) (f : LeadFollowUpRow) :
    (moveFollowUp request f).keys = f.keys := rfl

def FollowUpUnchanged (request : ReassignmentRequestRow) (row f : LeadFollowUpRow) : Prop :=
  f.id = row.id ∧ f.ownerId = request.currentOwnerId ∧ f.state = .SCHEDULED ∧
    f.version = row.version
deriving Decidable

/-- The loop of `transferScheduledFollowUps`. -/
def transferRows (request : ReassignmentRequestRow) (campusId : String) (intent : Intent)
    (db : Database) : List LeadFollowUpRow → Outcome Database
  | [] => pure db
  | row :: rows => do
    require (db.leadFollowUps.count (FollowUpUnchanged request row) = 1)
      (.conflict "reassignment_follow_up_concurrent")
    let db := { db with
      leadFollowUps := db.leadFollowUps.updateMany (FollowUpUnchanged request row)
        (moveFollowUp request) (keys_moveFollowUp request) }
    let db ← db.audit {
      eventType := "FOLLOW_UP_REASSIGNED", resourceId := request.leadId, campusId
      actorId := intent.principal.userId, actorRoles := intent.principal.roles
      sessionId := some intent.principal.sessionId, correlationId := intent.correlationId
      idempotencyKey := "reassignment-follow-up:" ++ request.id ++ ":" ++ row.id
      before := .obj [("ownerId", .str row.ownerId), ("version", .nat row.version)]
      after := .obj [("ownerId", .str request.targetUserId), ("version", .nat (row.version + 1)),
        ("state", .str "SCHEDULED"), ("requestId", .str request.id)] }
    transferRows request campusId intent db rows

def transferScheduledFollowUps (request : ReassignmentRequestRow) (intent : Intent) :
    Outcome (ℕ × Database) :=
  if request.moveOpenTasks then do
    let lead ← demand (db.lead request.leadId) .database
    let campus ← References.canonicalCampus rt db.references lead.campus
    let scheduled := (db.leadFollowUps.findMany (Transferable request)).insertionSort
      fun f f' => ¬f'.id < f.id
    let db ← transferRows request campus.id intent db scheduled
    pure (scheduled.length, db)
  else pure (0, db)

/-! ### The two requests -/

/-- What the world gives to a step: an identifier for a request, and what any
mutation of a lead is given. -/
structure Draw extends Occasion where
  requestId : String

def assertReassignmentIntent (row : ReassignmentRequestRow) (leadId : String)
    (input : CreateReassignmentInput) (actorId : String) : Outcome Unit :=
  require (row.leadId = leadId ∧ row.requestedBy = actorId ∧
      row.targetUserId = input.targetUserId ∧ row.reason = trim input.reason ∧
      row.moveOpenTasks = input.moveOpenTasks)
    (.conflict "reassignment_idempotency_conflict")

def newRequest (leadId currentOwnerId : String) (input : CreateReassignmentInput)
    (current : Principal) (d : Draw) : ReassignmentRequestRow where
  id := d.requestId
  leadId := leadId
  currentOwnerId := currentOwnerId
  targetUserId := input.targetUserId
  reason := trim input.reason
  moveOpenTasks := input.moveOpenTasks
  requestedBy := current.userId
  requestedAt := d.storedAt
  idempotencyKey := some input.idempotencyKey

variable (leadId : String)

def createRequest (input : CreateReassignmentInput) (current : Principal) (correlationId : String)
    (auth : Authority) (d : Draw) : Outcome (ReassignmentRequestRow × Database) := do
  let lead ← demand (db.lead leadId) .database
  let owner ← demand lead.assignedToId (.conflict "reassignment_current_owner_missing")
  require (current.hasSome Principal.managers ∨ owner = current.userId)
    (.forbidden "reassignment_owner_required")
  require (owner ≠ input.targetUserId) (.badRequest "reassignment_target_unchanged")
  auth.target db
  require
    ((db.reassignmentRequests.findFirst fun r => r.leadId = leadId ∧ r.status = .PENDING) = none)
    (.conflict "reassignment_pending_exists")
  let row := newRequest leadId owner input current d
  let reassignmentRequests ← insert db.reassignmentRequests row
  let key := "reassignment-request:" ++ rt.sha256 input.idempotencyKey
  let fingerprint := fingerprint rt (.obj [("actorId", .str current.userId),
    ("leadId", .str leadId), ("target", .str input.targetUserId), ("reason", .str row.reason),
    ("moveOpenTasks", .bool input.moveOpenTasks)])
  let db ← appendReassignmentEffect rt { db with reassignmentRequests } lead row .REQUEST
    ⟨key, fingerprint, current, correlationId⟩ none d.toOccasion
  let approvers ← auth.approvers db
  let db ← notifyAll rt db leadId "ASSIGNMENT" key approvers
  pure (row, db)

def requestForApi (input : CreateReassignmentInput) (correlationId : String) (auth : Authority)
    (d : Draw) : Outcome (ReassignmentRequestRow × Database) := do
  validateRequest input
  let current ← auth.access db
  match db.reassignmentRequests.findUnique (.idempotencyKey input.idempotencyKey) with
  | some row =>
    assertReassignmentIntent row leadId input current.userId
    pure (row, db)
  | none => createRequest rt db leadId input current correlationId auth d

def decisionFingerprint (id : String) (input : DecideReassignmentInput) (actorId : String) :
    String :=
  fingerprint rt (.obj [("id", .str id), ("actorId", .str actorId),
    ("approved", .bool input.approved), ("reason", .str (trim input.reason)),
    ("expectedVersion", .int (input.expectedVersion.getD 1)),
    ("idempotencyKey", (input.idempotencyKey.map Json.str).getD .null)])

def decisionKey (requestId : String) : String := "reassignment-decision:" ++ requestId

/-- The request can still be decided as it was read. -/
def Undecided (row r : ReassignmentRequestRow) : Prop :=
  r.id = row.id ∧ r.status = .PENDING ∧ r.version = row.version
deriving Decidable

def decideRow (input : DecideReassignmentInput) (decidedBy : String) (now : Instant)
    (r : ReassignmentRequestRow) : ReassignmentRequestRow :=
  { r with
    status := if input.approved then .APPROVED else .REJECTED
    decidedBy := some decidedBy, decidedAt := some now
    decisionReason := some (trim input.reason), version := r.version + 1 }

theorem keys_decideRow (input : DecideReassignmentInput) (decidedBy : String) (now : Instant)
    (r : ReassignmentRequestRow) : (decideRow input decidedBy now r).keys = r.keys := rfl

/-- `assertReassignmentTarget`, for an approval. -/
def checkTarget (auth : Authority) (input : DecideReassignmentInput) (db : Database) :
    Outcome Unit :=
  if input.approved then auth.target db else pure ()

/-- The follow-ups an approval moves; a rejection moves none. -/
def transferOnApproval (input : DecideReassignmentInput) (record : ReassignmentRequestRow)
    (intent : Intent) : Outcome (ℕ × Database) :=
  if input.approved then transferScheduledFollowUps rt db record intent else pure (0, db)

def applyDecision (row : ReassignmentRequestRow) (input : DecideReassignmentInput) (intent : Intent)
    (auth : Authority) (d : Draw) : Outcome (ReassignmentRequestRow × Database) := do
  require (row.status = .PENDING) (.conflict "reassignment_already_decided")
  require ((row.version : ℤ) = input.expectedVersion.getD 1)
    (.conflict "reassignment_version_conflict")
  let lead ← demand (db.lead row.leadId) .database
  require (lead.assignedToId = some row.currentOwnerId) (.conflict "reassignment_owner_changed")
  checkTarget auth input db
  require (db.reassignmentRequests.count (Undecided row) = 1)
    (.conflict "reassignment_concurrent_decision")
  let decide := decideRow input intent.principal.userId d.now
  let db := { db with
    reassignmentRequests := db.reassignmentRequests.updateMany (Undecided row) decide
      (keys_decideRow input intent.principal.userId d.now) }
  let record ← demand (request? db row.id) .database
  let (transferred, db) ← transferOnApproval rt db input record intent
  let db ← appendReassignmentEffect rt db lead record .DECISION intent (some transferred)
    d.toOccasion
  pure (record, db)

def decideForApi (requestId : String) (input : DecideReassignmentInput) (correlationId : String)
    (auth : Authority) (d : Draw) : Outcome (ReassignmentRequestRow × Database) := do
  validateDecision input
  let _ ← demand (request? db requestId) (.notFound "reassignment_request_not_found")
  let current ← auth.access db
  require (current.hasSome Principal.managers) (.forbidden "reassignment_approval_role_required")
  let row ← demand (request? db requestId) .database
  require (row.requestedBy ≠ current.userId) (.forbidden "reassignment_separation_of_duties")
  let key := decisionKey requestId
  let fingerprint := decisionFingerprint rt requestId input current.userId
  match db.leadMutationReceipts.findUnique key with
  | some receipt =>
    require (receipt.fingerprint = fingerprint ∧ receipt.leadId = row.leadId)
      (.conflict "reassignment_idempotency_conflict")
    pure (row, db)
  | none => applyDecision rt db row input ⟨key, fingerprint, current, correlationId⟩ auth d

end CrmYnov.Assignment
