import CrmYnov.FollowUp.Repository
import CrmYnov.Leads.Progression

/-!
# The closure service

A closure is requested with its evidence, and decided by someone else who may. An
approval is one transaction: it moves the lead to its final status, settles the
request, and cancels the follow-ups that are open on the lead.

As with follow-ups, a call reads the requests and the leads first, in states of
their own (`CrmYnov.Closure.View`). Who may approve, and is therefore notified, is
decided by the permissions (`CrmYnov.Closure.Authority`).
-/

namespace CrmYnov.Closure

open Checked Leads FollowUp Js

structure Authority where
  /-- `assignmentManagerRecipients` -/
  approvers : Database → Outcome (List String)

/-- The states a call has read: its requests and its leads. -/
structure View where
  (requests leads : Database)

namespace View

/-- `this.requests.get(id)` -/
def request (view : View) (id : String) : Option LeadClosureRequestRow :=
  view.requests.leadClosureRequests.findUnique id

def memory (view : View) : LeadMemory := LeadMemory.init.refresh view.leads

end View

/-- What the world gives to a call: an identifier for a request, and one for the
activity of each follow-up that is cancelled. -/
structure ClosureDraw extends Occasion where
  requestId : String
  cancelId : String → String

structure ClosureInput where
  (target reason comment : String)
  evidence : List String
  qualification : Option PositiveQualification := none
  idempotencyKey : Option String := none

structure ClosureDecisionInput where
  (decision reason : String)
  expectedVersion : Option ℤ := none

/-- `qualificationPrefix` -/
def qualificationMark : String := "SERVER_POSITIVE_QUALIFICATION_V1:"

/-- A piece of evidence the server has written. -/
def isQualification (item : String) : Bool := startsWith qualificationMark item

def closureReasons : LeadStatus → List String
  | .PROSPECT | .CONTACTED | .QUALIFIED => ["COMMERCIAL_STAGE_REVIEW"]
  | .ENROLLED => ["ADMISSION_CONFIRMED", "REGISTRATION_COMPLETE"]
  | .CLOSED_LOST => ["NOT_INTERESTED", "UNREACHABLE", "OTHER_PROGRAM"]

variable (rt : Runtime)

/-! ### Notifications and audit -/

def closureNotification (recipientId leadId : String) : NotificationRecord where
  recipientId := recipientId
  type := "CLOSURE_REQUEST"
  priority := "HIGH"
  resourceType := "LEAD"
  resourceId := leadId
  href := "/leads/" ++ leadId ++ "/closure"

def notifyEach (db : Database) (item : LeadClosureRequestRow) : List String → Outcome Database
  | [] => pure db
  | recipientId :: recipients => do
    let (_, db) ← createNotificationInTransaction rt db
      (closureNotification recipientId item.leadId)
      ("closure-request:" ++ item.id ++ ":" ++ recipientId)
    notifyEach db item recipients

variable (db : Database)

def notifyClosure (item : LeadClosureRequestRow) (auth : Authority) : Outcome Database := do
  let _ ← demand (db.lead item.leadId) .database
  let recipients ← auth.approvers db
  require (recipients ≠ []) (.conflict "supervisor_unavailable")
  notifyEach rt db item recipients

def auditClosure (item : LeadClosureRequestRow) (eventType : String) (principal : Principal)
    (correlationId : String) : Outcome Database := do
  let lead ← demand (db.lead item.leadId) .database
  db.audit {
    eventType, campusId := lead.campus, resourceId := item.leadId, actorId := principal.userId
    actorRoles := principal.roles, sessionId := some principal.sessionId
    correlationId := slice 64 correlationId
    idempotencyKey := "closure-audit:" ++ eventType ++ ":" ++ item.id ++ ":" ++ toString item.version
    before := .null
    after := .present [("requestId", some (.str item.id)), ("leadId", some (.str item.leadId)),
      ("target", some (.str item.target.text)), ("state", some (.str item.state.text)),
      ("version", some (.nat item.version)), ("evidenceCount", some (.nat item.evidence.length)),
      ("decisionReason", (nonEmpty item.decisionReason).map Json.str)] }

/-! ### Saving a request -/

def SameRequest (r item : LeadClosureRequestRow) : Prop :=
  r.requesterId = item.requesterId ∧ r.leadId = item.leadId ∧ r.target = item.target ∧
    r.reason = item.reason ∧ r.comment = item.comment ∧ r.evidence = item.evidence
deriving Decidable

def PendingFor (leadId : String) (r : LeadClosureRequestRow) : Prop :=
  r.leadId = leadId ∧ r.state = .PENDING
deriving Decidable

/-- `saveClosureInTransaction`, for a request that is made. -/
def createClosure (item : LeadClosureRequestRow) (principal : Principal) (correlationId : String)
    (auth : Authority) : Outcome (LeadClosureRequestRow × Database) :=
  match db.leadClosureRequests.findUnique item.id with
  | some stored => do
    require (SameRequest stored item) (.conflict "closure_idempotency_conflict")
    pure (stored, db)
  | none => do
    require (db.leadClosureRequests.findFirst (PendingFor item.leadId) = none)
      (.conflict "closure_pending")
    let leadClosureRequests ← insert db.leadClosureRequests item
    let db ← auditClosure { db with leadClosureRequests } item "CLOSURE_REQUESTED" principal
      correlationId
    let db ← notifyClosure rt db item auth
    pure (item, db)

def StillPending (id : String) (version : ℕ) (r : LeadClosureRequestRow) : Prop :=
  r.id = id ∧ r.state = .PENDING ∧ r.version = version
deriving Decidable

def settleRequest (item r : LeadClosureRequestRow) : LeadClosureRequestRow :=
  { r with state := item.state, version := r.version + 1, decidedAt := item.decidedAt
           decidedBy := item.decidedBy, decisionReason := item.decisionReason }

theorem keys_settleRequest (item r : LeadClosureRequestRow) :
    (settleRequest item r).keys = r.keys := rfl

/-- `saveClosureInTransaction`, for a request that is settled. -/
def settleClosure (item : LeadClosureRequestRow) (expectedVersion : ℕ) (eventType : String)
    (principal : Principal) (correlationId : String) : Outcome Database := do
  require (db.leadClosureRequests.count (StillPending item.id expectedVersion) = 1)
    (.conflict "closure_concurrent_decision")
  let db := { db with
    leadClosureRequests := db.leadClosureRequests.updateMany (StillPending item.id expectedVersion)
      (settleRequest item) (keys_settleRequest item) }
  let db ← auditClosure db item eventType principal correlationId
  if item.state = .APPROVED ∨ item.state = .REJECTED then
    let (_, db) ← createNotificationInTransaction rt db
      (closureNotification item.requesterId item.leadId) ("closure-decision:" ++ item.id)
    pure db
  else pure db

/-! ### The follow-ups of a lead that is closed -/

def cancelRow (f : LeadFollowUpRow) : LeadFollowUpRow :=
  { f with state := .CANCELLED, version := f.version + 1 }

theorem keys_cancelRow (f : LeadFollowUpRow) : (cancelRow f).keys = f.keys := rfl

/-- The loop of `cancelFollowUpsForClosure`. -/
def cancelRows (closure : LeadClosureRequestRow) (campus : String) (principal : Principal)
    (correlationId : String) (d : ClosureDraw) (db : Database) :
    List LeadFollowUpRow → Outcome Database
  | [] => pure db
  | row :: rows => do
    let key := "closure-follow-up:" ++ rt.sha256 (closure.id ++ ":" ++ row.id)
    require (db.leadFollowUps.count (Undecided row.id row.version) = 1)
      (.conflict "follow_up_concurrent")
    let db := { db with
      leadFollowUps := db.leadFollowUps.updateMany (Undecided row.id row.version) cancelRow
        keys_cancelRow }
    let db ← db.addActivity (activityData {
      id := d.cancelId row.id, leadId := closure.leadId, type := .COMMENT
      result := "FOLLOW_UP_CANCELLED_FOR_CLOSURE"
      note := some ("Action annulée après décision finale " ++ closure.target.text ++ ". " ++
        closure.decisionReason.getD "Décision de clôture validée")
      authorId := principal.userId, correlationId, occurredAt := d.now } key)
    let db ← db.audit {
      eventType := "FOLLOW_UP_CANCELLED_FOR_CLOSURE", campusId := campus
      resourceId := closure.leadId, actorId := principal.userId, actorRoles := principal.roles
      sessionId := some principal.sessionId, correlationId, idempotencyKey := key
      before := .obj [("followUpId", .str row.id), ("state", .str row.state.text),
        ("version", .nat row.version), ("reason", .str row.reason)]
      after := .obj [("followUpId", .str row.id), ("state", .str "CANCELLED"),
        ("version", .nat (row.version + 1)), ("closureId", .str closure.id),
        ("target", .str closure.target.text), ("countsAsCompleted", .bool false)] }
    cancelRows closure campus principal correlationId d db rows

def cancelFollowUpsForClosure (closure : LeadClosureRequestRow) (principal : Principal)
    (correlationId : String) (d : ClosureDraw) : Outcome Database :=
  match db.leadFollowUps.findMany (Pending closure.leadId) with
  | [] => pure db
  | rows => do
    let lead ← demand (db.lead closure.leadId) .database
    cancelRows rt closure lead.campus principal correlationId d db rows

def reconcileClosureNotifications (id : String) (auth : Authority) : Outcome Database := do
  let current ← demand (db.leadClosureRequests.findUnique id) .database
  if current.state = .PENDING then notifyClosure rt db current auth else pure db

/-! ### Requesting -/

/-- The identifier of a request under a key: a digest in the shape of a UUID. -/
def requestId (leadId userId key : String) : String :=
  let digest := (rt.sha256 (Json.stringify (.arr [.str leadId, .str userId, .str key]))).toList
  let part := fun lo hi => (digest.take hi).drop lo
  String.ofList (part 0 8 ++ '-' :: (part 8 12 ++ '-' :: (part 12 16 ++ '-' ::
    (part 16 20 ++ '-' :: part 20 32))))

/-- `/^[a-zA-Z0-9:_-]{8,128}$/` -/
def isClosureKey (key : String) : Bool :=
  fullMatch (fun c => isAlnum c || c == ':' || c == '_' || c == '-') 8 128 key

/-- The evidence of a request: what was given, and the qualification of a lead that
is enrolled without being qualified. -/
def requestEvidence (lead : LeadRow) (stored : Option LeadClosureRequestRow) (target : LeadStatus)
    (evidence : List String) (input : ClosureInput) (comment : String) : Outcome (List String) :=
  let qualifies : Bool := match stored with
    | some r => r.evidence.any isQualification
    | none => lead.status ≠ .QUALIFIED
  if target = .ENROLLED ∧ qualifies then do
    let observed ← positiveQualificationEvidence lead input.qualification (some comment)
    pure (evidence ++ [((stored.bind fun r => r.evidence.find? isQualification).getD
      (qualificationMark ++ observed))])
  else pure evidence

/-- What a request has validated: its target, its comment and its evidence. -/
def requestFields (view : View) (leadId : String) (input : ClosureInput) (principal : Principal) :
    Outcome (LeadRecord × LeadStatus × String × List String) := do
  require (principal.hasSome commercialRoles) (.forbidden "closure_request_forbidden")
  require (∀ item ∈ input.evidence, length item ≤ 1000 ∧ ¬isQualification (trim item))
    (.badRequest "closure_request_invalid")
  let lead ← getLead view.memory leadId principal
  let comment := trim input.comment
  let evidence := (input.evidence.map trim).filter fun item => item ≠ ""
  let target ← demand ((LeadStatus.ofText? input.target).filter fun s => s.Closed)
    (.badRequest "commercial_stage_approval_retired")
  require (input.reason ∈ closureReasons target ∧ comment ≠ "" ∧ length comment ≤ 1000 ∧
      evidence ≠ [] ∧ evidence.length ≤ 10)
    (.badRequest "closure_request_invalid")
  require (input.idempotencyKey.all isClosureKey) (.badRequest "closure_idempotency_invalid")
  pure (lead, target, comment, evidence)

def request (view : View) (leadId : String) (input : ClosureInput) (principal : Principal)
    (d : ClosureDraw) : Outcome LeadClosureRequestRow := do
  let (lead, target, comment, given) ← requestFields view leadId input principal
  let id := match nonEmpty input.idempotencyKey with
    | some key => requestId rt leadId principal.userId key
    | none => d.requestId
  let stored := view.request id
  let evidence ← requestEvidence lead.toLeadRow stored target given input comment
  match stored with
  | some r =>
    require (r.target = target ∧ r.reason = input.reason ∧ r.comment = comment ∧
        r.evidence = evidence)
      (.conflict "closure_idempotency_conflict")
    pure r
  | none =>
    require (¬lead.status.Closed) (.badRequest "closure_source_status_invalid")
    require (view.requests.leadClosureRequests.findFirst (PendingFor leadId) = none)
      (.conflict "closure_pending")
    pure { id, leadId, target, reason := input.reason, comment, evidence
           requesterId := principal.userId }

def requestForApi (view : View) (db : Database) (leadId : String) (input : ClosureInput)
    (principal : Principal) (correlationId : String) (auth : Authority) (d : ClosureDraw) :
    Outcome (LeadClosureRequestRow × Database) := do
  let record ← request rt view leadId input principal d
  createClosure rt db record principal correlationId auth

/-! ### Deciding -/

/-- The evidence an approval still has to find: what the server wrote when the lead
was asked to be enrolled. -/
def checkQualification (m : LeadMemory) (current : LeadClosureRequestRow) (principal : Principal) :
    Outcome Unit :=
  match current.evidence.find? isQualification with
  | some qualified =>
    if current.target = .ENROLLED then do
      let lead ← getLead m current.leadId principal
      let observed ← positiveQualificationEvidence lead.toLeadRow (some ⟨true, true⟩)
        (some current.comment)
      require (qualified = qualificationMark ++ observed) (.conflict "closure_qualification_stale")
    else pure ()
  | none => pure ()

def approve (m : LeadMemory) (current : LeadClosureRequestRow) (principal : Principal)
    (correlationId : String) (o : Occasion) : Outcome LeadMemory := do
  checkQualification m current principal
  let (_, m) ← changeStatus m current.leadId {
    status := current.target.text, reason := some current.comment
    qualification := if current.evidence.any isQualification then some ⟨true, true⟩ else none }
    principal correlationId o.activityId o.now
  pure m

/-- `decide`: on the copies of the requests and of the leads. -/
def decide (view : View) (id : String) (input : ClosureDecisionInput) (principal : Principal)
    (correlationId : String) (o : Occasion) (m : LeadMemory) :
    Outcome (LeadClosureRequestRow × LeadMemory) := do
  let current ← demand (view.request id) (.notFound "closure_request_not_found")
  require (current.requesterId ≠ principal.userId) (.forbidden "closure_self_approval_forbidden")
  require (principal.hasSome Principal.managers) (.forbidden "closure_approval_forbidden")
  require (current.state = .PENDING ∧ input.expectedVersion = some (current.version : ℤ))
    (.conflict "closure_concurrent_decision")
  require current.target.Closed (.conflict "commercial_stage_approval_retired")
  let reason := trim input.reason
  require (reason ≠ "" ∧ length reason ≤ 1000) (.badRequest "closure_decision_invalid")
  let m ← if input.decision = "APPROVE" then approve m current principal correlationId o else pure m
  pure ({ current with
    state := if input.decision = "APPROVE" then .APPROVED else .REJECTED
    version := current.version + 1, decidedAt := some o.now, decidedBy := some principal.userId
    decisionReason := some reason }, m)

/-- The decision was made before, by the same principal and alike. -/
def AlreadyDecided (current : LeadClosureRequestRow) (input : ClosureDecisionInput)
    (principal : Principal) : Prop :=
  current.state ≠ .PENDING ∧ current.decidedBy = some principal.userId ∧
    (current.version : ℤ) = input.expectedVersion.getD 0 + 1 ∧
    current.decisionReason = some (trim input.reason) ∧
    current.state = (if input.decision = "APPROVE" then .APPROVED else .REJECTED)
deriving Decidable

/-- What an approval or a rejection adds to the transaction of its lead. -/
def closureEffect (current updated : LeadClosureRequestRow) (principal : Principal)
    (correlationId : String) (d : ClosureDraw) (db : Database) : Outcome Database := do
  let eventType := if updated.state = .APPROVED then "CLOSURE_APPROVED" else "CLOSURE_REJECTED"
  let db ← settleClosure rt db updated current.version eventType principal correlationId
  if updated.state = .APPROVED ∧ updated.target.Closed then
    cancelFollowUpsForClosure rt db updated principal correlationId d
  else pure db

def closureMutation (view : View) (current : LeadClosureRequestRow) (input : ClosureDecisionInput)
    (principal : Principal) (correlationId : String) (d : ClosureDraw) :
    ApiMutation LeadClosureRequestRow where
  leadId := current.leadId
  idempotencyKey := "closure-decision:" ++ current.id ++ ":" ++
    (input.expectedVersion.map toString).getD "missing"
  operation := .CLOSURE_DECISION
  input := .present [("decision", some (.str input.decision)), ("reason", some (.str input.reason)),
    ("expectedVersion", input.expectedVersion.map Json.int)]
  mutate m := decide view current.id input principal correlationId d.toOccasion m
  auditActor := principal
  correlationId := correlationId
  atomicEffect updated := closureEffect rt current updated principal correlationId d

def decideForApi (view : View) (db : Database) (id : String) (input : ClosureDecisionInput)
    (principal : Principal) (correlationId : String) (d : ClosureDraw) :
    Outcome (LeadClosureRequestRow × Database) := do
  require (input.decision = "APPROVE" ∨ input.decision = "REJECT")
    (.badRequest "closure_decision_invalid")
  let current ← demand (view.request id) (.notFound "closure_request_not_found")
  if AlreadyDecided current input principal then pure (current, db)
  else
    let mutation := closureMutation rt view current input principal correlationId d
    let (_, db) ← mutation.transact rt d.toOccasion view.leads db
    let stored ← demand (db.leadClosureRequests.findUnique id) .database
    pure (stored, db)

/-! ### Cancelling -/

def cancel (view : View) (id : String) (principal : Principal) (retireStage : Bool) (now : Instant) :
    Outcome LeadClosureRequestRow := do
  let current ← demand (view.request id) (.notFound "closure_request_not_found")
  require (retireStage = true → ¬current.target.Closed ∧ principal.hasSome Principal.managers)
    (.forbidden "closure_retirement_forbidden")
  require (retireStage = false → current.requesterId = principal.userId)
    (.forbidden "closure_cancel_forbidden")
  if current.state = .CANCELLED ∧ current.decidedBy = some principal.userId then pure current
  else
    require (current.state = .PENDING) (.conflict "closure_concurrent_decision")
    pure { current with
      state := .CANCELLED, version := current.version + 1, decidedAt := some now
      decidedBy := some principal.userId
      decisionReason := some (if current.target.Closed then "REQUESTER_CANCELLED"
        else "COMMERCIAL_STAGE_WORKFLOW_RETIRED_V1") }

def cancelForApi (view : View) (db : Database) (id : String) (principal : Principal)
    (correlationId : String) (retireStage : Bool) (d : ClosureDraw) :
    Outcome (LeadClosureRequestRow × Database) := do
  let current ← demand (view.request id) (.notFound "closure_request_not_found")
  let updated ← cancel view id principal retireStage d.now
  if updated.version = current.version then pure (updated, db)
  else
    let db ← settleClosure rt db updated current.version "CLOSURE_CANCELLED" principal correlationId
    let stored ← demand (db.leadClosureRequests.findUnique id) .database
    pure (stored, db)

end CrmYnov.Closure
