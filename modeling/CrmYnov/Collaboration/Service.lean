import CrmYnov.Leads.Progression

/-!
# The collaboration service

A request to collaborate is recorded on its lead and then stored; a decision is recorded
on its lead, stored, and an approval rewrites the collaborators of the lead. These are
transactions of their own: when one of them fails, those before it stay.
-/

namespace CrmYnov.Collaboration

open Checked Leads Js

structure CollaborationInput where
  targetUserId : Option String := none
  action : Option String := none
  role : Option String := none
  justification : Option String := none

def CollaborationInput.json (input : CollaborationInput) : Json :=
  .present [("targetUserId", input.targetUserId.map Json.str),
    ("action", input.action.map Json.str), ("role", input.role.map Json.str),
    ("justification", input.justification.map Json.str)]

structure CollaborationDecisionInput where
  decision : Option String := none
  reason : Option String := none
  expectedVersion : Option ℤ := none

def CollaborationDecisionInput.json (input : CollaborationDecisionInput) : Json :=
  .present [("decision", input.decision.map Json.str), ("reason", input.reason.map Json.str),
    ("expectedVersion", input.expectedVersion.map Json.int)]

def actionOf (text : String) : Option CollaboratorAction :=
  [.ADD, .REMOVE].find? fun a => a.text = text

/-- What happens around a call: also the identifier of a request, and the transactions
that fail after the first. -/
structure CollaborationCircumstances extends Circumstances where
  requestId : String
  save : Bool := false
  snapshot : Bool := false

abbrev Requests := Table LeadCollaborationRequestRow LeadCollaborationRequestRow.keys

def PendingFor (leadId targetUserId : String) (r : LeadCollaborationRequestRow) : Prop :=
  r.leadId = leadId ∧ r.targetUserId = targetUserId ∧ r.state = .PENDING
deriving Decidable

def request (requests : Requests) (leadId : String) (input : CollaborationInput)
    (principal : Principal) (requestId : String) (m : LeadMemory) :
    Outcome (LeadCollaborationRequestRow × LeadMemory) := do
  let lead ← getLead m leadId principal
  require (lead.assignedToId = some principal.userId ∨ principal.hasSome Principal.managers)
    (.forbidden "collaboration_request_forbidden")
  let invalid := Failure.badRequest "collaboration_request_invalid"
  let action ← demand (input.action.bind actionOf) invalid
  let role ← demand (input.role.bind CollaborationRole.ofText?) invalid
  let targetUserId ← demand (nonEmpty (input.targetUserId.map trim)) invalid
  let justification ← demand (nonEmpty (input.justification.map trim)) invalid
  require (length justification ≤ 500) invalid
  require (lead.assignedToId ≠ some targetUserId) (.badRequest "primary_assignee_protected")
  require (action = .ADD ↔ targetUserId ∉ lead.collaboratorIds)
    (.conflict "collaboration_state_conflict")
  require (requests.findFirst (PendingFor leadId targetUserId) = none)
    (.conflict "collaboration_pending")
  pure ({ id := requestId, leadId, targetUserId, action, role, justification
          requesterId := principal.userId }, m)

def decide (requests : Requests) (id : String) (input : CollaborationDecisionInput)
    (principal : Principal) (correlationId : String) (o : Occasion) (m : LeadMemory) :
    Outcome (LeadCollaborationRequestRow × LeadMemory) := do
  let current ← demand (requests.findUnique id) (.notFound "collaboration_request_not_found")
  require (current.requesterId ≠ principal.userId)
    (.forbidden "collaboration_self_approval_forbidden")
  require (principal.hasSome Principal.managers) (.forbidden "collaboration_approval_forbidden")
  require (current.state = .PENDING ∧ input.expectedVersion = some (current.version : ℤ))
    (.conflict "collaboration_concurrent_decision")
  let invalid := Failure.badRequest "collaboration_decision_invalid"
  let decision ← demand (nonEmpty input.decision) invalid
  let reason ← demand (nonEmpty (input.reason.map trim)) invalid
  let decided := fun state => { current with
    state, version := current.version + 1, decidedAt := some o.now
    decidedBy := some principal.userId, decisionReason := some reason }
  if decision = "APPROVE" then
    let (_, m) ← applyCollaborator m current.leadId current.targetUserId current.action
      current.role.text principal correlationId o
    pure (decided .APPROVED, m)
  else pure (decided .REJECTED, m)

variable (rt : Runtime)

/-- `saveCollaboration`, for a request that is made. -/
def createCollaboration (db : Database) (item : LeadCollaborationRequestRow) : Outcome Database := do
  let leadCollaborationRequests ← insert db.leadCollaborationRequests item
  pure { db with leadCollaborationRequests }

def StillPending (id : String) (version : ℕ) (r : LeadCollaborationRequestRow) : Prop :=
  r.id = id ∧ r.state = .PENDING ∧ r.version = version
deriving Decidable

def settleRequest (item r : LeadCollaborationRequestRow) : LeadCollaborationRequestRow :=
  { r with state := item.state, version := r.version + 1, decidedAt := item.decidedAt
           decidedBy := item.decidedBy, decisionReason := item.decisionReason }

theorem keys_settleRequest (item r : LeadCollaborationRequestRow) :
    (settleRequest item r).keys = r.keys := rfl

/-- `saveCollaboration`, for a request that is decided. -/
def settleCollaboration (db : Database) (item : LeadCollaborationRequestRow)
    (expectedVersion : ℕ) : Outcome Database := do
  require (db.leadCollaborationRequests.count (StillPending item.id expectedVersion) = 1)
    (.conflict "collaboration_concurrent_decision")
  pure { db with
    leadCollaborationRequests := db.leadCollaborationRequests.updateMany
      (StillPending item.id expectedVersion) (settleRequest item) (keys_settleRequest item) }

/-- A transaction that follows another: it fails, or leaves its database. -/
def afterwards {T : Type} (s : Process) (fault : Bool) (x : Outcome Database)
    (rest : Process → Outcome T × Process) : Outcome T × Process :=
  if fault then (.error .database, s)
  else
    match x with
    | .error e => (.error e, s)
    | .ok db => rest { s with db }

def requestMutation (requests : Requests) (leadId : String) (input : CollaborationInput)
    (principal : Principal) (correlationId requestId : String) :
    ApiMutation LeadCollaborationRequestRow where
  leadId := leadId
  idempotencyKey := "collaboration-request:" ++ leadId ++ ":" ++ correlationId
  operation := .COLLABORATION_REQUEST
  input := input.json
  mutate := request requests leadId input principal requestId
  auditActor := principal
  correlationId := correlationId

def requestForApi (leadId : String) (input : CollaborationInput) (principal : Principal)
    (correlationId : String) (c : CollaborationCircumstances) (s : Process) :
    Outcome LeadCollaborationRequestRow × Process :=
  match persistApiMutation rt (requestMutation s.db.leadCollaborationRequests leadId input principal
      correlationId c.requestId) c.toCircumstances s with
  | (.error e, s) => (.error e, s)
  | (.ok record, s) => afterwards s c.save (createCollaboration s.db record) fun s => (.ok record, s)

def decisionMutation (requests : Requests) (current : LeadCollaborationRequestRow)
    (input : CollaborationDecisionInput) (principal : Principal) (correlationId : String)
    (o : Occasion) : ApiMutation LeadCollaborationRequestRow where
  leadId := current.leadId
  idempotencyKey := "collaboration-decision:" ++ current.id ++ ":" ++
    (input.expectedVersion.map toString).getD "missing"
  operation := .COLLABORATION_DECISION
  input := input.json
  mutate := decide requests current.id input principal correlationId o
  auditActor := principal
  correlationId := correlationId

def collaboratorsAfter (before : LeadRecord) (r : LeadCollaborationRequestRow) : List String :=
  sortTexts (match r.action with
    | .ADD => (before.collaboratorIds ++ [r.targetUserId]).dedup
    | .REMOVE => before.collaboratorIds.dedup.filter fun u => u ≠ r.targetUserId)

/-- `persistCollaboratorSnapshotForApi`, after an approval on a lead that was found. -/
def snapshotCollaborators (updated : LeadCollaborationRequestRow) (before : Option LeadRecord)
    (fault : Bool) (s : Process) : Outcome LeadCollaborationRequestRow × Process :=
  match before with
  | some lead =>
    if updated.state = .APPROVED then
      afterwards s fault
        (pure (replaceCollaborators s.db updated.leadId (collaboratorsAfter lead updated)))
        fun s => (.ok updated, s)
    else (.ok updated, s)
  | none => (.ok updated, s)

def decideForApi (id : String) (input : CollaborationDecisionInput) (principal : Principal)
    (correlationId : String) (c : CollaborationCircumstances) (s : Process) :
    Outcome LeadCollaborationRequestRow × Process :=
  match s.db.leadCollaborationRequests.findUnique id with
  | none => (.error (.notFound "collaboration_request_not_found"), s)
  | some current =>
    let before := (s.memory.refresh s.db).leads.get current.leadId
    match persistApiMutation rt (decisionMutation s.db.leadCollaborationRequests current input
        principal correlationId c.toOccasion) c.toCircumstances s with
    | (.error e, s) => (.error e, s)
    | (.ok updated, s) =>
      afterwards s c.save (settleCollaboration s.db updated current.version)
        (snapshotCollaborators updated before c.snapshot)

end CrmYnov.Collaboration
