import CrmYnov.Leads.Types

/-!
# Requests about a lead

Closing a lead, collaborating on it and giving it to another owner are asked for by one
person and decided by another. Each kind of request has its own table.

## Closure requests

A lead is closed – enrolled or lost – by a request that someone else than its
author approves. The request keeps its target, its reason and its evidence, and
is decided or cancelled once.
-/

namespace CrmYnov.Closure

inductive ClosureState
  | PENDING | APPROVED | REJECTED | CANCELLED
deriving DecidableEq

def ClosureState.text : ClosureState → String
  | PENDING => "PENDING"
  | APPROVED => "APPROVED"
  | REJECTED => "REJECTED"
  | CANCELLED => "CANCELLED"

/-- A row of `lead_closure_requests`. -/
structure LeadClosureRequestRow where
  (id leadId : String)
  target : Leads.LeadStatus
  (reason comment : String)
  evidence : List String
  requesterId : String
  state : ClosureState := .PENDING
  version : ℕ := 1
  decidedAt : Option Instant := none
  decidedBy : Option String := none
  decisionReason : Option String := none
deriving DecidableEq

def LeadClosureRequestRow.keys (r : LeadClosureRequestRow) : List String := [r.id]

theorem LeadClosureRequestRow.mem_keys {r : LeadClosureRequestRow} {id : String} :
    id ∈ r.keys ↔ r.id = id := by
  simp [LeadClosureRequestRow.keys, eq_comm]

end CrmYnov.Closure

/-!
## Collaboration requests

Someone is asked to collaborate on a lead, or no longer to, by a request that someone
else than its author decides.
-/

namespace CrmYnov.Collaboration

inductive CollaborationState
  | PENDING | APPROVED | REJECTED | CANCELLED
deriving DecidableEq

def CollaborationState.text : CollaborationState → String
  | PENDING => "PENDING"
  | APPROVED => "APPROVED"
  | REJECTED => "REJECTED"
  | CANCELLED => "CANCELLED"

inductive CollaborationRole
  | ADVISER | ADMISSIONS_SUPPORT | ENROLLMENT_CONTRIBUTOR
deriving DecidableEq

def CollaborationRole.text : CollaborationRole → String
  | ADVISER => "ADVISER"
  | ADMISSIONS_SUPPORT => "ADMISSIONS_SUPPORT"
  | ENROLLMENT_CONTRIBUTOR => "ENROLLMENT_CONTRIBUTOR"

def CollaborationRole.ofText? (text : String) : Option CollaborationRole :=
  [ADVISER, ADMISSIONS_SUPPORT, ENROLLMENT_CONTRIBUTOR].find? fun r => r.text = text

/-- A row of `lead_collaboration_requests`. -/
structure LeadCollaborationRequestRow where
  (id leadId targetUserId : String)
  action : Leads.CollaboratorAction
  role : CollaborationRole
  (justification requesterId : String)
  state : CollaborationState := .PENDING
  version : ℕ := 1
  decidedAt : Option Instant := none
  decidedBy : Option String := none
  decisionReason : Option String := none
deriving DecidableEq

def LeadCollaborationRequestRow.keys (r : LeadCollaborationRequestRow) : List String := [r.id]

end CrmYnov.Collaboration

/-!
## Reassignment requests

The owner of a lead asks for another one; a manager decides. The request keeps
who owned the lead when it was made, and is decided once.
-/

namespace CrmYnov.Assignment

inductive ReassignmentStatus
  | PENDING | APPROVED | REJECTED
deriving DecidableEq

/-- A row of `reassignment_requests`. -/
structure ReassignmentRequestRow where
  (id leadId currentOwnerId targetUserId reason : String)
  moveOpenTasks : Bool
  requestedBy : String
  status : ReassignmentStatus := .PENDING
  requestedAt : Instant
  decidedBy : Option String := none
  decidedAt : Option Instant := none
  decisionReason : Option String := none
  idempotencyKey : Option String
  version : ℕ := 1
deriving DecidableEq

/-- The unique indexes of `reassignment_requests`. -/
inductive ReassignmentRequestRow.Key
  | id (value : String)
  | idempotencyKey (value : String)
deriving DecidableEq

def ReassignmentRequestRow.keys (r : ReassignmentRequestRow) : List ReassignmentRequestRow.Key :=
  .id r.id :: r.idempotencyKey.toList.map .idempotencyKey

theorem ReassignmentRequestRow.mem_keys_id {r : ReassignmentRequestRow} {id : String} :
    ReassignmentRequestRow.Key.id id ∈ r.keys ↔ r.id = id := by
  simp [ReassignmentRequestRow.keys, eq_comm]

end CrmYnov.Assignment
