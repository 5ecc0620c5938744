import CrmYnov.Leads.Repository

/-!
# Leads in the memory of a process

Each operation of the lead service is written against the memory of its process:
it checks the principal and the lead, changes the lead, and appends an activity.
A process that has no database works on this memory alone; one that has a
database refreshes it, runs the operation, and stores what the operation changed
(`CrmYnov.Leads.Service`).
-/

namespace CrmYnov.Leads

open Checked Principal

structure LeadMemory where
  leads : Dict String LeadRecord
  activities : List LeadActivityRecord
  /-- The corrections this process has made, by their idempotency keys. -/
  correctionReceipts : Dict String LeadActivityRecord

/-- The memory of a process that has just started. -/
def LeadMemory.init : LeadMemory := ⟨.empty, [], .empty⟩

namespace LeadMemory

/-- `this.leads.set(leadId, …); this.activities = [...this.activities, …]` -/
def record (m : LeadMemory) (lead : LeadRecord) (activity : LeadActivityRecord) : LeadMemory :=
  { m with leads := m.leads.set lead.id lead, activities := m.activities ++ [activity] }

def requireLead (m : LeadMemory) (leadId : String) : Outcome LeadRecord :=
  demand (m.leads.get leadId) (.notFound "lead_not_found")

end LeadMemory

/-! ### Corrections -/

structure CorrectionReplacement where
  (type result : String)
  nextActionAt : Option String := none

structure InteractionCorrectionInput where
  idempotencyKey : String
  expectedCorrectionCount : ℤ
  (operation reasonCode : String)
  replacement : Option CorrectionReplacement := none

/-- `/^[A-Za-z0-9_-]{8,128}$/` -/
def isCorrectionKey (key : String) : Bool :=
  Js.fullMatch (fun c => Js.isAlnum c || c == '_' || c == '-') 8 128 key

/-- `/^[A-Z][A-Z0-9_]{1,63}$/` -/
def isResultCode (result : String) : Bool :=
  Js.headMatch Js.isUpper (fun c => Js.isUpper c || Js.isDigit c || c == '_') 1 63 result

def expurgatedSnapshot (activity : LeadActivityRecord) : ExpurgatedActivitySnapshot where
  type := activity.type
  result := if isResultCode activity.result then activity.result else "[redacted]"
  noteState := if (nonEmpty activity.note).isSome then .REDACTED else .ABSENT
  nextActionAt := activity.nextActionAt

variable (rt : Runtime)

def validateCorrectionReplacement (input : CorrectionReplacement) :
    Outcome ExpurgatedActivitySnapshot := do
  let type ← demand (ActivityType.ofText? input.type)
    (.badRequest "interaction_correction_value_invalid")
  require (type ≠ .CORRECTION ∧ isResultCode input.result)
    (.badRequest "interaction_correction_value_invalid")
  match nonEmpty input.nextActionAt with
  | none => pure { type, result := input.result, noteState := .ABSENT }
  | some text =>
    let nextActionAt ← demand (rt.parseDate text)
      (.badRequest "interaction_correction_next_action_invalid")
    pure { type, result := input.result, noteState := .ABSENT, nextActionAt := some nextActionAt }

/-- The call names the lead and the event of a correction. -/
def Names (receipt : LeadActivityRecord) (leadId originalEventId : String) : Prop :=
  receipt.correction.map ActivityCorrection.originalEventId = some originalEventId ∧
    receipt.leadId = leadId
deriving Decidable

variable (m : LeadMemory)

def MayCorrect (principal : Principal) (leadId : String) : Prop :=
  principal.hasSome managers ∧
    ∃ lead ∈ m.leads.get leadId, principal.covers lead.campus
deriving Decidable

/-- The correction of an activity that has none yet: the end of
`correctActivity`. -/
def newCorrection (leadId originalEventId : String) (input : InteractionCorrectionInput)
    (principal : Principal) (correlationId : String) (o : Occasion) :
    Outcome LeadActivityRecord := do
  let original ← demand
    (m.activities.find? fun a => a.id = originalEventId ∧ a.leadId = leadId)
    (.notFound "interaction_not_found")
  require (original.type ≠ .CORRECTION) (.notFound "interaction_not_found")
  let existing := m.activities.filterMap fun a =>
    a.correction.filter fun c => c.originalEventId = originalEventId
  require (input.expectedCorrectionCount = existing.length ∧
      ∀ c ∈ existing, c.operation ≠ .CANCEL)
    (.conflict "interaction_correction_concurrent")
  require (existing = []) (.conflict "interaction_already_corrected")
  let reasonCode ← demand (CorrectionReasonCode.ofText? input.reasonCode)
    (.badRequest "interaction_correction_reason_invalid")
  let operation ← demand (CorrectionOperation.ofText? input.operation)
    (.badRequest "interaction_correction_operation_invalid")
  require (operation = .CORRECT ↔ input.replacement.isSome)
    (.badRequest "interaction_correction_replacement_invalid")
  let replacement ← input.replacement.mapM (validateCorrectionReplacement rt)
  pure {
    id := o.activityId, leadId, type := .CORRECTION, result := operation.text
    authorId := principal.userId, correlationId, occurredAt := o.now
    correction := some {
      originalEventId, operation, reasonCode, previous := expurgatedSnapshot original
      replacement } }

def correctActivity (leadId originalEventId : String) (input : InteractionCorrectionInput)
    (principal : Principal) (correlationId : String) (o : Occasion) :
    Outcome (LeadActivityRecord × LeadMemory) := do
  require (principal.hasSome managers) (.forbidden "interaction_correction_forbidden")
  let lead ← m.requireLead leadId
  require (principal.covers lead.campus) (.notFound "lead_not_found")
  require (isCorrectionKey input.idempotencyKey)
    (.badRequest "interaction_correction_idempotency_invalid")
  match m.correctionReceipts.get input.idempotencyKey with
  | some receipt =>
    require (Names receipt leadId originalEventId)
      (.conflict "interaction_correction_idempotency_conflict")
    pure (receipt, m)
  | none =>
    let activity ← newCorrection rt m leadId originalEventId input principal correlationId o
    pure (activity, { m with
      activities := m.activities ++ [activity]
      correctionReceipts := m.correctionReceipts.set input.idempotencyKey activity })

/-! ### Owners and collaborators -/

def assignLocalLead (leadId assignedToId : String) (principal : Principal)
    (correlationId reason assignmentMode : String) (o : Occasion) :
    Outcome (LeadRecord × LeadMemory) := do
  require (principal.hasSome managers) (.forbidden "assignment_role_forbidden")
  let current ← m.requireLead leadId
  require (current.assignedToId = none) (.conflict "lead_already_assigned")
  let updated := { current with
    assignedToId := some assignedToId, assignmentMode := some assignmentMode
    lastActivityAt := some o.now }
  pure (updated, m.record updated {
    id := o.activityId, leadId, type := .ASSIGNMENT_CHANGED, result := assignedToId
    note := some reason, authorId := principal.userId, correlationId, occurredAt := o.now })

def reassignLocalLead (leadId expectedOwnerId targetUserId : String) (principal : Principal)
    (correlationId reason : String) (o : Occasion) : Outcome (LeadRecord × LeadMemory) := do
  require (principal.hasSome managers) (.forbidden "reassignment_approval_role_required")
  let current ← m.requireLead leadId
  require (current.assignedToId = some expectedOwnerId) (.conflict "reassignment_owner_changed")
  require (targetUserId ≠ expectedOwnerId) (.badRequest "reassignment_target_unchanged")
  let updated := { current with
    assignedToId := some targetUserId, assignmentMode := some "REASSIGNMENT"
    lastActivityAt := some o.now }
  pure (updated, m.record updated {
    id := o.activityId, leadId, type := .ASSIGNMENT_CHANGED
    result := expectedOwnerId ++ "->" ++ targetUserId, note := some reason
    authorId := principal.userId, correlationId, occurredAt := o.now })

def CollaboratorAction.text : CollaboratorAction → String
  | ADD => "ADD"
  | REMOVE => "REMOVE"

def CollaboratorAction.apply (action : CollaboratorAction) (collaborators : List String)
    (userId : String) : List String :=
  match action with
  | ADD => collaborators ++ [userId]
  | REMOVE => collaborators.filter fun c => c ≠ userId

def applyCollaborator (leadId targetUserId : String) (action : CollaboratorAction) (role : String)
    (principal : Principal) (correlationId : String) (o : Occasion) :
    Outcome (LeadRecord × LeadMemory) := do
  require (principal.hasSome managers) (.forbidden "collaboration_approval_forbidden")
  let current ← m.requireLead leadId
  require (current.assignedToId ≠ some targetUserId) (.badRequest "primary_assignee_protected")
  require (action = .ADD ↔ targetUserId ∉ current.collaboratorIds)
    (.conflict "collaboration_state_conflict")
  let updated := { current with
    collaboratorIds := sortTexts (action.apply current.collaboratorIds.dedup targetUserId)
    lastActivityAt := some o.now }
  pure (updated, m.record updated {
    id := o.activityId, leadId, type := .COMMENT
    result := "COLLABORATOR_" ++ action.text ++ ":" ++ role
    authorId := principal.userId, correlationId, occurredAt := o.now })

end CrmYnov.Leads
