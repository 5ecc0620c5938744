import CrmYnov.References.Resolver

/-!
# Leads, their activities and the receipts of their mutations

The rows of the tables the lead services write, and the records the services
work on. A lead in the memory of a process is its row together with the
identifiers of its active collaborators, which the database keeps in a table of
their own; an activity in memory carries its correction as one value, which the
database keeps in columns of the activity.
-/

namespace CrmYnov.Leads

inductive LeadStatus
  | PROSPECT | CONTACTED | QUALIFIED | ENROLLED | CLOSED_LOST
deriving DecidableEq

/-- How a lead came to be known. -/
inductive AcquisitionKind
  | NEW | BASELINE
deriving DecidableEq

/-- A row of `leads`. -/
structure LeadRow where
  (id leadCode firstName lastName : String)
  email : Option String := none
  phone : Option String := none
  (campus campaign educationLevel program source : String)
  status : LeadStatus := .PROSPECT
  acquisitionKind : AcquisitionKind := .NEW
  assignedToId : Option String := none
  assignmentMode : Option String := none
  importBatchId : Option String := none
  nextActionAt : Option Instant := none
  lastActivityAt : Option Instant := none
  createdAt : Instant
  version : ℕ := 1

/-- The unique indexes of `leads`. -/
inductive LeadRow.Key
  | id (value : String)
  | leadCode (value : String)
deriving DecidableEq

def LeadRow.keys (l : LeadRow) : List LeadRow.Key := [.id l.id, .leadCode l.leadCode]

theorem LeadRow.mem_keys_id {l : LeadRow} {id : String} : LeadRow.Key.id id ∈ l.keys ↔ l.id = id := by
  simp [LeadRow.keys, eq_comm]

def LeadRow.referenceValues (l : LeadRow) : References.LeadReferenceValues :=
  ⟨l.campus, l.program, l.campaign⟩

structure LeadRecord extends LeadRow where
  collaboratorIds : List String := []

/-- A row of `lead_collaborators`. -/
structure LeadCollaboratorRow where
  (leadId userId : String)
  active : Bool

def LeadCollaboratorRow.keys (c : LeadCollaboratorRow) : List (String × String) :=
  [(c.leadId, c.userId)]

inductive CollaboratorAction
  | ADD | REMOVE
deriving DecidableEq

/-! ### Activities and their corrections -/

inductive ActivityType
  | CRM_CALL | EXTERNAL_CALL | PHONE_CALL | PHYSICAL_VISIT | WHATSAPP | MANUAL_EMAIL | MEETING
  | COMMENT | CORRECTION | STATUS_CHANGED | LEAD_CREATED | ASSIGNMENT_CHANGED
  | REASSIGNMENT_REQUESTED | REASSIGNMENT_REJECTED | LEGACY_IMPORT | PROVENANCE_ATTACHED
  | TAGS_CHANGED
deriving DecidableEq

def ActivityType.text : ActivityType → String
  | CRM_CALL => "CRM_CALL"
  | EXTERNAL_CALL => "EXTERNAL_CALL"
  | PHONE_CALL => "PHONE_CALL"
  | PHYSICAL_VISIT => "PHYSICAL_VISIT"
  | WHATSAPP => "WHATSAPP"
  | MANUAL_EMAIL => "MANUAL_EMAIL"
  | MEETING => "MEETING"
  | COMMENT => "COMMENT"
  | CORRECTION => "CORRECTION"
  | STATUS_CHANGED => "STATUS_CHANGED"
  | LEAD_CREATED => "LEAD_CREATED"
  | ASSIGNMENT_CHANGED => "ASSIGNMENT_CHANGED"
  | REASSIGNMENT_REQUESTED => "REASSIGNMENT_REQUESTED"
  | REASSIGNMENT_REJECTED => "REASSIGNMENT_REJECTED"
  | LEGACY_IMPORT => "LEGACY_IMPORT"
  | PROVENANCE_ATTACHED => "PROVENANCE_ATTACHED"
  | TAGS_CHANGED => "TAGS_CHANGED"

/-- `activityTypes`: the types a caller may name. -/
def activityTypes : List ActivityType :=
  [.CRM_CALL, .EXTERNAL_CALL, .PHONE_CALL, .PHYSICAL_VISIT, .WHATSAPP, .MANUAL_EMAIL, .MEETING,
    .COMMENT, .CORRECTION, .STATUS_CHANGED, .LEAD_CREATED, .ASSIGNMENT_CHANGED,
    .REASSIGNMENT_REQUESTED, .REASSIGNMENT_REJECTED, .LEGACY_IMPORT, .PROVENANCE_ATTACHED]

def ActivityType.ofText? (text : String) : Option ActivityType :=
  activityTypes.find? fun t => t.text = text

inductive CorrectionReasonCode
  | WRONG_CHANNEL | WRONG_RESULT | WRONG_NEXT_ACTION | DUPLICATE_ENTRY | OTHER_CONTROLLED
deriving DecidableEq

def CorrectionReasonCode.text : CorrectionReasonCode → String
  | WRONG_CHANNEL => "WRONG_CHANNEL"
  | WRONG_RESULT => "WRONG_RESULT"
  | WRONG_NEXT_ACTION => "WRONG_NEXT_ACTION"
  | DUPLICATE_ENTRY => "DUPLICATE_ENTRY"
  | OTHER_CONTROLLED => "OTHER_CONTROLLED"

def correctionReasonCodes : List CorrectionReasonCode :=
  [.WRONG_CHANNEL, .WRONG_RESULT, .WRONG_NEXT_ACTION, .DUPLICATE_ENTRY, .OTHER_CONTROLLED]

def CorrectionReasonCode.ofText? (text : String) : Option CorrectionReasonCode :=
  correctionReasonCodes.find? fun r => r.text = text

inductive CorrectionOperation
  | CORRECT | CANCEL
deriving DecidableEq

def CorrectionOperation.text : CorrectionOperation → String
  | CORRECT => "CORRECT"
  | CANCEL => "CANCEL"

def CorrectionOperation.ofText? (text : String) : Option CorrectionOperation :=
  [CORRECT, CANCEL].find? fun o => o.text = text

inductive NoteState
  | ABSENT | REDACTED
deriving DecidableEq

structure ExpurgatedActivitySnapshot where
  type : ActivityType
  result : String
  noteState : NoteState
  nextActionAt : Option Instant := none
deriving DecidableEq

structure ActivityCorrection where
  originalEventId : String
  operation : CorrectionOperation
  reasonCode : CorrectionReasonCode
  previous : ExpurgatedActivitySnapshot
  replacement : Option ExpurgatedActivitySnapshot := none
deriving DecidableEq

structure LeadActivityRecord where
  (id leadId : String)
  type : ActivityType
  result : String
  note : Option String := none
  authorId : String
  nextActionAt : Option Instant := none
  correlationId : String
  occurredAt : Instant
  correction : Option ActivityCorrection := none
deriving DecidableEq

/-- A row of `lead_activities`. -/
structure LeadActivityRow where
  (id leadId : String)
  type : ActivityType
  result : String
  note : Option String
  authorId : String
  nextActionAt : Option Instant
  correlationId : String
  (idempotencyKey originalEventId : Option String)
  correctionOperation : Option CorrectionOperation
  correctionReasonCode : Option CorrectionReasonCode
  (previousSnapshot replacementSnapshot : Option ExpurgatedActivitySnapshot)
  occurredAt : Instant

/-- The unique indexes of `lead_activities`. -/
inductive LeadActivityRow.Key
  | id (value : String)
  | idempotencyKey (value : String)
deriving DecidableEq

def LeadActivityRow.keys (a : LeadActivityRow) : List LeadActivityRow.Key :=
  .id a.id :: a.idempotencyKey.toList.map .idempotencyKey

/-- `activityData`: the row of an activity under a key. -/
def activityData (activity : LeadActivityRecord) (idempotencyKey : String) : LeadActivityRow where
  id := activity.id
  leadId := activity.leadId
  type := activity.type
  result := activity.result
  note := activity.note
  authorId := activity.authorId
  nextActionAt := activity.nextActionAt
  correlationId := activity.correlationId
  idempotencyKey := some idempotencyKey
  originalEventId := activity.correction.map ActivityCorrection.originalEventId
  correctionOperation := activity.correction.map ActivityCorrection.operation
  correctionReasonCode := activity.correction.map ActivityCorrection.reasonCode
  previousSnapshot := activity.correction.map ActivityCorrection.previous
  replacementSnapshot := activity.correction.bind ActivityCorrection.replacement
  occurredAt := activity.occurredAt

/-- A column whose text is kept only when it is not empty. -/
def nonEmpty (s : Option String) : Option String := s.filter fun t => t ≠ ""

theorem nonEmpty_eq_self {s : Option String} (h : s ≠ some "") : nonEmpty s = s := by
  cases s with
  | none => rfl
  | some t =>
    have ht : t ≠ "" := fun hc => h (by rw [hc])
    simp [nonEmpty, ht]

/-- The correction the columns of a row describe, when they all are given. -/
def LeadActivityRow.correction? (row : LeadActivityRow) : Option ActivityCorrection := do
  let originalEventId ← nonEmpty row.originalEventId
  let operation ← row.correctionOperation
  let reasonCode ← row.correctionReasonCode
  let previous ← row.previousSnapshot
  some { originalEventId, operation, reasonCode, previous, replacement := row.replacementSnapshot }

/-- `mapPersistedLeadActivity` -/
def mapActivity (row : LeadActivityRow) : LeadActivityRecord where
  id := row.id
  leadId := row.leadId
  type := row.type
  result := row.result
  note := nonEmpty row.note
  authorId := row.authorId
  nextActionAt := row.nextActionAt
  correlationId := row.correlationId
  occurredAt := row.occurredAt
  correction := row.correction?

/-! ### Receipts -/

/-- What a receipt keeps of the outcome of a mutation. -/
inductive ReceiptResult
  /-- The lead as it was stored. -/
  | lead (record : LeadRecord) : ReceiptResult
  /-- The activity that was added. -/
  | activity (record : LeadActivityRecord) : ReceiptResult
  /-- A reassignment request, with the number of follow-ups its approval moved. -/
  | reassignment (requestId : String) (transferredFollowUpCount : Option ℕ) : ReceiptResult

/-- A row of `lead_mutation_receipts`. -/
structure LeadMutationReceipt where
  (leadId idempotencyKey fingerprint operation : String)
  result : ReceiptResult

def LeadMutationReceipt.keys (r : LeadMutationReceipt) : List String := [r.idempotencyKey]

end CrmYnov.Leads
