import CrmYnov.Admissions.Types
import CrmYnov.FollowUp.Types
import CrmYnov.Ingestion.Rows
import CrmYnov.Leads.Requests
import CrmYnov.Outbox.Event
import CrmYnov.Permissions.Contract
import CrmYnov.Users.Types

/-!
# The database

The tables the services share. A transaction is a computation that takes a
database to a database or fails; when it fails nothing of it remains, because
the database it would have left is never returned.
-/

namespace CrmYnov

open Checked Ingestion Leads Appointments Admissions FollowUp List

/-- A row of `audit_events`. -/
structure AuditEventRow where
  eventType : String
  resourceType : String := "LEAD"
  resourceId : String
  campusId : Option String
  actorId : String
  actorRoles : List Role
  sessionId : Option String
  (correlationId idempotencyKey : String)
  (before after : Js.Json)
  result : String := "SUCCESS"

def AuditEventRow.keys (e : AuditEventRow) : List String := [e.idempotencyKey]

/-- A row of `internal_notifications`. -/
structure InternalNotificationRow where
  (recipientId type : String)
  priority : String := "NORMAL"
  resourceType : String := "LEAD"
  (resourceId href deduplicationKey fingerprint : String)

def InternalNotificationRow.keys (n : InternalNotificationRow) : List String :=
  [n.deduplicationKey]

/-- `notificationFingerprint`: the digest of what a notification says. -/
def notificationFingerprint (rt : Runtime)
    (recipientId type priority resourceType resourceId href : String) : String :=
  rt.sha256 (Js.Json.stringify (.obj [("recipientId", .str recipientId), ("type", .str type),
    ("priority", .str priority), ("resourceType", .str resourceType),
    ("resourceId", .str resourceId), ("href", .str href)]))

structure Database where
  references : References.Store := .empty
  leads : Table LeadRow LeadRow.keys := .empty
  leadCollaborators : Table LeadCollaboratorRow LeadCollaboratorRow.keys := .empty
  leadActivities : Table LeadActivityRow LeadActivityRow.keys := .empty
  leadMutationReceipts : Table LeadMutationReceipt LeadMutationReceipt.keys := .empty
  leadFollowUps : Table LeadFollowUpRow LeadFollowUpRow.keys := .empty
  leadFollowUpMutationReceipts : Table LeadFollowUpMutationReceipt
    LeadFollowUpMutationReceipt.keys := .empty
  leadClosureRequests : Table Closure.LeadClosureRequestRow
    Closure.LeadClosureRequestRow.keys := .empty
  reassignmentRequests : Table Assignment.ReassignmentRequestRow
    Assignment.ReassignmentRequestRow.keys := .empty
  auditEvents : Table AuditEventRow AuditEventRow.keys := .empty
  internalNotifications : Table InternalNotificationRow InternalNotificationRow.keys := .empty
  localOutboxEvents : Outbox.Store := .empty
  collaborators : Table Users.CollaboratorRow Users.CollaboratorRow.keys := .empty
  rolePermissionConfigurations : Table Permissions.RolePermissionConfigurationRow
    Permissions.RolePermissionConfigurationRow.keys := .empty
  ingestionBatches : Table IngestionBatchRow IngestionBatchRow.keys := .empty
  importReports : Table ImportReportRow ImportReportRow.keys := .empty
  leadProvenances : Table LeadProvenanceRow LeadProvenanceRow.keys := .empty
  ingestionReviewItems : Table IngestionReviewItemRow
    IngestionReviewItemRow.keys := .empty
  appointments : Table AppointmentRow AppointmentRow.keys := .empty
  appointmentEvents : Table AppointmentEventRow
    AppointmentEventRow.keys := .empty
  interviewReports : Table InterviewReportRow
    InterviewReportRow.keys := .empty
  admissionsResponsibilities : Table AdmissionsResponsibilityRow
    AdmissionsResponsibilityRow.keys := .empty
  admissionsWindows : Table AdmissionsWindowRow
    AdmissionsWindowRow.keys := .empty
  admissionsBookings : Table AdmissionsBookingRow
    AdmissionsBookingRow.keys := .empty
  admissionsMutationReceipts : Table AdmissionsMutationReceiptRow
    AdmissionsMutationReceiptRow.keys := .empty
  leadCollaborationRequests : Table Collaboration.LeadCollaborationRequestRow
    Collaboration.LeadCollaborationRequestRow.keys := .empty

/-- `tx.row.create({ data })`: a row whose keys are taken is refused by the
database. -/
def insert {ρ κ : Type*} [DecidableEq κ] {keys : ρ → List κ} (t : Table ρ keys) (row : ρ) :
    Outcome (Table ρ keys) := demand (t.create row) .database

theorem insert_ok_iff {ρ κ : Type*} [DecidableEq κ] {keys : ρ → List κ} {t t' : Table ρ keys}
    {row : ρ} : insert t row = .ok t' ↔ t.create row = some t' := demand_ok_iff

theorem insertAll_rows {ρ κ : Type*} [DecidableEq κ] {keys : ρ → List κ} {t t' : Table ρ keys}
    {rows : List ρ} (h : rows.foldlM insert t = .ok t') : t'.rows = t.rows ++ rows := by
  induction rows generalizing t with
  | nil =>
    rw [foldlM_nil, pure_ok_iff] at h
    rw [← h, append_nil]
  | cons row rows ih =>
    rw [foldlM_cons, bind_ok_iff] at h
    obtain ⟨t₁, hcreate, h⟩ := h
    rw [ih h, Table.create_rows (insert_ok_iff.mp hcreate), append_assoc, singleton_append]

namespace Database

variable (db : Database)

def lead (id : String) : Option LeadRow := db.leads.findUnique (.id id)

theorem lead_eq_some {db : Database} {id : String} {l : LeadRow} :
    db.lead id = some l ↔ l ∈ db.leads.rows ∧ l.id = id := by
  rw [lead, Table.findUnique_eq_some, LeadRow.mem_keys_id]

def activeCollaborators (leadId : String) : List String :=
  (db.leadCollaborators.findMany fun c => c.leadId = leadId ∧ c.active).map
    LeadCollaboratorRow.userId

def audit (event : AuditEventRow) : Outcome Database := do
  let auditEvents ← insert db.auditEvents event
  pure { db with auditEvents }

def addActivity (row : LeadActivityRow) : Outcome Database := do
  let leadActivities ← insert db.leadActivities row
  pure { db with leadActivities }

def addReceipt (receipt : LeadMutationReceipt) : Outcome Database := do
  let leadMutationReceipts ← insert db.leadMutationReceipts receipt
  pure { db with leadMutationReceipts }

variable {db db' : Database}

theorem audit_ok_iff {event : AuditEventRow} :
    db.audit event = .ok db' ↔ ∃ t, db.auditEvents.create event = some t ∧
      { db with auditEvents := t } = db' := by
  simp only [audit, ok_iff, insert_ok_iff]

theorem addActivity_ok_iff {row : LeadActivityRow} :
    db.addActivity row = .ok db' ↔ ∃ t, db.leadActivities.create row = some t ∧
      { db with leadActivities := t } = db' := by
  simp only [addActivity, ok_iff, insert_ok_iff]

theorem addReceipt_ok_iff {receipt : LeadMutationReceipt} :
    db.addReceipt receipt = .ok db' ↔ ∃ t, db.leadMutationReceipts.create receipt = some t ∧
      { db with leadMutationReceipts := t } = db' := by
  simp only [addReceipt, ok_iff, insert_ok_iff]

end Database

end CrmYnov
