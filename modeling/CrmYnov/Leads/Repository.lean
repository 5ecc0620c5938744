import CrmYnov.Platform.Database
import Mathlib.Data.List.Sort

/-!
# The persistence of leads

Reading is one snapshot of all leads and activities. Writing is one transaction
per mutation: it answers a known key from its receipt, and otherwise compares the
version of the lead with the one the caller started from, stores the lead, its
new activities, an audit event, a receipt and an outbox event, or nothing of
all this.
-/

namespace CrmYnov.Leads

open Checked LeadRow References

/-! ### Reading -/

def sortByInstant {ρ : Type} (at_ : ρ → Instant) (id : ρ → String) (rows : List ρ) : List ρ :=
  rows.insertionSort fun r r' => at_ r < at_ r' ∨ (at_ r = at_ r' ∧ ¬id r' < id r)

def sortTexts (texts : List String) : List String := texts.insertionSort fun a b => ¬b < a

/-- A row as it is read: the optional texts that are empty are left out. -/
def LeadRow.read (row : LeadRow) : LeadRow :=
  { row with
    email := nonEmpty row.email, phone := nonEmpty row.phone
    assignmentMode := nonEmpty row.assignmentMode, importBatchId := nonEmpty row.importBatchId }

@[simp] theorem LeadRow.read_id (row : LeadRow) : row.read.id = row.id := rfl

variable (db : Database)

/-- `mapStoredLead`: a row with its active collaborators. -/
def mapStoredLead (row : LeadRow) : LeadRecord :=
  { row.read with collaboratorIds := sortTexts (db.activeCollaborators row.id) }

/-- The leads of `snapshot`. -/
def snapshotLeads : List LeadRecord := db.leads.rows.map (mapStoredLead db)

/-- The activities of `snapshot`, in the order they occurred. -/
def snapshotActivities : List LeadActivityRecord :=
  (sortByInstant LeadActivityRow.occurredAt LeadActivityRow.id db.leadActivities.rows).map
    mapActivity

/-- The row `findActivity` finds: under the key itself, or under the key of the
first activity of several. -/
def findActivityRow (idempotencyKey : String) : Option LeadActivityRow :=
  match db.leadActivities.findUnique (.idempotencyKey idempotencyKey) with
  | some row => some row
  | none => db.leadActivities.findUnique (.idempotencyKey (idempotencyKey ++ ":0"))

def findActivity (idempotencyKey : String) : Option LeadActivityRecord :=
  (findActivityRow db idempotencyKey).map mapActivity

/-! ### Mutations -/

inductive MutationOperation
  | UPDATE_LEAD | ADD_ACTIVITY | CORRECT_ACTIVITY | CHANGE_STATUS | ASSIGN | REASSIGN | COLLABORATOR
  | REASSIGNMENT_REQUEST | REASSIGNMENT_DECISION | COLLABORATION_REQUEST | COLLABORATION_DECISION
  | CLOSURE_DECISION
deriving DecidableEq

namespace MutationOperation

def text : MutationOperation → String
  | UPDATE_LEAD => "UPDATE_LEAD"
  | ADD_ACTIVITY => "ADD_ACTIVITY"
  | CORRECT_ACTIVITY => "CORRECT_ACTIVITY"
  | CHANGE_STATUS => "CHANGE_STATUS"
  | ASSIGN => "ASSIGN"
  | REASSIGN => "REASSIGN"
  | COLLABORATOR => "COLLABORATOR"
  | REASSIGNMENT_REQUEST => "REASSIGNMENT_REQUEST"
  | REASSIGNMENT_DECISION => "REASSIGNMENT_DECISION"
  | COLLABORATION_REQUEST => "COLLABORATION_REQUEST"
  | COLLABORATION_DECISION => "COLLABORATION_DECISION"
  | CLOSURE_DECISION => "CLOSURE_DECISION"

/-- `mutationEvents`: the audit event of an operation. -/
def event : MutationOperation → String
  | UPDATE_LEAD => "LEAD_UPDATED"
  | ADD_ACTIVITY => "LEAD_ACTIVITY_ADDED"
  | CORRECT_ACTIVITY => "LEAD_ACTIVITY_COMPENSATED"
  | CHANGE_STATUS => "LEAD_STATUS_CHANGED"
  | ASSIGN => "LEAD_ASSIGNED"
  | REASSIGN => "LEAD_REASSIGNED"
  | COLLABORATOR => "LEAD_COLLABORATOR_CHANGED"
  | REASSIGNMENT_REQUEST => "REASSIGNMENT_REQUESTED"
  | REASSIGNMENT_DECISION => "REASSIGNMENT_DECIDED"
  | COLLABORATION_REQUEST => "COLLABORATION_REQUESTED"
  | COLLABORATION_DECISION => "COLLABORATION_DECIDED"
  | CLOSURE_DECISION => "CLOSURE_DECIDED"

end MutationOperation

inductive AssignmentOrigin
  | AUTOMATIC | MANUAL
deriving DecidableEq

structure AssignmentAudit where
  origin : AssignmentOrigin
  decisionRef : String
  configurationVersion : Option ℕ
  ruleId : Option String
  (requestHash selectedUserId : String)
  algorithmVersion : Option String := none

def AssignmentAudit.members (a : AssignmentAudit) : List (String × Option Js.Json) :=
  [("origin", some (.str (match a.origin with | .AUTOMATIC => "AUTOMATIC" | .MANUAL => "MANUAL"))),
    ("decisionRef", some (.str a.decisionRef)),
    ("configurationVersion", some ((a.configurationVersion.map Js.Json.nat).getD .null)),
    ("ruleId", some ((a.ruleId.map Js.Json.str).getD .null)),
    ("requestHash", some (.str a.requestHash)), ("selectedUserId", some (.str a.selectedUserId)),
    ("algorithmVersion", a.algorithmVersion.map Js.Json.str)]

/-- What the world gives to a call: the identifiers it draws, its clock and the
clock of the database. -/
structure Occasion where
  (activityId outboxId : String)
  (now storedAt : Instant)

variable (rt : Runtime)

/-- `fingerprint(value)` -/
def fingerprint (value : Js.Json) : String := rt.sha256 value.stringify

def requireAuditActor (principal : Principal) : Outcome Unit :=
  require (principal.userId ≠ "" ∧ principal.sessionId ≠ "" ∧ principal.roles ≠ [])
    (.http .unauthorized "audit_actor_required")

/-- `replay`: the result a receipt keeps, for the request it was made for. -/
def replay (receipt : LeadMutationReceipt) (fingerprint : String) : Outcome ReceiptResult := do
  require (receipt.fingerprint = fingerprint) (.conflict "lead_idempotency_conflict")
  pure receipt.result

/-- `mayPreserveBaselineUnknown` for a field of the current lead. -/
def mayPreserveBaselineUnknown (current : LeadRow) (field : LeadRow → String) : Prop :=
  current.acquisitionKind = .BASELINE ∧ ¬Js.present (field current)
deriving Decidable

/-- `BASELINE_OPTIONAL_INFORMATION` -/
def baselineOptionalInformation : List (LeadRow → String) :=
  [program, educationLevel]

variable (db : Database)

/-- Whether a mutation may leave the program of a baseline lead blank. -/
def allowMissingBaselineProgram (before after : LeadRow) : Outcome Bool := do
  if ∃ field ∈ baselineOptionalInformation, ¬Js.present (field after) then
    let current ← demand (db.lead before.id) (.conflict "lead_concurrent_mutation")
    require (current.version = before.version) (.conflict "lead_concurrent_mutation")
    require
      (∀ field ∈ baselineOptionalInformation,
        ¬Js.present (field after) → mayPreserveBaselineUnknown current field)
      (.badRequest "lead_required_field_missing")
    pure (decide (mayPreserveBaselineUnknown current program))
  else pure false

/-- The other lead has the same e-mail address, whatever its letter case. -/
def sameEmail (after other : LeadRow) : Prop :=
  (nonEmpty after.email).isSome ∧
    other.email.map rt.unicode.toLowerCase = after.email.map rt.unicode.toLowerCase
deriving Decidable

def samePhone (after other : LeadRow) : Prop :=
  (nonEmpty after.phone).isSome ∧ other.phone = after.phone
deriving Decidable

def assertNoContactCollision (operation : MutationOperation) (after : LeadRow) : Outcome Unit :=
  if operation = .UPDATE_LEAD then
    match db.leads.findFirst fun other =>
        other.id ≠ after.id ∧ (sameEmail rt after other ∨ samePhone after other) with
    | none => pure ()
    | some other =>
      .error (.http .conflict "lead_contact_collision"
        ((if other.email.map rt.unicode.toLowerCase = after.email.map rt.unicode.toLowerCase
            then ["email"] else []) ++
          if other.phone = after.phone then ["phone"] else []))
  else pure ()

/-- The columns a mutation writes. -/
def LeadRow.mutate (after row : LeadRow) : LeadRow :=
  { row with
    firstName := after.firstName, lastName := after.lastName, email := after.email,
    phone := after.phone, campus := after.campus, campaign := after.campaign,
    educationLevel := after.educationLevel, program := after.program, source := after.source,
    status := after.status, assignedToId := after.assignedToId,
    assignmentMode := after.assignmentMode, nextActionAt := after.nextActionAt,
    lastActivityAt := after.lastActivityAt, version := row.version + 1 }

theorem LeadRow.keys_mutate (after row : LeadRow) : (after.mutate row).keys = row.keys := rfl

/-- The lead is still at the version a mutation started from. -/
def AtVersion (before row : LeadRow) : Prop := row.id = before.id ∧ row.version = before.version
deriving Decidable

def updateLeadVersion (before after : LeadRow) : Outcome Database := do
  require (db.leads.count (AtVersion before) = 1) (.conflict "lead_concurrent_mutation")
  pure { db with
    leads := db.leads.updateMany (AtVersion before) after.mutate (keys_mutate after) }

def addActivities (db : Database) : List LeadActivityRow → Outcome Database
  | [] => pure db
  | row :: rows => do
    let db ← db.addActivity row
    addActivities db rows

/-- `appendActivities`: the only activity under the key itself, several under
numbered keys. -/
def activityRows (activities : List LeadActivityRecord) (idempotencyKey : String) :
    List LeadActivityRow :=
  match activities with
  | [activity] => [activityData activity idempotencyKey]
  | activities => activities.mapIdx fun index activity =>
    activityData activity (idempotencyKey ++ ":" ++ toString index)

variable (c : LeadCollaboratorRow)

def LeadCollaboratorRow.withdraw : LeadCollaboratorRow :=
  { c with active := false }

theorem LeadCollaboratorRow.keys_withdraw : c.withdraw.keys = c.keys := rfl

def LeadCollaboratorRow.admit : LeadCollaboratorRow :=
  { c with active := true }

theorem LeadCollaboratorRow.keys_admit : c.admit.keys = c.keys := rfl

/-- `leadCollaborator.upsert`: the user collaborates on the lead. -/
def admitCollaborator (leadId : String)
    (t : Table LeadCollaboratorRow LeadCollaboratorRow.keys) (userId : String) :
    Table LeadCollaboratorRow LeadCollaboratorRow.keys :=
  match t.create { leadId, userId, active := true } with
  | some t' => t'
  | none => t.updateMany (fun c => c.leadId = leadId ∧ c.userId = userId)
    LeadCollaboratorRow.admit LeadCollaboratorRow.keys_admit

/-- `replaceCollaboratorsInTransaction` -/
def replaceCollaborators (leadId : String) (userIds : List String) : Database :=
  let kept := db.leadCollaborators.updateMany
    (fun c => c.leadId = leadId ∧ c.active ∧ c.userId ∉ userIds)
    LeadCollaboratorRow.withdraw LeadCollaboratorRow.keys_withdraw
  { db with leadCollaborators := userIds.foldl (admitCollaborator leadId) kept }

def auditCampus (lead : LeadRow) (automatic : Bool) : Outcome String :=
  if automatic then
    (canonicalCampus rt db.references lead.campus).map CanonicalCampus.id
  else pure lead.campus

def auditMutation (eventType leadId : String) (version : ℕ) (key : String) (principal : Principal)
    (correlationId : String) (assignment : Option AssignmentAudit) : Outcome Database := do
  let lead ← demand (db.lead leadId) .database
  let automatic := eventType = "LEAD_ASSIGNED" ∧ ∃ a ∈ assignment, a.origin = .AUTOMATIC
  let campusId ← auditCampus rt db lead automatic
  db.audit {
    eventType, resourceId := leadId, campusId, actorId := principal.userId
    actorRoles := principal.roles
    sessionId := if automatic then some principal.sessionId else none
    correlationId
    idempotencyKey := (assignment.map AssignmentAudit.decisionRef).getD
      ("lead-audit:" ++ rt.sha256 key)
    before := .null
    after := .present ([("version", some (.nat version)), ("scope", some (.str "CAMPUS"))] ++
      (assignment.map AssignmentAudit.members).getD []) }

def LeadStatus.text : LeadStatus → String
  | PROSPECT => "PROSPECT"
  | CONTACTED => "CONTACTED"
  | QUALIFIED => "QUALIFIED"
  | ENROLLED => "ENROLLED"
  | CLOSED_LOST => "CLOSED_LOST"

structure PersistMutationInput where
  (before after : LeadRecord)
  activities : List LeadActivityRecord
  idempotencyKey : String
  operation : MutationOperation
  fingerprint : String
  principal : Principal
  correlationId : String
  assignmentAudit : Option AssignmentAudit := none

def PersistMutationInput.event (input : PersistMutationInput) (result : LeadRecord) :
    Outbox.OutboxInput where
  topic := "LEAD.MUTATED"
  aggregateType := "LEAD"
  aggregateId := result.id
  idempotencyKey := "outbox:" ++ input.idempotencyKey
  payload := .obj [("operation", .str input.operation.text), ("status", .str result.status.text),
    ("version", .nat result.version),
    ("activityTypes", .arr (input.activities.map fun a => .str a.type.text))]

/-- The first commercial contact with a prospect is audited besides the activity
that made it. -/
def auditFirstContact (input : PersistMutationInput) (result : LeadRecord) : Outcome Database :=
  if input.operation = .ADD_ACTIVITY ∧ input.before.status = .PROSPECT ∧
      result.status = .CONTACTED then
    db.audit {
      eventType := "LEAD_STATUS_CHANGED", resourceId := result.id, campusId := result.campus
      actorId := input.principal.userId, actorRoles := input.principal.roles
      sessionId := some input.principal.sessionId, correlationId := input.correlationId
      idempotencyKey := "first-contact:" ++ input.idempotencyKey
      before := .obj [("status", .str "PROSPECT")]
      after := .obj [("status", .str "CONTACTED"), ("policy", .str "FIRST_COMMERCIAL_CONTACT_V1")] }
  else pure db

def persistMutationRelations (input : PersistMutationInput) (result : LeadRecord) (o : Occasion) :
    Outcome Database := do
  let db := if input.operation = .COLLABORATOR
    then replaceCollaborators db result.id result.collaboratorIds else db
  let assignment := if input.operation = .ASSIGN then input.assignmentAudit else none
  let db ← auditMutation rt db input.operation.event result.id result.version input.idempotencyKey
    input.principal input.correlationId assignment
  let db ← auditFirstContact db input result
  let db ← db.addReceipt {
    leadId := result.id, idempotencyKey := input.idempotencyKey, fingerprint := input.fingerprint
    operation := input.operation.text, result := .lead result }
  let (_, localOutboxEvents) ← Outbox.enqueueInTransaction rt.jsonb (input.event result) o.outboxId
    o.storedAt db.localOutboxEvents
  pure { db with localOutboxEvents }

/-- `persistMutationInTransaction`, for a key without a receipt. -/
def persistMutationInTransaction (input : PersistMutationInput) (o : Occasion) :
    Outcome (ReceiptResult × Database) := do
  let allow ← allowMissingBaselineProgram db input.before.toLeadRow input.after.toLeadRow
  let references ← validateLeadReferences rt db.references input.after.referenceValues
    (some input.before.referenceValues) allow
  let after := { input.after with
    campus := references.campus, program := references.program, campaign := references.campaign }
  assertNoContactCollision rt db input.operation after.toLeadRow
  let db ← updateLeadVersion db input.before.toLeadRow after.toLeadRow
  let db ← addActivities db (activityRows input.activities input.idempotencyKey)
  let result := { after with version := input.before.version + 1 }
  let db ← persistMutationRelations rt db input result o
  pure (.lead result, db)

/-- `persistMutation`, with the effect a workflow adds to the transaction. -/
def persistMutation (input : PersistMutationInput) (o : Occasion)
    (atomicEffect : Database → Outcome Database := pure) : Outcome (ReceiptResult × Database) := do
  requireAuditActor input.principal
  match db.leadMutationReceipts.findUnique input.idempotencyKey with
  | some receipt =>
    let result ← replay receipt input.fingerprint
    pure (result, db)
  | none =>
    let (result, db) ← persistMutationInTransaction rt db input o
    let db ← atomicEffect db
    pure (result, db)

/-! ### What a mutation writes -/

variable {rt} {db db' : Database}

theorem addActivities_ok {rows : List LeadActivityRow} (h : addActivities db rows = .ok db') :
    ∃ t, t.rows = db.leadActivities.rows ++ rows ∧ { db with leadActivities := t } = db' := by
  induction rows generalizing db with
  | nil =>
    obtain rfl := pure_ok_iff.mp h
    exact ⟨db.leadActivities, by simp, rfl⟩
  | cons row rows ih =>
    simp only [addActivities, bind_ok_iff, Database.addActivity_ok_iff] at h
    obtain ⟨-, ⟨t, hcreate, rfl⟩, h⟩ := h
    obtain ⟨t', hrows, rfl⟩ := ih h
    refine ⟨t', ?_, rfl⟩
    rw [hrows, Table.create_rows hcreate, List.append_assoc]
    rfl

theorem auditMutation_ok {eventType leadId key correlationId : String} {version : ℕ}
    {principal : Principal} {assignment : Option AssignmentAudit}
    (h : auditMutation rt db eventType leadId version key principal correlationId assignment =
      .ok db') : ∃ t, { db with auditEvents := t } = db' := by
  simp only [auditMutation, bind_ok_iff, Database.audit_ok_iff] at h
  obtain ⟨-, -, -, -, t, -, rfl⟩ := h
  exact ⟨t, rfl⟩

variable {input : PersistMutationInput}

theorem auditFirstContact_ok {result : LeadRecord} (h : auditFirstContact db input result = .ok db') :
    ∃ t, { db with auditEvents := t } = db' := by
  rw [auditFirstContact] at h
  split at h
  · obtain ⟨t, -, rfl⟩ := Database.audit_ok_iff.mp h
    exact ⟨t, rfl⟩
  · cases h
    exact ⟨db.auditEvents, rfl⟩

/-- What the transaction of a mutation writes, for a key without a receipt: the
lead at its version, the new activities, the collaborators when they are what is
changed, and the receipt. -/
structure Written (db : Database) (input : PersistMutationInput)
    (references : LeadReferenceValues) (db' : Database) : Prop where
  version : db.leads.count (AtVersion input.before.toLeadRow) = 1
  leads : db'.leads = db.leads.updateMany (AtVersion input.before.toLeadRow)
    (mutate { input.after.toLeadRow with
      campus := references.campus, program := references.program, campaign := references.campaign })
    (keys_mutate _)
  activities : db'.leadActivities.rows =
    db.leadActivities.rows ++ activityRows input.activities input.idempotencyKey
  collaborators : db'.leadCollaborators =
    if input.operation = .COLLABORATOR
    then (replaceCollaborators db input.after.id input.after.collaboratorIds).leadCollaborators
    else db.leadCollaborators
  reassignmentRequests : db'.reassignmentRequests = db.reassignmentRequests
  leadFollowUps : db'.leadFollowUps = db.leadFollowUps

theorem persistMutationInTransaction_written {o : Occasion} {result : ReceiptResult}
    (h : persistMutationInTransaction rt db input o = .ok (result, db')) :
    ∃ references, Written db input references db' := by
  simp only [persistMutationInTransaction, updateLeadVersion, persistMutationRelations, bind_assoc,
    ok_iff, pure_bind, Database.addReceipt_ok_iff] at h
  obtain ⟨-, -, references, -, -, -, -, hver, db₁, hacts, db₂, haudit, db₃, hcontact, -,
    ⟨receipts, -, rfl⟩, -, -, -, rfl⟩ := h
  obtain ⟨activities, hrows, rfl⟩ := addActivities_ok hacts
  obtain ⟨audits, rfl⟩ := auditMutation_ok haudit
  obtain ⟨audits', rfl⟩ := auditFirstContact_ok hcontact
  refine ⟨references, hver, ?_, ?_, ?_, ?_, ?_⟩ <;>
    by_cases hop : input.operation = .COLLABORATOR <;> simp [hop, hrows, replaceCollaborators]

/-- **What a persisted mutation did**: it was answered from its receipt, or its
transaction wrote what it had to and the workflow added its effect. -/
theorem persistMutation_cases {o : Occasion} {atomicEffect : Database → Outcome Database}
    {result : ReceiptResult} (h : persistMutation rt db input o atomicEffect = .ok (result, db')) :
    (∃ receipt, db.leadMutationReceipts.findUnique input.idempotencyKey = some receipt ∧
      receipt.fingerprint = input.fingerprint ∧ db' = db) ∨
    (db.leadMutationReceipts.findUnique input.idempotencyKey = none ∧
      ∃ references db₁, Written db input references db₁ ∧ atomicEffect db₁ = .ok db') := by
  simp only [persistMutation, bind_ok_iff] at h
  obtain ⟨-, -, h⟩ := h
  split at h
  · rename_i receipt hrec
    simp only [replay, bind_assoc, pure_bind, ok_iff] at h
    obtain ⟨-, hprint, -, rfl⟩ := h
    exact .inl ⟨receipt, hrec, hprint, rfl⟩
  · rename_i hrec
    simp only [ok_iff] at h
    obtain ⟨⟨result', db₁⟩, hwritten, db₂, heff, -, rfl⟩ := h
    obtain ⟨references, hwritten⟩ := persistMutationInTransaction_written hwritten
    exact .inr ⟨hrec, references, db₁, hwritten, heff⟩

end CrmYnov.Leads

/-!
## Meetings on a lead

Appointments and admissions bookings leave the same trace on their lead: an
activity of type `MEETING`, and an update that counts a version, dates the last
activity and either writes a next action, clears the one the meeting had written,
or leaves it alone.
-/

namespace CrmYnov.Leads

open Checked

structure Meeting where
  (activityId leadId result authorId correlationId idempotencyKey : String)
  occurredAt : Instant
  /-- The next action the meeting writes. -/
  nextActionAt : Option Instant
  /-- The next actions the meeting clears when it writes none. -/
  clears : List Instant

namespace Meeting

variable (m : Meeting)

def activity : LeadActivityRow :=
  activityData {
    id := m.activityId, leadId := m.leadId, type := .MEETING, result := m.result
    authorId := m.authorId, nextActionAt := m.nextActionAt, correlationId := m.correlationId
    occurredAt := m.occurredAt } m.idempotencyKey

def nextAction (current : Option Instant) : Option Instant :=
  match m.nextActionAt with
  | some t => some t
  | none => current.filter fun t => t ∉ m.clears

def touch (l : LeadRow) : LeadRow :=
  { l with
    lastActivityAt := some m.occurredAt, nextActionAt := m.nextAction l.nextActionAt
    version := l.version + 1 }

theorem keys_touch (l : LeadRow) : (m.touch l).keys = l.keys := rfl

/-- Store the activity and update the lead. -/
def record (db : Database) : Outcome Database := do
  let db ← db.addActivity m.activity
  let _ ← demand (db.lead m.leadId) .database
  pure { db with leads := db.leads.updateMany (fun l => l.id = m.leadId) m.touch m.keys_touch }

/-- **A meeting writes its activity and its lead**, and nothing else. -/
theorem record_ok {m : Meeting} {db db' : Database} (h : m.record db = .ok db') :
    (db.lead m.leadId).isSome ∧ ∃ t, { db with
      leadActivities := t
      leads := db.leads.updateMany (fun l => l.id = m.leadId) m.touch m.keys_touch } = db' := by
  simp only [record, ok_iff, Database.addActivity_ok_iff] at h
  obtain ⟨_, ⟨t, -, rfl⟩, l, hlead, hdb⟩ := h
  have hlead' : db.lead m.leadId = some l := hlead
  exact ⟨by simp [hlead'], t, hdb⟩

end Meeting

end CrmYnov.Leads
