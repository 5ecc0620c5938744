import CrmYnov.Appointments.Locks
import CrmYnov.Js.Date
import CrmYnov.Leads.Memory

/-!
# Appointments

An appointment is created as a draft or planned, moves from state to state until
it is over, and may be reported on. Each call first reads the whole state into the
memory of its process, decides there what to write, and writes it in one
transaction; the calls of this module are these two steps in a row.

A key that has been used is answered from the events: the call that used it is
recognized by a signature of its request (`receipt?`), and nothing is written.
An appointment that has a booking is not moved here: its booking decides.
-/

namespace CrmYnov.Appointments

open Checked Js Leads AppointmentState

/-! ### What a creation is recognized by

A creation of an appointment is identified by a digest of its inputs. The digest
is not stored with the appointment, whose state and start change later: it is
computed again from the audit event of the creation, which keeps both, and the
other inputs, which do not change. -/

section

def creationText (a : AppointmentRow) : String :=
  Json.stringify (.present [("leadId", some (.str a.leadId)), ("type", some (.str a.type.text)),
    ("mode", some (.str a.mode.text)), ("startsAt", some (.str (isoString a.startsAt))),
    ("duration", some (.nat a.durationMinutes)), ("campus", a.campus.map .str),
    ("adviserId", some (.str a.adviserId)), ("evaluatorId", a.evaluatorId.map .str),
    ("participantIds", some (.arr ((Leads.sortTexts a.participantIds).map .str))),
    ("state", some (.str a.state.text))])

variable (rt : Runtime) (a : AppointmentRow)

def appointmentCreationSignature : String := rt.sha256 (creationText a)

def textMember (members : List (String × Json)) (name : String) : Option String :=
  match (members.find? fun m => m.1 = name).map Prod.snd with
  | some (.str s) => some s
  | _ => none

/-- `after.campus ?? undefined` agrees with a campus. -/
def agreesOnCampus (members : List (String × Json)) (campus : Option String) : Bool :=
  match (members.find? fun m => m.1 = "campus").map Prod.snd with
  | none | some .null => campus.isNone
  | some (.str s) => campus == some s
  | _ => false

def agreesOnNumber (members : List (String × Json)) (name : String) (n : ℕ) : Bool :=
  match (members.find? fun m => m.1 = name).map Prod.snd with
  | some (.num text) => text == toString n
  | _ => false

def absentOr (members : List (String × Json)) (name text : String) : Bool :=
  match (members.find? fun m => m.1 = name).map Prod.snd with
  | none => true
  | some (.str s) => s == text
  | _ => false

/-- The audit event describes an appointment, up to its state and start. -/
def describes (members : List (String × Json)) (a : AppointmentRow) : Bool :=
  textMember members "appointmentId" == some a.id && textMember members "leadId" == some a.leadId &&
    textMember members "type" == some a.type.text && textMember members "mode" == some a.mode.text &&
    agreesOnNumber members "durationMinutes" a.durationMinutes &&
    agreesOnCampus members a.campus

def creationSignatureFromAudit (value : Json) : Option String :=
  match value with
  | .obj members =>
    if describes members a then do
      let text ← textMember members "state"
      let state ← AppointmentState.ofText? text
      let startsAt ← (textMember members "startsAt").bind rt.parseDate
      if state = .BROUILLON ∨ state = .PLANIFIE then
        let signature := appointmentCreationSignature rt { a with state, startsAt }
        if absentOr members "creationSignature" signature then some signature else none
      else none
    else none
  | _ => none

/-- The `after` value of the audit events of appointments. -/
def auditAfter (creation : Bool) : Json :=
  .present [("appointmentId", some (.str a.id)), ("leadId", some (.str a.leadId)),
    ("type", some (.str a.type.text)), ("mode", some (.str a.mode.text)),
    ("state", some (.str a.state.text)), ("startsAt", some (.str (isoString a.startsAt))),
    ("durationMinutes", some (.nat a.durationMinutes)), ("campus", a.campus.map .str),
    ("version", some (.nat a.version)),
    ("creationSignature",
      if creation then some (.str (appointmentCreationSignature rt a)) else none)]

end

/-! ### Inputs -/

structure AppointmentInput where
  type : Option String := none
  mode : Option String := none
  startsAt : Option String := none
  durationMinutes : Option ℤ := none
  campus : Option String := none
  adviserId : Option String := none
  evaluatorId : Option String := none
  participantIds : Option (List String) := none
  state : Option String := none
  idempotencyKey : Option String := none

structure TransitionInput where
  state : Option String := none
  reason : Option String := none
  expectedVersion : Option ℤ := none
  idempotencyKey : Option String := none
  startsAt : Option String := none

structure CompensationInput where
  originalEventId : Option String := none
  reason : Option String := none
  idempotencyKey : Option String := none

structure ReportInput where
  result : Option String := none
  comment : Option String := none
  missingPoints : Option String := none
  nextAction : Option String := none
  followUpAt : Option String := none
  recommendation : Option String := none
  expectedVersion : Option ℤ := none

/-- What the world gives to a call: its clock and the identifiers it draws. -/
structure AppointmentOccasion where
  now : Instant
  (rowId eventId activityId : String)

/-! ### Reading -/

def mapAppointment (row : AppointmentRow) : AppointmentRow :=
  { row with
    campus := nonEmpty row.campus
    evaluatorId := nonEmpty row.evaluatorId
    participantIds := sortTexts row.participantIds }

/-- `this.items.get(id)` -/
def item? (db : Database) (id : String) : Option AppointmentRow :=
  (db.appointments.findUnique id).map mapAppointment

def event? (db : Database) (key : String) : Option AppointmentEventRow :=
  db.appointmentEvents.findUnique (.idempotencyKey key)

/-- `this.isManager(principal)` -/
def isManager (principal : Principal) : Prop := principal.hasSome Principal.managers
deriving Decidable

def operationalRoles : List Role := [.ADMISSIONS, .MANAGER, .ADMIN, .SUPER_ADMIN]

def readRoles : List Role := [.ADMISSIONS, .MANAGER, .ADMIN, .SUPER_ADMIN, .AUDITOR]

def canAccess (a : AppointmentRow) (principal : Principal) : Prop :=
  (∃ scope ∈ principal.scopes, scope = .GLOBAL ∨ a.campus.map Scope.CAMPUS = some scope) ∧
    (isManager principal ∨ principal.userId ∈ a.involved)
deriving Decidable

def authorized (db : Database) (id : String) (principal : Principal) : Outcome AppointmentRow := do
  let current ← demand (item? db id) (.notFound "appointment_not_found")
  require (canAccess current principal) (.notFound "appointment_not_found")
  require (principal.hasSome readRoles) (.forbidden "role_forbidden")
  let _ ← demand (db.lead current.leadId) (.notFound "lead_not_found")
  pure current

/-! ### Receipts -/

variable (rt : Runtime)

def auditKey (key : String) : String := "appointment-audit-" ++ rt.sha256 key

variable (db : Database)

/-- The signature of the creation that used a key, when its audit event proves
it. -/
def creationReceipt (event : AppointmentEventRow) (record : AppointmentRow) : Option String := do
  let audit ← db.auditEvents.findUnique (auditKey rt event.idempotencyKey)
  if audit.resourceType = "APPOINTMENT" ∧ audit.eventType = "APPOINTMENT_CREATED" ∧
      audit.result = "SUCCESS" ∧ audit.resourceId = record.id then
    creationSignatureFromAudit rt record audit.after
  else none

structure Receipt where
  (signature id : String)

/-- The signature of the request that used the key of an event. -/
def eventSignature (event : AppointmentEventRow) (record : AppointmentRow) : String :=
  if event.eventType = "APPOINTMENT_CREATED" then
    (creationReceipt rt db event record).getD "missing_creation_evidence"
  else record.id ++ ":" ++ (event.toState.getD record.state).text

/-- `this.receipts.get(key)`, after `refreshPersistentState` -/
def receipt? (key : String) : Option Receipt := do
  let event ← event? db key
  let record ← item? db event.appointmentId
  some { signature := eventSignature rt db event record, id := record.id }

/-! ### Deciding -/

/-- `new BadRequestException({ code: "appointment_invalid" })` -/
def appointmentInvalid : Failure := .badRequest "appointment_invalid"

def adviserOf (lead : LeadRow) (input : AppointmentInput) (principal : Principal) : String :=
  (input.adviserId.or lead.assignedToId).getD principal.userId

def participantsOf (input : AppointmentInput) : List String :=
  sortTexts (unique ((input.participantIds.getD []).filter fun id => id ≠ ""))

def campusOf (lead : LeadRow) (input : AppointmentInput) : String :=
  (input.campus.map trim).getD lead.campus

/-- The inputs of a creation, checked and completed. -/
def draft (lead : LeadRow) (input : AppointmentInput) (principal : Principal)
    (o : AppointmentOccasion) : Outcome AppointmentRow := do
  let type ← demand (input.type.bind AppointmentType.ofText?) appointmentInvalid
  let mode ← demand (input.mode.bind AppointmentMode.ofText?) appointmentInvalid
  let state ← demand (ofText? (input.state.getD "PLANIFIE")) appointmentInvalid
  require (state = .BROUILLON ∨ state = .PLANIFIE) appointmentInvalid
  let startsAt ← demand (rt.parseDate (input.startsAt.getD "")) appointmentInvalid
  let duration := input.durationMinutes.getD 0
  require (15 ≤ duration ∧ duration ≤ 480 ∧ isCorrectionKey (input.idempotencyKey.getD ""))
    appointmentInvalid
  require (mode = .SUR_SITE → (nonEmpty (input.campus.map trim)).isSome ∧
      input.campus.map trim = some lead.campus)
    (.badRequest "appointment_campus_required")
  pure {
    id := o.rowId, leadId := lead.id, type, mode, state, startsAt
    durationMinutes := duration.toNat, campus := some (campusOf lead input)
    adviserId := adviserOf lead input principal, organizerId := principal.userId
    evaluatorId := nonEmpty input.evaluatorId, participantIds := participantsOf input }

/-- `create`: the appointment a call is about and the event it has appended, now
or when its key was first used. -/
def create (leadId : String) (input : AppointmentInput) (principal : Principal)
    (o : AppointmentOccasion) : Outcome (AppointmentRow × AppointmentEventRow) := do
  require (principal.hasSome operationalRoles) (.forbidden "appointment_role_forbidden")
  let lead ← demand (db.lead leadId) (.notFound "lead_not_found")
  require (principal.covers lead.campus) (.notFound "lead_not_found")
  let drafted ← draft rt lead input principal o
  let key := input.idempotencyKey.getD ""
  match receipt? rt db key with
  | some receipt =>
    require (receipt.signature = appointmentCreationSignature rt drafted)
      (.conflict "appointment_idempotency_conflict")
    let record ← demand (item? db receipt.id) .database
    let event ← demand (event? db key) (.error "appointment_create_event_missing")
    pure (record, event)
  | none =>
    require (o.now < drafted.startsAt) appointmentInvalid
    let record := { drafted with campus := nonEmpty drafted.campus }
    pure (record, {
      id := o.eventId, appointmentId := record.id, idempotencyKey := key
      eventType := "APPOINTMENT_CREATED", toState := some record.state
      actorId := principal.userId, occurredAt := o.now })

def reasoned : List AppointmentState := [.REPORTE, .ANNULE, .ABSENT, .REFUSE]

/-- `new ConflictException({ code: "appointment_transition_refused" })` -/
def transitionRefused : Failure := .conflict "appointment_transition_refused"

def nextStart (current : AppointmentRow) (next : AppointmentState) (input : TransitionInput)
    (o : AppointmentOccasion) : Outcome Instant :=
  if next = .REPORTE then
    demand ((rt.parseDate (input.startsAt.getD "")).filter fun t => o.now < t)
      (.badRequest "appointment_reschedule_invalid")
  else pure current.startsAt

/-- The new state, start and version of an appointment, checked. -/
def moved (current : AppointmentRow) (input : TransitionInput) (principal : Principal)
    (o : AppointmentOccasion) : Outcome AppointmentRow := do
  let next ← demand (input.state.bind ofText?) transitionRefused
  require (next ∈ current.state.transitions ∧ input.expectedVersion = some (current.version : ℤ))
    transitionRefused
  require (next ∈ reasoned → given input.reason ∧
      length (trim (input.reason.getD "")) ≤ 500)
    (.badRequest "appointment_reason_required")
  require (next = .REALISE ∨ next = .ABSENT → current.span.stop ≤ o.now)
    (.badRequest "appointment_outcome_too_early")
  let startsAt ← nextStart rt current next input o
  -- the activity the memory appends to the lead
  require (principal.hasSome operationalRoles) (.forbidden "role_forbidden")
  require (next ∈ planned → o.now < startsAt)
    (.badRequest "next_action_chronology_invalid")
  pure { current with state := next, startsAt, version := current.version + 1 }

variable (id : String)

def transition (input : TransitionInput) (principal : Principal) (o : AppointmentOccasion) :
    Outcome (AppointmentRow × AppointmentEventRow) := do
  let current ← authorized db id principal
  let key := input.idempotencyKey.getD ""
  require (isCorrectionKey key) transitionRefused
  match receipt? rt db key with
  | some receipt =>
    require (receipt.id = id ∧ receipt.signature = id ++ ":" ++ input.state.getD "undefined")
      (.conflict "appointment_idempotency_conflict")
    let record ← demand (item? db receipt.id) .database
    let event ← demand (event? db key) (.error "appointment_transition_event_missing")
    pure (record, event)
  | none =>
    let updated ← moved rt current input principal o
    pure (updated, {
      id := o.eventId, appointmentId := id, idempotencyKey := key
      eventType := "APPOINTMENT_" ++ updated.state.text, fromState := some current.state
      toState := some updated.state, actorId := principal.userId
      reasonCode := nonEmpty (input.reason.map trim), occurredAt := o.now })

def compensate (input : CompensationInput) (principal : Principal) (o : AppointmentOccasion) :
    Outcome (AppointmentRow × AppointmentEventRow) := do
  let current ← authorized db id principal
  require (isManager principal) (.forbidden "appointment_compensation_forbidden")
  let key := input.idempotencyKey.getD ""
  let original ← demand
    (db.appointmentEvents.findFirst fun e => some e.id = input.originalEventId ∧ e.appointmentId = id)
    (.badRequest "appointment_compensation_invalid")
  require (given input.reason ∧ isCorrectionKey key)
    (.badRequest "appointment_compensation_invalid")
  match event? db key with
  | some event => pure (current, event)
  | none => pure (current, {
      id := o.eventId, appointmentId := id, idempotencyKey := key
      eventType := "APPOINTMENT_COMPENSATION", actorId := principal.userId
      reasonCode := input.reason.map trim, occurredAt := o.now
      compensatesEventId := some original.id })

def followUpOf (input : ReportInput) (failure : Failure) : Outcome (Option Instant) :=
  (nonEmpty input.followUpAt).mapM fun text => demand (rt.parseDate text) failure

/-- `value?.trim() ? "[REDACTED]" : undefined` -/
def redacted (value : Option String) : Option String :=
  (nonEmpty (value.map trim)).map fun _ => "[REDACTED]"

def validateReport (input : ReportInput) (principal : Principal) (o : AppointmentOccasion) :
    Outcome (AppointmentRow × InterviewReportRow) := do
  let appointment ← authorized db id principal
  require (appointment.state = .REALISE ∧ appointment.evaluatorId = some principal.userId ∧
      input.expectedVersion = some (appointment.version : ℤ) ∧
      db.interviewReports.findFirst (fun r => r.appointmentId = id) = none)
    (.conflict "interview_report_refused")
  let invalid := Failure.badRequest "interview_report_invalid"
  let followUpAt ← followUpOf rt input invalid
  let result ← demand (input.result.bind InterviewResult.ofText?) invalid
  require (given input.comment ∧ length (trim (input.comment.getD "")) ≤ 2000 ∧
      given input.recommendation ∧ length (trim (input.recommendation.getD "")) ≤ 1000)
    invalid
  -- the activity the memory appends to the lead
  require (principal.hasSome operationalRoles) (.forbidden "role_forbidden")
  require (∀ t ∈ followUpAt, o.now < t) (.badRequest "next_action_chronology_invalid")
  pure (appointment, {
    id := o.rowId, appointmentId := id, result
    redactedMissingPoints := redacted input.missingPoints
    nextAction := (nonEmpty (input.nextAction.map trim)).map (slice 120)
    followUpAt, validatedBy := principal.userId, validatedAt := o.now })

/-! ### Writing -/

/-- The activity of a call on the lead of its appointment. -/
def meeting (record : AppointmentRow) (event : AppointmentEventRow) (principal : Principal)
    (correlationId : String) (explicitNextActionAt : Option Instant) (clearNextAction : Bool)
    (o : AppointmentOccasion) : Meeting where
  activityId := o.activityId
  leadId := record.leadId
  result := if event.eventType = "APPOINTMENT_CREATED" then "APPOINTMENT_" ++ record.state.text
    else event.eventType
  authorId := principal.userId
  correlationId
  idempotencyKey := "appointment-activity-" ++ rt.sha256 event.idempotencyKey
  occurredAt := event.occurredAt
  nextActionAt := explicitNextActionAt.or
    (if record.state ∈ planned then some record.startsAt else none)
  clears := if clearNextAction then [record.startsAt] else []

def persistEvent (event : AppointmentEventRow) : Outcome Database := do
  let appointmentEvents ← insert db.appointmentEvents event
  pure { db with appointmentEvents }

def persistAudit (record : AppointmentRow) (eventType : String) (principal : Principal)
    (correlationId key : String) : Outcome Database :=
  db.audit {
    eventType, resourceType := "APPOINTMENT", resourceId := record.id, campusId := record.campus
    actorId := principal.userId, actorRoles := principal.roles
    sessionId := some principal.sessionId, correlationId, idempotencyKey := auditKey rt key
    before := .null, after := auditAfter rt record (eventType = "APPOINTMENT_CREATED") }

/-- A user in charge of admissions is not engaged without a booking. -/
def controlled (userId : String) : Prop :=
  ∃ r ∈ db.admissionsResponsibilities.rows, r.userId = userId ∧ r.active ∧
    ∃ user ∈ db.collaborators.rows, user.id = r.userId ∧ user.active ∧ ¬user.firstLoginRequired
deriving Decidable

def unbooked : Prop := db.admissionsBookings.findUnique id = none
deriving Decidable

def persistCreate (record : AppointmentRow) (event : AppointmentEventRow) (principal : Principal)
    (correlationId : String) (o : AppointmentOccasion) : Outcome Database :=
  if (event? db event.idempotencyKey).isSome then pure db
  else do
    let adviser ← demand (readUuid record.adviserId) .database
    require (¬controlled db adviser) (.conflict "admissions_controlled_booking_required")
    assertAppointmentFree db record.involved record.span none
    let appointments ← insert db.appointments record
    let db ← persistEvent { db with appointments } event
    let db ← (meeting rt record event principal correlationId none false o).record db
    persistAudit rt db record event.eventType principal correlationId event.idempotencyKey

/-- An appointment with another state, start and version. -/
def reset (record row : AppointmentRow) : AppointmentRow :=
  { row with state := record.state, startsAt := record.startsAt, version := record.version }

theorem keys_reset (record row : AppointmentRow) : (reset record row).keys = row.keys := rfl

/-- Users of an appointment that is not over are free at its time. -/
def assertFreeUnlessFinal (record : AppointmentRow) : Outcome Unit :=
  if record.state.Final then pure ()
  else assertAppointmentFree db record.involved record.span (some record.id)

def persistTransition (record : AppointmentRow) (event : AppointmentEventRow)
    (principal : Principal) (correlationId : String) (o : AppointmentOccasion) : Outcome Database :=
  if (event? db event.idempotencyKey).isSome then pure db
  else do
    require (unbooked db record.id) (.conflict "admissions_controlled_transition_required")
    assertFreeUnlessFinal db record
    let current := fun a : AppointmentRow => a.id = record.id ∧ a.version + 1 = record.version
    require (db.appointments.count current = 1) transitionRefused
    let appointments := db.appointments.updateMany current (reset record) (keys_reset record)
    let db ← persistEvent { db with appointments } event
    let db ← (meeting rt record event principal correlationId none record.state.Final o).record db
    persistAudit rt db record event.eventType principal correlationId event.idempotencyKey

def persistCompensation (record : AppointmentRow) (event : AppointmentEventRow)
    (principal : Principal) (correlationId : String) : Outcome Database :=
  if (event? db event.idempotencyKey).isSome then pure db
  else do
    let db ← persistEvent db event
    persistAudit rt db record "APPOINTMENT_COMPENSATED" principal correlationId event.idempotencyKey

def reportEvent (report : InterviewReportRow) (principal : Principal) : AppointmentEventRow where
  id := ""
  appointmentId := report.appointmentId
  idempotencyKey := "interview-report-" ++ report.id
  eventType := "INTERVIEW_REPORT_VALIDATED"
  actorId := principal.userId
  occurredAt := report.validatedAt

def persistReport (record : AppointmentRow) (report : InterviewReportRow) (principal : Principal)
    (correlationId : String) (o : AppointmentOccasion) : Outcome Database := do
  require (unbooked db record.id) (.conflict "admissions_controlled_report_required")
  if (db.interviewReports.findFirst fun r => r.appointmentId = record.id).isSome then pure db
  else
    let interviewReports ← insert db.interviewReports report
    let event := reportEvent report principal
    let db ← (meeting rt record event principal correlationId report.followUpAt false o).record
      { db with interviewReports }
    persistAudit rt db record event.eventType principal correlationId event.idempotencyKey

/-! ### The calls -/

def createForApi (leadId : String) (input : AppointmentInput) (principal : Principal)
    (correlationId : String) (o : AppointmentOccasion) : Outcome (AppointmentRow × Database) := do
  let (record, event) ← create rt db leadId input principal o
  let db ← persistCreate rt db record event principal correlationId o
  let stored ← demand (item? db record.id) .database
  pure (stored, db)

def assertLegacyMutationAllowed (id code : String) : Outcome Unit := do
  let bookingId ← demand (readUuid id) .database
  require (unbooked db bookingId) (.conflict code)

def transitionForApi (input : TransitionInput) (principal : Principal) (correlationId : String)
    (o : AppointmentOccasion) : Outcome (AppointmentRow × Database) := do
  assertLegacyMutationAllowed db id "admissions_controlled_transition_required"
  let (record, event) ← transition rt db id input principal o
  let db ← persistTransition rt db record event principal correlationId o
  let stored ← demand (item? db id) .database
  pure (stored, db)

def compensateForApi (input : CompensationInput) (principal : Principal) (correlationId : String)
    (o : AppointmentOccasion) : Outcome (AppointmentEventRow × Database) := do
  let (record, event) ← compensate db id input principal o
  let db ← persistCompensation rt db record event principal correlationId
  let stored ← demand (event? db event.idempotencyKey) .database
  pure (stored, db)

def validateReportForApi (input : ReportInput) (principal : Principal) (correlationId : String)
    (o : AppointmentOccasion) : Outcome (InterviewReportRow × Database) := do
  assertLegacyMutationAllowed db id "admissions_controlled_report_required"
  let (record, report) ← validateReport rt db id input principal o
  let db ← persistReport rt db record report principal correlationId o
  let stored ← demand (db.interviewReports.findFirst fun r => r.appointmentId = id) .database
  pure (stored, db)

end CrmYnov.Appointments
