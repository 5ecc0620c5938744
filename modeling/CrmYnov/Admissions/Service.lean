import CrmYnov.Admissions.Contract

/-!
# Admissions

Responsibilities, windows and bookings. Each call is one transaction: it reads
the principal again, checks what the permissions allow, and runs its mutation
once for its actor and key; the same key with the same payload is answered from
the receipt.

What the permissions allow is given (`Admissions.Authority`): what is proved of
the calls holds whatever the answers are.
-/

namespace CrmYnov.Admissions

open Checked Js Leads AdmissionsResponsibilityRow Appointments Users
open Appointments (AppointmentRow AppointmentEventRow InterviewReportRow bookingConflict
  assertAppointmentFree)

/-- `this.denied()` -/
def denied : Failure := .forbidden "permission_denied"

/-- `this.versionConflict()` -/
def versionConflict : Failure := .conflict "admissions_version_conflict"

/-- `this.notFound()` -/
def bookingNotFound : Failure := .notFound "admissions_not_found"

/-- `new ConflictException({ code: "admissions_transition_refused" })` -/
def transitionRefused : Failure := .conflict "admissions_transition_refused"

/-- What the sessions and the permissions answer. -/
structure Authority where
  /-- `currentPrincipal`: the roles and the scopes of a principal whose session
  holds and who need not change its secret. -/
  session : Database → Principal → Outcome (List Role × List Scope)
  /-- `this.can(tx, actor, permission, campusKeys)` -/
  can : Database → Principal → String → List String → Bool
  /-- The permissions of `authorizeLead`, `lead.view` and `appointment.manage`. -/
  canUseLead : Database → Principal → String → Bool
  /-- `lead.view`, alone. -/
  canViewLead : Database → Principal → String → Bool
  /-- `this.profileCanUseAgenda(tx, profile, campus)` -/
  profileCanUseAgenda : Database → AdmissionsResponsibilityRow → CollaboratorRow → Bool

structure Profile where
  row : AdmissionsResponsibilityRow
  user : CollaboratorRow

structure Campus where
  code : String
  keys : List String

/-- A booking, with its responsibility and its appointment. -/
structure Booked where
  row : AdmissionsBookingRow
  profile : Profile
  appointment : AppointmentRow

/-- What the world gives to a call: its clock and the identifiers it draws. -/
structure AdmissionsOccasion where
  now : Instant
  (rowId eventId activityId : String)

/-! ### Reading -/

def profile? (db : Database) (id : String) : Option Profile := do
  let row ← db.admissionsResponsibilities.findUnique (.id id)
  let user ← db.collaborators.findUnique (.id row.userId)
  some { row, user }

def booked? (db : Database) (id : String) : Option Booked := do
  let row ← db.admissionsBookings.findUnique id
  let profile ← profile? db row.responsibilityId
  let appointment ← db.appointments.findUnique id
  some { row, profile, appointment }

def window? (db : Database) (id : String) : Option AdmissionsWindowRow :=
  db.admissionsWindows.findUnique id

def eligibleRole (user : CollaboratorRow) : Prop :=
  ∃ role ∈ user.roles, role ∈ [Role.ADMISSIONS, Role.MANAGER, Role.ADMIN]
deriving Decidable

def profileActive (profile : Profile) : Prop :=
  profile.row.active ∧ profile.user.active ∧ ¬profile.user.firstLoginRequired ∧
    eligibleRole profile.user
deriving Decidable

def attached (user : CollaboratorRow) (keys : List String) : Prop :=
  ∃ campus ∈ nonEmpty user.campusId, campus ∈ keys
deriving Decidable

variable (rt : Runtime) (auth : Authority)

variable (db : Database)

/-- `this.transaction`: the principal, as the database knows it. -/
def currentActor (principal : Principal) : Outcome Principal := do
  let (roles, scopes) ← auth.session db principal
  require (∃ role ∈ roles, role ∈ operationalRoles) denied
  pure { principal with roles, scopes }

def campus (value : String) : Outcome Campus := do
  require (present value = true) invalidAdmissions
  let canonical ← References.canonicalCampus rt db.references value
  let row ← demand (db.references.references.findUnique (.id canonical.id)) .database
  pure { code := row.code, keys := canonical.keys }

def authorizeLead (actor : Principal) (id : String) : Outcome (LeadRow × Campus) := do
  let leadId ← assertUuid id
  let lead ← demand (db.lead leadId) denied
  require (auth.canUseLead db actor leadId = true) denied
  let campus ← campus rt db lead.campus
  pure (lead, campus)

variable (id : String)

def activeProfile (code : Option String) : Outcome Profile := do
  let profile ← demand (profile? db id) (.forbidden "admissions_profile_inactive")
  require (profileActive profile ∧ ∀ c ∈ code, profile.row.campus = c)
    (.forbidden "admissions_profile_inactive")
  let canonical ← campus rt db profile.row.campus
  require (attached profile.user canonical.keys ∧
      auth.profileCanUseAgenda db profile.row profile.user = true) denied
  pure profile

def ownOrAdminProfile (actor : Principal) : Outcome Profile := do
  let profile ← activeProfile rt auth db id none
  let campus ← campus rt db profile.row.campus
  require (auth.can db actor "appointment.manage" campus.keys = true ∧
      (profile.row.userId = actor.userId ∨
        auth.can db actor "settings.campus.manage" campus.keys = true)) denied
  pure profile

/-! ### Writing -/

def audit (db : Database) (actor : Principal) (eventType resourceId campus key correlationId : String)
    (after : List (String × Option Json)) : Outcome Database :=
  db.audit {
    eventType, resourceType := "APPOINTMENT", resourceId, campusId := some campus
    actorId := actor.userId, actorRoles := actor.roles, sessionId := some actor.sessionId
    correlationId, idempotencyKey := key ++ "-audit", before := .null, after := .present after }

/-- `mutation`: once for an actor, an operation and a key. -/
def mutation (actor : Principal) (operation key : String) (payload : List (String × Option Json))
    (action : String → Outcome (AdmissionsResponse × Database)) :
    Outcome (AdmissionsResponse × Database) :=
  let fingerprint := hashAdmissions rt payload
  match db.admissionsMutationReceipts.findUnique (actor.userId, operation, key) with
  | some existing => do
    require (existing.fingerprint = fingerprint) (.conflict "admissions_idempotency_conflict")
    pure (existing.response, db)
  | none => do
    let effectKey := "admissions-" ++ rt.sha256
      (Json.stringify (.arr [.str actor.userId, .str operation, .str key]))
    let (response, db) ← action effectKey
    let admissionsMutationReceipts ← insert db.admissionsMutationReceipts {
      actorId := actor.userId, operation, key, fingerprint, response }
    pure (response, { db with admissionsMutationReceipts })

def notifyParties (db : Database) (appointmentId key : String) : List String → Outcome Database
  | [] => pure db
  | recipientId :: recipients => do
    let href := "/appointments/admissions/" ++ appointmentId
    let fingerprint := hashAdmissions rt [("recipientId", text recipientId),
      ("type", text "APPOINTMENT"), ("priority", text "NORMAL"),
      ("resourceType", text "APPOINTMENT"), ("resourceId", text appointmentId), ("href", text href)]
    let internalNotifications ← insert db.internalNotifications {
      recipientId, type := "APPOINTMENT", resourceType := "APPOINTMENT"
      resourceId := appointmentId, href, deduplicationKey := key ++ "-" ++ recipientId, fingerprint }
    notifyParties { db with internalNotifications } appointmentId key recipients

variable (booked : Booked)

/-- The activity of a call on the lead of its appointment. -/
def meeting (actor : Principal) (eventType key correlationId : String)
    (oldStart explicitNextAction : Option Instant) (o : AdmissionsOccasion) : Meeting where
  activityId := o.activityId
  leadId := booked.appointment.leadId
  result := eventType
  authorId := actor.userId
  correlationId
  idempotencyKey := key ++ "-activity"
  occurredAt := o.now
  nextActionAt := explicitNextAction.or
    (if booked.appointment.state.Final then none else some booked.appointment.startsAt)
  clears := booked.appointment.startsAt :: oldStart.toList

def effects (actor : Principal) (eventType key correlationId : String) (reason : Option String)
    (oldStart explicitNextAction : Option Instant) (o : AdmissionsOccasion) : Outcome Database := do
  let appointment := booked.appointment
  let db ← persistEvent db {
    id := o.eventId, appointmentId := booked.row.appointmentId, idempotencyKey := key, eventType
    toState := some appointment.state, actorId := actor.userId, reasonCode := nonEmpty reason
    occurredAt := o.now }
  let db ← (meeting booked actor eventType key correlationId oldStart explicitNextAction o).record db
  let db ← audit db actor eventType appointment.id booked.profile.row.campus key correlationId
    [("appointmentId", text appointment.id), ("leadId", text appointment.leadId),
      ("requestState", text booked.row.state.text), ("appointmentState", text appointment.state.text),
      ("startsAt", text (isoString appointment.startsAt)), ("version", number appointment.version)]
  notifyParties rt db appointment.id key
    (unique [booked.profile.row.userId, appointment.organizerId])

def bookingView : AdmissionsResponse :=
  .booking booked.appointment.id booked.row.responsibilityId booked.row.state
    booked.appointment.state booked.appointment.span.start booked.appointment.span.stop
    booked.appointment.version

variable (w : AdmissionsWindowRow)

def windowView : AdmissionsResponse :=
  .window w.id w.responsibilityId w.kind w.startsAt w.endsAt w.version w.active

/-! ### Responsibilities -/

def AdmissionsResponsibilityRow.switch (active : Bool) (r : AdmissionsResponsibilityRow) :
    AdmissionsResponsibilityRow := { r with active, version := r.version + 1 }

theorem AdmissionsResponsibilityRow.keys_switch (active : Bool) (r : AdmissionsResponsibilityRow) :
    (r.switch active).keys = r.keys := rfl

/-- Create the responsibility of a user for a campus, or switch the one it
has. -/
def upsertResponsibility (userId campus id : String) (active : Bool) :
    Outcome (AdmissionsResponsibilityRow × Database) := do
  match db.admissionsResponsibilities.findUnique (.userIdCampus userId campus) with
  | none =>
    let row : AdmissionsResponsibilityRow := { id, userId, campus, active }
    let admissionsResponsibilities ← insert db.admissionsResponsibilities row
    pure (row, { db with admissionsResponsibilities })
  | some current =>
    pure (current.switch active, { db with
      admissionsResponsibilities := db.admissionsResponsibilities.updateMany
        (fun r => r.id = current.id) (switch active)
        (keys_switch active) })

def target (userId : String) (keys : List String) : Outcome CollaboratorRow := do
  let user ← demand (db.collaborators.findUnique (.id userId)) denied
  require (user.active = true ∧ attached user keys ∧ eligibleRole user) denied
  pure user

def configureResponsibility (input : ResponsibilityInput) (principal : Principal)
    (correlationId : String) (o : AdmissionsOccasion) :
    Outcome (AdmissionsResponse × Database) := do
  let userId ← assertUuid input.userId
  assertKey input.idempotencyKey
  assertVersion input.expectedVersion true
  let actor ← currentActor auth db principal
  let campus ← campus rt db input.campus
  require (auth.can db actor "settings.campus.manage" campus.keys = true) denied
  let user ← target db userId campus.keys
  mutation rt db actor "RESPONSIBILITY" input.idempotencyKey
    [("userId", text input.userId), ("campus", text campus.code),
      ("active", some (.bool input.active)), ("expectedVersion", number input.expectedVersion)]
    fun key => do
      let current := db.admissionsResponsibilities.findUnique (.userIdCampus user.id campus.code)
      require (((current.map version).getD 0 : ℕ) = input.expectedVersion)
        versionConflict
      let (row, db) ← upsertResponsibility db user.id campus.code o.rowId input.active
      let db ← audit db actor "ADMISSIONS_RESPONSIBILITY_CHANGED" row.id campus.code key correlationId
        [("active", some (.bool row.active)), ("userId", text row.userId),
          ("version", number row.version)]
      pure (.responsibility row.id row.active row.version, db)

/-! ### Windows -/

def assertBlockable (kind : WindowKind) (userId : String) (time : Span Instant) : Outcome Unit :=
  if kind = .BLOCKED then assertAppointmentFree db [userId] time none else pure ()

def createWindow (input : WindowInput) (principal : Principal) (correlationId : String)
    (o : AdmissionsOccasion) : Outcome (AdmissionsResponse × Database) := do
  let responsibilityId ← assertUuid input.responsibilityId
  assertKey input.idempotencyKey
  let kind ← demand (WindowKind.ofText? input.kind) invalidAdmissions
  let range ← interval rt input.startsAt input.endsAt 7
  let actor ← currentActor auth db principal
  let profile ← ownOrAdminProfile rt auth db responsibilityId actor
  mutation rt db actor "WINDOW_CREATE" input.idempotencyKey
    [("responsibilityId", text input.responsibilityId), ("kind", text input.kind),
      ("startsAt", text (isoString range.start)), ("endsAt", text (isoString range.stop))]
    fun key => do
      require (o.now < range.stop) invalidAdmissions
      assertBlockable db kind profile.row.userId range
      let row : AdmissionsWindowRow := {
        id := o.rowId, responsibilityId := profile.row.id, kind
        startsAt := range.start, endsAt := range.stop }
      let admissionsWindows ← insert db.admissionsWindows row
      let db ← audit { db with admissionsWindows } actor "ADMISSIONS_WINDOW_CREATED" row.id
        profile.row.campus key correlationId
        [("kind", text kind.text), ("startsAt", text (isoString row.startsAt)),
          ("endsAt", text (isoString row.endsAt)), ("version", number row.version)]
      pure (windowView row, db)

/-- The booking still waits for its appointment. -/
def BookingState.held (s : BookingState) : Prop := s = .PENDING ∨ s = .ACCEPTED
deriving Decidable

/-- A window that is left in use: no appointment of its responsibility depends on
it alone. -/
def assertUnused : Outcome Unit :=
  let occupied := db.appointments.findMany fun a =>
    ¬a.state.Final ∧ a.startsAt < w.endsAt ∧
      ∃ b ∈ db.admissionsBookings.rows,
        b.appointmentId = a.id ∧ b.responsibilityId = w.responsibilityId ∧ b.state.held
  let remaining := db.admissionsWindows.findMany fun other =>
    other.responsibilityId = w.responsibilityId ∧ other.active ∧ other.kind = .AVAILABLE ∧
      other.id ≠ w.id
  require (∀ a ∈ occupied, w.startsAt < a.span.stop → ∃ other ∈ remaining, other.span.Covers a.span)
    (.conflict "admissions_window_in_use")

/-- An available window may be withdrawn when it is not in use. -/
def assertWithdrawable : Outcome Unit :=
  if w.kind = .AVAILABLE then assertUnused db w else pure ()

def AdmissionsWindowRow.withdraw : AdmissionsWindowRow :=
  { w with active := false, version := w.version + 1 }

theorem AdmissionsWindowRow.keys_withdraw : w.withdraw.keys = w.keys := rfl

def withdrawWindow (input : WithdrawWindowInput) (principal : Principal) (correlationId : String) :
    Outcome (AdmissionsResponse × Database) := do
  let windowId ← assertUuid id
  assertVersion input.expectedVersion
  assertKey input.idempotencyKey
  require (input.active = false) invalidAdmissions
  let actor ← currentActor auth db principal
  let row ← demand (window? db windowId) bookingNotFound
  let profile ← ownOrAdminProfile rt auth db row.responsibilityId actor
  mutation rt db actor "WINDOW_WITHDRAW" input.idempotencyKey
    [("id", text id), ("active", some (.bool input.active)),
      ("expectedVersion", number input.expectedVersion)]
    fun key => do
      require (row.active ∧ (row.version : ℤ) = input.expectedVersion) versionConflict
      assertWithdrawable db row
      let changed := row.withdraw
      let db ← audit { db with
          admissionsWindows := db.admissionsWindows.updateMany (fun w => w.id = row.id)
            AdmissionsWindowRow.withdraw AdmissionsWindowRow.keys_withdraw }
        actor "ADMISSIONS_WINDOW_WITHDRAWN" id profile.row.campus key correlationId
        [("active", some (.bool false)), ("version", number changed.version)]
      pure (windowView changed, db)

/-! ### Bookings -/

def assertSlot (responsibilityId : String) (time : Span Instant) (now : Instant) :
    Outcome Unit := do
  require (now < time.start) invalidAdmissions
  let _ ← demand (newDate time.stop) .database
  let windows := db.admissionsWindows.findMany fun w =>
    w.responsibilityId = responsibilityId ∧ w.active ∧ w.span.Overlaps time
  require ((∃ w ∈ windows, w.kind = .AVAILABLE ∧ w.span.Covers time) ∧
      ∀ w ∈ windows, w.kind ≠ .BLOCKED) bookingConflict

def participants (raw : Option (List String)) : Outcome (List String) := do
  let ids := raw.getD []
  require (ids.length ≤ 20 ∧ ∀ id ∈ ids, (readUuid id).isSome) invalidAdmissions
  pure (sortTexts (unique ids))

/-- A user may take part in a booking. -/
def mayParticipate (keys : List String) (user : CollaboratorRow) : Prop :=
  user.active ∧ ¬user.firstLoginRequired ∧ attached user keys ∧ ∃ role ∈ user.roles, role ≠ .AUDITOR
deriving Decidable

def assertParticipants (ids : List String) (keys : List String) : Outcome Unit :=
  require (∀ id ∈ ids, ∃ user ∈ (readUuid id).bind fun id => db.collaborators.findUnique (.id id),
    mayParticipate keys user) denied

def evaluated : List AppointmentType :=
  [.ENTRETIEN_ADMISSION, .ENTRETIEN_MOTIVATION, .TEST_ADMISSION]

def createBooking (leadId : String) (input : BookingInput) (principal : Principal)
    (correlationId : String) (o : AdmissionsOccasion) :
    Outcome (AdmissionsResponse × Database) := do
  let _ ← assertUuid leadId
  let responsibilityId ← assertUuid input.responsibilityId
  assertKey input.idempotencyKey
  assertDuration input.durationMinutes
  let type ← demand (AppointmentType.ofText? input.type) invalidAdmissions
  let mode ← demand (AppointmentMode.ofText? input.mode) invalidAdmissions
  let startsAt ← instant rt input.startsAt
  let participantIds ← participants input.participantIds
  let actor ← currentActor auth db principal
  let (lead, campus) ← authorizeLead rt auth db actor leadId
  let profile ← activeProfile rt auth db responsibilityId (some campus.code)
  mutation rt db actor "BOOKING_CREATE" input.idempotencyKey
    [("leadId", text leadId), ("responsibilityId", text input.responsibilityId),
      ("startsAt", text (isoString startsAt)), ("durationMinutes", number input.durationMinutes),
      ("type", text input.type), ("mode", text input.mode),
      ("participantIds", some (.arr (participantIds.map .str)))]
    fun key => do
      assertParticipants db participantIds campus.keys
      let appointment : AppointmentRow := {
        id := o.rowId, leadId := lead.id, type, mode, state := .PLANIFIE, startsAt
        durationMinutes := input.durationMinutes.toNat, campus := some campus.code
        adviserId := profile.row.userId, organizerId := actor.userId
        evaluatorId := if type ∈ evaluated then some profile.row.userId else none, participantIds }
      assertSlot db profile.row.id appointment.span o.now
      assertAppointmentFree db ([profile.row.userId, actor.userId] ++ participantIds)
        appointment.span none
      let appointments ← insert db.appointments appointment
      let row : AdmissionsBookingRow := {
        appointmentId := appointment.id, responsibilityId := profile.row.id }
      let admissionsBookings ← insert db.admissionsBookings row
      let booked : Booked := { row, profile, appointment }
      let db ← effects rt { db with appointments, admissionsBookings } booked actor
        "ADMISSIONS_REQUESTED" key correlationId none none none o
      pure (bookingView booked, db)

variable (action : BookingAction)

variable (startsAt : Instant) (a : AppointmentRow)

def decidedAppointment : AppointmentRow :=
  { a with state := action.appointmentState, startsAt, version := a.version + 1 }

theorem keys_decidedAppointment : (decidedAppointment action startsAt a).keys = a.keys := rfl

def decidedBooking (b : AdmissionsBookingRow) : AdmissionsBookingRow :=
  { b with state := action.bookingState b.state }

theorem keys_decidedBooking (b : AdmissionsBookingRow) :
    (decidedBooking action b).keys = b.keys := rfl

def storeDecision : Database :=
  { db with
    appointments := db.appointments.updateMany (fun a => a.id = id)
      (decidedAppointment action startsAt) (keys_decidedAppointment action startsAt)
    admissionsBookings := db.admissionsBookings.updateMany (fun b => b.appointmentId = id)
      (decidedBooking action) (keys_decidedBooking action) }

def BookingAction.reasoned : Prop :=
  action ∈ [REFUSE, CANCEL, RESCHEDULE, NO_SHOW]
deriving Decidable

/-- The start a decision moves an appointment to. -/
def rescheduled (input : BookingDecisionInput) : Outcome (Option Instant) :=
  match action with
  | .RESCHEDULE => do
    let start ← instant rt (input.startsAt.getD "")
    pure (some start)
  | _ => do
    require (input.startsAt = none) invalidAdmissions
    pure none

def Booked.requestedBy (actor : Principal) : Prop :=
  booked.appointment.organizerId = actor.userId
deriving Decidable

/-- A decision needs an active responsible, unless the requester or an
administrator cancels. -/
def assertDecisionProfile (actor : Principal) (action : BookingAction) (booked : Booked)
    (code : String) (admin : Bool) : Outcome Unit :=
  if action ≠ .CANCEL ∨ (¬booked.requestedBy actor ∧ ¬admin) then do
    let _ ← activeProfile rt auth db booked.row.responsibilityId (some code)
    pure ()
  else pure ()

/-- The responsible and the administrators answer; a requester may only cancel or
reschedule. -/
def assertDecisionParty (actor : Principal) (action : BookingAction) (booked : Booked)
    (admin : Bool) : Outcome Unit :=
  if action ∈ [BookingAction.ACCEPT, .REFUSE, .COMPLETE, .NO_SHOW] then do
    require (¬booked.requestedBy actor) (.forbidden "admissions_self_approval_forbidden")
    require (booked.profile.row.userId = actor.userId ∨ admin = true) denied
  else if booked.profile.row.userId ≠ actor.userId ∧ ¬admin then do
    require (booked.requestedBy actor) denied
    let _ ← authorizeLead rt auth db actor booked.appointment.leadId
    pure ()
  else pure ()

def authorizeDecision (actor : Principal) (action : BookingAction) (booked : Booked) :
    Outcome Unit := do
  let campus ← campus rt db booked.profile.row.campus
  let admin := auth.can db actor "settings.campus.manage" campus.keys
  require ((Role.SUPER_ADMIN ∈ actor.roles ∨
      ∃ scope ∈ actor.scopes, ∃ key ∈ campus.keys, scope = .CAMPUS key) ∧
    auth.can db actor "appointment.manage" campus.keys = true) denied
  assertDecisionProfile rt auth db actor action booked campus.code admin
  assertDecisionParty rt auth db actor action booked admin

def admits (now : Instant) : Prop :=
  booked.row.state.held ∧ ¬booked.appointment.state.Final ∧
    (action ∈ [BookingAction.ACCEPT, .REFUSE] → booked.row.state = .PENDING) ∧
    (action ∈ [BookingAction.COMPLETE, .NO_SHOW] →
      booked.row.state = .ACCEPTED ∧ booked.appointment.span.stop ≤ now)
deriving Decidable

/-- An appointment is accepted or moved only where its users are free and its
responsible available. -/
def assertTime (now : Instant) : Outcome Unit :=
  let time := (decidedAppointment action startsAt booked.appointment).span
  if action = .ACCEPT ∨ action = .RESCHEDULE then do
    assertSlot db booked.profile.row.id time now
    assertAppointmentFree db booked.appointment.involved time (some booked.appointment.id)
  else pure ()

def decide (input : BookingDecisionInput) (principal : Principal) (correlationId : String)
    (o : AdmissionsOccasion) : Outcome (AdmissionsResponse × Database) := do
  let bookingId ← assertUuid id
  assertKey input.idempotencyKey
  assertVersion input.expectedVersion
  let action ← demand (BookingAction.ofText? input.action) invalidAdmissions
  let reason := nonEmpty (input.reason.map trim)
  require ((∀ text ∈ reason, length text ≤ 120) ∧ (action.reasoned → reason.isSome))
    invalidAdmissions
  let start ← rescheduled rt action input
  let actor ← currentActor auth db principal
  let booked ← demand (booked? db bookingId) bookingNotFound
  authorizeDecision rt auth db actor action booked
  mutation rt db actor ("BOOKING_" ++ action.text) input.idempotencyKey
    [("id", text id), ("action", text input.action), ("reason", (reason.or input.reason).map .str),
      ("startsAt", (start.map isoString |>.or input.startsAt).map .str),
      ("expectedVersion", number input.expectedVersion)]
    fun key => do
      require ((booked.appointment.version : ℤ) = input.expectedVersion) versionConflict
      require (admits booked action o.now) transitionRefused
      let startsAt := start.getD booked.appointment.startsAt
      assertTime db booked action startsAt o.now
      let updated : Booked := {
        row := decidedBooking action booked.row, profile := booked.profile
        appointment := decidedAppointment action startsAt booked.appointment }
      let db ← effects rt (storeDecision db bookingId action startsAt) updated actor
        ("ADMISSIONS_" ++ action.text) key correlationId reason (some booked.appointment.startsAt)
        none o
      pure (bookingView updated, db)

/-! ### Reports -/

def bump : AppointmentRow := { a with version := a.version + 1 }

theorem keys_bump : (bump a).keys = a.keys := rfl

def reportTexts (input : AdmissionsReportInput) : Prop :=
  (present input.comment ∧ length input.comment ≤ 2000) ∧
    (present input.recommendation ∧ length input.recommendation ≤ 1000) ∧
    (∀ text ∈ input.missingPoints, length text ≤ 2000) ∧
    ∀ text ∈ input.nextAction, length text ≤ 120
deriving Decidable

def report (input : AdmissionsReportInput) (principal : Principal) (correlationId : String)
    (o : AdmissionsOccasion) : Outcome (AdmissionsResponse × Database) := do
  let bookingId ← assertUuid id
  assertVersion input.expectedVersion
  assertKey input.idempotencyKey
  let result ← demand (InterviewResult.ofText? input.result) invalidAdmissions
  require (reportTexts input) invalidAdmissions
  let followUpAt ← (nonEmpty input.followUpAt).mapM (instant rt)
  let actor ← currentActor auth db principal
  let booked ← demand (booked? db bookingId) bookingNotFound
  let campus ← campus rt db booked.profile.row.campus
  let _ ← activeProfile rt auth db booked.row.responsibilityId (some campus.code)
  require (booked.profile.row.userId = actor.userId ∧
      booked.appointment.organizerId ≠ actor.userId ∧
      auth.can db actor "appointment.manage" campus.keys = true) denied
  mutation rt db actor "BOOKING_REPORT" input.idempotencyKey
    [("id", text id), ("expectedVersion", number input.expectedVersion), ("result", text input.result),
      ("comment", text (trim input.comment)),
      ("recommendation", text (trim input.recommendation)),
      ("missingPoints", input.missingPoints.map .str), ("nextAction", input.nextAction.map .str),
      ("followUpAt", (followUpAt.map isoString |>.or input.followUpAt).map .str)]
    fun key => do
      require (booked.appointment.state = .REALISE ∧
          booked.appointment.evaluatorId = some actor.userId ∧
          (booked.appointment.version : ℤ) = input.expectedVersion ∧
          db.interviewReports.findFirst (fun r => r.appointmentId = bookingId) = none ∧
          ∀ t ∈ followUpAt, o.now < t) (.conflict "admissions_report_refused")
      let interviewReports ← insert db.interviewReports {
        id := o.rowId, appointmentId := bookingId, result
        redactedMissingPoints := redacted input.missingPoints
        nextAction := nonEmpty (input.nextAction.map trim)
        followUpAt, validatedBy := actor.userId, validatedAt := o.now }
      let updated := { booked with appointment := bump booked.appointment }
      let db ← effects rt { db with
          interviewReports
          appointments := db.appointments.updateMany (fun a => a.id = bookingId) bump keys_bump }
        updated actor "ADMISSIONS_REPORT_VALIDATED" key correlationId none none followUpAt o
      pure (bookingView updated, db)

end CrmYnov.Admissions
