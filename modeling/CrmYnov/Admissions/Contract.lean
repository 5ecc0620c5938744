import CrmYnov.Appointments.Service

/-!
# The inputs of admissions

What a request about the agenda of admissions may contain, and how it is
recognized when it is made again. An identifier is accepted in any letter case
and read by the database; what is stored of the participants of a booking is the
text the caller gave.
-/

namespace CrmYnov.Admissions

open Checked
open Appointments (InterviewResult AppointmentType AppointmentMode AppointmentState)

/-- `invalidAdmissions()` -/
def invalidAdmissions : Failure := .badRequest "admissions_invalid"

variable (value : String)

/-- `assertUuid`: the identifier, as the database reads it. -/
def assertUuid : Outcome String := demand (readUuid value) invalidAdmissions

def assertKey : Outcome Unit :=
  require (Leads.isCorrectionKey value = true) invalidAdmissions

/-- `/(Z|[+-]\d\d:\d\d)$/u` -/
def hasZone : Bool :=
  value.toList.getLast? == some 'Z' ||
    Js.hasShape [fun c => c == '+' || c == '-', Js.isDigit, Js.isDigit, fun c => c == ':',
      Js.isDigit, Js.isDigit] (String.ofList (value.toList.reverse.take 6).reverse)

def instant (rt : Runtime) (value : String) : Outcome Instant := do
  require (hasZone value = true) invalidAdmissions
  demand (rt.parseDate value) invalidAdmissions

def interval (rt : Runtime) (start stop : String) (maxDays : ℕ) : Outcome (Span Instant) := do
  let start ← instant rt start
  let stop ← instant rt stop
  require (start < stop ∧ stop - start ≤ maxDays * 86400000) invalidAdmissions
  pure ⟨start, stop⟩

def assertVersion (value : ℤ) (allowZero : Bool := false) : Outcome Unit :=
  require ((if allowZero then 0 else 1) ≤ value ∧ value ≤ 9007199254740991) invalidAdmissions

def assertDuration (value : ℤ) : Outcome Unit :=
  require (15 ≤ value ∧ value ≤ 480) invalidAdmissions

/-- `hashAdmissions` of an object: the digest of its members in the order of
their names. -/
def hashAdmissions (rt : Runtime) (members : List (String × Option Js.Json)) : String :=
  rt.sha256 (Js.Json.stringify (.present (members.insertionSort fun m n => ¬n.1 < m.1)))

def number (n : ℤ) : Option Js.Json := some (.int n)

def text (s : String) : Option Js.Json := some (.str s)

/-! ### Inputs -/

structure ResponsibilityInput where
  (userId campus : String)
  active : Bool
  expectedVersion : ℤ
  idempotencyKey : String

structure WindowInput where
  (responsibilityId kind startsAt endsAt idempotencyKey : String)

structure WithdrawWindowInput where
  active : Bool
  expectedVersion : ℤ
  idempotencyKey : String

structure BookingInput where
  (responsibilityId startsAt : String)
  durationMinutes : ℤ
  (type mode : String)
  participantIds : Option (List String) := none
  idempotencyKey : String

inductive BookingAction
  | ACCEPT | REFUSE | CANCEL | RESCHEDULE | COMPLETE | NO_SHOW
deriving DecidableEq

namespace BookingAction

def text : BookingAction → String
  | ACCEPT => "ACCEPT"
  | REFUSE => "REFUSE"
  | CANCEL => "CANCEL"
  | RESCHEDULE => "RESCHEDULE"
  | COMPLETE => "COMPLETE"
  | NO_SHOW => "NO_SHOW"

def ofText? (text : String) : Option BookingAction :=
  [ACCEPT, REFUSE, CANCEL, RESCHEDULE, COMPLETE, NO_SHOW].find? fun a => a.text = text

def bookingState (action : BookingAction) (current : BookingState) : BookingState :=
  match action with
  | ACCEPT => .ACCEPTED
  | REFUSE => .REFUSED
  | CANCEL => .CANCELLED
  | RESCHEDULE => .PENDING
  | COMPLETE | NO_SHOW => current

def appointmentState : BookingAction → AppointmentState
  | ACCEPT => .CONFIRME
  | REFUSE => .REFUSE
  | CANCEL => .ANNULE
  | RESCHEDULE => .REPORTE
  | COMPLETE => .REALISE
  | NO_SHOW => .ABSENT

theorem placed_or_final (action : BookingAction) :
    (action = .ACCEPT ∨ action = .RESCHEDULE) ∨ action.appointmentState.Final := by
  cases action <;> decide

end BookingAction

structure BookingDecisionInput where
  action : String
  reason : Option String := none
  startsAt : Option String := none
  expectedVersion : ℤ
  idempotencyKey : String

structure AdmissionsReportInput where
  expectedVersion : ℤ
  (idempotencyKey result comment recommendation : String)
  missingPoints : Option String := none
  nextAction : Option String := none
  followUpAt : Option String := none

/-! ### What a booking has come to -/

inductive AdmissionsOutcomeStatus
  | DECISION_PENDING | UPCOMING | RETURN_EXPECTED | REPORT_EXPECTED | REPORTED | HELD | ABSENT
  | CANCELLED | RESCHEDULED | REFUSED | UNAVAILABLE

/-- `admissionsOutcomeStatus`. A date that is not one is `none`. -/
def admissionsOutcomeStatus (bookingState : BookingState) (appointmentState : AppointmentState)
    (endsAt : Option Instant) (hasReport : Bool) (generatedAt : Option Instant)
    (reportRequired : Bool := false) : AdmissionsOutcomeStatus :=
  if bookingState = .CANCELLED ∨ appointmentState = .ANNULE then .CANCELLED
  else if bookingState = .REFUSED then .REFUSED
  else if appointmentState = .REPORTE then .RESCHEDULED
  else if appointmentState = .ABSENT then .ABSENT
  else if appointmentState = .REALISE then
    if hasReport then .REPORTED else if reportRequired then .REPORT_EXPECTED else .HELD
  else if bookingState = .PENDING then .DECISION_PENDING
  else match endsAt, generatedAt with
    | some stop, some now =>
      if bookingState ≠ .ACCEPTED ∨ appointmentState ≠ .CONFIRME then .UNAVAILABLE
      else if now < stop then .UPCOMING else .RETURN_EXPECTED
    | _, _ => .UNAVAILABLE

end CrmYnov.Admissions
