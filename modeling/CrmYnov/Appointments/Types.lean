import CrmYnov.Base.Span
import CrmYnov.Leads.Types

/-!
# Appointments, their events and their reports

An appointment engages its adviser, its organizer, its participants and, for an
interview, its evaluator, from its start and for its duration. Each change of an
appointment appends an event, and the event of a change occupies the idempotency
key of the request that made it.
-/

namespace CrmYnov.Appointments

inductive AppointmentType
  | APPEL_INFORMATION | VISITE_CAMPUS | ENTRETIEN_ADMISSION | ENTRETIEN_MOTIVATION | TEST_ADMISSION
  | RENDEZ_VOUS_DIRECTION | RENDEZ_VOUS_LIBRE
deriving DecidableEq

namespace AppointmentType

def text : AppointmentType → String
  | APPEL_INFORMATION => "APPEL_INFORMATION"
  | VISITE_CAMPUS => "VISITE_CAMPUS"
  | ENTRETIEN_ADMISSION => "ENTRETIEN_ADMISSION"
  | ENTRETIEN_MOTIVATION => "ENTRETIEN_MOTIVATION"
  | TEST_ADMISSION => "TEST_ADMISSION"
  | RENDEZ_VOUS_DIRECTION => "RENDEZ_VOUS_DIRECTION"
  | RENDEZ_VOUS_LIBRE => "RENDEZ_VOUS_LIBRE"

/-- `appointmentTypes` -/
def all : List AppointmentType :=
  [APPEL_INFORMATION, VISITE_CAMPUS, ENTRETIEN_ADMISSION, ENTRETIEN_MOTIVATION, TEST_ADMISSION,
    RENDEZ_VOUS_DIRECTION, RENDEZ_VOUS_LIBRE]

def ofText? (text : String) : Option AppointmentType := all.find? fun t => t.text = text

end AppointmentType

inductive AppointmentMode
  | SUR_SITE | TELEPHONE | DISTANCIEL_NON_CONNECTE
deriving DecidableEq

namespace AppointmentMode

def text : AppointmentMode → String
  | SUR_SITE => "SUR_SITE"
  | TELEPHONE => "TELEPHONE"
  | DISTANCIEL_NON_CONNECTE => "DISTANCIEL_NON_CONNECTE"

def ofText? (text : String) : Option AppointmentMode :=
  [SUR_SITE, TELEPHONE, DISTANCIEL_NON_CONNECTE].find? fun m => m.text = text

end AppointmentMode

inductive AppointmentState
  | BROUILLON | PLANIFIE | CONFIRME | REPORTE | ANNULE | REALISE | ABSENT | REFUSE
deriving DecidableEq

namespace AppointmentState

def text : AppointmentState → String
  | BROUILLON => "BROUILLON"
  | PLANIFIE => "PLANIFIE"
  | CONFIRME => "CONFIRME"
  | REPORTE => "REPORTE"
  | ANNULE => "ANNULE"
  | REALISE => "REALISE"
  | ABSENT => "ABSENT"
  | REFUSE => "REFUSE"

/-- `appointmentStates` -/
def all : List AppointmentState :=
  [BROUILLON, PLANIFIE, CONFIRME, REPORTE, ANNULE, REALISE, ABSENT, REFUSE]

def ofText? (text : String) : Option AppointmentState := all.find? fun s => s.text = text

def finalStates : List AppointmentState := [ANNULE, REALISE, ABSENT, REFUSE]

def Final (s : AppointmentState) : Prop := s ∈ finalStates
deriving Decidable

def transitions : AppointmentState → List AppointmentState
  | BROUILLON => [PLANIFIE, ANNULE]
  | PLANIFIE => [CONFIRME, REPORTE, ANNULE, ABSENT, REFUSE]
  | CONFIRME => [REPORTE, ANNULE, REALISE, ABSENT, REFUSE]
  | REPORTE => [CONFIRME, ANNULE, ABSENT, REFUSE]
  | ANNULE | REALISE | ABSENT | REFUSE => []

/-- The states in which the start of an appointment is the next action on its
lead. -/
def planned : List AppointmentState := [PLANIFIE, CONFIRME, REPORTE]

theorem text_inj {s s' : AppointmentState} (h : s.text = s'.text) : s = s' := by
  cases s <;> cases s' <;> first | rfl | exact absurd h (by decide)

theorem Final.transitions_eq_nil {s : AppointmentState} (h : s.Final) : s.transitions = [] := by
  cases s <;> first | rfl | exact absurd h (by decide)

end AppointmentState

inductive InterviewResult
  | FAVORABLE | FAVORABLE_SOUS_CONDITION | A_COMPLETER | DEFAVORABLE | NON_DECIDE

namespace InterviewResult

def text : InterviewResult → String
  | FAVORABLE => "FAVORABLE"
  | FAVORABLE_SOUS_CONDITION => "FAVORABLE_SOUS_CONDITION"
  | A_COMPLETER => "A_COMPLETER"
  | DEFAVORABLE => "DEFAVORABLE"
  | NON_DECIDE => "NON_DECIDE"

def ofText? (text : String) : Option InterviewResult :=
  [FAVORABLE, FAVORABLE_SOUS_CONDITION, A_COMPLETER, DEFAVORABLE, NON_DECIDE].find? fun r =>
    r.text = text

end InterviewResult

/-! ### Rows -/

def minutes (n : ℕ) : Instant := n * 60000

/-- A row of `appointments`, with the users of its `appointment_participants`. -/
structure AppointmentRow where
  (id leadId : String)
  type : AppointmentType
  mode : AppointmentMode
  state : AppointmentState
  startsAt : Instant
  durationMinutes : ℕ
  campus : Option String := none
  (adviserId organizerId : String)
  evaluatorId : Option String := none
  participantIds : List String := []
  version : ℕ := 1

namespace AppointmentRow

variable (a : AppointmentRow)

def keys : List String := [a.id]

def span : Span Instant := ⟨a.startsAt, a.startsAt + minutes a.durationMinutes⟩

/-- The users of the appointment, as the writers of appointments list them. -/
def involved : List String :=
  [a.adviserId, a.organizerId] ++ a.participantIds ++ a.evaluatorId.toList

@[simp] theorem mem_keys {a : AppointmentRow} {id : String} : id ∈ a.keys ↔ a.id = id := by
  simp [keys, eq_comm]

end AppointmentRow

/-- A row of `appointment_events`. -/
structure AppointmentEventRow where
  (id appointmentId idempotencyKey eventType : String)
  fromState : Option AppointmentState := none
  toState : Option AppointmentState := none
  actorId : String
  reasonCode : Option String := none
  compensatesEventId : Option String := none
  occurredAt : Instant

/-- The unique indexes of `appointment_events`. -/
inductive AppointmentEventRow.Key
  | id (value : String)
  | idempotencyKey (value : String)
deriving DecidableEq

def AppointmentEventRow.keys (e : AppointmentEventRow) : List AppointmentEventRow.Key :=
  [.id e.id, .idempotencyKey e.idempotencyKey]

theorem AppointmentEventRow.mem_keys_idempotencyKey {e : AppointmentEventRow} {key : String} :
    Key.idempotencyKey key ∈ e.keys ↔ e.idempotencyKey = key := by
  simp [AppointmentEventRow.keys, eq_comm]

/-- A row of `interview_reports`. -/
structure InterviewReportRow where
  (id appointmentId : String)
  result : InterviewResult
  redactedComment : String := "[REDACTED]"
  redactedMissingPoints : Option String := none
  nextAction : Option String := none
  followUpAt : Option Instant := none
  redactedRecommendation : String := "[REDACTED]"
  validatedBy : String
  validatedAt : Instant

def InterviewReportRow.keys (r : InterviewReportRow) : List String := [r.id]

end CrmYnov.Appointments
