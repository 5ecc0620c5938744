import CrmYnov.Appointments.Types

/-!
# Responsibilities, windows and bookings

A user responsible for admissions on a campus declares windows in which
appointments may be requested (`AVAILABLE`) or may not (`BLOCKED`). A booking
ties an appointment to the responsibility it was requested from, and carries the
answer given to the request.
-/

namespace CrmYnov.Admissions

/-- A row of `admissions_responsibilities`. -/
structure AdmissionsResponsibilityRow where
  (id userId campus : String)
  active : Bool := true
  version : ℕ := 1

/-- The unique indexes of `admissions_responsibilities`. -/
inductive AdmissionsResponsibilityRow.Key
  | id (value : String)
  | userIdCampus (userId campus : String)
deriving DecidableEq

def AdmissionsResponsibilityRow.keys (r : AdmissionsResponsibilityRow) :
    List AdmissionsResponsibilityRow.Key :=
  [.id r.id, .userIdCampus r.userId r.campus]

theorem AdmissionsResponsibilityRow.mem_keys_id {r : AdmissionsResponsibilityRow} {id : String} :
    Key.id id ∈ r.keys ↔ r.id = id := by
  simp [AdmissionsResponsibilityRow.keys, eq_comm]

theorem AdmissionsResponsibilityRow.mem_keys_userIdCampus {r : AdmissionsResponsibilityRow}
    {userId campus : String} :
    Key.userIdCampus userId campus ∈ r.keys ↔ r.userId = userId ∧ r.campus = campus := by
  simp [AdmissionsResponsibilityRow.keys, eq_comm]

inductive WindowKind
  | AVAILABLE | BLOCKED
deriving DecidableEq

namespace WindowKind

def text : WindowKind → String
  | AVAILABLE => "AVAILABLE"
  | BLOCKED => "BLOCKED"

def ofText? (text : String) : Option WindowKind := [AVAILABLE, BLOCKED].find? fun k => k.text = text

end WindowKind

/-- A row of `admissions_windows`. -/
structure AdmissionsWindowRow where
  (id responsibilityId : String)
  kind : WindowKind
  (startsAt endsAt : Instant)
  active : Bool := true
  version : ℕ := 1

namespace AdmissionsWindowRow

def keys (w : AdmissionsWindowRow) : List String := [w.id]

@[simp] theorem mem_keys {w : AdmissionsWindowRow} {id : String} : id ∈ w.keys ↔ w.id = id := by
  simp [keys, eq_comm]

def span (w : AdmissionsWindowRow) : Span Instant := ⟨w.startsAt, w.endsAt⟩

end AdmissionsWindowRow

inductive BookingState
  | PENDING | ACCEPTED | REFUSED | CANCELLED
deriving DecidableEq

def BookingState.text : BookingState → String
  | PENDING => "PENDING"
  | ACCEPTED => "ACCEPTED"
  | REFUSED => "REFUSED"
  | CANCELLED => "CANCELLED"

/-- A row of `admissions_bookings`. -/
structure AdmissionsBookingRow where
  (appointmentId responsibilityId : String)
  state : BookingState := .PENDING

namespace AdmissionsBookingRow

def keys (b : AdmissionsBookingRow) : List String := [b.appointmentId]

@[simp] theorem mem_keys {b : AdmissionsBookingRow} {id : String} :
    id ∈ b.keys ↔ b.appointmentId = id := by simp [keys, eq_comm]

end AdmissionsBookingRow

/-! ### Receipts -/

/-- What a mutation answers, as its receipt keeps it. -/
inductive AdmissionsResponse
  | responsibility (id : String) (active : Bool) (version : ℕ)
  | window (id responsibilityId : String) (kind : WindowKind) (startsAt endsAt : Instant)
      (version : ℕ) (active : Bool)
  | booking (id responsibilityId : String) (state : BookingState)
      (appointmentState : Appointments.AppointmentState) (startsAt endsAt : Instant) (version : ℕ)

/-- A row of `admissions_mutation_receipts`. -/
structure AdmissionsMutationReceiptRow where
  (actorId operation key fingerprint : String)
  response : AdmissionsResponse

def AdmissionsMutationReceiptRow.keys (r : AdmissionsMutationReceiptRow) :
    List (String × String × String) := [(r.actorId, r.operation, r.key)]

end CrmYnov.Admissions
