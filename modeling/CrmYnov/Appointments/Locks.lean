import CrmYnov.Platform.Database

/-!
# What every writer of appointments asks first

Before an appointment is written, its users must be free: no appointment that is
not over engages one of them at that time, and no active window declared blocked
by an active responsibility of one of them overlaps it. The users of appointments
are texts and are compared as such; the users of responsibilities are identifiers
of rows, so the texts are read before they are compared with them.
-/

namespace CrmYnov

open Checked Admissions

/-- `new Date(t)`, when it is a date. -/
def newDate (t : Instant) : Option Instant :=
  if -8640000000000000 ≤ t ∧ t ≤ 8640000000000000 then some t else none

/-- The tables that say who is engaged when. -/
structure Agenda where
  appointments : Table Appointments.AppointmentRow Appointments.AppointmentRow.keys
  bookings : Table AdmissionsBookingRow AdmissionsBookingRow.keys
  windows : Table AdmissionsWindowRow AdmissionsWindowRow.keys
  responsibilities : Table AdmissionsResponsibilityRow
    AdmissionsResponsibilityRow.keys

def Database.agenda (db : Database) : Agenda where
  appointments := db.appointments
  bookings := db.admissionsBookings
  windows := db.admissionsWindows
  responsibilities := db.admissionsResponsibilities

namespace Appointments

/-- The appointment is not over, and engages one of some users. -/
def Occupies (a : AppointmentRow) (userIds : List String) : Prop :=
  ¬a.state.Final ∧ ∃ u ∈ a.involved, u ∈ userIds
deriving Decidable

/-- `appointmentOccupations`: when the users are engaged. -/
def appointmentOccupations (db : Database) (userIds : List String) (time : Span Instant)
    (excludeId : Option String) : List (Span Instant) :=
  (db.appointments.findMany fun a => Occupies a userIds ∧ a.span.Overlaps time ∧
    some a.id ≠ excludeId).map AppointmentRow.span

/-- The window is blocked by an active responsibility of one of some users. -/
def Blocks (db : Database) (w : AdmissionsWindowRow) (users : List String) : Prop :=
  w.active ∧ w.kind = .BLOCKED ∧ ∃ r ∈ db.admissionsResponsibilities.rows,
    r.id = w.responsibilityId ∧ r.active ∧ r.userId ∈ users
deriving Decidable

def readUsers (userIds : List String) : Outcome (List String) :=
  userIds.mapM fun id => demand (readUuid id) .database

/-- `new ConflictException({ code: "admissions_booking_conflict" })` -/
def bookingConflict : Failure := .conflict "admissions_booking_conflict"

/-- `assertAppointmentFree`. The end of the time is a date the caller has
computed. -/
def assertAppointmentFree (db : Database) (userIds : List String) (time : Span Instant)
    (excludeId : Option String) : Outcome Unit := do
  let _ ← demand (newDate time.stop) .database
  require (appointmentOccupations db userIds time excludeId = []) bookingConflict
  let users ← readUsers userIds
  require (db.admissionsWindows.findFirst (fun w => Blocks db w users ∧ w.span.Overlaps time) = none)
    bookingConflict

/-- **Users are free at a time**: nothing but an excluded appointment engages
them, and no blocked window of theirs overlaps the time. -/
structure Free (A : Agenda) (userIds : List String) (time : Span Instant)
    (excludeId : Option String) : Prop where
  appointments : ∀ a ∈ A.appointments.rows, some a.id ≠ excludeId → Occupies a userIds →
    ¬a.span.Overlaps time
  windows : ∀ w ∈ A.windows.rows, w.active → w.kind = .BLOCKED →
    ∀ r ∈ A.responsibilities.rows, r.id = w.responsibilityId → r.active →
      (∃ u ∈ userIds, readUuid u = some r.userId) → ¬w.span.Overlaps time

variable {db : Database} {userIds : List String} {time : Span Instant} {excludeId : Option String}

theorem mem_readUsers {users : List String} (h : readUsers userIds = .ok users) {user : String} :
    user ∈ users ↔ ∃ u ∈ userIds, readUuid u = some user := by
  have hall := mapM_ok_iff.mp h
  clear h
  induction hall with
  | nil => simp
  | cons hread _ ih =>
    rw [demand_ok_iff] at hread
    simp [ih, hread, eq_comm]

theorem appointmentOccupations_eq_nil :
    appointmentOccupations db userIds time excludeId = [] ↔
      ∀ a ∈ db.appointments.rows, some a.id ≠ excludeId → Occupies a userIds →
        ¬a.span.Overlaps time := by
  rw [appointmentOccupations, List.map_eq_nil_iff, List.eq_nil_iff_forall_not_mem]
  simp only [Table.mem_findMany]
  constructor
  · exact fun h a ha hne hocc hover => h a ⟨ha, hocc, hover, hne⟩
  · rintro h a ⟨ha, hocc, hover, hne⟩
    exact h a ha hne hocc hover

/-- **The check passes exactly when the users are free**, the end of the time is a
date and the users are readable. -/
theorem assertAppointmentFree_ok_iff {u : Unit} :
    assertAppointmentFree db userIds time excludeId = .ok u ↔
      Free db.agenda userIds time excludeId ∧ (newDate time.stop).isSome ∧
        ∀ u ∈ userIds, (readUuid u).isSome := by
  simp only [assertAppointmentFree, ok_iff]
  constructor
  · rintro ⟨_, hend, -, hfree, users, husers, hwindows⟩
    refine ⟨⟨appointmentOccupations_eq_nil.mp hfree, ?_⟩, by simp [hend], fun u hu => ?_⟩
    · intro w hw hactive hkind r hr hid hractive hread hover
      refine Table.findFirst_eq_none.mp hwindows w hw ⟨⟨hactive, hkind, r, hr, hid, hractive, ?_⟩, hover⟩
      exact (mem_readUsers husers).mpr hread
    · obtain ⟨user, -, hread⟩ := exists_of_mapM husers hu
      simp [demand_ok_iff.mp hread]
  · rintro ⟨hfree, hend, hreadable⟩
    obtain ⟨stop, hstop⟩ := Option.isSome_iff_exists.mp hend
    have husers : ∃ users, readUsers userIds = .ok users := by
      clear hfree
      induction userIds with
      | nil => exact ⟨[], rfl⟩
      | cons id ids ih =>
        obtain ⟨users, husers⟩ := ih fun u hu => hreadable u (List.mem_cons_of_mem id hu)
        obtain ⟨user, huser⟩ := Option.isSome_iff_exists.mp (hreadable id List.mem_cons_self)
        exact ⟨user :: users, mapM_ok_iff.mpr (.cons (by simp [huser]) (mapM_ok_iff.mp husers))⟩
    obtain ⟨users, husers⟩ := husers
    refine ⟨stop, hstop, (), appointmentOccupations_eq_nil.mpr hfree.appointments, users, husers, ?_⟩
    refine Table.findFirst_eq_none.mpr fun w hw => ?_
    rintro ⟨⟨hactive, hkind, r, hr, hid, hractive, hmem⟩, hover⟩
    exact hfree.windows w hw hactive hkind r hr hid hractive ((mem_readUsers husers).mp hmem) hover

end Appointments

end CrmYnov
