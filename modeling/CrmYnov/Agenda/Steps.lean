import CrmYnov.Admissions.Service
import CrmYnov.Base.Machine

/-!
# What a call does to the agenda

Appointments, bookings, windows and responsibilities are written by two services,
ten calls in all. Here they are the steps of one machine
(`CrmYnov.agendaMachine`), and what a step can do to the four tables is said once
(`CrmYnov.Agenda.Step`), guards included: every invariant of the agenda is a
case analysis on it.

A step has a *cause*: the users its call names or blocks, the responsibilities it
would switch on, and its author. These are read off the call and the database before
it, so a condition on causes is a condition on calls.
-/

namespace CrmYnov

open Checked
open Appointments Admissions

/-! ### Steps of the agenda -/

structure Agenda.Cause where
  /-- The users whose identifiers the call stores. -/
  users : List String
  /-- The users whose time the call blocks. -/
  blocks : List String
  /-- The responsibilities the call would switch on. -/
  switchesOn : AdmissionsResponsibilityRow → Prop
  /-- The author of the call. -/
  author : String

namespace Agenda

/-- A single active window of a responsibility is available throughout a time. -/
def Offers (A : Agenda) (responsibilityId : String) (time : Span Instant) : Prop :=
  ∃ w ∈ A.windows.rows, w.responsibilityId = responsibilityId ∧ w.active ∧ w.kind = .AVAILABLE ∧
    w.span.Covers time

def DependsOn (A : Agenda) (w : AdmissionsWindowRow) (a : AppointmentRow) : Prop :=
  ¬a.state.Final ∧ a.span.Overlaps w.span ∧ ∃ b ∈ A.bookings.rows,
    b.appointmentId = a.id ∧ b.responsibilityId = w.responsibilityId ∧ b.state.held

/-- What a decision requires of its booking and of its appointment. -/
structure Admissible (A : Agenda) (author : String) (action : BookingAction) (startsAt : Instant)
    (a : AppointmentRow) (b : AdmissionsBookingRow) : Prop where
  pending : b.state.held
  notFinal : ¬a.state.Final
  answer : action ∈ [BookingAction.ACCEPT, .REFUSE] → b.state = .PENDING
  outcome : action ∈ [BookingAction.COMPLETE, .NO_SHOW] → b.state = .ACCEPTED
  start : action ≠ .RESCHEDULE → startsAt = a.startsAt
  author_ne : action = .ACCEPT → a.organizerId ≠ author
  free : action = .ACCEPT ∨ action = .RESCHEDULE →
    Free A a.involved (decidedAppointment action startsAt a).span (some a.id)
  offered : action = .ACCEPT ∨ action = .RESCHEDULE →
    A.Offers b.responsibilityId (decidedAppointment action startsAt a).span
  date : action = .ACCEPT ∨ action = .RESCHEDULE →
    (newDate (decidedAppointment action startsAt a).span.stop).isSome

/-- **What a step can do to the agenda.** -/
inductive Step (c : Cause) (A : Agenda) : Agenda → Prop
  /-- Nothing. -/
  | quiet : Step c A A
  /-- Create an appointment without a booking. -/
  | plan {a : AppointmentRow} {t} (hcreate : A.appointments.create a = some t)
      (hfree : Free A a.involved a.span none) (hdur : 0 < a.durationMinutes)
      (husers : ∀ u ∈ a.involved, u ∈ c.users) : Step c A { A with appointments := t }
  /-- Create an appointment with its booking. -/
  | book {a : AppointmentRow} {b : AdmissionsBookingRow} {t u}
      (hcreate : A.appointments.create a = some t) (hbook : A.bookings.create b = some u)
      (hid : b.appointmentId = a.id) (hpend : b.state = .PENDING) (hstate : a.state = .PLANIFIE)
      (hfree : Free A a.involved a.span none) (hoffer : A.Offers b.responsibilityId a.span)
      (hdate : (newDate a.span.stop).isSome) (hdur : 0 < a.durationMinutes)
      (husers : ∀ u ∈ a.involved, u ∈ c.users) : Step c A { A with appointments := t, bookings := u }
  /-- Move an appointment that has no booking. -/
  | transit {current record : AppointmentRow} (hcur : current ∈ A.appointments.rows)
      (hid : record.id = current.id) (hnotFinal : ¬current.state.Final)
      (hbooking : A.bookings.findUnique record.id = none)
      (hdur : record.durationMinutes = current.durationMinutes)
      (husers : ∀ u ∈ current.involved, u ≠ "" → u ∈ record.involved)
      (hfree : ¬record.state.Final → Free A record.involved record.span (some record.id)) :
      Step c A { A with
        appointments := A.appointments.updateMany
          (fun a => a.id = record.id ∧ a.version + 1 = record.version) (reset record)
          (keys_reset record) }
  /-- Decide about a booking. -/
  | decide {a : AppointmentRow} {b : AdmissionsBookingRow} {action : BookingAction}
      {startsAt : Instant} (ha : A.appointments.findUnique a.id = some a)
      (hb : A.bookings.findUnique a.id = some b)
      (hadm : A.Admissible c.author action startsAt a b) :
      Step c A { A with
        appointments := A.appointments.updateMany (fun x => x.id = a.id)
          (decidedAppointment action startsAt) (keys_decidedAppointment action startsAt)
        bookings := A.bookings.updateMany (fun x => x.appointmentId = a.id)
          (decidedBooking action) (keys_decidedBooking action) }
  /-- Count the version of an appointment. -/
  | count {id : String} : Step c A { A with
      appointments := A.appointments.updateMany (fun a => a.id = id) bump keys_bump }
  /-- Create a responsibility. -/
  | designate {r : AdmissionsResponsibilityRow} {t}
      (hcreate : A.responsibilities.create r = some t) : Step c A { A with responsibilities := t }
  /-- Switch a responsibility. -/
  | switch {r : AdmissionsResponsibilityRow} {active : Bool} (hr : r ∈ A.responsibilities.rows)
      (hon : active = true → r.active = false → c.switchesOn r) : Step c A { A with
      responsibilities := A.responsibilities.updateMany (fun x => x.id = r.id)
        (AdmissionsResponsibilityRow.switch active)
        (AdmissionsResponsibilityRow.keys_switch active) }
  /-- Create a window. -/
  | declare {w : AdmissionsWindowRow} {r : AdmissionsResponsibilityRow} {t}
      (hcreate : A.windows.create w = some t) (hr : r ∈ A.responsibilities.rows)
      (hid : r.id = w.responsibilityId) (hblocks : w.kind = .BLOCKED → r.userId ∈ c.blocks)
      (hfree : w.kind = .BLOCKED → Free A [r.userId] w.span none) :
      Step c A { A with windows := t }
  /-- Withdraw a window. -/
  | withdraw {w : AdmissionsWindowRow} (hw : w ∈ A.windows.rows)
      (hunused : w.kind = .AVAILABLE → ∀ a ∈ A.appointments.rows, A.DependsOn w a →
        ∃ other ∈ A.windows.rows, other.id ≠ w.id ∧ other.responsibilityId = w.responsibilityId ∧
          other.active ∧ other.kind = .AVAILABLE ∧ other.span.Covers a.span) :
      Step c A { A with
        windows := A.windows.updateMany (fun x => x.id = w.id) AdmissionsWindowRow.withdraw
          AdmissionsWindowRow.keys_withdraw }

end Agenda

/-! ### What is written beside the agenda -/

section Beside

variable {rt : Runtime} {db db' : Database}

@[simp] theorem record_agenda {m : Leads.Meeting} (h : m.record db = .ok db') :
    db'.agenda = db.agenda := by
  obtain ⟨-, t, rfl⟩ := Leads.Meeting.record_ok h
  rfl

theorem audit_agenda {event : AuditEventRow} (h : db.audit event = .ok db') :
    db'.agenda = db.agenda := by
  obtain ⟨t, -, rfl⟩ := Database.audit_ok_iff.mp h
  rfl

theorem persistEvent_agenda {event : AppointmentEventRow} (h : persistEvent db event = .ok db') :
    db'.agenda = db.agenda := by
  simp only [persistEvent, ok_iff] at h
  obtain ⟨t, -, rfl⟩ := h
  rfl

theorem notifyParties_agenda {id key : String} {recipients : List String}
    (h : notifyParties rt db id key recipients = .ok db') : db'.agenda = db.agenda := by
  induction recipients generalizing db with
  | nil =>
    cases h
    rfl
  | cons recipient recipients ih =>
    simp only [notifyParties, bind_ok_iff] at h
    obtain ⟨t, -, h⟩ := h
    have hrest := ih h
    exact hrest

theorem effects_agenda {booked : Booked} {actor : Principal} {eventType key correlationId : String}
    {reason : Option String} {oldStart next : Option Instant} {o : AdmissionsOccasion}
    (h : effects rt db booked actor eventType key correlationId reason oldStart next o = .ok db') :
    db'.agenda = db.agenda := by
  simp only [effects, Admissions.audit, bind_ok_iff] at h
  obtain ⟨_, hevent, _, hmeeting, _, haudit, hnotify⟩ := h
  rw [notifyParties_agenda hnotify, audit_agenda haudit, record_agenda hmeeting,
    persistEvent_agenda hevent]

/-- **A mutation runs its action or answers from its receipt**: the receipt says
which. -/
theorem mutation_cases {actor : Principal} {operation key : String}
    {payload : List (String × Option Js.Json)}
    {action : String → Outcome (AdmissionsResponse × Database)} {response : AdmissionsResponse}
    (h : mutation rt db actor operation key payload action = .ok (response, db')) :
    db.admissionsMutationReceipts.findUnique (actor.userId, operation, key) ≠ none ∧ db' = db ∨
      db.admissionsMutationReceipts.findUnique (actor.userId, operation, key) = none ∧
        ∃ effectKey db₁, action effectKey = .ok (response, db₁) ∧
          ∃ t, { db₁ with admissionsMutationReceipts := t } = db' := by
  simp only [mutation] at h
  split at h
  · rename_i existing hexisting
    simp only [ok_iff] at h
    obtain ⟨_, -, -, rfl⟩ := h
    exact .inl ⟨by simp [hexisting], rfl⟩
  · rename_i hnew
    simp only [ok_iff, Prod.exists] at h
    obtain ⟨_, db₁, hact, t, -, rfl, rfl⟩ := h
    exact .inr ⟨hnew, _, db₁, hact, t, rfl⟩

theorem mutation_ok {actor : Principal} {operation key : String}
    {payload : List (String × Option Js.Json)}
    {action : String → Outcome (AdmissionsResponse × Database)} {response : AdmissionsResponse}
    (h : mutation rt db actor operation key payload action = .ok (response, db')) :
    db' = db ∨ ∃ effectKey db₁, action effectKey = .ok (response, db₁) ∧
      ∃ t, { db₁ with admissionsMutationReceipts := t } = db' :=
  (mutation_cases h).imp And.right And.right

end Beside

end CrmYnov
