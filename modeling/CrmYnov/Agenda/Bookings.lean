import CrmYnov.Agenda.Blocked

/-!
# Bookings and their appointments

A booking and its appointment are two rows, written by one service, while the
other service refuses to move an appointment that has a booking. What a step can
do to such a pair is therefore little (`CrmYnov.Agenda.pair_cases`): leave it, or
create it, or decide about it. Three things follow for every run.

* A booking that waits for its appointment lies inside one available window
  (`CrmYnov.covered_throughout`): it is placed in one, and a window is only
  withdrawn when another one covers what depends on it.
* The states of the two rows agree (`CrmYnov.coupled_throughout`), so that what is
  observed of a booking is always something.
* Nobody accepts a booking of their own (`CrmYnov.accepted_by_another`).
-/

namespace CrmYnov

open Appointments Admissions Table List

namespace Agenda

/-- Every booking has its appointment, and appointments last. -/
structure Attached (A : Agenda) : Prop where
  appointment : ∀ b ∈ A.bookings.rows, ∃ a ∈ A.appointments.rows, a.id = b.appointmentId
  lasting : ∀ a ∈ A.appointments.rows, 0 < a.durationMinutes

variable {A A' : Agenda} {c : Cause}

/-! ### Appointments keep their identities -/

section Update

variable {p : AppointmentRow → Prop} [DecidablePred p] {f : AppointmentRow → AppointmentRow}
  {hf : ∀ a, (f a).keys = a.keys}

theorem attached_update (h : Attached A) (hid : ∀ a, (f a).id = a.id)
    (hdur : ∀ a, (f a).durationMinutes = a.durationMinutes) :
    Attached { A with appointments := A.appointments.updateMany p f hf } := by
  have hrow : ∀ a, (if p a then f a else a).id = a.id ∧
      (if p a then f a else a).durationMinutes = a.durationMinutes := by
    intro a
    split
    · exact ⟨hid a, hdur a⟩
    · exact ⟨rfl, rfl⟩
  constructor
  · intro b hb
    obtain ⟨a, ha, hab⟩ := h.appointment b hb
    exact ⟨_, mem_map.mpr ⟨a, ha, rfl⟩, (hrow a).1.trans hab⟩
  · intro x hx
    obtain ⟨a, ha, rfl⟩ := mem_map.mp hx
    rw [(hrow a).2]
    exact h.lasting a ha

end Update

variable {a : AppointmentRow}

theorem attached_create (h : Attached A) {t} (hcreate : A.appointments.create a = some t)
    (hdur : 0 < a.durationMinutes) : Attached { A with appointments := t } := by
  constructor
  · intro b hb
    obtain ⟨x, hx, hid⟩ := h.appointment b hb
    exact ⟨x, (mem_create hcreate).mpr (.inl hx), hid⟩
  · intro x hx
    rcases (mem_create hcreate).mp hx with hx | rfl
    · exact h.lasting x hx
    · exact hdur

/-- **Every step keeps bookings attached to appointments that last.** -/
theorem attached_step (h : Attached A) (hstep : Step c A A') : Attached A' := by
  cases hstep with
  | quiet | designate | switch | declare | withdraw => exact ⟨h.appointment, h.lasting⟩
  | plan hcreate _ hdur => exact attached_create h hcreate hdur
  | @book a b t u hcreate hbook hid _ _ _ _ _ hdur =>
    obtain ⟨happt, hlasting⟩ := attached_create h hcreate hdur
    refine ⟨fun x hx => ?_, hlasting⟩
    rcases (mem_create hbook).mp hx with hx | rfl
    · exact happt x hx
    · exact ⟨a, (mem_create hcreate).mpr (.inr rfl), hid.symm⟩
  | transit => exact attached_update h (fun _ => rfl) fun _ => rfl
  | count => exact attached_update h (fun _ => rfl) fun _ => rfl
  | @decide a b action startsAt =>
    have hupdated : Attached { A with
        appointments := A.appointments.updateMany (fun x => x.id = a.id)
          (decidedAppointment action startsAt) (keys_decidedAppointment action startsAt) } :=
      attached_update h (fun _ => rfl) fun _ => rfl
    refine ⟨fun x hx => ?_, hupdated.lasting⟩
    obtain ⟨y, hy, rfl⟩ := mem_map.mp hx
    obtain ⟨z, hz, hzy⟩ := hupdated.appointment y hy
    refine ⟨z, hz, hzy.trans ?_⟩
    dsimp only
    split <;> rfl

/-! ### What a step does to a booking and its appointment -/

structure Pair (A : Agenda) (a : AppointmentRow) (b : AdmissionsBookingRow) : Prop where
  appointment : a ∈ A.appointments.rows
  booking : b ∈ A.bookings.rows
  same : a.id = b.appointmentId

/-- **A booking and its appointment stay, are created, or are decided about.** -/
inductive PairStep (c : Cause) (A A' : Agenda) (a' : AppointmentRow) (b' : AdmissionsBookingRow) :
    Prop
  /-- They are as before, a version apart. -/
  | stays {a : AppointmentRow} (hpair : A.Pair a b') (hstate : a'.state = a.state)
      (hspan : a'.span = a.span) (horganizer : a'.organizerId = a.organizerId)
  /-- They are requested. -/
  | requested (hwindows : A'.windows = A.windows) (hpend : b'.state = .PENDING)
      (hstate : a'.state = .PLANIFIE) (hoffer : A.Offers b'.responsibilityId a'.span)
      (hdate : (newDate a'.span.stop).isSome)
  /-- They are decided about. -/
  | decided {a : AppointmentRow} {b : AdmissionsBookingRow} (action : BookingAction)
      (startsAt : Instant) (hwindows : A'.windows = A.windows) (hpair : A.Pair a b)
      (ha : a' = decidedAppointment action startsAt a) (hb : b' = decidedBooking action b)
      (hadm : A.Admissible c.author action startsAt a b)

variable {b : AdmissionsBookingRow}

theorem Attached.pair_ne {t} (h : Attached A) (hcreate : A.appointments.create a = some t)
    (hb : b ∈ A.bookings.rows) : a.id ≠ b.appointmentId := by
  intro hid
  obtain ⟨x, hx, hxid⟩ := h.appointment b hb
  have hfree := findUnique_of_create hcreate (AppointmentRow.mem_keys.mpr rfl)
  exact findUnique_eq_none.mp hfree x hx (AppointmentRow.mem_keys.mpr (hxid.trans hid.symm))

theorem pair_cases (h : Attached A) (hstep : Step c A A') {a' : AppointmentRow}
    {b' : AdmissionsBookingRow} (hpair : A'.Pair a' b') : PairStep c A A' a' b' := by
  obtain ⟨ha', hb', hsame⟩ := hpair
  cases hstep with
  | quiet | designate | switch | declare | withdraw =>
    exact .stays ⟨ha', hb', hsame⟩ rfl rfl rfl
  | plan hcreate =>
    rcases (mem_create hcreate).mp ha' with ha' | rfl
    · exact .stays ⟨ha', hb', hsame⟩ rfl rfl rfl
    · exact absurd hsame (h.pair_ne hcreate hb')
  | book hcreate hbook hid hpend hstate _ hoffer hdate =>
    rcases (mem_create hbook).mp hb' with hb' | rfl
    · rcases (mem_create hcreate).mp ha' with ha' | rfl
      · exact .stays ⟨ha', hb', hsame⟩ rfl rfl rfl
      · exact absurd hsame (h.pair_ne hcreate hb')
    · rcases (mem_create hcreate).mp ha' with ha' | rfl
      · -- the identifier of the new appointment was free
        have hfree := findUnique_of_create hcreate (AppointmentRow.mem_keys.mpr rfl)
        exact absurd (AppointmentRow.mem_keys.mpr (hsame.trans hid))
          (findUnique_eq_none.mp hfree a' ha')
      · exact .requested rfl hpend hstate hoffer hdate
  | @transit current record hcur hid hnotFinal hbooking =>
    obtain ⟨a, ha, rfl⟩ := mem_map.mp ha'
    dsimp only at hsame ⊢
    split
    · rename_i hmoves
      rw [if_pos hmoves] at hsame
      have hkey : b'.appointmentId = record.id := hsame.symm.trans hmoves.1
      exact absurd (AdmissionsBookingRow.mem_keys.mpr hkey)
        (findUnique_eq_none.mp hbooking b' hb')
    · rename_i hstays
      rw [if_neg hstays] at hsame
      exact .stays ⟨ha, hb', hsame⟩ rfl rfl rfl
  | @decide a b action startsAt ha hb hadm =>
    obtain ⟨hamem, -⟩ := findUnique_eq_some.mp ha
    obtain ⟨hbmem, hbkey⟩ := findUnique_eq_some.mp hb
    have hab : b.appointmentId = a.id := AdmissionsBookingRow.mem_keys.mp hbkey
    obtain ⟨x, hx, rfl⟩ := mem_map.mp ha'
    obtain ⟨y, hy, rfl⟩ := mem_map.mp hb'
    dsimp only at hsame ⊢
    by_cases hxid : x.id = a.id
    · have hyid : y.appointmentId = a.id := by
        rw [if_pos hxid] at hsame
        have hx_id : (decidedAppointment action startsAt x).id = x.id := rfl
        rw [← hxid, ← hx_id, hsame]
        split <;> rfl
      rw [if_pos hxid, if_pos hyid]
      obtain rfl := eq_of_id A hx hamem hxid
      obtain rfl : y = b := A.bookings.eq_of_key hy hbmem (AdmissionsBookingRow.mem_keys.mpr hyid)
        (AdmissionsBookingRow.mem_keys.mpr hab)
      exact .decided action startsAt rfl ⟨hamem, hbmem, hab.symm⟩ rfl rfl hadm
    · have hyid : y.appointmentId ≠ a.id := by
        intro hyid
        rw [if_neg hxid, if_pos hyid] at hsame
        exact hxid (hsame.trans hyid)
      rw [if_neg hxid, if_neg hyid] at hsame
      rw [if_neg hxid, if_neg hyid]
      exact .stays ⟨hx, hy, hsame⟩ rfl rfl rfl
  | count =>
    obtain ⟨a, ha, rfl⟩ := mem_map.mp ha'
    dsimp only at hsame ⊢
    split
    · rename_i hid
      rw [if_pos hid] at hsame
      have hpair : A.Pair a b' := ⟨ha, hb', hsame⟩
      exact .stays hpair rfl rfl rfl
    · rename_i hid
      rw [if_neg hid] at hsame
      exact .stays ⟨ha, hb', hsame⟩ rfl rfl rfl

/-! ### Bookings are covered -/

/-- **Coverage**: a booking that waits for its appointment lies inside one active
available window of its responsibility. -/
def Covered (A : Agenda) : Prop :=
  ∀ a b, A.Pair a b → b.state.held → ¬a.state.Final → A.Offers b.responsibilityId a.span

theorem Offers.congr {id : String} {time : Span Instant} (h : A.Offers id time)
    (hwindows : A'.windows = A.windows) : A'.Offers id time := by
  rw [Offers, hwindows]
  exact h

/-- **No step takes its last window from a booking.** -/
theorem offers_step (h : Attached A) (hstep : Step c A A') (hpair : A.Pair a b)
    (hheld : b.state.held) (hlive : ¬a.state.Final) (hoffer : A.Offers b.responsibilityId a.span) :
    A'.Offers b.responsibilityId a.span := by
  obtain ⟨w, hw, hid, hactive, hkind, hcovers⟩ := hoffer
  cases hstep with
  | quiet | plan | book | transit | decide | count | designate | switch =>
    exact ⟨w, hw, hid, hactive, hkind, hcovers⟩
  | declare hcreate =>
    exact ⟨w, (mem_create hcreate).mpr (.inl hw), hid, hactive, hkind, hcovers⟩
  | @withdraw withdrawn hwithdrawn hunused =>
    have hkept : ∀ x ∈ A.windows.rows, x.id ≠ withdrawn.id →
        x ∈ (A.windows.updateMany (fun x => x.id = withdrawn.id) AdmissionsWindowRow.withdraw
          AdmissionsWindowRow.keys_withdraw).rows :=
      fun x hx hne => mem_map.mpr ⟨x, hx, if_neg hne⟩
    by_cases hsame : w.id = withdrawn.id
    · -- the appointment depends on the window, so another one covers it
      obtain rfl : w = withdrawn := A.windows.eq_of_key hw hwithdrawn
        (AdmissionsWindowRow.mem_keys.mpr hsame) (AdmissionsWindowRow.mem_keys.mpr rfl)
      have hlasts : a.span.start < a.span.stop := by
        have hdur := h.lasting a hpair.appointment
        have hlen : (0 : ℤ) < a.durationMinutes * 60000 := by omega
        exact lt_add_of_pos_right a.startsAt hlen
      have hdepends : A.DependsOn w a := ⟨hlive, (hcovers.overlaps_self hlasts).symm, b, hpair.booking,
        hpair.same.symm, hid.symm, hheld⟩
      obtain ⟨other, hother, hne, hotherid, hotheractive, hotherkind, hothercovers⟩ :=
        hunused hkind a hpair.appointment hdepends
      exact ⟨other, hkept other hother hne, hotherid.trans hid, hotheractive, hotherkind, hothercovers⟩
    · exact ⟨w, hkept w hw hsame, hid, hactive, hkind, hcovers⟩

/-- **Every step keeps bookings covered.** -/
theorem covered_step (h : Attached A ∧ Covered A) (hstep : Step c A A') :
    Attached A' ∧ Covered A' := by
  obtain ⟨hattached, hcovered⟩ := h
  refine ⟨attached_step hattached hstep, fun a' b' hpair hheld hlive => ?_⟩
  cases pair_cases hattached hstep hpair with
  | @stays a hbefore hstate hspan =>
    rw [hstate] at hlive
    rw [hspan]
    exact offers_step hattached hstep hbefore hheld hlive (hcovered a b' hbefore hheld hlive)
  | requested hwindows _ _ hoffer => exact hoffer.congr hwindows
  | decided action startsAt hwindows hbefore ha hb hadm =>
    subst ha hb
    have hplaced := action.placed_or_final.resolve_right hlive
    exact (hadm.offered hplaced).congr hwindows

/-! ### The states of a pair agree -/

def Agree : BookingState → AppointmentState → Prop
  | .PENDING, s => s = .PLANIFIE ∨ s = .REPORTE
  | .ACCEPTED, s => s = .CONFIRME ∨ s = .REALISE ∨ s = .ABSENT
  | .REFUSED, s => s = .REFUSE
  | .CANCELLED, s => s = .ANNULE

/-- **Coupling**: the two states agree, and a confirmed appointment ends at a
date. -/
def Coupled (A : Agenda) : Prop :=
  ∀ a b, A.Pair a b → Agree b.state a.state ∧
    (a.state = .CONFIRME → (newDate a.span.stop).isSome)

theorem agree_decided {author : String} {action : BookingAction} {startsAt : Instant}
    (h : A.Admissible author action startsAt a b) :
    Agree (action.bookingState b.state) action.appointmentState := by
  cases action with
  | ACCEPT => exact .inl rfl
  | REFUSE => rfl
  | CANCEL => rfl
  | RESCHEDULE => exact .inr rfl
  | COMPLETE =>
    rw [BookingAction.bookingState, h.outcome (by decide)]
    exact .inr (.inl rfl)
  | NO_SHOW =>
    rw [BookingAction.bookingState, h.outcome (by decide)]
    exact .inr (.inr rfl)

/-- **Every step keeps bookings and appointments coupled.** -/
theorem coupled_step (h : Attached A ∧ Coupled A) (hstep : Step c A A') :
    Attached A' ∧ Coupled A' := by
  obtain ⟨hattached, hcoupled⟩ := h
  refine ⟨attached_step hattached hstep, fun a' b' hpair => ?_⟩
  cases pair_cases hattached hstep hpair with
  | stays hbefore hstate hspan =>
    rw [hstate, hspan]
    exact hcoupled _ b' hbefore
  | requested _ hpend hstate =>
    rw [hpend, hstate]
    exact ⟨.inl rfl, by simp⟩
  | decided action startsAt _ _ ha hb hadm =>
    subst ha hb
    refine ⟨agree_decided hadm, fun hconf => hadm.date (.inl ?_)⟩
    revert hconf
    cases action <;> simp [decidedAppointment, BookingAction.appointmentState]

/-- **What is observed of a coupled pair is something.** -/
theorem admissionsOutcomeStatus_ne_unavailable (h : Coupled A) (hpair : A.Pair a b)
    (hasReport : Bool) (generatedAt : Instant) (reportRequired : Bool) :
    admissionsOutcomeStatus b.state a.state (newDate a.span.stop) hasReport (some generatedAt)
      reportRequired ≠ .UNAVAILABLE := by
  obtain ⟨hagree, hdate⟩ := h a b hpair
  rcases hb : b.state with _ | _ | _ | _ <;> rw [hb] at hagree
  · rcases hagree with ha | ha <;> simp [admissionsOutcomeStatus, ha]
  · rcases hagree with ha | ha | ha
    · obtain ⟨stop, hstop⟩ := Option.isSome_iff_exists.mp (hdate ha)
      by_cases hlate : generatedAt < stop <;> simp [admissionsOutcomeStatus, ha, hstop, hlate]
    · cases hasReport <;> cases reportRequired <;> simp [admissionsOutcomeStatus, ha]
    · simp [admissionsOutcomeStatus, ha]
  · simp [admissionsOutcomeStatus, show a.state = .REFUSE from hagree]
  · simp [admissionsOutcomeStatus]

/-! ### Who accepts -/

def Accepts (A A' : Agenda) (id : String) : Prop :=
  (∃ b ∈ A'.bookings.rows, b.appointmentId = id ∧ b.state = .ACCEPTED) ∧
    ¬∃ b ∈ A.bookings.rows, b.appointmentId = id ∧ b.state = .ACCEPTED

/-- **Nobody accepts a booking of their own**: the author of a step that accepts
one is not the organizer of its appointment. -/
theorem accepted_by_another_step (h : Attached A) (hstep : Step c A A') {id : String}
    (haccepts : Accepts A A' id) (ha : a ∈ A'.appointments.rows) (hid : a.id = id) :
    a.organizerId ≠ c.author := by
  obtain ⟨⟨b, hb, hbid, hbstate⟩, hbefore⟩ := haccepts
  cases pair_cases h hstep ⟨ha, hb, hid.trans hbid.symm⟩ with
  | stays hpair => exact absurd ⟨b, hpair.booking, hbid, hbstate⟩ hbefore
  | requested _ hpend => exact absurd (hbstate.symm.trans hpend) (by decide)
  | @decided a b action startsAt _ hpair ha hb hadm =>
    subst ha hb
    cases action with
    | ACCEPT => exact hadm.author_ne rfl
    | REFUSE | CANCEL | RESCHEDULE => cases hbstate
    | COMPLETE | NO_SHOW => exact absurd ⟨b, hpair.booking, hbid, hbstate⟩ hbefore

end Agenda

variable {rt : Runtime} {auth : Authority} {db : Database}

/-- **In every run, a booking that waits for its appointment lies inside one
active available window of its responsibility.** -/
theorem covered_throughout (hattached : db.agenda.Attached) (hcovered : db.agenda.Covered)
    (calls : List AgendaCall) :
    (agendaMachine rt auth).Throughout (fun db => db.agenda.Covered) db calls :=
  fun pre hpre => (agenda_throughout_of_step (I := fun A => A.Attached ∧ A.Covered)
    (fun _ _ _ hI hstep => Agenda.covered_step hI hstep) ⟨hattached, hcovered⟩ pre hpre).2

namespace Sample

/-- The administrator requests an appointment on the morning. -/
def booking (n : String) : AgendaCall :=
  .createBooking lead.id
    { responsibilityId := "ffffffff-0000-4000-8000-000000000001", startsAt := "2030-01-07T10:00:00Z"
      durationMinutes := 30, type := "ENTRETIEN_ADMISSION", mode := "TELEPHONE"
      idempotencyKey := "booking-" ++ n }
    admin "correlation" (occasion n)

/-- The morning is declared available, and an appointment is requested on it. -/
def requested : List AgendaCall := [configure "1" true 0, declare "2" "AVAILABLE", booking "3"]

end Sample

open Sample

theorem campus_attached : campus.agenda.Attached := by
  have hbookings : campus.agenda.bookings.rows = [] := rfl
  have happts : campus.agenda.appointments.rows = [] := rfl
  constructor
  · exact fun b hb => absurd hb (by simp [hbookings])
  · exact fun a ha => absurd ha (by simp [happts])

theorem covered_throughout_of_requested :
    (agendaMachine morning administrator).Throughout (fun db => db.agenda.Covered)
      campus requested := by
  have hbookings : campus.agenda.bookings.rows = [] := rfl
  refine covered_throughout campus_attached (fun a b hpair => ?_) requested
  cases hpair.booking

/-- **In every run, bookings and appointments are coupled, what is observed of a
booking is something, and nobody accepts a booking of their own.** -/
theorem coupled_throughout (hattached : db.agenda.Attached) (hcoupled : db.agenda.Coupled)
    (calls : List AgendaCall) :
    (agendaMachine rt auth).Throughout (fun db =>
      (∀ a b, db.agenda.Pair a b → Agenda.Agree b.state a.state ∧
        ∀ hasReport generatedAt reportRequired, admissionsOutcomeStatus b.state a.state
          (newDate a.span.stop) hasReport (some generatedAt) reportRequired ≠ .UNAVAILABLE) ∧
      ∀ call : AgendaCall, ∀ id,
        Agenda.Accepts db.agenda ((agendaMachine rt auth).next db call).agenda id →
          ∀ a ∈ ((agendaMachine rt auth).next db call).agenda.appointments.rows, a.id = id →
            a.organizerId ≠ call.author.userId) db calls := by
  intro pre hpre
  obtain ⟨hattached, hcoupled⟩ : ((agendaMachine rt auth).run db pre).agenda.Attached ∧
      ((agendaMachine rt auth).run db pre).agenda.Coupled :=
    agenda_throughout_of_step (I := fun A => A.Attached ∧ A.Coupled)
      (fun _ _ _ hI hstep => Agenda.coupled_step hI hstep) ⟨hattached, hcoupled⟩ pre hpre
  refine ⟨fun a b hpair => ⟨(hcoupled a b hpair).1, ?_⟩, fun call id haccepts a ha hid => ?_⟩
  · exact Agenda.admissionsOutcomeStatus_ne_unavailable hcoupled hpair
  · exact Agenda.accepted_by_another_step hattached (agendaMachine_step call) haccepts ha hid

theorem coupled_throughout_of_requested :
    (agendaMachine morning administrator).Throughout (fun db =>
      (∀ a b, db.agenda.Pair a b → Agenda.Agree b.state a.state ∧
        ∀ hasReport generatedAt reportRequired, admissionsOutcomeStatus b.state a.state
          (newDate a.span.stop) hasReport (some generatedAt) reportRequired ≠ .UNAVAILABLE) ∧
      ∀ call : AgendaCall, ∀ id, Agenda.Accepts db.agenda
        ((agendaMachine morning administrator).next db call).agenda id →
          ∀ a ∈ ((agendaMachine morning administrator).next db
            call).agenda.appointments.rows, a.id = id → a.organizerId ≠ call.author.userId)
      campus requested := by
  have hbookings : campus.agenda.bookings.rows = [] := rfl
  refine coupled_throughout campus_attached (fun a b hpair => ?_) requested
  cases hpair.booking

end CrmYnov
