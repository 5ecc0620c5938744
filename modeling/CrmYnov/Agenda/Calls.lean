import CrmYnov.Agenda.Steps

/-!
# The calls are steps

Each of the ten calls, inverted: when it returns, what it has done to the agenda
is one step (`CrmYnov.Agenda.Step`), caused by what the call says. A call that
throws leaves the database as it was.
-/

namespace CrmYnov

open Checked Leads
open Appointments Admissions

variable {rt : Runtime} {auth : Authority} {db db' : Database} {c : Agenda.Cause}

/-! ### Appointments without bookings -/

section Appointments

variable {leadId id correlationId : String} {principal : Principal} {o : AppointmentOccasion}
  {record : AppointmentRow} {event : AppointmentEventRow}

theorem event?_key {key : String} (h : event? db key = some event) :
    event.idempotencyKey = key :=
  AppointmentEventRow.mem_keys_idempotencyKey.mp (Table.findUnique_eq_some.mp h).2

variable {input : AppointmentInput}

theorem draft_ok {lead : LeadRow} (h : draft rt lead input principal o = .ok record) :
    0 < record.durationMinutes ∧ record.id = o.rowId ∧ record.leadId = lead.id ∧
      (record.state = .BROUILLON ∨ record.state = .PLANIFIE) ∧
      record.involved = [adviserOf lead input principal, principal.userId] ++ participantsOf input ++
        (nonEmpty input.evaluatorId).toList := by
  simp only [draft, ok_iff] at h
  obtain ⟨_, -, _, -, state, -, -, hstate, _, -, -, ⟨hdur, -⟩, -, -, rfl⟩ := h
  refine ⟨?_, rfl, rfl, hstate, rfl⟩
  show 0 < (input.durationMinutes.getD 0).toNat
  omega

/-- **A creation is a replay or a new appointment.** -/
theorem create_ok (h : create rt db leadId input principal o = .ok (record, event)) :
    (event? db event.idempotencyKey).isSome ∨ ∃ lead drafted, db.lead leadId = some lead ∧
      draft rt lead input principal o = .ok drafted ∧ o.now < drafted.startsAt ∧
      record = { drafted with campus := nonEmpty drafted.campus } := by
  simp only [create, ok_iff] at h
  obtain ⟨-, -, lead, hlead, -, -, drafted, hdraft, h⟩ := h
  split at h
  · simp only [ok_iff] at h
    obtain ⟨-, -, _, -, e, hevent, -, rfl⟩ := h
    exact .inl (by rw [event?_key hevent, hevent]; rfl)
  · simp only [ok_iff] at h
    obtain ⟨-, hnow, rfl, -⟩ := h
    exact .inr ⟨lead, drafted, hlead, hdraft, hnow, rfl⟩

/-- **What a creation writes**: nothing when its key is known, and otherwise an
appointment whose users are free. -/
theorem persistCreate_ok (h : persistCreate rt db record event principal correlationId o = .ok db') :
    (event? db event.idempotencyKey).isSome ∧ db' = db ∨
      event? db event.idempotencyKey = none ∧
      Free db.agenda record.involved record.span none ∧
      ∃ t, db.appointments.create record = some t ∧
        db'.agenda = { db.agenda with appointments := t } := by
  rw [persistCreate] at h
  split at h
  · rename_i hknown
    exact .inl ⟨hknown, (pure_ok_iff.mp h).symm⟩
  · rename_i hnew
    simp only [ok_iff, insert_ok_iff, assertAppointmentFree_ok_iff] at h
    obtain ⟨_, -, -, -, -, ⟨hfree, -⟩, t, hcreate, _, hevent, _, hmeeting, haudit⟩ := h
    refine .inr ⟨by simpa using hnew, hfree, t, hcreate, ?_⟩
    rw [audit_agenda haudit, record_agenda hmeeting, persistEvent_agenda hevent]
    rfl

theorem createForApi_step {stored : AppointmentRow}
    (h : createForApi rt db leadId input principal correlationId o = .ok (stored, db'))
    (husers : ∀ lead, db.lead leadId = some lead → ∀ u ∈
      [adviserOf lead input principal, principal.userId] ++ participantsOf input ++
        (nonEmpty input.evaluatorId).toList, u ∈ c.users) :
    Agenda.Step c db.agenda db'.agenda := by
  simp only [createForApi, ok_iff, Prod.exists] at h
  obtain ⟨record, event, hcreate, db₁, hpersist, _, -, -, rfl⟩ := h
  rcases persistCreate_ok hpersist with ⟨-, rfl⟩ | ⟨hnew, hfree, t, ht, hagenda⟩
  · exact .quiet
  · rcases create_ok hcreate with hknown | ⟨lead, drafted, hlead, hdraft, -, rfl⟩
    · rw [hnew] at hknown
      cases hknown
    · obtain ⟨hdur, -, -, -, hinvolved⟩ := draft_ok hdraft
      rw [hagenda]
      refine .plan ht hfree hdur fun u hu => husers lead hlead u ?_
      rw [← hinvolved]
      exact hu

theorem moved_ok {current : AppointmentRow} {input : TransitionInput}
    (h : moved rt current input principal o = .ok record) :
    record.state ∈ current.state.transitions ∧ ∃ startsAt, record =
      { current with state := record.state, startsAt, version := current.version + 1 } := by
  simp only [moved, ok_iff] at h
  obtain ⟨next, -, -, ⟨hnext, -⟩, -, -, -, -, startsAt, -, -, -, -, -, rfl⟩ := h
  exact ⟨hnext, startsAt, rfl⟩

theorem authorized_ok (h : authorized db id principal = .ok record) : item? db id = some record := by
  simp only [authorized, ok_iff] at h
  obtain ⟨_, hitem, -, -, -, -, _, -, rfl⟩ := h
  exact hitem

/-- **A transition is a replay or a move of the appointment it names.** -/
theorem transition_ok {input : TransitionInput}
    (h : transition rt db id input principal o = .ok (record, event)) :
    (event? db event.idempotencyKey).isSome ∨ ∃ current, item? db id = some current ∧
      moved rt current input principal o = .ok record := by
  simp only [transition, ok_iff] at h
  obtain ⟨current, hcur, -, -, h⟩ := h
  split at h
  · simp only [ok_iff] at h
    obtain ⟨-, -, _, -, e, hevent, -, rfl⟩ := h
    exact .inl (by rw [event?_key hevent, hevent]; rfl)
  · simp only [ok_iff] at h
    obtain ⟨_, hmoved, rfl, -⟩ := h
    exact .inr ⟨current, authorized_ok hcur, hmoved⟩

/-- **What a transition writes**: nothing when its key is known, and otherwise the
state and the start of an appointment without booking, whose users are free
unless it is over. -/
theorem persistTransition_ok
    (h : persistTransition rt db record event principal correlationId o = .ok db') :
    (event? db event.idempotencyKey).isSome ∧ db' = db ∨
      event? db event.idempotencyKey = none ∧ unbooked db record.id ∧
      (¬record.state.Final → Free db.agenda record.involved record.span (some record.id)) ∧
      db'.agenda = { db.agenda with
        appointments := db.appointments.updateMany
          (fun a => a.id = record.id ∧ a.version + 1 = record.version) (reset record)
          (keys_reset record) } := by
  rw [persistTransition] at h
  split at h
  · rename_i hknown
    exact .inl ⟨hknown, (pure_ok_iff.mp h).symm⟩
  · rename_i hnew
    simp only [ok_iff] at h
    obtain ⟨-, hbooking, _, hfree, -, -, _, hevent, _, hmeeting, haudit⟩ := h
    refine .inr ⟨by simpa using hnew, hbooking, fun hfinal => ?_, ?_⟩
    · simp only [assertFreeUnlessFinal, if_neg hfinal, assertAppointmentFree_ok_iff] at hfree
      exact hfree.1
    · rw [audit_agenda haudit, record_agenda hmeeting, persistEvent_agenda hevent]
      rfl

theorem mem_involved_mapAppointment {a : AppointmentRow} {u : String} (hu : u ∈ a.involved)
    (hne : u ≠ "") : u ∈ (mapAppointment a).involved := by
  simp only [AppointmentRow.involved, mapAppointment, List.mem_append, sortTexts,
    List.mem_insertionSort] at hu ⊢
  refine hu.imp id fun hevaluator => ?_
  rw [Option.mem_toList] at hevaluator ⊢
  simp [hevaluator, nonEmpty, hne]

theorem transitionForApi_step {input : TransitionInput} {stored : AppointmentRow}
    (h : transitionForApi rt db id input principal correlationId o = .ok (stored, db')) :
    Agenda.Step c db.agenda db'.agenda := by
  simp only [transitionForApi, ok_iff, Prod.exists] at h
  obtain ⟨-, -, record, event, htransition, db₁, hpersist, _, -, -, rfl⟩ := h
  rcases persistTransition_ok hpersist with ⟨-, rfl⟩ | ⟨hnew, hbooking, hfree, hagenda⟩
  · exact .quiet
  · rcases transition_ok htransition with hknown | ⟨current, hitem, hmoved⟩
    · rw [hnew] at hknown
      cases hknown
    · obtain ⟨row, hrow, rfl⟩ := Option.map_eq_some_iff.mp hitem
      obtain ⟨hnext, startsAt, hrecord⟩ := moved_ok hmoved
      have hmem : row ∈ db.agenda.appointments.rows := (Table.findUnique_eq_some.mp hrow).1
      rw [hagenda]
      refine .transit hmem ?_ (fun hfinal => ?_) hbooking ?_ (fun u hu hne => ?_) hfree
      · rw [hrecord]
        rfl
      · rw [show (mapAppointment row).state = row.state from rfl, hfinal.transitions_eq_nil] at hnext
        exact absurd hnext List.not_mem_nil
      · rw [hrecord]
        rfl
      · rw [hrecord]
        exact mem_involved_mapAppointment hu hne

/-- A compensation writes an event and an audit event, and nothing else. -/
theorem compensateForApi_writes {input : CompensationInput} {stored : AppointmentEventRow}
    (h : compensateForApi rt db id input principal correlationId o = .ok (stored, db')) :
    ∃ t u, db' = { db with appointmentEvents := t, auditEvents := u } := by
  simp only [compensateForApi, ok_iff, Prod.exists] at h
  obtain ⟨record, event, -, db₁, hpersist, _, -, -, rfl⟩ := h
  rw [persistCompensation] at hpersist
  split at hpersist
  · cases hpersist
    exact ⟨_, _, rfl⟩
  · simp only [persistEvent, persistAudit, ok_iff, Database.audit_ok_iff] at hpersist
    obtain ⟨_, ⟨t, -, rfl⟩, u, -, rfl⟩ := hpersist
    exact ⟨t, u, rfl⟩

theorem validateReportForApi_step {input : ReportInput} {stored : InterviewReportRow}
    (h : validateReportForApi rt db id input principal correlationId o = .ok (stored, db')) :
    Agenda.Step c db.agenda db'.agenda := by
  simp only [validateReportForApi, ok_iff, Prod.exists] at h
  obtain ⟨-, -, record, report, -, db₁, hpersist, _, -, -, rfl⟩ := h
  simp only [persistReport, ok_iff] at hpersist
  obtain ⟨-, -, hpersist⟩ := hpersist
  split at hpersist
  · cases hpersist
    exact .quiet
  · simp only [bind_ok_iff, insert_ok_iff] at hpersist
    obtain ⟨t, -, _, hmeeting, haudit⟩ := hpersist
    rw [audit_agenda haudit, record_agenda hmeeting]
    exact .quiet

end Appointments

/-! ### Responsibilities, windows and bookings -/

section Admissions

variable {id leadId correlationId : String} {principal actor : Principal} {o : AdmissionsOccasion}
  {profile : Profile} {response : AdmissionsResponse}

theorem currentActor_userId (h : currentActor auth db principal = .ok actor) :
    actor.userId = principal.userId := by
  simp only [currentActor, ok_iff] at h
  obtain ⟨_, -, -, -, rfl⟩ := h
  rfl

theorem profile?_row (h : profile? db id = some profile) :
    profile.row ∈ db.admissionsResponsibilities.rows ∧ profile.row.id = id := by
  simp only [profile?, Option.bind_eq_bind, Option.bind_eq_some_iff, Option.some.injEq] at h
  obtain ⟨row, hrow, _, -, rfl⟩ := h
  obtain ⟨hmem, hid⟩ := Table.findUnique_eq_some.mp hrow
  exact ⟨hmem, AdmissionsResponsibilityRow.mem_keys_id.mp hid⟩

theorem activeProfile_ok {code : Option String}
    (h : activeProfile rt auth db id code = .ok profile) : profile? db id = some profile := by
  simp only [activeProfile, ok_iff] at h
  obtain ⟨_, hprofile, -, -, _, -, -, -, rfl⟩ := h
  exact hprofile

theorem ownOrAdminProfile_ok (h : ownOrAdminProfile rt auth db id actor = .ok profile) :
    profile? db id = some profile := by
  simp only [ownOrAdminProfile, ok_iff] at h
  obtain ⟨_, hprofile, _, -, -, -, rfl⟩ := h
  exact activeProfile_ok hprofile

theorem upsertResponsibility_step {userId campus : String} {active : Bool}
    {row : AdmissionsResponsibilityRow}
    (h : upsertResponsibility db userId campus id active = .ok (row, db'))
    (hon : ∀ r ∈ db.admissionsResponsibilities.rows, r.userId = userId → r.campus = campus →
      active = true → r.active = false → c.switchesOn r) :
    Agenda.Step c db.agenda db'.agenda := by
  rw [upsertResponsibility] at h
  split at h
  · simp only [ok_iff, insert_ok_iff] at h
    obtain ⟨t, ht, -, rfl⟩ := h
    exact .designate ht
  · rename_i current hcur
    simp only [pure_ok_iff, Prod.mk.injEq] at h
    obtain ⟨-, rfl⟩ := h
    obtain ⟨hmem, hkey⟩ := Table.findUnique_eq_some.mp hcur
    obtain ⟨huser, hcampus⟩ := AdmissionsResponsibilityRow.mem_keys_userIdCampus.mp hkey
    exact .switch hmem (hon current hmem huser hcampus)

theorem configureResponsibility_step {input : ResponsibilityInput}
    (h : configureResponsibility rt auth db input principal correlationId o = .ok (response, db'))
    (hon : ∀ r ∈ db.admissionsResponsibilities.rows, readUuid input.userId = some r.userId →
      (∃ k, campus rt db input.campus = .ok k ∧ k.code = r.campus) →
      input.active = true → r.active = false → c.switchesOn r) :
    Agenda.Step c db.agenda db'.agenda := by
  simp only [configureResponsibility, assertUuid, ok_iff] at h
  obtain ⟨userId, huserId, _, -, _, -, actor, -, k, hk, -, -, user, huser, h⟩ := h
  have hid : user.id = userId := by
    simp only [target, ok_iff] at huser
    obtain ⟨_, hfound, -, -, rfl⟩ := huser
    exact Users.CollaboratorRow.mem_keys_id.mp (Table.findUnique_eq_some.mp hfound).2
  rcases mutation_ok h with rfl | ⟨key, db₁, hact, t, rfl⟩
  · exact .quiet
  · simp only [ok_iff, Prod.exists] at hact
    obtain ⟨-, -, row, db₂, hupsert, db₃, haudit, -, rfl⟩ := hact
    have hagenda : db₃.agenda = db₂.agenda := audit_agenda haudit
    have hstep : Agenda.Step c db.agenda db₂.agenda := by
      refine upsertResponsibility_step hupsert fun r hr huser hcampus hactive hinactive => ?_
      refine hon r hr ?_ ⟨k, hk, hcampus.symm⟩ hactive hinactive
      rw [huserId, huser, hid]
    rw [← hagenda] at hstep
    exact hstep

theorem createWindow_step {input : WindowInput}
    (h : createWindow rt auth db input principal correlationId o = .ok (response, db'))
    (hblocks : ∀ r ∈ db.admissionsResponsibilities.rows,
      readUuid input.responsibilityId = some r.id → WindowKind.ofText? input.kind = some .BLOCKED →
        r.userId ∈ c.blocks) :
    Agenda.Step c db.agenda db'.agenda := by
  simp only [createWindow, assertUuid, ok_iff] at h
  obtain ⟨responsibilityId, hresp, _, -, kind, hkind, range, -, actor, -, profile, hprofile,
    h⟩ := h
  rcases mutation_ok h with rfl | ⟨key, db₁, hact, t, rfl⟩
  · exact .quiet
  · simp only [ok_iff, insert_ok_iff] at hact
    obtain ⟨-, -, _, hblock, u, hcreate, db₂, haudit, -, rfl⟩ := hact
    obtain ⟨hmem, hid⟩ := profile?_row (ownOrAdminProfile_ok hprofile)
    have hagenda : db₂.agenda = { db.agenda with windows := u } := audit_agenda haudit
    have hstep : Agenda.Step c db.agenda { db.agenda with windows := u } := by
      refine .declare hcreate hmem rfl (fun hblocked => ?_) fun hblocked => ?_
      · refine hblocks profile.row hmem (by rw [hresp, hid]) ?_
        rw [hkind, show kind = .BLOCKED from hblocked]
      · have hkind' : kind = .BLOCKED := hblocked
        simp only [assertBlockable, if_pos hkind', assertAppointmentFree_ok_iff] at hblock
        exact hblock.1
    rw [← hagenda] at hstep
    exact hstep

/-- A window that is left in use keeps every appointment that depends on it
covered. -/
theorem assertUnused_ok {w : AdmissionsWindowRow} {u : Unit} (h : assertUnused db w = .ok u)
    {a : AppointmentRow} (ha : a ∈ db.appointments.rows) (hdepends : db.agenda.DependsOn w a) :
    ∃ other ∈ db.admissionsWindows.rows, other.id ≠ w.id ∧
      other.responsibilityId = w.responsibilityId ∧ other.active ∧ other.kind = .AVAILABLE ∧
      other.span.Covers a.span := by
  rw [assertUnused, require_ok_iff] at h
  obtain ⟨hfinal, ⟨hbefore, hafter⟩, hbooking⟩ := hdepends
  obtain ⟨other, hother, hcovers⟩ :=
    h a (Table.mem_findMany.mpr ⟨ha, hfinal, hbefore, hbooking⟩) hafter
  obtain ⟨hmem, hresp, hactive, hkind, hne⟩ := Table.mem_findMany.mp hother
  exact ⟨other, hmem, hne, hresp, hactive, hkind, hcovers⟩

theorem withdrawWindow_step {input : WithdrawWindowInput}
    (h : withdrawWindow rt auth db id input principal correlationId = .ok (response, db')) :
    Agenda.Step c db.agenda db'.agenda := by
  simp only [withdrawWindow, ok_iff] at h
  obtain ⟨_, -, _, -, _, -, -, -, actor, -, row, hrow, profile, -, h⟩ := h
  rcases mutation_ok h with rfl | ⟨key, db₁, hact, t, rfl⟩
  · exact .quiet
  · simp only [ok_iff] at hact
    obtain ⟨-, -, _, hunused, db₂, haudit, -, rfl⟩ := hact
    have hagenda := audit_agenda haudit
    have hstep : Agenda.Step c db.agenda { db.agenda with
        windows := db.admissionsWindows.updateMany (fun w => w.id = row.id)
          AdmissionsWindowRow.withdraw AdmissionsWindowRow.keys_withdraw } := by
      refine .withdraw (Table.findUnique_eq_some.mp hrow).1 fun hkind a ha hdepends => ?_
      simp only [assertWithdrawable, if_pos hkind] at hunused
      exact assertUnused_ok hunused ha hdepends
    exact hagenda ▸ hstep

theorem mem_participants {raw : Option (List String)} {ids : List String}
    (h : participants raw = .ok ids) {u : String} (hu : u ∈ ids) : u ∈ raw.getD [] := by
  simp only [participants, ok_iff] at h
  obtain ⟨-, -, rfl⟩ := h
  rw [sortTexts, List.mem_insertionSort, mem_unique] at hu
  exact hu

theorem assertSlot_ok {time : Span Instant} {now : Instant} {u : Unit}
    (h : assertSlot db id time now = .ok u) :
    now < time.start ∧ (newDate time.stop).isSome ∧ db.agenda.Offers id time := by
  simp only [assertSlot, ok_iff] at h
  obtain ⟨-, hnow, _, hdate, ⟨w, hw, hkind, hcovers⟩, -⟩ := h
  obtain ⟨hmem, hid, hactive, -⟩ := Table.mem_findMany.mp hw
  exact ⟨hnow, by simp [hdate], w, hmem, hid, hactive, hkind, hcovers⟩

theorem createBooking_step {input : BookingInput}
    (h : createBooking rt auth db leadId input principal correlationId o = .ok (response, db'))
    (husers : ∀ u, (u = principal.userId ∨ u ∈ input.participantIds.getD [] ∨
      ∃ r ∈ db.admissionsResponsibilities.rows,
        readUuid input.responsibilityId = some r.id ∧ u = r.userId) → u ∈ c.users) :
    Agenda.Step c db.agenda db'.agenda := by
  simp only [createBooking, assertUuid, assertDuration, ok_iff, Prod.exists] at h
  obtain ⟨_, -, responsibilityId, hresp, _, -, -, hdur, type, -, mode, -, startsAt, -,
    ids, hids, actor, hactor, lead, k, -, profile, hprofile, h⟩ := h
  rcases mutation_ok h with rfl | ⟨key, db₁, hact, t, rfl⟩
  · exact .quiet
  · simp only [ok_iff, insert_ok_iff, assertAppointmentFree_ok_iff] at hact
    obtain ⟨_, -, _, hslot, -, ⟨hfree, -⟩, t₁, hcreate, t₂, hbook, db₂, heffs, -, rfl⟩ := hact
    obtain ⟨hmem, hid⟩ := profile?_row (activeProfile_ok hprofile)
    obtain ⟨-, hdate, hoffer⟩ := assertSlot_ok hslot
    have hagenda := effects_agenda heffs
    refine hagenda ▸ .book hcreate hbook rfl rfl rfl ?_ hoffer hdate ?_ fun u hu => husers u ?_
    · -- the evaluator, when there is one, is the adviser
      refine ⟨fun a ha hne hocc => hfree.appointments a ha hne ⟨hocc.1, ?_⟩,
        fun w hw hactive hkind r hr hid hractive hread =>
          hfree.windows w hw hactive hkind r hr hid hractive ?_⟩
      · obtain ⟨-, u, hu, hinvolved⟩ := hocc
        refine ⟨u, hu, ?_⟩
        simp only [AppointmentRow.involved] at hinvolved
        grind
      · obtain ⟨u, hu, hread⟩ := hread
        refine ⟨u, ?_, hread⟩
        simp only [AppointmentRow.involved] at hu
        grind
    · show 0 < input.durationMinutes.toNat
      omega
    · have hactor := currentActor_userId hactor
      have hmember : u = profile.row.userId ∨ u = actor.userId ∨ u ∈ ids := by
        simp only [AppointmentRow.involved] at hu
        grind
      rcases hmember with rfl | rfl | hu
      · exact .inr (.inr ⟨profile.row, hmem, by rw [hresp, hid], rfl⟩)
      · exact .inl hactor
      · exact .inr (.inl (mem_participants hids hu))

theorem booked?_ok {booked : Booked} (h : booked? db id = some booked) :
    db.admissionsBookings.findUnique id = some booked.row ∧
      db.appointments.findUnique id = some booked.appointment ∧
      profile? db booked.row.responsibilityId = some booked.profile := by
  simp only [booked?, Option.bind_eq_bind, Option.bind_eq_some_iff, Option.some.injEq] at h
  obtain ⟨row, hrow, profile, hprofile, appointment, happt, rfl⟩ := h
  exact ⟨hrow, happt, hprofile⟩

/-- **Nobody accepts a booking of their own.** -/
theorem authorizeDecision_ok {booked : Booked} {u : Unit}
    (h : authorizeDecision rt auth db actor .ACCEPT booked = .ok u) : ¬booked.requestedBy actor := by
  simp only [authorizeDecision, assertDecisionParty, ok_iff] at h
  obtain ⟨_, -, -, -, _, -, h⟩ := h
  rw [if_pos (by decide)] at h
  simp only [ok_iff] at h
  obtain ⟨-, hrequester, -⟩ := h
  exact hrequester

theorem rescheduled_ok {action : BookingAction} {input : BookingDecisionInput}
    {start : Option Instant} (h : rescheduled rt action input = .ok start)
    (hne : action ≠ .RESCHEDULE) : start = none := by
  cases action with
  | RESCHEDULE => exact absurd rfl hne
  | ACCEPT | REFUSE | CANCEL | COMPLETE | NO_SHOW =>
    simp only [rescheduled, ok_iff] at h
    obtain ⟨-, -, rfl⟩ := h
    rfl

theorem decide_step {input : BookingDecisionInput} (hauthor : c.author = principal.userId)
    (h : Admissions.decide rt auth db id input principal correlationId o = .ok (response, db')) :
    Agenda.Step c db.agenda db'.agenda := by
  simp only [Admissions.decide, assertUuid, ok_iff] at h
  obtain ⟨bookingId, -, _, -, _, -, action, -, -, -, start, hstart, actor, hactor, booked, hbooked, _,
    hauthorized, h⟩ := h
  rcases mutation_ok h with rfl | ⟨key, db₁, hact, t, rfl⟩
  · exact .quiet
  · simp only [ok_iff] at hact
    obtain ⟨-, -, -, hadmits, _, htime, db₂, heffs, -, rfl⟩ := hact
    obtain ⟨hrow, happt, hprofile⟩ := booked?_ok hbooked
    have hid : booked.appointment.id = bookingId :=
      AppointmentRow.mem_keys.mp (Table.findUnique_eq_some.mp happt).2
    obtain ⟨hheld, hfinal, hans, houtcome⟩ := hadmits
    have hslot : action = .ACCEPT ∨ action = .RESCHEDULE →
        assertSlot db booked.profile.row.id
            (decidedAppointment action (start.getD booked.appointment.startsAt)
              booked.appointment).span o.now = .ok () ∧
          Free db.agenda booked.appointment.involved
            (decidedAppointment action (start.getD booked.appointment.startsAt)
              booked.appointment).span (some booked.appointment.id) := by
      intro hplaced
      simp only [assertTime, if_pos hplaced, bind_ok_iff, assertAppointmentFree_ok_iff] at htime
      obtain ⟨_, hslot, hfree, -⟩ := htime
      exact ⟨hslot, hfree⟩
    have hresp : booked.profile.row.id = booked.row.responsibilityId :=
      (profile?_row hprofile).2
    have hagenda := effects_agenda heffs
    subst hid
    refine hagenda ▸ .decide (a := booked.appointment) (b := booked.row) happt hrow {
      pending := hheld
      notFinal := hfinal
      answer := hans
      outcome := fun hmem => (houtcome hmem).1
      start := fun hne => by rw [rescheduled_ok hstart hne]; rfl
      author_ne := fun haccept => ?_
      free := fun hplaced => (hslot hplaced).2
      offered := fun hplaced => hresp ▸ (assertSlot_ok (hslot hplaced).1).2.2
      date := fun hplaced => (assertSlot_ok (hslot hplaced).1).2.1 }
    subst haccept
    rw [hauthor, ← currentActor_userId hactor]
    exact authorizeDecision_ok hauthorized

theorem report_step {input : AdmissionsReportInput}
    (h : report rt auth db id input principal correlationId o = .ok (response, db')) :
    Agenda.Step c db.agenda db'.agenda := by
  simp only [report, assertUuid, ok_iff] at h
  obtain ⟨bookingId, -, _, -, _, -, result, -, -, -, followUpAt, -, actor, -, booked, -, _, -, _, -, -,
    -, h⟩ := h
  rcases mutation_ok h with rfl | ⟨key, db₁, hact, t, rfl⟩
  · exact .quiet
  · simp only [ok_iff, insert_ok_iff] at hact
    obtain ⟨-, -, t₁, -, db₂, heffs, -, rfl⟩ := hact
    have hagenda := effects_agenda heffs
    exact hagenda ▸ .count

end Admissions

/-! ### The machine -/

inductive AgendaCall
  | create (leadId : String) (input : AppointmentInput) (principal : Principal)
      (correlationId : String) (o : AppointmentOccasion)
  | transition (id : String) (input : TransitionInput) (principal : Principal)
      (correlationId : String) (o : AppointmentOccasion)
  | compensate (id : String) (input : CompensationInput) (principal : Principal)
      (correlationId : String) (o : AppointmentOccasion)
  | validateReport (id : String) (input : ReportInput) (principal : Principal)
      (correlationId : String) (o : AppointmentOccasion)
  | configureResponsibility (input : ResponsibilityInput) (principal : Principal)
      (correlationId : String) (o : AdmissionsOccasion)
  | createWindow (input : WindowInput) (principal : Principal) (correlationId : String)
      (o : AdmissionsOccasion)
  | withdrawWindow (id : String) (input : WithdrawWindowInput) (principal : Principal)
      (correlationId : String)
  | createBooking (leadId : String) (input : BookingInput) (principal : Principal)
      (correlationId : String) (o : AdmissionsOccasion)
  | decide (id : String) (input : BookingDecisionInput) (principal : Principal)
      (correlationId : String) (o : AdmissionsOccasion)
  | report (id : String) (input : AdmissionsReportInput) (principal : Principal)
      (correlationId : String) (o : AdmissionsOccasion)

inductive AgendaAnswer
  | appointment (row : AppointmentRow)
  | event (row : AppointmentEventRow)
  | interview (row : InterviewReportRow)
  | admissions (response : AdmissionsResponse)

/-- The answer of a call of one service, as an answer of the agenda. -/
def answered {α : Type} (f : α → AgendaAnswer) (x : Outcome (α × Database)) :
    Outcome (AgendaAnswer × Database) := do
  let (a, db) ← x
  pure (f a, db)

theorem answered_ok {α : Type} {f : α → AgendaAnswer} {x : Outcome (α × Database)}
    {answer : AgendaAnswer} (h : answered f x = .ok (answer, db')) : ∃ a, x = .ok (a, db') := by
  simp only [answered, ok_iff, Prod.exists] at h
  obtain ⟨a, _, hx, -, rfl⟩ := h
  exact ⟨a, hx⟩

namespace AgendaCall

def author : AgendaCall → Principal
  | create _ _ p _ _ | transition _ _ p _ _ | compensate _ _ p _ _ | validateReport _ _ p _ _
  | configureResponsibility _ p _ _ | createWindow _ p _ _ | withdrawWindow _ _ p _
  | createBooking _ _ p _ _ | decide _ _ p _ _ | report _ _ p _ _ => p

def users (call : AgendaCall) (db : Database) : List String :=
  match call with
  | create leadId input principal _ _ =>
    (db.lead leadId).toList.flatMap fun lead =>
      [adviserOf lead input principal, principal.userId] ++ participantsOf input ++
        (nonEmpty input.evaluatorId).toList
  | createBooking _ input principal _ _ =>
    principal.userId :: input.participantIds.getD [] ++
      (db.admissionsResponsibilities.findMany fun r =>
        readUuid input.responsibilityId = some r.id).map AdmissionsResponsibilityRow.userId
  | _ => []

def blocks (call : AgendaCall) (db : Database) : List String :=
  match call with
  | createWindow input _ _ _ =>
    if WindowKind.ofText? input.kind = some .BLOCKED then
      (db.admissionsResponsibilities.findMany fun r =>
        readUuid input.responsibilityId = some r.id).map AdmissionsResponsibilityRow.userId
    else []
  | _ => []

variable (rt auth)

/-- A call switches a responsibility on: it configures an inactive one as
active. -/
def SwitchesOn (call : AgendaCall) (db : Database) (r : AdmissionsResponsibilityRow) : Prop :=
  match call with
  | configureResponsibility input _ _ _ =>
    input.active = true ∧ r.active = false ∧ readUuid input.userId = some r.userId ∧
      ∃ k, campus rt db input.campus = .ok k ∧ k.code = r.campus
  | _ => False

def cause (call : AgendaCall) (db : Database) : Agenda.Cause where
  users := call.users db
  blocks := call.blocks db
  switchesOn := call.SwitchesOn rt db
  author := call.author.userId

def perform (call : AgendaCall) (db : Database) : Outcome (AgendaAnswer × Database) :=
  match call with
  | create leadId input principal correlationId o =>
    answered .appointment (createForApi rt db leadId input principal correlationId o)
  | transition id input principal correlationId o =>
    answered .appointment (transitionForApi rt db id input principal correlationId o)
  | compensate id input principal correlationId o =>
    answered .event (compensateForApi rt db id input principal correlationId o)
  | validateReport id input principal correlationId o =>
    answered .interview (validateReportForApi rt db id input principal correlationId o)
  | configureResponsibility input principal correlationId o =>
    answered .admissions
      (Admissions.configureResponsibility rt auth db input principal correlationId o)
  | createWindow input principal correlationId o =>
    answered .admissions (Admissions.createWindow rt auth db input principal correlationId o)
  | withdrawWindow id input principal correlationId =>
    answered .admissions (Admissions.withdrawWindow rt auth db id input principal correlationId)
  | createBooking leadId input principal correlationId o =>
    answered .admissions
      (Admissions.createBooking rt auth db leadId input principal correlationId o)
  | decide id input principal correlationId o =>
    answered .admissions (Admissions.decide rt auth db id input principal correlationId o)
  | report id input principal correlationId o =>
    answered .admissions (Admissions.report rt auth db id input principal correlationId o)

end AgendaCall

/-- The machine of the agenda: a call that throws changes nothing. -/
def agendaMachine (rt : Runtime) (auth : Authority) :
    Machine Database AgendaCall (Outcome AgendaAnswer) where
  step db call :=
    match call.perform rt auth db with
    | .ok (answer, db') => (.ok answer, db')
    | .error failure => (.error failure, db)

/-- **A call that returns is a step**, caused by what it says. -/
theorem perform_step {call : AgendaCall} {answer : AgendaAnswer}
    (h : call.perform rt auth db = .ok (answer, db')) :
    Agenda.Step (call.cause rt db) db.agenda db'.agenda := by
  cases call with
  | create leadId input principal correlationId o =>
    obtain ⟨stored, h⟩ := answered_ok h
    refine createForApi_step h fun lead hlead u hu => ?_
    exact List.mem_flatMap.mpr ⟨lead, by simp [hlead], hu⟩
  | transition id input principal correlationId o =>
    obtain ⟨stored, h⟩ := answered_ok h
    exact transitionForApi_step h
  | compensate id input principal correlationId o =>
    obtain ⟨stored, h⟩ := answered_ok h
    obtain ⟨t, u, rfl⟩ := compensateForApi_writes h
    exact .quiet
  | validateReport id input principal correlationId o =>
    obtain ⟨stored, h⟩ := answered_ok h
    exact validateReportForApi_step h
  | configureResponsibility input principal correlationId o =>
    obtain ⟨response, h⟩ := answered_ok h
    exact configureResponsibility_step h fun r _ huser hcampus hactive hinactive =>
      ⟨hactive, hinactive, huser, hcampus⟩
  | createWindow input principal correlationId o =>
    obtain ⟨response, h⟩ := answered_ok h
    refine createWindow_step h fun r hr hid hkind => ?_
    simp only [AgendaCall.cause, AgendaCall.blocks, if_pos hkind, List.mem_map, Table.mem_findMany]
    exact ⟨r, ⟨hr, hid⟩, rfl⟩
  | withdrawWindow id input principal correlationId =>
    obtain ⟨response, h⟩ := answered_ok h
    exact withdrawWindow_step h
  | createBooking leadId input principal correlationId o =>
    obtain ⟨response, h⟩ := answered_ok h
    refine createBooking_step h fun u hu => ?_
    simp only [AgendaCall.cause, AgendaCall.users, List.cons_append, List.mem_cons,
      List.mem_append, List.mem_map, Table.mem_findMany]
    rcases hu with rfl | hu | ⟨r, hr, hid, rfl⟩
    · exact .inl rfl
    · exact .inr (.inl hu)
    · exact .inr (.inr ⟨r, ⟨hr, hid⟩, rfl⟩)
  | decide id input principal correlationId o =>
    obtain ⟨response, h⟩ := answered_ok h
    exact decide_step rfl h
  | report id input principal correlationId o =>
    obtain ⟨response, h⟩ := answered_ok h
    exact report_step h

/-- **Every action of the machine is a step.** -/
theorem agendaMachine_step (call : AgendaCall) :
    Agenda.Step (call.cause rt db) db.agenda ((agendaMachine rt auth).next db call).agenda := by
  rw [Machine.next, agendaMachine]
  dsimp only
  split
  · rename_i answer db' h
    exact perform_step h
  · exact .quiet

/-- **An invariant of the steps under a condition on their causes** holds
throughout the runs whose calls meet the condition. -/
theorem agenda_throughout {C : Database → AgendaCall → Prop} {I : Agenda → Prop}
    (hstep : ∀ db call A', I db.agenda → C db call →
      Agenda.Step (call.cause rt db) db.agenda A' → I A')
    {calls : List AgendaCall} (hinit : I db.agenda)
    (hmeets : (agendaMachine rt auth).Meets C db calls) :
    (agendaMachine rt auth).Throughout (fun db => I db.agenda) db calls :=
  Machine.throughout_of_meets
    (fun db call hI hC => hstep db call _ hI hC (agendaMachine_step call)) hinit hmeets

/-- **An invariant of every step** holds throughout every run. -/
theorem agenda_throughout_of_step {I : Agenda → Prop}
    (hstep : ∀ c A A', I A → Agenda.Step c A A' → I A') {calls : List AgendaCall}
    (hinit : I db.agenda) :
    (agendaMachine rt auth).Throughout (fun db => I db.agenda) db calls :=
  have hnext : ∀ db call, I db.agenda → I ((agendaMachine rt auth).next db call).agenda :=
    fun _ call hI => hstep _ _ _ hI (agendaMachine_step call)
  Machine.throughout_of_step hnext hinit calls

end CrmYnov
