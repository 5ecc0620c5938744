import CrmYnov.Agenda.Calls

/-!
# The leads, seen from the agenda

Whatever a call of the agenda writes of its own, it touches leads in one way: it
holds a meeting on a lead (`CrmYnov.Leads.Meeting`), which may give the lead a next
action. Whether it does can be read off the call and the database before it
(`CrmYnov.AgendaCall.PlansOn`), and nothing is asked about the status of the lead
(`CrmYnov.perform_met`).
-/

namespace CrmYnov

open Checked Leads Option
open Appointments Admissions

def Leads.Meeting.attend (m : Meeting) (leads : Table LeadRow LeadRow.keys) :
    Table LeadRow LeadRow.keys :=
  leads.updateMany (fun l => l.id = m.leadId) m.touch m.keys_touch

/-- The leads and the follow-ups of a database. -/
def Database.files (db : Database) :
    Table LeadRow LeadRow.keys × Table FollowUp.LeadFollowUpRow FollowUp.LeadFollowUpRow.keys :=
  (db.leads, db.leadFollowUps)

variable {rt : Runtime} {auth : Authority} {db db' : Database}

/-! ### What is written beside the leads -/

section Beside

theorem record_files {m : Meeting} (h : m.record db = .ok db') :
    (db.lead m.leadId).isSome ∧ db'.files = (m.attend db.leads, db.leadFollowUps) := by
  obtain ⟨hlead, t, rfl⟩ := Meeting.record_ok h
  exact ⟨hlead, rfl⟩

theorem audit_files {event : AuditEventRow} (h : db.audit event = .ok db') :
    db'.files = db.files := by
  obtain ⟨t, -, rfl⟩ := Database.audit_ok_iff.mp h
  rfl

theorem persistEvent_files {event : AppointmentEventRow} (h : persistEvent db event = .ok db') :
    db'.files = db.files := by
  simp only [persistEvent, ok_iff] at h
  obtain ⟨t, -, rfl⟩ := h
  rfl

theorem notifyParties_files {id key : String} {recipients : List String}
    (h : notifyParties rt db id key recipients = .ok db') : db'.files = db.files := by
  induction recipients generalizing db with
  | nil =>
    cases h
    rfl
  | cons recipient recipients ih =>
    simp only [notifyParties, bind_ok_iff] at h
    obtain ⟨t, -, h⟩ := h
    have hrest := ih h
    exact hrest

end Beside

/-! ### What a call plans -/

def OnLead (db : Database) (id leadId : String) : Prop :=
  ∃ a ∈ db.appointments.findUnique id, a.leadId = leadId

def Unused (db : Database) (principal : Principal) (operation key : String) : Prop :=
  db.admissionsMutationReceipts.findUnique (principal.userId, operation, key) = none

/-- **The call plans something on a lead**: an appointment that is no draft is created,
or is planned, confirmed or postponed; a booking is requested, accepted or
rescheduled; a report announces a follow-up. A call whose key was used plans
nothing. -/
def AgendaCall.PlansOn (call : AgendaCall) (db : Database) (leadId : String) : Prop :=
  match call with
  | create id input _ _ _ =>
    event? db (input.idempotencyKey.getD "") = none ∧ id = leadId ∧
      input.state.getD "PLANIFIE" ≠ AppointmentState.text .BROUILLON
  | transition id input _ _ _ =>
    event? db (input.idempotencyKey.getD "") = none ∧ OnLead db id leadId ∧
      ∃ s ∈ AppointmentState.planned, input.state = some s.text
  | validateReport id input _ _ _ => OnLead db id leadId ∧ (nonEmpty input.followUpAt).isSome
  | createBooking id input principal _ _ =>
    Unused db principal "BOOKING_CREATE" input.idempotencyKey ∧ readUuid id = some leadId
  | decide id input principal _ _ =>
    Unused db principal ("BOOKING_" ++ input.action) input.idempotencyKey ∧
      (∃ booking ∈ readUuid id, OnLead db booking leadId) ∧
      (input.action = BookingAction.text .ACCEPT ∨ input.action = BookingAction.text .RESCHEDULE)
  | report id input principal _ _ =>
    Unused db principal "BOOKING_REPORT" input.idempotencyKey ∧
      (∃ booking ∈ readUuid id, OnLead db booking leadId) ∧ (nonEmpty input.followUpAt).isSome
  | compensate _ _ _ _ _ | configureResponsibility _ _ _ _ | createWindow _ _ _ _
  | withdrawWindow _ _ _ _ => False

/-- A call has left the leads and the follow-ups, and plans nothing; or it has held a
meeting on a lead, which has given it a next action if the call plans on it. -/
def Met (plans : String → Prop) (db db' : Database) : Prop :=
  db'.files = db.files ∧ (∀ id, ¬plans id) ∨
    ∃ m : Meeting, (db.lead m.leadId).isSome ∧
      db'.files = (m.attend db.leads, db.leadFollowUps) ∧
      ∀ id, plans id ↔ id = m.leadId ∧ m.nextActionAt.isSome = true

theorem met_of_record {plans : String → Prop} {m : Meeting} {db₁ db₂ : Database}
    (hmeeting : m.record db₁ = .ok db₂) (hbefore : db₁.files = db.files)
    (hafter : db'.files = db₂.files)
    (hplans : ∀ id, plans id ↔ id = m.leadId ∧ m.nextActionAt.isSome = true) :
    Met plans db db' := by
  obtain ⟨hlead, hfiles⟩ := record_files hmeeting
  have hleads : db₁.leads = db.leads := congrArg Prod.fst hbefore
  have hfollowUps : db₁.leadFollowUps = db.leadFollowUps := congrArg Prod.snd hbefore
  rw [Database.lead, hleads] at hlead
  refine .inr ⟨m, hlead, ?_, hplans⟩
  rw [hafter, hfiles, hleads, hfollowUps]

theorem onLead_iff {id leadId : String} {a : AppointmentRow}
    (h : db.appointments.findUnique id = some a) : OnLead db id leadId ↔ leadId = a.leadId := by
  simp [OnLead, h, eq_comm]

theorem onLead_item {id leadId : String} {a : AppointmentRow} (h : item? db id = some a) :
    OnLead db id leadId ↔ leadId = a.leadId := by
  obtain ⟨row, hrow, rfl⟩ := map_eq_some_iff.mp h
  have hlead : OnLead db id leadId ↔ leadId = row.leadId := onLead_iff hrow
  exact hlead

theorem exists_onLead {id bookingId leadId : String} {booked : Booked}
    (hread : readUuid id = some bookingId) (h : booked? db bookingId = some booked) :
    (∃ booking ∈ readUuid id, OnLead db booking leadId) ↔ leadId = booked.appointment.leadId := by
  simp only [hread, mem_def, some.injEq, exists_eq_left']
  exact onLead_iff (booked?_ok h).2.1

theorem Appointments.AppointmentState.text_of_ofText? {text : String} {s : AppointmentState}
    (h : AppointmentState.ofText? text = some s) : s.text = text := by
  simpa using List.find?_some h

theorem Admissions.BookingAction.text_of_ofText? {text : String} {action : BookingAction}
    (h : BookingAction.ofText? text = some action) : action.text = text := by
  simpa using List.find?_some h

theorem isSome_of_mapM {text : Option String} {f : String → Outcome Instant}
    {next : Option Instant} (h : text.mapM f = .ok next) : next.isSome = text.isSome := by
  cases text with
  | none =>
    cases h
    rfl
  | some s =>
    rw [mapM_some] at h
    cases hf : f s with
    | error e =>
      rw [hf] at h
      cases h
    | ok t =>
      rw [hf] at h
      cases h
      rfl

/-! ### Appointments without bookings -/

section Appointments

variable {leadId id correlationId : String} {principal : Principal} {o : AppointmentOccasion}
  {record : AppointmentRow} {event : AppointmentEventRow}

/-- The meeting of an appointment gives a next action when one is given, or when the
appointment is planned. -/
theorem isSome_meeting {explicit : Option Instant} {clear : Bool} :
    (Appointments.meeting rt record event principal correlationId explicit clear
        o).nextActionAt.isSome = true ↔
      explicit.isSome = true ∨ record.state ∈ AppointmentState.planned := by
  rw [Appointments.meeting, isSome_or]
  by_cases hplanned : record.state ∈ AppointmentState.planned <;> simp [hplanned]

theorem create_new {input : AppointmentInput}
    (h : create rt db leadId input principal o = .ok (record, event)) :
    event.idempotencyKey = input.idempotencyKey.getD "" ∧
      (event? db event.idempotencyKey = none → record.leadId = leadId ∧
        AppointmentState.ofText? (input.state.getD "PLANIFIE") = some record.state ∧
        (record.state = .BROUILLON ∨ record.state = .PLANIFIE)) := by
  simp only [create, ok_iff] at h
  obtain ⟨-, -, lead, hlead, -, -, drafted, hdraft, h⟩ := h
  have hid : lead.id = leadId := (Database.lead_eq_some.mp hlead).2
  split at h
  · simp only [ok_iff] at h
    obtain ⟨-, -, _, -, e, hevent, -, rfl⟩ := h
    have hkey := event?_key hevent
    refine ⟨hkey, fun hnone => ?_⟩
    rw [hkey, hevent] at hnone
    cases hnone
  · simp only [ok_iff] at h
    obtain ⟨-, -, rfl, rfl⟩ := h
    refine ⟨rfl, fun _ => ?_⟩
    simp only [draft, ok_iff] at hdraft
    obtain ⟨_, -, _, -, state, hstate, -, hallow, _, -, -, -, -, -, rfl⟩ := hdraft
    exact ⟨hid, hstate, hallow⟩

theorem createForApi_met {input : AppointmentInput} {stored : AppointmentRow}
    (h : createForApi rt db leadId input principal correlationId o = .ok (stored, db')) :
    Met ((AgendaCall.create leadId input principal correlationId o).PlansOn db) db db' := by
  simp only [createForApi, ok_iff, Prod.exists] at h
  obtain ⟨record, event, hcreate, db₁, hpersist, _, -, -, rfl⟩ := h
  obtain ⟨hkey, hnew⟩ := create_new hcreate
  rw [persistCreate] at hpersist
  split at hpersist
  · rename_i hknown
    cases hpersist
    refine .inl ⟨rfl, fun id hplans => ?_⟩
    rw [hkey, hplans.1] at hknown
    cases hknown
  · rename_i hunknown
    have hnone : event? db event.idempotencyKey = none := by simpa using hunknown
    obtain ⟨hlead, hstate, hallow⟩ := hnew hnone
    simp only [ok_iff] at hpersist
    obtain ⟨_, -, -, -, -, -, t, -, _, hevent, _, hmeeting, haudit⟩ := hpersist
    refine met_of_record hmeeting ((persistEvent_files hevent).trans rfl) (audit_files haudit)
      fun id => ?_
    -- the state of the new appointment is the one that is named, a draft or not
    have htext := AppointmentState.text_of_ofText? hstate
    rw [isSome_meeting, AgendaCall.PlansOn, ← hkey, ← htext]
    have hplanned : record.state ∈ AppointmentState.planned ↔
        record.state.text ≠ AppointmentState.text .BROUILLON := by
      rcases hallow with hdraft | hplanned
      · simp [hdraft, AppointmentState.planned]
      · simp [hplanned, AppointmentState.planned, AppointmentState.text]
    rw [hplanned]
    constructor
    · rintro ⟨-, rfl, hstate⟩
      exact ⟨hlead.symm, .inr hstate⟩
    · rintro ⟨rfl, hstate | hstate⟩
      · cases hstate
      · exact ⟨hnone, hlead.symm, hstate⟩

/-- The key a transition is recognized by, and the state it moves its appointment
to. -/
theorem transition_new {input : TransitionInput}
    (h : transition rt db id input principal o = .ok (record, event)) :
    event.idempotencyKey = input.idempotencyKey.getD "" ∧
      (event? db event.idempotencyKey = none → OnLead db id record.leadId ∧
        input.state = some record.state.text) := by
  simp only [transition, ok_iff] at h
  obtain ⟨current, hcur, -, -, h⟩ := h
  have hitem := authorized_ok hcur
  split at h
  · simp only [ok_iff] at h
    obtain ⟨-, -, _, -, e, hevent, -, rfl⟩ := h
    have hkey := event?_key hevent
    refine ⟨hkey, fun hnone => ?_⟩
    rw [hkey, hevent] at hnone
    cases hnone
  · simp only [ok_iff] at h
    obtain ⟨_, hmoved, rfl, rfl⟩ := h
    refine ⟨rfl, fun _ => ?_⟩
    simp only [moved, ok_iff] at hmoved
    obtain ⟨next, hnext, -, -, -, -, -, -, _, -, -, -, -, -, rfl⟩ := hmoved
    obtain ⟨text, htext, hstate⟩ := bind_eq_some_iff.mp hnext
    refine ⟨(onLead_item hitem).mpr rfl, ?_⟩
    rw [htext, AppointmentState.text_of_ofText? hstate]

theorem transitionForApi_met {input : TransitionInput} {stored : AppointmentRow}
    (h : transitionForApi rt db id input principal correlationId o = .ok (stored, db')) :
    Met ((AgendaCall.transition id input principal correlationId o).PlansOn db) db db' := by
  simp only [transitionForApi, ok_iff, Prod.exists] at h
  obtain ⟨-, -, record, event, htransition, db₁, hpersist, _, -, -, rfl⟩ := h
  obtain ⟨hkey, hnew⟩ := transition_new htransition
  rw [persistTransition] at hpersist
  split at hpersist
  · rename_i hknown
    cases hpersist
    refine .inl ⟨rfl, fun id hplans => ?_⟩
    rw [hkey, hplans.1] at hknown
    cases hknown
  · rename_i hunknown
    have hnone : event? db event.idempotencyKey = none := by simpa using hunknown
    obtain ⟨hlead, hstate⟩ := hnew hnone
    simp only [ok_iff] at hpersist
    obtain ⟨-, -, -, -, -, -, _, hevent, _, hmeeting, haudit⟩ := hpersist
    refine met_of_record hmeeting ((persistEvent_files hevent).trans rfl) (audit_files haudit)
      fun leadId => ?_
    obtain ⟨row, hrow, hleadId⟩ := hlead
    rw [isSome_meeting, AgendaCall.PlansOn, ← hkey, onLead_iff hrow, hleadId, hstate]
    constructor
    · rintro ⟨-, rfl, s, hplanned, htext⟩
      rw [← AppointmentState.text_inj (some.inj htext)] at hplanned
      exact ⟨rfl, .inr hplanned⟩
    · rintro ⟨rfl, hplanned | hplanned⟩
      · cases hplanned
      · exact ⟨hnone, rfl, record.state, hplanned, rfl⟩

theorem validateReportForApi_met {input : ReportInput} {stored : InterviewReportRow}
    (h : validateReportForApi rt db id input principal correlationId o = .ok (stored, db')) :
    Met ((AgendaCall.validateReport id input principal correlationId o).PlansOn db) db db' := by
  simp only [validateReportForApi, ok_iff, Prod.exists] at h
  obtain ⟨-, -, record, report, hvalidate, db₁, hpersist, _, -, -, rfl⟩ := h
  simp only [validateReport, ok_iff] at hvalidate
  obtain ⟨_, hauthorized, -, ⟨hstate, -, -, hnone⟩, next, hnext, _, -, -, -, -, -, -, -, rfl, rfl⟩ :=
    hvalidate
  have hitem := authorized_ok hauthorized
  obtain ⟨row, hrow, rfl⟩ := map_eq_some_iff.mp hitem
  have hid : row.id = id := AppointmentRow.mem_keys.mp (Table.findUnique_eq_some.mp hrow).2
  simp only [persistReport, ok_iff] at hpersist
  obtain ⟨-, -, hpersist⟩ := hpersist
  split at hpersist
  · -- the appointment had no report
    rename_i hreported
    have hreported : (db.interviewReports.findFirst fun r => r.appointmentId = row.id).isSome :=
      hreported
    rw [hid, hnone] at hreported
    cases hreported
  · simp only [bind_ok_iff] at hpersist
    obtain ⟨t, -, _, hmeeting, haudit⟩ := hpersist
    refine met_of_record hmeeting rfl (audit_files haudit) fun leadId => ?_
    have hunplanned : (mapAppointment row).state ∉ AppointmentState.planned := by
      rw [hstate]
      decide
    rw [isSome_meeting, AgendaCall.PlansOn, onLead_iff hrow, or_iff_left hunplanned,
      isSome_of_mapM hnext]
    rfl

end Appointments

/-! ### Responsibilities, windows and bookings -/

section Admissions

variable {id leadId correlationId : String} {principal actor : Principal} {o : AdmissionsOccasion}
  {response : AdmissionsResponse} {booked : Booked}

theorem met_of_effects {plans : String → Prop} {db₁ db₂ : Database}
    {eventType key correlationId : String} {reason : Option String} {oldStart next : Option Instant}
    (heffs : effects rt db₁ booked actor eventType key correlationId reason oldStart next o =
      .ok db₂) (hbefore : db₁.files = db.files) (hafter : db'.files = db₂.files)
    (hplans : ∀ id, plans id ↔ id = booked.appointment.leadId ∧
      (next.isSome = true ∨ ¬booked.appointment.state.Final)) : Met plans db db' := by
  simp only [effects, Admissions.audit, bind_ok_iff] at heffs
  obtain ⟨_, hevent, _, hmeeting, _, haudit, hnotify⟩ := heffs
  refine met_of_record hmeeting ((persistEvent_files hevent).trans hbefore)
    (hafter.trans ((notifyParties_files hnotify).trans (audit_files haudit))) fun id => ?_
  rw [hplans, Admissions.meeting, isSome_or]
  by_cases hfinal : booked.appointment.state.Final <;> simp [hfinal]

theorem mutation_files {operation key : String} {payload : List (String × Option Js.Json)}
    {action : String → Outcome (AdmissionsResponse × Database)}
    (hact : ∀ effectKey db₁, action effectKey = .ok (response, db₁) → db₁.files = db.files)
    (h : mutation rt db actor operation key payload action = .ok (response, db')) :
    db'.files = db.files := by
  rcases mutation_ok h with rfl | ⟨effectKey, db₁, hok, t, rfl⟩
  · rfl
  · exact hact effectKey db₁ hok

theorem configureResponsibility_files {input : ResponsibilityInput}
    (h : configureResponsibility rt auth db input principal correlationId o = .ok (response, db')) :
    db'.files = db.files := by
  simp only [configureResponsibility, bind_ok_iff] at h
  obtain ⟨_, -, _, -, _, -, actor, -, k, -, _, -, user, -, h⟩ := h
  refine mutation_files (fun key db₁ hact => ?_) h
  simp only [ok_iff, Prod.exists] at hact
  obtain ⟨-, -, row, db₂, hupsert, db₃, haudit, -, rfl⟩ := hact
  refine (audit_files haudit).trans ?_
  rw [upsertResponsibility] at hupsert
  split at hupsert
  · simp only [ok_iff] at hupsert
    obtain ⟨t, -, -, rfl⟩ := hupsert
    rfl
  · cases hupsert
    rfl

theorem createWindow_files {input : WindowInput}
    (h : createWindow rt auth db input principal correlationId o = .ok (response, db')) :
    db'.files = db.files := by
  simp only [createWindow, bind_ok_iff] at h
  obtain ⟨_, -, _, -, kind, -, range, -, actor, -, profile, -, h⟩ := h
  refine mutation_files (fun key db₁ hact => ?_) h
  simp only [ok_iff] at hact
  obtain ⟨-, -, _, -, t, -, _, haudit, -, rfl⟩ := hact
  exact (audit_files haudit).trans rfl

theorem withdrawWindow_files {input : WithdrawWindowInput}
    (h : withdrawWindow rt auth db id input principal correlationId = .ok (response, db')) :
    db'.files = db.files := by
  simp only [withdrawWindow, bind_ok_iff] at h
  obtain ⟨_, -, _, -, _, -, _, -, actor, -, row, -, profile, -, h⟩ := h
  refine mutation_files (fun key db₁ hact => ?_) h
  simp only [ok_iff] at hact
  obtain ⟨-, -, _, -, _, haudit, -, rfl⟩ := hact
  exact (audit_files haudit).trans rfl

theorem createBooking_met {input : BookingInput}
    (h : createBooking rt auth db leadId input principal correlationId o = .ok (response, db')) :
    Met ((AgendaCall.createBooking leadId input principal correlationId o).PlansOn db) db db' := by
  simp only [createBooking, bind_ok_iff, Prod.exists] at h
  obtain ⟨_, -, _, -, _, -, _, -, type, -, mode, -, startsAt, -, ids, -, actor, hactor, lead, k,
    hlead, profile, -, h⟩ := h
  have huser := currentActor_userId hactor
  simp only [authorizeLead, assertUuid, ok_iff] at hlead
  obtain ⟨readId, hread, found, hfound, -, -, _, -, rfl, rfl⟩ := hlead
  have hid : found.id = readId := (Database.lead_eq_some.mp hfound).2
  rcases mutation_cases h with ⟨hknown, rfl⟩ | ⟨hnew, key, db₁, hact, t, rfl⟩
  · rw [huser] at hknown
    exact .inl ⟨rfl, fun id hplans => hknown hplans.1⟩
  · rw [huser] at hnew
    simp only [ok_iff] at hact
    obtain ⟨_, -, _, -, _, -, t₁, -, t₂, -, db₂, heffs, -, rfl⟩ := hact
    refine met_of_effects heffs rfl rfl fun id => ?_
    rw [AgendaCall.PlansOn, hread, ← hid]
    have hplanned : ¬AppointmentState.Final .PLANIFIE := by decide
    constructor
    · rintro ⟨-, hsome⟩
      exact ⟨(some.inj hsome).symm, .inr hplanned⟩
    · rintro ⟨rfl, -⟩
      exact ⟨hnew, rfl⟩

theorem decide_met {input : BookingDecisionInput}
    (h : Admissions.decide rt auth db id input principal correlationId o = .ok (response, db')) :
    Met ((AgendaCall.decide id input principal correlationId o).PlansOn db) db db' := by
  simp only [Admissions.decide, assertUuid, ok_iff] at h
  obtain ⟨bookingId, hread, _, -, _, -, action, hnamed, -, -, start, -, actor, hactor, booked, hbooked,
    _, -, h⟩ := h
  have huser := currentActor_userId hactor
  have htext := BookingAction.text_of_ofText? hnamed
  rcases mutation_cases h with ⟨hknown, rfl⟩ | ⟨hnew, key, db₁, hact, t, rfl⟩
  · rw [huser, htext] at hknown
    exact .inl ⟨rfl, fun id hplans => hknown hplans.1⟩
  · rw [huser, htext] at hnew
    simp only [ok_iff] at hact
    obtain ⟨_, -, _, -, _, -, db₂, heffs, -, rfl⟩ := hact
    refine met_of_effects heffs rfl rfl fun id => ?_
    have hplaced : ¬action.appointmentState.Final ↔
        input.action = BookingAction.text .ACCEPT ∨ input.action = BookingAction.text .RESCHEDULE := by
      rw [← htext]
      cases action <;> decide
    rw [AgendaCall.PlansOn, exists_onLead hread hbooked, ← hplaced]
    constructor
    · rintro ⟨-, rfl, hnotFinal⟩
      exact ⟨rfl, .inr hnotFinal⟩
    · rintro ⟨rfl, hnext | hnotFinal⟩
      · cases hnext
      · exact ⟨hnew, rfl, hnotFinal⟩

theorem report_met {input : AdmissionsReportInput}
    (h : report rt auth db id input principal correlationId o = .ok (response, db')) :
    Met ((AgendaCall.report id input principal correlationId o).PlansOn db) db db' := by
  simp only [report, assertUuid, ok_iff] at h
  obtain ⟨bookingId, hread, _, -, _, -, result, -, _, -, next, hnext, actor, hactor, booked, hbooked,
    k, -, _, -, _, -, h⟩ := h
  have huser := currentActor_userId hactor
  rcases mutation_cases h with ⟨hknown, rfl⟩ | ⟨hnew, key, db₁, hact, t, rfl⟩
  · rw [huser] at hknown
    exact .inl ⟨rfl, fun id hplans => hknown hplans.1⟩
  · rw [huser] at hnew
    simp only [ok_iff] at hact
    obtain ⟨-, ⟨hstate, -⟩, t₁, -, db₂, heffs, -, rfl⟩ := hact
    refine met_of_effects heffs rfl rfl fun id => ?_
    -- the appointment that is reported on is over
    have hfinal : (bump booked.appointment).state.Final := by
      rw [show (bump booked.appointment).state = booked.appointment.state from rfl, hstate]
      decide
    rw [AgendaCall.PlansOn, exists_onLead hread hbooked, isSome_of_mapM hnext,
      or_iff_left (not_not_intro hfinal)]
    exact and_iff_right hnew

end Admissions

/-! ### The calls -/

/-- **A call of the agenda that returns has left the leads, or held one meeting**, and
what it has given to which lead can be read off it. -/
theorem perform_met {call : AgendaCall} {answer : AgendaAnswer}
    (h : call.perform rt auth db = .ok (answer, db')) : Met (call.PlansOn db) db db' := by
  cases call with
  | create leadId input principal correlationId o =>
    obtain ⟨stored, h⟩ := answered_ok h
    exact createForApi_met h
  | transition id input principal correlationId o =>
    obtain ⟨stored, h⟩ := answered_ok h
    exact transitionForApi_met h
  | compensate id input principal correlationId o =>
    obtain ⟨stored, h⟩ := answered_ok h
    obtain ⟨t, u, rfl⟩ := compensateForApi_writes h
    exact .inl ⟨rfl, fun _ hplans => hplans⟩
  | validateReport id input principal correlationId o =>
    obtain ⟨stored, h⟩ := answered_ok h
    exact validateReportForApi_met h
  | configureResponsibility input principal correlationId o =>
    obtain ⟨response, h⟩ := answered_ok h
    exact .inl ⟨configureResponsibility_files h, fun _ hplans => hplans⟩
  | createWindow input principal correlationId o =>
    obtain ⟨response, h⟩ := answered_ok h
    exact .inl ⟨createWindow_files h, fun _ hplans => hplans⟩
  | withdrawWindow id input principal correlationId =>
    obtain ⟨response, h⟩ := answered_ok h
    exact .inl ⟨withdrawWindow_files h, fun _ hplans => hplans⟩
  | createBooking leadId input principal correlationId o =>
    obtain ⟨response, h⟩ := answered_ok h
    exact createBooking_met h
  | decide id input principal correlationId o =>
    obtain ⟨response, h⟩ := answered_ok h
    exact decide_met h
  | report id input principal correlationId o =>
    obtain ⟨response, h⟩ := answered_ok h
    exact report_met h

end CrmYnov
