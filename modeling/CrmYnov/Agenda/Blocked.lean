import CrmYnov.Agenda.Occupation

/-!
# Blocked time stays free

An active window declared blocked keeps the time of its user free: no appointment
that is not over and involves the user overlaps it, while the responsibility it
belongs to is active. Whoever places an appointment or declares a window checks
this. Three flags make the check necessary – of the appointment, of the window
and of the responsibility – and the third may be raised without it: a
responsibility that is switched on again brings its blocked windows back, over
the appointments placed meanwhile.
-/

namespace CrmYnov

open Appointments Admissions Table AdmissionsResponsibilityRow List

namespace Agenda

/-- A window of a responsibility blocks a time at which an appointment involves
the user. -/
def Disturbs (w : AdmissionsWindowRow) (r : AdmissionsResponsibilityRow) (a : AppointmentRow) :
    Prop :=
  (w.active ∧ w.kind = .BLOCKED ∧ r.id = w.responsibilityId) ∧
    (¬a.state.Final ∧ ∃ u ∈ a.involved, readUuid u = some r.userId) ∧ w.span.Overlaps a.span

/-- No window of the responsibility blocks the time of an appointment. -/
def Undisturbed (A : Agenda) (r : AdmissionsResponsibilityRow) : Prop :=
  ∀ w ∈ A.windows.rows, ∀ a ∈ A.appointments.rows, ¬Disturbs w r a

/-- **Blocked time is free**: no window of an active responsibility blocks the
time of an appointment. -/
def BlockedFree (A : Agenda) : Prop := ∀ r ∈ A.responsibilities.rows, r.active → A.Undisturbed r

/-- Every window belongs to a responsibility. -/
def Owned (A : Agenda) : Prop :=
  ∀ w ∈ A.windows.rows, ∃ r ∈ A.responsibilities.rows, r.id = w.responsibilityId

variable {A A' : Agenda} {c : Cause}

/-- Users who are free at the time of an appointment are not disturbed by a
window. -/
theorem not_disturbs_of_free {a : AppointmentRow} {ids : List String} {excludeId : Option String}
    (hfree : ¬a.state.Final → Free A ids a.span excludeId)
    (hids : ∀ u ∈ a.involved, u ≠ "" → u ∈ ids) {w : AdmissionsWindowRow} (hw : w ∈ A.windows.rows)
    {r : AdmissionsResponsibilityRow} (hr : r ∈ A.responsibilities.rows) (hactive : r.active) :
    ¬Disturbs w r a := by
  rintro ⟨⟨hwactive, hkind, hid⟩, ⟨hlive, u, hu, hread⟩, hover⟩
  have hmem : u ∈ ids := hids u hu (ne_empty_of_readUuid hread)
  exact (hfree hlive).windows w hw hwactive hkind r hr hid hactive ⟨u, hmem, hread⟩ hover

/-- **Appointments change**: each one keeps its time and its users, or its users
are free at its time. -/
theorem blockedFree_appointments (h : BlockedFree A) {t : Table AppointmentRow AppointmentRow.keys}
    (hrow : ∀ x ∈ t.rows, (∃ a ∈ A.appointments.rows, (¬x.state.Final → ¬a.state.Final) ∧
        x.involved = a.involved ∧ x.span = a.span) ∨
      ∃ ids excludeId, (∀ u ∈ x.involved, u ≠ "" → u ∈ ids) ∧
        (¬x.state.Final → Free A ids x.span excludeId)) :
    BlockedFree { A with appointments := t } := by
  intro r hr hactive w hw x hx
  rcases hrow x hx with ⟨a, ha, hlive, hinvolved, hspan⟩ | ⟨ids, excludeId, hids, hfree⟩
  · rintro ⟨hblocked, ⟨hlivex, huser⟩, hover⟩
    rw [hinvolved] at huser
    rw [hspan] at hover
    exact h r hr hactive w hw a ha ⟨hblocked, ⟨hlive hlivex, huser⟩, hover⟩
  · exact not_disturbs_of_free hfree hids hw hr hactive

theorem blockedFree_create (h : BlockedFree A) {a : AppointmentRow} {t}
    (hcreate : A.appointments.create a = some t) (hfree : Free A a.involved a.span none) :
    BlockedFree { A with appointments := t } := by
  refine blockedFree_appointments h fun x hx => ?_
  rcases (mem_create hcreate).mp hx with hx | rfl
  · exact .inl ⟨x, hx, id, rfl, rfl⟩
  · exact .inr ⟨x.involved, none, fun u hu _ => hu, fun _ => hfree⟩

/-- **A window is declared** over a time at which its user is free, when the
database finds every appointment of the user by its identifier. -/
theorem blockedFree_declare (h : BlockedFree A) {w : AdmissionsWindowRow}
    {r : AdmissionsResponsibilityRow} {t} (hcreate : A.windows.create w = some t)
    (hr : r ∈ A.responsibilities.rows) (hid : r.id = w.responsibilityId)
    (hnamed : w.kind = .BLOCKED → NamedAlike A [r.userId])
    (hfree : w.kind = .BLOCKED → Free A [r.userId] w.span none) :
    BlockedFree { A with windows := t } := by
  intro r' hr' hactive w' hw' a ha hdisturbs
  rcases (mem_create hcreate).mp hw' with hw' | rfl
  · exact h r' hr' hactive w' hw' a ha hdisturbs
  · obtain ⟨⟨-, hkind, hid'⟩, ⟨hlive, u, hu, hread⟩, hover⟩ := hdisturbs
    -- one identifier, one responsibility
    obtain rfl : r = r' := A.responsibilities.eq_of_key hr hr'
      (mem_keys_id.mpr (hid.trans hid'.symm))
      (mem_keys_id.mpr rfl)
    have hsame : r.userId = u := hnamed hkind a ha hlive r.userId mem_cons_self u hu r.userId
      (canonical_of_read hread) hread
    have hocc : Occupies a [r.userId] := ⟨hlive, u, hu, by rw [hsame]; exact mem_cons_self⟩
    exact (hfree hkind).appointments a ha (by simp) hocc hover.symm

/-- **A step keeps blocked time free**, when its call names the users it blocks
as the appointments do and switches on no responsibility whose windows block the
time of an appointment. -/
theorem blockedFree_step (h : BlockedFree A ∧ Owned A) (hblocks : NamedAlike A c.blocks)
    (hon : ∀ r ∈ A.responsibilities.rows, c.switchesOn r → A.Undisturbed r)
    (hstep : Step c A A') : BlockedFree A' ∧ Owned A' := by
  obtain ⟨hfree, howned⟩ := h
  cases hstep with
  | quiet => exact ⟨hfree, howned⟩
  | plan hcreate hplanned => exact ⟨blockedFree_create hfree hcreate hplanned, howned⟩
  | book hcreate _ _ _ _ hbooked => exact ⟨blockedFree_create hfree hcreate hbooked, howned⟩
  | @transit current record hcur hid hnotFinal _ hdur hinvolved hmoved =>
    refine ⟨blockedFree_appointments hfree fun x hx => ?_, howned⟩
    obtain ⟨a, ha, rfl⟩ := mem_map.mp hx
    dsimp only
    split
    · rename_i hmoves
      obtain rfl := eq_of_id A ha hcur (hmoves.1.trans hid)
      refine .inr ⟨record.involved, some record.id, hinvolved, fun hlive => ?_⟩
      have hspan : (reset record a).span = record.span := by
        simp only [AppointmentRow.span, reset, hdur]
      rw [hspan]
      exact hmoved hlive
    · exact .inl ⟨a, ha, id, rfl, rfl⟩
  | @decide a b action startsAt ha hb hadm =>
    refine ⟨blockedFree_appointments hfree fun x hx => ?_, howned⟩
    obtain ⟨y, hy, rfl⟩ := mem_map.mp hx
    dsimp only
    split
    · rename_i hid
      obtain rfl := eq_of_id A hy (findUnique_eq_some.mp ha).1 hid
      refine .inr ⟨y.involved, some y.id, fun u hu _ => hu, fun hlive => hadm.free ?_⟩
      exact action.placed_or_final.resolve_right hlive
    · exact .inl ⟨y, hy, id, rfl, rfl⟩
  | count =>
    refine ⟨blockedFree_appointments hfree fun x hx => ?_, howned⟩
    obtain ⟨y, hy, rfl⟩ := mem_map.mp hx
    refine .inl ⟨y, hy, ?_⟩
    dsimp only
    split <;> exact ⟨id, rfl, rfl⟩
  | @designate r t hcreate =>
    refine ⟨fun r' hr' hactive w hw a ha hdisturbs => ?_, fun w hw => ?_⟩
    · rcases (mem_create hcreate).mp hr' with hr' | rfl
      · exact hfree r' hr' hactive w hw a ha hdisturbs
      · -- the window belongs to a responsibility that was there before
        obtain ⟨owner, howner, hid⟩ := howned w hw
        have hkey : Key.id w.responsibilityId ∈ r'.keys :=
          mem_keys_id.mpr hdisturbs.1.2.2
        exact findUnique_eq_none.mp (findUnique_of_create hcreate hkey) owner howner
          (mem_keys_id.mpr hid)
    · obtain ⟨r', hr', hid⟩ := howned w hw
      exact ⟨r', (mem_create hcreate).mpr (.inl hr'), hid⟩
  | @switch r active hr hswitch =>
    refine ⟨fun r' hr' hactive w hw a ha hdisturbs => ?_, fun w hw => ?_⟩
    · obtain ⟨x, hx, rfl⟩ := mem_map.mp hr'
      dsimp only at hactive hdisturbs
      split at hactive
      · rename_i hid
        rw [if_pos hid] at hdisturbs
        obtain rfl : x = r := A.responsibilities.eq_of_key hx hr
          (mem_keys_id.mpr hid)
          (mem_keys_id.mpr rfl)
        rcases hbefore : x.active with _ | _
        · exact hon x hx (hswitch hactive hbefore) w hw a ha hdisturbs
        · exact hfree x hx hbefore w hw a ha hdisturbs
      · rename_i hid
        rw [if_neg hid] at hdisturbs
        exact hfree x hx hactive w hw a ha hdisturbs
    · obtain ⟨x, hx, hid⟩ := howned w hw
      refine ⟨_, mem_map.mpr ⟨x, hx, rfl⟩, ?_⟩
      dsimp only
      split <;> exact hid
  | @declare w r t hcreate hr hid hblocked hwfree =>
    refine ⟨blockedFree_declare hfree hcreate hr hid (fun hkind b hb hlive => ?_) hwfree,
      fun x hx => ?_⟩
    · exact (hblocks b hb hlive).mono fun u hu => by
        rw [mem_singleton.mp hu]
        exact hblocked hkind
    · rcases (mem_create hcreate).mp hx with hx | rfl
      · exact howned x hx
      · exact ⟨r, hr, hid⟩
  | @withdraw w hw _ =>
    have hrow : ∀ x : AdmissionsWindowRow,
        (if x.id = w.id then x.withdraw else x).responsibilityId = x.responsibilityId := by
      intro x
      split <;> rfl
    refine ⟨fun r hr hactive x hx a ha hdisturbs => ?_, fun x hx => ?_⟩
    · obtain ⟨y, hy, rfl⟩ := mem_map.mp hx
      dsimp only at hdisturbs
      split at hdisturbs
      · cases hdisturbs.1.1
      · exact hfree r hr hactive y hy a ha hdisturbs
    · obtain ⟨y, hy, rfl⟩ := mem_map.mp hx
      obtain ⟨r, hr, hid⟩ := howned y hy
      exact ⟨r, hr, by rw [hid, hrow]⟩

end Agenda

variable {rt : Runtime} {auth : Authority}

theorem not_blockedFree {A : Agenda} (h : ∃ r ∈ A.responsibilities.rows, r.active = true ∧
    ∃ w ∈ A.windows.rows, ∃ a ∈ A.appointments.rows,
      (w.active = true ∧ w.kind = .BLOCKED ∧ r.id = w.responsibilityId) ∧
        (¬a.state.Final ∧ ∃ u ∈ a.involved, readUuid u = some r.userId) ∧
        w.span.Overlaps a.span) : ¬A.BlockedFree := by
  obtain ⟨r, hr, hactive, w, hw, a, ha, hdisturbs⟩ := h
  exact fun hno => hno r hr hactive w hw a ha hdisturbs

namespace Sample

def references : References.Store where
  references := .ofRows [⟨"99999999-0000-4000-8000-000000000000", .CAMPUS, "rabat", "Rabat", "GLOBAL",
    .ACTIVE⟩]
  keys := .ofRows [⟨"99999999-0000-4000-8000-000000000000", .CAMPUS, "GLOBAL", "RABAT"⟩]
  availability := .empty

/-- A runtime that reads the hours of a morning, 7 January 2030. -/
def morning : Runtime :=
  { Runtime.plain with
    parseDate := fun text =>
      if text = "2030-01-07T09:00:00Z" then some 1894006800000
      else if text = "2030-01-07T10:00:00Z" then some 1894010400000
      else if text = "2030-01-07T12:00:00Z" then some 1894017600000 else none }

/-- An administrator whose session holds; everything is allowed. -/
def administrator : Authority where
  session _ _ := .ok ([.ADMIN], [.GLOBAL])
  can _ _ _ _ := true
  canUseLead _ _ _ := true
  canViewLead _ _ _ := true
  profileCanUseAgenda _ _ _ := true

/-- The identifier of a user responsible for admissions. -/
def responsible : String := "dddddddd-0000-4000-8000-000000000000"

/-- A database that knows the lead, the campus and the user responsible for its
admissions. -/
def campus : Database where
  leads := .ofRows [lead]
  references := references
  collaborators := .ofRows [{
    id := responsible, professionalEmail := "admissions", roles := [.ADMISSIONS]
    campusId := some "rabat", firstLoginRequired := false }]

def admin : Principal := ⟨"eeeeeeee-0000-4000-8000-000000000000", [.ADMIN], [.GLOBAL], "session"⟩

/-- The identifiers drawn by a call. -/
def occasion (n : String) : AdmissionsOccasion :=
  ⟨1894000000000, "ffffffff-0000-4000-8000-00000000000" ++ n, "booking-event-" ++ n,
    "booking-activity-" ++ n⟩

def configure (n : String) (active : Bool) (version : ℤ) : AgendaCall :=
  .configureResponsibility ⟨responsible, "rabat", active, version, "configure-" ++ n⟩ admin
    "correlation" (occasion n)

/-- Declare the morning available or blocked. -/
def declare (n kind : String) : AgendaCall :=
  .createWindow ⟨"ffffffff-0000-4000-8000-000000000001", kind, "2030-01-07T09:00:00Z",
    "2030-01-07T12:00:00Z", "declare-" ++ n⟩ admin "correlation" (occasion n)

/-- A morning is blocked, its responsibility is switched off, an appointment is
created with the user, and the responsibility is switched on again. -/
def switchedOn : List AgendaCall :=
  [configure "1" true 0, declare "2" "BLOCKED", configure "3" false 1, creation "4" responsible,
    configure "5" true 2]

end Sample

open Sample

end CrmYnov
