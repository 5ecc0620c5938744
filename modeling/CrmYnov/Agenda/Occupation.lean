import CrmYnov.Agenda.Calls

/-!
# Nobody is engaged twice

Two appointments that are not over and involve a common user never overlap, as
long as every user is named by one text. The database compares the users of
appointments as texts, so the guarantee is about texts: a user named once in lower
case and once in upper case is two users to it, and one user to every other
table.
-/

namespace CrmYnov

open Appointments Admissions

namespace Agenda

def people : Calendar AppointmentRow String String Instant where
  key := AppointmentRow.id
  live a := ¬a.state.Final
  who a user := ∃ u ∈ a.involved, readUuid u = some user
  span := AppointmentRow.span

/-- **No double booking**: no two appointments that are not over and involve a
common user overlap. -/
def NoDoubleBooking (A : Agenda) : Prop := people.NoClash A.appointments.rows

/-- Texts of two lists that name one user are one text. -/
def Alike (ids ids' : List String) : Prop :=
  ∀ u ∈ ids, ∀ v ∈ ids', ∀ user, readUuid u = some user → readUuid v = some user → u = v

/-- Appointments that are not over name their users alike. -/
def OneSpelling (A : Agenda) : Prop :=
  ∀ a ∈ A.appointments.rows, ∀ b ∈ A.appointments.rows, a.id ≠ b.id → ¬a.state.Final →
    ¬b.state.Final → Alike a.involved b.involved

/-- Some users are named as the appointments that are not over name them. -/
def NamedAlike (A : Agenda) (ids : List String) : Prop :=
  ∀ a ∈ A.appointments.rows, ¬a.state.Final → Alike ids a.involved

theorem Alike.symm {ids ids' : List String} (h : Alike ids ids') : Alike ids' ids :=
  fun v hv u hu user hvser huser => (h u hu v hv user huser hvser).symm

theorem Alike.mono {ids ids' others : List String} (h : Alike ids others)
    (hsub : ∀ u ∈ ids', u ∈ ids) : Alike ids' others := fun u hu => h u (hsub u hu)

variable {A A' : Agenda} {c : Cause}

theorem alike_of_canonical {ids ids' : List String} (h : ∀ u ∈ ids, Canonical u)
    (h' : ∀ v ∈ ids', Canonical v) : Alike ids ids' :=
  fun u hu v hv _ huser hvser => (h u hu).eq_of_read (h' v hv) huser hvser

theorem ne_empty_of_readUuid {u user : String} (h : readUuid u = some user) : u ≠ "" := by
  rintro rfl
  cases h

theorem not_clash_of_free {x : AppointmentRow} {ids : List String} {excludeId : Option String}
    (hfree : ¬x.state.Final → Free A ids x.span excludeId)
    (hx : ∀ u ∈ x.involved, u ≠ "" → u ∈ ids) {b : AppointmentRow} (hb : b ∈ A.appointments.rows)
    (halike : ¬x.state.Final → ¬b.state.Final → Alike x.involved b.involved)
    (hne : some b.id ≠ excludeId) : ¬people.Clash x b := by
  rintro ⟨hlive, hliveb, ⟨user, ⟨u, hu, huser⟩, ⟨v, hv, hvser⟩⟩, hover⟩
  -- the two texts of one user are one text, which the database finds
  obtain rfl : u = v := halike hlive hliveb u hu v hv user huser hvser
  refine (hfree hlive).appointments b hb hne ⟨hliveb, u, hv, hx u hu ?_⟩ hover.symm
  exact ne_empty_of_readUuid huser

theorem eq_of_id (A : Agenda) {a b : AppointmentRow} (ha : a ∈ A.appointments.rows)
    (hb : b ∈ A.appointments.rows) (hid : a.id = b.id) : a = b :=
  A.appointments.eq_of_key ha hb (AppointmentRow.mem_keys.mpr hid) (AppointmentRow.mem_keys.mpr rfl)

section Update

variable {p : AppointmentRow → Prop} [DecidablePred p] {f : AppointmentRow → AppointmentRow}
  {hf : ∀ a, (f a).keys = a.keys}

/-- Appointments that are changed without reviving any, or changing their
users. -/
theorem oneSpelling_update (h : OneSpelling A) (hid : ∀ a, (f a).id = a.id)
    (hinvolved : ∀ a, (f a).involved = a.involved)
    (hlive : ∀ a ∈ A.appointments.rows, p a → ¬(f a).state.Final → ¬a.state.Final) :
    OneSpelling { A with appointments := A.appointments.updateMany p f hf } := by
  have hrow : ∀ a ∈ A.appointments.rows, (if p a then f a else a).id = a.id ∧
      (if p a then f a else a).involved = a.involved ∧
      (¬(if p a then f a else a).state.Final → ¬a.state.Final) := by
    intro a ha
    split
    · rename_i hpa
      exact ⟨hid a, hinvolved a, hlive a ha hpa⟩
    · exact ⟨rfl, rfl, fun hnot => hnot⟩
  intro x hx y hy hne hlivex hlivey
  obtain ⟨a, ha, rfl⟩ := List.mem_map.mp hx
  obtain ⟨b, hb, rfl⟩ := List.mem_map.mp hy
  obtain ⟨hida, hinvolveda, hlivea⟩ := hrow a ha
  obtain ⟨hidb, hinvolvedb, hliveb⟩ := hrow b hb
  rw [hida, hidb] at hne
  rw [hinvolveda, hinvolvedb]
  exact h a ha b hb hne (hlivea hlivex) (hliveb hlivey)

/-- **One appointment changes**: where it is not over afterwards, it was not over
before and its users are free at its new time. -/
theorem noDoubleBooking_update (h : NoDoubleBooking A) (hspelling : OneSpelling A) {id : String}
    (hp : ∀ a, p a → a.id = id) (hid : ∀ a, (f a).id = a.id)
    (hinvolved : ∀ a, (f a).involved = a.involved)
    (hlive : ∀ a ∈ A.appointments.rows, p a → ¬(f a).state.Final → ¬a.state.Final)
    (hfree : ∀ a ∈ A.appointments.rows, p a → ∃ ids, (∀ u ∈ a.involved, u ≠ "" → u ∈ ids) ∧
      (¬(f a).state.Final → Free A ids (f a).span (some id))) :
    NoDoubleBooking { A with appointments := A.appointments.updateMany p f hf } := by
  refine Calendar.noClash_update h (f := fun a => if p a then f a else a) (p := p) (fun a => ?_)
    (fun a _ hpa => if_neg hpa) (fun a _ b _ ha hb => (hp a ha).trans (hp b hb).symm) ?_
  · show (if p a then f a else a).id = a.id
    split
    · exact hid a
    · rfl
  · intro a ha hpa b hb hpb
    obtain ⟨ids, hids, hfree⟩ := hfree a ha hpa
    rw [if_pos hpa]
    have hne : a.id ≠ b.id := fun hsame => hpb (eq_of_id A ha hb hsame ▸ hpa)
    refine not_clash_of_free hfree (by rwa [hinvolved]) hb (fun hlivea hliveb => ?_) fun hsome => ?_
    · rw [hinvolved]
      exact hspelling a ha b hb hne (hlive a ha hpa hlivea) hliveb
    · exact hne ((hp a hpa).trans (Option.some.inj hsome).symm)

end Update

/-- **A new appointment** whose users are free, and named as the others name
them. -/
theorem noDoubleBooking_create (h : NoDoubleBooking A) (hspelling : OneSpelling A)
    {a : AppointmentRow} {t} (hcreate : A.appointments.create a = some t)
    (hfree : Free A a.involved a.span none) (ha : NamedAlike A a.involved) :
    people.NoClash t.rows ∧ ∀ x ∈ t.rows, ∀ y ∈ t.rows, x.id ≠ y.id → ¬x.state.Final →
      ¬y.state.Final → Alike x.involved y.involved := by
  rw [Table.create_rows hcreate]
  refine ⟨Calendar.noClash_append h fun b hb hclash => ?_, fun x hx y hy hne hlivex hlivey => ?_⟩
  · exact not_clash_of_free (fun _ => hfree) (fun u hu _ => hu) hb (fun _ => ha b hb) (by simp)
      hclash.symm
  · rw [List.mem_append, List.mem_singleton] at hx hy
    rcases hx with hx | rfl <;> rcases hy with hy | rfl
    · exact hspelling x hx y hy hne hlivex hlivey
    · exact (ha x hx hlivex).symm
    · exact ha y hy hlivey
    · exact absurd rfl hne

/-- **A step whose call names users as the agenda does engages nobody twice.** -/
theorem noDoubleBooking_step (h : NoDoubleBooking A ∧ OneSpelling A) (husers : NamedAlike A c.users)
    (hstep : Step c A A') : NoDoubleBooking A' ∧ OneSpelling A' := by
  obtain ⟨hclash, hspelling⟩ := h
  cases hstep with
  | quiet => exact ⟨hclash, hspelling⟩
  | plan hcreate hfree _ hnamed =>
    exact noDoubleBooking_create hclash hspelling hcreate hfree fun b hb hlive =>
      (husers b hb hlive).mono hnamed
  | book hcreate _ _ _ _ hfree _ _ _ hnamed =>
    exact noDoubleBooking_create hclash hspelling hcreate hfree fun b hb hlive =>
      (husers b hb hlive).mono hnamed
  | @transit current record hcur hid hnotFinal _ hdur hinvolved hfree =>
    have hcurrent_of : ∀ a ∈ A.appointments.rows,
        a.id = record.id ∧ a.version + 1 = record.version → a = current :=
      fun a ha hpa => eq_of_id A ha hcur (hpa.1.trans hid)
    have hlive : ∀ a ∈ A.appointments.rows, a.id = record.id ∧ a.version + 1 = record.version →
        ¬(reset record a).state.Final → ¬a.state.Final := fun a ha hpa _ => by
      rwa [hcurrent_of a ha hpa]
    refine ⟨noDoubleBooking_update hclash hspelling (fun a hpa => hpa.1) (fun a => rfl)
      (fun a => rfl) hlive fun a ha hpa => ?_,
      oneSpelling_update hspelling (fun a => rfl) (fun a => rfl) hlive⟩
    obtain rfl := hcurrent_of a ha hpa
    refine ⟨record.involved, hinvolved, fun hfinal => ?_⟩
    have hspan : (reset record a).span = record.span := by
      simp only [AppointmentRow.span, reset, hdur]
    rw [hspan]
    exact hfree hfinal
  | @decide a b action startsAt ha hb hadm =>
    have hthe : ∀ x ∈ A.appointments.rows, x.id = a.id → x = a := fun x hx hid =>
      eq_of_id A hx (Table.findUnique_eq_some.mp ha).1 hid
    have hlive : ∀ x ∈ A.appointments.rows, x.id = a.id →
        ¬(decidedAppointment action startsAt x).state.Final → ¬x.state.Final := fun x hx hid _ => by
      rw [hthe x hx hid]
      exact hadm.notFinal
    refine ⟨noDoubleBooking_update hclash hspelling (fun x hx => hx) (fun x => rfl) (fun x => rfl)
      hlive fun x hx hid => ?_, oneSpelling_update hspelling (fun x => rfl) (fun x => rfl) hlive⟩
    obtain rfl := hthe x hx hid
    refine ⟨x.involved, fun u hu _ => hu, fun hfinal => hadm.free ?_⟩
    exact action.placed_or_final.resolve_right hfinal
  | count =>
    refine ⟨?_, oneSpelling_update hspelling (fun x => rfl) (fun x => rfl) fun x _ _ hlive => hlive⟩
    have hrow : ∀ id (x : AppointmentRow), (if x.id = id then bump x else x).id = x.id ∧
        (if x.id = id then bump x else x).state = x.state ∧
        (if x.id = id then bump x else x).involved = x.involved ∧
        (if x.id = id then bump x else x).span = x.span := by
      intro id x
      split <;> exact ⟨rfl, rfl, rfl, rfl⟩
    refine Calendar.noClash_map hclash (fun x => (hrow _ x).1) fun x y hxy => ?_
    obtain ⟨hlivex, hlivey, ⟨user, hx, hy⟩, hover⟩ := hxy
    simp only [people, (hrow _ x).2.1, (hrow _ y).2.1, (hrow _ x).2.2.1, (hrow _ y).2.2.1,
      (hrow _ x).2.2.2, (hrow _ y).2.2.2] at hlivex hlivey hx hy hover
    exact ⟨hlivex, hlivey, ⟨user, hx, hy⟩, hover⟩
  | designate | switch | declare | withdraw => exact ⟨hclash, hspelling⟩

end Agenda

variable {rt : Runtime} {auth : Authority}

/-- **No run engages anybody twice** whose calls name the users of appointments
that are not over by the texts these appointments name them by. -/
theorem noDoubleBooking_throughout {db : Database} {calls : List AgendaCall}
    (hclash : db.agenda.NoDoubleBooking) (hspelling : db.agenda.OneSpelling)
    (hmeets : (agendaMachine rt auth).Meets (fun db call => db.agenda.NamedAlike (call.users db)) db
      calls) :
    (agendaMachine rt auth).Throughout (fun db => db.agenda.NoDoubleBooking) db calls :=
  fun pre hpre => (agenda_throughout (I := fun A => A.NoDoubleBooking ∧ A.OneSpelling)
    (fun _ _ _ hI husers hstep => Agenda.noDoubleBooking_step hI husers hstep) ⟨hclash, hspelling⟩
    hmeets pre hpre).1

/-! ### One user under two texts -/

theorem not_noDoubleBooking {A : Agenda} (h : ∃ a ∈ A.appointments.rows,
    ∃ b ∈ A.appointments.rows, a.id ≠ b.id ∧ ¬a.state.Final ∧ ¬b.state.Final ∧
      (∃ u ∈ a.involved, ∃ v ∈ b.involved, (readUuid u).isSome ∧ readUuid u = readUuid v) ∧
      a.span.Overlaps b.span) : ¬A.NoDoubleBooking := by
  obtain ⟨a, ha, b, hb, hne, hlivea, hliveb, ⟨u, hu, v, hv, hread, hsame⟩, hover⟩ := h
  obtain ⟨user, huser⟩ := Option.isSome_iff_exists.mp hread
  refine fun hno => hno a ha b hb hne ⟨hlivea, hliveb, ⟨user, ⟨u, hu, huser⟩, ⟨v, hv, ?_⟩⟩, hover⟩
  rw [← hsame, huser]

namespace Sample

/-- A runtime that reads one date, 7 January 2030 at 10:00. -/
def runtime : Runtime :=
  { Runtime.plain with
    parseDate := fun text => if text = "2030-01-07T10:00:00Z" then some 1894010400000 else none }

/-- No session holds and nothing is allowed. -/
def nobody : Authority where
  session _ _ := .error .database
  can _ _ _ _ := false
  canUseLead _ _ _ := false
  canViewLead _ _ _ := false
  profileCanUseAgenda _ _ _ := false

def lead : Leads.LeadRow where
  id := "11111111-1111-4111-8111-111111111111"
  leadCode := "L-1"
  firstName := "Lina"
  lastName := "B"
  campus := "rabat"
  campaign := "salon"
  educationLevel := "BAC"
  program := "INFO"
  source := "SALON"
  createdAt := 0

def empty : Database := { leads := .ofRows [lead] }

/-- A manager creates an appointment at 10:00 with an adviser and a participant
of their choice. -/
def creation (n participant : String) : AgendaCall :=
  .create lead.id
    { type := some "APPEL_INFORMATION", mode := some "TELEPHONE"
      startsAt := some "2030-01-07T10:00:00Z", durationMinutes := some 30
      adviserId := some ("aaaaaaaa-0000-4000-8000-00000000000" ++ n)
      participantIds := some [participant], idempotencyKey := some ("creation-" ++ n) }
    ⟨"bbbbbbbb-0000-4000-8000-00000000000" ++ n, [.MANAGER], [.GLOBAL], "session"⟩ "correlation"
    ⟨1894000000000, "cccccccc-0000-4000-8000-00000000000" ++ n, "event-" ++ n, "activity-" ++ n⟩

/-- Two creations that name one participant in two letter cases. -/
def twoSpellings : List AgendaCall :=
  [creation "1" "dddddddd-0000-4000-8000-000000000000",
    creation "2" "DDDDDDDD-0000-4000-8000-000000000000"]

end Sample

open Sample

/-- **Two texts of one user engage it twice**: both creations pass, and overlap. -/
theorem engaged_twice_of_two_spellings :
    empty.agenda.NoDoubleBooking ∧ empty.agenda.OneSpelling ∧
      ¬((agendaMachine runtime nobody).run empty twoSpellings).agenda.NoDoubleBooking := by
  have hnone : empty.agenda.appointments.rows = [] := rfl
  refine ⟨fun a ha => ?_, fun a ha => ?_, not_noDoubleBooking (by decide +kernel)⟩ <;>
    cases ha

theorem noDoubleBooking_throughout_of_one_spelling :
    (agendaMachine runtime nobody).Throughout (fun db => db.agenda.NoDoubleBooking) empty
      [creation "1" "dddddddd-0000-4000-8000-000000000000",
        creation "2" "dddddddd-0000-4000-8000-000000000000"] := by
  have hnone : empty.agenda.appointments.rows = [] := rfl
  refine noDoubleBooking_throughout (fun a ha => ?_) (fun a ha => ?_) ⟨fun a ha => ?_, ?_, trivial⟩
  · cases ha
  · cases ha
  · cases ha
  · intro a ha hlive
    have husers : ∀ u ∈ (creation "2" "dddddddd-0000-4000-8000-000000000000").users
        ((agendaMachine runtime nobody).next empty
          (creation "1" "dddddddd-0000-4000-8000-000000000000")), Canonical u := by
      decide +kernel
    have hstored : ∀ a ∈ ((agendaMachine runtime nobody).next empty
        (creation "1" "dddddddd-0000-4000-8000-000000000000")).agenda.appointments.rows,
        ∀ v ∈ a.involved, Canonical v := by decide +kernel
    exact Agenda.alike_of_canonical husers (hstored a ha)

end CrmYnov
