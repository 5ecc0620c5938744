import CrmYnov.Agenda.Blocked
import CrmYnov.Base.Grid

/-!
# What is offered is accepted

The slots are generated from the windows; a request is checked at one point. The
two agree (`CrmYnov.Admissions.slots_agree`): a slot that is offered passes both
checks of a request made at once, and a point of the grid of a window whose slot lies
inside this window and inside the range is offered when it passes them. The slots
come sorted, each once, because between the years 0 and 9999 the texts of dates are
ordered as the dates are.

A point of the grid of one window may pass inside another window only, or end after
the range: it is not offered (`CrmYnov.Admissions.accepted_not_offered`).
-/

/-!
## The slots that are offered

A requester is shown the slots at which an appointment may be requested. They are
generated: every available window is walked by quarters of an hour from its start,
and what overlaps something occupied is left out. A slot is shown as two texts, and
the texts are sorted.
-/

namespace CrmYnov

namespace Admissions

open Checked
open Appointments (AppointmentRow appointmentOccupations readUsers)

structure Slot where
  (startsAt endsAt : String)
deriving DecidableEq

def quarter : ℤ := 15 * 60000

theorem quarter_pos : 0 < quarter := by decide

/-- The time of an appointment, from its start and its minutes. -/
def timeAt (duration : ℤ) (start : Instant) : Span Instant := ⟨start, start + duration * 60000⟩

def slotAt (duration : ℤ) (start : Instant) : Slot :=
  ⟨Js.isoString start, Js.isoString (start + duration * 60000)⟩

def startsOf (window range : Span Instant) (duration : ℤ) (now : Instant) : List Instant :=
  let earliest := max (max window.start range.start) (now + 1)
  let latest := min window.stop range.stop
  Grid.walk quarter (duration * 60000) latest quarter_pos (Grid.roundUp window.start quarter earliest)

def freeSlots (available occupied : List (Span Instant)) (range : Span Instant) (duration : ℤ)
    (now : Instant) : List Slot :=
  let starts := available.flatMap fun window =>
    (startsOf window range duration now).filter fun start =>
      ∀ item ∈ occupied, ¬item.Overlaps (timeAt duration start)
  let result := Dict.ofList (starts.map fun start => (Js.isoString start, slotAt duration start))
  result.values.insertionSort fun a b => ¬b.startsAt < a.startsAt

/-- `occupations`: when some users are engaged, or declared blocked. -/
def occupations (db : Database) (ids : List String) (range : Span Instant)
    (excludeId : Option String) : Outcome (List (Span Instant)) := do
  let users ← readUsers ids
  let blocks := db.admissionsWindows.findMany fun w =>
    Appointments.Blocks db w users ∧ w.span.Overlaps range
  pure (appointmentOccupations db ids range excludeId ++ blocks.map AdmissionsWindowRow.span)

/-- The slots of a responsibility at which some users are free. -/
def slotsOf (db : Database) (responsibilityId : String) (ids : List String) (range : Span Instant)
    (duration : ℤ) (excludeId : Option String) (now : Instant) : Outcome (List Slot) := do
  let windows := db.admissionsWindows.findMany fun w =>
    w.responsibilityId = responsibilityId ∧ w.active ∧ w.span.Overlaps range
  let occupied ← occupations db ids range excludeId
  let available := windows.filter fun w => w.kind = .AVAILABLE
  let blocked := windows.filter fun w => w.kind = .BLOCKED
  pure (freeSlots (available.map AdmissionsWindowRow.span)
    (blocked.map AdmissionsWindowRow.span ++ occupied) range duration now)

variable (rt : Runtime) (auth : Authority)

variable (db : Database)

def canReadBooking (booked : Booked) (actor : Principal) (keys : List String) : Prop :=
  (Role.SUPER_ADMIN ∈ actor.roles ∨ ∃ scope ∈ actor.scopes, ∃ key ∈ keys, scope = .CAMPUS key) ∧
    auth.can db actor "appointment.manage" keys = true ∧
    ((booked.profile.row.userId = actor.userId ∧ profileActive booked.profile ∧
        attached booked.profile.user keys) ∨
      auth.can db actor "settings.campus.manage" keys = true ∨
      (booked.requestedBy actor ∧ auth.canViewLead db actor booked.appointment.leadId = true))
deriving Decidable

/-- The booking whose appointment is to be moved, when the actor may read it. -/
def movedBooking (leadId responsibilityId bookingId : String) (actor : Principal) :
    Outcome Booked := do
  let id ← assertUuid bookingId
  let booked ← demand (booked? db id) denied
  require (booked.appointment.leadId = leadId ∧ booked.row.responsibilityId = responsibilityId) denied
  let campus ← campus rt db booked.profile.row.campus
  require (canReadBooking auth db booked actor campus.keys) denied
  pure booked

/-- The campus that is looked at: of the booking to be moved, or of the lead. -/
def viewedCampus (leadId : String) (actor : Principal) (existing : Option Booked) :
    Outcome Campus :=
  match existing with
  | some booked => campus rt db booked.profile.row.campus
  | none => do
    let (_, campus) ← authorizeLead rt auth db actor leadId
    pure campus

def slots (leadId responsibilityId start stop : String) (duration : ℤ) (principal : Principal)
    (bookingId : Option String) (now : Instant) : Outcome (List Slot) := do
  let _ ← assertUuid leadId
  let readId ← assertUuid responsibilityId
  assertDuration duration
  let range ← interval rt start stop 7
  let _ ← (Leads.nonEmpty bookingId).mapM assertUuid
  let actor ← currentActor auth db principal
  let existing ← (Leads.nonEmpty bookingId).mapM fun id =>
    movedBooking rt auth db leadId responsibilityId id actor
  let campus ← viewedCampus rt auth db leadId actor existing
  let profile ← activeProfile rt auth db readId (some campus.code)
  let ids := (existing.map fun booked => booked.appointment.involved).getD
    [profile.row.userId, actor.userId]
  slotsOf db profile.row.id ids range duration (existing.map fun booked => booked.appointment.id) now

end Admissions

end CrmYnov

namespace CrmYnov

open Checked
open Appointments

namespace Admissions

variable {rt : Runtime} {auth : Authority} {db : Database} {window range : Span Instant}
  {duration : ℤ} {now t : Instant} {available occupied : List (Span Instant)}

/-! ### The generator -/

/-- **The starts of a window**: the points of its grid whose slots lie inside the
window and the range, in the future. -/
theorem mem_startsOf : t ∈ startsOf window range duration now ↔
    (∃ n : ℕ, t = window.start + n * quarter) ∧ window.Covers (timeAt duration t) ∧
      range.Covers (timeAt duration t) ∧ now < t := by
  have horigin : window.start ≤ max (max window.start range.start) (now + 1) :=
    (le_max_left _ _).trans (le_max_left _ _)
  rw [startsOf, Grid.mem_walk_roundUp quarter_pos horigin]
  simp only [Span.Covers, timeAt, max_le_iff, le_min_iff]
  constructor
  · rintro ⟨hgrid, ⟨⟨hwindow, hrange⟩, hnow⟩, hwindowstop, hrangestop⟩
    exact ⟨hgrid, ⟨hwindow, hwindowstop⟩, ⟨hrange, hrangestop⟩, Int.lt_of_add_one_le hnow⟩
  · rintro ⟨hgrid, ⟨hwindow, hwindowstop⟩, ⟨hrange, hrangestop⟩, hnow⟩
    exact ⟨hgrid, ⟨⟨hwindow, hrange⟩, Int.add_one_le_of_lt hnow⟩, hwindowstop, hrangestop⟩

def Offered (available occupied : List (Span Instant)) (range : Span Instant) (duration : ℤ)
    (now t : Instant) : Prop :=
  (∃ window ∈ available, t ∈ startsOf window range duration now) ∧
    ∀ item ∈ occupied, ¬item.Overlaps (timeAt duration t)

theorem offered_inj (hstart : Js.FourDigitYear range.start) (hstop : Js.FourDigitYear range.stop)
    (hdur : 0 ≤ duration) {u : Instant} (ht : Offered available occupied range duration now t)
    (hu : Offered available occupied range duration now u)
    (htext : Js.isoString t = Js.isoString u) : t = u := by
  have hlen : 0 ≤ duration * 60000 := by omega
  have hyear : ∀ v, Offered available occupied range duration now v → Js.FourDigitYear v := by
    rintro v ⟨⟨window, -, hv⟩, -⟩
    obtain ⟨-, -, ⟨hafter, hbefore⟩, -⟩ := mem_startsOf.mp hv
    exact hstart.between hstop hafter ((le_add_of_nonneg_right hlen).trans hbefore)
  exact Js.isoString_inj (hyear t ht) (hyear u hu) htext

theorem mem_starts :
    (t ∈ available.flatMap fun window => (startsOf window range duration now).filter
      fun start => ∀ item ∈ occupied, ¬item.Overlaps (timeAt duration start)) ↔
      Offered available occupied range duration now t := by
  simp only [List.mem_flatMap, List.mem_filter, decide_eq_true_eq]
  constructor
  · rintro ⟨window, hwindow, hstarts, hfree⟩
    exact ⟨⟨window, hwindow, hstarts⟩, hfree⟩
  · rintro ⟨⟨window, hwindow, hstarts⟩, hfree⟩
    exact ⟨window, hwindow, hstarts, hfree⟩

/-- **What the generator shows**: the slots of the starts that are offered. -/
theorem mem_freeSlots (hstart : Js.FourDigitYear range.start) (hstop : Js.FourDigitYear range.stop)
    (hdur : 0 ≤ duration) {s : Slot} :
    s ∈ freeSlots available occupied range duration now ↔
      ∃ t, Offered available occupied range duration now t ∧ slotAt duration t = s := by
  rw [freeSlots, List.mem_insertionSort, Dict.mem_values]
  have hget : ∀ k v, (Dict.ofList ((available.flatMap fun window =>
      (startsOf window range duration now).filter fun start =>
        ∀ item ∈ occupied, ¬item.Overlaps (timeAt duration start)).map fun start =>
          (Js.isoString start, slotAt duration start))).get k = some v ↔
      ∃ t, Offered available occupied range duration now t ∧ Js.isoString t = k ∧
        slotAt duration t = v := by
    intro k v
    rw [Dict.get_ofList_of_functional]
    · simp only [List.mem_map, mem_starts, Prod.mk.injEq]
    · intro e he e' he' hkey
      obtain ⟨t, ht, rfl⟩ := List.mem_map.mp he
      obtain ⟨u, hu, rfl⟩ := List.mem_map.mp he'
      obtain rfl := offered_inj hstart hstop hdur (mem_starts.mp ht) (mem_starts.mp hu) hkey
      rfl
  simp only [hget]
  constructor
  · rintro ⟨_, t, ht, -, rfl⟩
    exact ⟨t, ht, rfl⟩
  · rintro ⟨t, ht, rfl⟩
    exact ⟨_, t, ht, rfl, rfl⟩

/-- **The slots are sorted, each once**: the dictionary has one slot for a text, and
the slots are sorted by these texts. -/
theorem freeSlots_sorted : (freeSlots available occupied range duration now).Pairwise
    fun a b => a.startsAt < b.startsAt := by
  rw [freeSlots]
  generalize hentries : (available.flatMap fun window =>
    (startsOf window range duration now).filter fun start =>
      ∀ item ∈ occupied, ¬item.Overlaps (timeAt duration start)).map
        (fun start => (Js.isoString start, slotAt duration start)) = entries
  have hkeys : ∀ e ∈ (Dict.ofList entries).entries.rows, e.2.startsAt = e.1 := by
    intro e he
    have hmem : e ∈ entries := Dict.mem_of_get_ofList (Dict.get_eq_some.mpr he)
    rw [← hentries, List.mem_map] at hmem
    obtain ⟨start, -, rfl⟩ := hmem
    rfl
  have hnodup : ((Dict.ofList entries).values.map Slot.startsAt).Nodup := by
    have hfst := (Dict.ofList entries).entries.nodup_keys (k := Prod.fst) fun e => List.mem_cons_self
    rw [Dict.values, List.map_map]
    rwa [List.map_congr_left (f := Slot.startsAt ∘ Prod.snd) (g := Prod.fst) hkeys]
  have htotal : Std.Total fun a b : Slot => ¬b.startsAt < a.startsAt :=
    ⟨fun a b => String.le_total a.startsAt b.startsAt⟩
  have htrans : IsTrans Slot fun a b => ¬b.startsAt < a.startsAt :=
    ⟨fun _ _ _ hab hbc => String.le_trans hab hbc⟩
  have hsorted := List.pairwise_insertionSort (fun a b : Slot => ¬b.startsAt < a.startsAt)
    (Dict.ofList entries).values
  have hdistinct : ((Dict.ofList entries).values.insertionSort fun a b : Slot =>
      ¬b.startsAt < a.startsAt).Pairwise fun a b => a.startsAt ≠ b.startsAt :=
    List.pairwise_map.mp (((List.perm_insertionSort _ _).map Slot.startsAt).nodup_iff.mpr hnodup)
  refine (hsorted.and hdistinct).imp fun {a b} hboth => ?_
  by_contra hnot
  exact hboth.2 (String.le_antisymm hboth.1 hnot)

/-! ### The checks of a request -/

/-- **A request passes at a start**: the responsible is available, and the users are
free. -/
def Passes (db : Database) (responsibilityId : String) (ids : List String)
    (excludeId : Option String) (duration : ℤ) (now t : Instant) : Prop :=
  assertSlot db responsibilityId (timeAt duration t) now = .ok () ∧
    assertAppointmentFree db ids (timeAt duration t) excludeId = .ok ()

theorem assertSlot_ok_iff {id : String} {time : Span Instant} {u : Unit} :
    assertSlot db id time now = .ok u ↔ now < time.start ∧ (newDate time.stop).isSome ∧
      (∃ w ∈ db.admissionsWindows.rows, (w.responsibilityId = id ∧ w.active ∧
        w.span.Overlaps time) ∧ w.kind = .AVAILABLE ∧ w.span.Covers time) ∧
      ∀ w ∈ db.admissionsWindows.rows, w.responsibilityId = id → w.active →
        w.span.Overlaps time → w.kind ≠ .BLOCKED := by
  simp only [assertSlot, ok_iff, Table.mem_findMany]
  constructor
  · rintro ⟨-, hnow, stop, hstop, ⟨w, ⟨hw, hshown⟩, hcovers⟩, hblocked⟩
    refine ⟨hnow, by simp [hstop], ⟨w, hw, hshown, hcovers⟩, ?_⟩
    exact fun w hw hid hactive hover => hblocked w ⟨hw, hid, hactive, hover⟩
  · rintro ⟨hnow, hdate, ⟨w, hw, hshown, hcovers⟩, hblocked⟩
    obtain ⟨stop, hstop⟩ := Option.isSome_iff_exists.mp hdate
    refine ⟨(), hnow, stop, hstop, ⟨w, ⟨hw, hshown⟩, hcovers⟩, ?_⟩
    rintro w ⟨hw, hid, hactive, hover⟩
    exact hblocked w hw hid hactive hover

/-- What is occupied within a range: what engages some users or blocks their
time. -/
theorem occupations_ok {ids : List String} {excludeId : Option String}
    (h : occupations db ids range excludeId = .ok occupied) {time : Span Instant}
    (hrange : range.Covers time) :
    (∀ u ∈ ids, (readUuid u).isSome) ∧ ((∀ item ∈ occupied, ¬item.Overlaps time) ↔
      Free db.agenda ids time excludeId) := by
  simp only [occupations, ok_iff] at h
  obtain ⟨users, husers, rfl⟩ := h
  refine ⟨fun u hu => ?_, ?_⟩
  · obtain ⟨user, -, hread⟩ := exists_of_mapM husers hu
    simp [demand_ok_iff.mp hread]
  -- what overlaps the time overlaps the range
  have hwithin : ∀ {s : Span Instant}, s.Overlaps time → s.Overlaps range := fun hover =>
    (hrange.overlaps hover.symm).symm
  simp only [List.mem_append, appointmentOccupations, List.mem_map, Table.mem_findMany]
  constructor
  · intro hnone
    constructor
    · intro a ha hne hocc hover
      exact hnone a.span (.inl ⟨a, ⟨ha, hocc, hwithin hover, hne⟩, rfl⟩) hover
    · intro w hw hactive hkind r hr hid hractive hread hover
      refine hnone w.span (.inr ⟨w, ⟨hw, ⟨hactive, hkind, r, hr, hid, hractive, ?_⟩, ?_⟩, rfl⟩) hover
      · exact (mem_readUsers husers).mpr hread
      · exact hwithin hover
  · rintro hfree item (⟨a, ⟨ha, hocc, -, hne⟩, rfl⟩ | ⟨w, ⟨hw, hblocks, -⟩, rfl⟩)
    · exact hfree.appointments a ha hne hocc
    · obtain ⟨hactive, hkind, r, hr, hid, hractive, hmem⟩ := hblocks
      exact hfree.windows w hw hactive hkind r hr hid hractive ((mem_readUsers husers).mp hmem)

theorem newDate_isSome {t : ℤ} (ht : Js.FourDigitYear t) : (newDate t).isSome := by
  have hlo := (Js.yearStart_mono ht.1).trans (Js.yearOf_spec (Js.dayNumber t)).1
  have hhi := (Js.yearOf_spec (Js.dayNumber t)).2.trans_le
    (Js.yearStart_mono (show _ ≤ (10000 : ℤ) by have := ht.2; omega))
  have hfirst : Js.yearStart 0 = 0 := by decide
  have hlast : Js.yearStart 10000 = 3652425 := by decide
  rw [hfirst] at hlo
  rw [hlast] at hhi
  have hbounds : -8640000000000000 ≤ t ∧ t ≤ 8640000000000000 := by
    simp only [Js.dayNumber] at hlo hhi
    constructor <;> omega
  rw [newDate, if_pos hbounds]
  rfl

/-- **What is offered passes, and what passes inside a window is offered.** -/
theorem slotsOf_agree {responsibilityId : String} {ids : List String} {excludeId : Option String}
    {items : List Slot} (hstart : Js.FourDigitYear range.start)
    (hstop : Js.FourDigitYear range.stop) (hdur : 0 < duration)
    (h : slotsOf db responsibilityId ids range duration excludeId now = .ok items) :
    (∀ s ∈ items, ∃ t, s = slotAt duration t ∧
      Passes db responsibilityId ids excludeId duration now t) ∧
    (∀ w ∈ db.admissionsWindows.rows, w.responsibilityId = responsibilityId → w.active →
      w.kind = .AVAILABLE → ∀ n : ℕ, w.span.Covers (timeAt duration (w.startsAt + n * quarter)) →
        range.Covers (timeAt duration (w.startsAt + n * quarter)) →
        Passes db responsibilityId ids excludeId duration now (w.startsAt + n * quarter) →
          slotAt duration (w.startsAt + n * quarter) ∈ items) ∧
    items.Pairwise fun a b => a.startsAt < b.startsAt := by
  simp only [slotsOf, ok_iff] at h
  obtain ⟨occupied, hoccupied, rfl⟩ := h
  have hlen : 0 < duration * 60000 := by omega
  refine ⟨fun s hs => ?_, fun w hw hid hactive hkind n hwindow hrange hpasses => ?_,
    freeSlots_sorted⟩
  · obtain ⟨t, ⟨⟨span, hspan, hstarts⟩, hfree⟩, rfl⟩ :=
      (mem_freeSlots hstart hstop hdur.le).mp hs
    obtain ⟨w, hw, rfl⟩ := List.mem_map.mp hspan
    simp only [List.mem_filter, Table.mem_findMany, decide_eq_true_eq] at hw
    obtain ⟨⟨hw, hid, hactive, -⟩, hkind⟩ := hw
    obtain ⟨-, hwindow, hrange, hnow⟩ := mem_startsOf.mp hstarts
    have hlasts : (timeAt duration t).start < (timeAt duration t).stop :=
      lt_add_of_pos_right t hlen
    have hdate : (newDate (timeAt duration t).stop).isSome :=
      newDate_isSome (hstart.between hstop (hrange.1.trans hlasts.le) hrange.2)
    obtain ⟨hreadable, hiff⟩ := occupations_ok hoccupied hrange
    refine ⟨t, rfl, ?_, ?_⟩
    · refine assertSlot_ok_iff.mpr ⟨hnow, hdate, ⟨w, hw, ⟨hid, hactive, ?_⟩, hkind, hwindow⟩, ?_⟩
      · exact hwindow.overlaps_self hlasts
      · intro w' hw' hid' hactive' hover hkind'
        -- a blocked window of the responsibility is among what is occupied
        refine hfree w'.span (List.mem_append_left _ (List.mem_map.mpr ⟨w', ?_, rfl⟩)) hover
        simp only [List.mem_filter, Table.mem_findMany, decide_eq_true_eq]
        exact ⟨⟨hw', hid', hactive', (hrange.overlaps hover.symm).symm⟩, hkind'⟩
    · refine assertAppointmentFree_ok_iff.mpr ⟨hiff.mp fun item hitem => ?_, hdate, hreadable⟩
      exact hfree item (List.mem_append_right _ hitem)
  · obtain ⟨hslot, hfree⟩ := hpasses
    obtain ⟨hnow, -, -, hblocked⟩ := assertSlot_ok_iff.mp hslot
    obtain ⟨-, hiff⟩ := occupations_ok hoccupied hrange
    have hlasts : (timeAt duration (w.startsAt + n * quarter)).start <
        (timeAt duration (w.startsAt + n * quarter)).stop := lt_add_of_pos_right _ hlen
    have hshown : w.span.Overlaps range :=
      (hrange.overlaps (hwindow.overlaps_self hlasts).symm).symm
    refine (mem_freeSlots hstart hstop hdur.le).mpr ⟨_, ⟨⟨w.span, ?_, ?_⟩, ?_⟩, rfl⟩
    · simp only [List.mem_map, List.mem_filter, Table.mem_findMany, decide_eq_true_eq]
      exact ⟨w, ⟨⟨hw, hid, hactive, hshown⟩, hkind⟩, rfl⟩
    · exact mem_startsOf.mpr ⟨⟨n, rfl⟩, hwindow, hrange, hnow⟩
    · intro item hitem
      rcases List.mem_append.mp hitem with hitem | hitem
      · obtain ⟨w', hw', rfl⟩ := List.mem_map.mp hitem
        simp only [List.mem_filter, Table.mem_findMany, decide_eq_true_eq] at hw'
        obtain ⟨⟨hw', hid', hactive', -⟩, hkind'⟩ := hw'
        exact fun hover => hblocked w' hw' hid' hactive' hover hkind'
      · exact hiff.mpr (assertAppointmentFree_ok_iff.mp hfree).1 item hitem

/-- **The slots that are offered agree with what a request accepts**: an offered
slot passes the two checks of a request without participants made at once; a point of
the grid of a window whose slot lies inside this window and inside the range is
offered when it passes them; and the slots are sorted, each once. -/
theorem slots_agree {leadId responsibilityId start stop : String} {principal : Principal}
    {items : List Slot} (hstart : ∀ t, rt.parseDate start = some t → Js.FourDigitYear t)
    (hstop : ∀ t, rt.parseDate stop = some t → Js.FourDigitYear t)
    (h : slots rt auth db leadId responsibilityId start stop duration principal none now =
      .ok items) :
    ∃ actor profile campus range, currentActor auth db principal = .ok actor ∧
      interval rt start stop 7 = .ok range ∧ (∃ readId, readUuid responsibilityId = some readId ∧
        activeProfile rt auth db readId (some campus) = .ok profile) ∧
      (∀ s ∈ items, ∃ t, s = slotAt duration t ∧
        Passes db profile.row.id [profile.row.userId, actor.userId] none duration now t) ∧
      (∀ w ∈ db.admissionsWindows.rows, w.responsibilityId = profile.row.id → w.active →
        w.kind = .AVAILABLE → ∀ n : ℕ, w.span.Covers (timeAt duration (w.startsAt + n * quarter)) →
          range.Covers (timeAt duration (w.startsAt + n * quarter)) →
          Passes db profile.row.id [profile.row.userId, actor.userId] none duration now
              (w.startsAt + n * quarter) → slotAt duration (w.startsAt + n * quarter) ∈ items) ∧
      items.Pairwise fun a b => a.startsAt < b.startsAt := by
  simp only [slots, assertUuid, assertDuration, ok_iff] at h
  obtain ⟨_, -, readId, hread, -, hdur, range, hrange, _, -, actor, hactor, existing, hexisting,
    campus, -, profile, hprofile, h⟩ := h
  cases hexisting
  have hyears : Js.FourDigitYear range.start ∧ Js.FourDigitYear range.stop := by
    simp only [interval, instant, ok_iff] at hrange
    obtain ⟨first, ⟨-, -, hfirst⟩, last, ⟨-, -, hlast⟩, -, -, rfl⟩ := hrange
    exact ⟨hstart first hfirst, hstop last hlast⟩
  have hpositive : 0 < duration := by omega
  obtain ⟨hoffered, hcomplete, hsorted⟩ := slotsOf_agree hyears.1 hyears.2 hpositive h
  exact ⟨actor, profile, campus.code, range, hactor, hrange, ⟨readId, hread, hprofile⟩, hoffered,
    hcomplete, hsorted⟩

end Admissions

/-! ### Starts that pass and are not offered -/

namespace Sample

def twoWindows : Database :=
  { campus with
    admissionsResponsibilities := .ofRows [{
      id := "ffffffff-0000-4000-8000-000000000001", userId := responsible, campus := "rabat" }]
    admissionsWindows := .ofRows [{
        id := "ffffffff-0000-4000-8000-000000000002"
        responsibilityId := "ffffffff-0000-4000-8000-000000000001", kind := .AVAILABLE
        startsAt := 1894006800000, endsAt := 1894011000000 }, {
        id := "ffffffff-0000-4000-8000-000000000003"
        responsibilityId := "ffffffff-0000-4000-8000-000000000001", kind := .AVAILABLE
        startsAt := 1894009800000, endsAt := 1894021200000 }] }

/-- The slots of half an hour that are asked for from 09:00 to 12:00. -/
def asked : Outcome (List Admissions.Slot) :=
  Admissions.slots morning administrator twoWindows lead.id "ffffffff-0000-4000-8000-000000000001"
    "2030-01-07T09:00:00Z" "2030-01-07T12:00:00Z" 30 admin none 1894000000000

/-- The slots that are offered: 09:00, 09:15 and 09:30 in the first window, and every
quarter of an hour from 09:50 to 11:20 in the second. -/
def offered : List Admissions.Slot :=
  ([1894006800000, 1894007700000, 1894008600000, 1894009800000, 1894010700000, 1894011600000,
    1894012500000, 1894013400000, 1894014300000, 1894015200000] : List Instant).map
      (Admissions.slotAt 30)

theorem asked_eq : asked = .ok offered := by decide +kernel

/-- A request for half an hour passes at a start. -/
def Passes (t : Instant) : Prop :=
  Admissions.Passes twoWindows "ffffffff-0000-4000-8000-000000000001" [responsible, admin.userId]
    none 30 1894000000000 t
deriving Decidable

end Sample

namespace Admissions

/-- **Two starts pass and are not offered**: 10:00 is on the grid of the first window
and its slot inside the second only, 11:50 is on the grid of the second and its slot
ends after the range. -/
theorem accepted_not_offered :
    Sample.asked = .ok Sample.offered ∧ (Sample.Passes (1894006800000 + 4 * quarter) ∧
        slotAt 30 (1894006800000 + 4 * quarter) ∉ Sample.offered) ∧
      Sample.Passes (1894009800000 + 8 * quarter) ∧
        slotAt 30 (1894009800000 + 8 * quarter) ∉ Sample.offered := by
  refine ⟨Sample.asked_eq, ⟨by decide +kernel, by decide +kernel⟩, by decide +kernel, ?_⟩
  decide +kernel

theorem slots_agree_of_twoWindows :
    ∃ actor profile campus range,
      currentActor Sample.administrator Sample.twoWindows Sample.admin = .ok actor ∧
      interval Sample.morning "2030-01-07T09:00:00Z" "2030-01-07T12:00:00Z" 7 = .ok range ∧
      (∃ readId, readUuid "ffffffff-0000-4000-8000-000000000001" = some readId ∧
        activeProfile Sample.morning Sample.administrator Sample.twoWindows readId (some campus) =
          .ok profile) ∧ (∀ s ∈ Sample.offered, ∃ t, s = slotAt 30 t ∧
        Passes Sample.twoWindows profile.row.id [profile.row.userId, actor.userId] none 30
          1894000000000 t) ∧
      (∀ w ∈ Sample.twoWindows.admissionsWindows.rows, w.responsibilityId = profile.row.id →
        w.active → w.kind = .AVAILABLE → ∀ n : ℕ,
          w.span.Covers (timeAt 30 (w.startsAt + n * quarter)) →
          range.Covers (timeAt 30 (w.startsAt + n * quarter)) →
          Passes Sample.twoWindows profile.row.id [profile.row.userId, actor.userId] none 30
              1894000000000 (w.startsAt + n * quarter) →
            slotAt 30 (w.startsAt + n * quarter) ∈ Sample.offered) ∧
      Sample.offered.Pairwise fun a b => a.startsAt < b.startsAt := by
  have hyear : ∀ t ∈ ([1894006800000, 1894017600000] : List ℤ), Js.FourDigitYear t := by
    simp only [List.mem_cons, List.not_mem_nil, or_false]
    rintro t (rfl | rfl) <;> exact ⟨by decide, by decide⟩
  refine slots_agree (fun t ht => hyear t ?_) (fun t ht => hyear t ?_) Sample.asked_eq
  · cases ht
    exact List.mem_cons_self
  · cases ht
    exact List.mem_cons_of_mem _ List.mem_cons_self

end Admissions

end CrmYnov
