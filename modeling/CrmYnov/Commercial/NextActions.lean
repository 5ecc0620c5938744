import CrmYnov.Agenda.Bookings
import CrmYnov.Agenda.Meetings
import CrmYnov.Commercial.Runs

/-!
# The next action of a closed lead

Closing a lead clears its next action and cancels what is open on it, and the
follow-ups plan nothing on a closed lead. The agenda does not look at the status of
a lead: an appointment that is created, moved or reported on gives its lead a next
action, closed or not.

So the two are put on one machine (`CrmYnov.Commercial.leadMachine`). A closed lead
has no next action in every run whose calls of the agenda plan nothing on a lead
that is closed (`CrmYnov.Commercial.idle_throughout`), and one that is accepted and
does leaves a closed lead with a next action (`CrmYnov.Commercial.idle_iff_spares`).
-/

namespace CrmYnov.Commercial

open Leads FollowUp Table
open Appointments (AppointmentState)

/-! ### Leads at rest -/

/-- A closed lead has no next action. -/
def Idle (leads : Table LeadRow LeadRow.keys) : Prop :=
  ∀ l ∈ leads.rows, l.status.Closed → l.nextActionAt = none

/-- A closed lead has no next action and no open follow-up. -/
structure AtRest (c : Commerce) : Prop where
  idle : Idle c.leads
  free : ClosedFree (fun _ => False) c

variable {rt : Runtime} {auth : Admissions.Authority} {db db' : Database}

/-- What is written of leads, when a closed one it leaves was closed and keeps its next
action, or has none. -/
theorem Idle.of_updateMany {leads : Table LeadRow LeadRow.keys} (h : Idle leads)
    {p : LeadRow → Prop} [DecidablePred p] {f : LeadRow → LeadRow} (hf : ∀ l, (f l).keys = l.keys)
    (hclosed : ∀ l ∈ leads.rows, p l → (f l).status.Closed →
      l.status.Closed ∧ Unplanned l (f l) ∨ (f l).nextActionAt = none) :
    Idle (leads.updateMany p f hf) := by
  intro x hx hstatus
  obtain ⟨l, hl, rfl⟩ := List.mem_map.mp hx
  by_cases hp : p l
  · rw [if_pos hp] at hstatus ⊢
    rcases hclosed l hl hp hstatus with ⟨hwas, hnext | hnone⟩ | hnone
    · exact hnext.trans (h l hl hwas)
    · exact hnone
    · exact hnone
  · rw [if_neg hp] at hstatus ⊢
    exact h l hl hstatus

/-- **A move keeps the leads at rest.** -/
theorem Move.atRest {c c' : Commerce} (h : Move rt c c') (hc : AtRest c) : AtRest c' := by
  refine ⟨?_, h.closedFree hc.free⟩
  cases h with
  | advance | plan | audit | notify | remind | repair => exact hc.idle
  | write p hf _ hopen =>
    exact hc.idle.of_updateMany hf fun l hl hp hclosed => .inl (hopen l hl hp hclosed)
  | settle _ _ q hg hr hopen _ hlater hlead =>
    refine hc.idle.of_updateMany hg fun l hl hq hclosed => ?_
    -- the follow-up is open, so that its lead is not closed
    rw [(hlater l hl hq).2] at hclosed
    rcases hc.free l hl hclosed with hspared | hnone
    · exact absurd hspared id
    · exact absurd ⟨(hlead l hq).symm, hopen⟩ (hnone _ hr)
  | close p hf _ _ hnext _ _ _ =>
    exact hc.idle.of_updateMany hf fun l hl hp _ => .inr (hnext l hl hp)

/-! ### Meetings -/

theorem later_touch (m : Meeting) (l : LeadRow) : Later l (m.touch l) :=
  ⟨rfl, Nat.lt_succ_self _, fun _ => rfl⟩

theorem attend_grows (m : Meeting) (leads : Table LeadRow LeadRow.keys) :
    leads.Grows Later (m.attend leads) :=
  Grows.of_updateMany m.keys_touch fun l _ _ => later_touch m l

/-- The next action of a lead after a meeting that gives none is the one it had, or
none. -/
theorem unplanned_touch {m : Meeting} (h : m.nextActionAt = none) (l : LeadRow) :
    Unplanned l (m.touch l) := by
  have hnext : (m.touch l).nextActionAt = l.nextActionAt.filter fun t => t ∉ m.clears := by
    rw [Meeting.touch, Meeting.nextAction, h]
  cases hcur : l.nextActionAt with
  | none => exact .inr (by rw [hnext, hcur]; rfl)
  | some t =>
    by_cases ht : t ∈ m.clears
    · exact .inr (by simp [hnext, hcur, ht])
    · exact .inl (by simp [hnext, hcur, ht])

/-- **A meeting leaves the closed leads idle** exactly when it gives its lead no next
action, or its lead is open. -/
theorem idle_attend_iff {m : Meeting} {leads : Table LeadRow LeadRow.keys} (h : Idle leads) :
    Idle (m.attend leads) ↔
      ∀ l ∈ leads.rows, l.status.Closed → ¬(l.id = m.leadId ∧ m.nextActionAt.isSome = true) := by
  constructor
  · rintro hidle l hl hclosed ⟨hid, hsome⟩
    obtain ⟨t, ht⟩ := Option.isSome_iff_exists.mp hsome
    have hmem : m.touch l ∈ (m.attend leads).rows :=
      mem_updateMany.mpr ⟨l, hl, by rw [if_pos hid]⟩
    have hnext : (m.touch l).nextActionAt = some t := by rw [Meeting.touch, Meeting.nextAction, ht]
    rw [hidle _ hmem hclosed] at hnext
    cases hnext
  · intro hspared
    refine h.of_updateMany m.keys_touch fun l hl hp hclosed => ?_
    have hnone : m.nextActionAt = none := by
      by_contra hsome
      exact hspared l hl hclosed ⟨hp, Option.isSome_iff_ne_none.mpr hsome⟩
    exact .inl ⟨hclosed, unplanned_touch hnone l⟩

theorem closedFree_attend {spared : String → Prop} {c : Commerce} (h : ClosedFree spared c)
    (m : Meeting) : ClosedFree spared { c with leads := m.attend c.leads } :=
  h.of_write m.keys_touch (fun l _ _ => later_touch m l) fun _ _ _ hclosed => hclosed

/-! ### The two on one machine -/

/-- A call of the follow-ups and of the closures, or of the agenda. -/
inductive LeadCall
  | commercial (call : CommercialCall)
  | agenda (call : AgendaCall)

inductive LeadAnswer
  | commercial (answer : CommercialAnswer)
  | agenda (answer : AgendaAnswer)

namespace LeadCall

variable (rt auth) in
def perform (seen : ℕ → Database) (db : Database) : LeadCall → Outcome (LeadAnswer × Database)
  | commercial call => (Commercial.perform rt seen db call).map (Prod.map .commercial id)
  | agenda call => (call.perform rt auth db).map (Prod.map .agenda id)

/-- **The call spares the closed leads**: it plans nothing on a lead that is closed. -/
def Spares (call : LeadCall) (db : Database) : Prop :=
  match call with
  | commercial _ => True
  | agenda call => ∀ l ∈ db.leads.rows, l.status.Closed → ¬call.PlansOn db l.id

end LeadCall

variable (rt auth) in
/-- The follow-ups, the closures and the agenda over their database: a call that throws
is rolled back. -/
def leadMachine : Machine (Timeline Database) LeadCall (Outcome LeadAnswer) :=
  Timeline.machine (LeadCall.perform rt auth)

theorem map_ok_iff {α β : Type} {answer : α → β} {x : Outcome (α × Database)} {w : β} :
    x.map (Prod.map answer id) = .ok (w, db') ↔ ∃ a, x = .ok (a, db') ∧ answer a = w := by
  rcases x with e | ⟨a, db⟩
  · simp [Except.map]
  · simp [Except.map, and_comm]

/-- An earlier state and a later one. -/
structure Behind (db db' : Database) : Prop where
  leads : db.leads.Grows Later db'.leads
  followUps : db.leadFollowUps.Grows Advance db'.leadFollowUps

theorem Behind.refl (db : Database) : Behind db db := ⟨Grows.refl _, Grows.refl _⟩

theorem Behind.trans (db db' db'' : Database) (h : Behind db db') (h' : Behind db' db'') :
    Behind db db'' where
  leads := leadsGrow_trans h.leads h'.leads
  followUps := followUpsGrow_trans h.followUps h'.followUps

/-- **A call of the agenda that returns leaves the closed leads idle exactly when it
plans nothing on a lead that is closed.** -/
theorem idle_iff_spares {call : AgendaCall} {answer : AgendaAnswer} (hdb : Idle db.leads)
    (h : call.perform rt auth db = .ok (answer, db')) :
    Idle db'.leads ↔ (LeadCall.agenda call).Spares db := by
  rcases perform_met h with ⟨hfiles, hnone⟩ | ⟨m, -, hfiles, hplans⟩
  · have hleads : db'.leads = db.leads := congrArg Prod.fst hfiles
    rw [hleads]
    exact ⟨fun _ l _ _ => hnone l.id, fun _ => hdb⟩
  · have hleads : db'.leads = m.attend db.leads := congrArg Prod.fst hfiles
    rw [hleads, idle_attend_iff hdb]
    exact forall₃_congr fun l _ _ => not_congr (hplans l.id).symm

/-- **A call that spares the closed leads keeps them at rest**, whatever states it has
read. -/
theorem LeadCall.perform_keeps (seen : ℕ → Database) (db : Database) (call : LeadCall)
    (w : LeadAnswer) (db' : Database) (hdb : AtRest (ofDatabase db))
    (hseen : ∀ k, AtRest (ofDatabase (seen k)) ∧ Behind (seen k) db) (hspares : call.Spares db)
    (h : call.perform rt auth seen db = .ok (w, db')) :
    AtRest (ofDatabase db') ∧ Behind db db' := by
  cases call with
  | commercial call =>
    obtain ⟨_, h, -⟩ := map_ok_iff.mp h
    have hmoves := perform_moves (fun k => (hseen k).2.leads) (fun k => (hseen k).2.followUps) h
    exact ⟨hmoves.preserve (fun _ _ => Move.atRest) hdb, hmoves.leads_grow, hmoves.followUps_grow⟩
  | agenda call =>
    obtain ⟨_, h, -⟩ := map_ok_iff.mp h
    have hidle : Idle db'.leads := (idle_iff_spares hdb.idle h).mpr hspares
    rcases perform_met h with ⟨hfiles, -⟩ | ⟨m, -, hfiles, -⟩
    · have hleads : db'.leads = db.leads := congrArg Prod.fst hfiles
      have hfollowUps : db'.leadFollowUps = db.leadFollowUps := congrArg Prod.snd hfiles
      have hfree := hdb.free
      simp only [ClosedFree, ofDatabase, ← hleads, ← hfollowUps] at hfree
      refine ⟨⟨hidle, hfree⟩, ?_, ?_⟩
      · exact hleads ▸ Grows.refl _
      · exact hfollowUps ▸ Grows.refl _
    · have hleads : db'.leads = m.attend db.leads := congrArg Prod.fst hfiles
      have hfollowUps : db'.leadFollowUps = db.leadFollowUps := congrArg Prod.snd hfiles
      have hfree := closedFree_attend hdb.free m
      simp only [ClosedFree, ofDatabase, ← hleads, ← hfollowUps] at hfree
      refine ⟨⟨hidle, hfree⟩, ?_, ?_⟩
      · exact hleads ▸ attend_grows m db.leads
      · exact hfollowUps ▸ Grows.refl _

/-- **A closed lead has no next action**, in every state of every run whose calls of the
agenda plan nothing on a lead that is closed, from a state where a closed lead has no
next action and no open follow-up. -/
theorem idle_throughout (hidle : Idle db.leads) (hfree : ∀ l ∈ db.leads.rows, l.status.Closed →
      ∀ f ∈ db.leadFollowUps.rows, ¬(f.leadId = l.id ∧ f.state.Open)) {calls : List LeadCall}
    (hmeets : (leadMachine rt auth).Meets (fun t call => call.Spares t.now) ⟨db, []⟩ calls) :
    (leadMachine rt auth).Throughout
      (fun t => ∀ l ∈ t.now.leads.rows, l.status.Closed → l.nextActionAt = none) ⟨db, []⟩ calls := by
  have hstart : AtRest (ofDatabase db) :=
    ⟨hidle, fun l hl hclosed => .inr (hfree l hl hclosed)⟩
  have hheld := Timeline.throughout_held_of_meets Behind.refl Behind.trans
    (@LeadCall.perform_keeps rt auth) (Timeline.held_start hstart) hmeets
  exact fun pre hpre => (hheld pre hpre).now.idle

namespace Sample

/-- Someone asks for the lead to be closed. -/
def wish : Closure.LeadClosureRequestRow where
  id := "99999999-1111-4111-8111-111111111111"
  leadId := CrmYnov.Sample.lead.id
  target := .CLOSED_LOST
  reason := "NOT_INTERESTED"
  comment := "no answer"
  evidence := ["two calls"]
  requesterId := "adviser"

/-- The lead, and the wish to close it. -/
def asked : Database where
  leads := .ofRows [CrmYnov.Sample.lead]
  leadClosureRequests := .ofRows [wish]

def manager : Principal :=
  ⟨"bbbbbbbb-0000-4000-8000-000000000001", [.MANAGER], [.GLOBAL], "session"⟩

def meet : LeadCall := .agenda (CrmYnov.Sample.creation "1" "dddddddd-0000-4000-8000-000000000000")

def close : LeadCall :=
  .commercial (.decideClosure ⟨0, 0⟩ wish.id
    { decision := "APPROVE", reason := "agreed", expectedVersion := some 1 } manager "correlation"
    { activityId := "closure-activity", outboxId := "closure-outbox", now := 1894000000000
      storedAt := 1894000000000, requestId := "", cancelId := id })

def move (state : String) (reason : Option String) : LeadCall :=
  .agenda (.transition "cccccccc-0000-4000-8000-000000000001"
    { state := some state, reason, expectedVersion := some 1, idempotencyKey := some "transition-1" }
    manager "correlation" ⟨1894000000000, "", "event-2", "activity-2"⟩)

end Sample

open Commercial.Sample

/-- **A closed lead is given a next action** by the appointment that is confirmed after
the closure, which had cleared it. -/
theorem planned_after_closure :
    Idle asked.leads ∧ (∀ l ∈ asked.leads.rows, l.status.Closed →
        ∀ f ∈ asked.leadFollowUps.rows, ¬(f.leadId = l.id ∧ f.state.Open)) ∧
      ¬(leadMachine CrmYnov.Sample.runtime CrmYnov.Sample.nobody).Throughout
        (fun t => ∀ l ∈ t.now.leads.rows, l.status.Closed → l.nextActionAt = none)
        ⟨asked, []⟩ [meet, close, move "CONFIRME" none] := by
  have hopen : ∀ l ∈ asked.leads.rows, ¬l.status.Closed := by decide +kernel
  refine ⟨fun l hl hclosed => absurd hclosed (hopen l hl),
    fun l hl hclosed => absurd hclosed (hopen l hl), fun hidle => ?_⟩
  have hplanned : ∃ l ∈ ((leadMachine CrmYnov.Sample.runtime CrmYnov.Sample.nobody).run
      ⟨asked, []⟩ [meet, close, move "CONFIRME" none]).now.leads.rows,
      l.status.Closed ∧ l.nextActionAt = some 1894010400000 := by decide +kernel
  obtain ⟨l, hl, hclosed, hnext⟩ := hplanned
  have hnone := hidle.last l hl hclosed
  rw [hnone] at hnext
  cases hnext

/-- When the appointment is cancelled instead, the closed lead is left without next
action. -/
theorem idle_throughout_of_cancelled :
    (leadMachine CrmYnov.Sample.runtime CrmYnov.Sample.nobody).Throughout
      (fun t => ∀ l ∈ t.now.leads.rows, l.status.Closed → l.nextActionAt = none)
      ⟨asked, []⟩ [meet, close, move "ANNULE" (some "closed")] := by
  have hopen : ∀ l ∈ asked.leads.rows, ¬l.status.Closed := by decide +kernel
  refine idle_throughout (fun l hl hclosed => absurd hclosed (hopen l hl))
    (fun l hl hclosed => absurd hclosed (hopen l hl))
    ⟨fun l hl hclosed => absurd hclosed (hopen l hl), trivial, fun l _ _ hplans => ?_, trivial⟩
  obtain ⟨-, -, s, hs, htext⟩ := hplans
  have htext : AppointmentState.text .ANNULE = s.text := Option.some.inj htext
  rw [← AppointmentState.text_inj htext] at hs
  exact absurd hs (by decide)

end CrmYnov.Commercial
