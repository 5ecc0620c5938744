import CrmYnov.Base.Timeline
import CrmYnov.Commercial.Closures

/-!
# The calls are moves

The calls that touch leads and follow-ups, as one machine. Each of them acts on the
present state, and has read what it needs in states of the past. When it returns, what
it has done is a number of moves (`CrmYnov.Commercial.perform_moves`).
-/

namespace CrmYnov.Commercial

open Checked Leads FollowUp

variable {rt : Runtime} {db db' : Database}

/-! ### Reminders -/

variable {marked : Marked}

theorem notifyDue_ok {current : LeadFollowUpRow} {key : String} {due : ℕ}
    (h : notifyDue rt db current key due = .ok (marked, db')) :
    ∃ t, (db.internalNotifications.create (reminder rt current key) = some t ∨
        (db.internalNotifications.findUnique key).isSome ∧ t = db.internalNotifications) ∧
      { db with internalNotifications := t } = db' := by
  simp only [notifyDue, ok_iff, Prod.exists] at h
  obtain ⟨created, db₁, hcreate, -, rfl⟩ := h
  rcases createNotification_ok hcreate with ⟨-, hfound, rfl⟩ | ⟨-, -, t, hrow, rfl⟩
  · exact ⟨_, .inr ⟨hfound, rfl⟩, rfl⟩
  · exact ⟨t, .inl hrow, rfl⟩

/-- The key of a follow-up that is scheduled is the one of its next version; the key of
another is one it has an event under. -/
theorem dueNotificationKey_ok {item : LeadFollowUpRow} {key : String}
    (h : dueNotificationKey rt db item = .ok key) :
    (item.state = .SCHEDULED → key = occurrenceKey item.id (item.version + 1)) ∧
      (item.state ≠ .SCHEDULED → (db.auditEvents.findUnique key).isSome ∧
        (key = legacyKey item.id ∨ key = occurrenceKey item.id item.version)) := by
  simp only [dueNotificationKey, bind_ok_iff] at h
  obtain ⟨-, -, h⟩ := h
  split at h
  · rename_i hsched
    cases h
    exact ⟨fun _ => rfl, fun hne => absurd hsched hne⟩
  · rename_i hsched
    refine ⟨fun heq => absurd heq hsched, fun _ => ?_⟩
    split at h
    · rename_i hlegacy
      cases h
      obtain ⟨-, a, ha, -⟩ := hlegacy
      exact ⟨Option.isSome_iff_exists.mpr ⟨a, ha⟩, .inl rfl⟩
    · simp only [ok_iff] at h
      obtain ⟨-, ⟨a, ha, -⟩, rfl⟩ := h
      exact ⟨Option.isSome_iff_exists.mpr ⟨a, ha⟩, .inr rfl⟩

theorem remind_moves {id : String} (h : remind rt db id = .ok (marked, db')) :
    Moves rt (ofDatabase db) (ofDatabase db') := by
  simp only [remind, ok_iff] at h
  obtain ⟨previous, hprev, key, hkey, h⟩ := h
  obtain ⟨hmem, hid⟩ := Table.findUnique_eq_some.mp hprev
  obtain ⟨hsched, hother⟩ := dueNotificationKey_ok hkey
  split at h
  · rename_i hstate
    split at h
    · simp only [ok_iff, Database.audit_ok_iff] at h
      obtain ⟨current, hcur, _, ⟨audits, haudit, rfl⟩, h⟩ := h
      obtain ⟨t, hnotify, rfl⟩ := notifyDue_ok h
      -- the row that was marked is the one that was found
      rw [Table.findUnique_updateMany, hprev, Option.map_some,
        if_pos (show Waiting previous previous from ⟨rfl, hstate, rfl⟩)] at hcur
      cases hcur
      exact (Move.remind (c := ofDatabase db) hmem hstate (hsched hstate) haudit hnotify).moves
    · cases h
      exact Moves.refl _
  · rename_i hstate
    obtain ⟨t, hnotify, rfl⟩ := notifyDue_ok h
    rcases hnotify with hcreate | ⟨-, rfl⟩
    · exact (Move.repair (c := ofDatabase db) hmem hstate (hother hstate).2 (hother hstate).1
        hcreate).moves
    · exact Moves.refl _

theorem remindAll_moves {ids : List String} (h : remindAll rt db ids = .ok (marked, db')) :
    Moves rt (ofDatabase db) (ofDatabase db') := by
  induction ids generalizing db marked with
  | nil =>
    cases h
    exact Moves.refl _
  | cons id ids ih =>
    simp only [remindAll, ok_iff, Prod.exists] at h
    obtain ⟨first, db₁, hfirst, rest, db₂, hrest, -, rfl⟩ := h
    exact (remind_moves hfirst).trans (ih hrest)

theorem markDue_moves {snapshot : Database} {now : Instant} {limit : ℤ} {locked : List String}
    (h : FollowUp.markDue rt snapshot db now limit locked = .ok (marked, db')) :
    Moves rt (ofDatabase db) (ofDatabase db') := by
  simp only [FollowUp.markDue, bind_ok_iff] at h
  obtain ⟨-, -, h⟩ := h
  exact remindAll_moves h

/-! ### The machine -/

/-- How long ago the states were that a follow-up request has read. -/
structure Reading where
  (items leads receipts : ℕ)

/-- What a request has read, on a timeline. -/
def Reading.view (r : Reading) (seen : ℕ → Database) : FollowUp.View :=
  ⟨seen r.items, seen r.leads, seen r.receipts⟩

/-- How long ago the states were that a closure call has read. -/
structure ClosureReading where
  (requests leads : ℕ)

/-- What a closure call has read, on a timeline. -/
def ClosureReading.view (r : ClosureReading) (seen : ℕ → Database) : Closure.View :=
  ⟨seen r.requests, seen r.leads⟩

/-- A call that touches leads and follow-ups, or the requests to close a lead. -/
inductive CommercialCall
  | schedule (r : Reading) (leadId : String) (input : ScheduleInput) (principal : Principal)
    (correlationId : String) (d : Draw)
  | decide (r : Reading) (id : String) (input : FollowUpDecisionInput) (principal : Principal)
    (correlationId : String) (d : CompletionDraw)
  | interact (leadId : String) (input : ManualInteractionInput) (principal : Principal)
    (correlationId : String) (d : InteractionDraw)
  | changeStatus (leads : ℕ) (leadId : String) (input : CommercialStatusInput)
    (principal : Principal) (correlationId : String) (o : Occasion)
  | markDue (snapshot : ℕ) (now : Instant) (limit : ℤ) (locked : List String)
  | reassign (call : Assignment.ReassignmentCall)
  | requestClosure (r : ClosureReading) (leadId : String) (input : Closure.ClosureInput)
    (principal : Principal) (correlationId : String) (auth : Closure.Authority)
    (d : Closure.ClosureDraw)
  | decideClosure (r : ClosureReading) (id : String) (input : Closure.ClosureDecisionInput)
    (principal : Principal) (correlationId : String) (d : Closure.ClosureDraw)
  | cancelClosure (r : ClosureReading) (id : String) (principal : Principal) (correlationId : String)
    (retireStage : Bool) (d : Closure.ClosureDraw)
  | reconcileClosure (id : String) (auth : Closure.Authority)

inductive CommercialAnswer
  | followUp (record : FollowUpRecord)
  | mutation (result : ReceiptResult)
  | marked (result : Marked)
  | reassignment (row : Assignment.ReassignmentRequestRow)
  | closure (row : Closure.LeadClosureRequestRow)
  | done

def answering {α : Type} (answer : α → CommercialAnswer) (x : Outcome (α × Database)) :
    Outcome (CommercialAnswer × Database) := x.map fun r => (answer r.1, r.2)

theorem answering_ok_iff {α : Type} {answer : α → CommercialAnswer} {x : Outcome (α × Database)}
    {w : CommercialAnswer} : answering answer x = .ok (w, db') ↔
      ∃ a, x = .ok (a, db') ∧ answer a = w := by
  rcases x with e | ⟨a, db⟩
  · simp [answering, Except.map]
  · simp [answering, Except.map, and_comm]

variable (rt) in
def perform (seen : ℕ → Database) (db : Database) :
    CommercialCall → Outcome (CommercialAnswer × Database)
  | .schedule r leadId input principal correlationId d =>
    answering .followUp (scheduleForApi rt (r.view seen) db leadId input principal correlationId d)
  | .decide r id input principal correlationId d =>
    answering .followUp
      (FollowUp.decideForApi rt (r.view seen) db id input principal correlationId d)
  | .interact leadId input principal correlationId d =>
    answering .mutation (addManualActivityForApi rt db leadId input principal correlationId d)
  | .changeStatus leads leadId input principal correlationId o =>
    answering .mutation (changeStatusForApi rt (seen leads) db leadId input principal correlationId o)
  | .markDue snapshot now limit locked =>
    answering .marked (FollowUp.markDue rt (seen snapshot) db now limit locked)
  | .reassign call => answering .reassignment (Assignment.transact rt db call)
  | .requestClosure r leadId input principal correlationId auth d =>
    answering .closure
      (Closure.requestForApi rt (r.view seen) db leadId input principal correlationId auth d)
  | .decideClosure r id input principal correlationId d =>
    answering .closure (Closure.decideForApi rt (r.view seen) db id input principal correlationId d)
  | .cancelClosure r id principal correlationId retireStage d =>
    answering .closure
      (Closure.cancelForApi rt (r.view seen) db id principal correlationId retireStage d)
  | .reconcileClosure id auth =>
    (Closure.reconcileClosureNotifications rt db id auth).map fun db => (.done, db)

/-- **A call is moves**, whatever states its readings are of. -/
theorem perform_moves {seen : ℕ → Database} {call : CommercialCall} {w : CommercialAnswer}
    (hleads : ∀ k, (seen k).leads.Grows Later db.leads)
    (hfollowUps : ∀ k, (seen k).leadFollowUps.Grows Advance db.leadFollowUps)
    (h : perform rt seen db call = .ok (w, db')) : Moves rt (ofDatabase db) (ofDatabase db') := by
  cases call with
  | schedule r leadId input principal correlationId d =>
    obtain ⟨_, h, -⟩ := answering_ok_iff.mp h
    exact scheduleForApi_moves (hleads r.leads) h
  | decide r id input principal correlationId d =>
    obtain ⟨_, h, -⟩ := answering_ok_iff.mp h
    exact decideForApi_moves (hfollowUps r.items) h
  | interact leadId input principal correlationId d =>
    obtain ⟨_, h, -⟩ := answering_ok_iff.mp h
    exact addManualActivityForApi_moves h
  | changeStatus leads leadId input principal correlationId o =>
    obtain ⟨_, h, -⟩ := answering_ok_iff.mp h
    exact changeStatusForApi_moves (hleads leads) h
  | markDue snapshot now limit locked =>
    obtain ⟨_, h, -⟩ := answering_ok_iff.mp h
    exact markDue_moves h
  | reassign call =>
    obtain ⟨_, h, -⟩ := answering_ok_iff.mp h
    exact transact_reassignment_moves h
  | requestClosure r leadId input principal correlationId auth d =>
    obtain ⟨_, h, -⟩ := answering_ok_iff.mp h
    exact closureRequest_moves h
  | decideClosure r id input principal correlationId d =>
    obtain ⟨_, h, -⟩ := answering_ok_iff.mp h
    exact closureDecision_moves (hleads r.leads) h
  | cancelClosure r id principal correlationId retireStage d =>
    obtain ⟨_, h, -⟩ := answering_ok_iff.mp h
    exact closureCancel_moves h
  | reconcileClosure id auth =>
    obtain ⟨db₁, hreconcile, hanswer⟩ := Checked.map_ok_iff.mp h
    obtain ⟨-, rfl⟩ := Prod.mk.inj hanswer
    exact closureReconcile_moves hreconcile

variable (rt) in
/-- The follow-ups and the closures over their database: a call that throws is rolled
back. -/
def commercial : Machine (Timeline Database) CommercialCall (Outcome CommercialAnswer) :=
  Timeline.machine (perform rt)

end CrmYnov.Commercial
