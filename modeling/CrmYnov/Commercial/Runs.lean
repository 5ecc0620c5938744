import CrmYnov.Commercial.Calls

/-!
# Runs of the commercial calls

The calls of the follow-ups and of the closures, in any order and with readings of
any states of the run. What every move preserves, a run preserves
(`CrmYnov.Commercial.throughout_of_move`), and what is there at some point of a run
is still there, or has advanced, at every later one
(`CrmYnov.Commercial.grows_along`).

So a lead never has two open follow-ups when none had two at the start, no decided
follow-up changes (`CrmYnov.Commercial.one_open_throughout`), and a lead that is
closed along the way has no open follow-up again
(`CrmYnov.Commercial.closed_free_throughout`).
-/

namespace CrmYnov.Commercial

open Leads FollowUp List

variable {rt : Runtime} {db db' : Database}

/-- An earlier state and a later one. -/
structure Ahead (db db' : Database) : Prop where
  leads : db.leads.Grows Later db'.leads
  followUps : db.leadFollowUps.Grows Advance db'.leadFollowUps
  audits : db.auditEvents.rows ⊆ db'.auditEvents.rows
  notifications : db.internalNotifications.rows ⊆ db'.internalNotifications.rows

theorem Ahead.refl (db : Database) : Ahead db db :=
  ⟨Table.Grows.refl _, Table.Grows.refl _, Subset.refl _, Subset.refl _⟩

theorem Ahead.trans (db db' db'' : Database) (h : Ahead db db') (h' : Ahead db' db'') :
    Ahead db db'' where
  leads := leadsGrow_trans h.leads h'.leads
  followUps := followUpsGrow_trans h.followUps h'.followUps
  audits := Subset.trans h.audits h'.audits
  notifications := Subset.trans h.notifications h'.notifications

theorem Moves.ahead (h : Moves rt (ofDatabase db) (ofDatabase db')) : Ahead db db' :=
  ⟨h.leads_grow, h.followUps_grow, h.records_kept.1, h.records_kept.2⟩

variable {P : Commerce → Prop}

/-- **A call keeps what every move keeps**, and is ahead of the states it has read. -/
theorem perform_keeps (hmove : ∀ c c', Move rt c c' → P c → P c') (seen : ℕ → Database)
    (db : Database) (call : CommercialCall) (w : CommercialAnswer) (db' : Database)
    (hdb : P (ofDatabase db)) (hseen : ∀ k, P (ofDatabase (seen k)) ∧ Ahead (seen k) db)
    (h : perform rt seen db call = .ok (w, db')) : P (ofDatabase db') ∧ Ahead db db' := by
  have hmoves := perform_moves (fun k => (hseen k).2.leads) (fun k => (hseen k).2.followUps) h
  exact ⟨hmoves.preserve hmove hdb, hmoves.ahead⟩

/-- **What every move preserves holds throughout**, in the states of the past as well,
and these are behind the present one. -/
theorem held_of_move (hmove : ∀ c c', Move rt c c' → P c → P c') (hdb : P (ofDatabase db))
    (calls : List CommercialCall) :
    (commercial rt).Throughout (Timeline.Held (fun db => P (ofDatabase db)) Ahead) ⟨db, []⟩ calls :=
  Timeline.throughout_held Ahead.refl Ahead.trans (perform_keeps hmove)
    (Timeline.held_start hdb) calls

theorem throughout_of_move (hmove : ∀ c c', Move rt c c' → P c → P c') (hdb : P (ofDatabase db))
    (calls : List CommercialCall) :
    (commercial rt).Throughout (fun t => P (ofDatabase t.now)) ⟨db, []⟩ calls :=
  fun pre hpre => (held_of_move hmove hdb calls pre hpre).now

/-- **Nothing of a run is lost later.** -/
theorem grows_along {pre calls : List CommercialCall} (hpre : pre <+: calls) :
    Ahead ((commercial rt).run ⟨db, []⟩ pre).now ((commercial rt).run ⟨db, []⟩ calls).now :=
  Timeline.linked_throughout Ahead.refl Ahead.trans
    (@perform_keeps rt (fun _ => True) fun _ _ _ _ => trivial)
    (Timeline.held_start (E := Ahead) trivial) hpre

/-- **A lead has one open follow-up at most**, in every state of every run from such
a state; and a follow-up of some state of the run is there at every later one: as it
was, or at a greater version, which it only reaches while it is neither completed nor
cancelled. -/
theorem one_open_throughout (hopen : OneOpen (ofDatabase db)) (calls : List CommercialCall) :
    (commercial rt).Throughout (fun t => OneOpen (ofDatabase t.now)) ⟨db, []⟩ calls ∧
      ∀ pre, pre <+: calls → ∀ f ∈ ((commercial rt).run ⟨db, []⟩ pre).now.leadFollowUps.rows,
        ∃ f' ∈ ((commercial rt).run ⟨db, []⟩ calls).now.leadFollowUps.rows, f'.id = f.id ∧
          (f' = f ∨ (f.state ≠ .COMPLETED ∧ f.state ≠ .CANCELLED) ∧ f.version < f'.version) := by
  refine ⟨throughout_of_move (fun _ _ => Move.oneOpen) hopen calls, fun pre hpre f hf => ?_⟩
  obtain ⟨f', hf', hlater⟩ := (@grows_along rt db _ _ hpre).followUps f hf
  rcases hlater with rfl | hadvance
  · exact ⟨f', hf', rfl, .inl rfl⟩
  · refine ⟨f', hf', hadvance.id_eq, .inr ⟨?_, hadvance.version⟩⟩
    rcases hadvance.open_ with hstate | hstate <;> simp [hstate]

namespace Sample

def prospect : LeadRow where
  id := "aaaaaaaa-0000-4000-8000-000000000001"
  leadCode := "LEAD-1"
  firstName := "Ada"
  lastName := "Lovelace"
  campus := "CASABLANCA"
  campaign := "RENTREE"
  educationLevel := "BAC"
  program := "INFORMATIQUE"
  source := "SALON"
  assignedToId := some "bbbbbbbb-0000-4000-8000-000000000001"
  createdAt := 0

def callBack : LeadFollowUpRow where
  id := "cccccccc-0000-4000-8000-000000000001"
  leadId := prospect.id
  ownerId := "bbbbbbbb-0000-4000-8000-000000000001"
  dueAt := 1000
  state := .SCHEDULED
  reason := "call back"
  idempotencyKey := "follow-up:schedule:1"

def planned : Database := { leads := .ofRows [prospect], leadFollowUps := .ofRows [callBack] }

/-- The worker looks twice for what is due. -/
def reminders : List CommercialCall := [.markDue 0 1500 10 [], .markDue 0 1500 10 []]

end Sample

open Commercial.Sample

theorem one_open_throughout_of_planned :
    (commercial .plain).Throughout (fun t => OneOpen (ofDatabase t.now)) ⟨planned, []⟩ reminders ∧
      ∀ pre, pre <+: reminders →
        ∀ f ∈ ((commercial .plain).run ⟨planned, []⟩ pre).now.leadFollowUps.rows,
          ∃ f' ∈ ((commercial .plain).run ⟨planned, []⟩
              reminders).now.leadFollowUps.rows, f'.id = f.id ∧
            (f' = f ∨ (f.state ≠ .COMPLETED ∧ f.state ≠ .CANCELLED) ∧ f.version < f'.version) := by
  have hrows : planned.leadFollowUps.rows = [callBack] := rfl
  refine one_open_throughout (fun r hr r' hr' _ _ _ => ?_) reminders
  have hr : r ∈ planned.leadFollowUps.rows := hr
  have hr' : r' ∈ planned.leadFollowUps.rows := hr'
  rw [hrows] at hr hr'
  rw [mem_singleton.mp hr, mem_singleton.mp hr']

/-- **A lead that was closed along the way has no open follow-up**, in any state of
any run. -/
theorem closed_free_throughout (calls : List CommercialCall) :
    (commercial rt).Throughout (fun t => ∀ l ∈ t.now.leads.rows, l.status.Closed →
      (∃ l₀ ∈ db.leads.rows, l₀.id = l.id ∧ l₀.status.Closed) ∨
        ∀ f ∈ t.now.leadFollowUps.rows, ¬(f.leadId = l.id ∧ f.state.Open)) ⟨db, []⟩ calls := by
  have hstart : ClosedFree (fun id => ∃ l₀ ∈ db.leads.rows, l₀.id = id ∧ l₀.status.Closed)
      (ofDatabase db) := fun l hl hclosed => .inl ⟨l, hl, rfl, hclosed⟩
  exact throughout_of_move (fun _ _ => Move.closedFree) hstart calls

end CrmYnov.Commercial
