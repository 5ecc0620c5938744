import CrmYnov.Collaboration.Agreement

/-!
# Runs of the desk

In every run of requests and decisions, entered by any instances, committed or lost at any
moment, the collaborators of each lead are those there were at first after the approvals that
were committed, in their order, and these are the requests that are stored as approved. An
approval is committed with the collaborators it gives, in one step; no other step changes
either. A request that is pending when no call is running can be decided.
-/

namespace CrmYnov.Collaboration

open Checked Leads Assignment List

variable {rt : Runtime} {db db' : Database}

/-! ### One step -/

def ApprovedIn (db : Database) (r : LeadCollaborationRequestRow) : Prop :=
  r ∈ db.leadCollaborationRequests.rows ∧ r.state = .APPROVED

/-- An approval and the collaborators it gives come together: neither changes, or one request
that was pending is approved and its lead has the collaborators it asks for. -/
inductive Together (db db' : Database) : Prop
  | still (approved : ∀ r, ApprovedIn db' r ↔ ApprovedIn db r)
    (collaborators : ∀ leadId u, u ∈ db'.activeCollaborators leadId ↔ u ∈ db.activeCollaborators leadId)
  | approval (current updated : LeadCollaborationRequestRow)
    (pending : current ∈ db.leadCollaborationRequests.rows ∧ current.state = .PENDING)
    (same : updated.id = current.id ∧ updated.leadId = current.leadId ∧
      updated.targetUserId = current.targetUserId ∧ updated.action = current.action)
    (approved : ∀ r, ApprovedIn db' r ↔ r = updated ∨ ApprovedIn db r)
    (collaborators : ∀ leadId u, u ∈ db'.activeCollaborators leadId ↔
      u ∈ if updated.leadId = leadId then afterApproval (db.activeCollaborators leadId) updated
        else db.activeCollaborators leadId)

theorem Together.refl (db : Database) : Together db db := .still (fun _ => Iff.rfl) fun _ _ => Iff.rfl

variable {r : LeadCollaborationRequestRow}

theorem Requested.together {leadId correlationId requestId : String}
    (h : Requested rt db leadId correlationId requestId r db') :
    (∀ x, ApprovedIn db' x ↔ ApprovedIn db x) ∧
      ∀ leadId u, u ∈ db'.activeCollaborators leadId ↔ u ∈ db.activeCollaborators leadId := by
  obtain ⟨db₁, requests, rfl, hrecorded, hcreate⟩ := h.recorded
  refine ⟨fun x => ?_, fun leadId u => ?_⟩
  · rw [ApprovedIn, ApprovedIn, Table.mem_create hcreate]
    constructor
    · rintro ⟨hx | rfl, hstate⟩
      · exact ⟨hx, hstate⟩
      · rw [h.state] at hstate
        cases hstate
    · exact fun hx => ⟨.inl hx.1, hx.2⟩
  · rw [mem_activeCollaborators, mem_activeCollaborators]
    exact iff_of_eq (congrArg (fun t => Collaborates t leadId u) hrecorded.collaborators)

variable {updated : LeadCollaborationRequestRow}

theorem Decided.approved {id : String} (h : Decided rt db id updated db')
    (x : LeadCollaborationRequestRow) :
    ApprovedIn db' x ↔ (x = updated ∧ updated.state = .APPROVED) ∨ ApprovedIn db x := by
  obtain ⟨current, hcur, hpend, -⟩ := h.request
  rw [ApprovedIn, ApprovedIn, h.mem hcur]
  constructor
  · rintro ⟨rfl | ⟨hx, -⟩, hstate⟩
    · exact .inl ⟨rfl, hstate⟩
    · exact .inr ⟨hx, hstate⟩
  · rintro (⟨rfl, hstate⟩ | ⟨hx, hstate⟩)
    · exact ⟨.inl rfl, hstate⟩
    · refine ⟨.inr ⟨hx, ?_⟩, hstate⟩
      rintro rfl
      rw [hpend] at hstate
      cases hstate

/-- **A decision that is answered** keeps approvals and collaborators together. -/
theorem Decided.together {id : String} (h : Decided rt db id updated db') : Together db db' := by
  have happroved := h.approved
  by_cases hstate : updated.state = .APPROVED
  · obtain ⟨current, hcur, hpend, hupdated, -⟩ := h.request
    refine .approval current updated ⟨(Table.findUnique_eq_some.mp hcur).1, hpend⟩ ?_
      (fun x => ?_) fun leadId u => ?_
    · rw [hupdated]
      exact ⟨rfl, rfl, rfl, rfl⟩
    · rw [happroved]
      simp [hstate]
    · rw [mem_activeCollaborators, h.collaborators]
      simp only [hstate, true_and]
      split
      · exact Iff.rfl
      · exact mem_activeCollaborators.symm
  · refine .still (fun x => ?_) fun leadId u => ?_
    · rw [happroved]
      simp [hstate]
    · rw [mem_activeCollaborators, h.collaborators, if_neg fun hc => hstate hc.1,
        mem_activeCollaborators]

/-! ### The desk -/

/-- The identifier a call draws for a request is one the database would write. -/
def DeskAction.Drawn : DeskAction → Prop
  | .enter _ call => Canonical call.circumstances.requestId
  | _ => True

instance (a : DeskAction) : Decidable a.Drawn := by
  cases a <;> unfold DeskAction.Drawn <;> infer_instance

/-- A database in which no one has asked for anything: its leads are under identifiers it has
written, no mutation of a request has left anything, and the audit events of the other
mutations are beside their receipts. -/
structure Opening (rt : Runtime) (db : Database) : Prop where
  leads : ∀ l ∈ db.leads.rows, Canonical l.id
  requests : db.leadCollaborationRequests.rows = []
  unused : ∀ key, Used db key → Js.startsWith "collaboration-" key = false
  audits : ∀ e ∈ db.auditEvents.rows, ∀ digest, e.idempotencyKey = "lead-audit:" ++ digest →
    ∃ x ∈ db.leadMutationReceipts.rows, digest = rt.sha256 x.idempotencyKey

structure Faithful (rt : Runtime) (db : Database) (s : Desk) : Prop where
  sound : Sound rt s.db
  running : ∀ u, s.running = some u → ∃ (memory : LeadMemory) (call : Call)
    (process : Process), Canonical call.circumstances.requestId ∧
      call.handle rt ⟨s.db, memory⟩ = (u.answer, process) ∧ u.written = process.db
  approved : ∀ r, r ∈ s.approved ↔ ApprovedIn s.db r
  once : s.approved.Nodup
  collaborators : ∀ leadId u, u ∈ s.db.activeCollaborators leadId ↔
    u ∈ afterApprovals leadId (db.activeCollaborators leadId) s.approved

theorem sound_of_opening (h : Opening rt db) : Sound rt db := by
  have hnone : ∀ r, r ∉ db.leadCollaborationRequests.rows := by
    intro r hr
    rw [h.requests] at hr
    exact absurd hr not_mem_nil
  refine ⟨fun id l hl => ?_, fun r hr => absurd hr (hnone r), fun r hr => absurd hr (hnone r),
    fun r hr => absurd hr (hnone r), fun id hused => ?_, fun x hx leadId correlationId _ hkey => ?_,
    h.audits⟩
  · obtain ⟨hmem, rfl⟩ := Database.lead_eq_some.mp hl
    exact h.leads l hmem
  · have hfalse := h.unused _ hused
    rw [Js.startsWith, toList_decisionKey] at hfalse
    cases hfalse
  · have hfalse := h.unused _ (.inl ⟨x, hx, rfl⟩)
    rw [hkey, Js.startsWith, toList_requestKey] at hfalse
    cases hfalse

theorem faithful_of_opening (h : Opening rt db) : Faithful rt db { db } := by
  refine ⟨sound_of_opening h, fun u hu => absurd hu (by simp), fun r => ?_, nodup_nil,
    fun leadId u => Iff.rfl⟩
  rw [ApprovedIn, h.requests]
  simp

variable {s : Desk}

theorem committed_cases (hs : Faithful rt db s) {written : Database}
    (hrunning : s.running = some ⟨.ok r, written⟩) :
    (∃ leadId correlationId requestId, Canonical requestId ∧
      Requested rt s.db leadId correlationId requestId r written) ∨
      ∃ id, Decided rt s.db id r written := by
  obtain ⟨memory, call, process, hdrawn, hhandle, rfl⟩ := hs.running _ hrunning
  cases call with
  | request leadId input principal correlationId c =>
    exact .inl ⟨leadId, correlationId, c.requestId, hdrawn, requested_of_answer hhandle⟩
  | decide id input principal correlationId c => exact .inr ⟨id, decided_of_answer hhandle⟩

theorem Decided.fresh {id : String} (h : Decided rt db id updated db')
    (hstate : updated.state = .APPROVED) : ¬ApprovedIn db updated := by
  rintro ⟨hmem, -⟩
  obtain ⟨current, hcur, hpend, hupdated, -⟩ := h.request
  have hid : updated.id = current.id := by rw [hupdated]
  obtain rfl := db.leadCollaborationRequests.eq_of_key hmem (Table.findUnique_eq_some.mp hcur).1
    (mem_singleton.mpr rfl) (mem_singleton.mpr hid)
  rw [hpend] at hstate
  cases hstate

theorem Faithful.mem_approvals (hs : Faithful rt db s) {r x : LeadCollaborationRequestRow} :
    x ∈ s.approvals r ↔ (x = r ∧ r.state = .APPROVED) ∨ ApprovedIn s.db x := by
  rw [Desk.approvals]
  split
  · rename_i hstate
    rw [mem_append, mem_singleton, hs.approved]
    simp [hstate, or_comm]
  · rename_i hstate
    rw [hs.approved]
    simp [hstate]

/-- **The end of a call** keeps the desk faithful. -/
theorem Faithful.commit (hs : Faithful rt db s) : Faithful rt db s.commit := by
  unfold Desk.commit
  split
  · rename_i r written hrunning
    rcases committed_cases hs hrunning with ⟨leadId, correlationId, requestId, hid, h⟩ | ⟨id, h⟩
    · obtain ⟨happroved, hcollabs⟩ := h.together
      have hsame : s.approvals r = s.approved := by
        rw [Desk.approvals, if_neg (by rw [h.state]; decide)]
      refine ⟨hs.sound.requested_step hid h, fun u hu => absurd hu (by simp), fun x => ?_, ?_,
        fun leadId u => ?_⟩
      · rw [hsame, hs.approved, happroved]
      · rw [hsame]
        exact hs.once
      · rw [hsame, hcollabs, hs.collaborators]
    · refine ⟨hs.sound.decided_step h, fun u hu => absurd hu (by simp), fun x => ?_, ?_,
        fun leadId u => ?_⟩
      · rw [hs.mem_approvals, h.approved]
      · by_cases hstate : r.state = .APPROVED
        · rw [Desk.approvals, if_pos hstate]
          refine nodup_append.mpr ⟨hs.once, nodup_singleton r, fun x hx y hy => ?_⟩
          rintro rfl
          rw [mem_singleton.mp hy] at hx
          exact h.fresh hstate ((hs.approved r).mp hx)
        · rw [Desk.approvals, if_neg hstate]
          exact hs.once
      · rw [mem_activeCollaborators, h.collaborators, Desk.approvals]
        by_cases hstate : r.state = .APPROVED
        · rw [if_pos hstate, afterApprovals_append]
          simp only [hstate, true_and]
          split
          · exact mem_afterApproval_congr (hs.collaborators leadId) u
          · rw [← mem_activeCollaborators, hs.collaborators]
        · rw [if_neg fun hc => hstate hc.1, if_neg hstate, ← mem_activeCollaborators,
            hs.collaborators]
  · exact ⟨hs.sound, fun u hu => absurd hu (by simp), hs.approved, hs.once, hs.collaborators⟩

/-- **Every step keeps the desk faithful.** -/
theorem Faithful.next (hs : Faithful rt db s) {a : DeskAction} (ha : a.Drawn) :
    Faithful rt db ((desk rt).next s a) := by
  cases a with
  | enter memory call =>
    change Faithful rt db (s.enter rt memory call)
    unfold Desk.enter
    split
    · exact hs
    · refine ⟨hs.sound, fun u hu => ?_, hs.approved, hs.once, hs.collaborators⟩
      cases hu
      exact ⟨memory, call, _, ha, rfl, rfl⟩
  | commit => exact hs.commit
  | abandon => exact ⟨hs.sound, fun u hu => absurd hu (by simp [desk, Machine.next, Desk.advance]),
      hs.approved, hs.once, hs.collaborators⟩

theorem faithful_run (h : Opening rt db) {as : List DeskAction} (has : ∀ a ∈ as, a.Drawn) :
    Faithful rt db ((desk rt).run { db } as) := by
  have hmeets := (desk rt).meets_of_forall ({ db } : Desk) has
  exact (Machine.throughout_of_meets (I := Faithful rt db) (fun s a hs ha => hs.next ha)
    (faithful_of_opening h) hmeets).last

/-- **One step** keeps approvals and collaborators together. -/
theorem Faithful.together (hs : Faithful rt db s) (a : DeskAction) :
    Together s.db ((desk rt).next s a).db := by
  cases a with
  | enter memory call =>
    change Together s.db (s.enter rt memory call).db
    unfold Desk.enter
    split
    · exact .refl _
    · exact .refl _
  | abandon => exact .refl _
  | commit =>
    change Together s.db s.commit.db
    unfold Desk.commit
    split
    · rename_i r written hrunning
      rcases committed_cases hs hrunning with ⟨leadId, correlationId, requestId, -, h⟩ | ⟨id, h⟩
      · exact .still h.together.1 h.together.2
      · exact h.together
    · exact .refl _

/-! ### Runs -/

/-- The call is entered, and ends. -/
def decideNow (memory : LeadMemory) (r : LeadCollaborationRequestRow)
    (input : CollaborationDecisionInput) (principal : Principal) (correlationId : String)
    (c : CollaborationCircumstances) : List DeskAction :=
  [.enter memory (.decide r.id input principal correlationId c), .commit]

/-- **A pending request can be decided** when no call is running. -/
theorem Faithful.decidable (hs : Faithful rt db s) (hidle : s.running = none)
    (hr : r ∈ s.db.leadCollaborationRequests.rows) (hpend : r.state = .PENDING)
    {input : CollaborationDecisionInput} {principal : Principal} {c : CollaborationCircumstances}
    (h : Deciding rt s.db r input principal c) (memory : LeadMemory) (correlationId : String) :
    ∃ r' ∈ ((desk rt).run s
        (decideNow memory r input principal correlationId c)).db.leadCollaborationRequests.rows,
      r'.id = r.id ∧ r'.state = input.asks := by
  obtain ⟨updated, s', hans, hstate, hid⟩ :=
    @decideForApi_of_open rt s.db correlationId r principal input c hs.sound hr hpend h memory
  have hdecided := decided_of_answer hans
  obtain ⟨current, hcur, -⟩ := hdecided.request
  have henter : s.enter rt memory (.decide r.id input principal correlationId c) =
      { s with running := some ⟨.ok updated, s'.db⟩ } := by
    unfold Desk.enter
    simp only [hidle, Call.handle, hans]
  refine ⟨updated, ?_, hid, hstate⟩
  change updated ∈ (s.enter rt memory
    (.decide r.id input principal correlationId c)).commit.db.leadCollaborationRequests.rows
  rw [henter]
  exact (hdecided.mem hcur updated).mpr (.inl rfl)

namespace Sample

def lead : LeadRow := {
  id := "0b4c6d8e-1111-4222-8333-a44444444444", leadCode := "L-1", firstName := "A", lastName := "B"
  campus := "C", campaign := "K", educationLevel := "BAC", program := "P", source := "S"
  assignedToId := some "owner", createdAt := 0 }

def store : Database := { leads := .ofRows [lead] }

def principal (userId : String) : Principal :=
  { userId, sessionId := "session", roles := [.MANAGER], scopes := [.GLOBAL] }

def circumstances (requestId tag : String) : CollaborationCircumstances := {
  activityId := tag ++ "-activity", outboxId := tag ++ "-event", now := 0, storedAt := 0, requestId }

/-- A request to add someone is committed. -/
def asked : List DeskAction := [
  .enter .init (.request lead.id { targetUserId := some "friend", action := some "ADD"
                                   role := some "ADVISER", justification := some "help" }
    (principal "asker") "c1" (circumstances "1b4c6d8e-1111-4222-8333-a44444444444" "r")),
  .commit]

def approval : CollaborationDecisionInput :=
  { decision := some "APPROVE", reason := some "yes", expectedVersion := some 1 }

def approve : List DeskAction := [
  .enter .init (.decide "1b4c6d8e-1111-4222-8333-a44444444444" approval (principal "manager") "c2"
    (circumstances "2b4c6d8e-1111-4222-8333-a44444444444" "d")),
  .commit]

theorem opening : Opening .plain store := by
  refine ⟨by decide, rfl, ?_, ?_⟩
  · rintro key (⟨x, hx, -⟩ | ⟨x, hx, -⟩ | ⟨x, hx, -⟩) <;> cases hx
  · intro e he
    cases he

end Sample

end CrmYnov.Collaboration
