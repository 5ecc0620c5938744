import CrmYnov.Assignment.Reassignment
import CrmYnov.Base.Machine

/-!
# One owner at a time

What the requests and decisions of the reassignment service do to the four
tables they write, in any order and with any retries. A lead has one pending
request at most, and this request names the owner the lead has; what is decided
was decided by someone else than its requester, and stays. An approval moves the
lead and the follow-ups it was asked to move, and leaves its receipt and its
activity, in one step; no other step moves anything
(`CrmYnov.Assignment.reassignments_consistent`).

Follow-ups that are due stay with the previous owner, and so do all of them when
the request did not ask for them to be moved
(`CrmYnov.Assignment.approval_keeps_follow_up`).
-/

namespace CrmYnov.Assignment

open Checked Leads FollowUp Table List Option

variable {rt : Runtime} {db db' : Database}

/-! ### What is written -/

theorem notifyAll_ok {leadId type key : String} {recipients : List String}
    (h : notifyAll rt db leadId type key recipients = .ok db') :
    ∃ t, { db with internalNotifications := t } = db' := by
  induction recipients generalizing db with
  | nil =>
    obtain rfl := pure_ok_iff.mp h
    exact ⟨db.internalNotifications, rfl⟩
  | cons recipientId recipients ih =>
    simp only [notifyAll, assignmentNotification, bind_ok_iff, pure_ok_iff] at h
    obtain ⟨-, ⟨t, -, rfl⟩, h⟩ := h
    obtain ⟨t', rfl⟩ := ih h
    exact ⟨t', rfl⟩

/-- What an operation on a request does to the lead, and what it leaves. -/
structure Effect (db : Database) (lead : LeadRow) (request : ReassignmentRequestRow)
    (operation : ReassignmentOperation) (intent : Intent) (transferred : Option ℕ) (o : Occasion)
    (db' : Database) : Prop where
  owned : db.leads.count (StillOwned lead request operation) = 1
  leads : db'.leads = db.leads.updateMany (StillOwned lead request operation)
    (moveLead request o.now) (keys_moveLead request o.now)
  activities : db'.leadActivities.rows = db.leadActivities.rows ++
    [reassignmentActivity request operation lead intent.principal intent.correlationId intent.key o]
  receipts : db.leadMutationReceipts.create (reassignmentReceipt request operation lead.id
    intent.key intent.fingerprint transferred) = some db'.leadMutationReceipts
  collaborators : db'.leadCollaborators = db.leadCollaborators
  followUps : db'.leadFollowUps = db.leadFollowUps
  requests : db'.reassignmentRequests = db.reassignmentRequests

variable {request : ReassignmentRequestRow} {intent : Intent}

theorem appendReassignmentEffect_ok {lead : LeadRow} {operation : ReassignmentOperation}
    {transferred : Option ℕ} {o : Occasion}
    (h : appendReassignmentEffect rt db lead request operation intent transferred o = .ok db') :
    Effect db lead request operation intent transferred o db' := by
  simp only [appendReassignmentEffect, bind_ok_iff, require_ok_iff, Database.addActivity_ok_iff,
    Database.audit_ok_iff, Database.addReceipt_ok_iff, insert_ok_iff] at h
  obtain ⟨-, -, -, howned, -, ⟨activities, hactivity, rfl⟩, -, ⟨audits, -, rfl⟩, -,
    ⟨receipts, hrec, rfl⟩, events, -, h⟩ := h
  obtain ⟨notifications, rfl⟩ := notifyAll_ok h
  exact ⟨howned, rfl, create_rows hactivity, hrec, rfl, rfl, rfl⟩

theorem transferRows_ok {campusId : String} {rows : List LeadFollowUpRow}
    (hnodup : (rows.map LeadFollowUpRow.id).Nodup)
    (h : transferRows request campusId intent db rows = .ok db') :
    (∃ t u, { db with leadFollowUps := t, auditEvents := u } = db') ∧
      ∀ id, db'.leadFollowUps.findUnique (.id id) =
        (db.leadFollowUps.findUnique (.id id)).map fun f =>
          if id ∈ rows.map LeadFollowUpRow.id then moveFollowUp request f else f := by
  induction rows generalizing db with
  | nil =>
    cases h
    exact ⟨⟨_, _, rfl⟩, fun id => by simp⟩
  | cons row rows ih =>
    obtain ⟨hrow, hnodup⟩ := nodup_cons.mp hnodup
    simp only [transferRows, bind_ok_iff, require_ok_iff, Database.audit_ok_iff] at h
    obtain ⟨-, hcount, -, ⟨audits, -, rfl⟩, h⟩ := h
    obtain ⟨⟨t, u, rfl⟩, hfind⟩ := ih hnodup h
    refine ⟨⟨t, u, rfl⟩, fun id => ?_⟩
    obtain ⟨f₀, hf₀, hunchanged⟩ := count_pos.mp (hcount ▸ Nat.one_pos)
    rw [hfind id, findUnique_updateMany, Option.map_map]
    cases hid : db.leadFollowUps.findUnique (.id id) with
    | none => rfl
    | some f =>
      obtain ⟨hf, hkey⟩ := findUnique_eq_some.mp hid
      obtain rfl := LeadFollowUpRow.mem_keys_id.mp hkey
      by_cases heq : f.id = row.id
      · -- the row just moved is not among those that follow
        obtain rfl : f = f₀ := db.leadFollowUps.eq_of_key hf hf₀ hkey
          (LeadFollowUpRow.mem_keys_id.mpr (hunchanged.1.trans heq.symm))
        have hnot : f.id ∉ rows.map LeadFollowUpRow.id := heq ▸ hrow
        simp [hunchanged, heq, heq ▸ hnot]
      · have hnot : ¬FollowUpUnchanged request row f := fun hu => heq hu.1
        simp [hnot, heq]

/-- **What an approval does to the follow-ups**: those that were scheduled with
the previous owner are moved when this was asked for, and no other is touched. -/
theorem transferScheduledFollowUps_ok {n : ℕ}
    (h : transferScheduledFollowUps rt db request intent = .ok (n, db')) :
    (∃ t u, { db with leadFollowUps := t, auditEvents := u } = db') ∧
      ∀ id, db'.leadFollowUps.findUnique (.id id) =
        (db.leadFollowUps.findUnique (.id id)).map fun f =>
          if request.moveOpenTasks ∧ Transferable request f then moveFollowUp request f else f := by
  rw [transferScheduledFollowUps] at h
  split at h
  · rename_i hmove
    simp only [bind_ok_iff, pure_ok_iff, Prod.mk.injEq] at h
    obtain ⟨-, -, campus, -, db₁, htransfer, -, rfl⟩ := h
    have hperm := perm_insertionSort (fun f f' : LeadFollowUpRow => ¬f'.id < f.id)
      (db.leadFollowUps.findMany (Transferable request))
    have hnodup := db.leadFollowUps.nodup_keys (k := fun f => .id f.id)
      fun f => LeadFollowUpRow.mem_keys_id.mpr rfl
    have hids : (db.leadFollowUps.rows.map LeadFollowUpRow.id).Nodup := by
      refine Nodup.of_map LeadFollowUpRow.Key.id ?_
      rwa [List.map_map]
    have hsched : ((db.leadFollowUps.findMany (Transferable request)).map
        LeadFollowUpRow.id).Nodup := hids.sublist (filter_sublist.map _)
    obtain ⟨hframe, hfind⟩ := transferRows_ok ((hperm.map _).nodup_iff.mpr hsched) htransfer
    refine ⟨hframe, fun id => ?_⟩
    rw [hfind id]
    cases hid : db.leadFollowUps.findUnique (.id id) with
    | none => rfl
    | some f =>
      obtain ⟨hf, hkey⟩ := findUnique_eq_some.mp hid
      obtain rfl := LeadFollowUpRow.mem_keys_id.mp hkey
      have hmoved : f.id ∈ (insertionSort (fun f f' => ¬f'.id < f.id)
          (db.leadFollowUps.findMany (Transferable request))).map LeadFollowUpRow.id ↔
          Transferable request f := by
        rw [(hperm.map _).mem_iff, List.mem_map]
        constructor
        · rintro ⟨f', hf', heq⟩
          obtain ⟨hmem, htransferable⟩ := mem_findMany.mp hf'
          rwa [db.leadFollowUps.eq_of_key hf hmem hkey (LeadFollowUpRow.mem_keys_id.mpr heq)]
        · exact fun h => ⟨f, mem_findMany.mpr ⟨hf, h⟩, rfl⟩
      simp only [map_some, hmoved, hmove, true_and]
  · rename_i hmove
    cases h
    exact ⟨⟨_, _, rfl⟩, fun id => by simp [hmove]⟩

/-! ### What a request does -/

/-- What a new request finds and leaves: the lead has an owner and no pending
request. -/
structure Requested (db : Database) (leadId : String) (row : ReassignmentRequestRow)
    (db' : Database) : Prop where
  pending : row.status = .PENDING ∧ row.leadId = leadId
  free : ∀ r ∈ db.reassignmentRequests.rows, ¬(r.leadId = leadId ∧ r.status = .PENDING)
  created : db.reassignmentRequests.create row = some db'.reassignmentRequests
  collaborators : db'.leadCollaborators = db.leadCollaborators
  effect : ∃ lead intent o db₁, db.lead leadId = some lead ∧
    lead.assignedToId = some row.currentOwnerId ∧
    Effect { db with reassignmentRequests := db'.reassignmentRequests } lead row .REQUEST intent
      none o db₁ ∧ ∃ t, { db₁ with internalNotifications := t } = db'

theorem requestForApi_cases {leadId correlationId : String} {input : CreateReassignmentInput}
    {auth : Authority} {d : Draw} {row : ReassignmentRequestRow}
    (h : requestForApi rt db leadId input correlationId auth d = .ok (row, db')) :
    db' = db ∨ Requested db leadId row db' := by
  simp only [requestForApi, bind_ok_iff] at h
  obtain ⟨-, -, current, -, h⟩ := h
  split at h
  · simp only [bind_ok_iff, pure_ok_iff, Prod.mk.injEq] at h
    obtain ⟨-, -, -, rfl⟩ := h
    exact .inl rfl
  · simp only [createRequest, bind_ok_iff, require_ok_iff, demand_ok_iff, insert_ok_iff,
      pure_ok_iff, Prod.mk.injEq] at h
    obtain ⟨lead, hlead, owner, howner, -, -, -, -, -, -, -, hfree, requests, hcreate, db₁, heff,
      approvers, -, db₂, hnotify, rfl, rfl⟩ := h
    have heff := appendReassignmentEffect_ok heff
    obtain ⟨notifications, rfl⟩ := notifyAll_ok hnotify
    have hrequests : db₁.reassignmentRequests = requests := heff.requests
    refine .inr ⟨⟨rfl, rfl⟩, findFirst_eq_none.mp hfree, ?_, heff.collaborators, ?_⟩
    · simpa only [hrequests] using hcreate
    · exact ⟨lead, _, _, db₁, hlead, howner, by simpa only [hrequests] using heff, _, rfl⟩

/-! ### What a decision does -/

theorem transferOnApproval_ok {input : DecideReassignmentInput} {n : ℕ}
    (h : transferOnApproval rt db input request intent = .ok (n, db')) :
    (∃ t u, { db with leadFollowUps := t, auditEvents := u } = db') ∧
      ∀ id, db'.leadFollowUps.findUnique (.id id) =
        (db.leadFollowUps.findUnique (.id id)).map fun f =>
          if input.approved ∧ request.moveOpenTasks ∧ Transferable request f
          then moveFollowUp request f else f := by
  rw [transferOnApproval] at h
  split at h
  · rename_i happroved
    simpa only [happroved, true_and] using transferScheduledFollowUps_ok h
  · rename_i hrejected
    cases h
    exact ⟨⟨_, _, rfl⟩, fun id => by simp [hrejected]⟩

/-- What a new decision finds and leaves: the request is pending, and another
user than its requester decides it, while the lead has the owner it names. -/
structure Decided (db : Database) (row : ReassignmentRequestRow) (input : DecideReassignmentInput)
    (decidedBy : String) (now : Instant) (db' : Database) : Prop where
  stored : row ∈ db.reassignmentRequests.rows
  pending : row.status = .PENDING
  separate : row.requestedBy ≠ decidedBy
  collaborators : db'.leadCollaborators = db.leadCollaborators
  requests : db'.reassignmentRequests = db.reassignmentRequests.updateMany (Undecided row)
    (decideRow input decidedBy now) (keys_decideRow input decidedBy now)
  followUps : ∀ id, db'.leadFollowUps.findUnique (.id id) =
    (db.leadFollowUps.findUnique (.id id)).map fun f =>
      if input.approved ∧ row.moveOpenTasks ∧ Transferable row f then moveFollowUp row f else f
  effect : ∃ lead intent transferred o db₁, db.lead row.leadId = some lead ∧
    lead.assignedToId = some row.currentOwnerId ∧ intent.key = decisionKey row.id ∧
    db₁.leads = db.leads ∧ db₁.leadActivities = db.leadActivities ∧
    db₁.leadMutationReceipts = db.leadMutationReceipts ∧
    Effect db₁ lead (decideRow input decidedBy now row) .DECISION intent transferred o db'

theorem decideForApi_cases {requestId correlationId : String} {input : DecideReassignmentInput}
    {auth : Authority} {d : Draw} {record : ReassignmentRequestRow}
    (h : decideForApi rt db requestId input correlationId auth d = .ok (record, db')) :
    db' = db ∨ ∃ row decidedBy now, Decided db row input decidedBy now db' ∧
      request? db requestId = some row := by
  simp only [decideForApi, bind_ok_iff, require_ok_iff, demand_ok_iff] at h
  obtain ⟨-, -, -, -, current, -, -, -, row, hrow, -, hseparate, h⟩ := h
  obtain ⟨hmem, hkey⟩ := findUnique_eq_some.mp hrow
  obtain rfl := ReassignmentRequestRow.mem_keys_id.mp hkey
  split at h
  · simp only [bind_ok_iff, pure_ok_iff, Prod.mk.injEq] at h
    obtain ⟨-, -, -, rfl⟩ := h
    exact .inl rfl
  · simp only [applyDecision, bind_ok_iff, require_ok_iff, demand_ok_iff, pure_ok_iff,
      Prod.mk.injEq] at h
    obtain ⟨-, hpend, -, -, lead, hlead, -, howner, -, -, -, -, record', hrecord,
      ⟨transferred, db₁⟩, htransfer, db₂, heff, rfl, rfl⟩ := h
    obtain rfl : record' = decideRow input current.userId d.now row := by
      rw [request?, findUnique_updateMany, findUnique_of_mem hmem hkey] at hrecord
      simpa [Undecided, hpend, eq_comm] using hrecord
    obtain ⟨⟨followUps, audits, rfl⟩, hfollowUps⟩ := transferOnApproval_ok htransfer
    have heff := appendReassignmentEffect_ok heff
    refine .inr ⟨row, current.userId, d.now, ⟨hmem, hpend, hseparate, heff.collaborators,
      heff.requests, ?_, ?_⟩, hrow⟩
    · intro id
      rw [heff.followUps, hfollowUps id]
      rfl
    · refine ⟨lead, _, _, _, _, hlead, howner, ?_, ?_, ?_, ?_, heff⟩ <;> rfl

/-! ### What every state keeps, and what a step moves -/

def owner (db : Database) (leadId : String) : Option (Option String) :=
  (db.lead leadId).map LeadRow.assignedToId

/-- **What holds in every state**: a lead has one pending request at most, a
pending request names the owner of its lead, and a decided one was decided by
another user than its requester. -/
structure Consistent (db : Database) : Prop where
  single : ∀ r ∈ db.reassignmentRequests.rows, ∀ r' ∈ db.reassignmentRequests.rows,
    r.leadId = r'.leadId → r.status = .PENDING → r'.status = .PENDING → r = r'
  owned : ∀ r ∈ db.reassignmentRequests.rows, r.status = .PENDING →
    owner db r.leadId = some (some r.currentOwnerId)
  separate : ∀ r ∈ db.reassignmentRequests.rows, r.status ≠ .PENDING →
    ∃ decidedBy, r.decidedBy = some decidedBy ∧ decidedBy ≠ r.requestedBy

/-- The requests that are decided stay as they are. -/
def Kept (db db' : Database) : Prop :=
  ∀ r ∈ db.reassignmentRequests.rows, r.status ≠ .PENDING → r ∈ db'.reassignmentRequests.rows

/-- **A step that moves nothing**: every lead and every follow-up keeps its
owner, no request is approved, and nothing is recorded of an approval. -/
structure Unmoved (db db' : Database) : Prop where
  owners : ∀ leadId, owner db' leadId = owner db leadId
  followUps : ∀ id, db'.leadFollowUps.findUnique (.id id) = db.leadFollowUps.findUnique (.id id)
  requests : ∀ r ∈ db'.reassignmentRequests.rows, r.status = .APPROVED →
    r ∈ db.reassignmentRequests.rows
  activities : ∀ a ∈ db'.leadActivities.rows, a.type = .ASSIGNMENT_CHANGED →
    a ∈ db.leadActivities.rows
  receipts : ∀ receipt ∈ db'.leadMutationReceipts.rows, receipt ∈ db.leadMutationReceipts.rows ∨
    ∃ r ∈ db'.reassignmentRequests.rows, r.status ≠ .APPROVED ∧
      ∃ n, receipt.result = .reassignment r.id n

/-- **A step that approves a request**: the lead goes from the owner the request
names to its target, with one activity and one receipt under the key of the
decision, and so do the scheduled follow-ups of that owner on the lead, when the
request asked for it; no other lead and no other follow-up changes owner. -/
structure Approved (request : ReassignmentRequestRow) (db db' : Database) : Prop where
  pending : request ∈ db.reassignmentRequests.rows ∧ request.status = .PENDING
  approved : ∃ r, request? db' request.id = some r ∧ r.status = .APPROVED
  requests : ∀ id, id ≠ request.id → request? db' id = request? db id
  previous : owner db request.leadId = some (some request.currentOwnerId)
  owners : ∀ leadId, owner db' leadId =
    if leadId = request.leadId then some (some request.targetUserId) else owner db leadId
  followUps : ∀ id, db'.leadFollowUps.findUnique (.id id) =
    (db.leadFollowUps.findUnique (.id id)).map fun f =>
      if request.moveOpenTasks ∧ Transferable request f then moveFollowUp request f else f
  activity : ∃ a, db'.leadActivities.rows = db.leadActivities.rows ++ [a] ∧
    a.leadId = request.leadId ∧ a.type = .ASSIGNMENT_CHANGED ∧
    a.idempotencyKey = some (decisionKey request.id) ∧
    a.result = request.currentOwnerId ++ "->" ++ request.targetUserId
  receipt : ∃ receipt, db'.leadMutationReceipts.rows = db.leadMutationReceipts.rows ++ [receipt] ∧
    receipt.leadId = request.leadId ∧ receipt.idempotencyKey = decisionKey request.id ∧
    ∃ n, receipt.result = .reassignment request.id n

/-- What a step does to the owners, the follow-ups and what is recorded of
them: nothing, or all an approval does. -/
def Moves (db db' : Database) : Prop :=
  Unmoved db db' ∨ ∃ request, Approved request db db'

theorem Effect.owner_eq {lead : LeadRow} {operation : ReassignmentOperation}
    {transferred : Option ℕ} {o : Occasion}
    (h : Effect db lead request operation intent transferred o db')
    (hlead : db.lead lead.id = some lead) (leadId : String) :
    owner db' leadId = if leadId = lead.id ∧ request.status = .APPROVED
      then some (some request.targetUserId) else owner db leadId := by
  have hstored : StillOwned lead request operation lead := by
    obtain ⟨l, hl, howned⟩ := count_pos.mp (h.owned ▸ Nat.one_pos)
    obtain rfl : l = lead := db.leads.eq_of_key hl (Database.lead_eq_some.mp hlead).1
      (LeadRow.mem_keys_id.mpr howned.1.1) (LeadRow.mem_keys_id.mpr rfl)
    exact howned
  rw [owner, owner, Database.lead, h.leads, findUnique_updateMany]
  by_cases hid : leadId = lead.id
  · -- the lead of the request is the row the update selects
    subst hid
    have hfind : db.leads.findUnique (.id lead.id) = some lead := hlead
    by_cases happroved : request.status = .APPROVED <;>
      simp [Database.lead, hfind, hstored, moveLead, happroved]
  · -- any other row is left alone
    rw [if_neg fun hc => hid hc.1, ← Database.lead]
    cases hfind : db.lead leadId with
    | none => rfl
    | some l =>
      obtain ⟨-, rfl⟩ := Database.lead_eq_some.mp hfind
      have hother : ¬StillOwned lead request operation l := fun howned => hid howned.1.1
      simp [hother]

/-! ### The step of a request -/

namespace Requested

variable {leadId : String} {row : ReassignmentRequestRow}

theorem owner_eq (h : Requested db leadId row db') (id : String) : owner db' id = owner db id := by
  obtain ⟨lead, intent, o, db₁, hlead, -, heff, t, rfl⟩ := h.effect
  obtain ⟨hmem, rfl⟩ := Database.lead_eq_some.mp hlead
  have hrow : ¬(id = lead.id ∧ row.status = .APPROVED) := by simp [h.pending.1]
  exact (heff.owner_eq hlead id).trans (if_neg hrow)

theorem owned (h : Requested db leadId row db') :
    owner db leadId = some (some row.currentOwnerId) := by
  obtain ⟨lead, intent, o, db₁, hlead, howner, -⟩ := h.effect
  rw [owner, hlead, map_some, howner]

theorem kept (h : Requested db leadId row db') : Kept db db' := fun _ hr _ =>
  (mem_create h.created).mpr (.inl hr)

theorem consistent (h : Requested db leadId row db') (hdb : Consistent db) : Consistent db' where
  single r hr r' hr' heq hpend hpend' := by
    obtain ⟨-, rfl⟩ := h.pending
    rcases (mem_create h.created).mp hr with hr | rfl <;>
      rcases (mem_create h.created).mp hr' with hr' | rfl
    · exact hdb.single r hr r' hr' heq hpend hpend'
    · exact absurd ⟨heq, hpend⟩ (h.free r hr)
    · exact absurd ⟨heq.symm, hpend'⟩ (h.free r' hr')
    · rfl
  owned r hr hpend := by
    rw [h.owner_eq]
    rcases (mem_create h.created).mp hr with hr | rfl
    · exact hdb.owned r hr hpend
    · rw [h.pending.2]
      exact h.owned
  separate r hr hdecided := by
    rcases (mem_create h.created).mp hr with hr | rfl
    · exact hdb.separate r hr hdecided
    · exact absurd h.pending.1 hdecided

theorem unmoved (h : Requested db leadId row db') : Unmoved db db' := by
  have howners := h.owner_eq
  have hrow : row ∈ db'.reassignmentRequests.rows := (mem_create h.created).mpr (.inr rfl)
  have hpend : row.status ≠ .APPROVED := by simp [h.pending.1]
  obtain ⟨lead, intent, o, db₁, -, -, heff, t, rfl⟩ := h.effect
  refine ⟨howners, fun id => by rw [heff.followUps], fun r hr happroved => ?_,
    fun a ha htype => ?_, fun receipt hrec => ?_⟩
  · rcases (mem_create h.created).mp hr with hr | rfl
    · exact hr
    · exact absurd happroved hpend
  · -- the activity of a request is not a change of assignment
    rw [heff.activities, mem_append, mem_singleton] at ha
    rcases ha with ha | rfl
    · exact ha
    · cases htype
  · rcases (mem_create heff.receipts).mp hrec with hrec | rfl
    · exact .inl hrec
    · exact .inr ⟨row, hrow, hpend, _, rfl⟩

end Requested

/-! ### The step of a decision -/

namespace Decided

variable {row : ReassignmentRequestRow} {input : DecideReassignmentInput} {decidedBy : String}
  {now : Instant}

theorem status_eq (r : ReassignmentRequestRow) :
    (decideRow input decidedBy now r).status = if input.approved then .APPROVED else .REJECTED :=
  rfl

theorem undecided_iff (h : Decided db row input decidedBy now db') {r : ReassignmentRequestRow}
    (hr : r ∈ db.reassignmentRequests.rows) : Undecided row r ↔ r = row := by
  constructor
  · rintro ⟨hid, -⟩
    exact db.reassignmentRequests.eq_of_key hr h.stored
      (ReassignmentRequestRow.mem_keys_id.mpr hid) (ReassignmentRequestRow.mem_keys_id.mpr rfl)
  · rintro rfl
    exact ⟨rfl, h.pending, rfl⟩

theorem mem_requests (h : Decided db row input decidedBy now db') {r : ReassignmentRequestRow} :
    r ∈ db'.reassignmentRequests.rows ↔
      r = decideRow input decidedBy now row ∨ r ∈ db.reassignmentRequests.rows ∧ r ≠ row := by
  rw [h.requests, mem_updateMany]
  constructor
  · rintro ⟨r, hr, rfl⟩
    by_cases heq : r = row
    · simp [heq, (h.undecided_iff h.stored).mpr rfl]
    · simp [heq, hr, (h.undecided_iff hr).not.mpr heq]
  · rintro (rfl | ⟨hr, hne⟩)
    · exact ⟨row, h.stored, if_pos ((h.undecided_iff h.stored).mpr rfl)⟩
    · exact ⟨r, hr, if_neg ((h.undecided_iff hr).not.mpr hne)⟩

theorem request_eq (h : Decided db row input decidedBy now db') (id : String) :
    request? db' id =
      if id = row.id then some (decideRow input decidedBy now row) else request? db id := by
  rw [request?, h.requests, findUnique_updateMany]
  by_cases hid : id = row.id
  · rw [if_pos hid, hid, findUnique_of_mem h.stored (ReassignmentRequestRow.mem_keys_id.mpr rfl),
      map_some, if_pos ((h.undecided_iff h.stored).mpr rfl)]
  · rw [if_neg hid]
    cases hfind : db.reassignmentRequests.findUnique (.id id) with
    | none => simp [request?, hfind]
    | some r =>
      obtain ⟨hr, hkey⟩ := findUnique_eq_some.mp hfind
      obtain rfl := ReassignmentRequestRow.mem_keys_id.mp hkey
      have hother : ¬Undecided row r := fun hu => hid hu.1
      simp [request?, hfind, hother]

theorem owned (h : Decided db row input decidedBy now db') :
    owner db row.leadId = some (some row.currentOwnerId) := by
  obtain ⟨lead, -, -, -, -, hlead, howner, -⟩ := h.effect
  rw [owner, hlead, map_some, howner]

theorem owner_eq (h : Decided db row input decidedBy now db') (leadId : String) :
    owner db' leadId = if leadId = row.leadId ∧ input.approved
      then some (some row.targetUserId) else owner db leadId := by
  obtain ⟨lead, intent, transferred, o, db₁, hlead, -, -, hleads, -, -, heff⟩ := h.effect
  have hsame : ∀ id, db₁.lead id = db.lead id := fun id => by rw [Database.lead, hleads]; rfl
  have hid : lead.id = row.leadId := (Database.lead_eq_some.mp hlead).2
  have happroved : (decideRow input decidedBy now row).status = .APPROVED ↔ input.approved := by
    rw [status_eq]
    split <;> simp_all
  rw [heff.owner_eq (by rw [hsame, hid, hlead]), hid, owner, hsame, ← owner]
  simp only [happroved]
  rfl

theorem kept (h : Decided db row input decidedBy now db') : Kept db db' := by
  intro r hr hdecided
  refine h.mem_requests.mpr (.inr ⟨hr, ?_⟩)
  rintro rfl
  exact hdecided h.pending

theorem consistent (h : Decided db row input decidedBy now db') (hdb : Consistent db) :
    Consistent db' := by
  have hdecided : (decideRow input decidedBy now row).status ≠ .PENDING := by
    rw [status_eq]
    split <;> decide
  -- the pending requests of the new state were pending before
  have hpend : ∀ r ∈ db'.reassignmentRequests.rows, r.status = .PENDING →
      r ∈ db.reassignmentRequests.rows ∧ r ≠ row := fun r hr hp => by
    rcases h.mem_requests.mp hr with rfl | hr
    · exact absurd hp hdecided
    · exact hr
  refine ⟨fun r hr r' hr' heq hp hp' => ?_, fun r hr hp => ?_, fun r hr hd => ?_⟩
  · exact hdb.single r (hpend r hr hp).1 r' (hpend r' hr' hp').1 heq hp hp'
  · obtain ⟨hr, hne⟩ := hpend r hr hp
    -- another pending request is about another lead, whose owner stays
    have hlead : r.leadId ≠ row.leadId := fun heq =>
      hne (hdb.single r hr row h.stored heq hp h.pending)
    rw [h.owner_eq, if_neg fun hc => hlead hc.1]
    exact hdb.owned r hr hp
  · rcases h.mem_requests.mp hr with rfl | ⟨hr, -⟩
    · exact ⟨decidedBy, rfl, h.separate.symm⟩
    · exact hdb.separate r hr hd

theorem unmoved (h : Decided db row input decidedBy now db') (hrejected : input.approved = false) :
    Unmoved db db' := by
  have hstatus : (decideRow input decidedBy now row).status = .REJECTED := by
    simp [status_eq, hrejected]
  have hrow := h.mem_requests.mpr (.inl rfl)
  refine ⟨fun leadId => by simp [h.owner_eq, hrejected], fun id => by simp [h.followUps, hrejected],
    fun r hr happroved => ?_, fun a ha htype => ?_, fun receipt hrec => ?_⟩
  · rcases h.mem_requests.mp hr with rfl | ⟨hr, -⟩
    · simp [hstatus] at happroved
    · exact hr
  · -- the activity of a rejection is not a change of assignment
    obtain ⟨_, _, _, _, _, -, -, -, -, hacts, -, heff⟩ := h.effect
    rw [heff.activities, hacts, mem_append, mem_singleton] at ha
    rcases ha with ha | rfl
    · exact ha
    · simp [reassignmentActivity, ReassignmentOperation.activityType, hstatus] at htype
  · obtain ⟨_, _, _, _, _, -, -, -, -, -, hrecs, heff⟩ := h.effect
    rcases (mem_create heff.receipts).mp hrec with hrec | rfl
    · exact .inl (hrecs ▸ hrec)
    · exact .inr ⟨_, hrow, by simp [hstatus], _, rfl⟩

theorem approved (h : Decided db row input decidedBy now db') (happroved : input.approved) :
    Approved row db db' := by
  have hstatus : (decideRow input decidedBy now row).status = .APPROVED := by
    simp [status_eq, happroved]
  obtain ⟨lead, intent, transferred, o, db₁, hlead, -, hkey, -, hacts, hrecs, heff⟩ :=
    h.effect
  obtain ⟨-, hid⟩ := Database.lead_eq_some.mp hlead
  refine ⟨⟨h.stored, h.pending⟩, ⟨_, by rw [h.request_eq, if_pos rfl], hstatus⟩,
    fun id hne => by rw [h.request_eq, if_neg hne], h.owned,
    fun leadId => by simp [h.owner_eq, happroved], fun id => by simp [h.followUps, happroved],
    ⟨_, hacts ▸ heff.activities, hid, ?_, ?_, ?_⟩,
    ⟨_, hrecs ▸ create_rows heff.receipts, hid, hkey, _, rfl⟩⟩
  · simp [reassignmentActivity, ReassignmentOperation.activityType, hstatus]
  · rw [← hkey]
    rfl
  · simp only [reassignmentActivity, hstatus, if_true]
    rfl

end Decided

/-! ### The service -/

/-- A call of the service, with the answers and the identifiers the world gives
to its transaction. -/
inductive ReassignmentCall
  | request (leadId : String) (input : CreateReassignmentInput) (correlationId : String)
    (auth : Authority) (d : Draw) : ReassignmentCall
  | decide (requestId : String) (input : DecideReassignmentInput) (correlationId : String)
    (auth : Authority) (d : Draw) : ReassignmentCall

variable (rt) in
def transact (db : Database) : ReassignmentCall → Outcome (ReassignmentRequestRow × Database)
  | .request leadId input correlationId auth d =>
    requestForApi rt db leadId input correlationId auth d
  | .decide requestId input correlationId auth d =>
    decideForApi rt db requestId input correlationId auth d

variable (rt) in
/-- The reassignment service over its database: a call that throws is rolled
back. -/
def reassignments : Machine Database ReassignmentCall (Outcome ReassignmentRequestRow) where
  step db call := match transact rt db call with
    | .ok (row, db') => (.ok row, db')
    | .error e => (.error e, db)

theorem Unmoved.refl (db : Database) : Unmoved db db :=
  ⟨fun _ => rfl, fun _ => rfl, fun _ hr _ => hr, fun _ ha _ => ha, fun _ hr => .inl hr⟩

/-- **One step**: a call keeps what every state keeps, leaves what is decided,
and moves nothing or all an approval moves. -/
theorem reassignments_step (hdb : Consistent db) (call : ReassignmentCall) :
    let db' := (reassignments rt).next db call
    Consistent db' ∧ Kept db db' ∧ Moves db db' := by
  have hrefl : Consistent db ∧ Kept db db ∧ Moves db db :=
    ⟨hdb, fun _ hr _ => hr, .inl (Unmoved.refl db)⟩
  simp only [Machine.next, reassignments]
  split
  · rename_i row db' h
    cases call with
    | request leadId input correlationId auth d =>
      obtain rfl | h := requestForApi_cases h
      · exact hrefl
      · exact ⟨h.consistent hdb, h.kept, .inl h.unmoved⟩
    | decide requestId input correlationId auth d =>
      obtain rfl | ⟨row, decidedBy, now, h, -⟩ := decideForApi_cases h
      · exact hrefl
      · refine ⟨h.consistent hdb, h.kept, ?_⟩
        cases happroved : input.approved with
        | false => exact .inl (h.unmoved happroved)
        | true => exact .inr ⟨row, h.approved happroved⟩
  · exact hrefl

theorem consistent_of_no_requests (h : db.reassignmentRequests.rows = []) : Consistent db := by
  constructor <;> simp [h]

theorem kept_run (hdb : Consistent db) (calls : List ReassignmentCall) :
    Kept db ((reassignments rt).run db calls) := by
  induction calls generalizing db with
  | nil => exact fun _ hr _ => hr
  | cons call calls ih =>
    obtain ⟨hdb', hkept, -⟩ := @reassignments_step rt db hdb call
    exact fun r hr hdecided => ih hdb' r (hkept r hr hdecided) hdecided

/-- **Reassignments are consistent**: whatever requests, approvals, rejections
and retries are made of a database without requests, in any order, every state
keeps one pending request for a lead at most, naming the owner of the lead, and
deciders who are not requesters; a request that was decided stays as it was
decided; and every step moves nothing, or all that an approval moves. -/
theorem reassignments_consistent (db : Database) (hdb : db.reassignmentRequests.rows = [])
    (calls : List ReassignmentCall) :
    (reassignments rt).Throughout Consistent db calls ∧ (∀ pre post, calls = pre ++ post →
        Kept ((reassignments rt).run db pre) ((reassignments rt).run db calls)) ∧
      ∀ pre call post, calls = pre ++ call :: post →
        Moves ((reassignments rt).run db pre) ((reassignments rt).run db (pre ++ [call])) := by
  have hthroughout : (reassignments rt).Throughout Consistent db calls :=
    Machine.throughout_of_step (I := Consistent)
      (fun db call h => (reassignments_step h call).1) (consistent_of_no_requests hdb) calls
  refine ⟨hthroughout, fun pre post hcalls => ?_, fun pre call post hcalls => ?_⟩
  · rw [hcalls, Machine.run_append]
    exact kept_run (hthroughout pre ⟨post, hcalls.symm⟩) post
  · rw [Machine.run_append]
    exact (reassignments_step (hthroughout pre ⟨_, hcalls.symm⟩) call).2.2

/-! ### An approval that leaves a follow-up -/

section Example

def exampleOwner : String := "00000000-0000-0000-0000-00000000000a"

def exampleTarget : String := "00000000-0000-0000-0000-00000000000b"

/-- A lead with a scheduled follow-up. -/
def exampleOwnership : Database where
  references := {
    references := .ofRows [{
      id := "campus-1", kind := .CAMPUS, code := "CASABLANCA", label := "Casablanca"
      scopeKey := "GLOBAL", state := .ACTIVE }]
    keys := .ofRows [{
      referenceId := "campus-1", kind := .CAMPUS, scopeKey := "GLOBAL", key := "CASABLANCA" }]
    availability := .empty }
  leads := .ofRows [{
    id := "lead-1", leadCode := "LD-2026-00000001", firstName := "Lina", lastName := "Alami"
    campus := "CASABLANCA", campaign := "RENTREE", educationLevel := "BAC", program := "B1"
    source := "YNOV_COM", assignedToId := some exampleOwner, createdAt := 0 }]
  leadFollowUps := .ofRows [{
    id := "follow-up-1", leadId := "lead-1", ownerId := exampleOwner, dueAt := 100
    state := .SCHEDULED, reason := "CALL", idempotencyKey := "follow-up-0001" }]

/-- A principal who may act, and any target. -/
def allowing (principal : Principal) : Authority :=
  ⟨fun _ => .ok principal, fun _ => .ok (), fun _ => .ok []⟩

/-- The owner asks for another one, and for the follow-ups to stay. -/
def exampleRequest : ReassignmentCall :=
  .request "lead-1" ⟨exampleTarget, "leaves the team", false, "reassign-0001"⟩ "c-1"
    (allowing ⟨exampleOwner, [.ADMISSIONS], [.CAMPUS "CASABLANCA"], "session-1"⟩)
    { activityId := "event-1", outboxId := "outbox-1", now := 10, storedAt := 10
      requestId := "request-1" }

def exampleApproval : ReassignmentCall :=
  .decide "request-1" { approved := true, reason := "agreed" } "c-2"
    (allowing ⟨"manager-1", [.MANAGER], [.GLOBAL], "session-2"⟩)
    { activityId := "event-2", outboxId := "outbox-2", now := 20, storedAt := 20
      requestId := "request-2" }

/-- Two calls on a lead, the second of which approves the first. -/
theorem reassignment_consistent :
    (reassignments .plain).Throughout Consistent exampleOwnership
      [exampleRequest, exampleApproval] :=
  (reassignments_consistent exampleOwnership (by decide) [exampleRequest, exampleApproval]).1

/-- **An approval keeps the follow-ups it was not asked to move**: the lead, the
receipt and the activity are the ones of the new owner, and the open follow-up
is still the previous owner's. -/
theorem approval_keeps_follow_up :
    let db := (reassignments .plain).run exampleOwnership [exampleRequest, exampleApproval]
    owner exampleOwnership "lead-1" = some (some exampleOwner) ∧
      owner db "lead-1" = some (some exampleTarget) ∧
      (∃ receipt ∈ db.leadMutationReceipts.rows,
        receipt.idempotencyKey = decisionKey "request-1" ∧ receipt.leadId = "lead-1") ∧
      (∃ a ∈ db.leadActivities.rows, a.type = .ASSIGNMENT_CHANGED ∧ a.leadId = "lead-1") ∧
      ∃ f ∈ db.leadFollowUps.rows,
        f.leadId = "lead-1" ∧ f.state = .SCHEDULED ∧ f.ownerId = exampleOwner := by
  decide +kernel

end Example

end CrmYnov.Assignment
