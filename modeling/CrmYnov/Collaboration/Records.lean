import CrmYnov.Closing.Mutations

/-!
# What a request and a decision record on their lead

The mutation of a lead that a request or a decision begins with leaves the collaborators and
the requests as they are: it raises the version of the lead, and takes its key in the
receipts, the activities and the outbox. It is refused for a lead whose program or level is
missing, unless the lead comes from the baseline.
-/

/-!
## Requests to collaborate, one unit at a time

The handler of a request or of a decision runs as a whole in one transaction that holds the
exclusive fence of the permissions, whichever instance received the call. The transactions
that the services open inside of it – the mutation of the lead, the storing of the request,
the rewriting of the collaborators – are parts of this one. So a call that is entered sees
what the calls before it have committed, and what it wrote is committed as a whole, when it
has answered, or abandoned as a whole: because it threw, because its process stopped, or
because the database refused it.

Only what is committed is the database. The desk also keeps, besides the database, the
approvals in the order in which they were committed; no call reads them.
-/

namespace CrmYnov.Collaboration

open Checked Leads

inductive Call
  /-- `POST /leads/:leadId/collaboration-requests` -/
  | request (leadId : String) (input : CollaborationInput) (principal : Principal)
    (correlationId : String) (c : CollaborationCircumstances)
  /-- `PATCH /collaboration-requests/:id/decision` -/
  | decide (id : String) (input : CollaborationDecisionInput) (principal : Principal)
    (correlationId : String) (c : CollaborationCircumstances)

def Call.circumstances : Call → CollaborationCircumstances
  | request _ _ _ _ c => c
  | decide _ _ _ _ c => c

def Call.handle (rt : Runtime) (call : Call) (s : Process) :
    Outcome LeadCollaborationRequestRow × Process :=
  match call with
  | request leadId input principal correlationId c =>
    requestForApi rt leadId input principal correlationId c s
  | decide id input principal correlationId c => decideForApi rt id input principal correlationId c s

/-- A call that holds the fence: what it has answered, and the database its transaction
sees. -/
structure OpenUnit where
  answer : Outcome LeadCollaborationRequestRow
  written : Database

/-- The database, the call that holds the fence, and the approvals that were committed. -/
structure Desk where
  db : Database
  running : Option OpenUnit := none
  approved : List LeadCollaborationRequestRow := []

inductive DeskAction
  /-- A call is entered by an instance that has some memory; it waits while another one holds
  the fence. -/
  | enter (memory : LeadMemory) (call : Call)
  /-- The call that holds the fence ends: what it wrote is committed, unless it threw. -/
  | commit
  /-- The call that holds the fence is lost, at any moment before its end. -/
  | abandon

namespace Desk

/-- The approvals, after a call that answered a request. -/
def approvals (s : Desk) (r : LeadCollaborationRequestRow) : List LeadCollaborationRequestRow :=
  if r.state = .APPROVED then s.approved ++ [r] else s.approved

def commit (s : Desk) : Desk :=
  match s.running with
  | some ⟨.ok r, written⟩ => { db := written, running := none, approved := s.approvals r }
  | _ => { s with running := none }

def enter (rt : Runtime) (s : Desk) (memory : LeadMemory) (call : Call) : Desk :=
  match s.running with
  | some _ => s
  | none =>
    let (answer, process) := call.handle rt ⟨s.db, memory⟩
    { s with running := some ⟨answer, process.db⟩ }

def advance (rt : Runtime) (s : Desk) : DeskAction → Desk
  | .enter memory call => s.enter rt memory call
  | .commit => s.commit
  | .abandon => { s with running := none }

end Desk

def desk (rt : Runtime) : Machine Desk DeskAction Unit where
  step s a := ((), s.advance rt a)

def afterApproval (users : List String) (r : LeadCollaborationRequestRow) : List String :=
  r.action.apply users r.targetUserId

/-- The collaborators of a lead after the approved requests about it, one after the other. -/
def afterApprovals (leadId : String) (users : List String)
    (approved : List LeadCollaborationRequestRow) : List String :=
  (approved.filter fun r => r.leadId = leadId).foldl afterApproval users

theorem mem_afterApproval {users : List String} {r : LeadCollaborationRequestRow} {u : String} :
    u ∈ afterApproval users r ↔
      (r.action = .ADD ∧ u = r.targetUserId) ∨
        (u ∈ users ∧ (r.action = .REMOVE → u ≠ r.targetUserId)) := by
  rw [afterApproval]
  cases r.action <;> simp [CollaboratorAction.apply, or_comm]

theorem mem_afterApproval_congr {users users' : List String} {r : LeadCollaborationRequestRow}
    (h : ∀ u, u ∈ users ↔ u ∈ users') (u : String) :
    u ∈ afterApproval users r ↔ u ∈ afterApproval users' r := by
  rw [mem_afterApproval, mem_afterApproval, h]

theorem afterApprovals_append (leadId : String) (users : List String)
    (approved : List LeadCollaborationRequestRow) (r : LeadCollaborationRequestRow) :
    afterApprovals leadId users (approved ++ [r]) =
      if r.leadId = leadId then afterApproval (afterApprovals leadId users approved) r
      else afterApprovals leadId users approved := by
  rw [afterApprovals, List.filter_append, List.foldl_append]
  split
  · rename_i h
    simp [h, afterApprovals]
  · rename_i h
    simp [h, afterApprovals]

end CrmYnov.Collaboration

namespace CrmYnov.Collaboration

open Checked Leads

variable {rt : Runtime} {db db' : Database}

/-! ### Keys and leads -/

/-- A mutation of this key has left something. -/
def Used (db : Database) (key : String) : Prop :=
  (∃ x ∈ db.leadMutationReceipts.rows, x.idempotencyKey = key) ∨
    (∃ a ∈ db.leadActivities.rows, a.idempotencyKey = some key) ∨
    ∃ e ∈ db.localOutboxEvents.rows, e.idempotencyKey = "outbox:" ++ key

/-- The program and the level of the lead are known, or it comes from the baseline. -/
def Complete (l : LeadRow) : Prop :=
  ∀ field ∈ baselineOptionalInformation, ¬Js.present (field l) → l.acquisitionKind = .BASELINE

/-- What a recorded mutation does not change of a lead. -/
structure Kin (l l' : LeadRow) : Prop where
  id : l'.id = l.id
  assignedToId : l'.assignedToId = l.assignedToId
  program : l'.program = l.program
  educationLevel : l'.educationLevel = l.educationLevel
  acquisitionKind : l'.acquisitionKind = l.acquisitionKind

theorem Kin.refl (l : LeadRow) : Kin l l := ⟨rfl, rfl, rfl, rfl, rfl⟩

theorem Kin.complete {l l' : LeadRow} (h : Kin l l') (hl : Complete l) : Complete l' := by
  intro field hfield habsent
  rw [h.acquisitionKind]
  simp only [baselineOptionalInformation, List.mem_cons, List.not_mem_nil, or_false] at hfield
  rcases hfield with rfl | rfl
  · exact hl LeadRow.program (by simp [baselineOptionalInformation]) (by rwa [← h.program])
  · exact hl LeadRow.educationLevel (by simp [baselineOptionalInformation])
      (by rwa [← h.educationLevel])

def Plain (operation : MutationOperation) : Prop :=
  operation = .COLLABORATION_REQUEST ∨ operation = .COLLABORATION_DECISION

/-- The mutation changes of its lead at most when it was last active. -/
def Untouched (before after : LeadRecord) : Prop :=
  after.toLeadRow = { before.toLeadRow with lastActivityAt := after.lastActivityAt }

structure Recorded (rt : Runtime) (db : Database) (leadId key : String) (db' : Database) : Prop where
  requests : db'.leadCollaborationRequests = db.leadCollaborationRequests
  collaborators : db'.leadCollaborators = db.leadCollaborators
  leads : ∀ id, Option.Rel Kin (db.lead id) (db'.lead id)
  used : ∀ k, Used db' k → Used db k ∨ k = key
  receipts : ∀ x ∈ db.leadMutationReceipts.rows, x ∈ db'.leadMutationReceipts.rows
  receipt : ∃ x ∈ db'.leadMutationReceipts.rows, x.idempotencyKey = key
  newReceipts : ∀ x ∈ db'.leadMutationReceipts.rows,
    x ∈ db.leadMutationReceipts.rows ∨ x.idempotencyKey = key
  audits : ∀ e ∈ db'.auditEvents.rows,
    e ∈ db.auditEvents.rows ∨ e.idempotencyKey = "lead-audit:" ++ rt.sha256 key
  complete : (∃ x ∈ db.leadMutationReceipts.rows, x.idempotencyKey = key) ∨
    ∀ l, db.lead leadId = some l → Complete l

theorem rel_refl {o : Option LeadRow} : Option.Rel Kin o o := by
  cases o with
  | none => exact .none
  | some l => exact .some (.refl l)

theorem Recorded.replay {leadId key : String} {x : LeadMutationReceipt}
    (hx : db.leadMutationReceipts.findUnique key = some x) : Recorded rt db leadId key db := by
  obtain ⟨hmem, hkey⟩ := Table.findUnique_eq_some.mp hx
  have hkey' : x.idempotencyKey = key := (List.mem_singleton.mp hkey).symm
  exact ⟨rfl, rfl, fun _ => rel_refl, fun k hk => .inl hk, fun _ h => h, ⟨x, hmem, hkey'⟩,
    fun _ h => .inl h, fun _ h => .inl h, .inl ⟨x, hmem, hkey'⟩⟩

/-! ### What the transaction of a mutation writes -/

theorem complete_of_allowed {before after row : LeadRow} {allow : Bool}
    (h : allowMissingBaselineProgram db before after = .ok allow) (hrow : db.lead before.id = some row)
    (hprogram : after.program = row.program) (hlevel : after.educationLevel = row.educationLevel) :
    Complete row := by
  intro field hfield habsent
  have hafter : ¬Js.present (field after) := by
    simp only [baselineOptionalInformation, List.mem_cons, List.not_mem_nil, or_false] at hfield
    rcases hfield with rfl | rfl
    · rwa [hprogram]
    · rwa [hlevel]
  rw [allowMissingBaselineProgram, if_pos ⟨field, hfield, hafter⟩] at h
  simp only [ok_iff] at h
  obtain ⟨current, hcur, -, -, -, hunknown, -⟩ := h
  obtain rfl := Option.mem_unique hrow hcur
  exact (hunknown field hfield hafter).1

theorem auditMutation_audits {eventType leadId key correlationId : String} {version : ℕ}
    {principal : Principal}
    (h : auditMutation rt db eventType leadId version key principal correlationId none = .ok db') :
    ∃ t, { db with auditEvents := t } = db' ∧ ∀ e ∈ t.rows,
      e ∈ db.auditEvents.rows ∨ e.idempotencyKey = "lead-audit:" ++ rt.sha256 key := by
  simp only [auditMutation, bind_ok_iff, Database.audit_ok_iff] at h
  obtain ⟨_, _, _, _, t, hcreate, rfl⟩ := h
  refine ⟨t, rfl, fun e he => ?_⟩
  rcases (Table.mem_create hcreate).mp he with he | rfl
  · exact .inl he
  · exact .inr rfl

theorem rel_mutate {row before after : LeadRow} (hrow : row ∈ db.leads.rows)
    (hid : before.id = row.id) (hassigned : after.assignedToId = row.assignedToId)
    (hprogram : after.program = row.program) (hlevel : after.educationLevel = row.educationLevel)
    (id : String) :
    Option.Rel Kin (db.lead id) ((db.leads.updateMany (AtVersion before) after.mutate
      (LeadRow.keys_mutate after)).findUnique (.id id)) := by
  rw [Table.findUnique_updateMany, ← Database.lead]
  cases hl : db.lead id with
  | none => exact .none
  | some l =>
    refine .some ?_
    dsimp only
    split
    · rename_i hat
      obtain rfl : l = row := db.leads.eq_of_key (Database.lead_eq_some.mp hl).1 hrow
        (LeadRow.mem_keys_id.mpr rfl) (LeadRow.mem_keys_id.mpr (hat.1.trans hid).symm)
      exact ⟨rfl, hassigned, hprogram, hlevel, rfl⟩
    · exact .refl l

theorem mem_activityRows {activities : List LeadActivityRecord} {key : String} {a : LeadActivityRow}
    (hone : activities.length ≤ 1) (ha : a ∈ activityRows activities key) :
    a.idempotencyKey = some key := by
  rcases activities with _ | ⟨activity, _ | ⟨_, _⟩⟩
  · simp [activityRows] at ha
  · rw [activityRows, List.mem_singleton] at ha
    rw [ha]
    rfl
  · simp at hone

variable {input : PersistMutationInput}

theorem auditFirstContact_eq {result : LeadRecord} (h : input.operation ≠ .ADD_ACTIVITY) :
    auditFirstContact db input result = .ok db := by
  rw [auditFirstContact, if_neg fun hc => h hc.1]
  rfl

theorem mem_enqueued {input : Outbox.OutboxInput} {id : String} {at_ : Instant}
    {events events' : Outbox.Store} {e : Outbox.OutboxEvent}
    (h : Outbox.enqueueInTransaction rt.jsonb input id at_ events = .ok (e, events')) :
    ∀ x ∈ events'.rows, x ∈ events.rows ∨ x.idempotencyKey = input.idempotencyKey := by
  intro x hx
  rcases Outbox.enqueue_cases rt.jsonb h with ⟨rfl, -⟩ | ⟨rfl, hcreate⟩
  · exact .inl hx
  · rcases (Table.mem_create hcreate).mp hx with hx | rfl
    · exact .inl hx
    · exact .inr rfl

/-- The tables a mutation for a request or a decision writes: the lead at its version, the
activities, the audit events, the receipts and the outbox. -/
theorem tables_of_written {o : Occasion} {result : ReceiptResult} (hop : Plain input.operation)
    (hassign : input.assignmentAudit = none)
    (hsame : input.after.referenceValues = input.before.referenceValues)
    (h : persistMutationInTransaction rt db input o = .ok (result, db')) :
    (∃ allow, allowMissingBaselineProgram db input.before.toLeadRow input.after.toLeadRow =
      .ok allow) ∧
    ∃ (after : LeadRow) (activities : Table LeadActivityRow LeadActivityRow.keys)
      (audits : Table AuditEventRow AuditEventRow.keys)
      (receipts : Table LeadMutationReceipt LeadMutationReceipt.keys) (events : Outbox.Store),
      db' = { db with
        leads := db.leads.updateMany (AtVersion input.before.toLeadRow) after.mutate
          (LeadRow.keys_mutate after)
        leadActivities := activities, auditEvents := audits, leadMutationReceipts := receipts
        localOutboxEvents := events } ∧
      (after.assignedToId = input.after.assignedToId ∧ after.program = input.before.program ∧
        after.educationLevel = input.after.educationLevel) ∧
      activities.rows = db.leadActivities.rows ++ activityRows input.activities input.idempotencyKey ∧
      (∀ e ∈ audits.rows, e ∈ db.auditEvents.rows ∨
        e.idempotencyKey = "lead-audit:" ++ rt.sha256 input.idempotencyKey) ∧
      (∃ x, x.idempotencyKey = input.idempotencyKey ∧
        db.leadMutationReceipts.create x = some receipts) ∧
      ∀ e ∈ events.rows, e ∈ db.localOutboxEvents.rows ∨
        e.idempotencyKey = "outbox:" ++ input.idempotencyKey := by
  have hcollaborator : input.operation ≠ .COLLABORATOR := by
    rcases hop with h | h <;> rw [h] <;> decide
  have hactivity : input.operation ≠ .ADD_ACTIVITY := by
    rcases hop with h | h <;> rw [h] <;> decide
  simp only [persistMutationInTransaction, updateLeadVersion, persistMutationRelations, bind_assoc,
    ok_iff, pure_bind, Database.addReceipt_ok_iff] at h
  obtain ⟨allow, hallow, references, href, -, -, -, -, db₁, hacts, db₂, haudit, db₃, hcontact,
    _, ⟨receipts, hrec, rfl⟩, ⟨event, events⟩, houtbox, -, rfl⟩ := h
  rw [auditFirstContact_eq hactivity] at hcontact
  cases hcontact
  obtain ⟨activities, hrows, rfl⟩ := addActivities_ok hacts
  rw [if_neg hcollaborator, hassign, ite_self] at haudit
  obtain ⟨audits, rfl, haudits⟩ := auditMutation_audits haudit
  rw [hsame, References.validateLeadReferences_self, Except.ok.injEq] at href
  subst href
  refine ⟨⟨allow, hallow⟩, { input.after.toLeadRow with
    campus := input.before.campus, program := input.before.program
    campaign := input.before.campaign }, activities, audits, receipts, events, rfl, ?_⟩
  exact ⟨⟨rfl, rfl, rfl⟩, hrows, haudits, ⟨_, rfl, hrec⟩, mem_enqueued houtbox⟩

/-- **What a mutation for a request or a decision writes.** -/
theorem recorded_of_written {o : Occasion} {result : ReceiptResult} {row : LeadRow}
    (hop : Plain input.operation) (hassign : input.assignmentAudit = none)
    (hone : input.activities.length ≤ 1) (hrow : db.lead input.before.id = some row)
    (hread : input.before.toLeadRow = row.read) (hafter : Untouched input.before input.after)
    (h : persistMutationInTransaction rt db input o = .ok (result, db')) :
    Recorded rt db input.before.id input.idempotencyKey db' := by
  have hsame : input.after.referenceValues = input.before.referenceValues := by
    rw [LeadRow.referenceValues, hafter]
    rfl
  have hassigned : input.after.assignedToId = row.assignedToId := by rw [hafter, hread]; rfl
  have hprogram : input.before.program = row.program := by rw [hread]; rfl
  have hlevel : input.after.educationLevel = row.educationLevel := by rw [hafter, hread]; rfl
  have hid : input.before.id = row.id := (Database.lead_eq_some.mp hrow).2.symm
  obtain ⟨⟨allow, hallow⟩, after, activities, audits, receipts, events, rfl, ⟨ha, hp, hl⟩, hrows,
    haudits, ⟨x₀, hx₀, hrec⟩, hevents⟩ := tables_of_written hop hassign hsame h
  have hold := fun x => @Table.mem_create _ _ _ _ _ _ _ x hrec
  refine ⟨rfl, rfl, fun id => ?_, ?_, fun x hx => (hold _).mpr (.inl hx),
    ⟨x₀, (hold _).mpr (.inr rfl), hx₀⟩, fun x hx => ?_, haudits, .inr fun l hfound => ?_⟩
  · exact rel_mutate (Database.lead_eq_some.mp hrow).1 hid (ha.trans hassigned) (hp.trans hprogram)
      (hl.trans hlevel) id
  · rintro k (⟨x, hx, hk⟩ | ⟨a, ha, hk⟩ | ⟨e, he, hk⟩)
    · rcases (hold _).mp hx with hx | rfl
      · exact .inl (.inl ⟨x, hx, hk⟩)
      · exact .inr (hk.symm.trans hx₀)
    · rcases List.mem_append.mp (hrows ▸ ha) with ha | ha
      · exact .inl (.inr (.inl ⟨a, ha, hk⟩))
      · exact .inr (Option.some.inj (hk.symm.trans (mem_activityRows hone ha)))
    · rcases hevents e he with he | hkey
      · exact .inl (.inr (.inr ⟨e, he, hk⟩))
      · exact .inr (String.append_right_inj _ |>.mp (hk.symm.trans hkey))
  · rcases (hold _).mp hx with hx | rfl
    · exact .inl hx
    · exact .inr hx₀
  · obtain rfl := Option.mem_unique hrow hfound
    refine complete_of_allowed hallow hrow ?_ hlevel
    rw [hafter, hread]
    rfl

/-! ### What a mutation that answers has recorded -/

theorem length_newActivities {m m' : LeadMemory} {leadId : String} {added : List LeadActivityRecord}
    (h : m'.activities = m.activities ++ added) :
    (newActivities m m' leadId).length ≤ added.length := by
  have hold : (m.activities.filter fun a =>
      a.leadId = leadId ∧ a.id ∉ m.activities.map LeadActivityRecord.id) = [] := by
    refine List.filter_eq_nil_iff.mpr fun a ha hnew => ?_
    exact (of_decide_eq_true hnew).2 (List.mem_map_of_mem ha)
  rw [newActivities, h, List.filter_append, hold, List.nil_append]
  exact List.length_filter_le _ _

/-- What the operation of a request or of a decision does to the memory it runs on. -/
structure Discreet (m m' : LeadMemory) (leadId : String) : Prop where
  untouched : ∀ before after, m.leads.get leadId = some before →
    m'.leads.get leadId = some after → Untouched before after
  activities : ∃ added : List LeadActivityRecord, added.length ≤ 1 ∧
    m'.activities = m.activities ++ added

theorem Discreet.refl (m : LeadMemory) (leadId : String) : Discreet m m leadId := by
  refine ⟨fun before after hbefore hafter => ?_, [], Nat.zero_le _, (List.append_nil _).symm⟩
  obtain rfl := Option.mem_unique hbefore hafter
  rfl

theorem discreet_applyCollaborator {m m' : LeadMemory}
    {leadId targetUserId role correlationId : String} {action : CollaboratorAction}
    {principal : Principal} {o : Occasion} {updated : LeadRecord} (hm : Keyed m)
    (h : applyCollaborator m leadId targetUserId action role principal correlationId o =
      .ok (updated, m')) : Discreet m m' leadId := by
  simp only [applyCollaborator, LeadMemory.requireLead, ok_iff] at h
  obtain ⟨-, -, current, hcur, -, -, -, -, rfl, rfl⟩ := h
  refine ⟨fun before after hbefore hafter => ?_, [_], le_refl _, rfl⟩
  obtain rfl := Option.mem_unique hcur hbefore
  obtain rfl := hm leadId current hcur
  obtain rfl := Option.some.inj ((record_get m _ _).symm.trans hafter)
  rfl

theorem commit_of_answer {r : ApiMutation LeadCollaborationRequestRow} {c : Circumstances}
    {s s' : Process} {result result' : LeadCollaborationRequestRow}
    (hfinish : r.finish = fun result _ => pure result)
    (h : r.commit rt c s input result' = (.ok result, s')) :
    result' = result ∧ r.persist rt c s.db input result' = .ok s'.db := by
  have hrecover : ∀ (s : Process) fault e, s.recover fault e ≠ (.ok result, s') := by
    intro s fault e heq
    have hrefused := recover_refused (T := LeadCollaborationRequestRow) s fault e
    rw [heq] at hrefused
    simp [Refused] at hrefused
  rw [ApiMutation.commit, hfinish] at h
  split at h
  · exact absurd h (hrecover _ _ _)
  rename_i db hpersist
  simp only [Process.refresh] at h
  split at h
  · exact absurd h (hrecover _ _ _)
  rename_i s₁ hrefresh
  split at hrefresh
  · simp at hrefresh
  obtain rfl := Except.ok.inj hrefresh
  obtain ⟨hresult, rfl⟩ := Prod.mk.inj h
  exact ⟨Except.ok.inj hresult, hpersist⟩

/-- **A mutation that answers** ran on what is committed, and recorded it. -/
theorem recorded_of_answer {r : ApiMutation LeadCollaborationRequestRow} {c : Circumstances}
    {s s' : Process} {result : LeadCollaborationRequestRow} (hop : Plain r.operation)
    (heff : r.atomicEffect = fun _ => pure) (hassign : r.assignmentAudit = none)
    (hfinish : r.finish = fun result _ => pure result)
    (hdiscreet : ∀ result m', r.mutate (s.memory.refresh s.db) = .ok (result, m') →
      Discreet (s.memory.refresh s.db) m' r.leadId)
    (h : persistApiMutation rt r c s = (.ok result, s')) :
    (∃ m', r.mutate (s.memory.refresh s.db) = .ok (result, m')) ∧
      (∃ row, s.db.lead r.leadId = some row) ∧
      Recorded rt s.db r.leadId r.idempotencyKey s'.db := by
  simp only [persistApiMutation, Process.refresh] at h
  split at h
  · cases h
  rename_i s₀ hrefresh
  split at hrefresh
  · cases hrefresh
  cases hrefresh
  dsimp only at h
  split at h
  · cases h
  rename_i before hbefore
  split at h
  · cases h
  rename_i result' memory hmutate
  split at h
  · cases h
  rename_i after hafter
  have hbefore := demand_ok_iff.mp hbefore
  obtain ⟨hresult, hpersist⟩ := commit_of_answer hfinish h
  subst hresult
  obtain ⟨row, hrow, rfl⟩ : ∃ row, s.db.lead r.leadId = some row ∧ mapStoredLead s.db row = before := by
    rwa [refresh_lead, Option.map_eq_some_iff] at hbefore
  have hdiscreet := hdiscreet _ _ hmutate
  refine ⟨⟨memory, hmutate⟩, ⟨row, hrow⟩, ?_⟩
  simp only [ApiMutation.persist, persistMutation, heff, ok_iff] at hpersist
  obtain ⟨-, -, ⟨_, db'⟩, ⟨-, -, hpersist⟩, hdb⟩ := hpersist
  rw [← hdb]
  split at hpersist
  · rename_i receipt hrec
    simp only [ok_iff] at hpersist
    obtain ⟨-, -, -, rfl⟩ := hpersist
    exact .replay hrec
  · simp only [ok_iff, Prod.exists] at hpersist
    obtain ⟨stored, db₁, hwritten, _, rfl, -, rfl⟩ := hpersist
    obtain ⟨added, hadded, hacts⟩ := hdiscreet.activities
    have hid : r.leadId = row.id := (Database.lead_eq_some.mp hrow).2.symm
    rw [hid]
    refine recorded_of_written hop hassign ((length_newActivities hacts).trans hadded)
      (hid ▸ hrow) rfl ?_ hwritten
    have huntouched := hdiscreet.untouched _ after hbefore hafter
    rw [Untouched] at huntouched ⊢
    simp only [ApiMutation.stored]
    rw [huntouched]

end CrmYnov.Collaboration
