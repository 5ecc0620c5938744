import CrmYnov.Collaboration.Answers

/-!
# Collaborators and approvals agree

From a database in which no one has asked for anything, the collaborators of a lead are, at
any moment, those there were at first, after the approvals that were committed, in their order;
and the approvals are the requests that are stored as approved. A request that is pending can
be decided: its lead is still there and is not assigned to the user it names, who collaborates
exactly when the request is to remove one, and no decision on it has left anything
(`CrmYnov.Collaboration.Sound`). So a manager who did not make it can approve it or reject it
when no call is running and nothing fails.
-/

namespace CrmYnov.Collaboration

open Checked Leads Assignment Table Js Outbox List Option

variable {rt : Runtime} {db db' : Database}

/-! ### Keys -/

def requestKey (leadId correlationId : String) : String :=
  "collaboration-request:" ++ leadId ++ ":" ++ correlationId

theorem toList_requestKey (leadId correlationId : String) :
    (requestKey leadId correlationId).toList =
      "collaboration-request:".toList ++ (leadId.toList ++ (":".toList ++ correlationId.toList)) := by
  unfold requestKey
  rw [String.toList_append, String.toList_append, String.toList_append, append_assoc,
    append_assoc]

theorem toList_decisionKey (id : String) (v : ℕ) :
    (decisionKey id v).toList =
      "collaboration-decision:".toList ++ (id.toList ++ (":".toList ++ (toString (v : ℤ)).toList)) := by
  unfold decisionKey
  rw [String.toList_append, String.toList_append, String.toList_append, append_assoc,
    append_assoc]

theorem decisionKey_inj {id id' : String} {v : ℕ} (h : decisionKey id v = decisionKey id' v) :
    id = id' := by
  have htexts := toList_decisionKey id v
  rw [h, toList_decisionKey] at htexts
  exact String.ext (append_cancel_right (append_cancel_left htexts)).symm

theorem requestKey_inj {leadId leadId' correlationId correlationId' : String}
    (hid : Canonical leadId) (hid' : Canonical leadId')
    (h : requestKey leadId correlationId = requestKey leadId' correlationId') : leadId = leadId' := by
  have htexts := toList_requestKey leadId correlationId
  rw [h, toList_requestKey] at htexts
  exact String.ext (append_inj_left (append_cancel_left htexts)
    (hid'.length_eq.trans hid.length_eq.symm)).symm

variable {correlationId id leadId : String}

theorem decisionKey_ne_requestKey {v : ℕ} : decisionKey id v ≠ requestKey leadId correlationId := by
  intro h
  have htake : (decisionKey id v).toList.take 15 = (requestKey leadId correlationId).toList.take 15 := by
    rw [h]
  rw [toList_decisionKey, toList_requestKey, take_append_of_le_length (by decide),
    take_append_of_le_length (by decide)] at htake
  exact absurd htake (by decide)

theorem isReference_of_hexDigit {c : Char} (h : isHexDigitAnyCase c = true) :
    isReference c = true := by
  have hf : 'f' ≤ 'z' := by decide
  have hF : 'F' ≤ 'Z' := by decide
  simp only [isHexDigitAnyCase, isHexDigit, Bool.or_eq_true, Bool.and_eq_true,
    decide_eq_true_eq] at h
  simp only [isReference, isAlnum, isLower, isUpper, Bool.or_eq_true,
    Bool.and_eq_true, decide_eq_true_eq]
  rcases h with (hdigit | ⟨hlo, hhi⟩) | ⟨hlo, hhi⟩
  · tauto
  · have := Char.le_trans hhi hf
    tauto
  · have := Char.le_trans hhi hF
    tauto

theorem isReference_of_canonical (h : Canonical id) :
    ∀ c ∈ id.toList, isReference c = true := by
  have huuid : isUuidText id = true := by
    rw [Canonical, readUuid] at h
    split at h
    · assumption
    · cases h
  refine forall_of_hasShape huuid fun cls hcls c hc => ?_
  simp only [mem_append, mem_replicate, mem_singleton] at hcls
  have hcases : cls = isHexDigitAnyCase ∨ cls = fun c => c == '-' := by tauto
  rcases hcases with rfl | rfl
  · exact isReference_of_hexDigit hc
  · obtain rfl := beq_iff_eq.mp hc
    decide

theorem leadReference_of_canonical (h : Canonical id) :
    fullMatch isReference 1 80 id = true := by
  rw [fullMatch, h.length_eq, all_eq_true.mpr (isReference_of_canonical h)]
  decide

theorem decisionReference_of_canonical (h : Canonical id) :
    fullMatch isReference 8 160 ("outbox:" ++ decisionKey id 1) = true := by
  have htext : ("outbox:" ++ decisionKey id 1).toList =
      "outbox:collaboration-decision:".toList ++ (id.toList ++ ":1".toList) := by
    rw [String.toList_append, toList_decisionKey]
    rfl
  have hall : (id.toList.all isReference) = true :=
    all_eq_true.mpr (isReference_of_canonical h)
  rw [fullMatch, htext, all_append, all_append, hall, length_append,
    length_append, h.length_eq]
  decide

/-! ### What every database keeps -/

/-- The request can be decided: its lead is there, is complete and is not assigned to the user
it names, who collaborates when the request is to remove one. -/
structure Open (db : Database) (r : LeadCollaborationRequestRow) : Prop where
  version : r.version = 1
  lead : ∃ l, db.lead r.leadId = some l ∧ l.assignedToId ≠ some r.targetUserId ∧ Complete l
  action : r.action = .ADD ↔ ¬Collaborates db.leadCollaborators r.leadId r.targetUserId

structure Sound (rt : Runtime) (db : Database) : Prop where
  leads : ∀ id l, db.lead id = some l → Canonical id
  ids : ∀ r ∈ db.leadCollaborationRequests.rows, Canonical r.id
  pending : ∀ r ∈ db.leadCollaborationRequests.rows, r.state = .PENDING → Open db r
  alone : ∀ r ∈ db.leadCollaborationRequests.rows, ∀ r' ∈ db.leadCollaborationRequests.rows,
    PendingFor r.leadId r.targetUserId r → PendingFor r.leadId r.targetUserId r' → r' = r
  decided : ∀ id, Used db (decisionKey id 1) →
    ∃ r ∈ db.leadCollaborationRequests.rows, r.id = id ∧ r.state ≠ .PENDING
  requested : ∀ x ∈ db.leadMutationReceipts.rows, ∀ leadId correlationId, Canonical leadId →
    x.idempotencyKey = requestKey leadId correlationId → ∀ l, db.lead leadId = some l → Complete l
  audits : ∀ e ∈ db.auditEvents.rows, ∀ digest, e.idempotencyKey = "lead-audit:" ++ digest →
    ∃ x ∈ db.leadMutationReceipts.rows, digest = rt.sha256 x.idempotencyKey

variable {key : String}

theorem Recorded.lead (h : Recorded rt db leadId key db') {l : LeadRow} (hl : db.lead id = some l) :
    ∃ l', db'.lead id = some l' ∧ Kin l l' := by
  have hrel := h.leads id
  rw [hl] at hrel
  generalize hl' : db'.lead id = o at hrel
  cases hrel with
  | some hkin => exact ⟨_, rfl, hkin⟩

theorem Recorded.lead_of (h : Recorded rt db leadId key db') {l' : LeadRow}
    (hl' : db'.lead id = some l') : ∃ l, db.lead id = some l ∧ Kin l l' := by
  have hrel := h.leads id
  rw [hl'] at hrel
  generalize hl : db.lead id = o at hrel
  cases hrel with
  | some hkin => exact ⟨_, rfl, hkin⟩

theorem Recorded.auditsOf (h : Recorded rt db leadId key db') (hdb : Sound rt db) :
    ∀ e ∈ db'.auditEvents.rows, ∀ digest, e.idempotencyKey = "lead-audit:" ++ digest →
        ∃ x ∈ db'.leadMutationReceipts.rows, digest = rt.sha256 x.idempotencyKey := by
  intro e he digest hkey
  rcases h.audits e he with hold | hnew
  · obtain ⟨x, hx, hdigest⟩ := hdb.audits e hold digest hkey
    exact ⟨x, h.receipts x hx, hdigest⟩
  · obtain ⟨x, hx, hxkey⟩ := h.receipt
    refine ⟨x, hx, ?_⟩
    rw [hxkey]
    exact (String.append_right_inj _).mp (hkey.symm.trans hnew)

theorem Recorded.requestedOf (h : Recorded rt db leadId key db') (hdb : Sound rt db)
    (hkey : ∀ leadId' correlationId, Canonical leadId' → key = requestKey leadId' correlationId →
      ∀ l, db.lead leadId' = some l → Complete l) :
    ∀ x ∈ db'.leadMutationReceipts.rows, ∀ leadId' correlationId, Canonical leadId' →
      x.idempotencyKey = requestKey leadId' correlationId →
        ∀ l, db'.lead leadId' = some l → Complete l := by
  intro x hx leadId' correlationId hcanonical hxkey l' hl'
  obtain ⟨l, hl, hkin⟩ := h.lead_of hl'
  refine hkin.complete ?_
  rcases h.newReceipts x hx with hold | hnew
  · exact hdb.requested x hold leadId' correlationId hcanonical hxkey l hl
  · exact hkey leadId' correlationId hcanonical (hnew.symm.trans hxkey) l hl

variable {r : LeadCollaborationRequestRow}

theorem Open.recorded {db'' : Database} (hr : Open db r) (h : Recorded rt db leadId key db')
    (hleads : db''.leads = db'.leads)
    (hsame : Collaborates db''.leadCollaborators r.leadId r.targetUserId ↔
      Collaborates db.leadCollaborators r.leadId r.targetUserId) : Open db'' r := by
  obtain ⟨l, hl, hassigned, hcomplete⟩ := hr.lead
  obtain ⟨l', hl', hkin⟩ := h.lead hl
  refine ⟨hr.version, ⟨l', ?_, ?_, hkin.complete hcomplete⟩, ?_⟩
  · rw [Database.lead, hleads]
    exact hl'
  · rwa [hkin.assignedToId]
  · rw [hsame]
    exact hr.action

/-! ### What a call keeps -/

/-- **A request that is answered** leaves a sound database. -/
theorem Sound.requested_step {leadId correlationId requestId : String} (hdb : Sound rt db)
    (hid : Canonical requestId) (h : Requested rt db leadId correlationId requestId r db') :
    Sound rt db' := by
  obtain ⟨db₁, requests, rfl, hrecorded, hcreate⟩ := h.recorded
  obtain ⟨row, hrow, hassigned, hact⟩ := h.lead
  have hcanonical := hdb.leads leadId row hrow
  have hmem := fun x => @mem_create _ _ _ _ _ _ _ x hcreate
  -- the lead is complete: it was screened now, or when the receipt was made
  have hcomplete : ∀ l, db.lead leadId = some l → Complete l := by
    rcases hrecorded.complete with ⟨x, hx, hkey⟩ | hcomplete
    · exact hdb.requested x hx leadId correlationId hcanonical hkey
    · exact hcomplete
  refine ⟨fun id l hl => ?_, fun x hx => ?_, fun x hx hx' => ?_, fun x hx y hy hp hp' => ?_,
    fun id hused => ?_, hrecorded.requestedOf hdb ?_, hrecorded.auditsOf hdb⟩
  · obtain ⟨l', hl', -⟩ := hrecorded.lead_of hl
    exact hdb.leads id l' hl'
  · rcases (hmem x).mp hx with hx | rfl
    · exact hdb.ids x hx
    · rwa [h.id]
  · rcases (hmem x).mp hx with hx | rfl
    · exact (hdb.pending x hx hx').recorded hrecorded rfl
        (iff_of_eq (congrArg (fun t => Collaborates t _ _) hrecorded.collaborators))
    · refine Open.recorded ⟨h.version, ⟨row, h.about ▸ hrow, hassigned, hcomplete row hrow⟩, ?_⟩
        hrecorded rfl (iff_of_eq (congrArg (fun t => Collaborates t _ _) hrecorded.collaborators))
      rw [h.about]
      exact hact
  · rcases (hmem x).mp hx with hx | rfl <;> rcases (hmem y).mp hy with hy | rfl
    · exact hdb.alone x hx y hy hp hp'
    · exact absurd ⟨hp'.1.symm.trans h.about, hp'.2.1.symm, hp.2.2⟩ (h.alone x hx)
    · rw [h.about] at hp'
      exact absurd hp' (h.alone y hy)
    · rfl
  · rcases hrecorded.used _ hused with hold | hkey
    · obtain ⟨x, hx, hxid, hstate⟩ := hdb.decided id hold
      exact ⟨x, (hmem x).mpr (.inl hx), hxid, hstate⟩
    · exact absurd hkey decisionKey_ne_requestKey
  · intro leadId' correlationId' hcanonical' hkey l hl
    obtain rfl := requestKey_inj hcanonical hcanonical' hkey
    exact hcomplete l hl

variable {updated : LeadCollaborationRequestRow}

theorem Decided.mem (h : Decided rt db id updated db') {current : LeadCollaborationRequestRow}
    (hcur : db.leadCollaborationRequests.findUnique id = some current)
    (x : LeadCollaborationRequestRow) :
    x ∈ db'.leadCollaborationRequests.rows ↔
      x = updated ∨ (x ∈ db.leadCollaborationRequests.rows ∧ x ≠ current) := by
  obtain ⟨current', hcur', hpend, hupdated, htable, -⟩ := h.request
  obtain rfl := mem_unique hcur hcur'
  obtain ⟨hmem, hkey⟩ := findUnique_eq_some.mp hcur
  have hsettled : settleRequest updated current = updated := by
    rw [hupdated]
    rfl
  have honly : ∀ y ∈ db.leadCollaborationRequests.rows,
      StillPending current.id current.version y ↔ y = current := by
    intro y hy
    constructor
    · intro hstill
      exact db.leadCollaborationRequests.eq_of_key hy hmem (mem_singleton.mpr rfl)
        (mem_singleton.mpr hstill.1)
    · rintro rfl
      exact ⟨rfl, hpend, rfl⟩
  rw [htable, mem_updateMany]
  constructor
  · rintro ⟨y, hy, rfl⟩
    by_cases hsame : y = current
    · rw [if_pos ((honly y hy).mpr hsame), hsame, hsettled]
      exact .inl rfl
    · rw [if_neg fun hc => hsame ((honly y hy).mp hc)]
      exact .inr ⟨hy, hsame⟩
  · rintro (rfl | ⟨hx, hne⟩)
    · refine ⟨current, hmem, ?_⟩
      rw [if_pos ((honly current hmem).mpr rfl), hsettled]
    · exact ⟨x, hx, if_neg fun hc => hne ((honly x hx).mp hc)⟩

/-- **A decision that is answered** leaves a sound database. -/
theorem Sound.decided_step (hdb : Sound rt db) (h : Decided rt db id updated db') :
    Sound rt db' := by
  obtain ⟨current, hcur, hpend, hupdated, -, db₁, requests, collaborators, hdb', hrecorded⟩ :=
    h.request
  have hmem := h.mem hcur
  obtain ⟨hin, hkey⟩ := findUnique_eq_some.mp hcur
  have hid : current.id = id := (mem_singleton.mp hkey).symm
  have hopen := hdb.pending current hin hpend
  rw [hopen.version] at hrecorded
  have hlead : updated.leadId = current.leadId := by rw [hupdated]
  have htarget : updated.targetUserId = current.targetUserId := by rw [hupdated]
  have hdone : updated.state ≠ .PENDING := by
    rcases h.state with hstate | hstate <;> rw [hstate] <;> decide
  -- a request that is still pending is about another user, or about another lead
  have hother : ∀ x ∈ db.leadCollaborationRequests.rows, x ≠ current → x.state = .PENDING →
      ¬(x.leadId = current.leadId ∧ x.targetUserId = current.targetUserId) := by
    intro x hx hne hstate hsame
    exact hne (hdb.alone current hin x hx ⟨rfl, rfl, hpend⟩ ⟨hsame.1, hsame.2, hstate⟩)
  refine ⟨fun leadId l hl => ?_, fun x hx => ?_, fun x hx hstate => ?_, fun x hx y hy hp hp' => ?_,
    fun id' hused => ?_, ?_, ?_⟩
  · rw [hdb'] at hl
    obtain ⟨l', hl', -⟩ := hrecorded.lead_of hl
    exact hdb.leads leadId l' hl'
  · rcases (hmem x).mp hx with rfl | ⟨hx, -⟩
    · rw [hupdated]
      exact hdb.ids current hin
    · exact hdb.ids x hx
  · rcases (hmem x).mp hx with rfl | ⟨hx, hne⟩
    · exact absurd hstate hdone
    · refine (hdb.pending x hx hstate).recorded hrecorded (by rw [hdb']) ?_
      rw [h.collaborators]
      split
      · rename_i happroved
        have hne' : x.targetUserId ≠ updated.targetUserId := fun hc =>
          hother x hx hne hstate ⟨happroved.2.symm.trans hlead, hc.trans htarget⟩
        rw [mem_afterApproval, mem_activeCollaborators]
        simp [hne']
      · exact Iff.rfl
  · rcases (hmem x).mp hx with rfl | ⟨hx, -⟩
    · exact absurd hp.2.2 hdone
    rcases (hmem y).mp hy with rfl | ⟨hy, -⟩
    · exact absurd hp'.2.2 hdone
    exact hdb.alone x hx y hy hp hp'
  · have hused : Used db₁ (decisionKey id' 1) := by
      rw [hdb'] at hused
      exact hused
    rcases hrecorded.used _ hused with hold | hkey
    · obtain ⟨x, hx, hxid, hstate⟩ := hdb.decided id' hold
      refine ⟨x, (hmem x).mpr (.inr ⟨hx, ?_⟩), hxid, hstate⟩
      rintro rfl
      exact hstate hpend
    · refine ⟨updated, (hmem updated).mpr (.inl rfl), ?_, hdone⟩
      rw [decisionKey_inj hkey, ← hid, hupdated]
  · rw [hdb']
    refine hrecorded.requestedOf hdb fun leadId correlationId _ hkey => ?_
    exact absurd hkey decisionKey_ne_requestKey
  · rw [hdb']
    exact hrecorded.auditsOf hdb

/-! ### A request that is pending can be decided -/

/-- A manager who did not make a request decides it, and nothing is in the way: nothing fails
around the call, the identifiers it draws are new, the version of the lead fits its column and
no other key has the digest of the decision's. -/
structure Deciding (rt : Runtime) (db : Database) (r : LeadCollaborationRequestRow)
    (input : CollaborationDecisionInput) (principal : Principal) (c : CollaborationCircumstances) :
    Prop where
  manager : principal.hasSome Principal.managers
  identified : principal.userId ≠ "" ∧ principal.sessionId ≠ "" ∧ principal.roles ≠ []
  other : r.requesterId ≠ principal.userId
  version : input.expectedVersion = some (r.version : ℤ)
  decision : ∃ d, nonEmpty input.decision = some d
  reason : ∃ t, nonEmpty (input.reason.map trim) = some t
  calm : c.faults = {} ∧ c.save = false ∧ c.snapshot = false
  activityId : ∀ a ∈ db.leadActivities.rows, a.id ≠ c.activityId
  outboxId : ∀ e ∈ db.localOutboxEvents.rows, e.id ≠ c.outboxId
  leadVersion : ∀ l, db.lead r.leadId = some l → l.version + 1 < 2 ^ 31
  digest : ∀ x ∈ db.leadMutationReceipts.rows,
    rt.sha256 x.idempotencyKey = rt.sha256 (decisionKey r.id r.version) →
      x.idempotencyKey = decisionKey r.id r.version

def CollaborationDecisionInput.asks (input : CollaborationDecisionInput) : CollaborationState :=
  if input.decision = some "APPROVE" then .APPROVED else .REJECTED

variable {principal : Principal}

theorem applyCollaborator_of_known {m : LeadMemory} {current : LeadRecord}
    {leadId targetUserId role correlationId : String} {action : CollaboratorAction} {o : Occasion}
    (hmanager : principal.hasSome Principal.managers) (hlead : m.leads.get leadId = some current)
    (hid : current.id = leadId) (hassigned : current.assignedToId ≠ some targetUserId)
    (hact : action = .ADD ↔ targetUserId ∉ current.collaboratorIds) :
    ∃ updated a, applyCollaborator m leadId targetUserId action role principal correlationId o =
        .ok (updated, m.record updated a) ∧
      updated.id = leadId ∧ Untouched current updated ∧ a.id = o.activityId ∧ a.type = .COMMENT := by
  simp only [applyCollaborator, LeadMemory.requireLead, hlead, demand_some, ok_bind,
    require_pos hmanager, require_pos hassigned, require_pos hact]
  exact ⟨_, _, rfl, hid, rfl, rfl, rfl⟩

theorem newActivities_record (m : LeadMemory) (lead : LeadRecord) (a : LeadActivityRecord) :
    newActivities m (m.record lead a) leadId = [] ∨
      newActivities m (m.record lead a) leadId = [a] := by
  have hold : (m.activities.filter fun x =>
      x.leadId = leadId ∧ x.id ∉ m.activities.map LeadActivityRecord.id) = [] := by
    refine filter_eq_nil_iff.mpr fun x hx hnew => ?_
    exact (of_decide_eq_true hnew).2 (mem_map_of_mem hx)
  rw [newActivities, LeadMemory.record, filter_append, hold, nil_append]
  by_cases hnew : a.leadId = leadId ∧ a.id ∉ m.activities.map LeadActivityRecord.id
  · exact .inr (filter_cons_of_pos (decide_eq_true hnew))
  · exact .inl (filter_cons_of_neg (by simpa using hnew))

theorem decide_of_open {input : CollaborationDecisionInput} {c : CollaborationCircumstances}
    {l : LeadRow} {m : LeadMemory} (hr : r ∈ db.leadCollaborationRequests.rows)
    (hpend : r.state = .PENDING) (hopen : Open db r) (hl : db.lead r.leadId = some l)
    (h : Deciding rt db r input principal c) :
    ∃ updated m' after, decide db.leadCollaborationRequests r.id input principal correlationId
        c.toOccasion (m.refresh db) = .ok (updated, m') ∧
      updated.state = input.asks ∧ updated.id = r.id ∧
      m'.leads.get r.leadId = some after ∧ Untouched (mapStoredLead db l) after ∧
      Fresh db (newActivities (m.refresh db) m' r.leadId) := by
  obtain ⟨l', hl', hassigned, -⟩ := hopen.lead
  obtain rfl := mem_unique hl hl'
  obtain ⟨d, hd⟩ := h.decision
  obtain ⟨t, ht⟩ := h.reason
  have hfound : db.leadCollaborationRequests.findUnique r.id = some r :=
    findUnique_of_mem hr (mem_singleton.mpr rfl)
  have hknown : (m.refresh db).leads.get r.leadId = some (mapStoredLead db l) := by
    rw [refresh_lead, hl]
    rfl
  have hgiven : input.decision = some d := by
    rw [nonEmpty, filter_eq_some_iff] at hd
    exact hd.1
  simp only [decide, hfound, hd, ht, demand_some, ok_bind, require_pos h.other, require_pos h.manager,
    require_pos (And.intro hpend h.version)]
  by_cases happrove : d = "APPROVE"
  · have hid : (mapStoredLead db l).id = r.leadId := (Database.lead_eq_some.mp hl).2
    have hact : r.action = .ADD ↔ r.targetUserId ∉ (mapStoredLead db l).collaboratorIds := by
      rw [mem_storedCollaborators, (Database.lead_eq_some.mp hl).2]
      exact hopen.action
    obtain ⟨after, a, happly, hafterId, huntouched, haId, hatype⟩ :=
      @applyCollaborator_of_known principal (m.refresh db) _ r.leadId r.targetUserId r.role.text
        correlationId r.action c.toOccasion h.manager hknown hid hassigned hact
    rw [if_pos happrove, happly]
    refine ⟨_, (m.refresh db).record after a, after, rfl, ?_, rfl, ?_, huntouched, ?_⟩
    · rw [CollaborationDecisionInput.asks, hgiven, happrove, if_pos rfl]
    · rw [← hafterId]
      exact record_get _ _ _
    · rcases @newActivities_record r.leadId (m.refresh db) after a with hnone | hone
      · exact .inl hnone
      · exact .inr ⟨a, hone, hatype, fun x hx => haId ▸ h.activityId x hx⟩
  · rw [if_neg happrove]
    refine ⟨_, _, mapStoredLead db l, rfl, ?_, rfl, hknown, rfl, .inl ?_⟩
    · rw [CollaborationDecisionInput.asks, hgiven, if_neg fun hc => happrove (some.inj hc)]
    · exact eq_nil_of_length_eq_zero
        (Nat.le_zero.mp (length_newActivities (append_nil _).symm))

theorem snapshot_answers {before : Option LeadRecord} {fault : Bool} {s : Process}
    (hcalm : fault = false) :
    ∃ s', snapshotCollaborators updated before fault s = (.ok updated, s') := by
  subst hcalm
  unfold snapshotCollaborators afterwards
  split
  · split
    · exact ⟨_, rfl⟩
    · exact ⟨_, rfl⟩
  · exact ⟨_, rfl⟩

/-- **An open request is decided** as it is asked. -/
theorem decideForApi_of_open {input : CollaborationDecisionInput} {c : CollaborationCircumstances}
    (hdb : Sound rt db) (hr : r ∈ db.leadCollaborationRequests.rows) (hpend : r.state = .PENDING)
    (h : Deciding rt db r input principal c) (memory : LeadMemory) :
    ∃ updated s', decideForApi rt r.id input principal correlationId c ⟨db, memory⟩ =
      (.ok updated, s') ∧ updated.state = input.asks ∧ updated.id = r.id := by
  have hopen := hdb.pending r hr hpend
  obtain ⟨l, hl, -, hcomplete⟩ := hopen.lead
  obtain ⟨updated, m', after, hdecide, hstate, hid, hafter, huntouched, hfresh⟩ :=
    @decide_of_open rt db correlationId r principal input c l memory hr hpend hopen hl h
  have hfound : db.leadCollaborationRequests.findUnique r.id = some r :=
    findUnique_of_mem hr (mem_singleton.mpr rfl)
  have hkey : (decisionMutation db.leadCollaborationRequests r input principal correlationId
      c.toOccasion).idempotencyKey = decisionKey r.id 1 := by
    rw [← hopen.version]
    simp only [decisionMutation, h.version]
    rfl
  -- no decision on the request has left anything
  have hunused : ¬Used db (decisionKey r.id 1) := by
    intro hused
    obtain ⟨x, hx, hxid, hxstate⟩ := hdb.decided r.id hused
    obtain rfl := db.leadCollaborationRequests.eq_of_key hx hr (mem_singleton.mpr rfl)
      (mem_singleton.mpr hxid)
    exact hxstate hpend
  have hlid : l.id = r.leadId := (Database.lead_eq_some.mp hl).2
  have hrecordable : Recordable rt db l (decisionMutation db.leadCollaborationRequests r input
      principal correlationId c.toOccasion).idempotencyKey c.toOccasion := by
    rw [hkey]
    refine ⟨hlid ▸ hl, leadReference_of_canonical (hlid ▸ hdb.leads _ l hl), hcomplete,
      h.leadVersion l hl, decisionReference_of_canonical (hdb.ids r hr), hunused,
      fun e he haudit => ?_, h.outboxId⟩
    obtain ⟨x, hx, hdigest⟩ := hdb.audits e he _ haudit
    have hxkey := h.digest x hx (by rw [hopen.version, ← hdigest])
    exact hunused (.inl ⟨x, hx, by rw [hxkey, hopen.version]⟩)
  have hactor : requireAuditActor principal = .ok () := require_ok_iff.mpr h.identified
  obtain ⟨s₁, hpersist⟩ := answer_of_recordable (r := decisionMutation db.leadCollaborationRequests r
    input principal correlationId c.toOccasion) (c := c.toCircumstances) (s := ⟨db, memory⟩)
    h.calm.1 rfl rfl rfl rfl hactor hlid.symm hdecide hafter huntouched hfresh hrecordable
  obtain ⟨-, -, hrecorded⟩ := recorded_of_decision (s := ⟨db, memory⟩) (c := c.toCircumstances)
    hfound hpersist
  have hone : s₁.db.leadCollaborationRequests.count (StillPending updated.id r.version) = 1 := by
    rw [hrecorded.requests]
    exact count_eq_one hfound ⟨hid.symm, hpend, rfl⟩ fun x hx =>
      mem_singleton.mpr (hid.symm.trans hx.1.symm)
  have hsettle : ∃ db₂, settleCollaboration s₁.db updated r.version = .ok db₂ :=
    ⟨_, bind_ok_iff.mpr ⟨(), require_ok_iff.mpr hone, rfl⟩⟩
  obtain ⟨db₂, hsettle⟩ := hsettle
  obtain ⟨s', hsnap⟩ := @snapshot_answers updated ((memory.refresh db).leads.get r.leadId)
    c.snapshot { s₁ with db := db₂ } h.calm.2.2
  refine ⟨updated, s', ?_, hstate, hid⟩
  unfold decideForApi
  simp only [hfound, hpersist, afterwards, h.calm.2.1, hsettle, hsnap, Bool.false_eq_true, if_false]

end CrmYnov.Collaboration
