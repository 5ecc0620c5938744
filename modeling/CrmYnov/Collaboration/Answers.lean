import CrmYnov.Collaboration.Acceptance

/-!
# What an answered call leaves

A request that is answered leaves a pending request about a user who is not the assignee of
the lead, to add one who does not collaborate or to remove one who does, when no other request
about this user is pending. A decision that is answered leaves its request decided, and, when
it approves, the collaborators of the lead with this user added or removed.
-/

namespace CrmYnov.Collaboration

open Checked Leads Assignment

variable {rt : Runtime} {s s' : Process}

theorem mem_storedCollaborators {db : Database} {row : LeadRow} {u : String} :
    u ∈ (mapStoredLead db row).collaboratorIds ↔ Collaborates db.leadCollaborators row.id u := by
  rw [mapStoredLead, sortTexts, List.mem_insertionSort, mem_activeCollaborators]

theorem afterwards_answer {T : Type} {fault : Bool} {x : Outcome Database}
    {rest : Process → Outcome T × Process} {answer : T}
    (h : afterwards s fault x rest = (.ok answer, s')) :
    fault = false ∧ ∃ db, x = .ok db ∧ rest { s with db } = (.ok answer, s') := by
  unfold afterwards at h
  split at h
  · cases h
  rename_i hfault
  split at h
  · cases h
  · exact ⟨by simpa using hfault, _, rfl, h⟩

/-! ### Requests -/

variable {principal : Principal} {r : LeadCollaborationRequestRow}

theorem request_ok {requests : Requests} {leadId requestId : String} {input : CollaborationInput}
    {m m' : LeadMemory} (h : request requests leadId input principal requestId m = .ok (r, m')) :
    m' = m ∧ r.id = requestId ∧ r.leadId = leadId ∧ r.requesterId = principal.userId ∧
      r.state = .PENDING ∧ r.version = 1 ∧
      requests.findFirst (PendingFor leadId r.targetUserId) = none ∧
      ∃ lead, m.leads.get leadId = some lead ∧ lead.assignedToId ≠ some r.targetUserId ∧
        (r.action = .ADD ↔ r.targetUserId ∉ lead.collaboratorIds) := by
  simp only [request, getLead, LeadMemory.requireLead, ok_iff] at h
  obtain ⟨lead, ⟨-, -, hlead⟩, -, -, action, -, role, -, target, -, justification, -, -, -, -,
    hassigned, -, hact, -, hpend, rfl, rfl⟩ := h
  exact ⟨rfl, rfl, rfl, rfl, rfl, rfl, hpend, lead, hlead, hassigned, hact⟩

/-- **What a request that is answered leaves.** -/
structure Requested (rt : Runtime) (db : Database) (leadId correlationId requestId : String)
    (r : LeadCollaborationRequestRow) (db' : Database) : Prop where
  id : r.id = requestId
  about : r.leadId = leadId
  state : r.state = .PENDING
  version : r.version = 1
  alone : ∀ x ∈ db.leadCollaborationRequests.rows, ¬PendingFor leadId r.targetUserId x
  lead : ∃ row, db.lead leadId = some row ∧ row.assignedToId ≠ some r.targetUserId ∧
    (r.action = .ADD ↔ ¬Collaborates db.leadCollaborators leadId r.targetUserId)
  recorded : ∃ db₁ requests, db' = { db₁ with leadCollaborationRequests := requests } ∧
    Recorded rt db leadId ("collaboration-request:" ++ leadId ++ ":" ++ correlationId) db₁ ∧
    db.leadCollaborationRequests.create r = some requests

theorem requested_of_answer {leadId correlationId : String} {input : CollaborationInput}
    {c : CollaborationCircumstances}
    (h : requestForApi rt leadId input principal correlationId c s = (.ok r, s')) :
    Requested rt s.db leadId correlationId c.requestId r s'.db := by
  rw [requestForApi] at h
  split at h
  · cases h
  rename_i record s₁ hpersist
  obtain ⟨-, db₂, hcreate, hend⟩ := afterwards_answer h
  obtain ⟨hrecord, rfl⟩ := Prod.mk.inj hend
  cases hrecord
  obtain ⟨⟨m', hmutate⟩, ⟨row, hrow⟩, hrecorded⟩ := recorded_of_answer (.inl rfl) rfl rfl rfl
    (fun r m' hm => by
      obtain ⟨rfl, -⟩ := request_ok hm
      exact .refl _ _) hpersist
  obtain ⟨-, hid, hlead, -, hstate, hver, hnone, lead, hfound, hassigned, hact⟩ :=
    request_ok hmutate
  rw [refresh_lead] at hfound
  change (s.db.lead leadId).map _ = some lead at hfound
  change s.db.lead leadId = some row at hrow
  rw [hrow] at hfound
  cases hfound
  obtain rfl := (Database.lead_eq_some.mp hrow).2
  simp only [createCollaboration, ok_iff, insert_ok_iff] at hcreate
  obtain ⟨requests, hcreate, rfl⟩ := hcreate
  rw [hrecorded.requests] at hcreate
  refine ⟨hid, hlead, hstate, hver, fun x hx hp => ?_, ⟨row, hrow, hassigned, ?_⟩,
    ⟨s₁.db, requests, rfl, hrecorded, hcreate⟩⟩
  · exact Table.findFirst_eq_none.mp hnone x hx hp
  · rw [hact, mem_storedCollaborators]

/-! ### Decisions -/

variable {input : CollaborationDecisionInput}

theorem decide_ok {requests : Requests} {id correlationId : String} {o : Occasion}
    {m m' : LeadMemory} {updated : LeadCollaborationRequestRow}
    (h : decide requests id input principal correlationId o m = .ok (updated, m')) :
    ∃ current reason, requests.findUnique id = some current ∧ current.state = .PENDING ∧
      input.expectedVersion = some (current.version : ℤ) ∧ ∃ state, updated = { current with
        state, version := current.version + 1, decidedAt := some o.now
        decidedBy := some principal.userId, decisionReason := some reason } ∧
      ((state = .APPROVED ∧ ∃ lead, applyCollaborator m current.leadId current.targetUserId
          current.action current.role.text principal correlationId o = .ok (lead, m')) ∨
        state = .REJECTED ∧ m' = m) := by
  simp only [decide, ok_iff] at h
  obtain ⟨current, hcur, -, -, -, -, -, ⟨hpend, hver⟩, decision, -, reason, -, h⟩ := h
  refine ⟨current, reason, hcur, hpend, hver, ?_⟩
  split at h
  · simp only [ok_iff, Prod.exists] at h
    obtain ⟨lead, m₁, happly, rfl, rfl⟩ := h
    exact ⟨.APPROVED, rfl, .inl ⟨rfl, lead, happly⟩⟩
  · cases h
    exact ⟨.REJECTED, rfl, .inr ⟨rfl, rfl⟩⟩

theorem mem_collaboratorsAfter {db : Database} {row : LeadRow} {u : String} :
    u ∈ collaboratorsAfter (mapStoredLead db row) r ↔
      u ∈ afterApproval (db.activeCollaborators row.id) r := by
  rw [mem_afterApproval, mem_activeCollaborators, ← mem_storedCollaborators, collaboratorsAfter,
    sortTexts, List.mem_insertionSort]
  cases r.action <;> simp [or_comm]

theorem snapshot_of_answer {record updated : LeadCollaborationRequestRow} {lead : LeadRecord}
    {fault : Bool} {p : Process}
    (h : snapshotCollaborators record (some lead) fault p = (.ok updated, s')) :
    record = updated ∧ s'.db = if record.state = .APPROVED
      then replaceCollaborators p.db record.leadId (collaboratorsAfter lead record) else p.db := by
  simp only [snapshotCollaborators] at h
  split at h
  · rename_i happroved
    obtain ⟨-, db, hdb, hend⟩ := afterwards_answer h
    obtain ⟨hans, rfl⟩ := Prod.mk.inj hend
    cases hdb
    exact ⟨Except.ok.inj hans, by rw [if_pos happroved]⟩
  · rename_i hrejected
    obtain ⟨hans, rfl⟩ := Prod.mk.inj h
    exact ⟨Except.ok.inj hans, by rw [if_neg hrejected]⟩

/-- The key a decision on a pending request is recorded under. -/
def decisionKey (id : String) (version : ℕ) : String :=
  "collaboration-decision:" ++ id ++ ":" ++ toString (version : ℤ)

/-- **What a decision that is answered leaves.** -/
structure Decided (rt : Runtime) (db : Database) (id : String)
    (updated : LeadCollaborationRequestRow) (db' : Database) : Prop where
  state : updated.state = .APPROVED ∨ updated.state = .REJECTED
  request : ∃ current, db.leadCollaborationRequests.findUnique id = some current ∧
    current.state = .PENDING ∧ updated = { current with
      state := updated.state, version := current.version + 1, decidedAt := updated.decidedAt
      decidedBy := updated.decidedBy, decisionReason := updated.decisionReason } ∧
    db'.leadCollaborationRequests = db.leadCollaborationRequests.updateMany
      (StillPending current.id current.version) (settleRequest updated)
      (keys_settleRequest updated) ∧
    ∃ db₁ requests collaborators, db' = { db₁ with
        leadCollaborationRequests := requests, leadCollaborators := collaborators } ∧
      Recorded rt db current.leadId (decisionKey id current.version) db₁
  collaborators : ∀ leadId u, Collaborates db'.leadCollaborators leadId u ↔
    if updated.state = .APPROVED ∧ updated.leadId = leadId
    then u ∈ afterApproval (db.activeCollaborators leadId) updated
    else Collaborates db.leadCollaborators leadId u

theorem recorded_of_decision {current record : LeadCollaborationRequestRow} {correlationId : String}
    {c : Circumstances}
    (hcur : s.db.leadCollaborationRequests.findUnique current.id = some current)
    (h : persistApiMutation rt (decisionMutation s.db.leadCollaborationRequests current input principal
      correlationId c.toOccasion) c s = (.ok record, s')) :
    (∃ m', decide s.db.leadCollaborationRequests current.id input principal correlationId c.toOccasion
        (s.memory.refresh s.db) = .ok (record, m')) ∧ (∃ row, s.db.lead current.leadId = some row) ∧
      Recorded rt s.db current.leadId (decisionMutation s.db.leadCollaborationRequests current input
        principal correlationId c.toOccasion).idempotencyKey s'.db := by
  refine recorded_of_answer (.inr rfl) rfl rfl rfl (fun r m' hm => ?_) h
  obtain ⟨x, _, hx, -, -, state, -, ⟨-, lead, happly⟩ | ⟨-, rfl⟩⟩ := decide_ok hm
  · obtain rfl := Option.mem_unique hcur hx
    exact discreet_applyCollaborator (keyed_refresh _ _) happly
  · exact .refl _ _

theorem decided_of_answer {id correlationId : String} {c : CollaborationCircumstances}
    {updated : LeadCollaborationRequestRow}
    (h : decideForApi rt id input principal correlationId c s = (.ok updated, s')) :
    Decided rt s.db id updated s'.db := by
  unfold decideForApi at h
  split at h
  · cases h
  rename_i current hcur
  dsimp only at h
  split at h
  · cases h
  rename_i record s₁ hpersist
  have hid : current.id = id := (List.mem_singleton.mp (Table.findUnique_eq_some.mp hcur).2).symm
  obtain ⟨⟨m', hmutate⟩, ⟨row, hrow⟩, hrecorded⟩ := recorded_of_decision (hid ▸ hcur) hpersist
  obtain ⟨x, reason, hx, hpend, hver, state, hrecord, hstate⟩ := decide_ok hmutate
  obtain rfl : current = x := Option.some.inj (hcur.symm.trans (hid ▸ hx))
  have hkey : (decisionMutation s.db.leadCollaborationRequests current input principal correlationId
      c.toOccasion).idempotencyKey = decisionKey id current.version := by
    rw [decisionMutation, hver, hid]
    rfl
  rw [hkey] at hrecorded
  obtain ⟨-, db₂, hsettle, hend⟩ := afterwards_answer h
  simp only [settleCollaboration, ok_iff] at hsettle
  obtain ⟨-, hone, rfl⟩ := hsettle
  change s.db.lead current.leadId = some row at hrow
  rw [refresh_lead, hrow] at hend
  have hleadId : row.id = current.leadId := (Database.lead_eq_some.mp hrow).2
  obtain ⟨rfl, hdb⟩ := snapshot_of_answer hend
  have hstateOf : record.state = state := by rw [hrecord]
  have hlead : record.leadId = row.id := by rw [hrecord, hleadId]
  have hkept : record.id = current.id := by rw [hrecord]
  rw [hrecorded.requests] at hdb
  refine ⟨?_, ⟨current, hcur, hpend, ?_, ?_, s₁.db,
    s'.db.leadCollaborationRequests, s'.db.leadCollaborators, ?_, hrecorded⟩, fun leadId u => ?_⟩
  · rw [hstateOf]
    exact hstate.imp And.left And.left
  · rw [hrecord]
  · rw [hdb, ← hkept]
    split <;> rfl
  · rw [hdb]
    split <;> rfl
  · rw [hdb]
    by_cases happroved : record.state = .APPROVED
    · rw [if_pos happroved, collaborates_replace, hlead]
      by_cases hsame : leadId = row.id
      · rw [if_pos hsame, if_pos ⟨happroved, hsame.symm⟩, mem_collaboratorsAfter, hsame]
      · rw [if_neg hsame, if_neg fun hc => hsame hc.2.symm]
        exact iff_of_eq (congrArg (fun t => Collaborates t leadId u) hrecorded.collaborators)
    · rw [if_neg happroved, if_neg fun hc => happroved hc.1]
      exact iff_of_eq (congrArg (fun t => Collaborates t leadId u) hrecorded.collaborators)

end CrmYnov.Collaboration
