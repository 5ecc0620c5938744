import CrmYnov.Closing.Workflows

/-!
# Closures are changes

A request to close a lead is made when none is pending on it, and is taken back or
decided while it is pending. A decision is one change: the transaction compares the
version of the request, so that the request it settles is the one that was read, and
the version of the lead, so that the lead it writes is the one that was read too. This
is what ties an approval to the status that was asked for, and to someone else than
the author of the request.
-/

namespace CrmYnov.Closing

open Checked Leads FollowUp Closure Commercial LeadRow Option

variable {rt : Runtime} {db db' : Database} {principal : Principal} {correlationId : String}

/-! ### What a closure leaves as it is -/

variable {item : LeadClosureRequestRow}

theorem auditClosure_dossier {eventType : String}
    (h : auditClosure db item eventType principal correlationId = .ok db') :
    dossier db' = dossier db := by
  simp only [auditClosure, bind_ok_iff, Database.audit_ok_iff] at h
  obtain ⟨_, -, t, -, rfl⟩ := h
  rfl

variable {auth : Closure.Authority}

theorem notifyClosure_dossier (h : notifyClosure rt db item auth = .ok db') :
    dossier db' = dossier db := by
  obtain ⟨t, -, rfl⟩ := notifyClosure_appended h
  rfl

variable {d : ClosureDraw}

theorem cancelFollowUps_dossier {closure : LeadClosureRequestRow}
    (h : cancelFollowUpsForClosure rt db closure principal correlationId d = .ok db') :
    dossier db' = dossier db := by
  obtain ⟨t, u, v, -, rfl, -⟩ := cancelFollowUps_ok h
  rfl

/-- **What settling a request does**: the request was pending at the version that is
compared, and it is what is settled. -/
theorem settleClosure_ok {expectedVersion : ℕ} {eventType : String}
    (h : settleClosure rt db item expectedVersion eventType principal correlationId = .ok db') :
    (∃ r ∈ db.leadClosureRequests.rows, r.id = item.id ∧ r.state = .PENDING ∧
        r.version = expectedVersion) ∧
      dossier db' = { dossier db with
        requests := db.leadClosureRequests.updateMany (StillPending item.id expectedVersion)
          (settleRequest item) (keys_settleRequest item) } := by
  simp only [settleClosure, ok_iff] at h
  obtain ⟨-, hcount, db₁, haudit, h⟩ := h
  obtain ⟨r, hr, hpend⟩ := Table.count_pos.mp (hcount ▸ Nat.one_pos)
  refine ⟨⟨r, hr, hpend⟩, ?_⟩
  have haudited := auditClosure_dossier haudit
  split at h
  · simp only [ok_iff, Prod.exists] at h
    obtain ⟨created, db₂, hcreate, rfl⟩ := h
    have hnotified : dossier db₂ = dossier db₁ := by
      rcases createNotification_ok hcreate with ⟨-, -, rfl⟩ | ⟨-, -, t, -, rfl⟩ <;> rfl
    exact hnotified.trans haudited
  · cases h
    exact haudited

/-! ### Requests -/

variable {stored : LeadClosureRequestRow}

/-- **What storing a request does**: the request was there, or it enters, when none is
pending on its lead. -/
theorem createClosure_ok
    (h : createClosure rt db item principal correlationId auth = .ok (stored, db')) :
    (stored ∈ db.leadClosureRequests.rows ∧ stored.id = item.id ∧ SameRequest stored item ∧
        db' = db) ∨
      stored = item ∧ (∀ r ∈ db.leadClosureRequests.rows, ¬PendingFor item.leadId r) ∧
        ∃ t, db.leadClosureRequests.create item = some t ∧
          dossier db' = { dossier db with requests := t } := by
  rw [createClosure] at h
  split at h
  · rename_i r hfound
    simp only [ok_iff] at h
    obtain ⟨-, hsame, rfl, rfl⟩ := h
    obtain ⟨hmem, hkey⟩ := Table.findUnique_eq_some.mp hfound
    exact .inl ⟨hmem, LeadClosureRequestRow.mem_keys.mp hkey, hsame, rfl⟩
  · simp only [ok_iff, insert_ok_iff] at h
    obtain ⟨-, hfree, t, hcreate, db₁, haudit, db₂, hnotify, rfl, rfl⟩ := h
    have hnotified := (notifyClosure_dossier hnotify).trans (auditClosure_dossier haudit)
    exact .inr ⟨rfl, fun r hr => Table.findFirst_eq_none.mp hfree r hr, t, hcreate, hnotified⟩

variable {view : Closure.View}

theorem closureRequest_changes {leadId : String} {input : ClosureInput}
    (h : Closure.requestForApi rt view db leadId input principal correlationId auth d =
      .ok (stored, db')) : Changes (dossier db) (dossier db') := by
  simp only [Closure.requestForApi, bind_ok_iff] at h
  obtain ⟨record, -, h⟩ := h
  rcases createClosure_ok h with ⟨-, -, -, rfl⟩ | ⟨-, hfree, t, hcreate, hdossier⟩
  · exact Changes.refl _
  · rw [hdossier]
    exact (Change.ask (c := dossier db) hcreate hfree).changes

variable {id : String}

theorem closureCancel_changes {retireStage : Bool}
    (h : Closure.cancelForApi rt view db id principal correlationId retireStage d =
      .ok (stored, db')) : Changes (dossier db) (dossier db') := by
  simp only [Closure.cancelForApi, ok_iff] at h
  obtain ⟨current, hcur, updated, hcancel, h⟩ := h
  split at h
  · cases h
    exact Changes.refl _
  rename_i hver
  simp only [ok_iff] at h
  obtain ⟨db₁, hsettle, _, -, -, rfl⟩ := h
  simp only [Closure.cancel, ok_iff] at hcancel
  obtain ⟨current', hcur', -, -, -, -, hcancel⟩ := hcancel
  obtain rfl : current' = current := mem_unique hcur' hcur
  split at hcancel
  · cases hcancel
    exact absurd rfl hver
  simp only [ok_iff] at hcancel
  obtain ⟨-, -, rfl⟩ := hcancel
  obtain ⟨⟨r, hr, hid, hpend, hat⟩, hdossier⟩ := settleClosure_ok hsettle
  rw [hdossier, ← hid, ← hat]
  exact (Change.cancel (c := dossier db) hr hpend rfl).changes

theorem closureReconcile_dossier
    (h : reconcileClosureNotifications rt db id auth = .ok db') : dossier db' = dossier db := by
  simp only [reconcileClosureNotifications, bind_ok_iff] at h
  obtain ⟨current, -, h⟩ := h
  split at h
  · exact notifyClosure_dossier h
  · cases h
    rfl

/-! ### Decisions -/

/-- What a decision checks of the request it has read, and makes of it. -/
structure DecidedFrom (current updated : LeadClosureRequestRow) (input : ClosureDecisionInput)
    (principal : Principal) : Prop where
  other : current.requesterId ≠ principal.userId
  pending : current.state = .PENDING
  version : input.expectedVersion = some (current.version : ℤ)
  id_eq : updated.id = current.id
  decidedBy : updated.decidedBy = some principal.userId
  state : updated.state = if input.decision = "APPROVE" then .APPROVED else .REJECTED
  reason : updated.decisionReason = some (Js.trim input.reason)

variable {input : ClosureDecisionInput} {current updated : LeadClosureRequestRow}

theorem closureDecide_from {o : Occasion} {m m' : LeadMemory}
    (hcur : view.request id = some current)
    (h : Closure.decide view id input principal correlationId o m = .ok (updated, m')) :
    DecidedFrom current updated input principal := by
  simp only [Closure.decide, ok_iff] at h
  obtain ⟨current', hcur', -, hother, -, -, -, ⟨hpend, hver⟩, -, -, -, -, h⟩ := h
  obtain rfl : current' = current := mem_unique hcur' hcur
  split at h
  · rename_i happrove
    simp only [ok_iff] at h
    obtain ⟨m₁, -, rfl, -⟩ := h
    exact ⟨hother, hpend, hver, rfl, rfl, (if_pos happrove).symm, rfl⟩
  · rename_i hreject
    simp only [ok_iff] at h
    obtain ⟨m₁, -, rfl, -⟩ := h
    exact ⟨hother, hpend, hver, rfl, rfl, (if_neg hreject).symm, rfl⟩

theorem DecidedFrom.decision (h : DecidedFrom current updated input principal) :
    Decision current updated where
  state := by
    rw [h.state]
    split
    · exact .inl rfl
    · exact .inr rfl
  decidedBy := ⟨principal.userId, h.decidedBy, h.other.symm⟩

theorem closureMutation_key (h : DecidedFrom current updated input principal) :
    (closureMutation rt view current input principal correlationId d).idempotencyKey =
      decisionKey current.id current.version := by
  simp only [closureMutation, h.version, map_some, getD_some]
  rfl

/-- A decision that is made: what it has read, and what its transaction leaves. -/
structure DecisionMade (current : LeadClosureRequestRow)
    (input : ClosureDecisionInput) (principal : Principal) (db db' : Database)
    (updated : LeadClosureRequestRow) : Prop where
  decided : DecidedFrom current updated input principal
  present : current ∈ db.leadClosureRequests.rows
  change : Change (dossier db) (dossier db')
  requests : db'.leadClosureRequests =
    db.leadClosureRequests.updateMany (StillPending current.id current.version)
      (settleRequest updated) (keys_settleRequest updated)

/-- **The transaction of a decision** is answered from a receipt under its key, or is one
change. -/
theorem closureMutation_made
    (hrequests : view.requests.leadClosureRequests.Grows Settled db.leadClosureRequests)
    (hleads : view.leads.leads.Grows Later db.leads)
    (hcur : view.request current.id = some current)
    (h : (closureMutation rt view current input principal correlationId d).transact rt d.toOccasion
      view.leads db = .ok (updated, db')) :
    DecidedFrom current updated input principal ∧
      ((db.leadMutationReceipts.findUnique (decisionKey current.id current.version)).isSome ∧
          db' = db ∨ DecisionMade current input principal db db' updated) := by
  obtain ⟨lead, memory, hlead, hmutate, ⟨hanswered, rfl⟩ | ⟨after, input', stored, db₁, hafter, hbefore, hstored, -,
    hkey, hwritten, heff⟩⟩ := transact_ok h
  · have hdecided := closureDecide_from hcur hmutate
    rw [closureMutation_key hdecided] at hanswered
    exact ⟨hdecided, .inl ⟨hanswered, rfl⟩⟩
  have hdecided := closureDecide_from hcur hmutate
  refine ⟨hdecided, .inr ?_⟩
  obtain ⟨hmem, hid⟩ := Database.lead_eq_some.mp hlead
  obtain ⟨current', hcur', hleadId, htarget, hfinal, houtcome⟩ :=
    closureDecide_ok (keyed_refresh _ _) hmutate
  obtain rfl : current' = current := mem_unique hcur' hcur
  -- what the decision leaves of the status of the lead
  have hstatus : (lead.status.Closed → input'.after.status = lead.status) ∧
      (input'.after.status.Closed → lead.status.Closed ∨ updated.state = .APPROVED ∧
        lead.id = current'.leadId ∧ input'.after.status = current'.target) := by
    rw [hstored]
    rcases houtcome with ⟨happroved, read, after', hread, hopen, hget, hgiven, -⟩ | ⟨-, rfl⟩
    · have hsame : read.status = lead.read.status :=
        congrArg status (refresh_row hlead hread)
      obtain rfl : after' = after := mem_unique hget hafter
      exact ⟨fun hclosed => absurd (hsame ▸ hclosed) hopen,
        fun _ => .inr ⟨happroved, hid, hgiven⟩⟩
    · have hsame : after.status = lead.read.status :=
        congrArg status (refresh_row hlead hafter)
      exact ⟨fun _ => hsame, fun hclosed => .inl (hsame ▸ hclosed)⟩
  -- the transaction writes the lead that was read
  obtain ⟨hkept, receipt, hcreate, hrec⟩ := persistMutationInTransaction_keeps hwritten
  obtain ⟨references, hrows⟩ := persistMutationInTransaction_written hwritten
  obtain ⟨row, hrow, hwrite⟩ : ∃ row : LeadRow, row.status = input'.after.status ∧
      db₁.leads = db.leads.updateMany (AtVersion input'.before.toLeadRow) row.mutate
        (keys_mutate row) := by
    refine ⟨_, ?_, hrows.leads⟩
    rfl
  rw [← hrow] at hstatus
  have heq := written_eq hleads hmem hbefore
  -- and settles the request that was read
  simp only [closureMutation, closureEffect, bind_ok_iff] at heff
  obtain ⟨db₂, hsettle, heff⟩ := heff
  obtain ⟨⟨r, hr, hrid, hrpending, hrversion⟩, hsettled⟩ := settleClosure_ok hsettle
  rw [hkept] at hr
  obtain rfl : r = current' := request_eq_of_version hrequests
    (Table.findUnique_eq_some.mp hcur).1 hr (hrid.trans hdecided.id_eq) hrversion
  have hend : dossier db' = dossier db₂ := by
    split at heff
    · exact cancelFollowUps_dossier heff
    · cases heff
      rfl
  have hdossier : dossier db' = {
      leads := db.leads.updateMany (AtVersion input'.before.toLeadRow) row.mutate
        (keys_mutate row)
      requests := db.leadClosureRequests.updateMany (StillPending r.id r.version)
        (settleRequest updated) (keys_settleRequest updated)
      receipts := db₁.leadMutationReceipts } := by
    rw [hend, hsettled, hdecided.id_eq, dossier, hkept, hwrite]
  refine ⟨hdecided, hr, ?_, congrArg Dossier.requests hdossier⟩
  rw [hdossier]
  refine Change.decide (c := dossier db) (AtVersion input'.before.toLeadRow)
    (keys_mutate row) hr hrpending hdecided.decision (fun l hl hat => ?_)
    (fun l hl hat hclosed => ?_) hcreate ?_
  · obtain rfl := heq l hl hat
    exact ⟨rfl, Nat.lt_succ_self _, hstatus.1⟩
  · obtain rfl := heq l hl hat
    exact hstatus.2 hclosed
  · rw [hrec, hkey, closureMutation_key hdecided]

theorem closureDecision_changes
    (hrequests : view.requests.leadClosureRequests.Grows Settled db.leadClosureRequests)
    (hleads : view.leads.leads.Grows Later db.leads)
    (h : Closure.decideForApi rt view db id input principal correlationId d = .ok (stored, db')) :
    Changes (dossier db) (dossier db') := by
  simp only [Closure.decideForApi, ok_iff] at h
  obtain ⟨-, -, current, hcur, h⟩ := h
  split at h
  · cases h
    exact Changes.refl _
  simp only [ok_iff, Prod.exists] at h
  obtain ⟨updated, db₁, htransact, _, -, -, rfl⟩ := h
  have hid : current.id = id := LeadClosureRequestRow.mem_keys.mp
    (Table.findUnique_eq_some.mp hcur).2
  obtain ⟨-, ⟨-, rfl⟩ | hmade⟩ := closureMutation_made hrequests hleads (hid ▸ hcur) htransact
  · exact Changes.refl _
  · exact hmade.change.changes

end CrmYnov.Closing
