import CrmYnov.Closure.Service
import CrmYnov.Commercial.Mutations

/-!
# Closures are moves

Requesting a closure, taking the request back and notifying of it again touch neither
leads nor follow-ups. A decision stores its lead: a rejection as it was read, an
approval with the final status, and the follow-ups that are open on the lead are then
cancelled in the same transaction, all of it one move.
-/

namespace CrmYnov.Commercial

open Checked Leads FollowUp Closure Table LeadFollowUpRow List

variable {rt : Runtime} {db db' : Database}

/-! ### Notifications and audit -/

theorem quiet_closureNotification {recipientId leadId head rest : String}
    (hhead : head = "closure-request:" ∨ head = "closure-decision:") :
    ¬((closureNotification recipientId leadId).row rt (head ++ rest)).Reminds := by
  rintro (htype | ⟨rest', hkey⟩)
  · simp [NotificationRecord.row, closureNotification] at htype
  · have hkey : head ++ rest = legacyKey rest' := hkey
    rcases hhead with rfl | rfl <;> simpa [legacyKey] using congrArg String.toList hkey

variable {item : LeadClosureRequestRow}

theorem notifyEach_appended {recipients : List String}
    (h : notifyEach rt db item recipients = .ok db') :
    ∃ t, db.internalNotifications.Appended (fun n => ¬n.Reminds) t ∧
      { db with internalNotifications := t } = db' := by
  induction recipients generalizing db with
  | nil =>
    obtain rfl := pure_ok_iff.mp h
    exact ⟨db.internalNotifications, Appended.refl _, rfl⟩
  | cons recipientId recipients ih =>
    simp only [notifyEach, bind_ok_iff, Prod.exists] at h
    obtain ⟨created, db₁, hcreate, h⟩ := h
    obtain ⟨t', happended, rfl⟩ := ih h
    rcases createNotification_ok hcreate with ⟨-, -, rfl⟩ | ⟨-, -, t, hrow, rfl⟩
    · exact ⟨t', happended, rfl⟩
    · rw [String.append_assoc, String.append_assoc] at hrow
      have hfirst : db.internalNotifications.Appended (fun n => ¬n.Reminds) t :=
        Appended.single (quiet_closureNotification (.inl rfl)) hrow
      exact ⟨t', hfirst.trans happended, rfl⟩

variable {auth : Closure.Authority}

theorem notifyClosure_appended (h : notifyClosure rt db item auth = .ok db') :
    ∃ t, db.internalNotifications.Appended (fun n => ¬n.Reminds) t ∧
      { db with internalNotifications := t } = db' := by
  simp only [notifyClosure, bind_ok_iff] at h
  obtain ⟨-, -, recipients, -, -, -, h⟩ := h
  exact notifyEach_appended h

variable {principal : Principal}

theorem auditClosure_appended {eventType correlationId : String}
    (hevent : eventType ≠ "FOLLOW_UP_DUE")
    (h : auditClosure db item eventType principal correlationId = .ok db') :
    ∃ t, db.auditEvents.Appended (fun a => ¬a.Reminds) t ∧ { db with auditEvents := t } = db' := by
  simp only [auditClosure, bind_ok_iff, Database.audit_ok_iff] at h
  obtain ⟨_, -, t, hcreate, rfl⟩ := h
  refine ⟨t, Appended.single ?_ hcreate, rfl⟩
  rintro (htype | ⟨rest, hkey⟩)
  · exact hevent htype
  · simpa [legacyKey] using congrArg String.toList hkey

/-! ### Requests -/

variable {stored : LeadClosureRequestRow}

theorem createClosure_moves {correlationId : String}
    (h : createClosure rt db item principal correlationId auth = .ok (stored, db')) :
    Moves rt (ofDatabase db) (ofDatabase db') := by
  rw [createClosure] at h
  split at h
  · simp only [ok_iff] at h
    obtain ⟨-, -, -, rfl⟩ := h
    exact Moves.refl _
  · simp only [ok_iff, insert_ok_iff] at h
    obtain ⟨-, -, t, -, db₁, haudit, db₂, hnotify, -, rfl⟩ := h
    obtain ⟨u, haudited, rfl⟩ := auditClosure_appended (by decide) haudit
    obtain ⟨v, htold, rfl⟩ := notifyClosure_appended hnotify
    exact (Moves.audits (c := ofDatabase db) haudited).trans
      (Moves.notifications (c := { ofDatabase db with audits := u }) htold)

theorem settleClosure_appended {expectedVersion : ℕ} {eventType correlationId : String}
    (hevent : eventType ≠ "FOLLOW_UP_DUE")
    (h : settleClosure rt db item expectedVersion eventType principal correlationId = .ok db') :
    ∃ t u v, db.auditEvents.Appended (fun a => ¬a.Reminds) u ∧
      db.internalNotifications.Appended (fun n => ¬n.Reminds) v ∧
      { db with leadClosureRequests := t, auditEvents := u
                internalNotifications := v } = db' := by
  simp only [settleClosure, bind_ok_iff] at h
  obtain ⟨-, -, db₁, haudit, h⟩ := h
  obtain ⟨u, haudited, rfl⟩ := auditClosure_appended hevent haudit
  split at h
  · simp only [ok_iff, Prod.exists] at h
    obtain ⟨created, db₂, hcreate, rfl⟩ := h
    rcases createNotification_ok hcreate with ⟨-, -, rfl⟩ | ⟨-, -, t, hrow, rfl⟩
    · exact ⟨_, u, _, haudited, Appended.refl _, rfl⟩
    · have htold : db.internalNotifications.Appended (fun n => ¬n.Reminds) t :=
        Appended.single (quiet_closureNotification (.inr rfl)) hrow
      exact ⟨_, u, t, haudited, htold, rfl⟩
  · cases h
    exact ⟨_, u, _, haudited, Appended.refl _, rfl⟩

/-! ### What is open on a lead that is closed -/

/-- What cancelling the follow-ups of a lead leaves of all of them. -/
structure Cleared (t t' : Table LeadFollowUpRow keys)
    (cleared : LeadFollowUpRow → Prop) : Prop where
  grows : t.Grows Advance t'
  rows : ∀ f ∈ t'.rows, f ∈ t.rows ∨ f.state ≠ .DUE ∧ ∃ f₀ ∈ t.rows, f₀.id = f.id
  open_ : ∀ f ∈ t'.rows, f.state.Open → f ∈ t.rows ∧ ¬cleared f

variable {d : ClosureDraw}

theorem cancelRows_ok {closure : LeadClosureRequestRow} {campus correlationId : String}
    {rows : List LeadFollowUpRow}
    (h : cancelRows rt closure campus principal correlationId d db rows = .ok db') :
    ∃ t u v, db.auditEvents.Appended (fun a => ¬a.Reminds) v ∧
      { db with leadFollowUps := t, leadActivities := u, auditEvents := v } = db' ∧
      Cleared db.leadFollowUps t fun f => ∃ row ∈ rows, f.id = row.id := by
  induction rows generalizing db with
  | nil =>
    obtain rfl := pure_ok_iff.mp h
    exact ⟨_, _, _, Appended.refl _, rfl, Grows.refl _, fun f hf => Or.inl hf,
      fun f hf _ => ⟨hf, by simp⟩⟩
  | cons row rows ih =>
    simp only [cancelRows, ok_iff, Database.addActivity_ok_iff, Database.audit_ok_iff] at h
    obtain ⟨-, hcount, _, ⟨activities, -, rfl⟩, _, ⟨audits, hcreate, rfl⟩, h⟩ := h
    obtain ⟨t, u, v, happended, rfl, hgrows, hrows, hopen⟩ := ih h
    have haudited : db.auditEvents.Appended (fun a => ¬a.Reminds) audits := by
      refine Appended.single ?_ hcreate
      rintro (htype | ⟨rest, hkey⟩)
      · simp at htype
      · simpa [legacyKey] using congrArg String.toList hkey
    have hadvance : db.leadFollowUps.Grows Advance
        (db.leadFollowUps.updateMany (Undecided row.id row.version) cancelRow keys_cancelRow) :=
      Grows.of_updateMany keys_cancelRow
        fun f _ hp => ⟨hp.2.2, rfl, rfl, Nat.lt_succ_self _⟩
    refine ⟨t, u, v, haudited.trans happended, rfl, followUpsGrow_trans hadvance hgrows,
      fun f hf => ?_, fun f hf hfopen => ?_⟩
    · -- a follow-up of the end is one of the middle, which is one of the start or cancelled
      have hmiddle : ∀ g ∈ (db.leadFollowUps.updateMany (Undecided row.id row.version) cancelRow
          keys_cancelRow).rows, g ∈ db.leadFollowUps.rows ∨
            g.state ≠ .DUE ∧ ∃ f₀ ∈ db.leadFollowUps.rows, f₀.id = g.id := by
        intro g hg
        obtain ⟨g₀, hg₀, rfl⟩ := mem_map.mp hg
        by_cases hp : Undecided row.id row.version g₀
        · rw [if_pos hp]
          exact Or.inr ⟨by simp [cancelRow], g₀, hg₀, rfl⟩
        · rw [if_neg hp]
          exact Or.inl hg₀
      rcases hrows f hf with hmem | ⟨hstate, f₀, hf₀, hid⟩
      · exact hmiddle f hmem
      · refine Or.inr ⟨hstate, ?_⟩
        rcases hmiddle f₀ hf₀ with hmem | ⟨-, f₁, hf₁, hid₁⟩
        · exact ⟨f₀, hmem, hid⟩
        · exact ⟨f₁, hf₁, hid₁.trans hid⟩
    · obtain ⟨hmem, hothers⟩ := hopen f hf hfopen
      obtain ⟨g, hg, rfl⟩ := mem_map.mp hmem
      by_cases hp : Undecided row.id row.version g
      · -- the follow-up that was just cancelled is not open
        rw [if_pos hp] at hfopen
        exact absurd hfopen (by simp [cancelRow, FollowUpState.Open])
      · rw [if_neg hp] at hfopen hothers ⊢
        refine ⟨hg, ?_⟩
        rintro ⟨r, hr, hid⟩
        rcases mem_cons.mp hr with rfl | hr
        · -- the follow-up the update found is the one with this identifier
          obtain ⟨g', hg', hp'⟩ := count_pos.mp (hcount ▸ Nat.one_pos)
          rw [db.leadFollowUps.eq_of_key hg hg' (mem_keys_id.mpr hid)
            (mem_keys_id.mpr hp'.1)] at hp
          exact hp hp'
        · exact hothers ⟨r, hr, hid⟩

/-- **A closure leaves nothing open on its lead**, and touches the open follow-ups of
no other. -/
theorem cancelFollowUps_ok {closure : LeadClosureRequestRow} {correlationId : String}
    (h : cancelFollowUpsForClosure rt db closure principal correlationId d = .ok db') :
    ∃ t u v, db.auditEvents.Appended (fun a => ¬a.Reminds) v ∧
      { db with leadFollowUps := t, leadActivities := u, auditEvents := v } = db' ∧
      Cleared db.leadFollowUps t fun f => f.leadId = closure.leadId := by
  have hpend : ∀ f ∈ db.leadFollowUps.rows, f.state.Open → f.leadId = closure.leadId →
      f ∈ db.leadFollowUps.findMany (Pending closure.leadId) :=
    fun f hf hopen hlead => mem_findMany.mpr ⟨hf, hlead, hopen⟩
  rw [cancelFollowUpsForClosure] at h
  split at h
  · rename_i hnone
    cases h
    refine ⟨_, _, _, Appended.refl _, rfl, Grows.refl _, fun f hf => .inl hf,
      fun f hf hopen => ⟨hf, fun hlead => ?_⟩⟩
    have := hpend f hf hopen hlead
    rw [hnone] at this
    exact absurd this not_mem_nil
  · simp only [bind_ok_iff] at h
    obtain ⟨lead, -, h⟩ := h
    obtain ⟨t, u, v, happended, hframe, hcleared⟩ := cancelRows_ok h
    refine ⟨t, u, v, happended, hframe, hcleared.grows, hcleared.rows, fun f hf hfopen => ?_⟩
    obtain ⟨hmem, hothers⟩ := hcleared.open_ f hf hfopen
    exact ⟨hmem, fun hlead => hothers ⟨f, hpend f hmem hfopen hlead, rfl⟩⟩

/-! ### Decisions -/

theorem ofText?_text (s : LeadStatus) : LeadStatus.ofText? s.text = some s := by
  cases s <;> decide

variable {view : Closure.View}

variable {id correlationId : String}

/-- **What a decision does to the copy of its lead**: an approval gives it the final
status that was asked for, and clears its next action; a rejection leaves it. -/
theorem closureDecide_ok {input : ClosureDecisionInput} {o : Occasion}
    {m m' : LeadMemory} {updated : LeadClosureRequestRow} (hm : Keyed m)
    (h : Closure.decide view id input principal correlationId o m = .ok (updated, m')) :
    ∃ current, view.request id = some current ∧ updated.leadId = current.leadId ∧
      updated.target = current.target ∧ current.target.Closed ∧
      (updated.state = .APPROVED ∧ (∃ lead after, m.leads.get current.leadId = some lead ∧
          ¬lead.status.Closed ∧ m'.leads.get current.leadId = some after ∧
          after.status = current.target ∧ after.nextActionAt = none) ∨
        updated.state = .REJECTED ∧ m' = m) := by
  simp only [Closure.decide, ok_iff] at h
  obtain ⟨current, hcur, -, -, -, -, -, -, -, htarget, -, -, h⟩ := h
  refine ⟨current, hcur, ?_⟩
  split at h
  · simp only [approve, ok_iff, Prod.exists] at h
    obtain ⟨m₁, ⟨-, -, after, m₂, hchange, rfl⟩, rfl, rfl⟩ := h
    obtain ⟨lead, hlead, htext, hallow, hnext, hget⟩ := changeStatus_ok hm hchange
    have hstatus : after.status = current.target :=
      Option.some.inj (htext.symm.trans (ofText?_text current.target))
    refine ⟨rfl, rfl, htarget, .inl ⟨rfl, lead, after, hlead, fun hclosed => ?_, hget, hstatus, ?_⟩⟩
    · rw [allowedTransitions_of_closed hclosed] at hallow
      exact absurd hallow not_mem_nil
    · rw [hnext, if_pos (hstatus ▸ htarget)]
  · simp only [ok_iff] at h
    obtain ⟨m₁, rfl, rfl, rfl⟩ := h
    exact ⟨rfl, rfl, htarget, .inr ⟨rfl, rfl⟩⟩

/-- What an approval writes of its lead, and leaves of its follow-ups, is one move,
after what it records. -/
theorem close_moves {seen db₁ : Database} {input : PersistMutationInput} {o : Occasion}
    {result : ReceiptResult} {row : LeadRow} (hseen : seen.leads.Grows Later db.leads)
    (hrow : row ∈ seen.leads.rows) (hbefore : input.before.toLeadRow = row.read)
    (hassign : input.operation ≠ .ASSIGN) (hstatus : ¬row.status.Closed)
    (hnext : input.after.nextActionAt = none)
    (h : persistMutationInTransaction rt db input o = .ok (result, db₁))
    (hleads : db'.leads = db₁.leads)
    (haudits : db₁.auditEvents.Appended (fun a => ¬a.Reminds) db'.auditEvents)
    (hnotes : db₁.internalNotifications.Appended (fun n => ¬n.Reminds)
      db'.internalNotifications)
    (hcleared : Cleared db₁.leadFollowUps db'.leadFollowUps fun f => f.leadId = row.id) :
    Moves rt (ofDatabase db) (ofDatabase db') := by
  obtain ⟨haudits₁, hnotifications₁⟩ := persistMutationInTransaction_records hassign h
  obtain ⟨_, hwritten⟩ := persistMutationInTransaction_written h
  rw [hwritten.leadFollowUps] at hcleared
  rw [hnotifications₁] at hnotes
  have hrecorded : Moves rt (ofDatabase db) { ofDatabase db with
      audits := db'.auditEvents, notifications := db'.internalNotifications } :=
    (Moves.audits (c := ofDatabase db) (haudits₁.trans haudits)).trans
      (Moves.notifications (c := { ofDatabase db with audits := db'.auditEvents }) hnotes)
  have hcommerce : ofDatabase db' = ⟨db₁.leads, db'.leadFollowUps, db'.auditEvents,
      db'.internalNotifications⟩ := by rw [ofDatabase, hleads]
  rw [hcommerce, hwritten.leads]
  refine hrecorded.trans (Move.moves ?_)
  refine Move.close (c := { ofDatabase db with
      audits := db'.auditEvents, notifications := db'.internalNotifications })
    (AtVersion input.before.toLeadRow) (LeadRow.keys_mutate _)
    (fun l hl hat => ⟨rfl, Nat.lt_succ_self _, fun hclosed => ?_⟩)
    (fun l hat => hat.1.trans (congrArg LeadRow.id hbefore)) (fun _ _ _ => hnext) hcleared.grows
    hcleared.rows hcleared.open_
  -- the lead is the one that was read, and that one was not closed
  rw [hbefore] at hat
  obtain rfl := lead_eq_of_version hseen hrow hl hat.1 hat.2
  exact absurd hclosed hstatus

/-- **A decision is moves.** -/
theorem closureDecision_moves {input : ClosureDecisionInput}
    (hseen : view.leads.leads.Grows Later db.leads)
    (h : Closure.decideForApi rt view db id input principal correlationId d = .ok (stored, db')) :
    Moves rt (ofDatabase db) (ofDatabase db') := by
  simp only [Closure.decideForApi, ok_iff] at h
  obtain ⟨-, -, current, hcur, h⟩ := h
  split at h
  · cases h
    exact Moves.refl _
  simp only [ok_iff, Prod.exists] at h
  obtain ⟨updated, db₁, htransact, _, -, -, rfl⟩ := h
  obtain ⟨lead, memory, hlead, hmutate, ⟨-, rfl⟩ | ⟨after, input', _, db₂, hafter, hbefore, hstored, hop, -,
    hwritten, heff⟩⟩ := transact_ok htransact
  · exact Moves.refl _
  obtain ⟨hmem, hid⟩ := Database.lead_eq_some.mp hlead
  obtain ⟨current', hcur', hleadId, htarget, hclosed, houtcome⟩ :=
    closureDecide_ok (keyed_refresh _ _) hmutate
  have hcurrentId : current.id = id := LeadClosureRequestRow.mem_keys.mp
    (findUnique_eq_some.mp hcur).2
  obtain rfl : current' = current := by
    have : view.request current.id = some current := hcurrentId ▸ hcur
    exact Option.mem_unique hcur' this
  have hassign : input'.operation ≠ .ASSIGN := by
    rw [hop]
    simp [closureMutation]
  simp only [closureMutation, closureEffect, bind_ok_iff] at heff
  obtain ⟨db₃, hsettle, heff⟩ := heff
  obtain ⟨t, u, v, haudited, htold, hframe⟩ := settleClosure_appended (by split <;> decide) hsettle
  have hsettled : Moves rt (ofDatabase db₂) (ofDatabase db₃) := by
    rw [← hframe]
    exact (Moves.audits (c := ofDatabase db₂) haudited).trans
      (Moves.notifications (c := { ofDatabase db₂ with audits := u }) htold)
  rcases houtcome with ⟨happroved, read, after', hread, hopen, hget, hstatus, hnext⟩ | ⟨hrejected, rfl⟩
  · -- an approval closes the lead with what is open on it
    rw [if_pos ⟨happroved, htarget ▸ hclosed⟩] at heff
    obtain ⟨t', u', v', happended, hcancelled, hcleared⟩ := cancelFollowUps_ok heff
    obtain rfl : after' = after := Option.mem_unique hget hafter
    have hlive : ¬lead.status.Closed := by
      have hsame : read.status = lead.read.status :=
        congrArg LeadRow.status (refresh_row hlead hread)
      rwa [hsame] at hopen
    subst hframe hcancelled
    refine close_moves hseen hmem hbefore hassign hlive (by rw [hstored]; exact hnext) hwritten rfl
      (haudited.trans happended) htold ?_
    have hsettledLead : updated.leadId = lead.id := hleadId.trans hid.symm
    rw [hsettledLead] at hcleared
    exact hcleared
  · -- a rejection stores the lead as it was read
    have hpend : ¬(updated.state = .APPROVED ∧ updated.target.Closed) := by simp [hrejected]
    rw [if_neg hpend] at heff
    cases heff
    refine Moves.trans (persisted_moves hseen hmem hbefore hassign ?_ hwritten) hsettled
    obtain ⟨hkept, hharmless⟩ := Harmless.refl after.toLeadRow
    rw [hstored]
    refine Harmless.of_read ?_
    rw [← refresh_row hlead hafter]
    exact ⟨hkept, hharmless⟩

/-! ### The other calls -/

theorem closureRequest_moves {leadId correlationId : String} {input : ClosureInput}
    (h : Closure.requestForApi rt view db leadId input principal correlationId auth d =
      .ok (stored, db')) : Moves rt (ofDatabase db) (ofDatabase db') := by
  simp only [Closure.requestForApi, bind_ok_iff] at h
  obtain ⟨record, -, h⟩ := h
  exact createClosure_moves h

theorem closureCancel_moves {retireStage : Bool}
    (h : Closure.cancelForApi rt view db id principal correlationId retireStage d =
      .ok (stored, db')) : Moves rt (ofDatabase db) (ofDatabase db') := by
  simp only [Closure.cancelForApi, bind_ok_iff] at h
  obtain ⟨current, -, updated, -, h⟩ := h
  split at h
  · cases h
    exact Moves.refl _
  · simp only [ok_iff] at h
    obtain ⟨db₁, hsettle, _, -, -, rfl⟩ := h
    obtain ⟨t, u, v, haudited, htold, rfl⟩ := settleClosure_appended (by decide) hsettle
    exact (Moves.audits (c := ofDatabase db) haudited).trans
      (Moves.notifications (c := { ofDatabase db with audits := u }) htold)

theorem closureReconcile_moves {id : String}
    (h : reconcileClosureNotifications rt db id auth = .ok db') :
    Moves rt (ofDatabase db) (ofDatabase db') := by
  simp only [reconcileClosureNotifications, bind_ok_iff] at h
  obtain ⟨current, -, h⟩ := h
  split at h
  · obtain ⟨t, htold, rfl⟩ := notifyClosure_appended h
    exact Moves.notifications (c := ofDatabase db) htold
  · cases h
    exact Moves.refl _

end CrmYnov.Commercial
