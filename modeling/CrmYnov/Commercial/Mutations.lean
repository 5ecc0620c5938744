import CrmYnov.Assignment.Ownership
import CrmYnov.Commercial.Planning

/-!
# Mutations of leads are moves

An activity, a change of status and a reassignment write a lead and record what was
done; a reassignment may move follow-ups to another owner, and an interaction that is
recorded by hand plans what comes next.

A mutation runs on a copy of the lead that was read earlier. It is a move when it is
harmless to the lead it has read (`CrmYnov.Commercial.Harmless`): the transaction
compares the version, and so writes on the lead that was read.
-/

namespace CrmYnov.Commercial

open Checked Leads FollowUp

variable {rt : Runtime} {db db' : Database}

/-! ### What a mutation records -/

variable {principal : Principal}

theorem auditMutation_appended {eventType leadId key correlationId : String} {version : ℕ}
    (hevent : eventType ≠ "FOLLOW_UP_DUE")
    (h : auditMutation rt db eventType leadId version key principal correlationId none = .ok db') :
    ∃ t, db.auditEvents.Appended (fun a => ¬a.Reminds) t ∧ { db with auditEvents := t } = db' := by
  simp only [auditMutation, bind_ok_iff, Database.audit_ok_iff] at h
  obtain ⟨_, -, _, -, t, hcreate, rfl⟩ := h
  refine ⟨t, Table.Appended.single ?_ hcreate, rfl⟩
  rintro (htype | ⟨rest, hkey⟩)
  · exact hevent htype
  · simpa [legacyKey] using congrArg String.toList hkey

variable {input : PersistMutationInput}

theorem auditFirstContact_appended {result : LeadRecord}
    (h : auditFirstContact db input result = .ok db') :
    ∃ t, db.auditEvents.Appended (fun a => ¬a.Reminds) t ∧ { db with auditEvents := t } = db' := by
  rw [auditFirstContact] at h
  split at h
  · obtain ⟨t, hcreate, rfl⟩ := Database.audit_ok_iff.mp h
    refine ⟨t, Table.Appended.single ?_ hcreate, rfl⟩
    rintro (htype | ⟨rest, hkey⟩)
    · simp at htype
    · simpa [legacyKey] using congrArg String.toList hkey
  · cases h
    exact ⟨db.auditEvents, Table.Appended.refl _, rfl⟩

theorem event_ne_due (operation : MutationOperation) : operation.event ≠ "FOLLOW_UP_DUE" := by
  cases operation <;> decide

variable {o : Occasion} {result : ReceiptResult}

/-- A mutation other than an assignment records events that are not of reminders, and
tells nobody. -/
theorem persistMutationInTransaction_records (hassign : input.operation ≠ .ASSIGN)
    (h : persistMutationInTransaction rt db input o = .ok (result, db')) :
    db.auditEvents.Appended (fun a => ¬a.Reminds) db'.auditEvents ∧
      db'.internalNotifications = db.internalNotifications := by
  simp only [persistMutationInTransaction, updateLeadVersion, persistMutationRelations, bind_assoc,
    ok_iff, pure_bind, Database.addReceipt_ok_iff, if_neg hassign] at h
  obtain ⟨-, -, references, -, -, -, -, -, db₁, hacts, db₂, haudit, db₃, hcontact, -,
    ⟨receipts, -, rfl⟩, -, -, -, rfl⟩ := h
  obtain ⟨activities, -, rfl⟩ := addActivities_ok hacts
  obtain ⟨audits, happended, rfl⟩ := auditMutation_appended (event_ne_due _) haudit
  obtain ⟨audits', happended', rfl⟩ := auditFirstContact_appended hcontact
  by_cases hop : input.operation = .COLLABORATOR
  · rw [if_pos hop] at happended
    exact ⟨happended.trans happended', by simp only [if_pos hop, replaceCollaborators]⟩
  · rw [if_neg hop] at happended
    exact ⟨happended.trans happended', by simp only [if_neg hop]⟩

/-! ### Mutations of leads -/

/-- A lead is left closed if it was; and if it is closed, it was, and is given no next
action. -/
structure Harmless (l l' : LeadRow) : Prop where
  kept : l.status.Closed → l'.status = l.status
  closed : l'.status.Closed → l.status.Closed ∧ Unplanned l l'

theorem Harmless.refl (l : LeadRow) : Harmless l l := ⟨fun _ => rfl, fun h => ⟨h, .inl rfl⟩⟩

theorem Harmless.of_read {l l' : LeadRow} (h : Harmless l.read l') : Harmless l l' :=
  ⟨h.kept, h.closed⟩

theorem Harmless.of_open {l l' : LeadRow} (h : ¬l.status.Closed) (h' : ¬l'.status.Closed) :
    Harmless l l' := ⟨fun hc => absurd hc h, fun hc => absurd hc h'⟩

variable {seen : Database}

theorem persisted_moves {row : LeadRow} (hseen : seen.leads.Grows Later db.leads)
    (hseenRow : row ∈ seen.leads.rows) (hbefore : input.before.toLeadRow = row.read)
    (hassign : input.operation ≠ .ASSIGN) (hharmless : Harmless row input.after.toLeadRow)
    (h : persistMutationInTransaction rt db input o = .ok (result, db')) :
    Moves rt (ofDatabase db) (ofDatabase db') := by
  obtain ⟨haudits, hnotes⟩ := persistMutationInTransaction_records hassign h
  obtain ⟨_, hwritten⟩ := persistMutationInTransaction_written h
  -- the row that is written is the one that was read
  have hrow : ∀ l ∈ db.leads.rows, AtVersion input.before.toLeadRow l → l = row :=
    fun l hl hat => by
      rw [hbefore] at hat
      exact lead_eq_of_version hseen hseenRow hl hat.1 hat.2
  have hwrite : Move rt (ofDatabase db) { ofDatabase db with leads := db'.leads } := by
    rw [hwritten.leads]
    refine Move.write (c := ofDatabase db) (AtVersion input.before.toLeadRow)
      (LeadRow.keys_mutate _) (fun l hl hat => ⟨rfl, Nat.lt_succ_self _, fun hclosed => ?_⟩)
      fun l hl hat hclosed => ?_
    · obtain rfl := hrow l hl hat
      exact hharmless.kept hclosed
    · obtain rfl := hrow l hl hat
      exact hharmless.closed hclosed
  have hcommerce : ofDatabase db' = { ofDatabase db with
      leads := db'.leads, audits := db'.auditEvents } := by
    rw [ofDatabase, hwritten.leadFollowUps, hnotes]
    rfl
  rw [hcommerce]
  exact hwrite.moves.trans (Moves.audits (c := { ofDatabase db with leads := db'.leads }) haudits)

variable {leadId : String}

theorem refresh_row {lead : LeadRow} {current : LeadRecord} (hlead : seen.lead leadId = some lead)
    (hcur : (LeadMemory.init.refresh seen).leads.get leadId = some current) :
    current.toLeadRow = lead.read := by
  rw [refresh_lead, hlead, Option.map_some] at hcur
  rw [← Option.some.inj hcur]
  rfl

/-- **A mutation of a lead is moves**, when it is harmless. -/
theorem transact_moves {T : Type} {r : ApiMutation T} {result : T}
    (hseen : seen.leads.Grows Later db.leads) (hassign : r.operation ≠ .ASSIGN)
    (heff : ∀ result db, r.atomicEffect result db = pure db)
    (hharmless : ∀ lead memory after, seen.lead r.leadId = some lead →
      r.mutate (LeadMemory.init.refresh seen) = .ok (result, memory) →
      memory.leads.get r.leadId = some after → Harmless lead after.toLeadRow)
    (h : r.transact rt o seen db = .ok (result, db')) :
    Moves rt (ofDatabase db) (ofDatabase db') := by
  obtain ⟨lead, memory, hlead, hmutate, ⟨-, rfl⟩ | ⟨after, stored, _, db₁, hafter, hbefore, hstored, hop, -,
    hwritten, hdb⟩⟩ := transact_ok h
  · exact Moves.refl _
  · rw [heff] at hdb
    cases hdb
    refine persisted_moves hseen (Database.lead_eq_some.mp hlead).1 hbefore (hop ▸ hassign) ?_
      hwritten
    obtain ⟨hkept, hclosed⟩ := hharmless lead memory after hlead hmutate hafter
    rw [hstored]
    exact ⟨hkept, hclosed⟩

variable {correlationId : String}

theorem addActivityForApi_moves {input : ActivityInput} {o : ContactOccasion}
    {activity : LeadActivityRecord} (hseen : seen.leads.Grows Later db.leads)
    (hnext : ∀ lead, seen.lead leadId = some lead → lead.status.Closed →
      nonEmpty input.nextActionAt = none)
    (h : addActivityForApi rt seen db leadId input principal correlationId o = .ok (activity, db')) :
    Moves rt (ofDatabase db) (ofDatabase db') := by
  simp only [addActivityForApi, bind_ok_iff] at h
  obtain ⟨-, -, -, -, replay, -, h⟩ := h
  split at h
  · simp only [ok_iff] at h
    obtain ⟨_, -, -, rfl⟩ := h
    exact Moves.refl _
  · simp only [ok_iff, Prod.exists] at h
    obtain ⟨_, db₁, htransact, _, -, -, rfl⟩ := h
    refine transact_moves hseen (by simp [activityMutation]) (fun _ _ => rfl)
      (fun lead memory after hlead hmutate hafter => ?_) htransact
    obtain ⟨current, after', nextActionAt, hcur, hdate, hget, hplanned, hstatus⟩ :=
      addActivity_ok (keyed_refresh _ _) hmutate
    obtain rfl : after' = after := Option.mem_unique hget hafter
    have hread := refresh_row hlead hcur
    refine Harmless.of_read ?_
    rw [← hread]
    rcases hstatus with hsame | ⟨hprospect, hcontacted⟩
    · refine ⟨fun _ => hsame, fun hclosed => ?_⟩
      rw [hsame] at hclosed
      -- nothing is planned on a lead that is closed
      have hseenClosed : lead.read.status.Closed := hread ▸ hclosed
      rw [activityNextAction, hnext _ hlead hseenClosed] at hdate
      cases hdate
      exact ⟨hclosed, .inl hplanned⟩
    · exact Harmless.of_open (by rw [hprospect]; decide) (by rw [hcontacted]; decide)

theorem not_closed_of_text {text : String} {s : LeadStatus} (h : LeadStatus.ofText? text = some s)
    (henrolled : text ≠ "ENROLLED") (hlost : text ≠ "CLOSED_LOST") : ¬s.Closed := by
  have htext : s.text = text := by simpa using List.find?_some h
  rintro (rfl | rfl)
  · exact henrolled htext.symm
  · exact hlost htext.symm

theorem changeStatusForApi_moves {input : CommercialStatusInput}
    (hseen : seen.leads.Grows Later db.leads)
    (h : changeStatusForApi rt seen db leadId input principal correlationId o = .ok (result, db')) :
    Moves rt (ofDatabase db) (ofDatabase db') := by
  simp only [changeStatusForApi, ok_iff] at h
  obtain ⟨-, -, -, ⟨henrolled, hlost⟩, replay, -, h⟩ := h
  split at h
  · cases h
    exact Moves.refl _
  · simp only [ok_iff, Prod.exists] at h
    obtain ⟨updated, db₁, htransact, -, rfl⟩ := h
    refine transact_moves hseen (by simp [statusMutation]) (fun _ _ => rfl)
      (fun lead memory after hlead hmutate hafter => ?_) htransact
    obtain ⟨current, hcur, htext, hallow, -, hget⟩ :=
      changeStatus_ok (keyed_refresh _ _) hmutate
    obtain rfl : updated = after := Option.mem_unique hget hafter
    refine Harmless.of_read ?_
    rw [← refresh_row hlead hcur]
    refine Harmless.of_open (fun hclosed => ?_) (not_closed_of_text htext henrolled hlost)
    rw [allowedTransitions_of_closed hclosed] at hallow
    exact absurd hallow List.not_mem_nil

/-! ### Interactions recorded by hand -/

theorem planIntent_moves {lead : LeadRecord} {leadId raw correlationId : String} {d : Draw}
    {intent : Option NextActionIntent}
    (h : planIntent rt db lead leadId raw principal correlationId d intent = .ok db') :
    Moves rt (ofDatabase db) (ofDatabase db') := by
  rw [planIntent.eq_def] at h
  split at h
  · simp only [ok_iff, Prod.exists] at h
    obtain ⟨_, db₁, hschedule, rfl⟩ := h
    exact scheduleForApi_moves (Table.Grows.refl db.leads) hschedule
  · cases h
    exact Moves.refl _

theorem interactionIntent_closed {lead : LeadRecord} {input : ManualInteractionInput}
    {intent : Option NextActionIntent} (hclosed : lead.status.Closed)
    (h : interactionIntent rt lead input = .ok intent) : intent = none := by
  simp only [interactionIntent, ok_iff] at h
  obtain ⟨-, -, -, hnone, intent', hintent, -, -, rfl⟩ := h
  rw [(hnone hclosed).1] at hintent
  exact (pure_ok_iff.mp hintent).symm

theorem addManualActivityForApi_moves {input : ManualInteractionInput} {d : InteractionDraw}
    (h : addManualActivityForApi rt db leadId input principal correlationId d = .ok (result, db')) :
    Moves rt (ofDatabase db) (ofDatabase db') := by
  simp only [addManualActivityForApi, bind_ok_iff] at h
  obtain ⟨raw, -, h⟩ := h
  split at h
  · simp only [ok_iff] at h
    obtain ⟨-, -, -, rfl⟩ := h
    exact Moves.refl _
  · simp only [recordInteraction, ok_iff, Prod.exists, Database.addReceipt_ok_iff]
    at h
    obtain ⟨_, _, ⟨lead, hlead, intent, hintent, -, -, activity, db₁, hactivity, db₂, hplan, _,
      ⟨receipts, -, rfl⟩, rfl, rfl⟩, -, rfl⟩ := h
    have hplanned := planIntent_moves hplan
    refine (addActivityForApi_moves (Table.Grows.refl db.leads) (fun row hrow hclosed => ?_)
      hactivity).trans hplanned
    obtain ⟨row', hmem, hread, hid⟩ := getLead_ok hlead
    obtain rfl : row' = row := by
      obtain ⟨hrow, hrowid⟩ := Database.lead_eq_some.mp hrow
      exact db.leads.eq_of_key hmem hrow (LeadRow.mem_keys_id.mpr hid)
        (LeadRow.mem_keys_id.mpr hrowid)
    have hclosed : lead.status.Closed := by
      have hreadStatus : lead.status = row'.read.status := congrArg LeadRow.status hread
      rwa [hreadStatus]
    rw [interactionIntent_closed hclosed hintent]
    rfl

/-! ### Reassignments -/

section Reassignment

open Assignment

theorem notifyAll_moves {leadId type key : String} {recipients : List String}
    (htype : type ≠ "FOLLOW_UP_DUE") (h : notifyAll rt db leadId type key recipients = .ok db') :
    Moves rt (ofDatabase db) (ofDatabase db') := by
  induction recipients generalizing db with
  | nil =>
    cases h
    exact Moves.refl _
  | cons recipientId recipients ih =>
    simp only [notifyAll, assignmentNotification, ok_iff, insert_ok_iff] at h
    obtain ⟨-, ⟨t, hcreate, rfl⟩, h⟩ := h
    refine Moves.trans (Move.notify (c := ofDatabase db) ?_ hcreate).moves (ih h)
    rintro (hdue | ⟨rest, hkey⟩)
    · exact htype hdue
    · simpa [legacyKey] using congrArg String.toList hkey

variable {request : ReassignmentRequestRow}

theorem advance_moveFollowUp {row f : LeadFollowUpRow} (h : FollowUpUnchanged request row f) :
    Advance f (moveFollowUp request f) ∧ (moveFollowUp request f).state ≠ .DUE := by
  refine ⟨⟨.inl h.2.2.1, rfl, rfl, Nat.lt_succ_self _⟩, ?_⟩
  rw [show (moveFollowUp request f).state = f.state from rfl, h.2.2.1]
  decide

variable {intent : Intent}

theorem transferRows_moves {campusId : String} {rows : List LeadFollowUpRow}
    (h : transferRows request campusId intent db rows = .ok db') :
    Moves rt (ofDatabase db) (ofDatabase db') := by
  induction rows generalizing db with
  | nil =>
    cases h
    exact Moves.refl _
  | cons row rows ih =>
    simp only [transferRows, bind_ok_iff, Database.audit_ok_iff] at h
    obtain ⟨-, -, -, ⟨audits, hcreate, rfl⟩, h⟩ := h
    have hadvance : Move rt (ofDatabase db) { ofDatabase db with
        followUps := db.leadFollowUps.updateMany (FollowUpUnchanged request row)
          (moveFollowUp request) (keys_moveFollowUp request) } :=
      .advance (FollowUpUnchanged request row) (keys_moveFollowUp request) fun _ _ hp =>
        advance_moveFollowUp hp
    refine Moves.trans hadvance.moves (Moves.trans (Move.audit ?_ hcreate).moves (ih h))
    rintro (htype | ⟨rest, hkey⟩)
    · simp at htype
    · simpa [legacyKey] using congrArg String.toList hkey

theorem transferOnApproval_moves {input : DecideReassignmentInput} {n : ℕ}
    (h : transferOnApproval rt db input request intent = .ok (n, db')) :
    Moves rt (ofDatabase db) (ofDatabase db') := by
  rw [transferOnApproval] at h
  split at h
  · rw [transferScheduledFollowUps] at h
    split at h
    · simp only [ok_iff] at h
      obtain ⟨_, -, _, -, db₁, htransfer, -, rfl⟩ := h
      exact transferRows_moves htransfer
    · cases h
      exact Moves.refl _
  · cases h
    exact Moves.refl _

theorem reassignmentEvent_ne_due (operation : ReassignmentOperation) (approved : Bool) :
    operation.eventType approved ≠ "FOLLOW_UP_DUE" := by
  cases operation <;> cases approved <;> decide

theorem appendReassignmentEffect_moves {lead : LeadRow} {operation : ReassignmentOperation}
    {transferred : Option ℕ}
    (h : appendReassignmentEffect rt db lead request operation intent transferred o = .ok db') :
    Moves rt (ofDatabase db) (ofDatabase db') := by
  simp only [appendReassignmentEffect, ok_iff, Database.addActivity_ok_iff, Database.audit_ok_iff,
    Database.addReceipt_ok_iff, insert_ok_iff] at h
  obtain ⟨_, -, -, -, -, ⟨activities, -, rfl⟩, -, ⟨audits, hcreate, rfl⟩, -,
    ⟨receipts, -, rfl⟩, events, -, h⟩ := h
  have hwrite : Move rt (ofDatabase db) { ofDatabase db with
      leads := db.leads.updateMany (StillOwned lead request operation) (moveLead request o.now)
        (keys_moveLead request o.now) } :=
    Move.write (c := ofDatabase db) (StillOwned lead request operation)
      (keys_moveLead request o.now) (fun _ _ _ => ⟨rfl, Nat.lt_succ_self _, fun _ => rfl⟩)
      fun _ _ _ hclosed => ⟨hclosed, .inl rfl⟩
  have hnotified := notifyAll_moves (by decide) h
  refine Moves.trans hwrite.moves (Moves.trans (Move.audit ?_ hcreate).moves hnotified)
  rintro (htype | ⟨rest, hkey⟩)
  · exact reassignmentEvent_ne_due _ _ htype
  · simpa [legacyKey] using congrArg String.toList hkey

variable {row : ReassignmentRequestRow}

theorem requestReassignment_moves {input : CreateReassignmentInput} {auth : Authority}
    {d : Assignment.Draw}
    (h : requestForApi rt db leadId input correlationId auth d = .ok (row, db')) :
    Moves rt (ofDatabase db) (ofDatabase db') := by
  simp only [requestForApi, bind_ok_iff] at h
  obtain ⟨-, -, current, -, h⟩ := h
  split at h
  · simp only [ok_iff] at h
    obtain ⟨-, -, -, rfl⟩ := h
    exact Moves.refl _
  · simp only [createRequest, ok_iff, insert_ok_iff] at h
    obtain ⟨lead, -, owner, -, -, -, -, -, -, -, -, -, requests, -, db₁, heff, approvers, -, db₂,
      hnotify, -, rfl⟩ := h
    have hmoved := appendReassignmentEffect_moves heff
    exact Moves.trans hmoved (notifyAll_moves (by decide) hnotify)

theorem decideReassignment_moves {requestId correlationId : String}
    {input : DecideReassignmentInput} {auth : Authority} {d : Assignment.Draw}
    (h : Assignment.decideForApi rt db requestId input correlationId auth d = .ok (row, db')) :
    Moves rt (ofDatabase db) (ofDatabase db') := by
  simp only [Assignment.decideForApi, bind_ok_iff] at h
  obtain ⟨-, -, -, -, current, -, -, -, row, -, -, -, h⟩ := h
  split at h
  · simp only [ok_iff] at h
    obtain ⟨-, -, -, rfl⟩ := h
    exact Moves.refl _
  · simp only [applyDecision, ok_iff, Prod.exists] at h
    obtain ⟨-, -, -, -, lead, -, -, -, -, -, -, -, record, -, n, db₁, htransfer, db₂, heff, -,
      rfl⟩ := h
    have htransferred := transferOnApproval_moves htransfer
    exact Moves.trans htransferred (appendReassignmentEffect_moves heff)

/-- **A reassignment is moves**: the follow-ups that are transferred advance, and the
lead is written. -/
theorem transact_reassignment_moves {call : ReassignmentCall}
    (h : transact rt db call = .ok (row, db')) : Moves rt (ofDatabase db) (ofDatabase db') := by
  cases call with
  | request leadId input correlationId auth d => exact requestReassignment_moves h
  | decide requestId input correlationId auth d => exact decideReassignment_moves h

end Reassignment

end CrmYnov.Commercial
