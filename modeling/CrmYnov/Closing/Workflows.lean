import CrmYnov.Closing.Mutations
import CrmYnov.Commercial.Calls

/-!
# Creations and workflows are changes

A creation makes a lead enter as a prospect. A follow-up writes the next action of its
lead, a reassignment its owner, and neither of them the status. The reminders and the
requests to collaborate leave the dossier as it is.
-/

namespace CrmYnov.Closing

open Checked Leads FollowUp Commercial

variable {rt : Runtime} {db db' : Database}

theorem write_changes (p : LeadRow → Prop) [DecidablePred p] {f : LeadRow → LeadRow}
    (hf : ∀ l, (f l).keys = l.keys) (hlater : ∀ l, Later l (f l))
    (hstatus : ∀ l, (f l).status = l.status) {c : Dossier} :
    Changes c { c with leads := c.leads.updateMany p f hf } :=
  (Change.write p hf (fun l _ _ => hlater l) fun l _ _ => Steady.of_status (hstatus l)).changes

/-! ### Creations -/

theorem assignmentNotification_dossier {recipientId leadId type key suffix : String}
    (h : Assignment.assignmentNotification rt db recipientId leadId type key suffix = .ok db') :
    dossier db' = dossier db := by
  simp only [Assignment.assignmentNotification, ok_iff] at h
  obtain ⟨_, -, rfl⟩ := h
  rfl

theorem notifyAll_dossier {leadId type key : String} {recipients : List String}
    (h : Assignment.notifyAll rt db leadId type key recipients = .ok db') :
    dossier db' = dossier db := by
  obtain ⟨_, rfl⟩ := Assignment.notifyAll_ok h
  rfl

theorem auditMutation_dossier {eventType leadId key correlationId : String} {version : ℕ}
    {principal : Principal} {assignment : Option AssignmentAudit}
    (h : auditMutation rt db eventType leadId version key principal correlationId assignment =
      .ok db') : dossier db' = dossier db := by
  obtain ⟨_, rfl⟩ := auditMutation_ok h
  rfl

variable {auth : CreationAuthority}

variable {d : CreationDraw}

theorem recordAssignment_dossier {lead : LeadRecord} {activity : LeadActivityRecord}
    {a : InitialAssignment} {key fingerprint correlationId : String} {actor : Principal}
   
    (h : recordAssignment rt db lead activity a key fingerprint correlationId actor auth d =
      .ok db') : dossier db' = dossier db := by
  rw [recordAssignment] at h
  split at h
  · simp only [recordAssigned, bind_ok_iff, Database.addActivity_ok_iff] at h
    obtain ⟨-, -, db₁, ⟨_, -, rfl⟩, db₂, haudit, h⟩ := h
    have haudited := auditMutation_dossier haudit
    exact (assignmentNotification_dossier h).trans haudited
  · simp only [recordPending, bind_ok_iff, Database.audit_ok_iff] at h
    obtain ⟨db₁, ⟨_, -, rfl⟩, managers, -, h⟩ := h
    have hnotified := notifyAll_dossier h
    exact hnotified

theorem assign_status (a : InitialAssignment) (lead : LeadRecord) :
    (a.assign lead).status = lead.status := by
  rw [InitialAssignment.assign]
  split <;> rfl

/-- **A creation makes its lead enter**, and keeps its receipt. -/
theorem storeLead_changes {lead stored : LeadRecord} {activity : LeadActivityRecord}
    {key fingerprint correlationId : String} {actor : Principal}
    (hopen : ¬lead.status.Closed) (hkey : ¬IsDecision key)
    (h : storeLead rt db lead activity key fingerprint correlationId actor auth d =
      .ok (stored, db')) : Changes (dossier db) (dossier db') := by
  simp only [storeLead, ok_iff, insert_ok_iff, Database.addActivity_ok_iff,
    Database.addReceipt_ok_iff, Prod.exists] at h
  obtain ⟨references, -, assignment, -, leads, hcreate, db₁, ⟨_, -, rfl⟩, db₂, haudit, db₃, hrecord,
    db₄, ⟨receipts, hrec, rfl⟩, -, -, -, rfl, rfl⟩ := h
  have hrecorded : dossier db₃ = { dossier db with leads } :=
    (recordAssignment_dossier hrecord).trans (auditMutation_dossier haudit)
  have hrecs : db₃.leadMutationReceipts = db.leadMutationReceipts :=
    congrArg Dossier.receipts hrecorded
  rw [hrecs] at hrec
  have hentered : Change (dossier db) { dossier db with leads } := by
    refine Change.enter hcreate ?_
    rw [assign_status]
    exact hopen
  have hkept : Change { dossier db with leads } { dossier db with leads, receipts } :=
    Change.receive hrec hkey
  have hstored : dossier { db₃ with leadMutationReceipts := receipts } =
      { dossier db with leads, receipts } :=
    congrArg (fun c : Dossier => { c with receipts }) hrecorded
  exact hstored ▸ hentered.changes.trans hkept.changes

theorem persistCreation_changes {input : CreateLeadInput} {result : CreateLeadResult}
    {key fingerprint correlationId : String} {principal : Principal}
    {stored : ReceiptResult} (hopen : ¬result.lead.status.Closed) (hkey : ¬IsDecision key)
    (h : persistCreation rt db input result key fingerprint correlationId principal auth d =
      .ok (stored, db')) : Changes (dossier db) (dossier db') := by
  simp only [persistCreation, bind_ok_iff] at h
  obtain ⟨-, -, -, -, actor, -, h⟩ := h
  split at h
  · simp only [ok_iff] at h
    obtain ⟨-, -, -, rfl⟩ := h
    exact Changes.refl _
  · simp only [ok_iff, Prod.exists] at h
    obtain ⟨-, -, lead, db₁, hstore, -, rfl⟩ := h
    have hfirst : ¬LeadStatus.Closed { result.lead with version := 1 }.status := hopen
    exact storeLead_changes hfirst hkey hstore

theorem createLeadForApi_changes (call : CreationCall) (s : Process) :
    Changes (dossier s.db) (dossier (createLeadForApi rt call s).2.db) := by
  rw [createLeadForApi]
  split
  · exact Changes.refl _
  split
  · exact Changes.refl _
  split
  · exact Changes.refl _
  rename_i s' hrefresh
  obtain ⟨-, rfl⟩ := refresh_ok_iff.mp hrefresh
  split
  · exact Changes.refl _
  · exact Changes.refl _
  split
  · exact Changes.refl _
  rename_i result memory hcreated
  simp only [createLead, ok_iff] at hcreated
  obtain ⟨-, -, -, -, email, -, phone, -, rfl, rfl⟩ := hcreated
  rw [CreationCall.commit]
  split
  · rw [recover_db]
    exact Changes.refl _
  rename_i stored db' hpersist
  have hkey : ¬IsDecision call.key := by
    delta CreationCall.key
    rw [String.append_assoc, String.append_assoc]
    exact not_isDecision (by decide) (by decide)
  -- a lead is created as a prospect
  have hprospect : ¬LeadStatus.Closed .PROSPECT := by decide
  have hstored := persistCreation_changes hprospect hkey hpersist
  dsimp only
  split
  · rw [recover_db]
    exact hstored
  · rename_i s' hrefresh
    obtain ⟨-, rfl⟩ := refresh_ok_iff.mp hrefresh
    exact hstored

/-! ### Follow-ups -/

theorem updateLead_changes {leadId : String} {version : ℕ} {nextActionAt : Option Instant}
    {now : Instant} (h : updateLead db leadId version nextActionAt now = .ok db') :
    Changes (dossier db) (dossier db') := by
  obtain ⟨-, rfl⟩ := updateLead_ok h
  exact write_changes (c := dossier db) (LeadAt leadId version) (keys_setNextAction nextActionAt now)
    (later_setNextAction nextActionAt now) fun _ => rfl

variable {mutation : FollowUpMutationInput}

theorem recordFollowUp_dossier {activity : LeadActivityRow} {result : FollowUpRecord}
    {eventType : String} (h : recordFollowUp rt db activity result eventType mutation = .ok db') :
    dossier db' = dossier db := by
  simp only [recordFollowUp, auditFollowUp, addFollowUpReceipt, ok_iff, Database.addActivity_ok_iff,
    Database.audit_ok_iff] at h
  obtain ⟨-, ⟨t, -, rfl⟩, -, ⟨_, -, u, -, rfl⟩, v, -, rfl⟩ := h
  rfl

theorem schedule_changes {record stored : FollowUpRecord} {d : Draw}
    (h : schedule rt db record mutation d = .ok (stored, db')) :
    Changes (dossier db) (dossier db') := by
  simp only [schedule, bind_ok_iff, mapConcurrency_ok_iff, scheduleNextActionInTransaction] at h
  obtain ⟨-, -, h⟩ := h
  split at h
  · simp only [ok_iff] at h
    obtain ⟨-, -, -, rfl⟩ := h
    exact Changes.refl _
  · simp only [ok_iff, insert_ok_iff] at h
    obtain ⟨-, -, db₁, hlead, id, -, ownerId, -, t, -, db₂, hrecord, -, rfl⟩ := h
    rw [recordFollowUp_dossier hrecord]
    have hwritten := updateLead_changes hlead
    exact hwritten

theorem followUpDecide_changes {current next stored : FollowUpRecord} {eventType : String}
    {d : Draw} (h : FollowUp.decide rt db current next eventType mutation d = .ok (stored, db')) :
    Changes (dossier db) (dossier db') := by
  simp only [FollowUp.decide, bind_ok_iff, mapConcurrency_ok_iff] at h
  obtain ⟨-, -, h⟩ := h
  split at h
  · simp only [ok_iff] at h
    obtain ⟨-, -, -, rfl⟩ := h
    exact Changes.refl _
  · simp only [decideInTransaction, ok_iff] at h
    obtain ⟨-, -, db₁, hlead, row, -, db₂, hrecord, -, rfl⟩ := h
    rw [recordFollowUp_dossier hrecord]
    have hwritten := updateLead_changes hlead
    exact hwritten

section Service

variable {view : View} {leadId id correlationId : String} {principal : Principal}
  {record : FollowUpRecord}

theorem scheduleForApi_changes {input : ScheduleInput} {d : Draw}
    (h : scheduleForApi rt view db leadId input principal correlationId d = .ok (record, db')) :
    Changes (dossier db) (dossier db') := by
  simp only [scheduleForApi, bind_ok_iff, Prod.exists] at h
  obtain ⟨lead, -, -, -, due, reason, ownerId, -, key, -, replay, -, h⟩ := h
  split at h
  · cases h
    exact Changes.refl _
  · simp only [bind_ok_iff] at h
    obtain ⟨built, -, h⟩ := h
    exact schedule_changes h

variable {input : FollowUpDecisionInput}

theorem decideSingleForApi_changes {d : Draw}
    (h : decideSingleForApi rt view db id input principal correlationId d = .ok (record, db')) :
    Changes (dossier db) (dossier db') := by
  simp only [decideSingleForApi, bind_ok_iff] at h
  obtain ⟨current, -, decision, -, key, -, replay, -, h⟩ := h
  split at h
  · cases h
    exact Changes.refl _
  · simp only [bind_ok_iff] at h
    obtain ⟨-, -, lead, -, -, -, h⟩ := h
    exact followUpDecide_changes h

theorem completeAndPlanForApi_changes {d : CompletionDraw}
    (h : completeAndPlanForApi rt db id input principal correlationId d = .ok (record, db')) :
    Changes (dossier db) (dossier db') := by
  simp only [completeAndPlanForApi, bind_ok_iff] at h
  obtain ⟨raw, -, key, -, replay, -, h⟩ := h
  split at h
  · cases h
    exact Changes.refl _
  · simp only [bind_ok_iff] at h
    obtain ⟨plan, -, h⟩ := h
    split at h
    · cases h
    · simp only [ok_iff, Prod.exists] at h
      obtain ⟨-, -, current, -, -, -, lead, -, -, -, -, -, completed, db₁, hdecide, _, db₂,
        hschedule, -, rfl⟩ := h
      exact (decideSingleForApi_changes hdecide).trans (scheduleForApi_changes hschedule)

theorem followUpDecision_changes {d : CompletionDraw}
    (h : FollowUp.decideForApi rt view db id input principal correlationId d = .ok (record, db')) :
    Changes (dossier db) (dossier db') := by
  simp only [FollowUp.decideForApi, bind_ok_iff] at h
  obtain ⟨-, -, _, -, h⟩ := h
  split at h
  · exact completeAndPlanForApi_changes h
  · exact decideSingleForApi_changes h

theorem planIntent_changes {lead : LeadRecord} {raw : String} {d : Draw}
    {intent : Option NextActionIntent}
    (h : planIntent rt db lead leadId raw principal correlationId d intent = .ok db') :
    Changes (dossier db) (dossier db') := by
  rw [planIntent.eq_def] at h
  split at h
  · simp only [ok_iff, Prod.exists] at h
    obtain ⟨_, db₁, hschedule, rfl⟩ := h
    exact scheduleForApi_changes hschedule
  · cases h
    exact Changes.refl _

theorem addManualActivityForApi_changes {input : ManualInteractionInput} {d : InteractionDraw}
    {result : ReceiptResult}
    (h : addManualActivityForApi rt db leadId input principal correlationId d = .ok (result, db')) :
    Changes (dossier db) (dossier db') := by
  simp only [addManualActivityForApi, bind_ok_iff] at h
  obtain ⟨raw, -, h⟩ := h
  split at h
  · simp only [ok_iff] at h
    obtain ⟨-, -, -, rfl⟩ := h
    exact Changes.refl _
  · simp only [recordInteraction, ok_iff, Prod.exists, Database.addReceipt_ok_iff]
    at h
    obtain ⟨_, _, ⟨lead, -, intent, -, -, -, activity, db₁, hactivity, db₂, hplan, _,
      ⟨receipts, hrec, rfl⟩, rfl, rfl⟩, -, rfl⟩ := h
    have hkey : ¬IsDecision ("commercial-interaction:" ++ leadId ++ ":" ++ raw) := by
      rw [String.append_assoc, String.append_assoc]
      exact not_isDecision (by decide) (by decide)
    have hkept : Change (dossier db₂) { dossier db₂ with receipts } :=
      Change.receive hrec hkey
    exact ((addActivityForApi_changes (Table.Grows.refl db.leads) hactivity).trans
      (planIntent_changes hplan)).trans hkept.changes

end Service

/-! ### Reminders -/

variable {marked : Marked}

theorem remind_dossier {id : String} (h : remind rt db id = .ok (marked, db')) :
    dossier db' = dossier db := by
  simp only [remind, bind_ok_iff] at h
  obtain ⟨previous, -, key, -, h⟩ := h
  split at h
  · split at h
    · simp only [bind_ok_iff, Database.audit_ok_iff] at h
      obtain ⟨current, -, _, ⟨audits, -, rfl⟩, h⟩ := h
      obtain ⟨t, -, rfl⟩ := notifyDue_ok h
      rfl
    · cases h
      rfl
  · obtain ⟨t, -, rfl⟩ := notifyDue_ok h
    rfl

theorem remindAll_dossier {ids : List String}
    (h : remindAll rt db ids = .ok (marked, db')) : dossier db' = dossier db := by
  induction ids generalizing db marked with
  | nil =>
    cases h
    rfl
  | cons id ids ih =>
    simp only [remindAll, ok_iff, Prod.exists] at h
    obtain ⟨first, db₁, hfirst, rest, db₂, hrest, -, rfl⟩ := h
    exact (ih hrest).trans (remind_dossier hfirst)

theorem markDue_dossier {snapshot : Database} {now : Instant} {limit : ℤ} {locked : List String}
    (h : FollowUp.markDue rt snapshot db now limit locked = .ok (marked, db')) :
    dossier db' = dossier db := by
  simp only [FollowUp.markDue, bind_ok_iff] at h
  obtain ⟨-, -, h⟩ := h
  exact remindAll_dossier h

/-! ### Reassignments -/

section Reassignment

open Assignment

variable {request : ReassignmentRequestRow}

variable {intent : Intent}

theorem transferRows_dossier {campusId : String} {rows : List LeadFollowUpRow}
    (h : transferRows request campusId intent db rows = .ok db') : dossier db' = dossier db := by
  induction rows generalizing db with
  | nil =>
    cases h
    rfl
  | cons row rows ih =>
    simp only [transferRows, bind_ok_iff, Database.audit_ok_iff] at h
    obtain ⟨-, -, -, ⟨audits, -, rfl⟩, h⟩ := h
    have hrest := ih h
    exact hrest

theorem transferOnApproval_dossier {input : DecideReassignmentInput} {n : ℕ}
    (h : transferOnApproval rt db input request intent = .ok (n, db')) :
    dossier db' = dossier db := by
  rw [transferOnApproval] at h
  split at h
  · rw [transferScheduledFollowUps] at h
    split at h
    · simp only [ok_iff] at h
      obtain ⟨_, -, _, -, db₁, htransfer, -, rfl⟩ := h
      exact transferRows_dossier htransfer
    · cases h
      rfl
  · cases h
    rfl

theorem appendReassignmentEffect_changes {lead : LeadRow} {operation : ReassignmentOperation}
    {transferred : Option ℕ} {o : Occasion} (hkey : ¬IsDecision intent.key)
    (h : appendReassignmentEffect rt db lead request operation intent transferred o = .ok db') :
    Changes (dossier db) (dossier db') := by
  simp only [appendReassignmentEffect, ok_iff, Database.addActivity_ok_iff, Database.audit_ok_iff,
    Database.addReceipt_ok_iff, insert_ok_iff] at h
  obtain ⟨_, -, -, -, -, ⟨activities, -, rfl⟩, -, ⟨audits, -, rfl⟩, -,
    ⟨receipts, hrec, rfl⟩, events, -, h⟩ := h
  rw [notifyAll_dossier h]
  have hwrite : Changes (dossier db) { dossier db with
      leads := db.leads.updateMany (StillOwned lead request operation) (moveLead request o.now)
        (keys_moveLead request o.now) } :=
    write_changes (c := dossier db) (StillOwned lead request operation) (keys_moveLead request o.now)
      (fun _ => ⟨rfl, Nat.lt_succ_self _, fun _ => rfl⟩) fun _ => rfl
  refine hwrite.trans (Change.changes ?_)
  exact Change.receive (c := { dossier db with
    leads := db.leads.updateMany (StillOwned lead request operation) (moveLead request o.now)
      (keys_moveLead request o.now) }) hrec hkey

variable {row : ReassignmentRequestRow}

theorem requestReassignment_changes {leadId correlationId : String}
    {input : CreateReassignmentInput} {auth : Authority} {d : Assignment.Draw}
    (h : requestForApi rt db leadId input correlationId auth d = .ok (row, db')) :
    Changes (dossier db) (dossier db') := by
  simp only [requestForApi, bind_ok_iff] at h
  obtain ⟨-, -, current, -, h⟩ := h
  split at h
  · simp only [ok_iff] at h
    obtain ⟨-, -, -, rfl⟩ := h
    exact Changes.refl _
  · simp only [createRequest, ok_iff, insert_ok_iff] at h
    obtain ⟨lead, -, owner, -, -, -, -, -, -, -, -, -, requests, -, db₁, heff, approvers, -, db₂,
      hnotify, -, rfl⟩ := h
    rw [notifyAll_dossier hnotify]
    have heffected := appendReassignmentEffect_changes (not_isDecision (by decide) (by decide)) heff
    exact heffected

theorem decideReassignment_changes {requestId correlationId : String}
    {input : DecideReassignmentInput} {auth : Authority} {d : Assignment.Draw}
    (h : Assignment.decideForApi rt db requestId input correlationId auth d = .ok (row, db')) :
    Changes (dossier db) (dossier db') := by
  simp only [Assignment.decideForApi, bind_ok_iff] at h
  obtain ⟨-, -, -, -, current, -, -, -, row, -, -, -, h⟩ := h
  split at h
  · simp only [ok_iff] at h
    obtain ⟨-, -, -, rfl⟩ := h
    exact Changes.refl _
  · simp only [applyDecision, ok_iff, Prod.exists] at h
    obtain ⟨-, -, -, -, lead, -, -, -, -, -, -, -, record, -, n, db₁, htransfer, db₂, heff, -,
      rfl⟩ := h
    have htransferred := transferOnApproval_dossier htransfer
    have heffected := appendReassignmentEffect_changes (not_isDecision (by decide) (by decide)) heff
    rw [htransferred] at heffected
    exact heffected

theorem reassignment_changes {call : ReassignmentCall} (h : transact rt db call = .ok (row, db')) :
    Changes (dossier db) (dossier db') := by
  cases call with
  | request leadId input correlationId auth d => exact requestReassignment_changes h
  | decide requestId input correlationId auth d => exact decideReassignment_changes h

end Reassignment

end CrmYnov.Closing
