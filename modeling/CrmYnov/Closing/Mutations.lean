import CrmYnov.Assignment.Assignees
import CrmYnov.Closing.Changes
import CrmYnov.Collaboration.Service
import CrmYnov.Leads.Corrections
import CrmYnov.Leads.Creation

/-!
# Mutations of leads are changes

A mutation writes its lead at the version that was read and keeps a receipt under its
key. It is a change when it leaves its lead closed or not closed as it was
(`CrmYnov.Closing.Steady`), which all of them do but the approval of a request: an update,
a correction and the operations on owners and collaborators do not touch the status, and
an activity or a change of status never asks for a final one.
-/

namespace CrmYnov.Closing

open Checked Leads Closure Commercial

variable {rt : Runtime} {db db' : Database}

/-! ### What a persisted mutation writes -/

variable {o : Occasion} {result : ReceiptResult}

theorem persistMutationInTransaction_keeps {input : PersistMutationInput}
    (h : persistMutationInTransaction rt db input o = .ok (result, db')) :
    db'.leadClosureRequests = db.leadClosureRequests ∧
      ∃ receipt, db.leadMutationReceipts.create receipt = some db'.leadMutationReceipts ∧
        receipt.idempotencyKey = input.idempotencyKey := by
  simp only [persistMutationInTransaction, updateLeadVersion, persistMutationRelations, bind_assoc,
    ok_iff, pure_bind, Database.addReceipt_ok_iff] at h
  obtain ⟨-, -, references, -, -, -, -, -, db₁, hacts, db₂, haudit, db₃, hcontact, -,
    ⟨receipts, hcreate, rfl⟩, -, -, -, rfl⟩ := h
  obtain ⟨activities, -, rfl⟩ := addActivities_ok hacts
  obtain ⟨audits, rfl⟩ := auditMutation_ok haudit
  obtain ⟨audits', rfl⟩ := auditFirstContact_ok hcontact
  by_cases hop : input.operation = .COLLABORATOR
  · simp only [if_pos hop, replaceCollaborators] at hcreate ⊢
    exact ⟨trivial, _, hcreate, rfl⟩
  · simp only [if_neg hop] at hcreate ⊢
    exact ⟨trivial, _, hcreate, rfl⟩

variable {seen : Database}

theorem written_eq {before row : LeadRow} (hseen : seen.leads.Grows Later db.leads)
    (hrow : row ∈ seen.leads.rows) (hbefore : before = row.read) :
    ∀ l ∈ db.leads.rows, AtVersion before l → l = row := by
  intro l hl hat
  rw [hbefore] at hat
  exact lead_eq_of_version hseen hrow hl hat.1 hat.2

/-- **A persisted mutation is changes**, when its key is none of a decision and it leaves
its lead steady. -/
theorem persisted_changes {input : PersistMutationInput} {row : LeadRow}
    (hseen : seen.leads.Grows Later db.leads) (hrow : row ∈ seen.leads.rows)
    (hbefore : input.before.toLeadRow = row.read) (hkey : ¬IsDecision input.idempotencyKey)
    (hsteady : Steady row input.after.toLeadRow)
    (h : persistMutationInTransaction rt db input o = .ok (result, db')) :
    Changes (dossier db) (dossier db') := by
  obtain ⟨hrequests, receipt, hcreate, hrec⟩ := persistMutationInTransaction_keeps h
  obtain ⟨references, hwritten⟩ := persistMutationInTransaction_written h
  have hwrite : Change (dossier db) { dossier db with leads := db'.leads } := by
    rw [hwritten.leads]
    refine Change.write (c := dossier db) (AtVersion input.before.toLeadRow) (LeadRow.keys_mutate _)
      (fun l hl hat => ?_) fun l hl hat => ?_
    · obtain rfl := written_eq hseen hrow hbefore l hl hat
      exact ⟨rfl, Nat.lt_succ_self _, hsteady.kept⟩
    · obtain rfl := written_eq hseen hrow hbefore l hl hat
      exact ⟨hsteady.kept, hsteady.closed⟩
  have hdossier : dossier db' =
      { dossier db with leads := db'.leads, receipts := db'.leadMutationReceipts } := by
    rw [dossier, hrequests]
    rfl
  rw [hdossier]
  exact hwrite.changes.trans
    (Change.receive (c := { dossier db with leads := db'.leads }) hcreate (hrec ▸ hkey)).changes

/-! ### Mutations, on a reading and in a process -/

/-- What a mutation does to its lead, when it adds nothing to its transaction. -/
structure Settles {T : Type} (r : ApiMutation T) : Prop where
  effect : ∀ result db, r.atomicEffect result db = pure db
  key : ¬IsDecision r.idempotencyKey
  steady : ∀ m result memory current after, Keyed m → m.leads.get r.leadId = some current →
    r.mutate m = .ok (result, memory) → memory.leads.get r.leadId = some after →
    Steady current.toLeadRow after.toLeadRow

theorem Steady.of_read {l l' : LeadRow} (h : Steady l.read l') : Steady l l' :=
  ⟨h.kept, h.closed⟩

/-- **A mutation on a reading is changes.** -/
theorem transact_changes {T : Type} {r : ApiMutation T} {result : T}
    (hseen : seen.leads.Grows Later db.leads) (hr : Settles r)
    (h : r.transact rt o seen db = .ok (result, db')) : Changes (dossier db) (dossier db') := by
  obtain ⟨lead, memory, hlead, hmutate, ⟨-, rfl⟩ | ⟨after, stored, _, db₁, hafter, hbefore, hstored, -,
    hkey, hwritten, hdb⟩⟩ := transact_ok h
  · exact Changes.refl _
  · rw [hr.effect] at hdb
    cases hdb
    obtain ⟨hmem, -⟩ := Database.lead_eq_some.mp hlead
    have hcur : (LeadMemory.init.refresh seen).leads.get r.leadId =
        some (mapStoredLead seen lead) := by rw [refresh_lead, hlead, Option.map_some]
    have hsteady := hr.steady _ _ _ _ _ (keyed_refresh _ _) hcur hmutate hafter
    refine persisted_changes hseen hmem hbefore (hkey ▸ hr.key) ?_ hwritten
    rw [hstored]
    exact Steady.of_read ⟨hsteady.kept, hsteady.closed⟩

/-- **A mutation in a process is changes.** -/
theorem persistApiMutation_changes {T : Type} {r : ApiMutation T} (hr : Settles r)
    (c : Circumstances) (s : Process) :
    Changes (dossier s.db) (dossier (persistApiMutation rt r c s).2.db) := by
  rcases persistApiMutation_cases rt r c s with
    ⟨-, hdb, -⟩ | ⟨result, memory, before, hran, -, ⟨after, hafter, hpersist⟩ | ⟨-, hdb⟩⟩
  · rw [hdb]
    exact Changes.refl _
  · simp only [ApiMutation.persist, persistMutation, ok_iff, Prod.exists] at hpersist
    obtain ⟨-, -, _, db₁, ⟨-, -, hpersist⟩, rfl⟩ := hpersist
    split at hpersist
    · simp only [ok_iff] at hpersist
      obtain ⟨_, -, -, hdb⟩ := hpersist
      rw [← hdb]
      exact Changes.refl _
    · simp only [hr.effect, ok_iff, Prod.exists] at hpersist
      obtain ⟨_, db₂, hwritten, _, rfl, -, hdb⟩ := hpersist
      rw [← hdb]
      have hsteady := hr.steady _ _ _ _ _ (keyed_refresh _ _) hran.found hran.mutated hafter
      have hfound := hran.found
      rw [refresh_lead, Option.map_eq_some_iff] at hfound
      obtain ⟨row, hrow, rfl⟩ := hfound
      have hrow' : Steady row (r.stored rt (mapStoredLead s.db row) after (s.memory.refresh s.db)
          memory).after.toLeadRow := ⟨hsteady.kept, hsteady.closed⟩
      exact persisted_changes (Table.Grows.refl s.db.leads) (Database.lead_eq_some.mp hrow).1 rfl hr.key
        hrow' hwritten
  · rw [hdb]
    exact Changes.refl _

/-! ### The lead service -/

variable {leadId : String}

theorem steady_record {m : LeadMemory} {current updated after : LeadRecord}
    {activity : LeadActivityRecord} (h : (m.record updated activity).leads.get leadId = some after)
    (hid : updated.id = leadId) (hstatus : updated.status = current.status) :
    Steady current.toLeadRow after.toLeadRow := by
  have hget := record_get m updated activity
  rw [hid] at hget
  obtain rfl := Option.mem_unique hget h
  exact Steady.of_status hstatus

variable {correlationId : String} {principal : Principal}

theorem settles_activity {input : ActivityInput} {o : ContactOccasion} :
    Settles (activityMutation rt leadId input principal correlationId o) where
  effect _ _ := rfl
  key := by
    rw [activityMutation, String.append_assoc, String.append_assoc]
    exact not_isDecision (by decide) (by decide)
  steady m result memory current after hm hcur hmutate hafter := by
    obtain ⟨lead, after', -, hlead, -, hget, -, hstatus⟩ := addActivity_ok hm hmutate
    obtain rfl : lead = current := Option.mem_unique hlead hcur
    obtain rfl : after' = after := Option.mem_unique hget hafter
    rcases hstatus with hsame | ⟨hprospect, hcontacted⟩
    · exact Steady.of_status hsame
    · exact Steady.of_open (by rw [hprospect]; decide) (by rw [hcontacted]; decide)

theorem settles_status {input : CommercialStatusInput} (henrolled : input.status ≠ "ENROLLED")
    (hlost : input.status ≠ "CLOSED_LOST") :
    Settles (statusMutation leadId input principal correlationId o) where
  effect _ _ := rfl
  key := by
    rw [statusMutation, String.append_assoc, String.append_assoc]
    exact not_isDecision (by decide) (by decide)
  steady m result memory current after hm hcur hmutate hafter := by
    obtain ⟨lead, hlead, htext, hallow, -, hget⟩ := changeStatus_ok hm hmutate
    obtain rfl : lead = current := Option.mem_unique hlead hcur
    obtain rfl : result = after := Option.mem_unique hget hafter
    refine Steady.of_open (fun hclosed => ?_) (not_closed_of_text htext henrolled hlost)
    rw [allowedTransitions_of_closed hclosed] at hallow
    exact absurd hallow List.not_mem_nil

theorem settles_update (call : UpdateCall) : Settles (call.mutation rt) where
  effect _ _ := rfl
  key := by
    rw [UpdateCall.mutation, String.append_assoc, String.append_assoc]
    exact not_isDecision (by decide) (by decide)
  steady m result memory current after hm hcur hmutate hafter := by
    simp only [UpdateCall.mutation, updateLead, LeadMemory.requireLead, normalizeLeadUpdate, ok_iff] at hmutate hcur hafter
    obtain ⟨lead, hlead, -, -, -, -, -, -, _, ⟨-, -, _, -, _, -, rfl⟩, -, -, rfl, rfl⟩ := hmutate
    obtain rfl : lead = current := Option.mem_unique hlead hcur
    rw [Dict.get_set_self] at hafter
    cases hafter
    exact Steady.of_status rfl

theorem settles_correction (call : CorrectionCall) (o : Occasion) : Settles (call.mutation rt o) where
  effect _ _ := rfl
  key := not_isDecision (by decide) (by decide)
  steady m result memory current after hm hcur hmutate hafter := by
    have hleads : memory.leads = m.leads := by
      obtain ⟨-, -, ⟨-, -, rfl⟩ | ⟨-, -, rfl⟩⟩ := correctActivity_cases hmutate <;> rfl
    rw [hleads, hcur] at hafter
    cases hafter
    exact Steady.of_status rfl

theorem addActivityForApi_changes {input : ActivityInput} {o : ContactOccasion}
    {activity : LeadActivityRecord} (hseen : seen.leads.Grows Later db.leads)
    (h : addActivityForApi rt seen db leadId input principal correlationId o = .ok (activity, db')) :
    Changes (dossier db) (dossier db') := by
  simp only [addActivityForApi, bind_ok_iff] at h
  obtain ⟨-, -, -, -, replay, -, h⟩ := h
  split at h
  · simp only [ok_iff] at h
    obtain ⟨_, -, -, rfl⟩ := h
    exact Changes.refl _
  · simp only [ok_iff, Prod.exists] at h
    obtain ⟨_, db₁, htransact, _, -, -, rfl⟩ := h
    exact transact_changes hseen settles_activity htransact

theorem changeStatusForApi_changes {input : CommercialStatusInput}
    (hseen : seen.leads.Grows Later db.leads)
    (h : changeStatusForApi rt seen db leadId input principal correlationId o = .ok (result, db')) :
    Changes (dossier db) (dossier db') := by
  simp only [changeStatusForApi, ok_iff] at h
  obtain ⟨-, -, -, ⟨henrolled, hlost⟩, replay, -, h⟩ := h
  split at h
  · cases h
    exact Changes.refl _
  · simp only [ok_iff, Prod.exists] at h
    obtain ⟨updated, db₁, htransact, -, rfl⟩ := h
    exact transact_changes hseen (settles_status henrolled hlost) htransact

theorem updateLeadForApi_changes (call : UpdateCall) (s : Process) :
    Changes (dossier s.db) (dossier (updateLeadForApi rt call s).2.db) := by
  rw [updateLeadForApi]
  split
  · exact Changes.refl _
  · exact Changes.refl _
  · exact persistApiMutation_changes (settles_update call) call.circumstances s

theorem correctActivityForApi_changes (call : CorrectionCall) (c : Circumstances) (s : Process) :
    Changes (dossier s.db) (dossier (correctActivityForApi rt call c s).2.db) := by
  rw [correctActivityForApi]
  split
  · exact Changes.refl _
  split
  · exact Changes.refl _
  · exact persistApiMutation_changes (settles_correction call c.toOccasion) c s

/-! ### Owners and collaborators -/

variable {m m' : LeadMemory}

theorem steady_assignLocalLead
    {leadId assignedToId correlationId reason assignmentMode : String}
    {current result after : LeadRecord} (hm : Keyed m)
    (hcur : m.leads.get leadId = some current)
    (h : assignLocalLead m leadId assignedToId principal correlationId reason assignmentMode o =
      .ok (result, m')) (hafter : m'.leads.get leadId = some after) :
    Steady current.toLeadRow after.toLeadRow := by
  simp only [assignLocalLead, LeadMemory.requireLead, ok_iff] at h
  obtain ⟨-, -, lead, hlead, -, -, rfl, rfl⟩ := h
  obtain rfl : lead = current := Option.mem_unique hlead hcur
  exact steady_record hafter (hm leadId lead hlead) rfl

theorem steady_reassignLocalLead
    {leadId expectedOwnerId targetUserId correlationId reason : String}
    {current result after : LeadRecord} (hm : Keyed m)
    (hcur : m.leads.get leadId = some current)
    (h : reassignLocalLead m leadId expectedOwnerId targetUserId principal correlationId reason o =
      .ok (result, m')) (hafter : m'.leads.get leadId = some after) :
    Steady current.toLeadRow after.toLeadRow := by
  simp only [reassignLocalLead, LeadMemory.requireLead, ok_iff] at h
  obtain ⟨-, -, lead, hlead, -, -, -, -, rfl, rfl⟩ := h
  obtain rfl : lead = current := Option.mem_unique hlead hcur
  exact steady_record hafter (hm leadId lead hlead) rfl

theorem steady_applyCollaborator
    {leadId targetUserId role correlationId : String} {action : CollaboratorAction}
    {current result after : LeadRecord} (hm : Keyed m)
    (hcur : m.leads.get leadId = some current)
    (h : applyCollaborator m leadId targetUserId action role principal correlationId o =
      .ok (result, m')) (hafter : m'.leads.get leadId = some after) :
    Steady current.toLeadRow after.toLeadRow := by
  simp only [applyCollaborator, LeadMemory.requireLead, ok_iff] at h
  obtain ⟨-, -, lead, hlead, -, -, -, -, rfl, rfl⟩ := h
  obtain rfl : lead = current := Option.mem_unique hlead hcur
  exact steady_record hafter (hm leadId lead hlead) rfl

variable {c : Circumstances}

theorem assignLocalLeadForApi_changes {leadId assignedToId correlationId reason mode : String}
    {audit : Option AssignmentAudit} (s : Process) :
    Changes (dossier s.db) (dossier (assignLocalLeadForApi rt leadId assignedToId principal
      correlationId reason mode audit c s).2.db) := by
  refine persistApiMutation_changes ⟨fun _ _ => rfl, ?_, ?_⟩ c s
  · rw [String.append_assoc, String.append_assoc]
    exact not_isDecision (by decide) (by decide)
  · intro m result memory current after hm hcur hmutate hafter
    exact steady_assignLocalLead hm hcur hmutate hafter

theorem reassignLocalLeadForApi_changes
    {leadId expectedOwnerId targetUserId correlationId reason : String}
    (s : Process) :
    Changes (dossier s.db) (dossier (reassignLocalLeadForApi rt leadId expectedOwnerId targetUserId
      principal correlationId reason c s).2.db) := by
  refine persistApiMutation_changes ⟨fun _ _ => rfl, ?_, ?_⟩ c s
  · rw [String.append_assoc, String.append_assoc]
    exact not_isDecision (by decide) (by decide)
  · intro m result memory current after hm hcur hmutate hafter
    exact steady_reassignLocalLead hm hcur hmutate hafter

theorem applyCollaboratorForApi_changes {leadId targetUserId role correlationId : String}
    {action : CollaboratorAction} (s : Process) :
    Changes (dossier s.db) (dossier (applyCollaboratorForApi rt leadId targetUserId action role
      principal correlationId c s).2.db) := by
  refine persistApiMutation_changes ⟨fun _ _ => rfl, ?_, ?_⟩ c s
  · rw [String.append_assoc, String.append_assoc]
    exact not_isDecision (by decide) (by decide)
  · intro m result memory current after hm hcur hmutate hafter
    exact steady_applyCollaborator hm hcur hmutate hafter

/-! ### Requests to collaborate -/

section Collaboration

open Collaboration

theorem settles_collaborationRequest {requests : Requests} {leadId correlationId requestId : String}
    {input : CollaborationInput} :
    Settles (requestMutation requests leadId input principal correlationId requestId) where
  effect _ _ := rfl
  key := by
    rw [requestMutation, String.append_assoc, String.append_assoc]
    exact not_isDecision (by decide) (by decide)
  steady m result memory current after hm hcur hmutate hafter := by
    simp only [requestMutation, Collaboration.request, ok_iff] at hmutate
    obtain ⟨lead, -, -, -, _, -, _, -, _, -, _, -, -, -, -, -, -, -, -, -, -, rfl⟩ := hmutate
    obtain rfl := Option.mem_unique hcur hafter
    exact Steady.of_status rfl

theorem settles_collaborationDecision {requests : Requests} {row : LeadCollaborationRequestRow}
    {input : CollaborationDecisionInput} (hrow : requests.findUnique row.id = some row) :
    Settles (decisionMutation requests row input principal correlationId o) where
  effect _ _ := rfl
  key := by
    rw [decisionMutation, String.append_assoc, String.append_assoc]
    exact not_isDecision (by decide) (by decide)
  steady m result memory current after hm hcur hmutate hafter := by
    simp only [decisionMutation, Collaboration.decide, ok_iff] at hmutate
    obtain ⟨row', hrow', -, -, -, -, -, -, _, -, _, -, hmutate⟩ := hmutate
    obtain rfl : row' = row := Option.mem_unique hrow' hrow
    split at hmutate
    · simp only [ok_iff, Prod.exists] at hmutate
      obtain ⟨updated, m₁, happlied, -, rfl⟩ := hmutate
      exact steady_applyCollaborator hm hcur happlied hafter
    · simp only [pure_ok_iff, Prod.mk.injEq] at hmutate
      obtain ⟨-, rfl⟩ := hmutate
      obtain rfl := Option.mem_unique hcur hafter
      exact Steady.of_status rfl

theorem afterwards_changes {T : Type} {c : Dossier} {s : Process} {fault : Bool} {x : Outcome Database}
    {rest : Process → Outcome T × Process} (h : Changes c (dossier s.db))
    (hrest : ∀ db, x = .ok db → Changes c (dossier (rest { s with db }).2.db)) :
    Changes c (dossier (afterwards s fault x rest).2.db) := by
  rw [afterwards.eq_def]
  split
  · exact h
  · cases x with
    | error e => exact h
    | ok db => exact hrest db rfl

theorem collaborationRequest_changes {input : CollaborationInput} {c : CollaborationCircumstances}
    (s : Process) :
    Changes (dossier s.db)
      (dossier (Collaboration.requestForApi rt leadId input principal correlationId c s).2.db) := by
  have hsettles : Settles (requestMutation s.db.leadCollaborationRequests leadId input principal
      correlationId c.requestId) := settles_collaborationRequest
  have hmutated := @persistApiMutation_changes rt _ _ hsettles c.toCircumstances s
  rw [Collaboration.requestForApi]
  split
  · rename_i heq
    rwa [heq] at hmutated
  · rename_i record s' heq
    rw [heq] at hmutated
    refine afterwards_changes hmutated fun db hdb => ?_
    simp only [createCollaboration, ok_iff] at hdb
    obtain ⟨t, -, rfl⟩ := hdb
    exact hmutated

theorem collaborationDecision_changes {id correlationId : String}
    {input : CollaborationDecisionInput} {c : CollaborationCircumstances} (s : Process) :
    Changes (dossier s.db)
      (dossier (Collaboration.decideForApi rt id input principal correlationId c s).2.db) := by
  rw [Collaboration.decideForApi]
  split
  · exact Changes.refl _
  rename_i current hcur
  obtain ⟨-, hid⟩ := Table.findUnique_eq_some.mp hcur
  obtain rfl : current.id = id := by
    simpa [LeadCollaborationRequestRow.keys, eq_comm] using hid
  have hsettles : Settles (decisionMutation s.db.leadCollaborationRequests current input principal
      correlationId c.toOccasion) := settles_collaborationDecision hcur
  have hmutated := @persistApiMutation_changes rt _ _ hsettles c.toCircumstances s
  dsimp only
  split
  · rename_i heq
    rwa [heq] at hmutated
  · rename_i updated s' heq
    rw [heq] at hmutated
    refine afterwards_changes hmutated fun db hdb => ?_
    simp only [settleCollaboration, ok_iff] at hdb
    obtain ⟨-, -, rfl⟩ := hdb
    rw [snapshotCollaborators.eq_def]
    split
    · split
      · refine afterwards_changes hmutated fun db hdb => ?_
        cases hdb
        exact hmutated
      · exact hmutated
    · exact hmutated

end Collaboration

end CrmYnov.Closing
