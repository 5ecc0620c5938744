import CrmYnov.Commercial.Moves
import CrmYnov.FollowUp.Service

/-!
# Planning and deciding are moves

What plans a follow-up writes the next action of its lead and plans the follow-up;
what decides one makes it advance with the next action of its lead. Both then record
what was done. What a request has read may be older than what it writes on; the
versions that the transaction compares are what ties the two, since one version
names one reading.
-/

namespace CrmYnov.Commercial

open Checked Leads FollowUp Table

variable {rt : Runtime} {db db' : Database}

/-! ### The mutations -/

theorem updateLead_ok {leadId : String} {version : ℕ} {nextActionAt : Option Instant} {now : Instant}
    (h : updateLead db leadId version nextActionAt now = .ok db') :
    (∃ l ∈ db.leads.rows, l.id = leadId ∧ l.version = version) ∧
      { db with leads := db.leads.updateMany (LeadAt leadId version) (setNextAction nextActionAt now)
                  (keys_setNextAction nextActionAt now) } = db' := by
  simp only [FollowUp.updateLead, ok_iff] at h
  obtain ⟨-, hcount, rfl⟩ := h
  obtain ⟨l, hl, hat⟩ := count_pos.mp (hcount ▸ Nat.one_pos)
  exact ⟨⟨l, hl, hat⟩, rfl⟩

theorem later_setNextAction (nextActionAt : Option Instant) (now : Instant) (l : LeadRow) :
    Later l (setNextAction nextActionAt now l) := ⟨rfl, Nat.lt_succ_self _, fun _ => rfl⟩

variable {mutation : FollowUpMutationInput}

theorem recordFollowUp_moves {activity : LeadActivityRow} {result : FollowUpRecord}
    {eventType : String} (hevent : eventType ≠ "FOLLOW_UP_DUE")
    (h : recordFollowUp rt db activity result eventType mutation = .ok db') :
    Moves rt (ofDatabase db) (ofDatabase db') := by
  simp only [recordFollowUp, auditFollowUp, addFollowUpReceipt, ok_iff, Database.addActivity_ok_iff,
    Database.audit_ok_iff] at h
  obtain ⟨-, ⟨t, -, rfl⟩, -, ⟨_, -, u, hcreate, rfl⟩, v, -, rfl⟩ := h
  refine (Move.audit (c := ofDatabase db) ?_ hcreate).moves
  rintro (htype | ⟨rest, hkey⟩)
  · exact hevent htype
  · delta legacyKey at hkey
    simpa using congrArg String.toList hkey

variable {d : Draw}

/-- **Planning is moves**: the lead is written, and the follow-up is planned on it,
when the version that was read is the one of an open lead. -/
theorem schedule_moves {record stored : FollowUpRecord}
    (hstate : record.state = .SCHEDULED) (hopen : ∀ l ∈ db.leads.rows, l.id = record.leadId →
      l.version = mutation.expectedLeadVersion → ¬l.status.Closed)
    (h : schedule rt db record mutation d = .ok (stored, db')) :
    Moves rt (ofDatabase db) (ofDatabase db') := by
  simp only [schedule, bind_ok_iff, mapConcurrency_ok_iff, scheduleNextActionInTransaction] at h
  obtain ⟨-, -, h⟩ := h
  split at h
  · simp only [ok_iff] at h
    obtain ⟨-, -, -, rfl⟩ := h
    exact Moves.refl _
  · simp only [ok_iff, insert_ok_iff, storedId] at h
    obtain ⟨-, hfree, db₁, hlead, id, hid, ownerId, -, t, hcreate, db₂, hrecord, -, rfl⟩ := h
    obtain ⟨⟨l, hl, hlid, hver⟩, rfl⟩ := updateLead_ok hlead
    have hlopen := hopen l hl hlid hver
    have hwrite : Move rt (ofDatabase db) { ofDatabase db with
        leads := db.leads.updateMany (LeadAt record.leadId mutation.expectedLeadVersion)
          (setNextAction (some record.dueAt) d.now) (keys_setNextAction _ _) } :=
      Move.write (c := ofDatabase db) (LeadAt record.leadId mutation.expectedLeadVersion)
        (keys_setNextAction _ _) (fun l _ _ => later_setNextAction _ _ l)
        fun l hl hat hclosed => absurd hclosed (hopen l hl hat.1 hat.2)
    refine hwrite.moves.trans (Moves.trans (Move.moves ?_)
      (recordFollowUp_moves (by decide) hrecord))
    refine Move.plan (l := setNextAction (some record.dueAt) d.now l) hcreate hstate
      (canonical_of_read hid) ?_ hlid hlopen fun r hr hpend => ?_
    · exact List.mem_map.mpr ⟨l, hl, if_pos ⟨hlid, hver⟩⟩
    · exact findFirst_eq_none.mp hfree r hr hpend

theorem advance_settle {id : String} {version : ℕ} {next : FollowUpRecord} {f : LeadFollowUpRow}
    (h : Undecided id version f) : Advance f (settle next f) :=
  ⟨h.2.2, rfl, rfl, Nat.lt_succ_self _⟩

/-- **A decision is moves**: the follow-up advances, with the next action of its
lead. -/
theorem decide_moves {current next stored : FollowUpRecord} {eventType : String}
    (hevent : eventType ≠ "FOLLOW_UP_DUE") (hnext : next.state ≠ .DUE)
    (hcur : ∀ f ∈ db.leadFollowUps.rows, f.id = current.id → f.version = current.version →
      f.leadId = current.leadId)
    (h : FollowUp.decide rt db current next eventType mutation d = .ok (stored, db')) :
    Moves rt (ofDatabase db) (ofDatabase db') := by
  simp only [FollowUp.decide, bind_ok_iff, mapConcurrency_ok_iff] at h
  obtain ⟨-, -, h⟩ := h
  split at h
  · simp only [ok_iff] at h
    obtain ⟨-, -, -, rfl⟩ := h
    exact Moves.refl _
  · simp only [decideInTransaction, ok_iff] at h
    obtain ⟨-, hcount, db₁, hlead, row, -, db₂, hrecord, -, rfl⟩ := h
    obtain ⟨-, rfl⟩ := updateLead_ok hlead
    obtain ⟨r, hr, hundecided⟩ := count_pos.mp (hcount ▸ Nat.one_pos)
    refine Moves.trans (Move.moves ?_) (recordFollowUp_moves hevent hrecord)
    refine Move.settle (c := ofDatabase db) (Undecided current.id current.version) (keys_settle next)
      (LeadAt current.leadId mutation.expectedLeadVersion)
      (keys_setNextAction (nextActionOf next) d.now) hr hundecided.2.2
      (fun _ _ hp => ⟨advance_settle hp, hnext⟩)
      (fun l _ _ => ⟨later_setNextAction _ _ l, rfl⟩) fun l hat => ?_
    rw [hcur r hr hundecided.1 hundecided.2.1]
    exact hat.1

/-! ### The service -/

variable {view : View} {leadId id correlationId : String} {principal : Principal}

theorem getLead_ok {seen : Database} {lead : LeadRecord}
    (h : getLead (LeadMemory.init.refresh seen) leadId principal = .ok lead) :
    ∃ row ∈ seen.leads.rows, lead.toLeadRow = row.read ∧ row.id = leadId := by
  simp only [getLead, LeadMemory.requireLead, ok_iff] at h
  obtain ⟨-, -, h⟩ := h
  rw [refresh_lead, Option.map_eq_some_iff] at h
  obtain ⟨row, hrow, rfl⟩ := h
  obtain ⟨hmem, hid⟩ := Database.lead_eq_some.mp hrow
  exact ⟨row, hmem, rfl, hid⟩

variable {record : FollowUpRecord}

theorem scheduleForApi_moves {input : ScheduleInput}
    (hseen : view.leads.leads.Grows Later db.leads)
    (h : scheduleForApi rt view db leadId input principal correlationId d = .ok (record, db')) :
    Moves rt (ofDatabase db) (ofDatabase db') := by
  simp only [scheduleForApi, ok_iff, Prod.exists] at h
  obtain ⟨lead, hlead, -, hstatus, due, reason, ownerId, -, key, -, replay, -, h⟩ := h
  obtain ⟨row, hmem, hread, hid⟩ := getLead_ok hlead
  split at h
  · cases h
    exact Moves.refl _
  · simp only [bind_ok_iff] at h
    obtain ⟨record', hbuild, h⟩ := h
    simp only [buildSchedule, ok_iff, Prod.exists] at hbuild
    obtain ⟨_, _, _, -, -, -, rfl⟩ := hbuild
    refine schedule_moves rfl (fun l hl hlid hver => ?_) h
    -- the version that is compared is the one of the lead that was read
    have hreadVersion : lead.version = row.read.version := congrArg LeadRow.version hread
    rw [lead_eq_of_version hseen hmem hl (hlid.trans hid.symm) (hver.trans hreadVersion)]
    have hreadStatus : lead.status = row.read.status := congrArg LeadRow.status hread
    rwa [hreadStatus] at hstatus

variable (action : FollowUpDecisionAction)

theorem decisionState_ne_due : action.state ≠ .DUE := by
  cases action <;> decide

theorem decisionEvent_ne_due : "FOLLOW_UP_" ++ action.text ≠ "FOLLOW_UP_DUE" := by
  cases action <;> decide

variable {input : FollowUpDecisionInput}

theorem decideSingleForApi_moves
    (hseen : view.items.leadFollowUps.Grows Advance db.leadFollowUps)
    (h : decideSingleForApi rt view db id input principal correlationId d = .ok (record, db')) :
    Moves rt (ofDatabase db) (ofDatabase db') := by
  simp only [decideSingleForApi, ok_iff] at h
  obtain ⟨current, hcur, decision, -, key, -, replay, -, h⟩ := h
  split at h
  · cases h
    exact Moves.refl _
  · simp only [bind_ok_iff] at h
    obtain ⟨-, -, lead, -, -, -, h⟩ := h
    obtain ⟨row, hrow, rfl⟩ := Option.map_eq_some_iff.mp hcur
    refine decide_moves (decisionEvent_ne_due _) (decisionState_ne_due _)
      (fun f hf hfid hver => ?_) h
    rw [followUp_eq_of_version hseen (findUnique_eq_some.mp hrow).1 hf hfid hver]
    rfl

theorem completeAndPlanForApi_moves {d : CompletionDraw}
    (h : completeAndPlanForApi rt db id input principal correlationId d = .ok (record, db')) :
    Moves rt (ofDatabase db) (ofDatabase db') := by
  simp only [completeAndPlanForApi, ok_iff] at h
  obtain ⟨raw, -, key, -, replay, -, h⟩ := h
  split at h
  · cases h
    exact Moves.refl _
  · simp only [bind_ok_iff] at h
    obtain ⟨plan, -, h⟩ := h
    split at h
    · cases h
    · simp only [ok_iff, Prod.exists] at h
      obtain ⟨-, -, current, -, -, -, lead, -, -, -, -, -, completed, db₁, hdecide, _, db₂,
        hschedule, -, rfl⟩ := h
      exact (decideSingleForApi_moves (Grows.refl db.leadFollowUps) hdecide).trans
        (scheduleForApi_moves (Grows.refl db₁.leads) hschedule)

theorem decideForApi_moves {d : CompletionDraw}
    (hseen : view.items.leadFollowUps.Grows Advance db.leadFollowUps)
    (h : decideForApi rt view db id input principal correlationId d = .ok (record, db')) :
    Moves rt (ofDatabase db) (ofDatabase db') := by
  simp only [decideForApi, bind_ok_iff] at h
  obtain ⟨-, -, _, -, h⟩ := h
  split at h
  · exact completeAndPlanForApi_moves h
  · exact decideSingleForApi_moves hseen h

end CrmYnov.Commercial
