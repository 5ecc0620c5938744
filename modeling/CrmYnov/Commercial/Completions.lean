import CrmYnov.Commercial.NextActions

/-!
# What ending a follow-up leaves behind

A follow-up that is completed or cancelled clears the next action of its lead, whoever gave it: an
appointment that is still to come is hidden by the decision on a follow-up, where an appointment
that ends only clears a date of its own (`CrmYnov.Commercial.clears_own_iff`).

Completing a follow-up plans the next one in the same transaction. The plan is asked for under the
key of the completion, so a plan that was made under that key before is taken for it, and nothing
is open on the lead any more (`CrmYnov.Commercial.completions_whole`).
-/

namespace CrmYnov.Commercial

open Checked Leads FollowUp Table LeadFollowUpRow List Option
open Appointments (AppointmentState)

variable {rt : Runtime} {auth : Admissions.Authority} {db db' : Database}
  {mutation : FollowUpMutationInput} {view : View} {id leadId correlationId : String}
  {principal : Principal} {record completed : FollowUpRecord}

/-! ### One decision, and one plan -/

theorem recordFollowUp_ok {activity : LeadActivityRow} {result : FollowUpRecord} {eventType : String}
    (h : recordFollowUp rt db activity result eventType mutation = .ok db') :
    db'.leads = db.leads ∧ db'.leadFollowUps = db.leadFollowUps ∧
      db.leadFollowUpMutationReceipts.create {
        idempotencyKey := mutation.idempotencyKey, followUpId := result.id
        fingerprint := mutation.fingerprint, result } = some db'.leadFollowUpMutationReceipts := by
  simp only [recordFollowUp, auditFollowUp, addFollowUpReceipt, ok_iff, Database.addActivity_ok_iff,
    Database.audit_ok_iff, insert_ok_iff] at h
  obtain ⟨-, ⟨t, -, rfl⟩, -, ⟨_, -, u, -, rfl⟩, v, hcreate, rfl⟩ := h
  exact ⟨rfl, rfl, hcreate⟩

/-- **A decision that is new**: the follow-up was open and advances, the next action of its lead is
the one the decision leaves, and the decision is known from now on. -/
theorem decide_new {current next stored : FollowUpRecord} {eventType : String} {d : Draw}
    (hnew : db.leadFollowUpMutationReceipts.findUnique mutation.idempotencyKey = none)
    (h : FollowUp.decide rt db current next eventType mutation d = .ok (stored, db')) :
    (∃ f ∈ db.leadFollowUps.rows, Undecided current.id current.version f ∧
      stored = (settle next f).record ∧ settle next f ∈ db'.leadFollowUps.rows) ∧
    (∀ f' ∈ db'.leadFollowUps.rows, ∃ f ∈ db.leadFollowUps.rows,
      f' = if Undecided current.id current.version f then settle next f else f) ∧
    (∀ l ∈ db'.leads.rows, l.id = current.leadId → l.nextActionAt = nextActionOf next) ∧
    db.leadFollowUpMutationReceipts.create {
      idempotencyKey := mutation.idempotencyKey, followUpId := stored.id
      fingerprint := mutation.fingerprint, result := stored } =
        some db'.leadFollowUpMutationReceipts := by
  simp only [FollowUp.decide, hnew, ok_iff, mapConcurrency_ok_iff, decideInTransaction] at h
  obtain ⟨-, -, -, hcount, db₁, hlead, row, hrow, db₂, hrecord, rfl, rfl⟩ := h
  obtain ⟨⟨l₀, hl₀, hid₀, hver⟩, rfl⟩ := updateLead_ok hlead
  obtain ⟨hleads, hfollowUps, hrec⟩ := recordFollowUp_ok hrecord
  obtain ⟨f, hf, hundecided⟩ := count_pos.mp (hcount ▸ Nat.one_pos)
  have hmem : settle next f ∈ (db.leadFollowUps.updateMany (Undecided current.id current.version)
      (settle next) (keys_settle next)).rows :=
    mem_map.mpr ⟨f, hf, if_pos hundecided⟩
  refine ⟨⟨f, hf, hundecided, ?_, ?_⟩, fun f' hf' => ?_, fun l' hl' hid => ?_, hrec⟩
  · obtain ⟨hstored, hkey⟩ := findUnique_eq_some.mp hrow
    have hid : Key.id current.id ∈ (settle next f).keys := by
      rw [keys_settle, mem_keys_id]
      exact hundecided.1
    rw [eq_of_key _ hstored hmem hkey hid]
  · rw [hfollowUps]
    exact hmem
  · rw [hfollowUps] at hf'
    obtain ⟨f, hf, rfl⟩ := mem_map.mp hf'
    exact ⟨f, hf, rfl⟩
  · rw [hleads] at hl'
    obtain ⟨l, hl, rfl⟩ := mem_map.mp hl'
    have hlid : l.id = current.leadId := by
      split at hid
      · exact hid
      · exact hid
    -- the version that was compared is the one of the only lead with this identifier
    obtain rfl : l = l₀ := some.inj <|
      (Database.lead_eq_some.mpr ⟨hl, hlid⟩).symm.trans (Database.lead_eq_some.mpr ⟨hl₀, hid₀⟩)
    rw [if_pos (show LeadAt current.leadId mutation.expectedLeadVersion l from ⟨hlid, hver⟩)]
    rfl

/-- The operation on its target is known under a key: it is answered from its receipt. -/
def Known (db : Database) (operation targetId raw : String) : Prop :=
  ∃ key, mutationKey operation targetId raw = .ok key ∧
    db.leadFollowUpMutationReceipts.findUnique key ≠ none

theorem findReplay_none_iff {key fingerprint : String} :
    findReplay db key fingerprint = .ok none ↔
      db.leadFollowUpMutationReceipts.findUnique key = none := by
  rw [findReplay]
  cases db.leadFollowUpMutationReceipts.findUnique key with
  | none => exact iff_of_true rfl rfl
  | some receipt =>
    refine iff_of_false (fun h => ?_) (by simp)
    obtain ⟨_, -, h⟩ := Checked.map_ok_iff.mp h
    cases h

/-- **A plan under a key**: it is the one that is known under the key, or else no follow-up was open
on the lead, and the planned one is. -/
theorem scheduleForApi_ok {input : ScheduleInput} {d : Draw}
    (h : scheduleForApi rt (View.of db) db leadId input principal correlationId d =
      .ok (record, db')) :
    ∃ key, mutationKey "schedule" leadId (rawKey input.idempotencyKey correlationId d) = .ok key ∧
      (db.leadFollowUpMutationReceipts.findUnique key ≠ none ∧ db' = db ∨
        db.leadFollowUpMutationReceipts.findUnique key = none ∧
          (∀ f ∈ db.leadFollowUps.rows, ¬Pending leadId f) ∧ (∃ stored, Pending leadId stored ∧
            db.leadFollowUps.create stored = some db'.leadFollowUps) ∧
          ∃ receipt, receipt.idempotencyKey = key ∧ db.leadFollowUpMutationReceipts.create receipt =
            some db'.leadFollowUpMutationReceipts) := by
  simp only [scheduleForApi, bind_ok_iff, Prod.exists] at h
  obtain ⟨lead, -, -, -, due, reason, ownerId, -, key, hkey, replay, hreplay, h⟩ := h
  refine ⟨key, hkey, ?_⟩
  cases replay with
  | some known =>
    cases h
    refine .inl ⟨fun hnone => ?_, rfl⟩
    rw [View.of, findReplay_none_iff.mpr hnone] at hreplay
    cases hreplay
  | none =>
    have hnone : db.leadFollowUpMutationReceipts.findUnique key = none :=
      findReplay_none_iff.mp hreplay
    simp only [ok_iff, buildSchedule, Prod.exists] at h
    obtain ⟨_, ⟨_, _, _, -, -, hfree, rfl⟩, h⟩ := h
    simp only [schedule, ok_iff, mapConcurrency_ok_iff, scheduleNextActionInTransaction, hnone,
      insert_ok_iff] at h
    obtain ⟨-, -, -, -, db₁, hlead, _, -, _, -, t, hcreate, db₂, hrecord, -, rfl⟩ := h
    obtain ⟨-, rfl⟩ := updateLead_ok hlead
    obtain ⟨-, hfollowUps, hrec⟩ := recordFollowUp_ok hrecord
    refine .inr ⟨hnone, findFirst_eq_none.mp hfree, ?_, _, rfl, hrec⟩
    rw [hfollowUps]
    refine ⟨_, ?_, hcreate⟩
    exact ⟨rfl, .inl rfl⟩

variable {input : FollowUpDecisionInput}

/-- What is decided in the end is not open. -/
theorem validateDecision_ends {now : Instant} {decision : ValidatedFollowUpDecision}
    (hends : input.action = some "COMPLETE" ∨ input.action = some "CANCEL")
    (h : validateDecision rt input now = .ok decision) : ¬decision.action.state.Open := by
  simp only [validateDecision, ok_iff] at h
  obtain ⟨action, hact, reason, -, -, -, h⟩ := h
  have hne : action = .COMPLETE ∨ action = .CANCEL := by
    rcases hends with hends | hends
    · rw [hends] at hact
      exact .inl (some.inj hact).symm
    · rw [hends] at hact
      exact .inr (some.inj hact).symm
  have hpostpone : action ≠ .POSTPONE := by
    rintro rfl
    exact hne.elim (by decide) (by decide)
  rw [if_neg hpostpone] at h
  cases h
  rcases hne with rfl | rfl
  · exact (by decide : ¬FollowUpState.COMPLETED.Open)
  · exact (by decide : ¬FollowUpState.CANCELLED.Open)

/-! ### The next action of the lead -/

/-- The date is the start of an appointment of the lead that is still to come. -/
def FromMeeting (db : Database) (leadId : String) (t : Instant) : Prop :=
  ∃ a ∈ db.appointments.rows, a.leadId = leadId ∧ a.state ∈ AppointmentState.planned ∧ a.startsAt = t

/-- The next action of the lead is not the date of its follow-up alone. -/
def Foreign (db : Database) (f : FollowUpRecord) (l : LeadRow) : Prop :=
  l.id = f.leadId ∧ ∃ t, l.nextActionAt = some t ∧ (t ≠ f.dueAt ∨ FromMeeting db f.leadId t)

/-- The next actions that are not the date of the follow-up alone are left as they were. -/
def LeavesForeign (f : FollowUpRecord) (db db' : Database) : Prop :=
  ∀ l ∈ db.leads.rows, Foreign db f l →
    ∃ l' ∈ db'.leads.rows, l'.id = l.id ∧ l'.nextActionAt = l.nextActionAt

/-- **What ending a follow-up clears**: in every state of every run, a follow-up that is completed or
cancelled leaves the dates alone that are not its own exactly when there is none, unless the decision
was known. -/
theorem clears_own_iff {calls : List LeadCall} {d : Draw} {f : FollowUpRecord}
    (hf : view.item id = some f)
    (hends : input.action = some "COMPLETE" ∨ input.action = some "CANCEL")
    (h : decideSingleForApi rt view ((leadMachine rt auth).run ⟨db, []⟩ calls).now id input principal
      correlationId d = .ok (record, db')) :
    LeavesForeign f ((leadMachine rt auth).run ⟨db, []⟩ calls).now db' ↔
      (∃ known ∈ [view.receipts, ((leadMachine rt auth).run ⟨db, []⟩ calls).now],
        Known known "decide" id (rawKey input.idempotencyKey correlationId d)) ∨
      ∀ l ∈ ((leadMachine rt auth).run ⟨db, []⟩ calls).now.leads.rows,
        ¬Foreign ((leadMachine rt auth).run ⟨db, []⟩ calls).now f l := by
  generalize ((leadMachine rt auth).run ⟨db, []⟩ calls).now = db at h ⊢
  have hleft : LeavesForeign f db db := fun l hl _ => ⟨l, hl, rfl, rfl⟩
  simp only [decideSingleForApi, ok_iff] at h
  obtain ⟨current, hcur, decision, hdec, key, hkey, replay, hreplay, h⟩ := h
  obtain rfl := mem_unique hf hcur
  cases replay with
  | some known =>
    cases h
    refine iff_of_true hleft (.inl ⟨_, mem_cons_self, key, hkey, fun hnone => ?_⟩)
    rw [findReplay_none_iff.mpr hnone] at hreplay
    cases hreplay
  | none =>
    simp only [bind_ok_iff] at h
    obtain ⟨-, -, lead, -, -, -, h⟩ := h
    by_cases hnew : db.leadFollowUpMutationReceipts.findUnique key = none
    · obtain ⟨-, -, hcleared, -⟩ := decide_new hnew h
      have hnone : nextActionOf (decidedRecord f decision) = none :=
        if_neg (validateDecision_ends hends hdec)
      refine ⟨fun hleaves => .inr fun l hl hforeign => ?_, fun hor => ?_⟩
      · obtain ⟨l', hl', hid, hnext⟩ := hleaves l hl hforeign
        obtain ⟨hlead, t, ht, -⟩ := hforeign
        rw [hcleared l' hl' (hid.trans hlead), hnone, ht] at hnext
        cases hnext
      · rcases hor with ⟨known, hknown, key', hkey', hsome⟩ | hnone
        · obtain rfl := Except.ok.inj (hkey.symm.trans hkey')
          rcases mem_pair.mp hknown with rfl | rfl
          · exact absurd (findReplay_none_iff.mp hreplay) hsome
          · exact absurd hnew hsome
        · exact fun l hl hforeign => absurd hforeign (hnone l hl)
    · obtain ⟨receipt, hrec⟩ := ne_none_iff_exists'.mp hnew
      simp only [FollowUp.decide, hrec, ok_iff, mapConcurrency_ok_iff] at h
      obtain ⟨-, -, -, -, -, rfl⟩ := h
      exact iff_of_true hleft (.inl ⟨_, mem_cons_of_mem _ mem_cons_self, key, hkey, hnew⟩)

namespace Sample

/-- The call that is planned on the lead. -/
def recalled : LeadFollowUpRow := { callBack with leadId := CrmYnov.Sample.lead.id }

/-- An appointment has been created since. -/
def met : Database :=
  ((leadMachine CrmYnov.Sample.runtime CrmYnov.Sample.nobody).run
    ⟨{ asked with leadFollowUps := .ofRows [recalled] }, []⟩ [meet]).now

def cancel : FollowUpDecisionInput where
  action := some "CANCEL"
  reason := some "we meet"
  expectedVersion := some 1
  idempotencyKey := some "cancel-0001"

def draw (n : String) (now : Instant) : Draw :=
  ⟨now, "eeeeeeee-0000-4000-8000-00000000000" ++ n, "activity-" ++ n, "key"⟩

/-- The call is cancelled. -/
def cancelled : Outcome (FollowUpRecord × Database) :=
  decideSingleForApi CrmYnov.Sample.runtime (.of met) met recalled.id cancel manager "correlation"
    (draw "9" 1894000000000)

theorem cancelled_leads :
    cancelled.map (fun p => p.2.leads.rows.map LeadRow.nextActionAt) = .ok [none] := by
  decide +kernel

end Sample

open Commercial.Sample

theorem clears_own_iff_of_cancelled : ∃ record db', cancelled = .ok (record, db') ∧
    (LeavesForeign recalled.record met db' ↔
      (∃ known ∈ [met, met], Known known "decide" recalled.id "cancel-0001") ∨
        ∀ l ∈ met.leads.rows, ¬Foreign met recalled.record l) := by
  obtain ⟨⟨record, db'⟩, hok, -⟩ := Checked.map_ok_iff.mp cancelled_leads
  exact ⟨record, db', hok, clears_own_iff (by decide +kernel) (.inr rfl) hok⟩

/-- **The date of an appointment that is still to come is cleared** when a follow-up of its lead is
cancelled. -/
theorem meeting_cleared : ∃ record db', cancelled = .ok (record, db') ∧
    ¬LeavesForeign recalled.record met db' := by
  obtain ⟨⟨record, db'⟩, hok, hcleared⟩ := Checked.map_ok_iff.mp cancelled_leads
  refine ⟨record, db', hok, fun hleaves => ?_⟩
  obtain ⟨l, hl, hid, hnext⟩ : ∃ l ∈ met.leads.rows,
      l.id = CrmYnov.Sample.lead.id ∧ l.nextActionAt = some 1894010400000 := by decide +kernel
  have hmeeting : ∃ a ∈ met.appointments.rows, a.leadId = CrmYnov.Sample.lead.id ∧
      a.state ∈ AppointmentState.planned ∧ a.startsAt = 1894010400000 := by decide +kernel
  obtain ⟨l', hl', -, hsame⟩ := hleaves l hl ⟨hid, _, hnext, .inr hmeeting⟩
  have hnone : l'.nextActionAt ∈ db'.leads.rows.map LeadRow.nextActionAt :=
    mem_map_of_mem hl'
  rw [hcleared, mem_singleton, hsame, hnext] at hnone
  cases hnone

/-! ### Completing and planning -/

/-- The follow-up has ended, and one follow-up of its lead is open. -/
def OneLeft (completed : FollowUpRecord) (db : Database) : Prop :=
  ¬completed.state.Open ∧ ∃ f ∈ db.leadFollowUps.rows, Pending completed.leadId f ∧
    ∀ f' ∈ db.leadFollowUps.rows, Pending completed.leadId f' → f' = f

theorem mutationKey_ne {targetId raw targetId' raw' key key' : String}
    (h : mutationKey "decide" targetId raw = .ok key)
    (h' : mutationKey "schedule" targetId' raw' = .ok key') : key' ≠ key := by
  simp only [mutationKey, ok_iff] at h h'
  obtain ⟨-, -, rfl⟩ := h
  obtain ⟨-, -, rfl⟩ := h'
  intro heq
  have hchars := congrArg String.toList heq
  simp [String.toList_append] at hchars

variable {d : CompletionDraw}

/-- What is known is answered from its receipt, and what differs from it is refused. -/
theorem completion_of_receipt {raw key : String} {receipt : LeadFollowUpMutationReceipt}
    (hraw : input.idempotencyKey.filter isInteractionKey = some raw)
    (hkey : mutationKey "decide" id raw = .ok key)
    (hrec : db.leadFollowUpMutationReceipts.findUnique key = some receipt) :
    completeAndPlanForApi rt db id input principal correlationId d =
      (replayFollowUp receipt (decisionFingerprint rt id input principal)).map fun r => (r, db) := by
  rw [completeAndPlanForApi, hraw, demand_some, ok_bind, hkey, ok_bind, findReplay, hrec]
  dsimp only
  cases replayFollowUp receipt (decisionFingerprint rt id input principal) with
  | error e => rfl
  | ok result => rfl

/-- **A completion** is known, or it is a decision and a plan under one key. -/
theorem completion_ok
    (h : completeAndPlanForApi rt db id input principal correlationId d = .ok (completed, db')) :
    ∃ raw key, input.idempotencyKey.filter isInteractionKey = some raw ∧
      mutationKey "decide" id raw = .ok key ∧
      ((∃ receipt ∈ db.leadFollowUpMutationReceipts.rows, receipt.idempotencyKey = key ∧
          receipt.fingerprint = decisionFingerprint rt id input principal ∧
          receipt.result = completed ∧ db' = db) ∨
        db.leadFollowUpMutationReceipts.findUnique key = none ∧
          ∃ current next eventType mutation db₁ input' planned,
            (View.of db).item id = some current ∧ mutation.idempotencyKey = key ∧
            mutation.fingerprint = decisionFingerprint rt id input principal ∧
            FollowUp.decide rt db current next eventType mutation d.completion =
              .ok (completed, db₁) ∧ input'.idempotencyKey = some raw ∧
            scheduleForApi rt (View.of db₁) db₁ current.leadId input' principal correlationId d.plan =
              .ok (planned, db')) := by
  simp only [completeAndPlanForApi, ok_iff] at h
  obtain ⟨raw, hraw, key, hkey, replay, hreplay, h⟩ := h
  refine ⟨raw, key, hraw, hkey, ?_⟩
  cases replay with
  | some known =>
    cases h
    rw [findReplay] at hreplay
    cases hrec : db.leadFollowUpMutationReceipts.findUnique key with
    | none =>
      rw [hrec] at hreplay
      cases hreplay
    | some receipt =>
      rw [hrec] at hreplay
      obtain ⟨_, hresult, heq⟩ := Checked.map_ok_iff.mp hreplay
      cases heq
      simp only [replayFollowUp, ok_iff] at hresult
      obtain ⟨-, hprint, rfl⟩ := hresult
      obtain ⟨hmem, hat⟩ := findUnique_eq_some.mp hrec
      exact .inl ⟨receipt, hmem, (mem_singleton.mp hat).symm, hprint, rfl, rfl⟩
  | none =>
    have hnew := findReplay_none_iff.mp hreplay
    simp only [bind_ok_iff] at h
    obtain ⟨plan, -, h⟩ := h
    split at h
    · cases h
    simp only [ok_iff, Prod.exists] at h
    obtain ⟨-, -, current, hcur, -, -, lead, hlead, -, -, -, -, completed, db₁, hdecide, planned,
      db₂, hschedule, rfl, rfl⟩ := h
    obtain ⟨row, -, hread, hid⟩ := getLead_ok hlead
    have hlid : lead.id = current.leadId := (congrArg LeadRow.id hread).trans hid
    simp only [decideSingleForApi, ok_iff] at hdecide
    obtain ⟨current', hcur', decision, -, key', hkey', replay, hreplay', hdecide⟩ := hdecide
    obtain rfl := mem_unique hcur hcur'
    have hsome : input.idempotencyKey = some raw := (filter_eq_some_iff.mp hraw).1
    rw [hsome] at hkey'
    obtain rfl := Except.ok.inj (hkey.symm.trans hkey')
    obtain rfl := Except.ok.inj (hreplay.symm.trans hreplay')
    simp only [bind_ok_iff] at hdecide
    obtain ⟨-, -, _, -, -, -, hdecide⟩ := hdecide
    rw [hlid] at hschedule
    exact .inr ⟨hnew, current, _, _, _, db₁, _, planned, hcur, rfl, rfl, hdecide, rfl,
      hschedule⟩

/-- A completion is known from then on. -/
theorem completion_recorded
    (h : completeAndPlanForApi rt db id input principal correlationId d = .ok (completed, db')) :
    ∃ raw key, input.idempotencyKey.filter isInteractionKey = some raw ∧
      mutationKey "decide" id raw = .ok key ∧
      ∃ receipt ∈ db'.leadFollowUpMutationReceipts.rows, receipt.idempotencyKey = key ∧
        receipt.fingerprint = decisionFingerprint rt id input principal ∧
        receipt.result = completed := by
  obtain ⟨raw, key, hraw, hkey, hknown | hnew⟩ := completion_ok h
  · obtain ⟨receipt, hmem, hat, hprint, hresult, rfl⟩ := hknown
    exact ⟨raw, key, hraw, hkey, receipt, hmem, hat, hprint, hresult⟩
  · obtain ⟨hnew, current, next, _, m, db₁, input', planned, -, rfl, hprint, hdecide, -,
      hschedule⟩ := hnew
    obtain ⟨-, -, -, hrec⟩ := decide_new hnew hdecide
    have hmem := (mem_create hrec).mpr (.inr rfl)
    obtain ⟨_, -, ⟨-, rfl⟩ | ⟨-, -, -, _, -, hcreate⟩⟩ := scheduleForApi_ok hschedule
    · exact ⟨raw, _, hraw, hkey, _, hmem, rfl, hprint, rfl⟩
    · exact ⟨raw, _, hraw, hkey, _, (mem_create hcreate).mpr (.inl hmem), rfl, hprint,
        rfl⟩

/-- **What a completion that is new leaves open**: one follow-up of the lead, exactly when its plan
was not known. -/
theorem oneLeft_iff {raw : String} (hopen : OneOpen (ofDatabase db))
    (hraw : input.idempotencyKey = some raw) (hnew : ¬Known db "decide" id raw)
    (h : completeAndPlanForApi rt db id input principal correlationId d = .ok (completed, db')) :
    OneLeft completed db' ↔ ¬Known db "schedule" completed.leadId raw := by
  obtain ⟨raw', key, hfilter, hkey, hcases⟩ := completion_ok h
  obtain rfl : raw = raw' := some.inj (hraw.symm.trans (filter_eq_some_iff.mp hfilter).1)
  have hnone : db.leadFollowUpMutationReceipts.findUnique key = none := by
    by_contra hsome
    exact hnew ⟨key, hkey, hsome⟩
  rcases hcases with ⟨receipt, hmem, hat, -⟩ | hcases
  · exact absurd (mem_singleton.mpr hat.symm) (findUnique_eq_none.mp hnone receipt hmem)
  obtain ⟨-, current, next, _, m, db₁, input', planned, hcur, rfl, -, hdecide, hinput,
    hschedule⟩ := hcases
  obtain ⟨⟨f, hf, hundecided, rfl, hsettled⟩, hrows, -, hrec⟩ := decide_new hnone hdecide
  obtain ⟨row, hrow, rfl⟩ := map_eq_some_iff.mp hcur
  obtain ⟨hrowmem, -⟩ := findUnique_eq_some.mp hrow
  -- the follow-up that was decided is the one that was read
  obtain rfl : f = row := eq_of_key _ hf hrowmem (mem_keys_id.mpr hundecided.1)
    (mem_keys_id.mpr rfl)
  obtain ⟨planKey, hplanKey, hplan⟩ := scheduleForApi_ok hschedule
  rw [hinput] at hplanKey
  have hsame : db₁.leadFollowUpMutationReceipts.findUnique planKey =
      db.leadFollowUpMutationReceipts.findUnique planKey := by
    rw [findUnique_create hrec, if_neg]
    exact fun hat => mutationKey_ne hkey hplanKey (mem_singleton.mp hat)
  rw [hsame] at hplan
  rcases hplan with ⟨hknown, rfl⟩ | ⟨hfree, hpend, ⟨stored, hstored, hcreate⟩, -⟩
  · refine iff_of_false ?_ (not_not.mpr ⟨planKey, hplanKey, hknown⟩)
    rintro ⟨hends, f', hf', ⟨hlead, hstate⟩, -⟩
    obtain ⟨f'', hf'', rfl⟩ := hrows f' hf'
    by_cases hthis : Undecided f.record.id f.record.version f''
    · rw [if_pos hthis] at hstate
      exact hends hstate
    · rw [if_neg hthis] at hlead hstate
      exact hthis (hopen f'' hf'' f hf hlead hstate hundecided.2.2 ▸ hundecided)
  · refine iff_of_true ⟨fun hstate => hpend _ hsettled ⟨rfl, hstate⟩, stored, ?_, hstored, ?_⟩ ?_
    · exact (mem_create hcreate).mpr (.inr rfl)
    · intro f' hf' hpend'
      rcases (mem_create hcreate).mp hf' with hf' | rfl
      · exact absurd hpend' (hpend f' hf')
      · rfl
    · rintro ⟨key', hkey', hsome⟩
      obtain rfl := Except.ok.inj (hplanKey.symm.trans hkey')
      exact hsome hfree

variable (rt) in
/-- What is wanted of a completion: one that fails changes nothing, one that is new leaves one
follow-up open unless its plan was known, one that is repeated answers as it did, whatever else has
been recorded, and one that differs under its key is refused. -/
structure CompletesWhole (t : Timeline Database) (id : String) (input : FollowUpDecisionInput)
    (principal : Principal) (correlationId : String) (d : CompletionDraw) : Prop where
  failed : ∀ r e, perform rt t.ago t.now (.decide r id input principal correlationId d) = .error e →
    (commercial rt).next t (.decide r id input principal correlationId d) = t
  planned : ∀ raw completed db', input.idempotencyKey = some raw → ¬Known t.now "decide" id raw →
    completeAndPlanForApi rt t.now id input principal correlationId d = .ok (completed, db') →
    (OneLeft completed db' ↔ ¬Known t.now "schedule" completed.leadId raw)
  repeated : ∀ completed db' later correlationId' d',
    completeAndPlanForApi rt t.now id input principal correlationId d = .ok (completed, db') →
    db'.leadFollowUpMutationReceipts.rows ⊆ later.leadFollowUpMutationReceipts.rows →
    completeAndPlanForApi rt later id input principal correlationId' d' = .ok (completed, later)
  refused : ∀ completed db' later input' principal' correlationId' d',
    completeAndPlanForApi rt t.now id input principal correlationId d = .ok (completed, db') →
    db'.leadFollowUpMutationReceipts.rows ⊆ later.leadFollowUpMutationReceipts.rows →
    input'.idempotencyKey = input.idempotencyKey →
    decisionFingerprint rt id input' principal' ≠ decisionFingerprint rt id input principal →
    completeAndPlanForApi rt later id input' principal' correlationId' d' =
      .error (.conflict "follow_up_idempotency_conflict")

/-- **A completion is whole**, in every state of every run: it fails without effect, or completes and
plans, and leaves one follow-up of the lead open exactly when its plan was not known under its key;
and it is made once. -/
theorem completions_whole (hopen : OneOpen (ofDatabase db)) (calls : List CommercialCall) (id : String)
    (input : FollowUpDecisionInput) (principal : Principal) (correlationId : String)
    (d : CompletionDraw) :
    CompletesWhole rt ((commercial rt).run ⟨db, []⟩ calls) id input principal correlationId d where
  failed r e h := by
    rcases Timeline.machine_cases (perform rt) ((commercial rt).run ⟨db, []⟩ calls)
      (.decide r id input principal correlationId d) with ⟨w, db', hok, -⟩ | ⟨e', -, hnext⟩
    · rw [h] at hok
      cases hok
    · exact congrArg Prod.snd hnext
  planned raw completed db' hraw hnew h :=
    oneLeft_iff (throughout_of_move (fun _ _ => Move.oneOpen) hopen calls).last hraw hnew h
  repeated completed db' later correlationId' d' h hlater := by
    obtain ⟨raw, key, hraw, hkey, receipt, hmem, rfl, hprint, rfl⟩ := completion_recorded h
    rw [completion_of_receipt hraw hkey
        (findUnique_of_mem (hlater hmem) (mem_singleton.mpr rfl)), replayFollowUp,
      require_pos hprint]
    rfl
  refused completed db' later input' principal' correlationId' d' h hlater hsame hne := by
    obtain ⟨raw, key, hraw, hkey, receipt, hmem, rfl, hprint, rfl⟩ := completion_recorded h
    rw [completion_of_receipt (hsame ▸ hraw) hkey
        (findUnique_of_mem (hlater hmem) (mem_singleton.mpr rfl)), replayFollowUp,
      require_neg fun heq => hne (heq.symm.trans hprint)]
    rfl

namespace Sample

def calendar : Runtime :=
  { Runtime.plain with
    parseDate := fun text =>
      if text = "2030-01-07T00:00:00Z" then some 1893974400000
      else if text ∈ ["2030-01-07T10:00:00Z", "2030-01-07T10:00:00.000Z"] then some 1894010400000
      else none }

/-- A call is planned, and completed when the same call is planned again. -/
def plan : CommercialCall :=
  .schedule ⟨0, 0, 0⟩ prospect.id
    { dueAt := some "2030-01-07T10:00:00Z", reason := some "call back"
      idempotencyKey := some "call-0001" } manager "correlation" (draw "1" 1894000000000)

def finish (key : String) : FollowUpDecisionInput where
  action := some "COMPLETE"
  reason := some "called"
  expectedVersion := some 1
  idempotencyKey := some key
  nextAction := some (.obj [("mode", .str "SCHEDULE"), ("dueAt", .str "2030-01-07T10:00:00Z"),
    ("reason", .str "call back")])

def draws : CompletionDraw := ⟨draw "2" 1894000000001, draw "3" 1894000000001⟩

end Sample

theorem completions_whole_of_plan :
    CompletesWhole calendar ((commercial calendar).run ⟨{ leads := .ofRows [prospect] }, []⟩ [plan])
      (draw "1" 0).rowId (finish "call-0002") manager "correlation" draws :=
  completions_whole (fun _ hr => absurd hr not_mem_nil) _ _ _ _ _ _

/-- **Nothing is open any more** when a call is completed under the key it was planned under, with
the same plan. -/
theorem completion_unplanned : ∃ completed db',
    completeAndPlanForApi calendar ((commercial calendar).run
        ⟨{ leads := .ofRows [prospect] }, []⟩ [plan]).now (draw "1" 0).rowId
      (finish "call-0001") manager "correlation" draws = .ok (completed, db') ∧
      ¬OneLeft completed db' := by
  have hrun : (completeAndPlanForApi calendar ((commercial calendar).run
      ⟨{ leads := .ofRows [prospect] }, []⟩ [plan]).now (draw "1" 0).rowId
      (finish "call-0001") manager "correlation" draws).map
        (fun p => p.2.leadFollowUps.rows.map state) = .ok [.COMPLETED] := by
    decide +kernel
  obtain ⟨⟨completed, db'⟩, hok, hstates⟩ := Checked.map_ok_iff.mp hrun
  refine ⟨completed, db', hok, ?_⟩
  rintro ⟨-, f, hf, ⟨-, hstate⟩, -⟩
  have hmem : f.state ∈ db'.leadFollowUps.rows.map state := mem_map_of_mem hf
  rw [hstates, mem_singleton] at hmem
  rw [hmem] at hstate
  exact absurd hstate (by decide)

end CrmYnov.Commercial
