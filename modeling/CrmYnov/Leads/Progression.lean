import CrmYnov.Leads.Service

/-!
# How a lead progresses

A lead begins as a prospect, is contacted and qualified, and ends enrolled or
lost. An activity that is a commercial contact moves a prospect on by itself; the
other moves are asked for, and the last one is made by the approval of a closure
request alone.

An operation runs on the copy a process has of the leads, and what it changed is
stored in one transaction (`CrmYnov.Leads.ApiMutation.transact`). The copy may be
older than the state the transaction acts on: the transaction compares the version
of the lead.
-/

namespace CrmYnov.Leads

open Checked Js Option

/-! ### Statuses -/

/-- `["ENROLLED", "CLOSED_LOST"].includes(status)` -/
def LeadStatus.Closed (s : LeadStatus) : Prop := s = ENROLLED ∨ s = CLOSED_LOST
deriving Decidable

def leadStatuses : List LeadStatus := [.PROSPECT, .CONTACTED, .QUALIFIED, .ENROLLED, .CLOSED_LOST]

def LeadStatus.ofText? (text : String) : Option LeadStatus :=
  leadStatuses.find? fun s => s.text = text

def allowedTransitions : LeadStatus → List LeadStatus
  | .PROSPECT => [.CONTACTED, .ENROLLED, .CLOSED_LOST]
  | .CONTACTED => [.QUALIFIED, .ENROLLED, .CLOSED_LOST]
  | .QUALIFIED => [.ENROLLED, .CLOSED_LOST]
  | .ENROLLED => []
  | .CLOSED_LOST => []

/-- **A closed lead stays closed**: no transition is allowed from its status. -/
theorem allowedTransitions_of_closed {s : LeadStatus} (h : s.Closed) : allowedTransitions s = [] := by
  rcases h with rfl | rfl <;> rfl

def commercialRoles : List Role := [.ADMISSIONS, .MANAGER, .ADMIN, .SUPER_ADMIN]

def assertReadRole (principal : Principal) : Outcome Unit :=
  require (principal.hasSome (commercialRoles ++ [.AUDITOR])) (.forbidden "role_forbidden")

def getLead (m : LeadMemory) (leadId : String) (principal : Principal) : Outcome LeadRecord := do
  assertReadRole principal
  m.requireLead leadId

/-! ### Evidence -/

structure PositiveQualification where
  (interestConfirmed eligibilityConfirmed : Bool)

def positiveQualificationEvidence (lead : LeadRow) (qualification : Option PositiveQualification)
    (reason : Option String) : Outcome String := do
  let text := trim (reason.getD "")
  require
    ((∃ q ∈ qualification, q.interestConfirmed ∧ q.eligibilityConfirmed) ∧
      present lead.program ∧ present lead.educationLevel ∧ reason.isSome ∧
      8 ≤ length text ∧ length text ≤ 1000)
    (.badRequest "commercial_positive_qualification_required")
  pure ("Qualification commerciale v1 — intérêt confirmé ; éligibilité vérifiée ; formation : " ++
    lead.program ++ "; niveau : " ++ lead.educationLevel ++ ". " ++ text)

/-- `/^FOLLOW_UP_(?:SCHEDULED|POSTPONED?|COMPLETED?|CANCEL(?:LED)?|DUE)(?:_|$)/` -/
def isFollowUpResult (result : String) : Bool :=
  ["SCHEDULED", "POSTPONE", "POSTPONED", "COMPLETE", "COMPLETED", "CANCEL", "CANCELLED", "DUE"].any
    fun word =>
      let head := "FOLLOW_UP_" ++ word
      result == head || startsWith (head ++ "_") result

variable (rt : Runtime)

def isCommercialContact (activity : LeadActivityRecord) : Bool :=
  let result := rt.unicode.toUpperCase (trim activity.result)
  if isFollowUpResult result then false
  else
    match activity.type with
    | .WHATSAPP | .MANUAL_EMAIL | .PHYSICAL_VISIT => result != ""
    | .COMMENT => given activity.note
    | .MEETING => ["CONNECTED", "COMPLETED", "INFORMATION_RECORDED"].contains result ||
        startsWith "INTERVIEW_" result
    | .CRM_CALL | .EXTERNAL_CALL | .PHONE_CALL =>
      ["CONNECTED", "ANSWERED", "NO_ANSWER", "COMPLETED", "FOLLOW_UP_REQUIRED",
        "INFORMATION_RECORDED", "CALL_RINGING", "CALL_CONNECTED", "CALL_ENDED"].contains result
    | _ => false

/-! ### The operations -/

structure CommercialStatusInput where
  status : String
  reason : Option String := none
  qualification : Option PositiveQualification := none
  idempotencyKey : Option String := none

def statusReason (current : LeadRow) (status : LeadStatus) (input : CommercialStatusInput) :
    Outcome (Option String) :=
  if status = .QUALIFIED ∨ (status = .ENROLLED ∧ current.status ≠ .QUALIFIED) then
    (positiveQualificationEvidence current input.qualification input.reason).map some
  else pure (input.reason.map trim)

def changeStatus (m : LeadMemory) (leadId : String) (input : CommercialStatusInput)
    (principal : Principal) (correlationId activityId : String) (now : Instant) :
    Outcome (LeadRecord × LeadMemory) := do
  require (principal.hasSome commercialRoles) (.forbidden "role_forbidden")
  let current ← m.requireLead leadId
  let status ← demand (LeadStatus.ofText? input.status) (.badRequest "lead_status_invalid")
  require (status ∈ allowedTransitions current.status)
    (.badRequest "lead_status_transition_forbidden")
  require (status.Closed → principal.hasSome Principal.managers)
    (.forbidden "lead_closure_approval_required")
  let reason ← statusReason current.toLeadRow status input
  require (status.Closed → (nonEmpty reason).isSome) (.badRequest "lead_closure_reason_required")
  let updated := { current with
    status, lastActivityAt := some now
    nextActionAt := if status.Closed then none else current.nextActionAt }
  pure (updated, m.record updated {
    id := activityId, leadId, type := .STATUS_CHANGED
    result := current.status.text ++ "->" ++ status.text, note := nonEmpty reason
    authorId := principal.userId, correlationId, occurredAt := now })

structure ActivityInput where
  (type result : String)
  note : Option String := none
  nextActionAt : Option String := none
  idempotencyKey : Option String := none

/-- What the world gives to an activity: also the identifier of the activity that
records a first contact. -/
structure ContactOccasion extends Occasion where
  statusActivityId : String

/-- The next action an activity gives, which lies in the future. -/
def activityNextAction (input : ActivityInput) (now : Instant) : Outcome (Option Instant) :=
  match nonEmpty input.nextActionAt with
  | none => pure none
  | some text => do
    let nextActionAt ← demand (rt.parseDate text) (.badRequest "next_action_invalid")
    require (now < nextActionAt) (.badRequest "next_action_chronology_invalid")
    pure (some nextActionAt)

def addActivity (m : LeadMemory) (leadId : String) (input : ActivityInput) (principal : Principal)
    (correlationId : String) (o : ContactOccasion) : Outcome (LeadActivityRecord × LeadMemory) := do
  require (principal.hasSome commercialRoles) (.forbidden "role_forbidden")
  let lead ← m.requireLead leadId
  let type ← demand (ActivityType.ofText? input.type) (.badRequest "activity_invalid")
  require (present input.result) (.badRequest "activity_invalid")
  let nextActionAt ← activityNextAction rt input o.now
  let activity : LeadActivityRecord := {
    id := o.activityId, leadId, type, result := trim input.result
    note := nonEmpty (input.note.map trim), authorId := principal.userId, nextActionAt
    correlationId, occurredAt := o.now }
  let m := m.record { lead with
    lastActivityAt := some o.now, nextActionAt := nextActionAt.or lead.nextActionAt } activity
  if lead.status = .PROSPECT ∧ isCommercialContact rt activity then
    let (_, m) ← changeStatus m leadId
      { status := "CONTACTED", reason := some "Premier traitement commercial enregistré" }
      principal correlationId o.statusActivityId o.now
    pure (activity, m)
  else pure (activity, m)

/-! ### What the operations do to their lead -/

section Memory

variable {rt} {m m' : LeadMemory} {leadId correlationId activityId : String} {principal : Principal}
  {now : Instant}

def Keyed (m : LeadMemory) : Prop := ∀ id lead, m.leads.get id = some lead → lead.id = id

theorem keyed_refresh (m : LeadMemory) (db : Database) : Keyed (m.refresh db) := by
  intro id lead h
  rw [refresh_lead, map_eq_some_iff] at h
  obtain ⟨row, hrow, rfl⟩ := h
  exact (Database.lead_eq_some.mp hrow).2

theorem record_get (m : LeadMemory) (lead : LeadRecord) (activity : LeadActivityRecord) :
    (m.record lead activity).leads.get lead.id = some lead := by
  rw [LeadMemory.record, Dict.get_set_self]

theorem Keyed.record (h : Keyed m) (lead : LeadRecord) (activity : LeadActivityRecord) :
    Keyed (m.record lead activity) := by
  intro id l hl
  rw [LeadMemory.record, Dict.get_set] at hl
  split at hl
  · rename_i hid
    rw [← some.inj hl, hid]
  · exact h id l hl

/-- **A change of status** follows an allowed transition, and clears the next action
of a lead it closes. -/
theorem changeStatus_ok {input : CommercialStatusInput} {updated : LeadRecord} (hm : Keyed m)
    (h : changeStatus m leadId input principal correlationId activityId now = .ok (updated, m')) :
    ∃ current, m.leads.get leadId = some current ∧
      LeadStatus.ofText? input.status = some updated.status ∧
      updated.status ∈ allowedTransitions current.status ∧
      updated.nextActionAt = (if updated.status.Closed then none else current.nextActionAt) ∧
      m'.leads.get leadId = some updated := by
  simp only [changeStatus, LeadMemory.requireLead, ok_iff] at h
  obtain ⟨-, -, current, hcur, status, hstatus, -, hallow, -, -, reason, -, -, -, hupdated,
    rfl⟩ := h
  obtain rfl : current.id = leadId := hm leadId current hcur
  subst hupdated
  exact ⟨current, hcur, hstatus, hallow, rfl, record_get m _ _⟩

/-- **An activity** writes the next action it gives, and moves at most a prospect
to contacted. -/
theorem addActivity_ok {input : ActivityInput} {o : ContactOccasion} {activity : LeadActivityRecord}
    (hm : Keyed m)
    (h : addActivity rt m leadId input principal correlationId o = .ok (activity, m')) :
    ∃ lead after nextActionAt, m.leads.get leadId = some lead ∧
      activityNextAction rt input o.now = .ok nextActionAt ∧
      m'.leads.get leadId = some after ∧ after.nextActionAt = nextActionAt.or lead.nextActionAt ∧
      (after.status = lead.status ∨ lead.status = .PROSPECT ∧ after.status = .CONTACTED) := by
  simp only [addActivity, LeadMemory.requireLead, ok_iff] at h
  obtain ⟨-, -, lead, hlead, type, -, -, -, nextActionAt, hnext, h⟩ := h
  have hid : lead.id = leadId := hm leadId lead hlead
  split at h
  · rename_i hcontact
    simp only [ok_iff, Prod.exists] at h
    obtain ⟨updated, m₁, hchange, rfl, rfl⟩ := h
    obtain ⟨current, hcur, hstatus, -, hkept, hget⟩ := changeStatus_ok (hm.record _ _) hchange
    subst hid
    obtain rfl := some.inj ((record_get m _ _).symm.trans hcur)
    -- the status that is asked for is the one of a contact
    have hcontacted : updated.status = .CONTACTED := by
      have : LeadStatus.ofText? "CONTACTED" = some LeadStatus.CONTACTED := by decide
      exact mem_unique hstatus this
    have hopen : ¬updated.status.Closed := by rw [hcontacted]; decide
    rw [if_neg hopen] at hkept
    exact ⟨lead, updated, nextActionAt, hlead, hnext, hget, hkept, .inr ⟨hcontact.1, hcontacted⟩⟩
  · cases h
    subst hid
    exact ⟨lead, _, nextActionAt, hlead, hnext, record_get m _ _, rfl, .inl rfl⟩

end Memory

/-! ### Transactions on a copy that was read earlier -/

/-- `persistApiMutation`, by a process whose copy of the leads is of a state it has
seen: the operation runs on the copy, and its change is stored. -/
def ApiMutation.transact {T : Type} (r : ApiMutation T) (o : Occasion) (seen db : Database) :
    Outcome (T × Database) := do
  let memory := LeadMemory.init.refresh seen
  let before ← memory.requireLead r.leadId
  let (result, memory') ← r.mutate memory
  let after ← demand (memory'.leads.get r.leadId) (.error "lead_mutation_state_missing")
  let (_, db) ← persistMutation rt db (r.stored rt before after memory memory') o
    (r.atomicEffect result)
  pure (result, db)

variable {rt} in
/-- **What a transaction did**: it was answered from the receipt of its key, or it
stored what the operation changed of the lead that was seen, at its version, and
added its effect. -/
theorem transact_ok {T : Type} {r : ApiMutation T} {o : Occasion} {seen db db' : Database}
    {result : T} (h : r.transact rt o seen db = .ok (result, db')) :
    ∃ lead memory, seen.lead r.leadId = some lead ∧
      r.mutate (LeadMemory.init.refresh seen) = .ok (result, memory) ∧
      ((db.leadMutationReceipts.findUnique r.idempotencyKey).isSome ∧ db' = db ∨
        ∃ after input stored db₁, memory.leads.get r.leadId = some after ∧
        input.before.toLeadRow = lead.read ∧ input.after = { after with version := lead.version } ∧
        input.operation = r.operation ∧ input.idempotencyKey = r.idempotencyKey ∧
        persistMutationInTransaction rt db input o = .ok (stored, db₁) ∧
        r.atomicEffect result db₁ = .ok db') := by
  simp only [ApiMutation.transact, LeadMemory.requireLead, ok_iff, Prod.exists] at h
  obtain ⟨before, hbefore, _, memory, hmutate, after, hafter, _, _, hpersist, rfl, rfl⟩ := h
  rw [refresh_lead, map_eq_some_iff] at hbefore
  obtain ⟨lead, hlead, rfl⟩ := hbefore
  refine ⟨lead, memory, hlead, hmutate, ?_⟩
  simp only [persistMutation, bind_ok_iff] at hpersist
  obtain ⟨-, -, hpersist⟩ := hpersist
  split at hpersist
  · rename_i receipt hrec
    simp only [ok_iff] at hpersist
    obtain ⟨_, -, -, rfl⟩ := hpersist
    exact .inl ⟨isSome_iff_exists.mpr ⟨receipt, hrec⟩, rfl⟩
  · simp only [ok_iff, Prod.exists] at hpersist
    obtain ⟨stored, db₁, hwritten, db₂, heff, -, rfl⟩ := hpersist
    exact .inr ⟨after, _, stored, db₁, hafter, rfl, rfl, rfl, rfl, hwritten, heff⟩

/-! ### The requests -/

/-- `/^[A-Za-z0-9:_-]{8,128}$/` -/
def isActionKey (key : String) : Bool :=
  fullMatch (fun c => isAlnum c || c == ':' || c == '_' || c == '-') 8 128 key

def assertActionKey (key : Option String) : Outcome Unit :=
  require (key.all isActionKey) (.badRequest "lead_action_idempotency_invalid")

def ActivityInput.json (input : ActivityInput) : Json :=
  .present [("type", some (.str input.type)), ("result", some (.str input.result)),
    ("note", input.note.map Json.str), ("nextActionAt", input.nextActionAt.map Json.str),
    ("idempotencyKey", input.idempotencyKey.map Json.str)]

def CommercialStatusInput.json (input : CommercialStatusInput) : Json :=
  .present [("status", some (.str input.status)), ("reason", input.reason.map Json.str),
    ("qualification", input.qualification.map fun q =>
      .obj [("interestConfirmed", .bool q.interestConfirmed),
        ("eligibilityConfirmed", .bool q.eligibilityConfirmed)]),
    ("idempotencyKey", input.idempotencyKey.map Json.str)]

def findMutationReplay (db : Database) (key fingerprint : String) :
    Outcome (Option ReceiptResult) :=
  match db.leadMutationReceipts.findUnique key with
  | some receipt => (replay receipt fingerprint).map some
  | none => pure none

/-- The types of activities a caller may add. -/
def addedTypes : List String :=
  ["CRM_CALL", "EXTERNAL_CALL", "PHONE_CALL", "PHYSICAL_VISIT", "WHATSAPP", "MANUAL_EMAIL",
    "MEETING", "COMMENT"]

def activityMutation (leadId : String) (input : ActivityInput) (principal : Principal)
    (correlationId : String) (o : ContactOccasion) : ApiMutation LeadActivityRecord where
  leadId := leadId
  idempotencyKey := "lead:activity:" ++ leadId ++ ":" ++ input.idempotencyKey.getD correlationId
  operation := .ADD_ACTIVITY
  input := .obj [("actorId", .str principal.userId), ("input", input.json)]
  mutate m := addActivity rt m leadId input principal correlationId o
  auditActor := principal
  correlationId := correlationId

def addActivityForApi (seen db : Database) (leadId : String) (input : ActivityInput)
    (principal : Principal) (correlationId : String) (o : ContactOccasion) :
    Outcome (LeadActivityRecord × Database) := do
  require (input.type ∈ addedTypes ∧ length input.result ≤ 1000 ∧
      (input.note.all fun note => length note ≤ 10000))
    (.badRequest "activity_invalid")
  assertActionKey input.idempotencyKey
  let mutation := activityMutation rt leadId input principal correlationId o
  let replay ← findMutationReplay seen mutation.idempotencyKey
    (mutationFingerprint rt mutation.input leadId .ADD_ACTIVITY)
  if replay.isSome then
    let activity ← demand (findActivity seen mutation.idempotencyKey)
      (.conflict "lead_activity_receipt_incomplete")
    pure (activity, db)
  else
    let (_, db) ← mutation.transact rt o.toOccasion seen db
    let activity ← demand (findActivity db mutation.idempotencyKey)
      (.conflict "lead_activity_receipt_incomplete")
    pure (activity, db)

def statusMutation (leadId : String) (input : CommercialStatusInput) (principal : Principal)
    (correlationId : String) (o : Occasion) : ApiMutation LeadRecord where
  leadId := leadId
  idempotencyKey := "lead:status:" ++ leadId ++ ":" ++ input.idempotencyKey.getD correlationId
  operation := .CHANGE_STATUS
  input := .obj [("actorId", .str principal.userId), ("input", input.json)]
  mutate m := changeStatus m leadId input principal correlationId o.activityId o.now
  auditActor := principal
  correlationId := correlationId

def changeStatusForApi (seen db : Database) (leadId : String) (input : CommercialStatusInput)
    (principal : Principal) (correlationId : String) (o : Occasion) :
    Outcome (ReceiptResult × Database) := do
  assertActionKey input.idempotencyKey
  require (input.status ≠ "ENROLLED" ∧ input.status ≠ "CLOSED_LOST")
    (.forbidden "lead_closure_approval_required")
  let mutation := statusMutation leadId input principal correlationId o
  match ← findMutationReplay seen mutation.idempotencyKey
      (mutationFingerprint rt mutation.input leadId .CHANGE_STATUS) with
  | some result => pure (result, db)
  | none =>
    let (updated, db) ← mutation.transact rt o seen db
    pure (.lead updated, db)

end CrmYnov.Leads
