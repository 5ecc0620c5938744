import CrmYnov.Assignment.NewEntrants
import CrmYnov.Assignment.Reassignment
import CrmYnov.Base.Machine
import CrmYnov.Leads.Contacts
import CrmYnov.Leads.Progression

/-!
# Creating and updating leads

A lead is created in the memory of a process and stored in one transaction, together
with its first activity, the assignment its campus gives it, a receipt and an outbox
event. An update is a mutation of a lead (`CrmYnov.Leads.persistApiMutation`). Both
normalize and check the contacts they are given, each in its own way
(`CrmYnov.Leads.Contacts`).

So a stored contact is canonical as long as every creation is given contacts of which
something is left, and the two checks agree on every email
(`CrmYnov.Leads.canonical_throughout`).
-/

namespace CrmYnov.Leads

open Checked Js Assignment Option

/-! ### Creating a lead in memory -/

structure CreateLeadInput where
  (firstName lastName : String)
  email : Option String := none
  phone : Option String := none
  (campus campaign educationLevel program source : String)
  nextActionAt : Option String := none
  idempotencyKey : Option String := none

def CreateLeadInput.required (input : CreateLeadInput) : List String :=
  [input.firstName, input.lastName, input.campus, input.campaign, input.educationLevel,
    input.program, input.source]

def CreateLeadInput.json (input : CreateLeadInput) : Json :=
  .present [("firstName", some (.str input.firstName)), ("lastName", some (.str input.lastName)),
    ("email", input.email.map Json.str), ("phone", input.phone.map Json.str),
    ("campus", some (.str input.campus)), ("campaign", some (.str input.campaign)),
    ("educationLevel", some (.str input.educationLevel)), ("program", some (.str input.program)),
    ("source", some (.str input.source)), ("nextActionAt", input.nextActionAt.map Json.str)]

/-- What the world gives to a creation: the identifier and the code it draws, and the
identifier of the activity that records an assignment. -/
structure CreationDraw extends Circumstances where
  (leadId leadCode assignmentActivityId : String)

/-- The codes of the leads in memory with one of two contacts. -/
def duplicateCandidates (m : LeadMemory) (except : Option String) (email phone : Option String) :
    List String :=
  sortTexts ((m.leads.values.filter fun lead => some lead.id ≠ except ∧
    ((nonEmpty email).isSome ∧ lead.email = email ∨
      (nonEmpty phone).isSome ∧ lead.phone = phone)).map fun lead => lead.leadCode)

structure CreateLeadResult where
  lead : LeadRecord
  activity : LeadActivityRecord
  duplicateCandidates : List String

variable (rt : Runtime)

variable (m : LeadMemory)

def createLead (input : CreateLeadInput) (principal : Principal) (correlationId : String)
    (d : CreationDraw) : Outcome (CreateLeadResult × LeadMemory) := do
  require (principal.hasSome commercialRoles) (.forbidden "role_forbidden")
  require (∀ text ∈ input.required, present text) (.badRequest "lead_required_field_missing")
  let email ← creationEmail rt input.email
  let phone ← creationPhone input.phone
  let lead : LeadRecord := {
    id := d.leadId, leadCode := d.leadCode
    firstName := trim input.firstName, lastName := trim input.lastName, email, phone
    campus := trim input.campus, campaign := trim input.campaign
    educationLevel := trim input.educationLevel, program := trim input.program
    source := trim input.source, acquisitionKind := .NEW
    nextActionAt := (nonEmpty input.nextActionAt).bind rt.parseDate
    lastActivityAt := some d.now, createdAt := d.now }
  let activity : LeadActivityRecord := {
    id := d.activityId, leadId := lead.id, type := .LEAD_CREATED, result := "PROSPECT"
    authorId := principal.userId, correlationId, occurredAt := d.now }
  pure (⟨lead, activity, duplicateCandidates m none
      (nonEmpty (input.email.map (normalizeEmail rt))) (nonEmpty (input.phone.map normalizePhone))⟩,
    m.record lead activity)

/-! ### Storing it -/

/-- The assignment a campus gives to a new lead. -/
structure InitialAssignment extends SheetAssignment where
  reason : Option String := none

/-- The answers of the permissions, the references and the assignment rules to a
creation. -/
structure CreationAuthority where
  /-- `references.validateForLead` -/
  references : Database → Outcome Unit
  /-- The current account of the principal, when it may create leads in the campus. -/
  actor : Database → LeadRecord → Outcome Principal
  /-- `initialAssignment` -/
  assignment : Database → LeadRecord → Outcome InitialAssignment
  /-- `commitSheetAssignment`, whose ledger is kept apart. -/
  commit : Database → InitialAssignment → Outcome Unit
  /-- `assignmentManagerRecipients` -/
  managers : Database → LeadRecord → Outcome (List String)

def strategyText : AssignmentStrategy → String
  | .ROUND_ROBIN => "ROUND_ROBIN"
  | .CONTROLLED_RANDOM => "CONTROLLED_RANDOM"

variable (a : InitialAssignment)

/-- What is recorded of an assignment that was decided for a new lead. -/
def InitialAssignment.outcome : String :=
  if a.targetUserId.isSome then "ASSIGNED" else "UNASSIGNED"

def InitialAssignment.because : String :=
  a.reason.getD "assignment_selected"

def InitialAssignment.assign (lead : LeadRecord) : LeadRecord :=
  match a.targetUserId with
  | none => lead
  | some userId =>
    { lead with
      assignedToId := some userId
      assignmentMode := (a.selection.map fun s => strategyText s.strategy).or lead.assignmentMode }

variable (db : Database)

/-- What is recorded besides a lead that is assigned to a user. -/
def recordAssigned (lead : LeadRecord) (activity : LeadActivityRecord) (a : InitialAssignment)
    (userId key fingerprint correlationId : String) (actor : Principal) (auth : CreationAuthority)
    (d : CreationDraw) : Outcome Database := do
  auth.commit db a
  let assigned := key ++ ":assignment"
  let db ← db.addActivity (activityData { activity with
    id := d.assignmentActivityId, type := .ASSIGNMENT_CHANGED, result := userId } assigned)
  let db ← auditMutation rt db "LEAD_ASSIGNED" lead.id 1 assigned actor correlationId (some {
    origin := .AUTOMATIC, decisionRef := "initial-assignment:" ++ rt.sha256 key
    configurationVersion := a.configurationVersion.map Int.toNat
    ruleId := a.selection.map fun s => s.ruleId, requestHash := fingerprint
    selectedUserId := userId
    algorithmVersion := a.newEntrantReservation.map fun _ => "balanced-new-entrant-v1" })
  assignmentNotification rt db userId lead.id "ASSIGNMENT" key ""

/-- What is recorded besides a lead that is assigned to nobody. -/
def recordPending (lead : LeadRecord) (a : InitialAssignment) (key correlationId : String)
    (actor : Principal) (auth : CreationAuthority) : Outcome Database := do
  let db ← db.audit {
    eventType := "LEAD_ASSIGNMENT_PENDING", resourceId := lead.id
    campusId := a.campusId.getD lead.campus, actorId := actor.userId, actorRoles := actor.roles
    sessionId := some actor.sessionId, correlationId
    idempotencyKey := "initial-assignment:" ++ rt.sha256 key, before := .null
    after := .obj [("outcome", .str a.outcome), ("reason", .str a.because),
      ("configurationVersion", .int (a.configurationVersion.getD 0)),
      ("ruleId", (a.selection.map fun s => Json.str s.ruleId).getD .null)] }
  let managers ← auth.managers db lead
  notifyAll rt db lead.id "ASSIGNMENT" key managers

/-- What is recorded besides a lead, once its assignment is decided. -/
def recordAssignment (lead : LeadRecord) (activity : LeadActivityRecord) (a : InitialAssignment)
    (key fingerprint correlationId : String) (actor : Principal) (auth : CreationAuthority)
    (d : CreationDraw) : Outcome Database :=
  match a.targetUserId with
  | some userId =>
    recordAssigned rt db lead activity a userId key fingerprint correlationId actor auth d
  | none => recordPending rt db lead a key correlationId actor auth

def creationEvent (lead : LeadRecord) (a : InitialAssignment) (key : String) :
    Outbox.OutboxInput where
  topic := "LEAD.CREATED"
  aggregateType := "LEAD"
  aggregateId := lead.id
  idempotencyKey := "outbox:" ++ key
  payload := .obj [("operation", .str "CREATE"), ("status", .str lead.status.text),
    ("version", .nat lead.version), ("assignmentOutcome", .str a.outcome),
    ("assignmentReason", .str a.because),
    ("configurationVersion", .int (a.configurationVersion.getD 0))]

/-- The transaction of a creation whose key has no receipt. -/
def storeLead (lead : LeadRecord) (activity : LeadActivityRecord)
    (key fingerprint correlationId : String) (actor : Principal) (auth : CreationAuthority)
    (d : CreationDraw) : Outcome (LeadRecord × Database) := do
  let references ← References.validateLeadReferences rt db.references lead.referenceValues
  let lead := { lead with
    campus := references.campus, program := references.program, campaign := references.campaign }
  let assignment ← auth.assignment db lead
  let lead := assignment.assign lead
  let leads ← insert db.leads lead.toLeadRow
  let db := { db with leads }
  let db ← db.addActivity (activityData activity key)
  let db ← auditMutation rt db "LEAD_CREATED" lead.id 1 key actor correlationId none
  let db ← recordAssignment rt db lead activity assignment key fingerprint correlationId actor auth d
  let db ← db.addReceipt {
    leadId := lead.id, idempotencyKey := key, fingerprint, operation := "CREATE"
    result := .lead lead }
  let (_, localOutboxEvents) ← Outbox.enqueueInTransaction rt.jsonb
    (creationEvent lead assignment key) d.outboxId d.storedAt db.localOutboxEvents
  pure (lead, { db with localOutboxEvents })

/-- `LeadPersistenceRepository.createLead` -/
def persistCreation (input : CreateLeadInput) (result : CreateLeadResult)
    (key fingerprint correlationId : String) (principal : Principal) (auth : CreationAuthority)
    (d : CreationDraw) : Outcome (ReceiptResult × Database) := do
  require (d.faults.persist = false) .database
  requireAuditActor principal
  let actor ← auth.actor db result.lead
  match db.leadMutationReceipts.findUnique key with
  | some receipt =>
    let result ← replay receipt fingerprint
    pure (result, db)
  | none =>
    -- a next action that is no date is refused when the row is written
    require (∀ text ∈ nonEmpty input.nextActionAt, (rt.parseDate text).isSome) .database
    let (lead, db) ← storeLead rt db { result.lead with version := 1 } result.activity key
      fingerprint correlationId actor auth d
    pure (.lead lead, db)

/-! ### The requests -/

/-- The answer to a creation that was made before. -/
def replayedCreation (result : ReceiptResult) : ReceiptResult × List String :=
  match result with
  | .lead lead => (result, duplicateCandidates m (some lead.id) lead.email lead.phone)
  | _ => (result, [])

/-- A call of `createLeadForApi`. -/
structure CreationCall where
  input : CreateLeadInput
  principal : Principal
  correlationId : String
  auth : CreationAuthority
  draw : CreationDraw

def CreationCall.givenKey (call : CreationCall) : Option String :=
  call.input.idempotencyKey.map trim

def CreationCall.key (call : CreationCall) : String :=
  "lead:create:" ++ call.principal.userId ++ ":" ++ call.givenKey.getD call.correlationId

def CreationCall.fingerprint (call : CreationCall) : String :=
  Leads.fingerprint rt
    (.obj [("input", call.input.json), ("actorId", .str call.principal.userId)])

/-- The transaction of a creation that ran in memory, and the refreshes that follow
it. -/
def CreationCall.commit (call : CreationCall) (result : CreateLeadResult) (s : Process) :
    Outcome (ReceiptResult × List String) × Process :=
  match persistCreation rt s.db call.input result call.key (call.fingerprint rt) call.correlationId
      call.principal call.auth call.draw with
  | .error e => s.recover call.draw.faults.refreshOnError e
  | .ok (stored, db) =>
    let s := { s with db }
    match s.refresh call.draw.faults.refreshAfter with
    | .error e => s.recover call.draw.faults.refreshOnError e
    | .ok s => (.ok (stored, result.duplicateCandidates), s)

def createLeadForApi (call : CreationCall) (s : Process) :
    Outcome (ReceiptResult × List String) × Process :=
  if call.givenKey.all isActionKey = false then
    (.error (.badRequest "lead_create_idempotency_invalid"), s)
  else
    match call.auth.references s.db with
    | .error e => (.error e, s)
    | .ok () =>
      match s.refresh call.draw.faults.refreshBefore with
      | .error e => (.error e, s)
      | .ok s =>
        match findMutationReplay s.db call.key (call.fingerprint rt) with
        | .error e => (.error e, s)
        | .ok (some replay) => (.ok (replayedCreation s.memory replay), s)
        | .ok none =>
          match createLead rt s.memory call.input call.principal call.correlationId call.draw with
          | .error e => (.error e, s)
          | .ok (result, memory) => call.commit rt result { s with memory }

structure UpdateLeadInput where
  firstName : Option String := none
  lastName : Option String := none
  email : Option String := none
  phone : Option String := none
  campus : Option String := none
  campaign : Option String := none
  educationLevel : Option String := none
  program : Option String := none
  source : Option String := none
  expectedVersion : Option ℤ := none
  idempotencyKey : String

def UpdateLeadInput.json (input : UpdateLeadInput) : Json :=
  .present [("firstName", input.firstName.map Json.str),
    ("lastName", input.lastName.map Json.str), ("email", input.email.map Json.str),
    ("phone", input.phone.map Json.str), ("campus", input.campus.map Json.str),
    ("campaign", input.campaign.map Json.str),
    ("educationLevel", input.educationLevel.map Json.str),
    ("program", input.program.map Json.str), ("source", input.source.map Json.str),
    ("expectedVersion", input.expectedVersion.map Json.int),
    ("idempotencyKey", some (.str input.idempotencyKey))]

/-- The given texts must not be blank, but for those an old lead may lack. -/
def UpdateLeadInput.Complete (input : UpdateLeadInput) (current : LeadRow) : Prop :=
  (∀ given ∈ [input.firstName, input.lastName, input.campus, input.campaign, input.source],
    ∀ text ∈ given, present text) ∧
  (∀ text ∈ input.educationLevel,
    present text ∨ mayPreserveBaselineUnknown current LeadRow.educationLevel) ∧
  ∀ text ∈ input.program, present text ∨ mayPreserveBaselineUnknown current LeadRow.program
deriving Decidable

def normalizeLeadUpdate (current : LeadRecord) (input : UpdateLeadInput) : Outcome LeadRecord := do
  require (input.Complete current.toLeadRow) (.badRequest "lead_required_field_missing")
  let email ← updateEmail rt current.email input.email
  let phone ← updatePhone current.phone input.phone
  pure { current with
    firstName := (input.firstName.map trim).getD current.firstName
    lastName := (input.lastName.map trim).getD current.lastName
    campus := (input.campus.map trim).getD current.campus
    campaign := (input.campaign.map trim).getD current.campaign
    educationLevel := (input.educationLevel.map trim).getD current.educationLevel
    program := (input.program.map trim).getD current.program
    source := (input.source.map trim).getD current.source
    email, phone }

/-- The contacts of an update that another lead already has. -/
def collidingFields (leadId : String) (updated : LeadRecord) : List String :=
  let found := m.findIdentityMatches rt updated.email updated.phone
  (if ∃ other ∈ found.emailLeadId, other ≠ leadId then ["email"] else []) ++
    if ∃ other ∈ found.phoneLeadId, other ≠ leadId then ["phone"] else []

def updateLead (leadId : String) (input : UpdateLeadInput) (principal : Principal) :
    Outcome (LeadRecord × LeadMemory) := do
  let current ← m.requireLead leadId
  require (principal.covers current.campus) (.forbidden "lead_campus_forbidden")
  require (principal.hasSome Principal.managers ∨ current.assignedToId = some principal.userId ∨
      principal.userId ∈ current.collaboratorIds)
    (.forbidden "lead_collaboration_required")
  require (∀ version ∈ input.expectedVersion, version = current.version)
    (.conflict "lead_version_conflict")
  let updated ← normalizeLeadUpdate rt current input
  let fields := collidingFields rt m leadId updated
  require (fields = []) (.http .conflict "lead_contact_collision" fields)
  pure (updated, { m with leads := m.leads.set leadId updated })

/-- A call of `updateLeadForApi`. -/
structure UpdateCall where
  leadId : String
  input : UpdateLeadInput
  principal : Principal
  correlationId : String
  /-- `references.validateForLead` -/
  references : Database → Outcome Unit
  circumstances : Circumstances

def UpdateCall.mutation (call : UpdateCall) : ApiMutation LeadRecord where
  leadId := call.leadId
  idempotencyKey := "lead:update:" ++ call.leadId ++ ":" ++ call.input.idempotencyKey
  operation := .UPDATE_LEAD
  input := call.input.json
  mutate m := updateLead rt m call.leadId call.input call.principal
  auditActor := call.principal
  correlationId := call.correlationId
  finish _ s := s.memory.requireLead call.leadId

/-- What an update checks before its mutation, and the receipt it finds. -/
def UpdateCall.before (call : UpdateCall) (db : Database) : Outcome (Option ReceiptResult) := do
  call.references db
  require (call.principal.hasSome commercialRoles) (.forbidden "role_forbidden")
  let mutation := call.mutation rt
  findMutationReplay db mutation.idempotencyKey
    (mutationFingerprint rt mutation.input call.leadId .UPDATE_LEAD)

def updateLeadForApi (call : UpdateCall) (s : Process) : Outcome ReceiptResult × Process :=
  match call.before rt s.db with
  | .error e => (.error e, s)
  | .ok (some replay) => (.ok replay, s)
  | .ok none =>
    (persistApiMutation rt (call.mutation rt) call.circumstances s).map
      (fun answer => answer.map ReceiptResult.lead) id

/-- A request that creates or updates a lead. -/
inductive ContactCall
  | create (call : CreationCall) : ContactCall
  | update (call : UpdateCall) : ContactCall

/-- A process in which leads are created and updated. -/
def contacts : Machine Process ContactCall (Outcome ReceiptResult) where
  step s call := match call with
    | .create call => (createLeadForApi rt call s).map (fun answer => answer.map Prod.fst) id
    | .update call => updateLeadForApi rt call s

/-! ### What is stored of the contacts -/

variable {rt} {db db' : Database}

/-- **The contacts of a database are canonical**: those of every lead are. -/
def Canonical (rt : Runtime) (db : Database) : Prop :=
  ∀ lead ∈ db.leads.rows, CanonicalContacts rt lead

theorem assignmentNotification_leads {recipientId leadId type key suffix : String}
    (h : assignmentNotification rt db recipientId leadId type key suffix = .ok db') :
    db'.leads = db.leads := by
  simp only [assignmentNotification, ok_iff] at h
  obtain ⟨_, -, rfl⟩ := h
  rfl

theorem notifyAll_leads {leadId type key : String} {recipients : List String}
    (h : notifyAll rt db leadId type key recipients = .ok db') :
    db'.leads = db.leads := by
  induction recipients generalizing db with
  | nil =>
    cases h
    rfl
  | cons recipientId recipients ih =>
    simp only [notifyAll, bind_ok_iff] at h
    obtain ⟨db₁, hnotified, h⟩ := h
    exact (ih h).trans (assignmentNotification_leads hnotified)

theorem auditMutation_leads {eventType leadId key correlationId : String} {version : ℕ}
    {principal : Principal} {assignment : Option AssignmentAudit}
    (h : auditMutation rt db eventType leadId version key principal correlationId assignment =
      .ok db') : db'.leads = db.leads := by
  obtain ⟨_, rfl⟩ := auditMutation_ok h
  rfl

theorem assign_contacts (a : InitialAssignment) (lead : LeadRecord) :
    (a.assign lead).email = lead.email ∧ (a.assign lead).phone = lead.phone := by
  rw [InitialAssignment.assign]
  split
  · exact ⟨rfl, rfl⟩
  · exact ⟨rfl, rfl⟩

theorem recordAssignment_leads {lead : LeadRecord} {activity : LeadActivityRecord}
    {a : InitialAssignment} {key fingerprint correlationId : String} {actor : Principal}
    {auth : CreationAuthority} {d : CreationDraw}
    (h : recordAssignment rt db lead activity a key fingerprint correlationId actor auth d =
      .ok db') : db'.leads = db.leads := by
  rw [recordAssignment] at h
  split at h
  · simp only [recordAssigned, bind_ok_iff, Database.addActivity_ok_iff] at h
    obtain ⟨-, -, db₁, ⟨_, -, rfl⟩, db₂, haudit, h⟩ := h
    have haudited := auditMutation_leads haudit
    exact (assignmentNotification_leads h).trans haudited
  · simp only [recordPending, bind_ok_iff, Database.audit_ok_iff] at h
    obtain ⟨db₁, ⟨_, -, rfl⟩, managers, -, h⟩ := h
    have hnotified := notifyAll_leads h
    exact hnotified

/-- **A creation stores one lead**, with the contacts it was given in memory. -/
theorem storeLead_ok {lead stored : LeadRecord} {activity : LeadActivityRecord}
    {key fingerprint correlationId : String} {actor : Principal} {auth : CreationAuthority}
    {d : CreationDraw}
    (h : storeLead rt db lead activity key fingerprint correlationId actor auth d =
      .ok (stored, db')) :
    stored.email = lead.email ∧ stored.phone = lead.phone ∧
      db.leads.create stored.toLeadRow = some db'.leads := by
  simp only [storeLead, ok_iff, insert_ok_iff, Database.addActivity_ok_iff,
    Database.addReceipt_ok_iff, Prod.exists] at h
  obtain ⟨references, -, assignment, -, leads, hcreate, db₁, ⟨_, -, rfl⟩, db₂, haudit, db₃, hrecord,
    db₄, ⟨_, -, rfl⟩, -, -, -, rfl, rfl⟩ := h
  obtain ⟨hemail, hphone⟩ := assign_contacts assignment { lead with
    campus := references.campus, program := references.program, campaign := references.campaign }
  refine ⟨hemail, hphone, ?_⟩
  dsimp only
  rw [recordAssignment_leads hrecord, auditMutation_leads haudit]
  exact hcreate

/-- **What a creation can do** to the leads: nothing, or it stores one whose contacts
are what the checks made of the given ones. -/
theorem createLeadForApi_cases (call : CreationCall) (s : Process) :
    (createLeadForApi rt call s).2.db.leads = s.db.leads ∨
      ∃ lead : LeadRecord, creationEmail rt call.input.email = .ok lead.email ∧
        creationPhone call.input.phone = .ok lead.phone ∧
        s.db.leads.create lead.toLeadRow = some (createLeadForApi rt call s).2.db.leads := by
  rw [createLeadForApi]
  split
  · exact .inl rfl
  split
  · exact .inl rfl
  split
  · exact .inl rfl
  rename_i s' hrefresh
  obtain ⟨-, rfl⟩ := refresh_ok_iff.mp hrefresh
  split
  · exact .inl rfl
  · exact .inl rfl
  split
  · exact .inl rfl
  rename_i result memory hcreated
  simp only [createLead, ok_iff] at hcreated
  obtain ⟨-, -, -, -, email, hemail, phone, hphone, rfl, rfl⟩ := hcreated
  rw [CreationCall.commit]
  split
  · exact .inl (by rw [recover_db])
  rename_i stored db' hpersist
  have hstored : db'.leads = s.db.leads ∨ ∃ lead : LeadRecord, lead.email = email ∧
      lead.phone = phone ∧ s.db.leads.create lead.toLeadRow = some db'.leads := by
    simp only [persistCreation, bind_ok_iff] at hpersist
    obtain ⟨-, -, -, -, actor, -, hpersist⟩ := hpersist
    split at hpersist
    · simp only [ok_iff] at hpersist
      obtain ⟨-, -, -, rfl⟩ := hpersist
      exact .inl rfl
    · simp only [ok_iff, Prod.exists] at hpersist
      obtain ⟨-, -, lead, db₁, hstore, -, rfl⟩ := hpersist
      obtain ⟨hsame, hsame', hcreate⟩ := storeLead_ok hstore
      exact .inr ⟨lead, hsame, hsame', hcreate⟩
  have hleads : db'.leads = s.db.leads ∨
      ∃ lead : LeadRecord, creationEmail rt call.input.email = .ok lead.email ∧
        creationPhone call.input.phone = .ok lead.phone ∧
        s.db.leads.create lead.toLeadRow = some db'.leads := by
    rcases hstored with hsame | ⟨lead, rfl, rfl, hcreate⟩
    · exact .inl hsame
    · exact .inr ⟨lead, hemail, hphone, hcreate⟩
  dsimp only
  split
  · rw [recover_db]
    exact hleads
  · rename_i s' hrefresh
    obtain ⟨-, rfl⟩ := refresh_ok_iff.mp hrefresh
    exact hleads

/-- What an update does in memory: the lead has the contacts that the checks made of
the given ones. -/
theorem updateLead_ok {m m' : LeadMemory} {leadId : String} {input : UpdateLeadInput}
    {principal : Principal} {updated : LeadRecord}
    (h : updateLead rt m leadId input principal = .ok (updated, m')) :
    ∃ current, m.leads.get leadId = some current ∧ m'.leads.get leadId = some updated ∧
      updateEmail rt current.email input.email = .ok updated.email ∧
      updatePhone current.phone input.phone = .ok updated.phone := by
  simp only [updateLead, LeadMemory.requireLead, normalizeLeadUpdate, ok_iff] at h
  obtain ⟨current, hcur, -, -, -, -, -, -, _, ⟨-, -, email, hemail, phone, hphone, rfl⟩, -, -, rfl,
    rfl⟩ := h
  exact ⟨current, hcur, Dict.get_set_self .., hemail, hphone⟩

/-- **What an update can do** to the leads: nothing, or it writes the contacts that the
checks made of the given ones on the rows of its lead. -/
theorem updateLeadForApi_cases (call : UpdateCall) (s : Process) :
    (updateLeadForApi rt call s).2.db.leads = s.db.leads ∨
      ∃ row ∈ s.db.leads.rows, ∃ after : LeadRow,
        updateEmail rt row.read.email call.input.email = .ok after.email ∧
        updatePhone row.read.phone call.input.phone = .ok after.phone ∧
        (updateLeadForApi rt call s).2.db.leads =
          s.db.leads.updateMany (AtVersion row.read) after.mutate (LeadRow.keys_mutate after) := by
  rw [updateLeadForApi]
  split
  · exact .inl rfl
  · exact .inl rfl
  dsimp only [Prod.map_snd, id]
  rcases persistApiMutation_cases rt (call.mutation rt) call.circumstances s with
    ⟨-, hdb, -⟩ | ⟨result, memory, before, hran, -, hcommitted | ⟨-, hdb⟩⟩
  · exact .inl (by rw [hdb])
  · obtain ⟨current, hcur, hafter, hemail, hphone⟩ := updateLead_ok hran.mutated
    have hbefore : before = current := mem_unique hran.found hcur
    subst hbefore
    rw [refresh_lead, map_eq_some_iff] at hcur
    obtain ⟨row, hrow, rfl⟩ := hcur
    rcases committed_cases (fun _ _ => rfl) hcommitted with
      ⟨-, -, -, hdb⟩ | ⟨after, references, hkept, hwritten⟩
    · exact .inl (by rw [hdb])
    · obtain rfl : after = result := mem_unique hkept hafter
      refine .inr ⟨row, (Database.lead_eq_some.mp hrow).1, _, ?_, ?_, hwritten.leads⟩
      · exact hemail
      · exact hphone
  · exact .inl (by rw [hdb])

/-! ### Runs -/

/-- The contacts of a call are ones that its checks keep canonical: a creation is given
none, or such that something is left of each; and the checks agree on every email. -/
def ContactsMeet (rt : Runtime) : ContactCall → Prop
  | .create call => (∀ e ∈ call.input.email, CreationEmailMeets rt e) ∧
      ∀ p ∈ call.input.phone, normalizePhone p ≠ ""
  | .update call => ∀ e ∈ call.input.email, EmailsAgree (normalizeEmail rt e)

instance (call : ContactCall) : Decidable (ContactsMeet rt call) :=
  match call with
  | .create _ => inferInstanceAs (Decidable (_ ∧ _))
  | .update call => inferInstanceAs (Decidable (∀ e ∈ call.input.email, _))

theorem CanonicalContacts.read {row : LeadRow} (h : CanonicalContacts rt row) :
    CanonicalContacts rt row.read where
  email e he := h.email e (mem_filter_iff.mp he).1
  phone p hp := h.phone p (mem_filter_iff.mp hp).1

/-- **One call** that meets the condition keeps the contacts canonical. -/
theorem canonical_step (hlower : LowerStable rt) {s : Process} {call : ContactCall}
    (h : Canonical rt s.db) (hmeets : ContactsMeet rt call) :
    Canonical rt ((contacts rt).next s call).db := by
  cases call with
  | create call =>
    rcases createLeadForApi_cases call s with hleads | ⟨lead, hemail, hphone, hcreate⟩
    · intro row hrow
      exact h row (hleads ▸ hrow)
    · intro row hrow
      rcases (Table.mem_create hcreate).mp hrow with hold | rfl
      · exact h row hold
      · exact ⟨creationEmail_canonical hlower hmeets.1 hemail,
          creationPhone_canonical hmeets.2 hphone⟩
  | update call =>
    rcases updateLeadForApi_cases call s with hleads | ⟨row, hrow, after, hemail, hphone, hleads⟩
    · intro row hrow
      exact h row (hleads ▸ hrow)
    · have hread : CanonicalContacts rt row.read := (h row hrow).read
      intro row' hrow'
      have hmem : row' ∈ (updateLeadForApi rt call s).2.db.leads.rows := hrow'
      rw [hleads, Table.mem_updateMany] at hmem
      obtain ⟨old, hold, rfl⟩ := hmem
      split
      · exact ⟨updateEmail_canonical hlower hread.email hmeets hemail,
          updatePhone_canonical hread.phone hphone⟩
      · exact h old hold

/-- **Contacts stay canonical** in every run whose calls all meet the condition; and the
creation and the update accept an email, or a phone, alike exactly where their checks
agree on it. -/
theorem canonical_throughout (hlower : LowerStable rt) {db : Database} (h : Canonical rt db) :
    (∀ (current : Option String) (email : String),
      ((∃ stored, creationEmail rt (some email) = .ok stored) ↔
          ∃ stored, updateEmail rt current (some email) = .ok stored) ↔
        EmailsAgree (normalizeEmail rt email)) ∧ (∀ (current : Option String) (phone : String),
      ((∃ stored, creationPhone (some phone) = .ok stored) ↔
          ∃ stored, updatePhone current (some phone) = .ok stored) ↔
        (phone = "" ∨ normalizePhone phone ≠ "")) ∧
    ∀ calls : List ContactCall, (∀ call ∈ calls, ContactsMeet rt call) →
      (contacts rt).Throughout (fun s => Canonical rt s.db) (.start db) calls := by
  refine ⟨fun _ _ => emails_agree rt, fun _ _ => phones_agree, fun calls hcalls => ?_⟩
  have hmeets : (contacts rt).Meets (fun _ call => ContactsMeet rt call) (.start db) calls :=
    Machine.meets_of_forall _ hcalls
  exact Machine.throughout_of_meets (fun s call => canonical_step hlower) h hmeets

namespace Sample

/-- A campus with a program and a campaign. -/
def references : References.Store where
  references := .ofRows [
    ⟨"99999999-0000-4000-8000-000000000000", .CAMPUS, "rabat", "Rabat", "GLOBAL", .ACTIVE⟩,
    ⟨"99999999-0000-4000-8000-000000000001", .PROGRAM, "info", "Info", "GLOBAL", .ACTIVE⟩,
    ⟨"99999999-0000-4000-8000-000000000002", .CAMPAIGN, "salon", "Salon", "GLOBAL", .ACTIVE⟩]
  keys := .ofRows [⟨"99999999-0000-4000-8000-000000000000", .CAMPUS, "GLOBAL", "RABAT"⟩,
    ⟨"99999999-0000-4000-8000-000000000001", .PROGRAM, "GLOBAL", "INFO"⟩,
    ⟨"99999999-0000-4000-8000-000000000002", .CAMPAIGN, "GLOBAL", "SALON"⟩]
  availability := .ofRows [⟨"99999999-0000-4000-8000-000000000001",
    "99999999-0000-4000-8000-000000000000", true⟩]

def adviser : Principal := ⟨"aaaaaaaa-0000-4000-8000-000000000000", [.ADMISSIONS], [.GLOBAL], "s"⟩

/-- The adviser may create leads, and they are assigned to nobody. -/
def authority : CreationAuthority where
  references _ := .ok ()
  actor _ _ := .ok adviser
  assignment _ _ := .ok { reason := some "assignment_configuration_absent" }
  commit _ _ := .ok ()
  managers _ _ := .ok []

def creation (email phone : Option String) : ContactCall := .create {
  input := { firstName := "Ada", lastName := "Lovelace", email, phone, campus := "Rabat"
             campaign := "Salon", educationLevel := "BAC", program := "Info", source := "SITE" }
  principal := adviser, correlationId := "correlation-1", auth := authority
  draw := { activityId := "activity-1", outboxId := "outbox-1", now := 10, storedAt := 10
            leadId := "lead-1", leadCode := "LD-2026-00000001", assignmentActivityId := "a" } }

def update (email phone : Option String) : ContactCall := .update {
  leadId := "lead-1", input := { email, phone, idempotencyKey := "update-1" }
  principal := ⟨adviser.userId, [.MANAGER], [.GLOBAL], "s"⟩, correlationId := "correlation-2"
  references := fun _ => .ok ()
  circumstances := { activityId := "activity-2", outboxId := "outbox-2", now := 20, storedAt := 20 } }

end Sample

open Leads.Sample

theorem canonical_throughout_of_contacts :
    (((∃ stored, creationEmail .plain (some "Ada@Ynov.MA") = .ok stored) ↔
          ∃ stored, updateEmail .plain none (some "Ada@Ynov.MA") = .ok stored) ↔
        EmailsAgree (normalizeEmail .plain "Ada@Ynov.MA")) ∧
    (((∃ stored, creationPhone (some "06 00") = .ok stored) ↔
          ∃ stored, updatePhone none (some "06 00") = .ok stored) ↔
        ("06 00" = "" ∨ normalizePhone "06 00" ≠ "")) ∧
    (contacts .plain).Throughout (fun s => Canonical .plain s.db)
      (.start { references := references })
      [creation (some " Ada@Ynov.MA ") (some "+212 600-000-000"),
        update (some "ADA@ynov.ma") none] := by
  obtain ⟨hemails, hphones, hruns⟩ := @canonical_throughout .plain lowerStable_plain
    { references := references } fun lead hlead => by simp at hlead
  exact ⟨hemails none "Ada@Ynov.MA", hphones none "06 00", hruns _ (by decide)⟩

/-- Blank contacts are stored as they were given; and a text that is no phone is
accepted by a creation alone, an email with a dot at its end by an update alone. -/
theorem blank_contacts_stored :
    ¬(contacts .plain).Throughout (fun s => Canonical .plain s.db)
        (.start { references := references }) [creation (some "   ") (some "inconnu")] ∧
      creationPhone (some "inconnu") = .ok (some "inconnu") ∧
      updatePhone none (some "inconnu") = .error (.badRequest "lead_phone_invalid") ∧
      updateEmail .plain none (some "ada@ynov.ma.") = .ok (some "ada@ynov.ma.") ∧
      creationEmail .plain (some "ada@ynov.ma.") = .error (.badRequest "lead_email_invalid") := by
  refine ⟨fun h => ?_, by decide, by decide, by decide, by decide⟩
  have hrows : ((contacts .plain).run (.start { references := references })
      [creation (some "   ") (some "inconnu")]).db.leads.rows.map
        (fun lead => lead.email) = [some "   "] := by decide +kernel
  obtain ⟨lead, hlead, hemail⟩ : ∃ lead ∈ ((contacts .plain).run
      (.start { references := references })
      [creation (some "   ") (some "inconnu")]).db.leads.rows, lead.email = some "   " :=
    List.mem_map.mp (hrows ▸ List.mem_singleton_self _)
  have hself := ((Machine.Throughout.last h) lead hlead).email "   " hemail
  exact absurd hself.normal (by decide)

end CrmYnov.Leads
