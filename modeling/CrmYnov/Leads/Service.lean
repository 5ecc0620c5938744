import CrmYnov.Leads.Memory

/-!
# The lead service over its database

A process that has a database keeps a copy of the leads and activities in its
memory. A mutation refreshes the copy, changes it, stores the change in one
transaction and refreshes again; when the transaction or a later reading fails,
it refreshes once more and throws. What a refresh does not replace is the record
of the corrections the process has made (`CrmYnov.Leads.LeadMemory.refresh`).

Any call to the database may fail. Which ones do is part of the circumstances
of a call (`CrmYnov.Leads.Faults`), and a call that throws returns the state it
leaves all the same.
-/

namespace CrmYnov.Leads

open Checked List

structure Process where
  db : Database
  memory : LeadMemory

/-- The calls to the database that fail during a request. -/
structure Faults where
  findActivity : Bool := false
  refreshBefore : Bool := false
  persist : Bool := false
  refreshAfter : Bool := false
  refreshOnError : Bool := false

/-- What happens around a request: its faults, and what the world gives to it. -/
structure Circumstances extends Occasion where
  faults : Faults := {}

/-- `refreshPersistentState`, when the snapshot is read: the copies are replaced,
the record of corrections is kept. -/
def LeadMemory.refresh (m : LeadMemory) (db : Database) : LeadMemory where
  leads := .ofList ((snapshotLeads db).map fun lead => (lead.id, lead))
  activities := snapshotActivities db
  correctionReceipts := m.correctionReceipts

namespace Process

def start (db : Database) : Process := ⟨db, LeadMemory.init.refresh db⟩

/-- `refreshPersistentState` -/
def refresh (s : Process) (fault : Bool) : Outcome Process :=
  if fault then .error .database else .ok { s with memory := s.memory.refresh s.db }

/-- The end of a request that has thrown: refresh, then throw. -/
def recover {T : Type} (s : Process) (fault : Bool) (e : Failure) : Outcome T × Process :=
  match s.refresh fault with
  | .ok s' => (.error e, s')
  | .error e' => (.error e', s)

end Process

def mutationFingerprint (rt : Runtime) (input : Js.Json) (leadId : String)
    (operation : MutationOperation) : String :=
  fingerprint rt (.obj [("input", input), ("leadId", .str leadId),
    ("operation", .str operation.text)])

/-- A mutation of a lead, as its API method describes it. -/
structure ApiMutation (T : Type) where
  (leadId idempotencyKey : String)
  operation : MutationOperation
  input : Js.Json
  mutate : LeadMemory → Outcome (T × LeadMemory)
  auditActor : Principal
  correlationId : String
  assignmentAudit : Option AssignmentAudit := none
  /-- What a workflow adds to the transaction. -/
  atomicEffect : T → Database → Outcome Database := fun _ => pure
  /-- What is returned, once the change is stored and the copies are refreshed. -/
  finish : T → Process → Outcome T := fun result _ => pure result

def newActivities (before after : LeadMemory) (leadId : String) : List LeadActivityRecord :=
  after.activities.filter fun a =>
    a.leadId = leadId ∧ a.id ∉ before.activities.map LeadActivityRecord.id

variable (rt : Runtime)

/-- What a mutation stores, once it has changed the memory. -/
def ApiMutation.stored {T : Type} (r : ApiMutation T) (before after : LeadRecord)
    (memory memory' : LeadMemory) : PersistMutationInput where
  before := before
  after := { after with version := before.version }
  activities := newActivities memory memory' r.leadId
  idempotencyKey := r.idempotencyKey
  operation := r.operation
  fingerprint := mutationFingerprint rt r.input r.leadId r.operation
  principal := r.auditActor
  correlationId := r.correlationId
  assignmentAudit := r.assignmentAudit

def ApiMutation.persist {T : Type} (r : ApiMutation T) (c : Circumstances) (db : Database)
    (input : PersistMutationInput) (result : T) : Outcome Database := do
  require (c.faults.persist = false) .database
  let (_, db) ← persistMutation rt db input c.toOccasion (r.atomicEffect result)
  pure db

/-- The second half of `persistApiMutation`: the change is in the memory, and is
stored. -/
def ApiMutation.commit {T : Type} (r : ApiMutation T) (c : Circumstances) (s : Process)
    (input : PersistMutationInput) (result : T) : Outcome T × Process :=
  match r.persist rt c s.db input result with
  | .error e => s.recover c.faults.refreshOnError e
  | .ok db =>
    let s := { s with db }
    match s.refresh c.faults.refreshAfter with
    | .error e => s.recover c.faults.refreshOnError e
    | .ok s =>
      match r.finish result s with
      | .error e => s.recover c.faults.refreshOnError e
      | .ok result => (.ok result, s)

def persistApiMutation {T : Type} (r : ApiMutation T) (c : Circumstances) (s : Process) :
    Outcome T × Process :=
  match s.refresh c.faults.refreshBefore with
  | .error e => (.error e, s)
  | .ok s =>
    match s.memory.requireLead r.leadId with
    | .error e => (.error e, s)
    | .ok before =>
      match r.mutate s.memory with
      | .error e => (.error e, s)
      | .ok (result, memory) =>
        match memory.leads.get r.leadId with
        | none => (.error (.error "lead_mutation_state_missing"), { s with memory })
        | some after =>
          r.commit rt c { s with memory } (r.stored rt before after s.memory memory) result

/-! ### The requests -/

def InteractionCorrectionInput.json (input : InteractionCorrectionInput) : Js.Json :=
  .present [("idempotencyKey", some (.str input.idempotencyKey)),
    ("expectedCorrectionCount", some (.int input.expectedCorrectionCount)),
    ("operation", some (.str input.operation)), ("reasonCode", some (.str input.reasonCode)),
    ("replacement", input.replacement.map fun r =>
      .present [("type", some (.str r.type)), ("result", some (.str r.result)),
        ("nextActionAt", r.nextActionAt.map Js.Json.str)])]

/-- A call of `correctActivityForApi`. -/
structure CorrectionCall where
  (leadId originalEventId : String)
  input : InteractionCorrectionInput
  principal : Principal
  correlationId : String

def CorrectionCall.key (call : CorrectionCall) : String :=
  "lead:correction:" ++ call.input.idempotencyKey

def CorrectionCall.request (call : CorrectionCall) : Js.Json :=
  .obj [("originalEventId", .str call.originalEventId), ("input", call.input.json)]

def CorrectionCall.mutation (call : CorrectionCall) (o : Occasion) :
    ApiMutation LeadActivityRecord where
  leadId := call.leadId
  idempotencyKey := call.key
  operation := .CORRECT_ACTIVITY
  input := call.request
  mutate m := correctActivity rt m call.leadId call.originalEventId call.input call.principal
    call.correlationId o
  auditActor := call.principal
  correlationId := call.correlationId
  finish result s := pure ((s.memory.activities.find? fun a => a.id = result.id).getD result)

def correctActivityForApi (call : CorrectionCall) (c : Circumstances) (s : Process) :
    Outcome LeadActivityRecord × Process :=
  if c.faults.findActivity then (.error .database, s)
  else
    match findActivity s.db call.key with
    | some replay => (.ok replay, s)
    | none => persistApiMutation rt (call.mutation rt c.toOccasion) c s

def assignLocalLeadForApi (leadId assignedToId : String) (principal : Principal)
    (correlationId reason : String) (assignmentMode : String)
    (assignmentAudit : Option AssignmentAudit) (c : Circumstances) (s : Process) :
    Outcome LeadRecord × Process :=
  persistApiMutation rt {
    leadId, idempotencyKey := "lead:assignment:" ++ leadId ++ ":" ++ correlationId
    operation := .ASSIGN
    input := .obj [("assignedToId", .str assignedToId), ("reason", .str reason),
      ("assignmentMode", .str assignmentMode)]
    mutate := fun m =>
      assignLocalLead m leadId assignedToId principal correlationId reason assignmentMode
        c.toOccasion
    auditActor := principal, correlationId, assignmentAudit
    finish := fun _ s => s.memory.requireLead leadId } c s

def reassignLocalLeadForApi (leadId expectedOwnerId targetUserId : String) (principal : Principal)
    (correlationId reason : String) (c : Circumstances) (s : Process) :
    Outcome LeadRecord × Process :=
  persistApiMutation rt {
    leadId, idempotencyKey := "lead:reassignment:" ++ leadId ++ ":" ++ correlationId
    operation := .REASSIGN
    input := .obj [("expectedOwnerId", .str expectedOwnerId), ("targetUserId", .str targetUserId),
      ("reason", .str reason)]
    mutate := fun m =>
      reassignLocalLead m leadId expectedOwnerId targetUserId principal correlationId reason
        c.toOccasion
    auditActor := principal, correlationId
    finish := fun _ s => s.memory.requireLead leadId } c s

def applyCollaboratorForApi (leadId targetUserId : String) (action : CollaboratorAction)
    (role : String) (principal : Principal) (correlationId : String) (c : Circumstances)
    (s : Process) : Outcome LeadRecord × Process :=
  persistApiMutation rt {
    leadId, idempotencyKey := "lead:collaborator:" ++ leadId ++ ":" ++ correlationId
    operation := .COLLABORATOR
    input := .obj [("targetUserId", .str targetUserId), ("action", .str action.text),
      ("role", .str role)]
    mutate := fun m =>
      applyCollaborator m leadId targetUserId action role principal correlationId c.toOccasion
    auditActor := principal, correlationId
    finish := fun _ s => s.memory.requireLead leadId } c s

/-! ### What a mutation can do -/

theorem refresh_ok_iff {s s' : Process} {fault : Bool} :
    s.refresh fault = .ok s' ↔ fault = false ∧ { s with memory := s.memory.refresh s.db } = s' := by
  cases fault <;> simp [Process.refresh]

section Recover

variable {T : Type} (s : Process) (fault : Bool) (e : Failure)

theorem recover_refused : Refused (s.recover fault e : Outcome T × Process).1 := by
  cases fault <;> simp [Process.recover, Process.refresh]

@[simp] theorem recover_db : (s.recover fault e : Outcome T × Process).2.db = s.db := by
  cases fault <;> rfl

@[simp] theorem recover_receipts :
    (s.recover fault e : Outcome T × Process).2.memory.correctionReceipts =
      s.memory.correctionReceipts := by
  cases fault <;> rfl

end Recover

variable {rt} {T : Type}

/-- The mutation ran on the refreshed memory, where its lead was found. -/
structure Ran (r : ApiMutation T) (s : Process) (result : T) (memory : LeadMemory)
    (before : LeadRecord) : Prop where
  found : (s.memory.refresh s.db).leads.get r.leadId = some before
  mutated : r.mutate (s.memory.refresh s.db) = .ok (result, memory)

/-- The transaction of a mutation that ran is committed, and leaves a
database. -/
def Committed (rt : Runtime) (r : ApiMutation T) (c : Circumstances) (s : Process) (result : T)
    (memory : LeadMemory) (before : LeadRecord) (db : Database) : Prop :=
  ∃ after, memory.leads.get r.leadId = some after ∧
    r.persist rt c s.db (r.stored rt before after (s.memory.refresh s.db) memory) result = .ok db

/-- What the second half of a mutation does, by the outcome of its
transaction. -/
theorem commit_cases (rt : Runtime) (r : ApiMutation T) (c : Circumstances) (s : Process)
    (input : PersistMutationInput) (result : T) :
    (r.commit rt c s input result).2.memory.correctionReceipts = s.memory.correctionReceipts ∧
      (r.persist rt c s.db input result = .ok (r.commit rt c s input result).2.db ∨
        (Refused (r.commit rt c s input result).1 ∧ (r.commit rt c s input result).2.db = s.db)) := by
  rw [ApiMutation.commit]
  split
  · exact ⟨recover_receipts .., .inr ⟨recover_refused .., recover_db ..⟩⟩
  · rename_i db hpersist
    rw [hpersist]
    simp only
    split
    · exact ⟨recover_receipts .., .inl (by rw [recover_db])⟩
    · rename_i s' hrefresh
      obtain ⟨-, rfl⟩ := refresh_ok_iff.mp hrefresh
      split
      · exact ⟨recover_receipts .., .inl (by rw [recover_db])⟩
      · exact ⟨rfl, .inl rfl⟩

/-- **What a mutation can do**: its transaction is committed, or it throws and
the database is as before. In both cases the corrections the process remembers
are those of the mutated memory, once the mutation ran. -/
theorem persistApiMutation_cases (rt : Runtime) (r : ApiMutation T) (c : Circumstances)
    (s : Process) :
    (Refused (persistApiMutation rt r c s).1 ∧ (persistApiMutation rt r c s).2.db = s.db ∧
      (persistApiMutation rt r c s).2.memory.correctionReceipts = s.memory.correctionReceipts) ∨
    ∃ result memory before, Ran r s result memory before ∧
      (persistApiMutation rt r c s).2.memory.correctionReceipts = memory.correctionReceipts ∧
      (Committed rt r c s result memory before (persistApiMutation rt r c s).2.db ∨
        (Refused (persistApiMutation rt r c s).1 ∧ (persistApiMutation rt r c s).2.db = s.db)) := by
  rw [persistApiMutation]
  split
  · exact .inl ⟨refused_error, rfl, rfl⟩
  rename_i s₀ hrefresh
  obtain ⟨-, rfl⟩ := refresh_ok_iff.mp hrefresh
  simp only [LeadMemory.requireLead]
  split
  · exact .inl ⟨refused_error, rfl, rfl⟩
  rename_i before hfound
  split
  · exact .inl ⟨refused_error, rfl, rfl⟩
  rename_i result memory hmutate
  refine .inr ⟨result, memory, before, ⟨demand_ok_iff.mp hfound, hmutate⟩, ?_⟩
  split
  · exact ⟨rfl, .inr ⟨refused_error, rfl⟩⟩
  rename_i after hkept
  obtain ⟨hrecs, hstored⟩ := commit_cases rt r c { s with memory }
    (r.stored rt before after (s.memory.refresh s.db) memory) result
  exact ⟨hrecs, hstored.imp_left fun h => ⟨after, hkept, h⟩⟩

/-- What the transaction of a mutation does when no workflow adds to it: it is
answered from the receipt of its key, or writes what the mutation changed. -/
theorem committed_cases {r : ApiMutation T} {c : Circumstances} {s : Process} {result : T}
    {memory : LeadMemory} {before : LeadRecord} {db : Database}
    (heffect : ∀ result db, r.atomicEffect result db = pure db)
    (h : Committed rt r c s result memory before db) :
    (∃ receipt ∈ s.db.leadMutationReceipts.findUnique r.idempotencyKey,
        receipt.fingerprint = mutationFingerprint rt r.input r.leadId r.operation ∧ db = s.db) ∨
      ∃ after references, memory.leads.get r.leadId = some after ∧
        Written s.db (r.stored rt before after (s.memory.refresh s.db) memory) references db := by
  obtain ⟨after, hafter, hpersist⟩ := h
  simp only [ApiMutation.persist, ok_iff] at hpersist
  obtain ⟨-, -, ⟨_, db'⟩, hpersist, rfl⟩ := hpersist
  rcases persistMutation_cases hpersist with ⟨receipt, hrec, hfp, rfl⟩ | ⟨-, _, db₁, hw, heff⟩
  · exact .inl ⟨receipt, hrec, hfp, rfl⟩
  · rw [heffect] at heff
    cases heff
    exact .inr ⟨after, _, hafter, hw⟩

/-- **A refreshed process knows the leads of its database**, each with its active
collaborators. -/
theorem refresh_lead (m : LeadMemory) (db : Database) (leadId : String) :
    (m.refresh db).leads.get leadId = (db.lead leadId).map (mapStoredLead db) := by
  have hids : (((snapshotLeads db).map fun lead => (lead.id, lead)).map Prod.fst).Nodup := by
    have hkeys := db.leads.nodup_keys (k := fun l => .id l.id)
      fun l => LeadRow.mem_keys_id.mpr rfl
    refine Nodup.of_map LeadRow.Key.id ?_
    simpa [snapshotLeads, mapStoredLead, Function.comp_def] using hkeys
  ext record
  rw [LeadMemory.refresh, Dict.get_ofList hids, Option.map_eq_some_iff]
  constructor
  · intro h
    obtain ⟨record, hrecord, heq⟩ := mem_map.mp h
    obtain ⟨row, hrow, rfl⟩ := mem_map.mp hrecord
    obtain ⟨rfl, rfl⟩ := Prod.mk.inj heq
    exact ⟨row, Database.lead_eq_some.mpr ⟨hrow, rfl⟩, rfl⟩
  · rintro ⟨row, hrow, rfl⟩
    obtain ⟨hmem, rfl⟩ := Database.lead_eq_some.mp hrow
    exact mem_map.mpr ⟨mapStoredLead db row, mem_map_of_mem hmem, rfl⟩

end CrmYnov.Leads
