import CrmYnov.Ingestion.Types

/-!
# Ingestion in the memory of a process

The records of a batch are taken in order. One whose external identifier, email
and phone lead to a single known lead adds a provenance to it; one that leads to
nobody and names all that a lead must have becomes a lead; a contradiction, an
unknown status or a missing field goes to manual review.

What the memory knows of identities is a register of three kinds of keys
(`CrmYnov.Ingestion.Store.identities`), and the ingestion of a record is described
on this register alone: what comes of the record
(`CrmYnov.Ingestion.settle`) and which keys are taken for whom
(`CrmYnov.Ingestion.enroll`).
-/

namespace CrmYnov.Ingestion

open Checked Leads

inductive IngestionOutcome
  | CREATED | PROVENANCE_ATTACHED | MANUAL_REVIEW | INVALID
deriving DecidableEq

structure IngestionLineResult where
  lineNumber : ℤ
  outcome : IngestionOutcome
  reason : Option String := none
  leadId : Option String := none
deriving DecidableEq

structure IngestionBatchResult where
  (batchId idempotencyKey : String)
  (total created attached manualReview invalid assigned unassigned : ℕ)
  lines : List IngestionLineResult
deriving DecidableEq

/-- Where a lead, or a later occurrence of it, came from. -/
structure ProvenanceRecord where
  (leadId source technicalSystem originalSource recentSource : String)
  (campaign externalId rawStatus : Option String)
  batchId : String
  importedAt : Instant

/-- The memory of the ingestion service and of the leads it works on. -/
structure Store where
  memory : LeadMemory
  provenanceByExternalId : Dict String ProvenanceRecord
  provenances : List ProvenanceRecord
  batches : Dict String IngestionBatchResult

/-- The memory of a process that has just started. -/
def Store.init : Store := ⟨.init, .empty, [], .empty⟩

/-- What the world gives to the ingestion of a line. -/
structure LineOccasion where
  (leadId leadCode : String)
  activityId : ℕ → String
  now : Instant
  /-- The adviser the assignment service chooses for the lead of the line. -/
  assignee : Option String := none

/-- What the world gives to the ingestion of a batch. -/
structure BatchOccasion where
  batchId : String
  line : ℤ → LineOccasion

variable (rt : Runtime)

/-! ### Provenances -/

def provenanceOf (leadId : String) (record : IngestionRecordInput) (batchId : String)
    (now : Instant) : ProvenanceRecord where
  leadId
  source := record.source
  technicalSystem := Js.trim record.technicalSystem
  originalSource := Js.trim record.originalSource
  recentSource := (trimmed record.recentSource).getD (Js.trim record.originalSource)
  campaign := trimmed record.campaign
  externalId := trimmed record.externalId
  rawStatus := trimmed record.historicalStatus
  batchId
  importedAt := now

/-- The activities a record brings with it, appended to a lead. -/
def appendHistorical (m : LeadMemory) (leadId : String) (activities : List HistoricalActivity)
    (principal : Principal) (correlationId : String) (o : LineOccasion) : Outcome LeadMemory :=
  activities.zipIdx.foldlM (fun m (activity, index) =>
    m.appendIngestionActivity rt leadId activity.type activity.result (some activity.occurredAt)
      principal (correlationId ++ ":historical:" ++ toString index) (o.activityId (index + 1))
      o.now) m

variable (s : Store)

def attachProvenance (leadId : String) (record : IngestionRecordInput) (batchId : String)
    (externalKey : Option String) (principal : Principal) (correlationId : String)
    (o : LineOccasion) : Outcome Store :=
  if externalKey.any fun key => (s.provenanceByExternalId.get key).isSome then pure s
  else do
    let provenance := provenanceOf leadId record batchId o.now
    let memory ← s.memory.appendIngestionActivity rt leadId
      (if record.source = "LEGACY_IMPORT" then .LEGACY_IMPORT else .PROVENANCE_ATTACHED)
      record.source record.occurredAt principal correlationId (o.activityId 0) o.now
    let memory ← appendHistorical rt memory leadId (record.historicalActivities.getD []) principal
      correlationId o
    pure { s with
      memory
      provenanceByExternalId := externalKey.elim s.provenanceByExternalId fun key =>
        s.provenanceByExternalId.set key provenance
      provenances := s.provenances ++ [provenance] }

/-! ### One record -/

/-- The leads that the external identifier and the contacts of a record lead
to. -/
def identityMatches (record : IngestionRecordInput) (contacts : Contacts) : List String :=
  let externalMatch := (record.externalKey.bind s.provenanceByExternalId.get).map
    ProvenanceRecord.leadId
  let identity := s.memory.findIdentityMatches rt contacts.email contacts.phone
  unique [nonEmpty externalMatch, identity.emailLeadId, identity.phoneLeadId].reduceOption

def newLead (record : IngestionRecordInput) (contacts : Contacts) (batchId : String)
    (o : LineOccasion) : LeadRecord where
  id := o.leadId
  leadCode := o.leadCode
  firstName := Js.trim record.firstName
  lastName := Js.trim record.lastName
  email := contacts.email
  phone := contacts.phone
  campus := Js.trim (record.campus.getD "")
  campaign := Js.trim (record.campaign.getD "")
  educationLevel := Js.trim (record.educationLevel.getD "")
  program := Js.trim (record.program.getD "")
  source := record.source
  importBatchId := some batchId
  status := match record.status rt with
    | .KNOWN status => status
    | _ => .PROSPECT
  createdAt := o.now

def ingestOne (record : IngestionRecordInput) (batchId : String) (principal : Principal)
    (correlationId : String) (o : LineOccasion) : Outcome (IngestionLineResult × Store) :=
  let line (outcome : IngestionOutcome) (reason leadId : Option String) : IngestionLineResult :=
    ⟨record.lineNumber, outcome, reason, leadId⟩
  match normalize rt record with
  | .error reason => pure (line .INVALID (some reason) none, s)
  | .ok contacts =>
    let status := record.status rt
    if status = .UNKNOWN then
      pure (line .MANUAL_REVIEW (some "historical_status_unknown") none, s)
    else
      let found := identityMatches rt s record contacts
      if 1 < found.length then pure (line .MANUAL_REVIEW (some "identity_collision") none, s)
      else if status = .DUPLICATE ∧ found.head? = none then
        pure (line .MANUAL_REVIEW (some "duplicate_without_reliable_match") none, s)
      else
        match found.head? with
        | some leadId => do
          let s ← attachProvenance rt s leadId record batchId record.externalKey principal
            correlationId o
          pure (line .PROVENANCE_ATTACHED none (some leadId), s)
        | none =>
          if ¬record.hasRequiredMapping then
            pure (line .MANUAL_REVIEW (some "required_mapping_missing") none, s)
          else do
            let lead := newLead rt record contacts batchId o
            let s ← attachProvenance rt { s with memory := s.memory.registerLocalLead lead } lead.id
              record batchId record.externalKey principal correlationId o
            pure (line .CREATED none (some lead.id), s)

/-! ### A batch -/

/-- `assignCreated`: the lead of a line goes to the adviser the assignment
service chooses, if it chooses one. -/
def assignCreated (leadId : String) (record : IngestionRecordInput) (input : IngestionBatchInput)
    (principal : Principal) (correlationId : String) (o : LineOccasion) : Bool × Store :=
  match o.assignee with
  | none => (false, s)
  | some target =>
    let index := (record.historicalActivities.getD []).length + 1
    match assignLocalLead s.memory leadId target principal (correlationId ++ ":0")
        ("BATCH:" ++ input.idempotencyKey ++ ":" ++ toString record.lineNumber)
        input.assignment.strategy ⟨o.activityId index, "", o.now, o.now⟩ with
    | .ok (_, memory) => (true, { s with memory })
    | .error _ => (false, s)

/-- One turn of the loop of `ingest`: the result of a line, and whether its lead
was assigned. -/
def ingestRecord (input : IngestionBatchInput) (record : IngestionRecordInput)
    (principal : Principal) (correlationId : String) (o : BatchOccasion) :
    Outcome ((IngestionLineResult × Bool) × Store) := do
  let (result, s) ← ingestOne rt s record o.batchId principal
    (correlationId ++ ":" ++ toString record.lineNumber) (o.line record.lineNumber)
  let created := if result.outcome = .CREATED ∧ input.assignment.strategy ≠ "UNASSIGNED" then
    nonEmpty result.leadId else none
  match created with
  | some leadId =>
    let (assigned, s) := assignCreated s leadId record input principal
      (correlationId ++ ":assignment:" ++ toString record.lineNumber) (o.line record.lineNumber)
    pure ((result, assigned), s)
  | none => pure ((result, false), s)

/-- The loop of `ingest`. -/
def ingestRecords (input : IngestionBatchInput) (principal : Principal) (correlationId : String)
    (o : BatchOccasion) :
    Store → List IngestionRecordInput → Outcome (List (IngestionLineResult × Bool) × Store)
  | s, [] => pure ([], s)
  | s, record :: records => do
    let (line, s) ← ingestRecord rt s input record principal correlationId o
    let (lines, s) ← ingestRecords input principal correlationId o s records
    pure (line :: lines, s)

def countOutcome (lines : List IngestionLineResult) (outcome : IngestionOutcome) : ℕ :=
  lines.countP fun line => line.outcome = outcome

def batchResult (input : IngestionBatchInput) (batchId : String)
    (lines : List (IngestionLineResult × Bool)) : IngestionBatchResult :=
  let results := lines.map Prod.fst
  let assigned := lines.countP Prod.snd
  { batchId
    idempotencyKey := input.idempotencyKey
    total := results.length
    created := countOutcome results .CREATED
    attached := countOutcome results .PROVENANCE_ATTACHED
    manualReview := countOutcome results .MANUAL_REVIEW
    invalid := countOutcome results .INVALID
    assigned
    unassigned := countOutcome results .CREATED - assigned
    lines := results }

def assertRole (principal : Principal) : Outcome Unit :=
  require (principal.hasSome Principal.managers) (.forbidden "ingestion_role_forbidden")

def ingest (input : IngestionBatchInput) (principal : Principal) (correlationId : String)
    (o : BatchOccasion) : Outcome (IngestionBatchResult × Store) := do
  assertRole principal
  validateBatch input
  match s.batches.get input.idempotencyKey with
  | some previous => pure (previous, s)
  | none =>
    let (lines, s) ← ingestRecords rt input principal correlationId o s input.records
    let result := batchResult input o.batchId lines
    pure (result, { s with batches := s.batches.set input.idempotencyKey result })

end CrmYnov.Ingestion
