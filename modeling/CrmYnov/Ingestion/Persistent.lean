import CrmYnov.Ingestion.Types

/-!
# Confirmed imports

A confirmed import is one transaction: a batch, its lines in the order of their
numbers, and a report. A line whose identity leads to one lead is attached to it
by a provenance; one that leads to nobody becomes a lead whose campus, program and
campaign are the codes of the references its texts name. A submission of the web
form is kept with a fingerprint of its content, and a submission that comes back
under its external identifier is compared with this fingerprint.

Whom a new lead is assigned to is settled by the rules of its campus, whose
answer is part of the circumstances of the import, as is the answer of the
permissions that an assignment asks for.
-/

namespace CrmYnov.Ingestion

open Checked Leads References Js

inductive LineOutcome
  | CREATED | ATTACHED | MANUAL_REVIEW | INVALID | IGNORED
deriving DecidableEq

def LineOutcome.text : LineOutcome → String
  | CREATED => "CREATED"
  | ATTACHED => "ATTACHED"
  | MANUAL_REVIEW => "MANUAL_REVIEW"
  | INVALID => "INVALID"
  | IGNORED => "IGNORED"

/-- Why a line waits for a review. -/
inductive ReviewReason
  | IDENTITY_COLLISION | SUBMISSION_CONTENT_DIVERGENT | DUPLICATE_WITHOUT_RELIABLE_MATCH
  | STATUS_UNKNOWN | PROGRAM_UNKNOWN | REQUIRED_MAPPING_MISSING | REFERENCE_VALUE_UNKNOWN

def ReviewReason.code : ReviewReason → String
  | IDENTITY_COLLISION => "IDENTITY_COLLISION"
  | SUBMISSION_CONTENT_DIVERGENT => "SUBMISSION_CONTENT_DIVERGENT"
  | DUPLICATE_WITHOUT_RELIABLE_MATCH => "DUPLICATE_WITHOUT_RELIABLE_MATCH"
  | STATUS_UNKNOWN => "STATUS_UNKNOWN"
  | PROGRAM_UNKNOWN => "PROGRAM_UNKNOWN"
  | REQUIRED_MAPPING_MISSING => "REQUIRED_MAPPING_MISSING"
  | REFERENCE_VALUE_UNKNOWN => "REFERENCE_VALUE_UNKNOWN"

/-- `reasonCode.toLowerCase()` -/
def ReviewReason.reason : ReviewReason → String
  | IDENTITY_COLLISION => "identity_collision"
  | SUBMISSION_CONTENT_DIVERGENT => "submission_content_divergent"
  | DUPLICATE_WITHOUT_RELIABLE_MATCH => "duplicate_without_reliable_match"
  | STATUS_UNKNOWN => "status_unknown"
  | PROGRAM_UNKNOWN => "program_unknown"
  | REQUIRED_MAPPING_MISSING => "required_mapping_missing"
  | REFERENCE_VALUE_UNKNOWN => "reference_value_unknown"

structure Line where
  lineNumber : ℤ
  outcome : LineOutcome
  reason : Option String := none
  leadId : Option String := none

structure ConfirmPersistentImportInput extends IngestionBatchInput where
  mappingId : String
  mappingVersion : ℤ
  sourceFileSha256 : String
  allowedPrograms : Option (List String) := none

structure PersistentImportResult where
  (batchId reportId idempotencyKey : String)
  (total created attached manualReview invalid : ℕ)
  replayed : Bool

/-- The adviser the rules of a campus select for a new lead. -/
structure SheetAssignment where
  targetUserId : Option String := none
  configurationVersion : Option ℕ := none
  reason : Option String := none
  ruleId : Option String := none
  newEntrant : Bool := false

structure PersistentLineOccasion where
  (leadId leadCode : String)
  activityId : ℕ → String
  now : Instant
  selection : Outcome SheetAssignment

/-- What the world gives to a confirmed import. -/
structure ConfirmOccasion where
  (batchId reportId : String)
  /-- `authorizeAssignment` -/
  authorizeAssignment : Principal → String → Outcome Unit
  line : ℤ → PersistentLineOccasion

/-! ### Checks -/

/-- `/^mapping-[0-9a-f]{24}$/` -/
def isMappingId (id : String) : Bool :=
  hasShape ("mapping-".toList.map (fun c d => d == c) ++ List.replicate 24 isHexDigit) id

/-- `/^[0-9a-f]{64}$/` -/
def isSha256 (digest : String) : Bool := fullMatch isHexDigit 64 64 digest

/-- `/^[0-9a-f]{8}-[0-9a-f]{4}-[1-5][0-9a-f]{3}-[89ab][0-9a-f]{3}-[0-9a-f]{12}$/i` -/
def isUuid (id : String) : Bool :=
  let hex (n : ℕ) : List (Char → Bool) := List.replicate n isHexDigitAnyCase
  let dash (c : Char) : Bool := c == '-'
  let version (c : Char) : Bool := '1' ≤ c && c ≤ '5'
  let variant (c : Char) : Bool := c ∈ ['8', '9', 'a', 'b', 'A', 'B']
  hasShape (hex 8 ++ dash :: hex 4 ++ dash :: version :: hex 3 ++ dash :: variant :: hex 3 ++
    dash :: hex 12) id

def assertInputContract (input : ConfirmPersistentImportInput) : Outcome Unit := do
  require input.confirmed (.conflict "persistent_import_confirmation_required")
  require (isIdempotencyKey input.idempotencyKey ∧ isMappingId input.mappingId ∧
      1 ≤ input.mappingVersion ∧ isSha256 input.sourceFileSha256 ∧ input.records ≠ [] ∧
      input.records.length ≤ 10000)
    (.badRequest "persistent_import_contract_invalid")
  require ((∀ record ∈ input.records, 1 ≤ record.lineNumber) ∧
      (input.records.map IngestionRecordInput.lineNumber).Nodup)
    (.badRequest "persistent_import_line_invalid")

def assertAllowed (input : ConfirmPersistentImportInput) (principal : Principal) : Outcome Unit := do
  require (principal.hasSome Principal.managers) (.forbidden "persistent_import_role_forbidden")
  assertInputContract input
  require (.GLOBAL ∈ principal.scopes ∨ ∀ record ∈ input.records,
      ∃ campus ∈ nonEmpty record.campus, .CAMPUS (trim campus) ∈ principal.scopes)
    (.forbidden "persistent_import_scope_forbidden")

/-- `validEmail` -/
def validAddress (email : String) : Bool :=
  if 254 < length email || hasBlank email then false
  else
    (indexOf '@' email).any fun at' =>
      1 ≤ at' && lastIndexOf '@' email == some at' && at' ≤ 64 && isDomain (after '@' email)

variable (rt : Runtime)

def validateRecord (record : IngestionRecordInput) : Except String Unit := do
  require (present record.firstName ∧ present record.lastName) "identity_name_missing"
  require (given record.email ∨ given record.phone ∨ given record.externalId)
    "identity_key_missing"
  require ((nonEmpty record.email).all fun email => validAddress (trim email)) "email_invalid"
  require ((nonEmpty record.phone).all fun phone => isPhone (normalizePhone phone)) "phone_invalid"
  require (present record.technicalSystem ∧ present record.originalSource)
    "provenance_missing"
  require ((nonEmpty record.occurredAt).all fun text => (rt.parseDate text).isSome)
    "occurred_at_invalid"
  require (∀ activity ∈ record.historicalActivities.getD [],
      present activity.result ∧ (rt.parseDate activity.occurredAt).isSome)
    "historical_activity_invalid"

def mapStatus (raw : Option String) (contacted : Bool) : HistoricalStatus :=
  match trimmed raw with
  | none => .KNOWN .PROSPECT
  | some text =>
    let value := stripMarks (rt.unicode.normalizeNFD (rt.unicode.toLocaleLowerCase text))
    if value ∈ ["a contacter", "a qualifier", "injoignable", "injoignable / a relancer"] then
      .KNOWN .PROSPECT
    else if value = "a relancer" then .KNOWN (if contacted then .CONTACTED else .PROSPECT)
    else if value ∈ ["contacte", "rdv planifie"] then .KNOWN .CONTACTED
    else if value ∈ ["rdv effectue", "dossier ouvert"] then .KNOWN .QUALIFIED
    else if value = "inscrit" then .KNOWN .ENROLLED
    else if value = "sans suite" then .KNOWN .CLOSED_LOST
    else if value = "doublon" then .DUPLICATE
    else .UNKNOWN

def mappedStatus (record : IngestionRecordInput) : HistoricalStatus :=
  mapStatus rt record.historicalStatus (record.structuredPriorContact = some true)

def programOutsideAllowedMapping (record : IngestionRecordInput)
    (input : ConfirmPersistentImportInput) : Bool :=
  (nonEmpty record.program).any fun program =>
    let allowed := input.allowedPrograms.getD []
    allowed ≠ [] ∧ trim program ∉ allowed

/-! ### Submissions -/

def HistoricalActivity.json (activity : HistoricalActivity) : Json :=
  .obj [("type", .str activity.type.text), ("result", .str activity.result),
    ("occurredAt", .str activity.occurredAt)]

def submissionContent (record : IngestionRecordInput) : Json :=
  let text (field : Option String) : Json := .str ((field.map trim).getD "")
  .obj [("externalId", text record.externalId), ("firstName", .str (trim record.firstName)),
    ("lastName", .str (trim record.lastName)),
    ("email", .str ((record.email.map (normalizeEmail rt)).getD "")),
    ("phone", .str ((record.phone.map normalizePhone).getD "")),
    ("campus", text record.campus), ("program", text record.program),
    ("campaign", text record.campaign), ("educationLevel", text record.educationLevel),
    ("historicalStatus", text record.historicalStatus),
    ("occurredAt", .str (record.occurredAt.getD "")),
    ("historicalActivities",
      .arr ((record.historicalActivities.getD []).map HistoricalActivity.json)),
    ("structuredPriorContact", .bool (record.structuredPriorContact.getD false))]

def submissionFingerprint (record : IngestionRecordInput) : String :=
  rt.sha256 (submissionContent rt record).stringify

def isForm (record : IngestionRecordInput) : Bool :=
  trim record.technicalSystem = "FORMINATOR_ZAPIER"

def provenanceRow (batchId leadId : String) (record : IngestionRecordInput) :
    LeadProvenanceRow where
  leadId
  batchId
  sourceType := record.source
  technicalSystem := trim record.technicalSystem
  originalSource := trim record.originalSource
  recentSource := (trimmed record.recentSource).getD (trim record.originalSource)
  campaign := trimmed record.campaign
  externalId := trimmed record.externalId
  rawStatus := trimmed record.historicalStatus
  submissionFingerprint := if isForm record then some (submissionFingerprint rt record) else none
  occurredAt := (nonEmpty record.occurredAt).bind rt.parseDate

variable (db : Database)

variable (batchId leadId : String)

/-- `provenance` -/
def addProvenance (record : IngestionRecordInput) : Outcome Database := do
  let leadProvenances ← insert db.leadProvenances (provenanceRow rt batchId leadId record)
  pure { db with leadProvenances }

/-- `activity` -/
def addImportActivity (type : ActivityType) (result authorId correlationId id : String)
    (occurredAt : Instant) : Outcome Database :=
  db.addActivity {
    id, leadId, type, result := slice 240 result, note := none, authorId, nextActionAt := none
    correlationId, idempotencyKey := none, originalEventId := none, correctionOperation := none
    correctionReasonCode := none, previousSnapshot := none, replacementSnapshot := none, occurredAt }

def review (lineNumber : ℤ) (reason : ReviewReason) (leadId : Option String := none) :
    Outcome (Line × Database) := do
  let ingestionReviewItems ← insert db.ingestionReviewItems
    ⟨batchId, lineNumber, reason.code, leadId⟩
  pure (⟨lineNumber, .MANUAL_REVIEW, some reason.reason, leadId⟩, { db with ingestionReviewItems })

/-! ### One line -/

def contactsOf (record : IngestionRecordInput) : Contacts where
  email := nonEmpty (record.email.map (normalizeEmail rt))
  phone := nonEmpty (record.phone.map normalizePhone)

/-- The leads with a given email or a given phone; three of them are enough. -/
def identityRows (contacts : Contacts) : List LeadRow :=
  (db.leads.findMany fun lead =>
    (contacts.email ≠ none ∧ lead.email = contacts.email) ∨
      (contacts.phone ≠ none ∧ lead.phone = contacts.phone)).take 3

/-- The submission known under the external identifier of a record. -/
def externalSubmission (record : IngestionRecordInput) : Option LeadProvenanceRow :=
  (trimmed record.externalId).bind fun externalId =>
    db.leadProvenances.findUnique (trim record.technicalSystem, externalId)

/-- `findMatches`: the leads that the external identifier and the contacts of a
record lead to. -/
def findMatches (record : IngestionRecordInput) : List String :=
  unique (((externalSubmission db record).toList.map LeadProvenanceRow.leadId) ++
    (identityRows db (contactsOf rt record)).map LeadRow.id)

def replayCanonicalSubmission (record : IngestionRecordInput) (external : LeadProvenanceRow) :
    Outcome (Line × Database) :=
  if external.submissionFingerprint ≠ some (submissionFingerprint rt record) then
    review db batchId record.lineNumber .SUBMISSION_CONTENT_DIVERGENT (some external.leadId)
  else pure (⟨record.lineNumber, .ATTACHED, none, some external.leadId⟩, db)

def attachMatch (record : IngestionRecordInput) (ignored provenanceExists : Bool)
    (actorId correlationId : String) (o : PersistentLineOccasion) : Outcome (Line × Database) := do
  let db ← if provenanceExists then pure db else addProvenance rt db batchId leadId record
  let db ← addImportActivity db leadId .PROVENANCE_ATTACHED record.source actorId
    (correlationId ++ ":" ++ toString record.lineNumber ++ ":provenance") (o.activityId 0) o.now
  pure (⟨record.lineNumber, if ignored then .IGNORED else .ATTACHED, none, some leadId⟩, db)

def appendHistoricalActivities (record : IngestionRecordInput) (correlationId : String)
    (o : PersistentLineOccasion) : Outcome Database :=
  (record.historicalActivities.getD []).zipIdx.foldlM (fun db (historical, index) => do
    let occurredAt ← demand (rt.parseDate historical.occurredAt) .database
    addImportActivity db leadId historical.type historical.result "LEGACY_IMPORT"
      (correlationId ++ ":" ++ toString record.lineNumber ++ ":historical:" ++ toString index)
      (o.activityId (index + 1)) occurredAt) db

def assignmentAudit (batchId campusId leadId : String) (record : IngestionRecordInput)
    (input : ConfirmPersistentImportInput) (principal : Principal) (correlationId : String)
    (selection : SheetAssignment) : AuditEventRow where
  eventType := if (nonEmpty selection.targetUserId).isSome then "LEAD_ASSIGNED"
    else "IMPORT_ASSIGNMENT_RESOLVED"
  resourceId := leadId
  campusId := some campusId
  actorId := principal.userId
  actorRoles := principal.roles
  sessionId := none
  correlationId
  idempotencyKey := "import-assignment:" ++ batchId ++ ":" ++ toString record.lineNumber
  before := .null
  after := .obj ([
    ("configurationVersion", (selection.configurationVersion.map Json.nat).getD .null),
    ("reason", .str (selection.reason.getD "assignment_selected"))] ++
    (if (nonEmpty selection.targetUserId).isSome then [
      ("origin", .str (if input.assignment.strategy ≠ "FIXED" then "AUTOMATIC" else "MANUAL")),
      ("decisionRef", .str ("import-assignment:" ++ batchId ++ ":" ++
        toString record.lineNumber))] else []) ++
    [("ruleId", (selection.ruleId.map Json.str).getD .null),
      ("assignedToId", ((nonEmpty selection.targetUserId).map Json.str).getD .null)] ++
    (if selection.newEntrant then [("algorithmVersion", .str "balanced-new-entrant-v1")] else []))

def createLead (record : IngestionRecordInput) (input : ConfirmPersistentImportInput)
    (status : LeadStatus) (principal : Principal) (correlationId : String)
    (o : PersistentLineOccasion) : Outcome (Line × Database) := do
  let campus ← canonicalCampus rt db.references (record.campus.getD "")
  let selection ← o.selection
  if (nonEmpty selection.targetUserId).any fun id => !isUuid id then
    pure (⟨record.lineNumber, .INVALID, some "assignment_target_invalid", none⟩, db)
  else do
    let leads ← insert db.leads {
      id := o.leadId
      leadCode := o.leadCode
      firstName := trim record.firstName
      lastName := trim record.lastName
      email := (contactsOf rt record).email
      phone := (contactsOf rt record).phone
      campus := trim (record.campus.getD "")
      campaign := trim (record.campaign.getD "")
      educationLevel := trim (record.educationLevel.getD "")
      program := trim (record.program.getD "")
      source := record.source
      status
      assignedToId := nonEmpty selection.targetUserId
      assignmentMode := (nonEmpty selection.targetUserId).map fun _ => input.assignment.strategy
      importBatchId := some batchId
      createdAt := o.now }
    let db ← addImportActivity { db with leads } o.leadId .LEAD_CREATED status.text
      principal.userId (correlationId ++ ":" ++ toString record.lineNumber ++ ":created")
      (o.activityId 0) o.now
    let db ← addProvenance rt db batchId o.leadId record
    let db ← appendHistoricalActivities rt db o.leadId record correlationId o
    let db ← db.audit (assignmentAudit batchId campus.id o.leadId record input principal
      correlationId selection)
    pure (⟨record.lineNumber, .CREATED, selection.reason, some o.leadId⟩, db)

def IngestionRecordInput.withReferences (record : IngestionRecordInput)
    (references : LeadReferenceValues) : IngestionRecordInput :=
  { record with
    campus := some references.campus
    program := some references.program
    campaign := some references.campaign }

def IngestionRecordInput.referenceValues (record : IngestionRecordInput) : LeadReferenceValues :=
  ⟨record.campus.getD "", record.program.getD "", record.campaign.getD ""⟩

/-- The end of `persistLine`: a record that leads to nobody. An unknown reference
sends it to review, any other failure is thrown. -/
def persistNewLead (record : IngestionRecordInput) (input : ConfirmPersistentImportInput)
    (status : LeadStatus) (principal : Principal) (correlationId : String)
    (o : PersistentLineOccasion) : Outcome (Line × Database) :=
  let created := do
    let references ← validateLeadReferences rt db.references record.referenceValues
    createLead rt db batchId (record.withReferences references) input status principal
      correlationId o
  match created with
  | .error (.http .unprocessableEntity _ _) =>
    review db batchId record.lineNumber .REFERENCE_VALUE_UNKNOWN
  | outcome => outcome

def persistLine (record : IngestionRecordInput) (input : ConfirmPersistentImportInput)
    (principal : Principal) (correlationId : String) (o : PersistentLineOccasion) :
    Outcome (Line × Database) :=
  match validateRecord rt record with
  | .error reason => pure (⟨record.lineNumber, .INVALID, some reason, none⟩, db)
  | .ok () =>
    let external := externalSubmission db record
    let found := findMatches rt db record
    if 1 < found.length then review db batchId record.lineNumber .IDENTITY_COLLISION
    else
      match (if isForm record then external else none) with
      | some submission => replayCanonicalSubmission rt db batchId record submission
      | none =>
        match mappedStatus rt record, found.head? with
        | .DUPLICATE, none =>
          review db batchId record.lineNumber .DUPLICATE_WITHOUT_RELIABLE_MATCH
        | .UNKNOWN, leadId => review db batchId record.lineNumber .STATUS_UNKNOWN leadId
        | status, leadId =>
          if programOutsideAllowedMapping record input then
            review db batchId record.lineNumber .PROGRAM_UNKNOWN leadId
          else
            match leadId, status with
            | some leadId, status =>
              attachMatch rt db batchId leadId record (status = .DUPLICATE) external.isSome
                principal.userId correlationId o
            | none, .KNOWN status =>
              if ¬record.hasRequiredMapping then
                review db batchId record.lineNumber .REQUIRED_MAPPING_MISSING
              else persistNewLead rt db batchId record input status principal correlationId o
            | none, _ =>
              review db batchId record.lineNumber .DUPLICATE_WITHOUT_RELIABLE_MATCH

/-! ### A batch -/

/-- The members of a record that are given, in the order of their names. -/
def IngestionRecordInput.canonical (record : IngestionRecordInput) : Json :=
  let text (field : Option String) : Option Json := field.map .str
  .present [("campaign", text record.campaign), ("campus", text record.campus),
    ("educationLevel", text record.educationLevel), ("email", text record.email),
    ("externalId", text record.externalId), ("firstName", text record.firstName),
    ("historicalActivities", record.historicalActivities.map fun activities =>
      .arr (activities.map fun activity => .obj [("occurredAt", .str activity.occurredAt),
        ("result", .str activity.result), ("type", .str activity.type.text)])),
    ("historicalStatus", text record.historicalStatus), ("lastName", text record.lastName),
    ("lineNumber", some (.int record.lineNumber)), ("occurredAt", text record.occurredAt),
    ("originalSource", text record.originalSource), ("phone", text record.phone),
    ("program", text record.program), ("recentSource", text record.recentSource),
    ("source", text record.source),
    ("structuredPriorContact", record.structuredPriorContact.map .bool),
    ("technicalSystem", text record.technicalSystem)]

/-- The records of a batch, in the order of their line numbers. -/
def sortedRecords (records : List IngestionRecordInput) : List IngestionRecordInput :=
  records.insertionSort fun a b => a.lineNumber ≤ b.lineNumber

/-- `fingerprint` -/
def importFingerprint (input : ConfirmPersistentImportInput) : String :=
  rt.sha256 (Json.stringify (.obj [
    ("allowedPrograms", .arr ((sortTexts (input.allowedPrograms.getD [])).map .str)),
    ("assignment", .present [("strategy", some (.str input.assignment.strategy)),
      ("targetUserId", input.assignment.targetUserId.map .str)]),
    ("confirmed", .bool true), ("idempotencyKey", .str input.idempotencyKey),
    ("mappingId", .str input.mappingId), ("mappingVersion", .int input.mappingVersion),
    ("profile", .str input.profile),
    ("records", .arr ((sortedRecords input.records).map IngestionRecordInput.canonical)),
    ("sourceFileSha256", .str input.sourceFileSha256)]))

def replay (batch : IngestionBatchRow) (fingerprint : String) : Outcome PersistentImportResult := do
  require (batch.fingerprint = fingerprint) (.conflict "persistent_import_idempotency_conflict")
  let report ← demand (db.importReports.findUnique (.batchId batch.id))
    (.conflict "persistent_import_incomplete_batch")
  pure {
    batchId := batch.id, reportId := report.id, idempotencyKey := batch.idempotencyKey
    total := batch.totalCount, created := batch.createdCount, attached := batch.attachedCount
    manualReview := batch.reviewCount, invalid := batch.invalidCount, replayed := true }

/-- An import that assigns its leads asks for the permission to do so, line by
line. -/
def authorizeLine (input : ConfirmPersistentImportInput) (principal : Principal)
    (record : IngestionRecordInput) (o : ConfirmOccasion) : Outcome Unit :=
  if input.assignment.strategy ≠ "UNASSIGNED" then
    o.authorizeAssignment principal (record.campus.getD "")
  else pure ()

/-- The loop of `confirm`. -/
def persistLines (input : ConfirmPersistentImportInput) (principal : Principal)
    (correlationId : String) (o : ConfirmOccasion) :
    Database → List IngestionRecordInput → Outcome (List Line × Database)
  | db, [] => pure ([], db)
  | db, record :: records => do
    authorizeLine input principal record o
    let (line, db) ← persistLine rt db o.batchId record input principal correlationId
      (o.line record.lineNumber)
    let (lines, db) ← persistLines input principal correlationId o db records
    pure (line :: lines, db)

/-- `count` -/
def countLines (lines : List Line) (outcome : LineOutcome) : ℕ :=
  lines.countP fun line => line.outcome = outcome

def newBatch (input : ConfirmPersistentImportInput) (principal : Principal) (batchId : String) :
    IngestionBatchRow where
  id := batchId
  idempotencyKey := input.idempotencyKey
  fingerprint := importFingerprint rt input
  profile := input.profile
  assignmentMode := input.assignment.strategy
  actorId := principal.userId
  totalCount := input.records.length

def IngestionBatchRow.withCounts (batch : IngestionBatchRow) (lines : List Line) :
    IngestionBatchRow :=
  { batch with
    createdCount := countLines lines .CREATED
    attachedCount := countLines lines .ATTACHED
    reviewCount := countLines lines .MANUAL_REVIEW
    invalidCount := countLines lines .INVALID }

theorem IngestionBatchRow.keys_withCounts (lines : List Line) (batch : IngestionBatchRow) :
    (batch.withCounts lines).keys = batch.keys := rfl

def importReport (input : ConfirmPersistentImportInput) (o : ConfirmOccasion) (lines : List Line) :
    ImportReportRow where
  id := o.reportId
  jobId := input.idempotencyKey
  batchId := o.batchId
  mappingId := input.mappingId
  mappingVersion := input.mappingVersion
  sourceFileSha256 := input.sourceFileSha256
  totalCount := lines.length
  createdCount := countLines lines .CREATED
  updatedCount := 0
  ignoredCount := countLines lines .IGNORED
  duplicateCount := countLines lines .ATTACHED
  errorCount := countLines lines .MANUAL_REVIEW + countLines lines .INVALID
  rejections := (lines.filter fun line =>
    line.outcome = .MANUAL_REVIEW ∨ line.outcome = .INVALID).map fun line =>
      ⟨line.lineNumber, line.outcome.text, line.reason.getD "reason_unavailable"⟩

/-- The transaction of `confirm`: its result, and the lines it is made of. -/
def execute (input : ConfirmPersistentImportInput) (principal : Principal) (correlationId : String)
    (o : ConfirmOccasion) : Outcome ((PersistentImportResult × List Line) × Database) := do
  let ingestionBatches ← insert db.ingestionBatches (newBatch rt input principal o.batchId)
  let (lines, db) ← persistLines rt input principal correlationId o { db with ingestionBatches }
    (sortedRecords input.records)
  let ingestionBatches := db.ingestionBatches.updateMany (fun batch => batch.id = o.batchId)
    (fun batch => batch.withCounts lines) (IngestionBatchRow.keys_withCounts lines)
  let importReports ← insert db.importReports (importReport input o lines)
  pure (({
    batchId := o.batchId, reportId := o.reportId, idempotencyKey := input.idempotencyKey
    total := lines.length, created := countLines lines .CREATED
    attached := countLines lines .ATTACHED, manualReview := countLines lines .MANUAL_REVIEW
    invalid := countLines lines .INVALID, replayed := false }, lines), { db with ingestionBatches, importReports })

def confirm (input : ConfirmPersistentImportInput) (principal : Principal) (correlationId : String)
    (o : ConfirmOccasion) : Outcome (PersistentImportResult × Database) := do
  assertAllowed input principal
  match db.ingestionBatches.findUnique (.idempotencyKey input.idempotencyKey) with
  | some batch =>
    let result ← replay db batch (importFingerprint rt input)
    pure (result, db)
  | none =>
    let ((result, _), db) ← execute rt db input principal correlationId o
    pure (result, db)

end CrmYnov.Ingestion
