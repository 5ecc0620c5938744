import CrmYnov.Leads.Identity

/-!
# The records of an import

A batch is a list of records with an assignment strategy and an idempotency key.
A record is checked and its contacts normalized (`CrmYnov.Ingestion.normalize`),
and the text of its historical status is looked up without its accents and its
case (`CrmYnov.Ingestion.mapHistoricalStatus`).
-/

namespace CrmYnov.Ingestion

open Checked Leads Js

def ingestionSources : List String :=
  ["WEB_FORM", "PHONE_CALL", "PHYSICAL_VISIT", "WEBSITE", "EVENT", "PARTNER", "JOBINTECH",
    "LEGACY_IMPORT", "MANUAL_ENTRY", "OTHER_CONTROLLED"]

structure HistoricalActivity where
  type : ActivityType
  (result occurredAt : String)
deriving DecidableEq

structure IngestionRecordInput where
  lineNumber : ℤ
  (firstName lastName : String)
  email : Option String := none
  phone : Option String := none
  campus : Option String := none
  campaign : Option String := none
  educationLevel : Option String := none
  program : Option String := none
  (source technicalSystem originalSource : String)
  recentSource : Option String := none
  externalId : Option String := none
  historicalStatus : Option String := none
  structuredPriorContact : Option Bool := none
  occurredAt : Option String := none
  historicalActivities : Option (List HistoricalActivity) := none
deriving DecidableEq

structure BatchAssignment where
  strategy : String
  targetUserId : Option String := none
deriving DecidableEq

/-- The trimmed text of a field, when something is left of it. -/
def trimmed (field : Option String) : Option String := nonEmpty (field.map trim)

structure IngestionBatchInput where
  (idempotencyKey profile : String)
  confirmed : Bool
  assignment : BatchAssignment
  records : List IngestionRecordInput
deriving DecidableEq

/-- `/^[a-zA-Z0-9:_-]{8,128}$/` -/
def isIdempotencyKey (key : String) : Bool :=
  fullMatch (fun c => isAlnum c || c == ':' || c == '_' || c == '-') 8 128 key

def assignmentStrategies : List String := ["UNASSIGNED", "FIXED", "ROUND_ROBIN", "CONTROLLED_RANDOM"]

def validateBatch (input : IngestionBatchInput) : Outcome Unit := do
  require (isIdempotencyKey input.idempotencyKey ∧ input.confirmed ∧ 1 ≤ input.records.length ∧
      input.records.length ≤ 100)
    (.badRequest "ingestion_batch_invalid")
  require (input.profile ≠ "" ∧ input.assignment.strategy ∈ assignmentStrategies)
    (.badRequest "ingestion_strategy_invalid")
  require (input.assignment.strategy = "FIXED" ↔ (nonEmpty input.assignment.targetUserId).isSome)
    (.badRequest "ingestion_assignment_target_invalid")
  require ((input.records.map IngestionRecordInput.lineNumber).Nodup)
    (.badRequest "ingestion_line_duplicate")

/-! ### Contacts -/

structure Contacts where
  (email phone : Option String)

/-- `/^\+?\d{8,15}$/` -/
def isPhone (phone : String) : Bool :=
  let digits := match phone.toList with
    | '+' :: digits => digits
    | digits => digits
  digits.all isDigit && 8 ≤ digits.length && digits.length ≤ 15

/-- The blanks an address may not contain. -/
def hasBlank (email : String) : Bool :=
  email.toList.any fun c => c == ' ' || c == '\t' || c == '\r' || c == '\n'

/-- The domain of an address has a dot, and neither begins nor ends with it. -/
def isDomain (domain : String) : Bool :=
  (lastIndexOf '.' domain).any fun dot => 0 < dot && dot + 1 < length domain

def validEmail (email : String) : Bool :=
  if 254 < length email || hasBlank email then false
  else
    (indexOf '@' email).any fun at' =>
      1 ≤ at' && lastIndexOf '@' email == some at' &&
        isDomain (after '@' email) && (after '@' email).toList.head? != some '.' &&
        (after '@' email).toList.getLast? != some '.'

example : validEmail "lead-1@example.invalid" = true := by decide

variable (rt : Runtime)

/-- `normalize`: the contacts of a record, or why it is refused. -/
def normalize (record : IngestionRecordInput) : Except String Contacts := do
  require (1 ≤ record.lineNumber ∧ present record.firstName ∧ present record.lastName)
    "identity_required"
  require (record.source ∈ ingestionSources ∧ present record.technicalSystem ∧
      present record.originalSource)
    "source_invalid"
  let email := nonEmpty (record.email.map (normalizeEmail rt))
  require (email.all validEmail) "email_invalid"
  let phone := nonEmpty (record.phone.map normalizePhone)
  require (phone.all isPhone) "phone_invalid"
  require (email.isSome ∨ phone.isSome ∨ given record.externalId) "stable_identity_missing"
  require ((nonEmpty record.occurredAt).all fun text => (rt.parseDate text).isSome)
    "occurred_at_invalid"
  require (∀ activity ∈ record.historicalActivities.getD [],
      present activity.result ∧ (rt.parseDate activity.occurredAt).isSome)
    "historical_activity_invalid"
  pure ⟨email, phone⟩

/-- What an accepted record has: its contacts in normal form, and dates that can
be read. -/
structure Normalized (record : IngestionRecordInput) (contacts : Contacts) : Prop where
  email : contacts.email = nonEmpty (record.email.map (normalizeEmail rt))
  phone : contacts.phone = nonEmpty (record.phone.map normalizePhone)
  occurredAt : ∀ text ∈ nonEmpty record.occurredAt, (rt.parseDate text).isSome
  activities : ∀ activity ∈ record.historicalActivities.getD [],
    (rt.parseDate activity.occurredAt).isSome

variable {rt} in
theorem normalized_of_normalize {record : IngestionRecordInput} {contacts : Contacts}
    (h : normalize rt record = .ok contacts) : Normalized rt record contacts := by
  simp only [normalize, ok_iff] at h
  obtain ⟨-, -, -, -, -, -, -, -, -, -, -, hdate, -, hacts, rfl⟩ := h
  refine ⟨rfl, rfl, fun text ht => ?_, fun activity ha => (hacts activity ha).2⟩
  rw [Option.mem_def.mp ht] at hdate
  exact hdate

inductive HistoricalStatus
  | KNOWN (status : LeadStatus) : HistoricalStatus
  | DUPLICATE : HistoricalStatus
  | UNKNOWN : HistoricalStatus
deriving DecidableEq

/-- The statuses that do not depend on a prior contact. -/
def statusMapping : List (String × LeadStatus) :=
  [("A CONTACTER", .PROSPECT), ("A QUALIFIER", .PROSPECT), ("CONTACTE", .CONTACTED),
    ("RDV PLANIFIE", .CONTACTED), ("RDV EFFECTUE", .QUALIFIED), ("DOSSIER OUVERT", .QUALIFIED),
    ("INSCRIT", .ENROLLED), ("SANS SUITE", .CLOSED_LOST), ("INJOIGNABLE", .PROSPECT),
    ("INJOIGNABLE / A RELANCER", .PROSPECT)]

/-- `value.replace(/[\u0300-\u036f]/g, "")` -/
def stripMarks (value : String) : String :=
  keep (fun c => !(0x300 ≤ c.val && c.val ≤ 0x36f)) value

def mapHistoricalStatus (raw : Option String) (priorContact : Bool) : HistoricalStatus :=
  match trimmed raw with
  | none => .KNOWN .PROSPECT
  | some text =>
    let value := rt.unicode.toUpperCase (stripMarks (rt.unicode.normalizeNFD text))
    if value = "DOUBLON" then .DUPLICATE
    else if value = "A RELANCER" then .KNOWN (if priorContact then .CONTACTED else .PROSPECT)
    else (statusMapping.lookup value).elim .UNKNOWN .KNOWN

def IngestionRecordInput.status (record : IngestionRecordInput) : HistoricalStatus :=
  mapHistoricalStatus rt record.historicalStatus (record.structuredPriorContact = some true)

namespace IngestionRecordInput

/-- The record names what a lead must have. -/
def hasRequiredMapping (record : IngestionRecordInput) : Bool :=
  given record.campus && given record.campaign && given record.educationLevel &&
    given record.program

def externalKey (record : IngestionRecordInput) : Option String :=
  (trimmed record.externalId).map fun id => trim record.technicalSystem ++ ":" ++ id

end IngestionRecordInput

end CrmYnov.Ingestion
