import CrmYnov.Bootstrap.Contract
import CrmYnov.Platform.Database

/-!
# The ledger of the historical import

A package is a workbook that was uploaded and sealed. Mapping it gives each of its source
rows a row of the ledger, which keeps the cells as they were read, what the mapping made
of them, and what was decided; a receipt is kept of every decision that was deferred,
reopened or carried out. What a decision brings about lies outside the ledger: dossiers,
the provenance of each of them, and notes.

A decision takes one of two forms: it resolves the values of a dossier, or it defers the
row and is bound to what the row was (`CrmYnov.Bootstrap.DeferralBinding`).
-/

namespace CrmYnov.Bootstrap

open Checked Js

/-! ### Cells and source rows -/

/-- `Cell["value"]` -/
inductive CellValue
  | null : CellValue
  | bool (value : Bool) : CellValue
  /-- A number, by its canonical text. -/
  | num (text : String) : CellValue
  | str (text : String) : CellValue

def CellValue.json : CellValue → Json
  | null => .null
  | bool value => .bool value
  | num text => .num text
  | str text => .str text

/-- `String(value)`, unless it is `null`. -/
def CellValue.text : CellValue → Option String
  | null => none
  | bool value => some (if value then "true" else "false")
  | num text => some text
  | str text => some text

/-- `Cell["formula"]` -/
structure Formula where
  text : String
  attributes : List (String × String) := []

structure Cell where
  value : CellValue
  raw : Option String := none
  type : String := "s"
  formula : Option Formula := none
  style : Option String := none

/-- A text, or `null`. -/
def orNull (text : Option String) : Json := text.elim .null .str

def Cell.json (cell : Cell) : Json :=
  .present [("value", some cell.value.json), ("raw", some (orNull cell.raw)),
    ("type", some (.str cell.type)),
    ("formula", cell.formula.map fun formula => .obj [("text", .str formula.text),
      ("attributes", .obj (formula.attributes.map fun a => (a.1, .str a.2)))]),
    ("style", cell.style.map .str)]

inductive AnnotationFormat
  | LEGACY | THREADED

def AnnotationFormat.text : AnnotationFormat → String
  | LEGACY => "LEGACY"
  | THREADED => "THREADED"

structure HistoricalAnnotation where
  (annotationId reference text : String)
  author : Option String := none
  relationshipId : String
  format : AnnotationFormat := .LEGACY
  sourceDate : Option String := none
  parentAnnotationId : Option String := none
  personId : Option String := none

namespace HistoricalAnnotation

variable (native : HistoricalAnnotation)

def json : Json :=
  .present [("annotationId", some (.str native.annotationId)),
    ("reference", some (.str native.reference)), ("text", some (.str native.text)),
    ("author", some (orNull native.author)),
    ("relationshipId", some (.str native.relationshipId)),
    ("format", some (.str native.format.text)),
    ("sourceDate", some (orNull native.sourceDate)),
    ("parentAnnotationId", native.parentAnnotationId.map .str),
    ("personId", native.personId.map .str)]

/-- The letters of the cell an annotation is at: `reference.replace(/\d+$/, "")`. -/
def column : String :=
  String.ofList (native.reference.toList.rdropWhile isDigit)

def triple : String × String × String :=
  (native.relationshipId, native.annotationId, native.reference)

end HistoricalAnnotation

def HistoricalAnnotationDecision.triple (item : HistoricalAnnotationDecision) :
    String × String × String := (item.relationshipId, item.annotationId, item.reference)

structure SourceRow where
  rowNumber : ℕ
  cells : Dict String Cell
  annotations : List HistoricalAnnotation := []
  date1904 : Bool := false

def SourceRow.json (source : SourceRow) : Json :=
  .obj [("rowNumber", .nat source.rowNumber),
    ("cells", .obj (source.cells.entries.rows.map fun e => (e.1, e.2.json))),
    ("annotations", .arr (source.annotations.map HistoricalAnnotation.json)),
    ("date1904", .bool source.date1904)]

/-- `text(cell)` -/
def cellText (cell : Option Cell) : Option String := cell.bind fun c => c.value.text

structure SheetColumn where
  (letter name : String)

/-- `SnapshotSheet`, whose rows have numbers that differ. -/
structure SnapshotSheet where
  (name relationId : String)
  rows : List SourceRow
  columns : List SheetColumn
  annotations : List HistoricalAnnotation := []
  rows_nodup : (rows.map SourceRow.rowNumber).Nodup := by decide

/-- `Snapshot`, whose sheets have relations that differ. -/
structure Snapshot where
  sheets : List SnapshotSheet
  date1904 : Bool := false
  relations_nodup : (sheets.map SnapshotSheet.relationId).Nodup := by decide

structure SourceCoverage where
  name : String
  (sourceCandidates sourceRows ledgerRows literalCells commentCells formulaCells : ℕ)
  (nativeAnnotations unmappedCells excludedCells quarantinedAnnotations : ℕ)

/-- `MetadataQuarantine`: an annotation of a header, kept apart from the rows. -/
structure MetadataQuarantine where
  (key sheet relationId sourceSha256 : String)
  native : HistoricalAnnotation

/-! ### Packages and plans -/

/-- `BootstrapImportPackage["state"]` -/
inductive PackageState
  | UPLOADING | SEALED | MAPPED | PARTIAL | COMPLETED
deriving DecidableEq

/-- A row of `bootstrap_import_packages`. -/
structure BootstrapImportPackage where
  id : Uuid
  campusId : String
  sizeBytes : ℕ := 1
  sha256 : Sha
  state : PackageState := .SEALED
  version : ℕ := 2
  snapshot : Option Snapshot := none
  batchId : Option String := none
  sealedAt : Option Instant := none

/-- The unique indexes of `bootstrap_import_packages`. -/
inductive BootstrapImportPackage.Key
  | id (value : Uuid)
  | sha256 (value : Sha)
deriving DecidableEq

def BootstrapImportPackage.keys (p : BootstrapImportPackage) : List BootstrapImportPackage.Key :=
  [.id p.id, .sha256 p.sha256]

/-- A row of `bootstrap_import_plans`. -/
structure BootstrapImportPlan where
  (id packageId : Uuid)
  version : ℕ
  (mappingVersion fingerprint : String)
  configuration : HistoricalMappingInput
  sourceCoverage : List SourceCoverage := []
  metadataQuarantine : List MetadataQuarantine := []

/-- The unique indexes of `bootstrap_import_plans`. -/
inductive BootstrapImportPlan.Key
  | id (value : Uuid)
  | version (packageId : Uuid) (version : ℕ)
deriving DecidableEq

def BootstrapImportPlan.keys (plan : BootstrapImportPlan) : List BootstrapImportPlan.Key :=
  [.id plan.id, .version plan.packageId plan.version]

/-! ### Rows -/

/-- A record of texts, some of them `null`. -/
abbrev Values := Dict String (Option String)

namespace Values

/-- `values[key]` -/
def text (values : Values) (key : String) : Option String := (values.get key).join

/-- `values[key] ?? ""` -/
def textD (values : Values) (key : String) : String := (values.text key).getD ""

/-- `values[key]?.trim()` is not empty. -/
def has (values : Values) (key : String) : Bool := given (values.text key)

/-- `{ ...values, ...overrides }` -/
def override (values : Values) (overrides : Option (Dict String String)) : Values :=
  (overrides.getD .empty).entries.rows.foldl (fun v e => v.set e.1 (some e.2)) values

def json (values : Values) : Json :=
  .obj (values.entries.rows.map fun e => (e.1, orNull e.2))

end Values

/-- What `table[key]` finds in a plain object: a text of its own, or a member that every
object inherits. -/
inductive Member
  | own (text : String) : Member
  | inherited (name : String) : Member
deriving DecidableEq

def Member.text? : Member → Option String
  | own text => some text
  | inherited _ => none

/-- A record of members, some of them `null`. -/
abbrev Members := Dict String (Option Member)

namespace Members

/-- `values[key]` -/
def member (values : Members) (key : String) : Option Member := (values.get key).join

/-- `values[key]`, when it is a text. -/
def text (values : Members) (key : String) : Option String := (values.member key).bind Member.text?

/-- `values[key]?.trim()` is not empty. -/
def has (values : Members) (key : String) : Bool := given (values.text key)

/-- What is read again of a record that was written as JSON: a function is left out of it, and
the prototype of all objects becomes an empty record, which is no text either. -/
def stored (values : Members) : Values := values.map fun value => value.bind Member.text?

end Members

structure MappedComment where
  (column text : String)

/-- `MappedRow["receivedDateEvidence"]` -/
structure ReceivedDateEvidence where
  (column reference : String)
  cell : Cell
  date1904 : Bool

/-- `MappedRow`, with its values in a record of some kind. -/
structure MappedRowOf (ν : Type) where
  values : ν
  comments : List MappedComment
  (sourceOwner replacementOwner rawStatus originalSource : Option String)
  reasons : List String
  receivedDateEvidence : Option ReceivedDateEvidence := none

abbrev MappedRow := MappedRowOf Values

def MappedRow.json (mapped : MappedRow) : Json :=
  .present [("values", some mapped.values.json),
    ("comments", some (.arr (mapped.comments.map fun comment =>
      .obj [("column", .str comment.column), ("text", .str comment.text)]))),
    ("sourceOwner", some (orNull mapped.sourceOwner)),
    ("replacementOwner", some (orNull mapped.replacementOwner)),
    ("rawStatus", some (orNull mapped.rawStatus)),
    ("originalSource", some (orNull mapped.originalSource)),
    ("reasons", some (.arr (mapped.reasons.map .str))),
    ("receivedDateEvidence", mapped.receivedDateEvidence.map fun evidence =>
      .obj [("column", .str evidence.column), ("reference", .str evidence.reference),
        ("cell", evidence.cell.json), ("date1904", .bool evidence.date1904)])]

/-- `BootstrapImportRow["state"]` -/
inductive RowState
  | REVIEW | READY | DEFERRED | ACCEPTED | IGNORED | INVALID
deriving DecidableEq

def RowState.text : RowState → String
  | REVIEW => "REVIEW"
  | READY => "READY"
  | DEFERRED => "DEFERRED"
  | ACCEPTED => "ACCEPTED"
  | IGNORED => "IGNORED"
  | INVALID => "INVALID"

/-- `["ACCEPTED", "IGNORED"].includes(state)` -/
def RowState.Settled (state : RowState) : Prop := state = .ACCEPTED ∨ state = .IGNORED
deriving Decidable

/-- `BOUNDED_BOOTSTRAP_POLICY` -/
def boundedBootstrapPolicy : String := "EXPLICIT_DEFERRED_V1"

structure DeferralBinding where
  (policy excelSha256 planId sourceKey sourceFingerprint mappedFingerprint : String)
  reasons : List String
  previousState : RowState
  previousVersion : ℕ

def DeferralBinding.json (binding : DeferralBinding) : Json :=
  .obj [("policy", .str binding.policy), ("excelSha256", .str binding.excelSha256),
    ("planId", .str binding.planId), ("sourceKey", .str binding.sourceKey),
    ("sourceFingerprint", .str binding.sourceFingerprint),
    ("mappedFingerprint", .str binding.mappedFingerprint),
    ("reasons", .arr (binding.reasons.map .str)),
    ("previousState", .str binding.previousState.text),
    ("previousVersion", .nat binding.previousVersion)]

/-- What a row keeps of a decision: the request, its author, and the values it resolves or
the deferral it is. -/
structure Decision extends HistoricalDecisionInput where
  actorId : String
  values : Option Values := none
  deferral : Option DeferralBinding := none

variable (rt : ImportRuntime)

/-- The digest of a decision without its expected version and its values:
`hash({ ...decision, expectedVersion: undefined, values: undefined })`. -/
def Decision.fingerprint (decision : Decision) : String :=
  hash rt (.present (decision.members ++ [("actorId", some (.str decision.actorId)),
    ("deferral", decision.deferral.map DeferralBinding.json)]))

def Decision.resolved (decision : Decision) : Values := decision.values.getD .empty

/-- A row of `bootstrap_import_rows`. -/
structure BootstrapImportRow where
  (id packageId planId : Uuid)
  (sheet relationId : String)
  rowNumber : ℕ
  (sourceKey fingerprint : String)
  payload : SourceRow
  mapped : MappedRow
  reasons : List String
  state : RowState := .REVIEW
  version : ℕ := 1
  decision : Option Decision := none
  decisionKey : Option String := none
  decisionFingerprint : Option String := none
  leadId : Option String := none

/-- The unique indexes of `bootstrap_import_rows`, the one on the decisions apart. -/
inductive BootstrapImportRow.Key
  | id (value : Uuid)
  | sourceKey (value : String)
  | relation (packageId : Uuid) (relationId : String) (rowNumber : ℕ)
deriving DecidableEq

def BootstrapImportRow.keys (row : BootstrapImportRow) : List BootstrapImportRow.Key :=
  [.id row.id, .sourceKey row.sourceKey, .relation row.packageId row.relationId row.rowNumber]

/-- `hash([sha256, relationId, rowNumber])` -/
def sourceKey (sha256 : Sha) (relationId : String) (rowNumber : ℕ) : String :=
  hash rt (.arr [.str sha256.val, .str relationId, .nat rowNumber])

/-- `hash([sha256, relationId, rowNumber, column])` -/
def commentKey (sha256 : Sha) (row : BootstrapImportRow) (column : String) : String :=
  hash rt (.arr [.str sha256.val, .str row.relationId, .nat row.rowNumber, .str column])

/-- `hash([sha256, relationId, rowNumber, "native-annotation", relationshipId,
annotationId, reference])` -/
def annotationKey (sha256 : Sha) (row : BootstrapImportRow) (native : HistoricalAnnotation) :
    String :=
  hash rt (.arr [.str sha256.val, .str row.relationId, .nat row.rowNumber, .str "native-annotation",
    .str native.relationshipId, .str native.annotationId, .str native.reference])

/-! ### Receipts and notes -/

/-- `BootstrapImportReceipt["operation"]` -/
inductive ReceiptOperation
  | COMMIT_ROW | DEFER_ROW | REOPEN_ROW | CONFIRM | EXECUTE_BLOCK
deriving DecidableEq

inductive ReceiptResponse
  /-- The row that was carried out, and the dossier it went to. -/
  | committed (rowId : String) (leadId : Option String) (assignment : String) : ReceiptResponse
  /-- `deferralReceiptResponse` -/
  | deferred (rowId decisionFingerprint : String) (binding : DeferralBinding) : ReceiptResponse
  /-- The decision that was withdrawn. -/
  | reopened (rowId : String) (previousDecision : Decision)
      (previousDecisionKey previousDecisionFingerprint : String) (reopenedVersion : ℕ)
      (reason : String) : ReceiptResponse
  /-- The rows of a confirmation. -/
  | confirmed (rowIds : List String) : ReceiptResponse
  /-- The rows of a block, and the versions of the package. -/
  | block (rowIds deferredRowIds : List String) (expectedVersion resultingVersion : ℤ) :
      ReceiptResponse

namespace ReceiptResponse

def rowId? : ReceiptResponse → Option String
  | committed rowId _ _ => some rowId
  | deferred rowId _ _ => some rowId
  | reopened rowId _ _ _ _ _ => some rowId
  | confirmed _ => none
  | block _ _ _ _ => none

def leadId? : ReceiptResponse → Option String
  | committed _ leadId _ => leadId
  | _ => none

/-- `response.previousDecisionKey` -/
def previousDecisionKey? : ReceiptResponse → Option String
  | reopened _ _ key _ _ _ => some key
  | _ => none

/-- `response.rowIds` -/
def rowIds? : ReceiptResponse → Option (List String)
  | confirmed rowIds => some rowIds
  | block rowIds _ _ _ => some rowIds
  | _ => none

end ReceiptResponse

/-- The JSON of `deferralReceiptResponse(rowId, decisionFingerprint, binding)`. -/
def deferralResponseJson (rowId decisionFingerprint : String) (binding : DeferralBinding) :
    Json :=
  .obj [("rowId", .str rowId), ("state", .str "DEFERRED"), ("leadId", .null),
    ("decisionFingerprint", .str decisionFingerprint), ("binding", binding.json)]

def ReceiptResponse.deferralJson? : ReceiptResponse → Option Json
  | deferred rowId decisionFingerprint binding =>
      some (deferralResponseJson rowId decisionFingerprint binding)
  | _ => none

/-- A row of `bootstrap_import_receipts`. -/
structure BootstrapImportReceipt where
  packageId : Uuid
  operation : ReceiptOperation
  (key fingerprint actorId : String)
  response : ReceiptResponse

def BootstrapImportReceipt.keys (receipt : BootstrapImportReceipt) :
    List (Uuid × ReceiptOperation × String) :=
  [(receipt.packageId, receipt.operation, receipt.key)]

/-- What a note was read from: a cell, or an annotation. -/
inductive SourceValue
  | cell (value : Option Cell) : SourceValue
  | annotation (value : HistoricalAnnotation) : SourceValue

def SourceValue.json : SourceValue → Json
  | cell value => value.elim .null Cell.json
  | annotation value => value.json

/-- A row of `imported_historical_notes`. -/
structure ImportedHistoricalNote where
  rowId : Uuid
  (leadId cellKey fingerprint sourceSheet : String)
  sourceRow : ℕ
  (sourceColumn text : String)
  sourceValue : SourceValue
  author : Option String := none
  occurredAt : Option Instant := none

def ImportedHistoricalNote.keys (note : ImportedHistoricalNote) : List String := [note.cellKey]

/-- The temperature a dossier was created with: the column of `leads` that the import
alone writes. -/
structure BaselineTemperature where
  leadId : String
  baselineTemperature : Option String

def BaselineTemperature.keys (t : BaselineTemperature) : List String := [t.leadId]

/-- The tables of the import, with the shared ones. -/
structure ImportStore where
  db : Database := {}
  packages : Table BootstrapImportPackage BootstrapImportPackage.keys := .empty
  plans : Table BootstrapImportPlan BootstrapImportPlan.keys := .empty
  rows : Table BootstrapImportRow BootstrapImportRow.keys := .empty
  receipts : Table BootstrapImportReceipt BootstrapImportReceipt.keys := .empty
  notes : Table ImportedHistoricalNote ImportedHistoricalNote.keys := .empty
  temperatures : Table BaselineTemperature BaselineTemperature.keys := .empty

namespace ImportStore

variable (s : ImportStore)

def package (id : Uuid) : Option BootstrapImportPackage :=
  s.packages.findUnique (.id id)

def row (packageId id : Uuid) : Option BootstrapImportRow :=
  (s.rows.findUnique (.id id)).filter fun r => r.packageId = packageId

def receipt (packageId : Uuid) (operation : ReceiptOperation) (key : String) :
    Option BootstrapImportReceipt :=
  s.receipts.findUnique (packageId, operation, key)

/-- The lead with an identifier that a text names. -/
def lead (id : String) : Option Leads.LeadRow :=
  (Uuid.read id).bind fun id => s.db.lead id.val

def temperature (leadId : String) : Option String :=
  (s.temperatures.findUnique leadId).bind BaselineTemperature.baselineTemperature

variable {s : ImportStore}

theorem package_eq_some {id : Uuid} {p : BootstrapImportPackage} :
    s.package id = some p ↔ p ∈ s.packages.rows ∧ p.id = id := by
  rw [package, Table.findUnique_eq_some]
  simp [BootstrapImportPackage.keys, eq_comm]

theorem row_eq_some {packageId id : Uuid} {r : BootstrapImportRow} :
    s.row packageId id = some r ↔ r ∈ s.rows.rows ∧ r.id = id ∧ r.packageId = packageId := by
  rw [row, Option.filter_eq_some_iff, Table.findUnique_eq_some, decide_eq_true_eq]
  simp [BootstrapImportRow.keys, eq_comm, and_assoc]

theorem row_ext {r r' : BootstrapImportRow} (hr : r ∈ s.rows.rows) (hr' : r' ∈ s.rows.rows)
    (h : r'.id = r.id) : r' = r :=
  s.rows.eq_of_key (k := .id r.id) hr' hr (by simp [BootstrapImportRow.keys, h])
    (by simp [BootstrapImportRow.keys])

theorem package_ext {p p' : BootstrapImportPackage} (hp : p ∈ s.packages.rows)
    (hp' : p' ∈ s.packages.rows) (h : p'.id = p.id) : p' = p :=
  s.packages.eq_of_key (k := .id p.id) hp' hp (by simp [BootstrapImportPackage.keys, h])
    (by simp [BootstrapImportPackage.keys])

end ImportStore

end CrmYnov.Bootstrap
