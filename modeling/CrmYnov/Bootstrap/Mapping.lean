import CrmYnov.Bootstrap.Types
import CrmYnov.Ingestion.Types
import Mathlib.Data.List.ReduceOption

/-!
# Mapping a workbook

A mapping names, for each sheet, the columns of the fields and of the comments. What it
makes of a source row is written down once (`CrmYnov.Bootstrap.mapHistoricalRow`): the
texts of the fields, the comments that are not blank, and the reasons for which the row has
to be looked at. Cells are never evaluated, and nothing is guessed: a text that is not known
is left out and gives a reason.

The tables of texts are plain objects, and a text that is looked up in one may find a member
that every object inherits (`CrmYnov.Bootstrap.memberOf`). Such a member is no text: it is
kept in place of the value, unless the row cannot be mapped at all.

Annotations are sorted into the rows they are at, and the rows a sheet gives to the ledger
are those that hold anything which is not left out on purpose.
-/

namespace CrmYnov.Bootstrap

open Checked Js

variable (rt : ImportRuntime)

/-- `normalized(value)` -/
def normalized (value : String) : String :=
  rt.unicode.toLocaleLowerCase (Ingestion.stripMarks (rt.unicode.normalizeNFD (trim value)))

/-- `sources` -/
def leadSources : List String :=
  ["OTHER", "WEBSITE", "WEB_FORM", "PHONE_CALL", "PHYSICAL_VISIT", "REFERRAL", "SOCIAL_MEDIA",
    "FACEBOOK", "INSTAGRAM", "GOOGLE", "PARTNER", "EVENT", "YNOV_COM", "YNOV_MA_LEGACY", "JOBINTECH",
    "LEGACY_RELAUNCH"]

def sourceAliases : List (String × String) :=
  [("appel entrant", "PHONE_CALL"), ("appel", "PHONE_CALL"), ("telephone", "PHONE_CALL"),
    ("visite", "PHYSICAL_VISIT"), ("recommandation", "REFERRAL"), ("formulaire", "WEB_FORM"),
    ("facebook", "SOCIAL_MEDIA"), ("instagram", "SOCIAL_MEDIA"), ("google", "WEBSITE"),
    ("ynov.com", "YNOV_COM"), ("ynov.ma", "YNOV_MA_LEGACY"), ("jobintech", "JOBINTECH")]

def statusMap : List (String × String) :=
  [("a contacter", "PROSPECT"), ("injoignable", "PROSPECT"), ("injoignable / a relancer", "PROSPECT"),
    ("a relancer", "PROSPECT"), ("contacte", "CONTACTED"), ("inscrit", "ENROLLED"),
    ("sans suite", "CLOSED_LOST")]

/-- The temperatures the texts of a sheet name. -/
def temperatureMap : List (String × String) :=
  [("froid", "COLD"), ("cold", "COLD"), ("tiede", "WARM"), ("warm", "WARM"), ("chaud", "HOT"),
    ("hot", "HOT")]

def inheritedMembers : List String :=
  ["constructor", "__defineGetter__", "__defineSetter__", "hasOwnProperty", "__lookupGetter__",
    "__lookupSetter__", "isPrototypeOf", "propertyIsEnumerable", "toString", "valueOf", "__proto__",
    "toLocaleString"]

/-- `table[key]` -/
def memberOf (table : List (String × String)) (key : String) : Option Member :=
  ((table.lookup key).map .own).or (if key ∈ inheritedMembers then some (.inherited key) else none)

/-- `BASELINE_OPTIONAL_INFORMATION` -/
def baselineOptionalInformation : List String := ["program", "educationLevel"]

/-- `FORMULA_REVIEW:${field}` -/
def formulaReview (field : String) : String := "FORMULA_REVIEW:" ++ field

def historicalStatusResolutionReason (rawStatus : Option String) : Option String :=
  if ¬given rawStatus then some "STATUS_MISSING_REVIEW"
  else if normalized rt (rawStatus.getD "") ∈
      ["a qualifier", "rdv planifie", "rdv effectue", "dossier ouvert"] then
    some "HISTORICAL_MILESTONE_STATUS_REVIEW"
  else none

/-! ### One row -/

/-- `mapping.fields[key]`, and the cell in this column. -/
def fieldCell (row : SourceRow) (mapping : HistoricalSheetMapping) (key : String) : Option Cell :=
  (mapping.fields.get key).bind row.cells.get

/-- The texts of the fields, as they are read. -/
def rawValues (row : SourceRow) (mapping : HistoricalSheetMapping) : Values :=
  importFields.foldl (fun values key => values.set key (cellText (fieldCell row mapping key)))
    (Dict.empty.set "campaign" (some mapping.campaign))

def mappedSource (original : Option String) : Option Member :=
  if ¬given original then none
  else
    let text := original.getD ""
    let upper := rt.unicode.toUpperCase (trim text)
    (memberOf sourceAliases (normalized rt text)).or
      (if upper ∈ leadSources then some (.own upper) else none)

/-- The owner that is named: the replacement, when there is one. -/
def selectedOwner (raw : Values) : Option String :=
  if raw.has "replacementOwner" then raw.text "replacementOwner" else raw.text "owner"

/-- The identifier of the owner a text names. -/
def mappedOwner (mapping : HistoricalSheetMapping) (selected : Option String) : Option String :=
  if given selected then mapping.ownerAliases.get (trim (selected.getD "")) else none

def mappedStatus (rawStatus : Option String) : Option Member :=
  if given rawStatus then memberOf statusMap (normalized rt (rawStatus.getD "")) else none

/-- The normalized text of a temperature, blank when there is none. -/
def rawTemperature (raw : Values) : String :=
  if raw.has "temperature" then normalized rt (raw.textD "temperature") else ""

def mappedTemperature (text : String) : Option Member :=
  (memberOf temperatureMap text).or (if text = "" then some (.own "UNEVALUATED") else none)

/-- `mapping.commentColumns.flatMap(…)`: the comments that are not blank. -/
def mappedComments (row : SourceRow) (mapping : HistoricalSheetMapping) : List MappedComment :=
  mapping.commentColumns.filterMap fun column =>
    ((cellText (row.cells.get column)).filter present).map fun text => ⟨column, text⟩

def reasonIf (condition : Bool) (reason : String) : List String := if condition then [reason] else []

def computed (cell : Option Cell) : Bool := cell.any fun c => c.formula.isSome

/-- The values of the fields once they are mapped, those that may be lacking apart. -/
def mappedValues (row : SourceRow) (mapping : HistoricalSheetMapping) : Members :=
  let raw := rawValues row mapping
  ((((raw.map fun text => text.map Member.own).set "source"
    (mappedSource rt (raw.text "source"))).set "ownerId"
    ((mappedOwner mapping (selectedOwner raw)).map .own)).set "status"
    (mappedStatus rt (raw.text "status"))).set
      "temperature" (mappedTemperature (rawTemperature rt raw))

/-- The information may be lacking, and is: it is not merely computed. -/
def lacks (row : SourceRow) (mapping : HistoricalSheetMapping) (values : Members)
    (key : String) : Bool :=
  !values.has key && !computed (fieldCell row mapping key)

/-- The reasons for which a row has to be looked at, in the order they are found. -/
def mappedReasons (row : SourceRow) (mapping : HistoricalSheetMapping) : List String :=
  let raw := rawValues row mapping
  let values := mappedValues rt row mapping
  let selected := selectedOwner raw
  let rawStatus := raw.text "status"
  let status := values.member "status"
  let resolution := historicalStatusResolutionReason rt rawStatus
  (importFields.flatMap fun key =>
      reasonIf (key != "receivedDate" && computed (fieldCell row mapping key)) (formulaReview key)) ++
    reasonIf (raw.has "source" && (values.member "source").isNone) "SOURCE_UNKNOWN" ++
    reasonIf (given selected && (values.member "ownerId").isNone) "OWNER_UNKNOWN" ++
    reasonIf (!given selected) "OWNER_MISSING" ++
    (resolution.elim (reasonIf status.isNone "STATUS_UNKNOWN") fun reason => [reason]) ++
    reasonIf (rawStatus.any fun text => text != "" && normalized rt text == "doublon")
      "HISTORICAL_DUPLICATE_STATUS_REVIEW" ++
    reasonIf (status == some (.own "ENROLLED") || status == some (.own "CLOSED_LOST"))
      "HISTORICAL_TERMINAL_STATUS_REVIEW" ++
    reasonIf (rawTemperature rt raw != "" && (values.member "temperature").isNone)
      "TEMPERATURE_UNKNOWN" ++
    (["firstName", "lastName", "source"].flatMap fun key =>
      reasonIf (!values.has key) ("REQUIRED_MAPPING_MISSING:" ++ key)) ++
    (baselineOptionalInformation.flatMap fun key =>
      reasonIf (lacks row mapping values key) ("BASELINE_INFORMATION_UNKNOWN:" ++ key)) ++
    reasonIf (!values.has "email" && !values.has "phone") "CONTACT_IDENTITY_MISSING" ++
    (mapping.commentColumns.flatMap fun column =>
      reasonIf (computed (row.cells.get column)) (formulaReview ("comment:" ++ column)))

/-- `mapHistoricalRow`: an inherited member in place of a source has no `trim` to call. -/
def mapHistoricalRow (row : SourceRow) (mapping : HistoricalSheetMapping) :
    Outcome (MappedRowOf Members) := do
  let raw := rawValues row mapping
  let values := mappedValues rt row mapping
  require (((values.member "source").all fun value => value.text?.isSome) = true)
    (.error "values[key]?.trim is not a function")
  pure
    { values := baselineOptionalInformation.foldl
        (fun v key => if lacks row mapping values key then v.set key (some (.own "")) else v) values
      comments := mappedComments row mapping
      sourceOwner := raw.text "owner"
      replacementOwner := raw.text "replacementOwner"
      rawStatus := raw.text "status"
      originalSource := raw.text "source"
      reasons := unique (mappedReasons rt row mapping)
      receivedDateEvidence := (mapping.fields.get "receivedDate").bind fun column =>
        (row.cells.get column).map fun cell =>
          ⟨column, column ++ toString row.rowNumber, cell, row.date1904⟩ }

def MappedRowOf.stored (mapped : MappedRowOf Members) : MappedRow :=
  { mapped with values := mapped.values.stored }

/-! ### The rows of a sheet -/

/-- `annotationRow`: the row an annotation is at. -/
def annotationRow ( annotation : HistoricalAnnotation) : Outcome ℕ := do
  let letters := annotation.reference.toList.takeWhile isUpper
  let digits := annotation.reference.toList.dropWhile isUpper
  require (1 ≤ letters.length ∧ letters.length ≤ 2 ∧ digits ≠ [] ∧ digits.head? ≠ some '0' ∧
      digits.all isDigit)
    (refuse "bootstrap_annotation_coordinate_invalid")
  let rowNumber := Nat.ofDigitChars 10 digits 0
  require (rowNumber ≤ 50000) (refuse "bootstrap_annotation_row_review_required")
  pure rowNumber

/-- Put an annotation in its row, unless it is in the header. -/
def placeAnnotation (rows : Dict ℕ SourceRow) ( annotation : HistoricalAnnotation) :
    Outcome (Dict ℕ SourceRow) := do
  let rowNumber ← annotationRow annotation
  if rowNumber ≤ 6 then pure rows
  else
    let row := (rows.get rowNumber).getD { rowNumber, cells := .empty }
    require (row.annotations.length < 100) (refuse "bootstrap_row_annotation_limit")
    pure (rows.set rowNumber { row with annotations := row.annotations ++ [ annotation] })

variable (sheet : SnapshotSheet)

def sourceRows : Outcome (List SourceRow) := do
  let rows ← sheet.annotations.foldlM placeAnnotation
    (sheet.rows.foldl (fun rows row => rows.set row.rowNumber { row with annotations := [] }) .empty)
  pure (rows.values.insertionSort fun a b => a.rowNumber ≤ b.rowNumber)

def identityHeaders : List String :=
  ["nom", "prenom", "nom complet", "nom et prenom", "email", "e-mail", "mail", "telephone", "tel",
    "gsm", "portable", "contact"]

/-- `/^(?:…)(?:\s|$)/` on a normalized header. -/
def isIdentityHeader (header : String) : Bool :=
  identityHeaders.any fun word => startsWith word header &&
    ((header.toList.drop word.toList.length).head?.all isSpace)

def identityColumns : List String :=
  (sheet.columns.filter fun column => isIdentityHeader (normalized rt column.name)).map
    SheetColumn.letter

def Cell.isEvidence (cell : Cell) : Bool :=
  cell.formula.isSome || (cell.value.text.any fun text => text != "")

/-- The columns that hold something, in the order of the cells. -/
def evidence (source : SourceRow) : List String :=
  (source.cells.entries.rows.filter fun e => e.2.isEvidence).map Prod.fst

structure PendingRow where
  sheet : SnapshotSheet
  source : SourceRow
  mapped : MappedRow

def isCandidate (source : SourceRow) (mapped : MappedRowOf Members) : Bool :=
  (identityColumns rt sheet).any (fun column => given (cellText (source.cells.get column))) ||
    ["firstName", "lastName", "email", "phone"].any mapped.values.has

/-- The row holds something that is kept: only what is left out on purpose may be missing from
the ledger. -/
def isKept (mapping : HistoricalSheetMapping) (source : SourceRow) (mapped : MappedRowOf Members) :
    Bool :=
  isCandidate rt sheet source mapped ||
    ((evidence source).any fun column => column ∉ mapping.excluded) ||
    !mapped.comments.isEmpty || !source.annotations.isEmpty

/-- What the ledger keeps of a source row, unless it holds nothing that is kept. -/
def pendingRow (date1904 : Bool) (sheet : SnapshotSheet) (mapping : HistoricalSheetMapping)
    (original : SourceRow) : Outcome (Option PendingRow) := do
  let source := { original with date1904 }
  let mapped ← mapHistoricalRow rt source mapping
  if !isKept rt sheet mapping source mapped then pure none
  else pure (some ⟨sheet, source, { mapped.stored with
    reasons := mapped.reasons ++
      reasonIf (!isCandidate rt sheet source mapped) "ORPHAN_COMMENT_REVIEW" ++
      (((evidence source).filter fun column =>
        column ∉ mapping.included ∧ column ∉ mapping.excluded).map
          fun column => "UNMAPPED_SOURCE_CELL_REVIEW:" ++ column) ++
      reasonIf (!source.annotations.isEmpty) "NATIVE_ANNOTATION_QUARANTINE" ++
      reasonIf (¬(source.annotations.map HistoricalAnnotation.reference).Nodup)
        "ANNOTATION_SAME_CELL_AMBIGUITY" }⟩)

def coverRow (mapping : HistoricalSheetMapping) (result : SourceCoverage) (source : SourceRow) :
    Outcome SourceCoverage := do
  let mapped ← mapHistoricalRow rt source mapping
  let cells := source.cells.values
  let seen := evidence source
  pure { result with
    sourceRows := result.sourceRows + 1
    sourceCandidates := result.sourceCandidates + (isCandidate rt sheet source mapped).toNat
    literalCells := result.literalCells +
      (cells.filter fun cell => cell.formula.isNone && cell.isEvidence).length
    formulaCells := result.formulaCells + (cells.filter fun cell => cell.formula.isSome).length
    commentCells := result.commentCells + mapped.comments.length
    unmappedCells := result.unmappedCells + (seen.filter fun column =>
      column ∉ mapping.included ∧ column ∉ mapping.excluded).length
    excludedCells := result.excludedCells + (seen.filter fun column =>
      column ∈ mapping.excluded).length
    ledgerRows := result.ledgerRows + (isKept rt sheet mapping source mapped).toNat }

def historicalSourceCoverage (mapping : HistoricalSheetMapping) : Outcome SourceCoverage := do
  let sources ← sourceRows sheet
  sources.foldlM (coverRow rt sheet mapping)
    { name := sheet.name, sourceCandidates := 0, sourceRows := 0, ledgerRows := 0
      literalCells := 0, commentCells := 0, formulaCells := 0
      nativeAnnotations := sheet.annotations.length, unmappedCells := 0, excludedCells := 0
      quarantinedAnnotations := sheet.annotations.length }

def sheetCoverage (mappings : List HistoricalSheetMapping) (sheet : SnapshotSheet) :
    Outcome SourceCoverage := do
  let mapping ← demand (mappings.find? fun m => m.name = sheet.name)
    (.error "Cannot read properties of undefined")
  historicalSourceCoverage rt sheet mapping

/-- The record of an annotation that is kept apart, when it is in the header. -/
def quarantined (sha256 : Sha) (sheet : SnapshotSheet) (native : HistoricalAnnotation) :
    Outcome (Option MetadataQuarantine) := do
  let rowNumber ← annotationRow native
  if 6 < rowNumber then pure none
  else pure (some
    { key := hash rt (.arr [.str sha256.val, .str sheet.relationId, .str native.annotationId,
        .str native.relationshipId, .str native.reference])
      sheet := sheet.name, relationId := sheet.relationId, sourceSha256 := sha256.val, native })

def historicalMetadataQuarantine (sha256 : Sha) (sheet : SnapshotSheet) :
    Outcome (List MetadataQuarantine) := do
  let found ← sheet.annotations.mapM (quarantined rt sha256 sheet)
  pure found.reduceOption

def PendingRow.row (pending : PendingRow) (sha256 : Sha) (packageId planId id : Uuid) :
    BootstrapImportRow where
  id := id
  packageId := packageId
  planId := planId
  sheet := pending.sheet.name
  relationId := pending.sheet.relationId
  rowNumber := pending.source.rowNumber
  sourceKey := sourceKey rt sha256 pending.sheet.relationId pending.source.rowNumber
  fingerprint := hash rt pending.source.json
  payload := pending.source
  mapped := pending.mapped
  reasons := pending.mapped.reasons

/-- The rows of one sheet, whose campaign has to be active in the campus. -/
def sheetRows (s : ImportStore) (campusId : String) (date1904 : Bool)
    (mappings : List HistoricalSheetMapping) (sheet : SnapshotSheet) : Outcome (List PendingRow) := do
  let mapping ← demand (mappings.find? fun m => m.name = sheet.name)
    (.error "Cannot read properties of undefined")
  let campus ← References.canonicalCampus rt.toRuntime s.db.references campusId
  let campaign ← demand (References.resolveReference rt.toRuntime s.db.references .CAMPAIGN
    mapping.campaign (some campus.id)) (.unprocessable "REFERENCE_VALUE_UNKNOWN" "campaign")
  require (campaign.state = .ACTIVE) (.unprocessable "REFERENCE_VALUE_UNKNOWN" "campaign")
  let sources ← sourceRows sheet
  let pending ← sources.mapM (pendingRow rt date1904 sheet mapping)
  pure pending.reduceOption

end CrmYnov.Bootstrap
