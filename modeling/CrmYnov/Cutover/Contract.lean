import CrmYnov.Bootstrap.Contract
import CrmYnov.Js.Date

/-!
# What a cutover reads of its source

A cutover binds a sheet from an instant `T0` on. Each reading of the sheet gives its rows an
identity, the digest of the stream and of the external identifier of the row, and compares
them with the inventory of what was read before: an entry keeps the content, the arrival and
the decision it was first given, and what has changed or disappeared since is an issue of the
entry, which it keeps too (`CrmYnov.Cutover.observeCutover`).

A digest is taken of the text of a value whose members are put in the order of their names
(`CrmYnov.Cutover.cutoverHash`). A digest is never the empty text, so that what the source
tests as `!digest` is here whether there is one.
-/

namespace CrmYnov.Cutover

open Checked Js

def CUTOVER_ROW_LIMIT : ℕ := 10000

def CUTOVER_BYTE_LIMIT : ℕ := 4 * 1024 * 1024

/-- `Buffer.byteLength(text)` -/
def byteLength (text : String) : ℕ := (text.toList.map Char.utf8Size).sum

/-- `Buffer.byteLength(JSON.stringify(value))` -/
def jsonBytes (value : Json) : ℕ := (value.chars.map Char.utf8Size).sum

theorem byteLength_stringify (value : Json) : byteLength value.stringify = jsonBytes value := by
  rw [byteLength, Json.stringify, String.toList_ofList, jsonBytes]

inductive CutoverState
  | DRAFT | BASELINED | READY_FOR_CATCHUP | SUSPENDED
deriving DecidableEq

structure CutoverContract where
  schemaVersion : ℕ
  streamKey : Option String := none
  sourceSheetId : Option ℕ := none
  (bootstrapPackageId connectorId excelSha256 : String)
  connectorVersion : ℕ
  (configurationSha256 t0 timeZone excelFrozenAt originalArrivalColumn externalIdColumn : String)
  identityEvidenceSha256 : String

/-- On which side of `T0` an entry arrived. -/
inductive Classification
  | EXCLUDED_PRE_T0 | BACKLOG
deriving DecidableEq

/-- What has happened to the source of an entry. -/
inductive Issue
  | SOURCE_CHANGED | SOURCE_REMOVED

/-- What is decided of an entry that overlaps the baseline. -/
inductive OverlapDecision
  | KEEP_FOR_CATCHUP | LINK_BASELINE
deriving DecidableEq

/-- The cells of a row, by the names of their columns. -/
structure Payload where
  cells : List (String × String)
  distinct : (cells.map Prod.fst).Nodup

namespace Payload

variable (payload : Payload)

/-- `payload[column]` -/
def cell (column : String) : Option String := payload.cells.lookup column

/-- `Object.values(payload).every((value) => !value.trim())` -/
def isBlank : Bool := payload.cells.all fun cell => !present cell.2

def json : Json := .obj (payload.cells.map fun cell => (cell.1, .str cell.2))

end Payload

structure CutoverEntry where
  (key externalId fingerprint originalArrivedAt : String)
  classification : Classification
  issue : Option Issue
  decision : Option OverlapDecision
  targetBootstrapRowId : Option String
  payload : Payload

/-- What a reading of the sheet says of itself. -/
structure SheetObservation where
  sheetId : ℕ
  range : String
  values : List (List String)

/-- `SheetValues`: a reading of the sheet. -/
structure SheetValues where
  columns : List String
  rows : List Payload
  observation : Option SheetObservation := none

/-- An inventory, as it is after a reading. -/
structure ObservedCutover where
  (headerSha256 snapshotSha256 : String)
  sourceCount : ℕ
  entries : List CutoverEntry

/-! ### Texts -/

def cutoverInvalid (code : String := "cutover_input_invalid") : Failure := .badRequest code

def cutoverText (value : Option String) (max : ℕ := 128) : Outcome String := do
  let text ← demand value cutoverInvalid
  require (present text ∧ text = trim text ∧ length text ≤ max ∧
      ∀ c ∈ text.toList, 32 ≤ c.toNat ∧ c.toNat ≠ 127)
    cutoverInvalid
  pure text

/-- `/^\d{4}-\d{2}-\d{2}T\d{2}:\d{2}:\d{2}(?:\.\d{3})?Z$/` -/
def isUtcInstant (text : String) : Bool :=
  let number (n : ℕ) : List (Char → Bool) := List.replicate n isDigit
  let sign (c d : Char) : Bool := c == d
  let seconds := number 4 ++ sign '-' :: number 2 ++ sign '-' :: number 2 ++ sign 'T' :: number 2 ++
    sign ':' :: number 2 ++ sign ':' :: number 2
  hasShape (seconds ++ [sign 'Z']) text ||
    hasShape (seconds ++ sign '.' :: number 3 ++ [sign 'Z']) text

/-- `text.replace(".000Z", "Z")`, for the text of an instant. -/
def withoutMillis (text : String) : String :=
  if text.toList.drop 19 = ['.', '0', '0', '0', 'Z'] then String.ofList (text.toList.take 19 ++ ['Z'])
  else text

variable (rt : Runtime)

def cutoverInstant (value : Option String) : Outcome String := do
  let result ← cutoverText value 30
  require (isUtcInstant result) (cutoverInvalid "cutover_original_instant_required")
  let date ← demand (rt.parseDate result) (cutoverInvalid "cutover_original_instant_required")
  require (withoutMillis (isoString date) = withoutMillis result)
    (cutoverInvalid "cutover_original_instant_required")
  pure (isoString date)

/-- `cutoverFinalFreeze`: equal instants are necessary, and no proof of the freeze. -/
def cutoverFinalFreeze (excelFrozenAt t0 : String) : Outcome Unit := do
  let frozen ← cutoverInstant rt (some excelFrozenAt)
  let start ← cutoverInstant rt (some t0)
  require (frozen = start) (cutoverInvalid "cutover_freeze_delta_unqualified")

/-! ### Digests -/

def cutoverHash (value : Json) : String :=
  rt.sha256 (Json.stringify (Bootstrap.canonical (fun a b => decide (a ≤ b)) value))

def cutoverStreamKey (workbookId : String) (sheetId : ℕ) : String :=
  cutoverHash rt (.arr [.str "GOOGLE_SHEETS", .str workbookId, .nat sheetId])

/-- A text or `null`. -/
def text? (value : Option String) : Json := (value.map .str).getD .null

def CutoverContract.json (c : CutoverContract) : Json :=
  .present [("schemaVersion", some (.nat c.schemaVersion)), ("streamKey", c.streamKey.map .str),
    ("sourceSheetId", c.sourceSheetId.map .nat),
    ("bootstrapPackageId", some (.str c.bootstrapPackageId)),
    ("connectorId", some (.str c.connectorId)), ("excelSha256", some (.str c.excelSha256)),
    ("connectorVersion", some (.nat c.connectorVersion)),
    ("configurationSha256", some (.str c.configurationSha256)), ("t0", some (.str c.t0)),
    ("timeZone", some (.str c.timeZone)), ("equality", some (.str "POST_T0")),
    ("excelFrozenAt", some (.str c.excelFrozenAt)),
    ("originalArrivalColumn", some (.str c.originalArrivalColumn)),
    ("externalIdColumn", some (.str c.externalIdColumn)),
    ("identityEvidenceSha256", some (.str c.identityEvidenceSha256))]

def Issue.text : Issue → String
  | SOURCE_CHANGED => "SOURCE_CHANGED"
  | SOURCE_REMOVED => "SOURCE_REMOVED"

def OverlapDecision.text : OverlapDecision → String
  | KEEP_FOR_CATCHUP => "KEEP_FOR_CATCHUP"
  | LINK_BASELINE => "LINK_BASELINE"

def Classification.text : Classification → String
  | EXCLUDED_PRE_T0 => "EXCLUDED_PRE_T0"
  | BACKLOG => "BACKLOG"

def CutoverEntry.json (e : CutoverEntry) : Json :=
  .obj [("key", .str e.key), ("externalId", .str e.externalId), ("fingerprint", .str e.fingerprint),
    ("originalArrivedAt", .str e.originalArrivedAt), ("classification", .str e.classification.text),
    ("issue", text? (e.issue.map Issue.text)),
    ("decision", text? (e.decision.map OverlapDecision.text)),
    ("targetBootstrapRowId", text? e.targetBootstrapRowId), ("payload", e.payload.json)]

def SheetValues.json (values : SheetValues) : Json :=
  .present [("columns", some (.arr (values.columns.map .str))),
    ("rows", some (.arr (values.rows.map Payload.json))),
    ("observation", values.observation.map fun o => .obj [("sheetId", .nat o.sheetId),
      ("range", .str o.range), ("values", .arr (o.values.map fun row => .arr (row.map .str)))])]

/-! ### A reading of the source -/

structure SourceRow where
  (key externalId fingerprint originalArrivedAt : String)
  payload : Payload

def sourceKey (contract : CutoverContract) (externalId : String) : String :=
  cutoverHash rt (.arr [.str (contract.streamKey.getD contract.connectorId), .str externalId])

/-- The rows of a reading, the blank ones left out. An identity that comes twice refuses the
reading. -/
def readRows (contract : CutoverContract) (columns : List String) :
    List String → List Payload → Outcome (List SourceRow)
  | _, [] => pure []
  | observed, payload :: payloads => do
    require (∀ cell ∈ payload.cells, cell.1 ∈ columns ∧ length cell.2 ≤ 4000)
      (cutoverInvalid "cutover_source_payload_invalid")
    if payload.isBlank then readRows contract columns observed payloads
    else do
      let externalId ← cutoverText (payload.cell contract.externalIdColumn)
      let originalArrivedAt ← cutoverInstant rt (payload.cell contract.originalArrivalColumn)
      let key := sourceKey rt contract externalId
      require (key ∉ observed) (cutoverInvalid "cutover_source_identity_ambiguous")
      let rows ← readRows contract columns (key :: observed) payloads
      pure (⟨key, externalId, cutoverHash rt payload.json, originalArrivedAt, payload⟩ :: rows)

/-- An entry whose row is there: it has an issue once the row has changed. -/
def CutoverEntry.reread (old : CutoverEntry) (row : SourceRow) : CutoverEntry :=
  let changed := old.fingerprint ≠ row.fingerprint ∨ old.originalArrivedAt ≠ row.originalArrivedAt
  { old with issue := old.issue.or (if changed then some .SOURCE_CHANGED else none) }

def entryOf (contract : CutoverContract) (earlier : Dict String CutoverEntry) (row : SourceRow) :
    CutoverEntry :=
  match earlier.get row.key with
  | some old => old.reread row
  | none =>
    { key := row.key, externalId := row.externalId, fingerprint := row.fingerprint
      originalArrivedAt := row.originalArrivedAt
      classification :=
        if row.originalArrivedAt < contract.t0 then .EXCLUDED_PRE_T0 else .BACKLOG
      issue := none, decision := none, targetBootstrapRowId := none, payload := row.payload }

def CutoverEntry.removed (old : CutoverEntry) : CutoverEntry :=
  { old with issue := old.issue.or (some .SOURCE_REMOVED) }

/-- The entries of an inventory after a reading, in the order of their keys. -/
def observedEntries (contract : CutoverContract) (previous : List CutoverEntry)
    (rows : List SourceRow) : List CutoverEntry :=
  let earlier := Dict.ofList (previous.map fun entry => (entry.key, entry))
  let gone := previous.filter fun old => old.key ∉ rows.map SourceRow.key
  rows.map (entryOf contract earlier) ++ gone.map CutoverEntry.removed

/-- The inventory in the order of its keys. -/
def sortEntries (entries : List CutoverEntry) : List CutoverEntry :=
  entries.insertionSort fun a b => a.key ≤ b.key

def snapshotHash (entries : List CutoverEntry) : String :=
  cutoverHash rt (.arr (entries.map fun e => .obj [("key", .str e.key),
    ("fingerprint", .str e.fingerprint), ("originalArrivedAt", .str e.originalArrivedAt),
    ("issue", text? (e.issue.map Issue.text))]))

def headerHash (columns : List String) : String := cutoverHash rt (.arr (columns.map .str))

def observeCutover (contract : CutoverContract) (values : SheetValues)
    (previous : List CutoverEntry) (headerSha256 : Option String) : Outcome ObservedCutover := do
  require (values.columns ≠ [] ∧ values.columns.length ≤ 100 ∧ values.columns.Nodup ∧
      (∀ column ∈ values.columns, present column ∧ length column ≤ 200) ∧
      contract.externalIdColumn ∈ values.columns ∧ contract.originalArrivalColumn ∈ values.columns)
    (cutoverInvalid "cutover_source_columns_invalid")
  require (values.rows.length ≤ CUTOVER_ROW_LIMIT ∧ previous.length ≤ CUTOVER_ROW_LIMIT ∧
      byteLength values.json.stringify ≤ CUTOVER_BYTE_LIMIT)
    (cutoverInvalid "cutover_source_bound_exceeded")
  require (∀ digest ∈ headerSha256, digest = headerHash rt values.columns)
    (cutoverInvalid "cutover_source_headers_changed")
  let rows ← readRows rt contract values.columns [] values.rows
  let entries := observedEntries contract previous rows
  require (entries.length ≤ CUTOVER_ROW_LIMIT ∧
      byteLength (Json.arr (entries.map CutoverEntry.json)).stringify ≤ CUTOVER_BYTE_LIMIT)
    (cutoverInvalid "cutover_ledger_bound_exceeded")
  let entries := sortEntries entries
  pure ⟨headerHash rt values.columns, snapshotHash rt entries, rows.length, entries⟩

/-- `cutoverCounts(entries).overlapReview` -/
def overlapReview (entries : List CutoverEntry) : ℕ :=
  entries.countP fun e => e.classification = .BACKLOG ∧ e.decision = none

end CrmYnov.Cutover
