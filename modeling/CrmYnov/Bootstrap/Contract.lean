import CrmYnov.Base.Table
import CrmYnov.Platform.Failure
import CrmYnov.Platform.Runtime
import Mathlib.Data.List.Sort

/-!
# The contract of the historical import

The requests of the historical import, the shapes of the texts they may carry, and the
digest its ledger is compared by. A digest is taken of the text of a value whose members
are put in the order of their names (`CrmYnov.Bootstrap.hash`), so that it does not depend
on the order in which the database gives the members of a stored value back.

A request is read before it is checked: a member that the contract does not know, or whose
value is not of its type, has no place in these records, and what is left to check is what
the values are.
-/

namespace CrmYnov.Bootstrap

open Checked Js

/-- The functions of the runtime, with the order of the locale. -/
structure ImportRuntime extends Runtime where
  /-- `a.localeCompare(b) <= 0` -/
  collate : String → String → Bool

/-- A runtime to compute with: texts in the order of their characters. -/
def ImportRuntime.plain : ImportRuntime := ⟨.plain, fun a b => a ≤ b⟩

section Canonical

variable (collate : String → String → Bool)

mutual

/-- `canonical(value)`: the members of every object in the order of their names. -/
def canonical : Json → Json
  | .arr items => .arr (canonicalItems items)
  | .obj members => .obj ((canonicalMembers members).insertionSort fun a b => collate a.1 b.1)
  | value => value

def canonicalItems : List Json → List Json
  | [] => []
  | item :: items => canonical item :: canonicalItems items

def canonicalMembers : List (String × Json) → List (String × Json)
  | [] => []
  | (name, value) :: members => (name, canonical value) :: canonicalMembers members

end

end Canonical

/-- `hash(value)` -/
def hash (rt : ImportRuntime) (value : Json) : String :=
  rt.sha256 (Json.stringify (canonical rt.collate value))

/-! ### The shapes of texts -/

/-- `SHA` -/
def isSha (text : String) : Bool := fullMatch isHexDigit 64 64 text

/-- `KEY` -/
def isKey (text : String) : Bool :=
  headMatch isAlnum (fun c => isAlnum c || c == ':' || c == '_' || c == '-') 2 127 text

/-- `COLUMN` -/
def isColumn (text : String) : Bool := fullMatch isUpper 1 2 text

/-- The digest a workbook is known under. -/
abbrev Sha := { text : String // isSha text = true }

/-- The identifier of a row, as the database writes it. -/
abbrev Uuid := { text : String // Canonical text }

def Uuid.read (text : String) : Option Uuid :=
  match h : readUuid text with
  | some id => some ⟨id, canonical_of_read h⟩
  | none => none

theorem Uuid.val_of_read {text : String} {id : Uuid} (h : Uuid.read text = some id) :
    readUuid text = some id.val := by
  rw [Uuid.read] at h
  split at h
  · rename_i value hread
    rw [hread, ← Option.some.inj h]
  · cases h

theorem Uuid.read_of_val {text : String} {id : Uuid} (h : readUuid text = some id.val) :
    Uuid.read text = some id := by
  rw [Uuid.read]
  split
  · rename_i value hread
    exact congrArg some (Subtype.ext (Option.mem_unique hread h))
  · rename_i hread
    rw [hread] at h
    cases h

/-- **The database reads its own identifiers back.** -/
@[simp] theorem Uuid.read_val (id : Uuid) : Uuid.read id.val = some id :=
  Uuid.read_of_val id.property

theorem isUuidText_of_read {text : String} {id : Uuid} (h : Uuid.read text = some id) :
    isUuidText text = true := by
  have hread := Uuid.val_of_read h
  rw [readUuid] at hread
  split at hread
  · assumption
  · cases hread

theorem Uuid.isUuidText (id : Uuid) : isUuidText id.val = true := isUuidText_of_read id.read_val

/-- `refuse(code)` -/
def refuse (code : String) : Failure := .badRequest code

/-- An exception about the values of a row. -/
def unprocessable (code : String) : Failure := .http .unprocessableEntity code

/-! ### Mappings -/

/-- `HISTORICAL_SHEETS` -/
def historicalSheets : List String :=
  ["VISITES ET APPELS", "LEADS YNOV.COM", "LEADS YNOV.MA", "JOBINTECH REACT"]

/-- `IMPORT_FIELDS` -/
def importFields : List String :=
  ["firstName", "lastName", "email", "phone", "program", "educationLevel", "source", "status",
    "temperature", "owner", "replacementOwner", "receivedDate"]

structure ExcludedColumn where
  (column reason : String)

/-- `HistoricalSheetMapping`: the columns of the fields, those of the comments, and the
owners the texts of a sheet name. -/
structure HistoricalSheetMapping where
  (name campaign : String)
  fields : Dict String String
  commentColumns : List String
  ownerAliases : Dict String String
  excludedColumns : Option (List ExcludedColumn) := none

structure HistoricalMappingInput where
  expectedVersion : ℤ
  mappingVersion : String
  sheets : List HistoricalSheetMapping

def textsJson (texts : Dict String String) : Json :=
  .obj (texts.entries.rows.map fun e => (e.1, .str e.2))

namespace HistoricalSheetMapping

variable (sheet : HistoricalSheetMapping)

def included : List String :=
  sheet.fields.values ++ sheet.commentColumns

def excluded : List String :=
  (sheet.excludedColumns.getD []).map ExcludedColumn.column

def hasField (key : String) : Prop :=
  (sheet.fields.get key).any (fun column => column != "") = true
deriving Decidable

def json : Json :=
  .present [("name", some (.str sheet.name)), ("campaign", some (.str sheet.campaign)),
    ("fields", some (textsJson sheet.fields)),
    ("commentColumns", some (.arr (sheet.commentColumns.map .str))),
    ("ownerAliases", some (textsJson sheet.ownerAliases)),
    ("excludedColumns", sheet.excludedColumns.map fun columns =>
      .arr (columns.map fun item => .obj [("column", .str item.column), ("reason", .str item.reason)]))]

end HistoricalSheetMapping

/-- `hash({ ...input, expectedVersion: undefined })` -/
def HistoricalMappingInput.fingerprint (rt : ImportRuntime) (input : HistoricalMappingInput) :
    String :=
  hash rt (.obj [("mappingVersion", .str input.mappingVersion),
    ("sheets", .arr (input.sheets.map HistoricalSheetMapping.json))])

def assertSheetMapping (sheet : HistoricalSheetMapping) : Outcome Unit := do
  require (sheet.name ∈ historicalSheets ∧ length sheet.campaign ≤ 120 ∧
      present sheet.campaign ∧
      (∀ e ∈ sheet.fields.entries.rows, e.1 ∈ importFields ∧ isColumn e.2) ∧
      sheet.hasField "firstName" ∧ sheet.hasField "lastName" ∧
      (sheet.hasField "email" ∨ sheet.hasField "phone") ∧
      sheet.commentColumns.length ≤ 10 ∧ sheet.commentColumns.Nodup ∧
      (∀ column ∈ sheet.commentColumns, isColumn column) ∧
      sheet.ownerAliases.values.length ≤ 120 ∧
      ∀ e ∈ sheet.ownerAliases.entries.rows,
        present e.1 ∧ length e.1 ≤ 120 ∧ isUuidText e.2)
    (refuse "bootstrap_mapping_invalid")
  require ((sheet.excludedColumns.getD []).length ≤ 100 ∧
      (∀ item ∈ sheet.excludedColumns.getD [], isColumn item.column ∧
        8 ≤ length (trim item.reason) ∧ length item.reason ≤ 500) ∧
      sheet.excluded.Nodup)
    (refuse "bootstrap_mapping_invalid")
  require (∀ column ∈ sheet.excluded, column ∉ sheet.included)
    (refuse "bootstrap_mapping_overlap_invalid")

def assertMapping (input : HistoricalMappingInput) : Outcome Unit := do
  require (input.mappingVersion = "R8-v1" ∧ 1 ≤ input.expectedVersion ∧ input.sheets.length = 4 ∧
      (input.sheets.map HistoricalSheetMapping.name).Nodup)
    (refuse "bootstrap_mapping_invalid")
  input.sheets.forM assertSheetMapping

/-! ### Decisions -/

/-- `HistoricalCycle["state"]` -/
inductive CycleState
  | UNSPECIFIED | CONFIRMED_TARGET | HISTORICAL_ENROLMENT | REVIEW
deriving DecidableEq

def CycleState.text : CycleState → String
  | UNSPECIFIED => "UNSPECIFIED"
  | CONFIRMED_TARGET => "CONFIRMED_TARGET"
  | HISTORICAL_ENROLMENT => "HISTORICAL_ENROLMENT"
  | REVIEW => "REVIEW"

structure HistoricalCycle where
  state : CycleState
  label : Option String := none
  sourceColumns : List String
  reason : String

inductive AnnotationAction
  | PRESERVE_NOTE | EXCLUDE
deriving DecidableEq

def AnnotationAction.text : AnnotationAction → String
  | PRESERVE_NOTE => "PRESERVE_NOTE"
  | EXCLUDE => "EXCLUDE"

structure HistoricalAnnotationDecision where
  (annotationId reference relationshipId : String)
  action : AnnotationAction
  reason : String

inductive DecisionAction
  | CREATE_DOSSIER | LINK_EXISTING | IGNORE | DEFER
deriving DecidableEq

def DecisionAction.text : DecisionAction → String
  | CREATE_DOSSIER => "CREATE_DOSSIER"
  | LINK_EXISTING => "LINK_EXISTING"
  | IGNORE => "IGNORE"
  | DEFER => "DEFER"

structure HistoricalDecisionInput where
  expectedVersion : ℤ
  idempotencyKey : String
  action : DecisionAction
  confirmed : Option Bool := none
  targetLeadId : Option String := none
  reason : String
  cycle : Option HistoricalCycle := none
  annotations : Option (List HistoricalAnnotationDecision) := none
  overrides : Option (Dict String String) := none

def overrideFields : List String :=
  ["firstName", "lastName", "email", "phone", "program", "educationLevel", "source", "status",
    "temperature", "ownerId", "campaign"]

def HistoricalCycle.json (cycle : HistoricalCycle) : Json :=
  .present [("state", some (.str cycle.state.text)), ("label", cycle.label.map .str),
    ("sourceColumns", some (.arr (cycle.sourceColumns.map .str))),
    ("reason", some (.str cycle.reason))]

def HistoricalAnnotationDecision.json (item : HistoricalAnnotationDecision) : Json :=
  .obj [("annotationId", .str item.annotationId), ("reference", .str item.reference),
    ("relationshipId", .str item.relationshipId), ("action", .str item.action.text),
    ("reason", .str item.reason)]

namespace HistoricalDecisionInput

/-- `decision.overrides?.[field]` -/
def override (input : HistoricalDecisionInput) (field : String) : Option String :=
  input.overrides.bind fun texts => texts.get field

/-- The members of a decision, its expected version apart. -/
def members (input : HistoricalDecisionInput) : List (String × Option Json) :=
  [("idempotencyKey", some (.str input.idempotencyKey)), ("action", some (.str input.action.text)),
    ("confirmed", input.confirmed.map .bool), ("targetLeadId", input.targetLeadId.map .str),
    ("reason", some (.str input.reason)), ("cycle", input.cycle.map HistoricalCycle.json),
    ("annotations", input.annotations.map fun items =>
      .arr (items.map HistoricalAnnotationDecision.json)),
    ("overrides", input.overrides.map textsJson)]

/-- `isDeferralInput` -/
def isDeferral (input : HistoricalDecisionInput) : Prop :=
  input.action = .DEFER ∧ input.confirmed = some true ∧ input.targetLeadId = none ∧
    input.cycle = none ∧ input.annotations = none ∧ input.overrides.isNone
deriving Decidable

def Wellformed (input : HistoricalDecisionInput) : Prop :=
  isKey input.idempotencyKey ∧ 1 ≤ input.expectedVersion ∧ 8 ≤ length (trim input.reason) ∧
    length input.reason ≤ 1000 ∧
    (if input.action = .LINK_EXISTING then isUuidText (input.targetLeadId.getD "") = true
      else input.targetLeadId = none) ∧
    (if input.action = .DEFER then input.isDeferral else input.confirmed = none) ∧
    ∀ e ∈ (input.overrides.getD .empty).entries.rows, e.1 ∈ overrideFields ∧ length e.2 ≤ 254
deriving Decidable

end HistoricalDecisionInput

/-! ### Confirmations, blocks and reopenings -/

structure BootstrapConfirmInput where
  expectedVersion : ℤ
  idempotencyKey : String
  confirmed : Bool
  limit : Option ℤ := none
  rowIds : Option (List String) := none

namespace BootstrapConfirmInput

/-- `input.limit ?? 25` -/
def take (input : BootstrapConfirmInput) : ℤ := input.limit.getD 25

/-- `hash(input)` -/
def fingerprint (rt : ImportRuntime) (input : BootstrapConfirmInput) : String :=
  hash rt (.present [("expectedVersion", some (.int input.expectedVersion)),
    ("idempotencyKey", some (.str input.idempotencyKey)), ("confirmed", some (.bool input.confirmed)),
    ("limit", input.limit.map .int), ("rowIds", input.rowIds.map fun ids => .arr (ids.map .str))])

def check (input : BootstrapConfirmInput) : Outcome Unit := do
  require (input.confirmed ∧ isKey input.idempotencyKey ∧ 1 ≤ input.expectedVersion ∧
      1 ≤ input.take ∧ input.take ≤ 25)
    (refuse "bootstrap_confirmation_invalid")
  require (∀ ids ∈ input.rowIds, ids ≠ [] ∧ (ids.length : ℤ) ≤ input.take ∧
      (∀ id ∈ ids, isUuidText id) ∧ ids.Nodup)
    (refuse "bootstrap_confirmation_rows_invalid")

end BootstrapConfirmInput

/-- A row of a block: which it is, what it reads, and what is decided about it. -/
structure BootstrapBlockItem where
  (rowId fingerprint : String)
  decision : HistoricalDecisionInput

structure BootstrapBlockInput where
  expectedVersion : ℤ
  (sha256 idempotencyKey : String)
  confirmed : Bool
  items : List BootstrapBlockItem

namespace BootstrapBlockInput

/-- `hash(input)` -/
def fingerprint (rt : ImportRuntime) (input : BootstrapBlockInput) : String :=
  hash rt (.obj [("expectedVersion", .int input.expectedVersion), ("sha256", .str input.sha256),
    ("idempotencyKey", .str input.idempotencyKey), ("confirmed", .bool input.confirmed),
    ("items", .arr (input.items.map fun item => .obj [("rowId", .str item.rowId),
      ("fingerprint", .str item.fingerprint),
      ("decision", .present (("expectedVersion", some (.int item.decision.expectedVersion)) ::
        item.decision.members))]))])

def check (input : BootstrapBlockInput) : Outcome Unit :=
  require (input.confirmed ∧ 1 ≤ input.expectedVersion ∧ isKey input.idempotencyKey ∧
      isSha input.sha256 ∧ input.items ≠ [] ∧ input.items.length ≤ 25 ∧
      (∀ item ∈ input.items, isUuidText item.rowId ∧ isSha item.fingerprint) ∧
      (input.items.map BootstrapBlockItem.rowId).Nodup)
    (refuse "bootstrap_block_invalid")

end BootstrapBlockInput

structure BootstrapReopenInput where
  expectedVersion : ℤ
  (idempotencyKey reason : String)

namespace BootstrapReopenInput

/-- `hash({ ...input, rowId, actorId })` -/
def fingerprint (rt : ImportRuntime) (input : BootstrapReopenInput) (rowId actorId : String) :
    String :=
  hash rt (.obj [("expectedVersion", .int input.expectedVersion),
    ("idempotencyKey", .str input.idempotencyKey), ("reason", .str input.reason),
    ("rowId", .str rowId), ("actorId", .str actorId)])

def check (input : BootstrapReopenInput) : Outcome Unit :=
  require (1 ≤ input.expectedVersion ∧ isKey input.idempotencyKey ∧
      8 ≤ length (trim input.reason) ∧ length input.reason ≤ 1000)
    (refuse "bootstrap_reopen_invalid")

end BootstrapReopenInput

end CrmYnov.Bootstrap
