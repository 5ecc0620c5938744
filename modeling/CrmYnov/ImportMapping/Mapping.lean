import CrmYnov.Base.Machine
import CrmYnov.Ingestion.Types
import CrmYnov.Js.Date

/-!
# Import mappings

A mapping says which field of a lead each column of an import gives, and how its cells are read.
Whatever it accepts as a target reaches the record of a row, but for the comments
(`CrmYnov.ImportMapping.keeps_iff`). The versions of a mapping are only added to
(`CrmYnov.ImportMapping.versions_kept`).
-/

namespace CrmYnov.ImportMapping

open Checked Leads Ingestion

inductive CrmImportTarget
  | firstName | lastName | email | phone | educationLevel | program | campus | campaign
  | externalId | historicalStatus | occurredAt | comment
deriving DecidableEq

inductive MappingAction
  | DIRECT | TRIM | LOWERCASE | PHONE | DATE | METADATA | IGNORE
deriving DecidableEq

structure ImportMappingColumnInput where
  sourceColumn : String
  targetField : Option CrmImportTarget := none
  action : MappingAction
  required : Option Bool := none
  reason : Option String := none

structure SaveImportMappingInput where
  (mappingKey name profile : String)
  expectedVersion : ℤ
  columns : List ImportMappingColumnInput

/-- A mapping that has been saved, or the snapshot of one. -/
structure ImportMappingTemplate where
  (id mappingKey name profile : String)
  version : ℤ
  columns : List ImportMappingColumnInput

structure ImportContext where
  (source technicalSystem originalSource : String)
  (recentSource campus campaign educationLevel program : Option String)

structure ImportDryRunInput where
  mappingKey : String
  mappingVersion : ℤ
  sourceColumns : List String
  rows : List (Dict String String)
  context : ImportContext

/-! ### What is accepted -/

/-- `/^[a-z][a-z0-9-]{2,63}$/` -/
def isMappingKey (key : String) : Bool :=
  Js.headMatch Js.isLower (fun c => Js.isLower c || Js.isDigit c || c == '-') 2 63 key

def mappingProfiles : List String :=
  ["LEGACY_CRM", "FORMINATOR_ZAPIER", "YNOV_COM", "JOBINTECH", "LEGACY_RELAUNCH", "OTHER_CAMPAIGN",
    "CUSTOM"]

/-- The column has a target when it is imported, and a reason when it is not. -/
def ActionFits (column : ImportMappingColumnInput) : Prop :=
  let nonImport := column.action = .IGNORE ∨ column.action = .METADATA
  (nonImport ↔ column.targetField = none) ∧ (nonImport → column.reason.any Js.present)
deriving Decidable

def validateMapping (input : SaveImportMappingInput) : Outcome Unit := do
  let sources := input.columns.map fun column => Js.trim column.sourceColumn
  let targets := input.columns.filterMap ImportMappingColumnInput.targetField
  require (isMappingKey input.mappingKey ∧ Js.present input.name ∧
    Js.length (Js.trim input.name) ≤ 100) (.badRequest "mapping_identity_invalid")
  require (input.profile ∈ mappingProfiles) (.badRequest "mapping_profile_invalid")
  require (0 ≤ input.expectedVersion) (.badRequest "mapping_expected_version_invalid")
  require (input.columns ≠ [] ∧ input.columns.length ≤ 100) (.badRequest "mapping_columns_invalid")
  require ((∀ source ∈ sources, source ≠ "" ∧ Js.length source ≤ 200) ∧ sources.Nodup)
    (.badRequest "mapping_source_column_invalid")
  require targets.Nodup (.badRequest "mapping_target_duplicate_or_invalid")
  require (∀ column ∈ input.columns, ActionFits column)
    (.badRequest "mapping_action_target_invalid")
  require (.firstName ∈ targets ∧ .lastName ∈ targets)
    (.badRequest "mapping_required_target_missing")
  require (.email ∈ targets ∨ .phone ∈ targets ∨ .externalId ∈ targets)
    (.badRequest "mapping_identity_target_missing")

def looksLikeFormula (value : String) : Bool :=
  (value.toList.dropWhile Js.isSpace).head?.any fun c => c ∈ ['=', '+', '-', '@']

/-- `/^\+?[\d\s().-]*$/` -/
def isSafePhone (value : String) : Bool :=
  let rest := if value.toList.head? = some '+' then value.toList.tail else value.toList
  rest.all fun c => Js.isDigit c || Js.isSpace c || c ∈ ['(', ')', '.', '-']

def validateRow (columns : List ImportMappingColumnInput) (row : Dict String String) :
    Outcome Unit := do
  let expected := columns.map ImportMappingColumnInput.sourceColumn
  require (row.entries.rows.length = expected.length ∧ ∀ e ∈ row.entries.rows, e.1 ∈ expected)
    (.badRequest "dry_run_unknown_column")
  require (∀ column ∈ columns, (row.get column.sourceColumn).any fun value =>
    Js.length value ≤ 4000 &&
      (!looksLikeFormula value || column.action == .PHONE && isSafePhone value))
    (.badRequest "dry_run_cell_refused")

def validateDryRun (input : ImportDryRunInput) (mapping : ImportMappingTemplate) :
    Outcome Unit := do
  require (input.rows ≠ [] ∧ input.rows.length ≤ 100) (.badRequest "dry_run_rows_invalid")
  require (input.sourceColumns = mapping.columns.map ImportMappingColumnInput.sourceColumn)
    (.badRequest "dry_run_columns_mismatch")
  input.rows.forM (validateRow mapping.columns)

/-- The mapping passes the validation that `save` and `snapshot` begin with. -/
def Accepted (mapping : ImportMappingTemplate) : Prop :=
  ∃ input, validateMapping input = .ok () ∧ input.columns = mapping.columns

/-! ### Records -/

variable (rt : Runtime)

def transform (value : String) : MappingAction → String
  | .LOWERCASE => rt.unicode.toLowerCase (Js.trim value)
  | .PHONE => String.ofList (value.toList.filter fun c => c == '+' || Js.isDigit c)
  | .DATE => ((rt.parseDate (Js.trim value)).map Js.isoString).getD (Js.trim value)
  | _ => Js.trim value

/-- The value of a cell: a required one that is blank has none. -/
def cellValue (row : Dict String String) (column : ImportMappingColumnInput) : String :=
  let raw := (row.get column.sourceColumn).getD ""
  if column.required = some true ∧ ¬Js.present raw then "" else transform rt raw column.action

def rowValues (row : Dict String String) (columns : List ImportMappingColumnInput) :
    Dict CrmImportTarget String :=
  .ofList (columns.filterMap fun column => column.targetField.map fun target =>
    (target, cellValue rt row column))

def toRecord (row : Dict String String) (lineNumber : ℤ) (mapping : ImportMappingTemplate)
    (context : ImportContext) : IngestionRecordInput :=
  let values := (rowValues rt row mapping.columns).get
  let given target := nonEmpty (values target)
  { lineNumber
    firstName := (values .firstName).getD ""
    lastName := (values .lastName).getD ""
    email := given .email
    phone := given .phone
    campus := given .campus <|> context.campus
    campaign := given .campaign <|> context.campaign
    educationLevel := given .educationLevel <|> context.educationLevel
    program := given .program <|> context.program
    source := context.source
    technicalSystem := context.technicalSystem
    originalSource := context.originalSource
    recentSource := nonEmpty context.recentSource
    externalId := given .externalId
    historicalStatus := given .historicalStatus
    occurredAt := given .occurredAt }

def records (input : ImportDryRunInput) (mapping : ImportMappingTemplate) :
    List IngestionRecordInput :=
  input.rows.zipIdx.map fun (row, index) => toRecord rt row (index + 1) mapping input.context

/-- The records that `dryRun` hands on, with the version of the mapping that it finds. -/
def dryRunRecords (principal : Principal) (found : Option ImportMappingTemplate)
    (input : ImportDryRunInput) : Outcome (List IngestionRecordInput) := do
  require (principal.hasSome Principal.managers) (.forbidden "import_mapping_role_forbidden")
  let mapping ← demand found (.notFound "mapping_version_not_found")
  validateDryRun input mapping
  pure (records rt input mapping)

/-- The records that `confirm` hands on. -/
def confirmRecords (principal : Principal) (persistent confirmed : Bool) (sourceFileSha256 : String)
    (found : Option ImportMappingTemplate) (input : ImportDryRunInput) :
    Outcome (List IngestionRecordInput) := do
  require (principal.hasSome Principal.managers) (.forbidden "import_mapping_role_forbidden")
  require (confirmed ∧ Js.fullMatch Js.isHexDigit 64 64 sourceFileSha256)
    (.badRequest "import_confirmation_invalid")
  require persistent (.conflict "persistent_import_unavailable")
  dryRunRecords rt principal found input

/-- The identifier of a snapshot is a digest of what it says. -/
def recordsFromSnapshot (snapshotId : String → ℤ → List ImportMappingColumnInput → String)
    (mapping : ImportMappingTemplate) (input : ImportDryRunInput) :
    Outcome (List IngestionRecordInput) := do
  validateMapping ⟨mapping.mappingKey, mapping.name, mapping.profile, mapping.version - 1,
    mapping.columns⟩
  require (mapping.id = snapshotId mapping.mappingKey mapping.version mapping.columns ∧
    input.mappingKey = mapping.mappingKey ∧ input.mappingVersion = mapping.version)
    (.badRequest "mapping_snapshot_invalid")
  validateDryRun input mapping
  pure (records rt input mapping)

/-! ### What reaches the records -/

/-- What a record has under the name of a target. -/
def recordField (record : IngestionRecordInput) : CrmImportTarget → Option String
  | .firstName => some record.firstName
  | .lastName => some record.lastName
  | .email => record.email
  | .phone => record.phone
  | .educationLevel => record.educationLevel
  | .program => record.program
  | .campus => record.campus
  | .campaign => record.campaign
  | .externalId => record.externalId
  | .historicalStatus => record.historicalStatus
  | .occurredAt => record.occurredAt
  | .comment => none

/-- The values of a row that are not empty are in a record. -/
def Keeps (mapping : ImportMappingTemplate) (row : Dict String String)
    (record : IngestionRecordInput) : Prop :=
  ∀ column ∈ mapping.columns, ∀ target, column.targetField = some target →
    cellValue rt row column ≠ "" → recordField record target = some (cellValue rt row column)

variable {rt} {mapping : ImportMappingTemplate}

theorem of_dryRun {principal : Principal} {found : ImportMappingTemplate}
    {input : ImportDryRunInput} {given : List IngestionRecordInput}
    (h : dryRunRecords rt principal (some found) input = .ok given) :
    given = records rt input found := by
  simp only [dryRunRecords, ok_iff, exists_const] at h
  obtain ⟨-, _, hfound, _, -, hgiven⟩ := h
  cases hfound
  exact hgiven.symm

theorem of_confirm {principal : Principal} {persistent confirmed : Bool} {sha : String}
    {found : ImportMappingTemplate} {input : ImportDryRunInput} {given : List IngestionRecordInput}
    (h : confirmRecords rt principal persistent confirmed sha (some found) input = .ok given) :
    given = records rt input found := by
  simp only [confirmRecords, ok_iff, exists_const] at h
  obtain ⟨-, -, -, hgiven⟩ := h
  exact of_dryRun hgiven

theorem of_snapshot {snapshotId : String → ℤ → List ImportMappingColumnInput → String}
    {input : ImportDryRunInput} {given : List IngestionRecordInput}
    (h : recordsFromSnapshot rt snapshotId mapping input = .ok given) :
    given = records rt input mapping := by
  simp only [recordsFromSnapshot, ok_iff, exists_const] at h
  obtain ⟨_, -, -, _, -, hgiven⟩ := h
  exact hgiven.symm

/-- The records depend on the columns, the rows and the context only. -/
theorem records_congr {other : ImportMappingTemplate} {input input' : ImportDryRunInput}
    (hcolumns : mapping.columns = other.columns) (hrows : input.rows = input'.rows)
    (hcontext : input.context = input'.context) :
    records rt input mapping = records rt input' other := by
  simp only [records, toRecord, hcolumns, hrows, hcontext]

theorem Accepted.nodup (h : Accepted mapping) :
    (mapping.columns.filterMap ImportMappingColumnInput.targetField).Nodup := by
  obtain ⟨input, hinput, hcolumns⟩ := h
  simp only [validateMapping, ok_iff, exists_const] at hinput
  obtain ⟨-, -, -, -, -, hnodup, -⟩ := hinput
  exact hcolumns ▸ hnodup

/-- Each target has the value of its column. -/
theorem rowValues_get {columns : List ImportMappingColumnInput} {row : Dict String String}
    (h : (columns.filterMap ImportMappingColumnInput.targetField).Nodup)
    {column : ImportMappingColumnInput} (hcolumn : column ∈ columns) {target : CrmImportTarget}
    (htarget : column.targetField = some target) :
    (rowValues rt row columns).get target = some (cellValue rt row column) := by
  refine (Dict.get_ofList ?_).mpr (List.mem_filterMap.mpr ⟨column, hcolumn, by rw [htarget]; rfl⟩)
  rw [List.map_filterMap]
  convert h using 2 with other
  cases other.targetField <;> rfl

/-- **Nothing that is accepted is lost but the comments**: a run keeps every value of its rows
exactly when none of them is a comment. The manual paths and the snapshots make the same records of
the same columns, rows and context. -/
theorem keeps_iff (h : Accepted mapping) (input : ImportDryRunInput) :
    ((∀ row ∈ input.rows, ∀ line,
        Keeps rt mapping row (toRecord rt row line mapping input.context)) ∧
      ∀ principal persistent confirmed sha found other snapshotId given given',
        mapping.columns = found.columns → input.rows = other.rows → input.context = other.context →
        recordsFromSnapshot rt snapshotId mapping input = .ok given →
        (dryRunRecords rt principal (some found) other = .ok given' ∨
          confirmRecords rt principal persistent confirmed sha (some found) other = .ok given') →
        given = given') ↔
      ∀ row ∈ input.rows, ∀ column ∈ mapping.columns, column.targetField = some .comment →
        cellValue rt row column = "" := by
  constructor
  · rintro ⟨hkeeps, -⟩ row hrow column hcolumn htarget
    by_contra hne
    cases hkeeps row hrow 1 column hcolumn .comment htarget hne
  · intro hcomment
    constructor
    · intro row hrow line column hcolumn target htarget hne
      have hget := @rowValues_get rt _ row h.nodup _ hcolumn _ htarget
      have hgiven : nonEmpty (some (cellValue rt row column)) = some (cellValue rt row column) := by
        simp [nonEmpty, hne]
      cases target with
      | comment => exact absurd (hcomment row hrow column hcolumn htarget) hne
      | _ => simp [recordField, toRecord, hget, hgiven]
    · intro principal persistent confirmed sha found other snapshotId given given' hcolumns hrows
        hcontext hsnapshot hmanual
      have hgiven' : given' = records rt other found := hmanual.elim of_dryRun of_confirm
      rw [of_snapshot hsnapshot, hgiven', records_congr hcolumns hrows hcontext]

namespace Sample

def input : SaveImportMappingInput where
  mappingKey := "legacy"
  name := "Legacy"
  profile := "CUSTOM"
  expectedVersion := 0
  columns := [⟨"NOM", some .lastName, .TRIM, none, none⟩,
    ⟨"PRENOM", some .firstName, .TRIM, none, none⟩, ⟨"EMAIL", some .email, .LOWERCASE, none, none⟩,
    ⟨"COMMENTAIRE 1", some .comment, .TRIM, none, none⟩]

def template : ImportMappingTemplate := ⟨"", "legacy", "Legacy", "CUSTOM", 1, input.columns⟩

def row (comment : String) : Dict String String :=
  .ofList [("NOM", "Lovelace"), ("PRENOM", "Ada"), ("EMAIL", "ada@example.org"),
    ("COMMENTAIRE 1", comment)]

def run (comment : String) : ImportDryRunInput where
  mappingKey := "legacy"
  mappingVersion := 1
  sourceColumns := input.columns.map ImportMappingColumnInput.sourceColumn
  rows := [row comment]
  context := ⟨"LEGACY_IMPORT", "EXCEL", "EXCEL", none, none, none, none, none⟩

end Sample

/-- A row without a comment keeps its values. -/
theorem keeps_iff_blank : Keeps .plain Sample.template (Sample.row "")
    (toRecord .plain (Sample.row "") 1 Sample.template (Sample.run "").context) :=
  ((keeps_iff ⟨Sample.input, by decide, rfl⟩ (Sample.run "")).mpr (by decide)).1 _
    List.mem_cons_self 1

/-- A comment that the validation accepts is not in the record. -/
theorem comment_lost : Accepted Sample.template ∧
    validateDryRun (Sample.run "Rappeler") Sample.template = .ok () ∧
    ∃ line, ¬Keeps .plain Sample.template (Sample.row "Rappeler")
      (toRecord .plain (Sample.row "Rappeler") line Sample.template (Sample.run "").context) := by
  refine ⟨⟨Sample.input, by decide, rfl⟩, by decide, 1, fun h => ?_⟩
  have hcolumn : ⟨"COMMENTAIRE 1", some .comment, .TRIM, none, none⟩ ∈ Sample.template.columns := by
    simp [Sample.template, Sample.input]
  cases h _ hcolumn .comment rfl (by decide)

/-! ### The versions -/

structure StoredMapping extends ImportMappingTemplate where
  builtIn : Bool
  (createdAt createdBy : String)

abbrev Mappings := Dict String (List StoredMapping)

/-- A call of `save`, with the text of its columns. -/
structure SaveCall where
  input : SaveImportMappingInput
  columnsText : String
  principal : Principal
  now : Instant

def versionsOf (mappings : Mappings) (mappingKey : String) : List StoredMapping :=
  (mappings.get mappingKey).getD []

def getVersion (mappings : Mappings) (mappingKey : String) (version : ℤ) : Outcome StoredMapping :=
  demand ((versionsOf mappings mappingKey).find? fun item => item.version = version)
    (.notFound "mapping_version_not_found")

section Store

variable (mappingId : String → ℤ → String → String)

def builtIn (mappingKey name profile : String) (columns : List ImportMappingColumnInput × String) :
    StoredMapping :=
  { id := mappingId mappingKey 1 columns.2, mappingKey, name, profile, version := 1,
    columns := columns.1, builtIn := true, createdAt := "2026-08-23T00:00:00.000Z",
    createdBy := "SYSTEM" }

/-- What the service begins with, for the columns of the two mappings and their texts. -/
def builtIns (form legacy : List ImportMappingColumnInput × String) : Mappings :=
  .ofList [("forminator-zapier-v1", [builtIn mappingId "forminator-zapier-v1"
      "Forminator / Zapier" "FORMINATOR_ZAPIER" form]),
    ("legacy-crm-canonical-v1", [builtIn mappingId "legacy-crm-canonical-v1"
      "LEADS YNOV.MA canonique" "LEGACY_CRM" legacy])]

def save (mappings : Mappings) (call : SaveCall) : Outcome (StoredMapping × Mappings) := do
  let { input, columnsText, principal, now } := call
  require (principal.hasSome Principal.managers) (.forbidden "import_mapping_role_forbidden")
  validateMapping input
  let versions := versionsOf mappings input.mappingKey
  require (∀ version ∈ versions, ¬version.builtIn) (.conflict "mapping_builtin_immutable")
  let currentVersion := ((versions.map fun version => version.version).getLast?).getD 0
  require (input.expectedVersion = currentVersion) (.conflict "mapping_version_conflict")
  let mapping : StoredMapping :=
    { id := mappingId input.mappingKey (currentVersion + 1) columnsText
      mappingKey := input.mappingKey
      name := Js.trim input.name
      profile := input.profile
      version := currentVersion + 1
      columns := input.columns
      builtIn := false
      createdAt := Js.isoString now
      createdBy := principal.userId }
  pure (mapping, mappings.set input.mappingKey (versions ++ [mapping]))

def store : Machine Mappings SaveCall (Outcome StoredMapping) where
  step mappings call := match save mappingId mappings call with
    | .ok (mapping, mappings') => (.ok mapping, mappings')
    | .error e => (.error e, mappings)

end Store

/-- The mappings of a key that have been answered. -/
def answered (key : String) (trace : List (Outcome StoredMapping)) : List StoredMapping :=
  trace.filterMap fun
    | .ok mapping => if mapping.mappingKey = key then some mapping else none
    | .error _ => none

/-- The versions are numbered from 1. -/
def Numbered (versions : List StoredMapping) : Prop :=
  (versions.map fun version => version.version) =
    (List.range versions.length).map fun i : ℕ => (i : ℤ) + 1

variable {mappingId : String → ℤ → String → String} {s : Mappings}

theorem Numbered.current {versions : List StoredMapping} (h : Numbered versions) :
    ((versions.map fun version => version.version).getLast?).getD 0 = versions.length := by
  rw [h, List.getLast?_map, List.getLast?_range]
  split <;> simp <;> omega

/-- The versions that are added to those of a key. -/
structure Adds (key : String) (before added after : List StoredMapping) : Prop where
  after_eq : after = before ++ added
  numbered : Numbered after
  refused : ∀ old ∈ before, old.builtIn → added = []
  valid : ∀ m ∈ added,
    validateMapping ⟨key, m.name, m.profile, m.version - 1, m.columns⟩ = .ok ()

theorem Adds.none {key : String} {versions : List StoredMapping} (h : Numbered versions) :
    Adds key versions [] versions :=
  ⟨(List.append_nil _).symm, h, fun _ _ _ => rfl, fun _ hm => nomatch hm⟩

theorem versionsOf_set (key key' : String) (versions : List StoredMapping) :
    versionsOf (s.set key versions) key' = if key' = key then versions else versionsOf s key' := by
  rw [versionsOf, Dict.get_set]
  split <;> rfl

theorem step_adds (hs : ∀ key, Numbered (versionsOf s key)) (call : SaveCall) (key : String) :
    Adds key (versionsOf s key) (answered key [(store mappingId).answer s call])
      (versionsOf ((store mappingId).next s call) key) := by
  cases h : save mappingId s call with
  | error e =>
    simp only [Machine.answer, Machine.next, store, h]
    exact .none (hs key)
  | ok saved =>
    obtain ⟨m, s'⟩ := saved
    have hstep : (store mappingId).step s call = (.ok m, s') := by simp only [store, h]
    simp only [save, (hs _).current, ok_iff, exists_const] at h
    obtain ⟨-, _, hvalid, hbuiltIn, hexpected, hm, rfl⟩ := h
    have hkey : m.mappingKey = call.input.mappingKey := by rw [← hm]
    simp only [answered, Machine.answer, Machine.next, hstep, List.filterMap, hkey, versionsOf_set]
    by_cases hk : call.input.mappingKey = key
    · subst hk
      simp only [if_true, hm]
      refine ⟨rfl, ?_, fun old hold hold' => absurd hold' (hbuiltIn old hold), fun m' hm' => ?_⟩
      · rw [Numbered, List.map_append, hs, List.length_append, List.length_singleton,
          List.range_succ, List.map_append, ← hm]
        rfl
      · obtain rfl := List.mem_singleton.mp hm'
        simpa [← hm, ← hexpected, validateMapping, Js.present] using hvalid
    · simp only [hk, Ne.symm hk, if_false]
      exact .none (hs key)

theorem run_adds (hs : ∀ key, Numbered (versionsOf s key)) (calls : List SaveCall) (key : String) :
    Adds key (versionsOf s key) (answered key ((store mappingId).trace s calls))
      (versionsOf ((store mappingId).run s calls) key) := by
  induction calls generalizing s with
  | nil => exact .none (hs key)
  | cons call calls ih =>
    have hstep := @step_adds mappingId s hs call
    have hrest := ih fun key => (hstep key).numbered
    rw [(hstep key).after_eq] at hrest
    have hsplit : answered key ((store mappingId).trace s (call :: calls)) =
        answered key [(store mappingId).answer s call] ++
          answered key ((store mappingId).trace ((store mappingId).next s call) calls) :=
      List.filterMap_append (l := [_]) ..
    rw [hsplit]
    refine ⟨hrest.after_eq.trans (List.append_assoc ..), hrest.numbered, fun old hold hb => ?_,
      fun m hm => (List.mem_append.mp hm).elim ((hstep key).valid m) (hrest.valid m)⟩
    rw [(hstep key).refused old hold hb,
      hrest.refused old (List.mem_append_left _ hold) hb, List.append_nil]

/-- **The versions of a mapping are those that were answered**: in whatever order the service is
called, they are numbered from 1 after the built-in one, each of them is still accepted, a key
with a built-in mapping has no other, and what is found of a version is found again. -/
theorem versions_kept (form legacy : List ImportMappingColumnInput × String)
    (calls : List SaveCall) (key : String) :
    let M := store mappingId
    let start := builtIns mappingId form legacy
    let added := answered key (M.trace start calls)
    Adds key (versionsOf start key) added (versionsOf (M.run start calls) key) ∧
      (versionsOf start key ≠ [] → added = []) ∧
      ∀ more version m, getVersion (M.run start calls) key version = .ok m →
        getVersion (M.run start (calls ++ more)) key version = .ok m := by
  have hstart : ∀ key, (∀ m ∈ versionsOf (builtIns mappingId form legacy) key, m.builtIn) ∧
      Numbered (versionsOf (builtIns mappingId form legacy) key) := fun key => by
    rw [versionsOf]
    cases hget : (builtIns mappingId form legacy).get key with
    | none => simp [Numbered]
    | some versions =>
      have hmem := (Dict.get_ofList (by simp)).mp hget
      simp only [List.mem_cons, List.not_mem_nil, or_false, ok_iff] at hmem
      obtain ⟨-, rfl⟩ | ⟨-, rfl⟩ := hmem <;> simp [Numbered, builtIn]
  have hrun := @run_adds mappingId _ (fun key => (hstart key).2) calls
  refine ⟨hrun key, fun hne => ?_, fun more version m hfound => ?_⟩
  · obtain ⟨old, hold⟩ := List.exists_mem_of_ne_nil _ hne
    exact (hrun key).refused old hold ((hstart key).1 old hold)
  · have hmore := @run_adds mappingId _ (fun key => (hrun key).numbered) more key
    simp only [getVersion, demand_ok_iff] at hfound ⊢
    rw [Machine.run_append, hmore.after_eq]
    exact (List.prefix_append _ _).find?_eq_some hfound

end CrmYnov.ImportMapping
