import CrmYnov.Cutover.Inventory

/-!
# Literal identities of a sheet

The adapter of the sheets reads the same cells twice: as the texts that are shown, which an
observation of a cutover then reads, and as the values that were entered, which are the evidence
of an identity. Each reading has rules of its own for what a blank row, an identity and an
instant are.

Where both accept a sheet they agree row by row (`CrmYnov.Cutover.literal_rows_read`): the rows
that are not blank, in their order, with one identity and one instant each. The inventory itself
is in the order of its keys, and an identity it knows keeps the instant it was first read with.
-/

namespace CrmYnov.Cutover

open Checked Js List Option

/-! ### The grid -/

/-- `new SheetsSourceError(code, status)` -/
def sheetsError (code : String) : Failure := .error code

/-- `object(value)` -/
def object : Option Json → Outcome Json
  | some (.obj members) => pure (.obj members)
  | _ => .error (sheetsError "sheet_response_invalid")

variable (value : Option Json)

/-- `value ?? other` -/
def orElse (other : Json) : Json :=
  match value with
  | none | some .null => other
  | some value => value

/-- `cell(value)` -/
def cellText : Outcome String := do
  let text ← match value with
    | none | some .null => pure ""
    | some (.str text) => pure text
    | some (.num digits) => pure digits
    | some (.bool value) => pure (if value then "true" else "false")
    | some _ => .error (sheetsError "sheet_cell_invalid")
  require (length text ≤ 4000) (sheetsError "sheet_cell_too_large")
  pure text

/-- A range, as the numbers of its columns and rows. -/
structure SheetRange where
  (firstColumn firstRow lastColumn lastRow : ℕ)

/-- The items of a value that has to be an array of so many at most. -/
def itemsOf (value : Json) (limit : ℕ) (code : String) : Outcome (List Json) :=
  match value with
  | .arr items => do
    require (items.length ≤ limit) (sheetsError code)
    pure items
  | _ => .error (sheetsError code)

/-- The number is the one that is given, or it is left out and `0`. -/
def isNumber (n : ℕ) : Bool :=
  match orElse value (.nat 0) with
  | .num digits => digits = toString n
  | _ => false

/-- `object(row).values ?? []` -/
def rowCells (range : SheetRange) (row : Json) : Outcome (List Json) := do
  let row ← object (some row)
  itemsOf (orElse (row.member "values") (.arr [])) (range.lastColumn - range.firstColumn + 1)
    "sheet_columns_invalid"

/-- The cells of a grid, once its offsets and bounds are checked. -/
def gridCells (data : Json) (range : SheetRange) : Outcome (List (List Json)) := do
  let grids ← itemsOf data 1 "sheet_response_invalid"
  let grid ← object grids.head?
  require (isNumber (grid.member "startRow") (range.firstRow - 1) ∧
      isNumber (grid.member "startColumn") (range.firstColumn - 1))
    (sheetsError "sheet_response_invalid")
  let rows ← itemsOf (orElse (grid.member "rowData") (.arr [])) (range.lastRow - range.firstRow + 1)
    "sheet_row_limit_exceeded"
  rows.mapM (rowCells range)

def shownText (cell : Json) : Outcome String := do
  let cell ← object (some cell)
  cellText (cell.member "formattedValue")

/-- `gridValues`, from the cells of the grid. -/
def gridValues (cells : List (List Json)) : Outcome (List (List String)) :=
  cells.mapM fun row => row.mapM shownText

/-! ### The texts that are shown -/

theorem map_fst_mapIdx (columns : List String) (f : ℕ → String) :
    (columns.mapIdx fun i name => (name, f i)).map Prod.fst = columns :=
  ext_getElem (by simp) fun i h h' => by simp

/-- `Object.fromEntries(columns.map((name, index) => [name, cell(raw[index])]))` -/
def rowPayload (columns : List String) (h : columns.Nodup) (raw : List String) : Payload where
  cells := columns.mapIdx fun i name => (name, raw.getD i "")
  distinct := by rwa [map_fst_mapIdx]

/-- `parseValues`, of texts. -/
def parseValues (values : List (List String)) : Outcome SheetValues := do
  require (values.length ≤ CUTOVER_ROW_LIMIT + 1) (sheetsError "sheet_row_limit_exceeded")
  match values with
  | [] => pure ⟨[], [], none⟩
  | columns :: rows =>
    if h : columns.Nodup then do
      require (columns ≠ [] ∧ columns.length ≤ 100 ∧ ∀ name ∈ columns, present name)
        (sheetsError "sheet_columns_invalid")
      require (∀ raw ∈ rows, raw.length ≤ columns.length) (sheetsError "sheet_row_invalid")
      pure ⟨columns, rows.map (rowPayload columns h), none⟩
    else .error (sheetsError "sheet_columns_invalid")

/-! ### The values that were entered -/

/-- `SheetLiteralIdentityContract` -/
structure SheetLiteralIdentityContract where
  (externalIdColumn originalArrivalColumn : String)

/-- `validateLiteralContract`, of two texts. -/
def validateLiteralContract (contract : SheetLiteralIdentityContract) : Outcome Unit :=
  require ((∀ name ∈ [contract.externalIdColumn, contract.originalArrivalColumn],
      name ≠ "" ∧ length name ≤ 200 ∧ name = trim name ∧
        ∀ c ∈ name.toList, 32 ≤ c.toNat ∧ ¬(127 ≤ c.toNat ∧ c.toNat ≤ 159)) ∧
      contract.externalIdColumn ≠ contract.originalArrivalColumn)
    (sheetsError "sheet_literal_contract_invalid")

def emptyLiteralCell : Outcome Bool := do
  let item ← object (some (orElse value (.obj [])))
  pure ((item.member "userEnteredValue").isNone && (item.member "effectiveValue").isNone &&
    match item.member "formattedValue" with
    | none => true
    | some (.str text) => text == ""
    | some _ => false)

/-- The only member of an object, when it is `stringValue` and a text. -/
def stringValue (value : Json) : Option String :=
  match value with
  | .obj [("stringValue", .str text)] => some text
  | _ => none

/-- `literalString`: what was entered, what it came to and what is shown are one text. -/
def literalString : Outcome String := do
  let item ← object (some (orElse value (.obj [])))
  let entered ← object (some (orElse (item.member "userEnteredValue") (.obj [])))
  let effective ← object (some (orElse (item.member "effectiveValue") (.obj [])))
  require ((entered.member "formulaValue").isNone = true)
    (sheetsError "sheet_identity_formula_refused")
  let text ← demand (stringValue entered) (sheetsError "sheet_identity_literal_required")
  let shown ← demand (stringValue effective) (sheetsError "sheet_identity_literal_required")
  require (text = shown ∧ (item.member "formattedValue").bind Json.text? = some text)
    (sheetsError "sheet_identity_literal_mismatch")
  pure text

variable (rt : Runtime)

def literalOriginalUtc (value : String) : Outcome Unit := do
  let refused := sheetsError "sheet_original_utc_literal_required"
  require (isUtcInstant value = true) refused
  let instant ← demand (rt.parseDate value) refused
  require (withoutMillis (isoString instant) = withoutMillis value) refused

/-- A row of `SheetLiteralIdentityEvidence`. -/
structure LiteralRow where
  rowNumber : ℕ
  (externalId originalArrivedAt : String)
deriving DecidableEq

/-- The row is skipped: nothing of it is shown, and nothing was entered as an identity. -/
def isEmptyRow (idColumn dateColumn : ℕ) (cells : List Json) (texts : List String) :
    Outcome Bool :=
  if texts.all fun text => !present text then do
    if ← emptyLiteralCell cells[idColumn]? then emptyLiteralCell cells[dateColumn]? else pure false
  else pure false

def literalRow (idColumn dateColumn rowNumber : ℕ) (seen : List String) (cells : List Json) :
    Outcome LiteralRow := do
  let externalId ← literalString cells[idColumn]?
  let originalArrivedAt ← literalString cells[dateColumn]?
  require (externalId ≠ "" ∧ length externalId ≤ 128 ∧ externalId = trim externalId ∧
      ∀ c ∈ externalId.toList, 32 ≤ c.toNat ∧ c.toNat ≠ 127)
    (sheetsError "sheet_submission_literal_invalid")
  require (externalId ∉ seen) (sheetsError "sheet_submission_literal_ambiguous")
  literalOriginalUtc rt originalArrivedAt
  pure ⟨rowNumber, externalId, originalArrivedAt⟩

/-- The rows below the header, with their cells and what they show. -/
def literalRows (idColumn dateColumn : ℕ) :
    ℕ → List String → List (List Json × List String) → Outcome (List LiteralRow)
  | _, _, [] => pure []
  | rowNumber, seen, (cells, texts) :: rest => do
    if ← isEmptyRow idColumn dateColumn cells texts then
      literalRows idColumn dateColumn (rowNumber + 1) seen rest
    else do
      let row ← literalRow rt idColumn dateColumn rowNumber seen cells
      let rows ← literalRows idColumn dateColumn (rowNumber + 1) (row.externalId :: seen) rest
      pure (row :: rows)

/-- The rows of `literalIdentityEvidence`. -/
def literalIdentityEvidence (range : SheetRange) (cells : List (List Json))
    (values : List (List String)) (contract : SheetLiteralIdentityContract) :
    Outcome (List LiteralRow) := do
  let required := sheetsError "sheet_literal_columns_required"
  let columns := values.headD []
  let idColumn ← demand (columns.idxOf? contract.externalIdColumn) required
  let dateColumn ← demand (columns.idxOf? contract.originalArrivalColumn) required
  let header := cells.headD []
  let idName ← literalString header[idColumn]?
  require (idName = contract.externalIdColumn) required
  let dateName ← literalString header[dateColumn]?
  require (dateName = contract.originalArrivalColumn) required
  literalRows rt idColumn dateColumn (range.firstRow + 1) [] (cells.tail.zip values.tail)

/-- `boundedValues`, of the data of its sheet, under a literal contract. -/
def boundedValues (data : Json) (range : SheetRange) (sheetId : ℕ) (rangeText : String)
    (contract : SheetLiteralIdentityContract) : Outcome (SheetValues × List LiteralRow) := do
  validateLiteralContract contract
  let cells ← gridCells data range
  let values ← gridValues cells
  let projection ← parseValues values
  let rows ← literalIdentityEvidence rt range cells values contract
  pure ({ projection with observation := some ⟨sheetId, rangeText, values⟩ }, rows)

/-! ### One row -/

variable {rt} {cells : List Json} {texts : List String}

theorem object_ok {value : Option Json} {item : Json} (h : object value = .ok item) :
    value = some item := by
  unfold object at h
  split at h
  · rw [pure_ok_iff.mp h]
  · cases h

variable {text : String}

/-- **A literal is what is shown** in its place. -/
theorem literalString_ok {value : Option Json}
    (h : literalString value = .ok text) :
    ∃ cell, value = some cell ∧ ∀ shown, shownText cell = .ok shown → shown = text := by
  simp only [literalString, ok_iff] at h
  obtain ⟨item, hitem, entered, hentered, effective, -, -, -, entered', hstring, shown', -, -,
    ⟨-, hshown⟩, rfl⟩ := h
  have hformatted : item.member "formattedValue" = some (.str entered') := by
    obtain ⟨value, hvalue, htext⟩ := bind_eq_some_iff.mp hshown
    cases value with
    | str shown =>
      rw [hvalue]
      exact congrArg (some ∘ Json.str) (some.inj htext)
    | _ => cases htext
  have hempty : item ≠ .obj [] := fun heq => by
    rw [heq] at hformatted
    cases hformatted
  have hvalue := some.inj (object_ok hitem)
  refine ⟨item, ?_, fun shown hshown => ?_⟩
  · unfold orElse at hvalue
    split at hvalue
    · exact absurd hvalue.symm hempty
    · exact absurd hvalue.symm hempty
    · rw [hvalue]
  · simp only [shownText, bind_ok_iff] at hshown
    obtain ⟨cell, hcell, hshown⟩ := hshown
    obtain rfl := some.inj (object_ok hcell)
    simp only [hformatted, cellText, ok_iff] at hshown
    obtain ⟨_, rfl, -, -, rfl⟩ := hshown
    rfl

theorem getElem?_of_literal (htexts : cells.mapM shownText = .ok texts) {i : ℕ}
    (h : literalString cells[i]? = .ok text) : texts[i]? = some text := by
  obtain ⟨cell, hcell, hshown⟩ := literalString_ok h
  have hall := mapM_ok_iff.mp htexts
  obtain ⟨hi, rfl⟩ := List.getElem?_eq_some_iff.mp hcell
  have hi' : i < texts.length := hall.length_eq ▸ hi
  rw [List.getElem?_eq_getElem hi', Option.some.injEq]
  exact hshown _ (hall.get hi hi')

variable {columns : List String} (hnodup : columns.Nodup)

theorem cell_rowPayload {name : String} {i : ℕ} (hi : columns.idxOf? name = some i)
    (htext : texts[i]? = some text) :
    (rowPayload columns hnodup texts).cell name = some text := by
  obtain ⟨hlt, hname, -⟩ := idxOf?_eq_some_iff.mp hi
  have hmem : (name, text) ∈ (rowPayload columns hnodup texts).cells := by
    refine mem_mapIdx.mpr ⟨i, hlt, ?_⟩
    rw [hname, getD_eq_getElem?_getD, htext, getD_some]
  obtain ⟨l₁, l₂, hsplit⟩ := append_of_mem hmem
  have hdistinct := (rowPayload columns hnodup texts).distinct
  rw [hsplit, map_append, map_cons] at hdistinct
  have hbefore := (nodup_append.mp hdistinct).2.2
  exact lookup_eq_some_iff.mpr ⟨l₁, l₂, hsplit, fun p hp =>
    bne_iff_ne.mpr (hbefore p.1 (mem_map_of_mem hp) name mem_cons_self).symm⟩

theorem isBlank_rowPayload (hlen : texts.length ≤ columns.length) :
    (rowPayload columns hnodup texts).isBlank = texts.all fun text => !present text := by
  rw [Bool.eq_iff_iff, Payload.isBlank, List.all_eq_true, List.all_eq_true]
  constructor
  · intro h text htext
    obtain ⟨i, hi, rfl⟩ := List.getElem_of_mem htext
    refine h (columns[i], texts[i]) (List.mem_mapIdx.mpr ⟨i, by omega, ?_⟩)
    rw [List.getD_eq_getElem?_getD, List.getElem?_eq_getElem hi, Option.getD_some]
  · intro h cell hcell
    obtain ⟨i, hi, rfl⟩ := List.mem_mapIdx.mp hcell
    rw [List.getD_eq_getElem?_getD]
    cases htext : texts[i]? with
    | none => exact (by decide : (!present "") = true)
    | some text => exact h text (List.mem_of_getElem? htext)

/-! ### All the rows -/

structure Evidences (contract : SheetLiteralIdentityContract) (row : Payload × ℕ)
    (literal : LiteralRow) : Prop where
  externalId : row.1.cell contract.externalIdColumn = some literal.externalId
  arrival : row.1.cell contract.originalArrivalColumn = some literal.originalArrivedAt
  number : literal.rowNumber = row.2

theorem blank_of_isEmptyRow {idColumn dateColumn : ℕ}
    (h : isEmptyRow idColumn dateColumn cells texts = .ok true) :
    (texts.all fun text => !present text) = true := by
  rw [isEmptyRow] at h
  split at h
  · assumption
  · cases h

/-- **The rows that are not blank** each have their evidence, in their order. -/
theorem literalRows_ok {contract : SheetLiteralIdentityContract} {idColumn dateColumn : ℕ}
    (hid : columns.idxOf? contract.externalIdColumn = some idColumn)
    (hdate : columns.idxOf? contract.originalArrivalColumn = some dateColumn)
    {pairs : List (List Json × List String)} {rowNumber : ℕ} {seen : List String}
    {rows : List LiteralRow}
    (hpairs : ∀ p ∈ pairs, p.1.mapM shownText = .ok p.2 ∧ p.2.length ≤ columns.length)
    (h : literalRows rt idColumn dateColumn rowNumber seen pairs = .ok rows) :
    Forall₂ (Evidences contract) (((pairs.map fun p => rowPayload columns hnodup p.2).zipIdx
      rowNumber).filter fun row => !row.1.isBlank) rows := by
  induction pairs generalizing rowNumber seen rows with
  | nil =>
    rw [literalRows, pure_ok_iff] at h
    rw [← h]
    exact .nil
  | cons pair pairs ih =>
    obtain ⟨cells, texts⟩ := pair
    obtain ⟨htexts, hlen⟩ := hpairs (cells, texts) mem_cons_self
    have hrest := fun p hp => hpairs p (mem_cons_of_mem _ hp)
    simp only [literalRows, bind_ok_iff] at h
    obtain ⟨empty, hempty, h⟩ := h
    rw [map_cons, zipIdx_cons, filter_cons, isBlank_rowPayload hnodup hlen]
    split at h
    · rename_i htrue
      rw [htrue] at hempty
      rw [if_neg (by simp [blank_of_isEmptyRow hempty])]
      exact ih hrest h
    · simp only [ok_iff] at h
      obtain ⟨row, hrow, rows, hrows, rfl⟩ := h
      simp only [literalRow, ok_iff] at hrow
      obtain ⟨externalId, hexternal, arrived, harrived, -, ⟨hpresent, -, htrim, -⟩, -, -, -, -,
        rfl⟩ := hrow
      have hshown := getElem?_of_literal htexts hexternal
      have hnot : (texts.all fun text => !present text) = false := by
        rw [List.all_eq_false]
        refine ⟨externalId, mem_of_getElem? hshown, ?_⟩
        rw [present, ← htrim]
        simpa using hpresent
      rw [if_pos (by rw [hnot]; rfl)]
      exact .cons ⟨cell_rowPayload hnodup hid hshown,
        cell_rowPayload hnodup hdate (getElem?_of_literal htexts harrived), rfl⟩ (ih hrest hrows)

theorem forall₂_of_common {α β γ : Type*} {R : α → β → Prop} {S : α → γ → Prop}
    {T : β → γ → Prop} (hT : ∀ a b c, R a b → S a c → T b c) {as : List α} {bs : List β}
    {cs : List γ} (hR : Forall₂ R as bs) (hS : Forall₂ S as cs) :
    Forall₂ T bs cs := by
  induction hR generalizing cs with
  | nil =>
    cases hS
    exact .nil
  | cons hab _ ih =>
    cases hS with
    | cons hac hS => exact .cons (hT _ _ _ hab hac) (ih hS)

/-- A literal row and what an observation reads are of one identity and one instant. -/
def Agrees (rt : Runtime) (literal : LiteralRow) (row : SourceRow) : Prop :=
  row.externalId = literal.externalId ∧
    ∃ t, rt.parseDate literal.originalArrivedAt = some t ∧ row.originalArrivedAt = isoString t

theorem agrees_of_reads {literal : SheetLiteralIdentityContract} {contract : CutoverContract}
    (hid : contract.externalIdColumn = literal.externalIdColumn)
    (hdate : contract.originalArrivalColumn = literal.originalArrivalColumn)
    {numbered : Payload × ℕ} {evidence : LiteralRow} {row : SourceRow}
    (hevidence : Evidences literal numbered evidence) (hread : Reads rt contract numbered.1 row) :
    Agrees rt evidence row := by
  have hexternal := hread.externalId
  have harrival := hread.arrival
  rw [hid, hevidence.externalId] at hexternal
  rw [hdate, hevidence.arrival] at harrival
  simp only [cutoverText, demand_some, ok_bind, ok_iff] at hexternal
  obtain ⟨-, -, hexternal⟩ := hexternal
  simp only [cutoverInstant, ok_iff, cutoverText, demand_some, ok_bind] at harrival
  obtain ⟨text, ⟨-, -, rfl⟩, -, -, t, hparse, -, -, hiso⟩ := harrival
  exact ⟨hexternal.symm, t, hparse, hiso.symm⟩

def numberedRows (range : SheetRange) (values : SheetValues) : List (Payload × ℕ) :=
  (values.rows.zipIdx (range.firstRow + 1)).filter fun row => !row.1.isBlank

theorem boundedValues_ok {data : Json} {range : SheetRange} {sheetId : ℕ} {rangeText : String}
    {literal : SheetLiteralIdentityContract} {values : SheetValues} {evidence : List LiteralRow}
    (h : boundedValues rt data range sheetId rangeText literal = .ok (values, evidence))
    (hcolumns : values.columns ≠ []) :
    Forall₂ (Evidences literal) (numberedRows range values) evidence := by
  simp only [boundedValues, ok_iff] at h
  obtain ⟨-, -, cells, -, grid, hgrid, projection, hparse, rows, hliteral, rfl, rfl⟩ := h
  have hshown := mapM_ok_iff.mp hgrid
  unfold parseValues at hparse
  simp only [bind_ok_iff] at hparse
  obtain ⟨-, -, hparse⟩ := hparse
  cases hshown with
  | nil => exact absurd (congrArg SheetValues.columns (pure_ok_iff.mp hparse)).symm hcolumns
  | @cons header columns cells texts _ hshown =>
    simp only at hparse
    split at hparse
    · rename_i hnodup
      simp only [ok_iff] at hparse
      obtain ⟨-, -, -, hlen, rfl⟩ := hparse
      simp only [literalIdentityEvidence, ok_iff, headD_cons, tail_cons] at hliteral
      obtain ⟨idColumn, hid, dateColumn, hdate, -, -, -, -, -, -, -, -, hliteral⟩ := hliteral
      have hrows := literalRows_ok hnodup hid hdate (fun p hp =>
        ⟨forall₂_zip hshown hp, hlen p.2 (of_mem_zip hp).2⟩) hliteral
      rwa [← Function.comp_def (rowPayload columns hnodup) Prod.snd, ← List.map_map,
        map_snd_zip hshown.length_eq.ge] at hrows
    · cases hparse

/-- **The two readings agree**: when an observation accepts what is shown of a sheet whose
literal identities are accepted, the rows it reads are those of the evidence, in their order –
one for each row that is not blank – and the inventory is made of them. -/
theorem literal_rows_read {data : Json} {range : SheetRange} {sheetId : ℕ} {rangeText : String}
    {literal : SheetLiteralIdentityContract} {values : SheetValues} {evidence : List LiteralRow}
    {contract : CutoverContract} {previous : List CutoverEntry} {header : Option String}
    {observed : ObservedCutover}
    (h : boundedValues rt data range sheetId rangeText literal = .ok (values, evidence))
    (hid : contract.externalIdColumn = literal.externalIdColumn)
    (hdate : contract.originalArrivalColumn = literal.originalArrivalColumn)
    (ho : observeCutover rt contract values previous header = .ok observed) :
    ∃ rows, readRows rt contract values.columns [] values.rows = .ok rows ∧
      Forall₂ (Evidences literal) (numberedRows range values) evidence ∧
      Forall₂ (Agrees rt) evidence rows ∧ observed.sourceCount = rows.length ∧
      observed.entries = sortEntries (observedEntries contract previous rows) := by
  simp only [observeCutover, ok_iff] at ho
  obtain ⟨⟨⟩, hcolumns, ⟨⟩, -, ⟨⟩, -, rows, hrows, ⟨⟩, -, rfl⟩ := ho
  have hevidence := boundedValues_ok h hcolumns.1
  refine ⟨rows, hrows, hevidence, ?_, rfl, rfl⟩
  obtain ⟨-, hreads, -⟩ := readRows_ok_iff.mp hrows
  have hnumbered : values.rows.filter (fun payload => !payload.isBlank) =
      (numberedRows range values).map Prod.fst := by
    rw [numberedRows, ← Function.comp_def (fun payload : Payload => !payload.isBlank) Prod.fst,
      ← List.filter_map, List.zipIdx_map_fst]
  rw [hnumbered, forall₂_map_left_iff] at hreads
  exact forall₂_of_common (fun row l read (he : Evidences literal row l)
    (hread : Reads rt contract row.1 read) => agrees_of_reads hid hdate he hread) hevidence hreads

namespace Sample

def literalCell (text : String) : Json :=
  .obj [("formattedValue", .str text), ("userEnteredValue", .obj [("stringValue", .str text)]),
    ("effectiveValue", .obj [("stringValue", .str text)])]

def sheetData (rows : List (List String)) : Json :=
  .arr [.obj [("rowData", .arr (rows.map fun row =>
    .obj [("values", .arr (row.map literalCell))]))]]

def literalColumns : SheetLiteralIdentityContract := ⟨"I", "D"⟩

def literalSheet : Outcome (SheetValues × List LiteralRow) :=
  boundedValues runtime (sheetData [["I", "D"], ["17", "2026-09-01T00:00:00.000Z"]]) ⟨1, 1, 2, 2⟩ 7
    "A1:B2" literalColumns

def earlier : CutoverEntry where
  key := "#"
  externalId := "17"
  fingerprint := "#"
  originalArrivedAt := "2026-08-01T00:00:00.000Z"
  classification := .EXCLUDED_PRE_T0
  issue := none
  decision := none
  targetBootstrapRowId := none
  payload := visitor

end Sample

open Sample

/-- The inventory keeps the instant at which it knows the visitor: it is not the one of the
evidence. -/
theorem literal_instant_apart :
    (literalSheet.toOption.bind fun read =>
      (observeCutover runtime contract read.1 [earlier] none).toOption.map
        fun observed => (read.2, observed.entries.map CutoverEntry.originalArrivedAt)) =
      some ([⟨2, "17", "2026-09-01T00:00:00.000Z"⟩], ["2026-08-01T00:00:00.000Z"]) := by
  simp only [observeCutover, byteLength_stringify]
  decide +kernel

/-- The visitor is read as the evidence says. -/
theorem literal_rows_read_visitor :
    ∃ rows, Forall₂ (Agrees runtime) [⟨2, "17", "2026-09-01T00:00:00.000Z"⟩] rows := by
  have hrun : (literalSheet >>= fun read =>
      (observeCutover runtime contract read.1 [] none).map fun _ => read.2) =
        .ok [⟨2, "17", "2026-09-01T00:00:00.000Z"⟩] := by
    simp only [observeCutover, byteLength_stringify]
    decide +kernel
  obtain ⟨read, hread, hmap⟩ := bind_ok_iff.mp hrun
  obtain ⟨observed, hobserved, hrows⟩ := map_ok_iff.mp hmap
  obtain ⟨rows, -, -, hagrees, -⟩ := literal_rows_read hread rfl rfl hobserved
  exact ⟨rows, hrows ▸ hagrees⟩

end CrmYnov.Cutover
