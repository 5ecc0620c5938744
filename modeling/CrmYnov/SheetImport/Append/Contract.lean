import CrmYnov.Ingestion.Persistent
import CrmYnov.SheetImport.Types

/-!
# What is read of an append-only sheet

A sheet that is only ever appended to is read by a fixed range, whose first row is the header.
An observation has a position for each row down to the last one that holds something
(`CrmYnov.SheetImport.appendPositions`): every row between the header and that one has exactly
one position (`CrmYnov.SheetImport.Observation.Complete`), whatever the response holds.

The sheet has no identifiers of its own: a row is known by its occurrence, which is the digest
of where it stands after a boundary (`CrmYnov.SheetImport.appendOccurrenceKey`). An incomplete
row may be completed, which fills cells and changes none
(`CrmYnov.SheetImport.appendCompletion`).
-/

namespace CrmYnov.SheetImport

open Checked Js List

variable (rt : Runtime)

def APPEND_MODE : String := "LOCAL_ROW_APPEND_ONLY"

def APPEND_MAX_BYTES : ℕ := 4 * 1024 * 1024

def appendInvalid (code : String) : Failure :=
  let text := "sheet_append_" ++ code
  if code = "private_boundary_unavailable" then .http .serviceUnavailable text
  else if code ∈ ["boundary_required", "suspended", "rebaseline_refused",
      "qualification_required", "bootstrap_binding_changed", "bootstrap_reconciliation_required",
      "producer_condition_before_boundary"] then .conflict text
  else .badRequest text

def appendHash (value : Json) : String := rt.sha256 value.stringify

def sheetStreamId (workbookId : String) (sheetId : ℕ) : String :=
  rt.sha256 (Json.stringify (.arr [.str workbookId, .nat sheetId]))

/-! ### Ranges -/

/-- The bounds of a range, which `validateScope` has accepted. -/
structure SheetLocalScope where
  (headerRow lastRow firstColumn lastColumn : ℕ)
  valid : 1 ≤ headerRow ∧ headerRow < lastRow ∧ lastRow - headerRow ≤ 10000 ∧
    1 ≤ firstColumn ∧ firstColumn ≤ lastColumn ∧ lastColumn - firstColumn < 100

def SheetLocalScope.width (scope : SheetLocalScope) : ℕ := scope.lastColumn - scope.firstColumn + 1

/-- The number of a column: `A` is the first one. -/
def columnNumber (letters : List Char) : ℕ :=
  letters.foldl (fun sum letter => sum * 26 + letter.toNat - 64) 0

def rowNumber (digits : List Char) : ℕ :=
  digits.foldl (fun sum digit => sum * 10 + (digit.toNat - 48)) 0

/-- `/([A-Z]{1,3})([1-9][0-9]{0,6})/`: the column and the row of a cell. -/
def readCell (text : List Char) : Option (ℕ × ℕ) :=
  let letters := text.takeWhile isUpper
  let digits := text.dropWhile isUpper
  if 1 ≤ letters.length ∧ letters.length ≤ 3 ∧
      headMatch (fun c => '1' ≤ c && c ≤ '9') isDigit 0 6 (String.ofList digits) then
    some (columnNumber letters, rowNumber digits)
  else none

def parseSheetLocalRange (range : String) : Outcome SheetLocalScope :=
  match range.toList.splitOn ':' with
  | [first, last] =>
    match readCell first, readCell last with
    | some (firstColumn, headerRow), some (lastColumn, lastRow) =>
      if h : 1 ≤ headerRow ∧ headerRow < lastRow ∧ lastRow - headerRow ≤ 10000 ∧
          1 ≤ firstColumn ∧ firstColumn ≤ lastColumn ∧ lastColumn - firstColumn < 100 then
        .ok ⟨headerRow, lastRow, firstColumn, lastColumn, h⟩
      else .error (.error "sheet_local_scope_invalid")
    | _, _ => .error (.error "sheet_local_range_invalid")
  | _ => .error (.error "sheet_local_range_invalid")

/-! ### Positions -/

structure SheetAppendPosition where
  row : ℕ
  fingerprint : String
  cells : List String
  empty : Bool

/-- What `appendPositions` gives back. -/
structure Observation where
  header : List String
  positions : List SheetAppendPosition
  lastOccupiedRow : ℕ

def elements : Json → Option (List Json)
  | .arr values => some values
  | _ => none

/-- The texts of an array that holds nothing else. -/
def texts (value : Json) : Option (List String) :=
  (elements value).bind fun values => values.mapM Json.text?

/-- The header of a response, without the empty cells it ends with. -/
def readHeader (width : ℕ) (raw : Json) : Outcome (List String) := do
  let cells ← demand (texts raw) (appendInvalid "headers_invalid")
  require (cells ≠ [] ∧ cells.length ≤ width) (appendInvalid "headers_invalid")
  let header := cells.rdropWhile (· == "")
  require (header ≠ [] ∧ (∀ cell ∈ header, present cell) ∧ header.Nodup)
    (appendInvalid "headers_invalid")
  pure header

/-- A row of a response. A text of blanks still occupies its position. -/
def readPosition (width headed row : ℕ) (raw : Json) : Outcome SheetAppendPosition := do
  let given ← demand (texts raw) (appendInvalid "payload_invalid")
  require (given.length ≤ width ∧ ∀ value ∈ given, length value ≤ 4000)
    (appendInvalid "payload_invalid")
  let cells := (range width).map fun column => given.getD column ""
  require (∀ cell ∈ cells.drop headed, cell = "") (appendInvalid "unheaded_data")
  pure ⟨row, appendHash rt (.arr (cells.map .str)), cells, cells.all (· == "")⟩

/-- The rows of a response, from a row on. -/
def readPositions (width headed : ℕ) : ℕ → List Json → Outcome (List SheetAppendPosition)
  | _, [] => pure []
  | row, raw :: rest => do
    let position ← readPosition rt width headed row raw
    let positions ← readPositions width headed (row + 1) rest
    pure (position :: positions)

def lastOccupied (headerRow : ℕ) (positions : List SheetAppendPosition) : ℕ :=
  positions.foldl (fun last position => if position.empty then last else position.row) headerRow

/-- `appendPositions`: the last row that was asked for is a sentinel. -/
def appendPositions (range : String) (values : Json) : Outcome Observation := do
  let scope ← parseSheetLocalRange range
  let rows ← demand (elements values) (appendInvalid "observation_bounds")
  require (rows.length ≤ scope.lastRow - scope.headerRow + 1 ∧
      values.stringify.utf8ByteSize ≤ APPEND_MAX_BYTES)
    (appendInvalid "observation_bounds")
  let rawHeader ← demand rows.head? (appendInvalid "observation_bounds")
  let header ← readHeader scope.width rawHeader
  let positions ← readPositions rt scope.width header.length (scope.headerRow + 1) rows.tail
  let last := lastOccupied scope.headerRow positions
  require (last < scope.lastRow) (appendInvalid "range_capacity_reached")
  pure ⟨header, positions.filter fun position => position.row ≤ last, last⟩

theorem readPositions_ok {width headed row : ℕ} {raws : List Json}
    {positions : List SheetAppendPosition}
    (h : readPositions rt width headed row raws = .ok positions) :
    positions.map SheetAppendPosition.row = range' row raws.length := by
  induction raws generalizing row positions with
  | nil =>
    cases h
    rfl
  | cons raw rest ih =>
    simp only [readPositions, ok_iff] at h
    obtain ⟨position, hposition, positions', hrest, rfl⟩ := h
    have hrow : position.row = row := by
      simp only [readPosition, ok_iff] at hposition
      obtain ⟨_, _, _, _, _, _, rfl⟩ := hposition
      rfl
    rw [map_cons, length_cons, range'_succ, hrow, ih hrest]

theorem lastOccupied_cases (headerRow : ℕ) (positions : List SheetAppendPosition) :
    lastOccupied headerRow positions = headerRow ∨
      lastOccupied headerRow positions ∈ positions.map SheetAppendPosition.row := by
  induction positions using reverseRecOn with
  | nil => exact .inl rfl
  | append_singleton positions position ih =>
    rw [lastOccupied, foldl_append, map_append, mem_append]
    by_cases hempty : position.empty
    · rw [foldl_cons, foldl_nil, if_pos hempty]
      exact ih.imp_right .inl
    · rw [foldl_cons, foldl_nil, if_neg hempty]
      exact .inr (.inr mem_cons_self)

/-- **What an observation is of**: every row after the header, down to the last one that holds
something, has one position. -/
structure Observation.Complete (observation : Observation) (scope : SheetLocalScope) : Prop where
  rows : (observation.positions.map SheetAppendPosition.row).Nodup
  covers : ∀ row, scope.headerRow < row → row ≤ observation.lastOccupiedRow →
    ∃ position ∈ observation.positions, position.row = row
  header : scope.headerRow ≤ observation.lastOccupiedRow

/-- **What a response is read as is complete.** -/
theorem appendPositions_ok {range : String} {values : Json} {observation : Observation}
    (h : appendPositions rt range values = .ok observation) :
    ∃ scope, parseSheetLocalRange range = .ok scope ∧ observation.Complete scope := by
  simp only [appendPositions, ok_iff] at h
  obtain ⟨scope, hscope, rows, -, -, -, -, -, header, -, positions, hpositions, -, -, rfl⟩ := h
  have hrows := readPositions_ok rt hpositions
  have hlast := lastOccupied_cases scope.headerRow positions
  rw [hrows, mem_range'_1] at hlast
  refine ⟨scope, hscope, ?_, fun row hheader hrow => ?_, ?_⟩
  · have hnodup : (positions.map SheetAppendPosition.row).Nodup := by
      rw [hrows]
      exact nodup_range'
    exact hnodup.sublist (filter_sublist.map _)
  · have hmem : row ∈ positions.map SheetAppendPosition.row := by
      rw [hrows, mem_range'_1]
      dsimp only at hrow
      omega
    obtain ⟨position, hposition, rfl⟩ := mem_map.mp hmem
    exact ⟨position, mem_filter.mpr ⟨hposition, by simpa using hrow⟩, rfl⟩
  · dsimp only
    omega

/-! ### Contracts -/

structure SheetAppendBoundary where
  workbookId : String
  sheetId : ℕ
  (tab generation range : String)
  capturedAt : Instant
  boundaryRow : ℕ
  values : Json

structure SheetAppendContract where
  workbookId : String
  sheetId : ℕ
  (tab generation range : String)
  capturedAt : Instant
  boundaryRow : ℕ
  (artifactSha256 headerFingerprint : String)
  historicalFingerprints : List (ℕ × String)
  bindingSha256 : String

/-- `\p{Cc}` -/
def isControl (c : Char) : Bool := c.toNat < 32 || (127 ≤ c.toNat && c.toNat < 160)

/-- `readAppendBoundary`, once the shape of the artifact has been read. -/
def readAppendBoundary (value : SheetAppendBoundary) (now : Instant) :
    Outcome SheetAppendBoundary := do
  require (fullMatch (fun c => isAlnum c || c == '_' || c == '-') 10 200 value.workbookId ∧
      value.tab ≠ "" ∧ length value.tab ≤ 100 ∧ (∀ c ∈ value.tab.toList, ¬isControl c) ∧
      Ingestion.isUuid value.generation ∧ value.capturedAt ≤ now)
    (appendInvalid "boundary_invalid")
  let observation ← appendPositions rt value.range value.values
  require (observation.lastOccupiedRow = value.boundaryRow) (appendInvalid "boundary_mismatch")
  pure value

def appendOccurrenceKey (contract : SheetAppendContract) (row : ℕ) : Outcome String := do
  let bounds ← parseSheetLocalRange contract.range
  require (contract.boundaryRow < row ∧ row ≤ bounds.lastRow) (appendInvalid "position_invalid")
  pure (appendHash rt (.arr [.str APPEND_MODE, .str contract.workbookId, .nat contract.sheetId,
    .str contract.generation, .nat row]))

def appendBinding (workbookId tab campusId : String) (configuration : SheetConfiguration) :
    String :=
  let document := configuration.document
  appendHash rt (.present [("workbookId", some (.str workbookId)), ("tab", some (.str tab)),
    ("campusId", some (.str campusId)), ("source", document.member "source"),
    ("columns", (document.member "mapping").bind (Json.member "columns")),
    ("context", document.member "context"), ("assignment", document.member "assignment")])

/-! ### Completions -/

/-- `appendCompletion`: cells that were empty are filled, and no other cell is changed. -/
def appendCompletion (previous current : List String) : Bool :=
  previous.length == current.length &&
    (previous.zip current).all fun cells => cells.1 == "" || cells.2 == cells.1

/-- A payload fills another one: it has its cells, but for those that were empty. -/
def Fills (previous current : List String) : Prop :=
  Forall₂ (fun before after => before = "" ∨ after = before) previous current

theorem appendCompletion_iff {previous current : List String} :
    appendCompletion previous current = true ↔ Fills previous current := by
  simp only [appendCompletion, Fills, Bool.and_eq_true, beq_iff_eq, all_eq_true,
    Bool.or_eq_true, forall₂_iff_zip]
  exact and_congr_right fun _ => ⟨fun h a b hab => h (a, b) hab, fun h cells hcells =>
    h hcells⟩

theorem Fills.refl (payload : List String) : Fills payload payload :=
  forall₂_same.mpr fun _ _ => .inr rfl

theorem Fills.trans {a b c : List String} (h : Fills a b) (h' : Fills b c) : Fills a c := by
  induction h generalizing c with
  | nil =>
    obtain rfl := forall₂_nil_left_iff.mp h'
    exact Forall₂.nil
  | cons hhead _ ih =>
    obtain ⟨d, c', hhead', htail', rfl⟩ := forall₂_cons_left_iff.mp h'
    refine Forall₂.cons ?_ (ih htail')
    rcases hhead with rfl | rfl
    · exact .inl rfl
    · exact hhead'

end CrmYnov.SheetImport
