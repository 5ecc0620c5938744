import CrmYnov.Platform.Failure

/-!
# Reading a CSV file

`parseCsv` guesses the delimiter of a file from its first line, and cuts its text in rows and
cells. A table written with every cell between quotes is read back
(`CrmYnov.ImportProfile.parseCsv_writeCsv_iff`), unless the delimiter is a semicolon and the first
cell has a line break: the first line then ends inside that cell, before any delimiter.
-/

namespace CrmYnov.ImportProfile

open Checked List

/-! ### The parser -/

abbrev Cell := List Char

def IsBreak (c : Char) : Prop := c = '\n' ∨ c = '\r'
deriving Decidable

/-- `countOutsideQuotes(value, target)`, inside quotes or not; the next character may have been
counted with the last one. -/
def countOutsideQuotes (target : Char) : Bool → Bool → List Char → ℕ
  | _, _, [] => 0
  | true, quoted, _ :: rest => countOutsideQuotes target false quoted rest
  | false, quoted, c :: rest =>
    if c = '"' then
      if quoted ∧ rest.head? = some '"' then countOutsideQuotes target true quoted rest
      else countOutsideQuotes target false (!quoted) rest
    else (if quoted = false ∧ c = target then 1 else 0) + countOutsideQuotes target false quoted rest

structure Scan where
  rows : List (List Cell) := []
  row : List Cell := []
  value : Cell := []
  quoted : Bool := false

/-- The loop of `parseCsv`; the next character may have been read with the last one. -/
def scan (delimiter : Char) : Bool → Scan → List Char → Scan
  | _, s, [] => s
  | true, s, _ :: rest => scan delimiter false s rest
  | false, s, c :: rest =>
    if c = '"' then
      if s.quoted ∧ rest.head? = some '"' then
        scan delimiter true { s with value := s.value ++ ['"'] } rest
      else scan delimiter false { s with quoted := !s.quoted } rest
    else if c = delimiter ∧ s.quoted = false then
      scan delimiter false { s with row := s.row ++ [s.value], value := [] } rest
    else if IsBreak c ∧ s.quoted = false then
      scan delimiter (decide (c = '\r' ∧ rest.head? = some '\n'))
        { rows := s.rows ++ [s.row ++ [s.value]] } rest
    else scan delimiter false { s with value := s.value ++ [c] } rest

def firstLine (text : List Char) : List Char := text.takeWhile fun c => ¬IsBreak c

def delimiterOf (text : List Char) : Char :=
  let count := fun target => countOutsideQuotes target false false (firstLine text)
  if count ',' < count ';' then ';' else ','

def parseCsv (text : List Char) : Outcome (List (List Cell)) := do
  let s := scan (delimiterOf text) false {} text
  require (s.quoted = false) (.badRequest "csv_quotes_invalid")
  pure (if s.value ≠ [] ∨ s.row ≠ [] then s.rows ++ [s.row ++ [s.value]] else s.rows)

/-! ### Writing a table -/

def escaped (cell : Cell) : List Char := cell.flatMap fun c => if c = '"' then ['"', '"'] else [c]

def quoteCell (cell : Cell) : List Char := '"' :: (escaped cell ++ ['"'])

def writeRow (delimiter : Char) : List Cell → List Char
  | [] => []
  | [cell] => quoteCell cell
  | cell :: cells => quoteCell cell ++ delimiter :: writeRow delimiter cells

def writeCsv (delimiter : Char) (eol : List Char) (table : List (List Cell)) : List Char :=
  table.flatMap fun row => writeRow delimiter row ++ eol

variable {d d' t : Char} {eol rest : List Char} {cell : Cell} {cells : List Cell} {s : Scan}

/-! ### Cells -/

theorem escaped_cons (c : Char) :
    escaped (c :: cell) = (if c = '"' then ['"', '"'] else [c]) ++ escaped cell := rfl

theorem quoteCell_append : quoteCell cell ++ rest = '"' :: (escaped cell ++ '"' :: rest) := by
  simp [quoteCell]

theorem scan_quoted (hs : s.quoted = true) (hrest : rest.head? ≠ some '"') :
    scan d false s (escaped cell ++ '"' :: rest) =
      scan d false { s with value := s.value ++ cell, quoted := false } rest := by
  induction cell generalizing s with
  | nil => simp [escaped, scan, hrest, hs]
  | cons c cell ih =>
    rw [escaped_cons]
    by_cases hc : c = '"'
    · subst hc
      rw [if_pos rfl, append_assoc, cons_append, cons_append, nil_append, scan,
        if_pos rfl, if_pos ⟨hs, rfl⟩, scan]
      refine Eq.trans (ih ?_) ?_
      · exact hs
      · simp
    · rw [if_neg hc, append_assoc, singleton_append, scan, if_neg hc,
        if_neg (by simp [hs]), if_neg (by simp [hs])]
      refine Eq.trans (ih ?_) ?_
      · exact hs
      · simp

theorem scan_cell (hs : s.quoted = false) (hrest : rest.head? ≠ some '"') :
    scan d false s (quoteCell cell ++ rest) =
      scan d false { s with value := s.value ++ cell } rest := by
  rw [quoteCell_append, scan, if_pos rfl, if_neg (by simp [hs]), scan_quoted (by simp [hs]) hrest]
  rw [← hs]

/-- A line break in a cell. -/
def Broken (cell : Cell) : Prop := ∃ c ∈ cell, IsBreak c
deriving Decidable

theorem head?_firstLine (hrest : rest.head? ≠ some '"') : (firstLine rest).head? ≠ some '"' := by
  rcases rest with - | ⟨c, rest⟩
  · exact hrest
  · rw [firstLine, takeWhile_cons]
    split
    · exact hrest
    · simp

theorem count_quoted (hrest : rest.head? ≠ some '"') :
    countOutsideQuotes t false true (firstLine (escaped cell ++ '"' :: rest)) =
      if Broken cell then 0 else countOutsideQuotes t false false (firstLine rest) := by
  induction cell with
  | nil =>
    have hline : firstLine ('"' :: rest) = '"' :: firstLine rest := rfl
    simp [escaped, hline, countOutsideQuotes, head?_firstLine hrest, Broken]
  | cons c cell ih =>
    have hbroken : Broken (c :: cell) ↔ IsBreak c ∨ Broken cell := by simp [Broken]
    rw [escaped_cons]
    by_cases hc : c = '"'
    · subst hc
      have hline : firstLine (['"', '"'] ++ escaped cell ++ '"' :: rest) =
        '"' :: '"' :: firstLine (escaped cell ++ '"' :: rest) := rfl
      rw [if_pos rfl, hline, countOutsideQuotes, if_pos rfl, if_pos ⟨rfl, rfl⟩, countOutsideQuotes,
        ih]
      exact if_congr (by simp [hbroken, IsBreak]) rfl rfl
    · rw [if_neg hc, append_assoc, singleton_append, firstLine, takeWhile_cons]
      by_cases hbreak : IsBreak c
      · rw [if_neg (by simpa using hbreak), if_pos (hbroken.mpr (.inl hbreak))]
        rfl
      · rw [if_pos (by simpa using hbreak), countOutsideQuotes, if_neg hc, if_neg (by simp),
          Nat.zero_add]
        exact ih.trans (if_congr (by simp [hbroken, hbreak]) rfl rfl)

theorem count_cell (hrest : rest.head? ≠ some '"') :
    countOutsideQuotes t false false (firstLine (quoteCell cell ++ rest)) =
      if Broken cell then 0 else countOutsideQuotes t false false (firstLine rest) := by
  have hline : firstLine (quoteCell cell ++ rest) =
      '"' :: firstLine (escaped cell ++ '"' :: rest) := by
    rw [quoteCell_append]
    rfl
  rw [hline, countOutsideQuotes, if_pos rfl, if_neg (by simp)]
  exact count_quoted hrest

/-! ### Rows -/

/-- What the rows of a table end with. -/
def IsEol (eol : List Char) : Prop := eol = ['\n'] ∨ eol = ['\r', '\n']

def IsDelimiter (d : Char) : Prop := d = ',' ∨ d = ';'

theorem writeRow_cons {cell' : Cell} : writeRow d (cell :: cell' :: cells) =
    quoteCell cell ++ d :: writeRow d (cell' :: cells) := rfl

theorem scan_eol (hd : IsDelimiter d) (heol : IsEol eol) (hs : s.quoted = false) :
    scan d false s (eol ++ rest) =
      scan d false { rows := s.rows ++ [s.row ++ [s.value]] } rest := by
  rcases hd with rfl | rfl <;> rcases heol with rfl | rfl <;> simp [scan, IsBreak, hs]

theorem IsEol.head? (heol : IsEol eol) : (eol ++ rest).head? ≠ some '"' := by
  rcases heol with rfl | rfl <;> simp

theorem IsDelimiter.ne_quote (hd : IsDelimiter d) : d ≠ '"' ∧ ¬IsBreak d := by
  rcases hd with rfl | rfl <;> decide

/-- A row is read with the delimiter it was written with. -/
theorem scan_row (hd : IsDelimiter d) (heol : IsEol eol) (hcells : cells ≠ [])
    {rows : List (List Cell)} {row : List Cell} :
    scan d false { rows, row } (writeRow d cells ++ eol ++ rest) =
      scan d false { rows := rows ++ [row ++ cells] } rest := by
  induction cells generalizing row with
  | nil => exact absurd rfl hcells
  | cons cell cells ih =>
    rcases cells with - | ⟨cell', cells⟩
    · rw [writeRow, append_assoc, scan_cell rfl heol.head?, scan_eol hd heol rfl,
        nil_append]
    · rw [writeRow_cons, append_assoc, append_assoc, scan_cell rfl (by simpa using hd.ne_quote.1),
        cons_append, scan, if_neg hd.ne_quote.1, if_pos ⟨rfl, rfl⟩, nil_append,
        ← append_assoc, ih (cons_ne_nil _ _), append_assoc, singleton_append]

/-- With another delimiter it is one cell. -/
theorem scan_row_of_ne (hd : IsDelimiter d) (hd' : IsDelimiter d') (hne : d ≠ d') (heol : IsEol eol)
    (hcells : cells ≠ []) (rows : List (List Cell)) (value : Cell) :
    ∃ joined, scan d' false { rows, value } (writeRow d cells ++ eol ++ rest) =
      scan d' false { rows := rows ++ [[joined]] } rest := by
  induction cells generalizing value with
  | nil => exact absurd rfl hcells
  | cons cell cells ih =>
    rcases cells with - | ⟨cell', cells⟩
    · refine ⟨value ++ cell, ?_⟩
      rw [writeRow, append_assoc, scan_cell rfl heol.head?, scan_eol hd' heol rfl]
      rfl
    · obtain ⟨joined, h⟩ := ih (cons_ne_nil cell' cells) (value ++ cell ++ [d])
      refine ⟨joined, ?_⟩
      rw [writeRow_cons, append_assoc, append_assoc, scan_cell rfl (by simpa using hd.ne_quote.1),
        cons_append, scan, if_neg hd.ne_quote.1, if_neg (by simp [hne]),
        if_neg (by simp [hd.ne_quote.2]), ← append_assoc]
      exact h

theorem count_row_of_ne (hd : IsDelimiter d) (hne : d ≠ t) (heol : IsEol eol) :
    countOutsideQuotes t false false (firstLine (writeRow d cells ++ eol ++ rest)) = 0 := by
  have hbreak : firstLine (eol ++ rest) = [] := by rcases heol with rfl | rfl <;> rfl
  induction cells with
  | nil => rw [writeRow, nil_append, hbreak, countOutsideQuotes]
  | cons cell cells ih =>
    rcases cells with - | ⟨cell', cells⟩
    · rw [writeRow, append_assoc, count_cell heol.head?, hbreak, countOutsideQuotes, ite_self]
    · have hline : firstLine (d :: (writeRow d (cell' :: cells) ++ eol ++ rest)) =
          d :: firstLine (writeRow d (cell' :: cells) ++ eol ++ rest) :=
        takeWhile_cons_of_pos (by simp [hd.ne_quote.2])
      have hcount : countOutsideQuotes t false false
          (d :: firstLine (writeRow d (cell' :: cells) ++ eol ++ rest)) = 0 := by
        rw [countOutsideQuotes, if_neg hd.ne_quote.1, if_neg (by simp [hne]), ih]
      rw [writeRow_cons, append_assoc, append_assoc, count_cell (by simpa using hd.ne_quote.1),
        cons_append, ← append_assoc, hline, hcount, ite_self]

/-! ### Tables -/

theorem scan_writeCsv (hd : IsDelimiter d) (heol : IsEol eol) {table : List (List Cell)}
    (htable : ∀ row ∈ table, 2 ≤ row.length) (rows : List (List Cell)) :
    scan d false { rows } (writeCsv d eol table) = { rows := rows ++ table } := by
  induction table generalizing rows with
  | nil => rw [writeCsv, flatMap_nil, scan, append_nil]
  | cons row table ih =>
    have hrow : row ≠ [] := fun h => by simpa [h] using htable row mem_cons_self
    rw [writeCsv, flatMap_cons, scan_row hd heol hrow, nil_append]
    refine (ih (fun r hr => htable r (mem_cons_of_mem row hr)) _).trans ?_
    rw [append_assoc, singleton_append]

/-- The rows that are read stay. -/
theorem scan_rows (skip : Bool) (s : Scan) (text : List Char) :
    ∃ more, (scan d skip s text).rows = s.rows ++ more := by
  fun_induction scan d skip s text with
  | case6 s c rest _ _ _ ih =>
    obtain ⟨more, h⟩ := ih
    exact ⟨_, h.trans (append_assoc ..)⟩
  | case1 => exact ⟨[], (append_nil _).symm⟩
  | _ => assumption

/-- The delimiter of the file, and whether it can be told from its first line. -/
theorem delimiterOf_writeCsv (hd : IsDelimiter d) (heol : IsEol eol) {cell' : Cell} :
    delimiterOf (writeRow d (cell :: cell' :: cells) ++ eol ++ rest) = d ↔
      ¬(d = ';' ∧ Broken cell) := by
  have hcount : countOutsideQuotes d false false
      (firstLine (writeRow d (cell :: cell' :: cells) ++ eol ++ rest)) = 0 ↔ Broken cell := by
    have hline : ∀ text, countOutsideQuotes d false false (firstLine (d :: text)) ≠ 0 := by
      intro text
      rw [firstLine, takeWhile_cons_of_pos (by simp [hd.ne_quote.2]), countOutsideQuotes,
        if_neg hd.ne_quote.1, if_pos ⟨rfl, rfl⟩]
      omega
    rw [writeRow_cons, append_assoc, append_assoc,
      count_cell (by simpa using hd.ne_quote.1), cons_append]
    split
    · simp_all
    · simp_all
  rw [delimiterOf]
  rcases hd with rfl | rfl
  · simp only [count_row_of_ne (t := ';') (.inl rfl) (by decide) heol, Nat.not_lt_zero, if_false]
    simp
  · simp only [count_row_of_ne (t := ',') (.inr rfl) (by decide) heol, Nat.pos_iff_ne_zero, ne_eq,
      hcount]
    split <;> simp_all

/-- **A table is read back**, unless the delimiter is a semicolon and the first cell has a line
break. -/
theorem parseCsv_writeCsv_iff (hd : d = ',' ∨ d = ';') (heol : eol = ['\n'] ∨ eol = ['\r', '\n'])
    {table : List (List Cell)} (htable : ∀ row ∈ table, 2 ≤ row.length) :
    parseCsv (writeCsv d eol table) = .ok table ↔
      ∀ row ∈ table.head?, ∀ cell ∈ row.head?, ¬(d = ';' ∧ Broken cell) := by
  rcases table with - | ⟨_ | ⟨cell, _ | ⟨cell', cells⟩⟩, table⟩
  · exact iff_of_true rfl (by simp)
  · exact absurd (htable [] mem_cons_self) (by simp)
  · exact absurd (htable [cell] mem_cons_self) (by simp)
  have htext : writeCsv d eol ((cell :: cell' :: cells) :: table) =
      writeRow d (cell :: cell' :: cells) ++ eol ++ writeCsv d eol table := rfl
  have hdelimiter := @delimiterOf_writeCsv d eol (writeCsv d eol table) cell cells hd heol cell'
  have hiff : (∀ row ∈ ((cell :: cell' :: cells) :: table).head?, ∀ first ∈ row.head?,
      ¬(d = ';' ∧ Broken first)) ↔ ¬(d = ';' ∧ Broken cell) := by simp
  rw [hiff, ← hdelimiter, parseCsv, htext]
  constructor
  · -- with another delimiter, the first row has one cell
    intro hparse
    by_contra hne
    have hd' : IsDelimiter (delimiterOf
        (writeRow d (cell :: cell' :: cells) ++ eol ++ writeCsv d eol table)) := by
      rw [delimiterOf]
      split
      · exact .inr rfl
      · exact .inl rfl
    obtain ⟨joined, hscan⟩ := @scan_row_of_ne d _ eol (writeCsv d eol table) _ hd hd'
      (Ne.symm hne) heol (cons_ne_nil cell (cell' :: cells)) [] []
    obtain ⟨more, hrows⟩ := scan_rows (d := delimiterOf
      (writeRow d (cell :: cell' :: cells) ++ eol ++ writeCsv d eol table)) false
      { rows := [] ++ [[joined]] } (writeCsv d eol table)
    simp only [bind_ok_iff, require_ok_iff, pure_ok_iff, hscan, hrows] at hparse
    obtain ⟨-, -, hparse⟩ := hparse
    split at hparse <;> simp at hparse
  · intro heq
    rw [heq, ← htext, scan_writeCsv hd heol htable]
    rfl

theorem parseCsv_writeCsv_iff_comma :
    parseCsv (writeCsv ',' ['\n'] [[['\n'], ['b']]]) = .ok [[['\n'], ['b']]] ↔
      ∀ row ∈ [[['\n'], ['b']]].head?, ∀ cell ∈ row.head?, ¬(',' = ';' ∧ Broken cell) :=
  parseCsv_writeCsv_iff (.inl rfl) (.inl rfl) (by simp)

/-- **A break in the first cell hides the semicolons**: the row comes back as one cell. -/
theorem line_break_misread :
    parseCsv (writeCsv ';' ['\n'] [[['\n'], ['b']]]) ≠ .ok [[['\n'], ['b']]] := by
  decide

end CrmYnov.ImportProfile
