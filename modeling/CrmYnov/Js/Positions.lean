import CrmYnov.Js.Text

/-!
# The positions of a character

The services look for a character in a text from the left, from the right, or from
a position on. All three read one list: the positions where the character occurs,
in increasing order (`Js.positions`). The first of them is `indexOf`, the last is
`lastIndexOf`, and `indexOf` with a start is the first that is not below it.
-/

namespace Js

open List

/-- The positions of a character among characters that begin at a position. -/
def positionsFrom (c : Char) : ℕ → List Char → List ℕ
  | _, [] => []
  | n, d :: ds =>
    (if d = c then [n] else []) ++ positionsFrom c (n + utf16Length [d]) ds

variable (c : Char)

/-- The positions of a character in a text. -/
def positions (s : String) : List ℕ := positionsFrom c 0 s.toList

/-- `s.indexOf(c, start)`, when the character occurs there. -/
def indexOfFrom (start : ℕ) (s : String) : Option ℕ :=
  (positions c s).find? fun p => start ≤ p

/-- A position as the source writes it: `-1` when there is none. -/
def position (p : Option ℕ) : ℤ := (p.map Nat.cast).getD (-1)

theorem utf16Length_append (l r : List Char) :
    utf16Length (l ++ r) = utf16Length l + utf16Length r := by
  induction l with
  | nil => simp [utf16Length]
  | cons c l ih =>
    rw [cons_append, utf16Length, utf16Length, ih]
    omega

theorem utf16Length_cons (l : List Char) :
    utf16Length (c :: l) = utf16Length [c] + utf16Length l := utf16Length_append [c] l

theorem one_le_utf16Length : 1 ≤ utf16Length [c] := by
  rw [utf16Length, utf16Length]
  split <;> omega

theorem positionsFrom_append (n : ℕ) (l r : List Char) :
    positionsFrom c n (l ++ r) = positionsFrom c n l ++ positionsFrom c (n + utf16Length l) r := by
  induction l generalizing n with
  | nil => rfl
  | cons d l ih =>
    rw [cons_append, positionsFrom, positionsFrom, ih, utf16Length_cons d l,
      append_assoc, Nat.add_assoc]

variable {c : Char}

theorem bounds_of_mem {n p : ℕ} {cs : List Char} (h : p ∈ positionsFrom c n cs) :
    n ≤ p ∧ p < n + utf16Length cs := by
  induction cs generalizing n with
  | nil => cases h
  | cons d ds ih =>
    have hd := one_le_utf16Length d
    rw [positionsFrom, mem_append] at h
    rw [utf16Length_cons]
    rcases h with h | h
    · split at h
      · obtain rfl := mem_singleton.mp h
        omega
      · cases h
    · obtain ⟨hlo, hhi⟩ := ih h
      omega

variable {s : String}

theorem lt_length_of_mem {p : ℕ} (h : p ∈ positions c s) : p < length s := by
  have hbounds := bounds_of_mem h
  rw [length]
  omega

/-- **The positions increase.** -/
theorem pairwise_positionsFrom (c : Char) (n : ℕ) (cs : List Char) :
    (positionsFrom c n cs).Pairwise (· < ·) := by
  induction cs generalizing n with
  | nil => exact Pairwise.nil
  | cons d ds ih =>
    have hd := one_le_utf16Length d
    rw [positionsFrom]
    split
    · refine pairwise_cons.mpr ⟨fun p hp => ?_, ih _⟩
      have hbounds := bounds_of_mem hp
      omega
    · exact ih _

theorem pairwise_positions (c : Char) (s : String) : (positions c s).Pairwise (· < ·) :=
  pairwise_positionsFrom c 0 s.toList

/-! ### The first and the last -/

section Sorted

variable {l : List ℕ} {p : ℕ}

theorem find?_eq_some_of_pairwise (h : l.Pairwise (· < ·)) {start : ℕ} :
    l.find? (fun p => start ≤ p) = some p ↔ p ∈ l ∧ start ≤ p ∧ ∀ q ∈ l, start ≤ q → p ≤ q := by
  induction l with
  | nil => simp
  | cons a l ih =>
    obtain ⟨ha, hl⟩ := pairwise_cons.mp h
    by_cases hstart : start ≤ a
    · rw [find?_cons_of_pos (by simpa using hstart)]
      constructor
      · intro hp
        cases hp
        refine ⟨mem_cons_self, hstart, fun q hq _ => ?_⟩
        rcases mem_cons.mp hq with rfl | hq
        · exact le_refl _
        · exact (ha q hq).le
      · rintro ⟨hp, -, hmin⟩
        have hle := hmin a mem_cons_self hstart
        rcases mem_cons.mp hp with rfl | hp
        · rfl
        · have hlt := ha p hp
          omega
    · rw [find?_cons_of_neg (by simpa using hstart), ih hl]
      constructor
      · rintro ⟨hp, hsp, hmin⟩
        refine ⟨mem_cons_of_mem a hp, hsp, fun q hq hsq => ?_⟩
        rcases mem_cons.mp hq with rfl | hq
        · exact absurd hsq hstart
        · exact hmin q hq hsq
      · rintro ⟨hp, hsp, hmin⟩
        rcases mem_cons.mp hp with rfl | hp
        · exact absurd hsp hstart
        · exact ⟨hp, hsp, fun q hq => hmin q (mem_cons_of_mem a hq)⟩

theorem head?_eq_some_of_pairwise (h : l.Pairwise (· < ·)) :
    l.head? = some p ↔ p ∈ l ∧ ∀ q ∈ l, p ≤ q := by
  have hhead : l.head? = l.find? fun p => 0 ≤ p := by cases l <;> simp
  rw [hhead, find?_eq_some_of_pairwise h]
  simp

theorem getLast?_eq_some_of_pairwise (h : l.Pairwise (· < ·)) :
    l.getLast? = some p ↔ p ∈ l ∧ ∀ q ∈ l, q ≤ p := by
  induction l using reverseRecOn with
  | nil => simp
  | append_singleton l a _ =>
    obtain ⟨-, -, ha⟩ := pairwise_append.mp h
    rw [getLast?_concat]
    constructor
    · intro hp
      obtain rfl := Option.some.inj hp
      refine ⟨by simp, fun q hq => ?_⟩
      rcases mem_append.mp hq with hq | hq
      · exact (ha q hq a mem_cons_self).le
      · exact (mem_singleton.mp hq).le
    · rintro ⟨hp, hmax⟩
      rcases mem_append.mp hp with hp | hp
      · have hlt := ha p hp a mem_cons_self
        have hle := hmax a (by simp)
        omega
      · rw [mem_singleton.mp hp]

end Sorted

theorem indexOf_eq_head? (c : Char) (s : String) : indexOf c s = (positions c s).head? := by
  have hlist : ∀ n cs, (positionsFrom c n cs).head? =
      if c ∈ cs then some (n + utf16Length (cs.takeWhile fun d => d != c)) else none := by
    intro n cs
    induction cs generalizing n with
    | nil => rfl
    | cons d ds ih =>
      rw [positionsFrom]
      by_cases hd : d = c
      · subst hd
        simp [utf16Length]
      · have hne : c ≠ d := fun h => hd h.symm
        rw [if_neg hd, nil_append, ih, takeWhile_cons_of_pos (by simpa using hd),
          utf16Length_cons d (ds.takeWhile _), Nat.add_assoc]
        simp [hne]
  rw [indexOf, positions, hlist]
  simp

theorem lastIndexOf_eq_getLast? (c : Char) (s : String) :
    lastIndexOf c s = (positions c s).getLast? := by
  have hlist : ∀ cs, (positionsFrom c 0 cs).getLast? =
      if c ∈ cs then some (utf16Length (cs.rdropWhile fun d => d != c).dropLast) else none := by
    intro cs
    induction cs using reverseRecOn with
    | nil => rfl
    | append_singleton l d ih =>
      rw [positionsFrom_append, positionsFrom, positionsFrom, append_nil]
      by_cases hd : d = c
      · subst hd
        rw [if_pos rfl, getLast?_concat, rdropWhile_concat_neg _ _ _ (by simp)]
        simp
      · have hne : c ≠ d := fun h => hd h.symm
        rw [if_neg hd, append_nil, ih, rdropWhile_concat_pos _ _ _ (by simpa using hd)]
        simp [hne]
  rw [lastIndexOf, positions, hlist]

theorem indexOf_eq_some {p : ℕ} :
    indexOf c s = some p ↔ p ∈ positions c s ∧ ∀ q ∈ positions c s, p ≤ q := by
  rw [indexOf_eq_head?, head?_eq_some_of_pairwise (pairwise_positions c s)]

theorem lastIndexOf_eq_some {p : ℕ} :
    lastIndexOf c s = some p ↔ p ∈ positions c s ∧ ∀ q ∈ positions c s, q ≤ p := by
  rw [lastIndexOf_eq_getLast?, getLast?_eq_some_of_pairwise (pairwise_positions c s)]

theorem indexOfFrom_eq_some {start : ℕ} {p : ℕ} :
    indexOfFrom c start s = some p ↔
      p ∈ positions c s ∧ start ≤ p ∧ ∀ q ∈ positions c s, start ≤ q → p ≤ q := by
  rw [indexOfFrom, find?_eq_some_of_pairwise (pairwise_positions c s)]

theorem lastIndexOf_eq_none : lastIndexOf c s = none ↔ positions c s = [] := by
  rw [lastIndexOf_eq_getLast?, getLast?_eq_none_iff]

theorem indexOfFrom_eq_none {start : ℕ} :
    indexOfFrom c start s = none ↔ ∀ q ∈ positions c s, q < start := by
  simp [indexOfFrom, find?_eq_none]

end Js
