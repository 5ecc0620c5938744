import Mathlib.Data.List.Basic
import Mathlib.Data.List.DropRight

/-!
# Texts of the source language

The string operations the services validate their inputs with: trimming,
character classes repeated a bounded number of times – the shape of every
identifier the source matches a regular expression against –, removal of the
characters of a class, and the normalizations that depend on the Unicode tables.

The tables themselves are not reproduced. A service is a function of the
normalizations its runtime provides (`Js.Unicode`), so what is proved of it holds
for the runtime's own, and `Js.Unicode.ascii`, which agrees with them on ASCII
texts, is there to compute on examples.
-/

namespace Js

open List

/-- Membership bounds the quantifier: the other characters are not looked at. -/
instance (priority := high) decidableAll {p : Char → Prop} [DecidablePred p] (l : List Char) :
    Decidable (∀ c ∈ l, p c) := List.decidableBAll p l

instance (priority := high) decidableAny {p : Char → Prop} [DecidablePred p] (l : List Char) :
    Decidable (∃ c ∈ l, p c) := List.decidableBEx p l

instance (priority := high) decidableMem {p : Char → Prop} [DecidablePred p] (o : Option Char) :
    Decidable (∀ c ∈ o, p c) := Option.decidableForallMem o

variable (c : Char)

/-- The white space and line terminators that `trim` removes and `\s` matches. -/
def isSpace : Bool :=
  (9 ≤ c.val && c.val ≤ 13) || c.val == 32 || c.val == 160 || c.val == 0x1680
    || (0x2000 ≤ c.val && c.val ≤ 0x200A) || c.val == 0x2028 || c.val == 0x2029
    || c.val == 0x202F || c.val == 0x205F || c.val == 0x3000 || c.val == 0xFEFF

variable (s : String)

/-- `s.trim()`. -/
def trim : String :=
  String.ofList ((s.toList.dropWhile isSpace).rdropWhile isSpace)

theorem dropWhile_trimmed {α : Type*} (p : α → Bool) (l : List α) :
    ((l.dropWhile p).rdropWhile p).dropWhile p = (l.dropWhile p).rdropWhile p := by
  rcases hl : (l.dropWhile p).rdropWhile p with - | ⟨a, t⟩
  · rfl
  · -- what is left begins where the list dropped from begins
    have hpre : (l.dropWhile p).rdropWhile p <+: l.dropWhile p := rdropWhile_prefix p _
    rw [hl] at hpre
    obtain ⟨u, hu⟩ := hpre
    have ha : p a = false := by
      have := head?_dropWhile_not p l
      rw [← hu] at this
      simpa using this
    simp [ha]

@[simp] theorem trim_trim : trim (trim s) = trim s := by
  rw [trim, trim, String.toList_ofList, dropWhile_trimmed, rdropWhile_idempotent]

theorem trim_ofList_map {f : Char → Char} (hf : ∀ c, isSpace (f c) = isSpace c) (s : String) :
    trim (String.ofList (s.toList.map f)) = String.ofList ((trim s).toList.map f) := by
  have hcomp : isSpace ∘ f = isSpace := funext hf
  rw [trim, trim, String.toList_ofList, String.toList_ofList, dropWhile_map, hcomp,
    rdropWhile, rdropWhile, ← map_reverse, dropWhile_map, hcomp,
    map_reverse]

/-- A text is present when something is left of it after trimming. -/
def present : Bool := trim s != ""

/-- `Boolean(value?.trim())`: an optional text that is given and not blank. -/
def given (s : Option String) : Bool := s.any present

/-- The number of UTF-16 code units of some characters. -/
def utf16Length : List Char → ℕ
  | [] => 0
  | c :: cs => (if 0x10000 ≤ c.val then 2 else 1) + utf16Length cs

/-- The length of a text in the source: its number of UTF-16 code units. -/
def length : ℕ := utf16Length s.toList

/-- `s.replace(/[^…]/g, "")`: keep the characters of a class. -/
def keep (cls : Char → Bool) (s : String) : String := String.ofList (s.toList.filter cls)

/-! ### Positions -/

/-- `s.indexOf(c)`, when the character occurs. -/
def indexOf : Option ℕ :=
  if c ∈ s.toList then some (utf16Length (s.toList.takeWhile fun d => d != c)) else none

/-- `s.lastIndexOf(c)`, when the character occurs. -/
def lastIndexOf : Option ℕ :=
  if c ∈ s.toList then some (utf16Length (s.toList.rdropWhile fun d => d != c).dropLast) else none

/-- `s.slice(s.indexOf(c) + 1)`: what follows the first occurrence of a
character. -/
def after : String :=
  String.ofList (s.toList.dropWhile fun d => d != c).tail

/-- The characters of `s.slice(0, n)`, as long as they are whole. -/
def sliceChars : ℕ → List Char → List Char
  | _, [] => []
  | n, c :: cs =>
    let width := if 0x10000 ≤ c.val then 2 else 1
    if width ≤ n then c :: sliceChars (n - width) cs else []

/-- `s.slice(0, n)` -/
def slice (n : ℕ) (s : String) : String := String.ofList (sliceChars n s.toList)

theorem toString_nat_inj {m n : ℕ} (h : toString m = toString n) : m = n := by
  rw [← Nat.ofDigitChars_ten_toDigits (n := m), ← Nat.ofDigitChars_ten_toDigits (n := n),
    ← Nat.toList_repr, ← Nat.toList_repr]
  exact congrArg (fun s : String => Nat.ofDigitChars 10 s.toList 0) h

theorem toString_int_inj {a b : ℤ} (h : toString a = toString b) : a = b := by
  simp only [Int.toString_eq_repr, Int.repr_eq_if] at h
  -- the text of a natural number has no sign
  have hsign : ∀ m n : ℕ, m.repr ≠ "-" ++ n.repr := by
    intro m n heq
    have hmem : '-' ∈ m.repr.toList := by rw [heq]; simp
    rw [Nat.toList_repr] at hmem
    have := Nat.isDigit_of_mem_toDigits (by omega) (by omega) hmem
    simp at this
  split at h <;> split at h
  · have := toString_nat_inj h
    omega
  · exact absurd h (hsign _ _)
  · exact absurd h.symm (hsign _ _)
  · have := toString_nat_inj (String.append_right_inj _ |>.mp h)
    omega

/-- Two lists with a separator that does not come back after it are equal when their
parts are. -/
theorem parts_eq_of_last {a a' d d' : List Char} {c : Char} (hd : c ∉ d) (hd' : c ∉ d')
    (h : a ++ c :: d = a' ++ c :: d') : a = a' ∧ d = d' := by
  have htail : ∀ x l : List Char, c ∉ l →
      (x ++ c :: l).reverse.takeWhile (fun b => b ≠ c) = l.reverse := by
    intro x l hl
    rw [reverse_append, reverse_cons, append_assoc, takeWhile_append_of_pos]
    · simp
    · intro b hb
      have hne : b ≠ c := fun hbc => hl (hbc ▸ mem_reverse.mp hb)
      simpa using hne
  obtain rfl : d = d' := by
    rw [← reverse_inj, ← htail a d hd, ← htail a' d' hd', h]
  exact ⟨append_cancel_right h, rfl⟩

theorem colon_notMem_toString (n : ℕ) : ':' ∉ (toString n).toList := by
  intro h
  have hrepr : ':' ∈ (Nat.repr n).toList := h
  rw [Nat.toList_repr] at hrepr
  have hdigit := Nat.isDigit_of_mem_toDigits (b := 10) (by decide) (by decide) hrepr
  cases hdigit

/-- A key and a number are read off the key with the number. -/
theorem numbered_inj {k k' : String} {i j : ℕ}
    (h : k ++ ":" ++ toString i = k' ++ ":" ++ toString j) : k = k' ∧ i = j := by
  have hchars := congrArg String.toList h
  simp only [String.toList_append, append_assoc] at hchars
  obtain ⟨hkey, hnumber⟩ := parts_eq_of_last (colon_notMem_toString i) (colon_notMem_toString j)
    hchars
  exact ⟨String.ext hkey, toString_nat_inj (String.ext hnumber)⟩

/-- `s.startsWith(head)` -/
def startsWith (head s : String) : Bool := head.toList.isPrefixOf s.toList

/-! ### Character classes -/

/-- `[0-9]`. -/
def isDigit : Bool := '0' ≤ c && c ≤ '9'

/-- `[a-z]`. -/
def isLower : Bool := 'a' ≤ c && c ≤ 'z'

/-- `[A-Z]`. -/
def isUpper : Bool := 'A' ≤ c && c ≤ 'Z'

/-- `[A-Za-z0-9]`. -/
def isAlnum : Bool := isLower c || isUpper c || isDigit c

theorem isSpace_of_isAlnum {c : Char} (h : isAlnum c = true) : isSpace c = false := by
  simp only [isAlnum, isLower, isUpper, isDigit, Bool.or_eq_true, Bool.and_eq_true,
    decide_eq_true_eq, Char.le_def, UInt32.le_iff_toNat_le] at h
  simp only [isSpace, Bool.or_eq_false_iff, Bool.and_eq_false_iff, decide_eq_false_iff_not,
    beq_eq_false_iff_ne, UInt32.le_iff_toNat_le, ne_eq, UInt32.ext_iff]
  simp only [Char.reduceVal, UInt32.reduceToNat] at h ⊢
  omega

theorem trim_of_forall {s : String} (h : ∀ c ∈ s.toList, isSpace c = false) : trim s = s := by
  have hspace : ∀ c ∈ s.toList, ¬isSpace c = true := fun c hc => by
    rw [h c hc]
    exact Bool.false_ne_true
  rw [trim, dropWhile_eq_self_iff.mpr fun hl => hspace _ (getElem_mem _),
    rdropWhile_eq_self_iff.mpr fun hl => hspace _ (getLast_mem _), String.ofList_toList]

/-- `[0-9a-f]`. -/
def isHexDigit : Bool := isDigit c || ('a' ≤ c && c ≤ 'f')

/-- `[0-9a-f]`, whatever the case. -/
def isHexDigitAnyCase : Bool := isHexDigit c || ('A' ≤ c && c ≤ 'F')

/-- A text whose characters are of given classes, one after the other. -/
def hasShape (classes : List (Char → Bool)) (s : String) : Bool :=
  s.toList.length == classes.length && (s.toList.zip classes).all fun e => e.2 e.1

/-- `/^[…]{lo,hi}$/`. -/
def fullMatch (cls : Char → Bool) (lo hi : ℕ) (s : String) : Bool :=
  s.toList.all cls && lo ≤ s.toList.length && s.toList.length ≤ hi

/-- `/^[…][…]{lo,hi}$/`: one character of a first class, then some of a second. -/
def headMatch (first cls : Char → Bool) (lo hi : ℕ) (s : String) : Bool :=
  match s.toList with
  | [] => false
  | c :: cs => first c && cs.all cls && lo ≤ cs.length && cs.length ≤ hi

theorem forall_of_hasShape {classes : List (Char → Bool)} {text : String} {P : Char → Prop}
    (h : hasShape classes text = true) (hclasses : ∀ cls ∈ classes, ∀ c, cls c = true → P c) :
    ∀ c ∈ text.toList, P c := by
  rw [hasShape, Bool.and_eq_true, beq_iff_eq, all_eq_true] at h
  intro c hc
  rw [← map_fst_zip h.1.le] at hc
  obtain ⟨e, he, rfl⟩ := mem_map.mp hc
  exact hclasses e.2 (of_mem_zip he).2 e.1 (h.2 e he)

theorem parts_eq_of_first {a a' d d' : List Char} {c : Char} (ha : c ∉ a) (ha' : c ∉ a')
    (h : a ++ c :: d = a' ++ c :: d') : a = a' ∧ d = d' := by
  have hreverse : d.reverse ++ c :: a.reverse = d'.reverse ++ c :: a'.reverse := by
    simpa using congrArg reverse h
  obtain ⟨hd, ha⟩ := parts_eq_of_last (by simpa using ha) (by simpa using ha') hreverse
  exact ⟨reverse_inj.mp ha, reverse_inj.mp hd⟩

/-! ### Normalizations -/

/-- The normalizations of the runtime that depend on the Unicode tables. -/
structure Unicode where
  /-- `s.toLowerCase()` -/
  toLowerCase : String → String
  /-- `s.toUpperCase()` -/
  toUpperCase : String → String
  /-- `s.toLocaleLowerCase("fr")` -/
  toLocaleLowerCase : String → String
  /-- `s.toLocaleUpperCase("fr")` -/
  toLocaleUpperCase : String → String
  /-- `s.normalize("NFC")` -/
  normalizeNFC : String → String
  /-- `s.normalize("NFD")` -/
  normalizeNFD : String → String

/-- The lower case of an ASCII letter. -/
def lowerChar : Char := if isUpper c then Char.ofNat (c.toNat + 32) else c

/-- The upper case of an ASCII letter. -/
def upperChar : Char := if isLower c then Char.ofNat (c.toNat - 32) else c

theorem exists_of_isUpper {c : Char} (h : isUpper c = true) :
    ∃ n : Fin 26, c = Char.ofNat (65 + n) := by
  simp only [isUpper, Bool.and_eq_true, decide_eq_true_eq] at h
  have hlo : 65 ≤ c.toNat := h.1
  have hhi : c.toNat ≤ 90 := h.2
  refine ⟨⟨c.toNat - 65, by omega⟩, ?_⟩
  have : 65 + (c.toNat - 65) = c.toNat := by omega
  simp [this]

theorem isSpace_lowerChar : isSpace (lowerChar c) = isSpace c := by
  by_cases hc : isUpper c
  · have hn : ∀ n : Fin 26, isSpace (lowerChar (Char.ofNat (65 + n))) =
        isSpace (Char.ofNat (65 + n)) := by decide
    obtain ⟨n, rfl⟩ := exists_of_isUpper hc
    exact hn n
  · rw [lowerChar, if_neg hc]

theorem lowerChar_lowerChar : lowerChar (lowerChar c) = lowerChar c := by
  by_cases hc : isUpper c
  · have hn : ∀ n : Fin 26, lowerChar (lowerChar (Char.ofNat (65 + n))) =
        lowerChar (Char.ofNat (65 + n)) := by decide
    obtain ⟨n, rfl⟩ := exists_of_isUpper hc
    exact hn n
  · rw [lowerChar, lowerChar, if_neg hc, if_neg hc]

/-- The runtime's normalizations, as they act on ASCII texts. -/
def Unicode.ascii : Unicode where
  toLowerCase s := String.ofList (s.toList.map lowerChar)
  toUpperCase s := String.ofList (s.toList.map upperChar)
  toLocaleLowerCase s := String.ofList (s.toList.map lowerChar)
  toLocaleUpperCase s := String.ofList (s.toList.map upperChar)
  normalizeNFC s := s
  normalizeNFD s := s

example : trim "  Ab c\t\n" = "Ab c" := by decide

end Js
