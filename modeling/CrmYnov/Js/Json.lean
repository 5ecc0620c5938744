import CrmYnov.Js.Text

/-!
# JSON values and their text

Payloads are compared, bounded and screened through `JSON.stringify`, and
fingerprints are digests of such texts. A value here is what the parser gives
back: a number is carried by the text `JSON.stringify` writes for it, an object
by its members in insertion order.
-/

namespace Js

open List

/-- A JSON value. -/
inductive Json where
  /-- `null` -/
  | null : Json
  /-- `true`, `false` -/
  | bool : Bool → Json
  /-- A number, by its canonical text. -/
  | num : String → Json
  /-- A text. -/
  | str : String → Json
  /-- An array. -/
  | arr : List Json → Json
  /-- An object, its members in insertion order. -/
  | obj : List (String × Json) → Json

namespace Json

/-- A hexadecimal digit, in lower case. -/
def hexDigit (n : ℕ) : Char := if n < 10 then Char.ofNat (48 + n) else Char.ofNat (87 + n)

/-- How `JSON.stringify` writes one character of a text. -/
def escapeChar (c : Char) : List Char :=
  if c = '"' then ['\\', '"'] else
  if c = '\\' then ['\\', '\\'] else
  if c.toNat = 8 then ['\\', 'b'] else
  if c.toNat = 9 then ['\\', 't'] else
  if c.toNat = 10 then ['\\', 'n'] else
  if c.toNat = 12 then ['\\', 'f'] else
  if c.toNat = 13 then ['\\', 'r'] else
  if c.toNat < 32 then ['\\', 'u', '0', '0', hexDigit (c.toNat / 16), hexDigit (c.toNat % 16)]
  else [c]

/-- The quoted text of a string. -/
def quote (s : String) : List Char := '"' :: (s.toList.flatMap escapeChar) ++ ['"']

mutual

/-- The characters of `JSON.stringify(value)`. -/
def chars : Json → List Char
  | null => "null".toList
  | bool b => if b then "true".toList else "false".toList
  | num t => t.toList
  | str s => quote s
  | arr [] => ['[', ']']
  | arr (v :: vs) => '[' :: chars v ++ charsTail vs
  | obj [] => ['{', '}']
  | obj ((k, v) :: ms) => '{' :: quote k ++ ':' :: chars v ++ charsMembers ms

/-- The remaining items of an array. -/
def charsTail : List Json → List Char
  | [] => [']']
  | v :: vs => ',' :: chars v ++ charsTail vs

/-- The remaining members of an object. -/
def charsMembers : List (String × Json) → List Char
  | [] => ['}']
  | (k, v) :: ms => ',' :: quote k ++ ':' :: chars v ++ charsMembers ms

end

/-- `JSON.stringify(value)`. -/
def stringify (v : Json) : String := String.ofList v.chars

/-- A natural number. -/
def nat (n : ℕ) : Json := num (toString n)

/-- An integer. -/
def int (n : ℤ) : Json := num (toString n)

/-- The members of an object whose values are given; the source leaves the
others out. -/
def present (ms : List (String × Option Json)) : Json :=
  obj (ms.filterMap fun m => m.2.map fun v => (m.1, v))

/-- `value?.name`: a member of an object. -/
def member (name : String) : Json → Option Json
  | obj ms => (ms.find? fun m => m.1 = name).map Prod.snd
  | _ => none

/-- A value that is a text. -/
def text? : Json → Option String
  | str s => some s
  | _ => none

/-- A value the source takes for true. -/
def truthy : Json → Bool
  | null => false
  | bool b => b
  | num digits => digits != "0"
  | str s => s != ""
  | arr _ => true
  | obj _ => true

example : stringify (obj [("status", str "NEW"), ("version", nat 2)])
    = "\x7b\"status\":\"NEW\",\"version\":2\x7d" := by decide

/-! ### Quoted texts are read back -/

/-- The value of a hexadecimal digit. -/
def hexValue (c : Char) : ℕ := if c.toNat < 58 then c.toNat - 48 else c.toNat - 87

theorem hexValue_hexDigit {n : ℕ} (h : n < 16) : hexValue (hexDigit n) = n := by
  have hall : ∀ n : Fin 16, hexValue (hexDigit n) = n := by decide
  exact hall ⟨n, h⟩

/-- The character an escaped text begins with, and what follows it. -/
def unescape : List Char → Option (Char × List Char)
  | '\\' :: 'u' :: '0' :: '0' :: a :: b :: r => some (Char.ofNat (16 * hexValue a + hexValue b), r)
  | '\\' :: 'b' :: r => some (Char.ofNat 8, r)
  | '\\' :: 't' :: r => some (Char.ofNat 9, r)
  | '\\' :: 'n' :: r => some (Char.ofNat 10, r)
  | '\\' :: 'f' :: r => some (Char.ofNat 12, r)
  | '\\' :: 'r' :: r => some (Char.ofNat 13, r)
  | '\\' :: c :: r => some (c, r)
  | c :: r => some (c, r)
  | [] => none

theorem unescape_escapeChar (c : Char) (r : List Char) :
    unescape (escapeChar c ++ r) = some (c, r) := by
  have hof : ∀ n, c.toNat = n → Char.ofNat n = c := fun n h => by rw [← h, Char.ofNat_toNat]
  rw [escapeChar]
  by_cases h1 : c = '"'
  · subst h1
    rfl
  rw [if_neg h1]
  by_cases h2 : c = '\\'
  · subst h2
    rfl
  rw [if_neg h2]
  by_cases h3 : c.toNat = 8
  · rw [if_pos h3, ← hof 8 h3]
    rfl
  rw [if_neg h3]
  by_cases h4 : c.toNat = 9
  · rw [if_pos h4, ← hof 9 h4]
    rfl
  rw [if_neg h4]
  by_cases h5 : c.toNat = 10
  · rw [if_pos h5, ← hof 10 h5]
    rfl
  rw [if_neg h5]
  by_cases h6 : c.toNat = 12
  · rw [if_pos h6, ← hof 12 h6]
    rfl
  rw [if_neg h6]
  by_cases h7 : c.toNat = 13
  · rw [if_pos h7, ← hof 13 h7]
    rfl
  rw [if_neg h7]
  by_cases h8 : c.toNat < 32
  · rw [if_pos h8]
    simp only [cons_append, nil_append, unescape]
    rw [hexValue_hexDigit (by omega), hexValue_hexDigit (by omega), Nat.div_add_mod,
      Char.ofNat_toNat]
  · rw [if_neg h8]
    simp [unescape, h2]

theorem escapeChar_ne_quote (c : Char) (r : List Char) : (escapeChar c ++ r).head? ≠ some '"' := by
  intro h
  obtain ⟨t, ht⟩ := head?_eq_some_iff.mp h
  have hread := unescape_escapeChar c r
  rw [ht] at hread
  -- a quote is read back as itself, and is not what is written for a quote
  obtain rfl : '"' = c := congrArg Prod.fst (Option.some.inj hread)
  exact absurd (cons.inj ht).1 (by decide)

theorem flatMap_escapeChar_inj {cs ds x y : List Char}
    (h : cs.flatMap escapeChar ++ '"' :: x = ds.flatMap escapeChar ++ '"' :: y) : cs = ds ∧ x = y := by
  induction cs generalizing ds with
  | nil =>
    cases ds with
    | nil => exact ⟨rfl, by simpa using h⟩
    | cons d ds =>
      rw [flatMap_cons, append_assoc] at h
      exact absurd (congrArg head? h).symm (escapeChar_ne_quote d _)
  | cons c cs ih =>
    cases ds with
    | nil =>
      rw [flatMap_cons, append_assoc] at h
      exact absurd (congrArg head? h) (escapeChar_ne_quote c _)
    | cons d ds =>
      rw [flatMap_cons, flatMap_cons, append_assoc, append_assoc] at h
      have hdecode := congrArg unescape h
      rw [unescape_escapeChar, unescape_escapeChar, Option.some.injEq, Prod.mk.injEq] at hdecode
      obtain ⟨rfl, hrest⟩ := hdecode
      obtain ⟨rfl, rfl⟩ := ih hrest
      exact ⟨rfl, rfl⟩

/-- **A quoted text ends where it ends**: what begins with it determines it, and
what follows it. -/
theorem quote_append_inj {s t : String} {x y : List Char} (h : quote s ++ x = quote t ++ y) :
    s = t ∧ x = y := by
  simp only [quote, cons_append, append_assoc, nil_append, cons.injEq,
    true_and] at h
  obtain ⟨hchars, hrest⟩ := flatMap_escapeChar_inj h
  exact ⟨String.ext hchars, hrest⟩
end Json

end Js
