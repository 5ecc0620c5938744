import CrmYnov.Js.Json

/-!
# What the services use of their runtime

Digests, Unicode tables, the parsing of dates and the normal form under which
the database keeps a `jsonb` value are functions the services call and do not
define. A service is a function of them (`CrmYnov.Runtime`), and what is proved
of it holds whatever they are; `CrmYnov.Runtime.plain` is a runtime to compute
examples with.
-/

namespace CrmYnov

abbrev Instant := ℤ

structure Runtime where
  unicode : Js.Unicode
  /-- `createHash("sha256").update(text).digest("hex")` -/
  sha256 : String → String
  /-- The value the database gives back for a stored `jsonb` value. -/
  jsonb : Js.Json → Js.Json
  /-- `new Date(text)`, when it is a date. -/
  parseDate : String → Option Instant

/-- A runtime to compute with: ASCII texts, no digest, values kept as they
are. -/
def Runtime.plain : Runtime := ⟨Js.Unicode.ascii, fun s => s, fun v => v, fun _ => none⟩

end CrmYnov

/-!
## Identifiers of rows

The database keeps the identifiers of its rows as UUIDs: it reads a text in any
letter case and gives it back in lower case. Two texts therefore name one row
when they are read alike, while two columns of texts are compared letter by
letter. A text is *canonical* when it is how the database writes what it reads.
-/

namespace CrmYnov

/-- `/^[a-f\d]{8}(-[a-f\d]{4}){3}-[a-f\d]{12}$/i` -/
def isUuidText (text : String) : Bool :=
  let digits := fun n => List.replicate n Js.isHexDigitAnyCase
  let hyphen := [fun c => c == '-']
  Js.hasShape (digits 8 ++ hyphen ++ digits 4 ++ hyphen ++ digits 4 ++ hyphen ++ digits 4 ++ hyphen
    ++ digits 12) text

/-- The identifier a text names, as the database writes it. -/
def readUuid (text : String) : Option String :=
  if isUuidText text then some (String.ofList (text.toList.map Js.lowerChar)) else none

/-- The text is how the database writes the identifier it names. -/
def Canonical (text : String) : Prop := readUuid text = some text
deriving Decidable

theorem Canonical.length_eq {text : String} (h : Canonical text) : text.toList.length = 36 := by
  rw [Canonical, readUuid] at h
  split at h
  · rename_i huuid
    simp only [isUuidText, Js.hasShape, Bool.and_eq_true, beq_iff_eq] at huuid
    rw [huuid.1]
    simp
  · cases h

/-- **Canonical texts that are read alike are one text.** -/
theorem Canonical.eq_of_read {a b u : String} (ha : Canonical a) (hb : Canonical b)
    (hua : readUuid a = some u) (hub : readUuid b = some u) : a = b := by
  rw [Canonical, hua] at ha
  rw [Canonical, hub] at hb
  exact (Option.some.inj ha).symm.trans (Option.some.inj hb)

/-- The classes of characters of an identifier keep their letters in lower
case. -/
theorem hasShape_lowerChar {classes : List (Char → Bool)}
    (hclasses : ∀ cls ∈ classes, ∀ c, cls c = true → cls (Js.lowerChar c) = true) {cs : List Char}
    (h : Js.hasShape classes (String.ofList cs) = true) :
    Js.hasShape classes (String.ofList (cs.map Js.lowerChar)) = true := by
  simp only [Js.hasShape, String.toList_ofList, Bool.and_eq_true, beq_iff_eq, List.all_eq_true,
    List.length_map] at h ⊢
  obtain ⟨hlength, hall⟩ := h
  refine ⟨hlength, fun e he => ?_⟩
  rw [List.zip_map_left, List.mem_map] at he
  obtain ⟨e, hmem, rfl⟩ := he
  exact hclasses e.2 (List.of_mem_zip hmem).2 e.1 (hall e hmem)

theorem isHexDigitAnyCase_lowerChar {c : Char} (h : Js.isHexDigitAnyCase c = true) :
    Js.isHexDigitAnyCase (Js.lowerChar c) = true := by
  by_cases hc : Js.isUpper c
  · have hn : ∀ n : Fin 26, Js.isHexDigitAnyCase (Char.ofNat (65 + n)) = true →
        Js.isHexDigitAnyCase (Js.lowerChar (Char.ofNat (65 + n))) = true := by decide
    obtain ⟨n, rfl⟩ := Js.exists_of_isUpper hc
    exact hn n h
  · rwa [Js.lowerChar, if_neg hc]

/-- **What the database writes is canonical.** -/
theorem canonical_of_read {text user : String} (h : readUuid text = some user) :
    Canonical user := by
  rw [readUuid] at h
  split at h
  · rename_i huuid
    cases h
    have hlower : isUuidText (String.ofList (text.toList.map Js.lowerChar)) = true := by
      refine hasShape_lowerChar (fun cls hcls c hc => ?_) (by rwa [String.ofList_toList])
      simp only [List.mem_append, List.mem_replicate, List.mem_singleton] at hcls
      have hcases : cls = Js.isHexDigitAnyCase ∨ cls = fun c => c == '-' := by tauto
      rcases hcases with rfl | rfl
      · exact isHexDigitAnyCase_lowerChar hc
      · obtain rfl := beq_iff_eq.mp hc
        decide
    rw [Canonical, readUuid, if_pos hlower, String.toList_ofList, List.map_map]
    congr 3
    exact funext Js.lowerChar_lowerChar
  · cases h

end CrmYnov
