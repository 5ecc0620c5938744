import CrmYnov.Bootstrap.Rows

/-!
# When two contacts are found to be one

A contact is put into its normal form by the service, and looked for by the database. The service
takes every whitespace from around a text, the database takes spaces alone: they agree on a stored
contact exactly when it shares its normal form with the new one by a text that has nothing but
spaces around it (`CrmYnov.Bootstrap.exact_iff`).
-/

namespace CrmYnov.Bootstrap

open Checked Bootstrap.Sample Js References List

section

variable {α : Type*} {p q : α → Bool} {l : List α}

/-- Two trimmings agree when what the narrower one leaves holds nothing that only the wider one
takes. -/
theorem trimmed_eq_of_imp (hqp : ∀ a, q a → p a)
    (h : ∀ a ∈ (l.dropWhile q).rdropWhile q, p a → q a) :
    (l.dropWhile p).rdropWhile p = (l.dropWhile q).rdropWhile q := by
  have hdrop : ∀ l : List α, (l.dropWhile q).dropWhile p = l.dropWhile p := by
    intro l
    conv_rhs => rw [← takeWhile_append_dropWhile (p := q) (l := l)]
    exact (dropWhile_append_of_pos fun a ha => hqp a (mem_takeWhile_imp ha)).symm
  have hends : ∀ l : List α, (l.rdropWhile q).rdropWhile p = l.rdropWhile p := by
    intro l
    simp only [rdropWhile, reverse_reverse, hdrop]
  rw [← hdrop l]
  set d := l.dropWhile q with hd
  rcases hm : d.rdropWhile q with - | ⟨a, rest⟩
  · have hall : d.dropWhile p = [] := dropWhile_eq_nil_iff.mpr fun a ha =>
      hqp a (rdropWhile_eq_nil_iff.mp hm a ha)
    rw [hall, rdropWhile_nil]
  · rw [hm] at h
    obtain ⟨last, hlast⟩ : a :: rest <+: d := hm ▸ rdropWhile_prefix q d
    have ha : ¬p a := by
      intro hpa
      have hhead := head?_dropWhile_not q l
      rw [← hd, ← hlast] at hhead
      exact absurd (h a mem_cons_self hpa) (by simpa using hhead)
    have hself : d.dropWhile p = d := by
      rw [← hlast]
      exact dropWhile_cons_of_neg ha
    rw [hself, ← hends, hm, rdropWhile_eq_self_iff]
    intro hne hp
    have hnot := rdropWhile_last_not q d (by rw [hm]; exact hne)
    simp only [hm] at hnot
    exact hnot (h _ (getLast_mem hne) hp)

end

theorem trim_eq_btrim {text : String}
    (h : ∀ c ∈ (btrim text).toList, isSpace c → c = ' ') : trim text = btrim text := by
  rw [btrim, String.toList_ofList] at h
  rw [trim, btrim, trimmed_eq_of_imp (q := fun c => c == ' ')]
  · intro c hc
    rw [beq_iff_eq.mp hc]
    decide
  · exact fun c hc hspace => beq_iff_eq.mpr (h c hc hspace)

variable {rt : ImportRuntime} {email phone storedEmail storedPhone value : Option String}

/-- `toLowerCase` neither makes nor takes white space. -/
def KeepsSpace (rt : ImportRuntime) : Prop :=
  ∀ text, (rt.unicode.toLowerCase text).toList.any isSpace = text.toList.any isSpace

/-- A text has nothing but spaces around it. -/
def Plain (value : Option String) : Prop := ∀ text ∈ value, trim text = btrim text

theorem normalizeHistoricalEmail_eq_some {e : String} :
    normalizeHistoricalEmail rt value = some e ↔
      (∃ text ∈ value, rt.unicode.toLowerCase (trim text) = e) ∧
        e ≠ "" ∧ length e ≤ 254 ∧ isHistoricalEmail e := by
  simp [normalizeHistoricalEmail, Option.filter_eq_some_iff]

theorem normalizeHistoricalPhone_eq_some {p : String} :
    normalizeHistoricalPhone value = some p ↔
      (∃ text ∈ value, isPhoneText (trim text) ∧ compactPhone (trim text) = p) ∧
        Ingestion.isPhone p := by
  simp [normalizeHistoricalPhone, Option.filter_eq_some_iff, and_assoc]

/-- **The database finds an email** whose normal form has only spaces around it. -/
theorem lower_btrim_iff {e : String}
    (hspace : KeepsSpace rt) (he : normalizeHistoricalEmail rt email = some e) :
    value.map (fun text => rt.unicode.toLowerCase (btrim text)) = some e ↔
      normalizeHistoricalEmail rt value = some e ∧ Plain value := by
  obtain ⟨-, hform⟩ := normalizeHistoricalEmail_eq_some.mp he
  rw [normalizeHistoricalEmail_eq_some, Option.map_eq_some_iff]
  constructor
  · rintro ⟨text, rfl, hlower⟩
    have hnone : (btrim text).toList.any isSpace = false := by
      rw [← hspace, hlower]
      have := hform.2.2
      simp only [isHistoricalEmail, Bool.and_eq_true, Bool.not_eq_true'] at this
      exact this.1.1.2
    have htrim : trim text = btrim text := trim_eq_btrim fun c hc hs =>
      absurd (any_eq_true.mpr ⟨c, hc, hs⟩) (by simp [hnone])
    refine ⟨⟨⟨text, rfl, by rw [htrim, hlower]⟩, hform⟩, ?_⟩
    rintro _ ⟨⟩
    exact htrim
  · rintro ⟨⟨⟨text, rfl, hlower⟩, -⟩, hplain⟩
    exact ⟨text, rfl, by rw [← hplain text rfl, hlower]⟩

theorem eq_space_of_isPhoneText {text : String} (h : isPhoneText text) {c : Char}
    (hc : c ∈ text.toList) (hs : isSpace c) : c = ' ' := by
  have hchars : c = '+' ∨ isDigit c ∨ isPhoneMark c := by
    simp only [isPhoneText, Bool.and_eq_true, all_eq_true, Bool.or_eq_true] at h
    split at h
    · rename_i hplus
      obtain ⟨rest, hrest⟩ := head?_eq_some_iff.mp (beq_iff_eq.mp hplus)
      rw [hrest] at hc h
      exact (mem_cons.mp hc).imp id (h.2 c)
    · exact .inr (h.2 c hc)
  rcases hchars with rfl | hdigit | hmark
  · cases hs
  · rw [isSpace_of_isAlnum (by simp [isAlnum, hdigit])] at hs
    cases hs
  · simp only [isPhoneMark, Bool.or_eq_true, beq_iff_eq] at hmark
    rcases hmark with (((rfl | rfl) | rfl) | rfl) | rfl
    · rfl
    all_goals cases hs

/-- **The database finds a phone** whose text has only spaces around it. -/
theorem compact_btrim_iff {p : String} (hp : normalizeHistoricalPhone phone = some p) :
    (∃ text ∈ value, isPhoneText (btrim text) ∧ compactPhone (btrim text) = p) ↔
      normalizeHistoricalPhone value = some p ∧ Plain value := by
  obtain ⟨-, hform⟩ := normalizeHistoricalPhone_eq_some.mp hp
  rw [normalizeHistoricalPhone_eq_some]
  constructor
  · rintro ⟨text, rfl, htext, hcompact⟩
    have htrim : trim text = btrim text :=
      trim_eq_btrim fun c hc hs => eq_space_of_isPhoneText htext hc hs
    rw [← htrim] at htext hcompact
    refine ⟨⟨⟨text, rfl, htext, hcompact⟩, hform⟩, ?_⟩
    rintro _ ⟨⟩
    exact htrim
  · rintro ⟨⟨⟨text, rfl, htext, hcompact⟩, -⟩, hplain⟩
    rw [hplain text rfl] at htext hcompact
    exact ⟨text, rfl, htext, hcompact⟩

/-- Two contacts have an email or a phone of one normal form, and the stored one is such that. -/
def SharesVia (rt : ImportRuntime) (via : Option String → Prop) (email phone : Option String)
    (stored : Option String × Option String) : Prop :=
  (∃ e, normalizeHistoricalEmail rt email = some e ∧
      normalizeHistoricalEmail rt stored.1 = some e ∧ via stored.1) ∨
    ∃ p, normalizeHistoricalPhone phone = some p ∧
      normalizeHistoricalPhone stored.2 = some p ∧ via stored.2

/-- Two contacts have an email or a phone of one normal form. -/
def Shares (rt : ImportRuntime) : Option String → Option String →
    Option String × Option String → Prop := SharesVia rt fun _ => True

/-- The database finds a stored contact to be the one of two texts. -/
def Detects (rt : ImportRuntime) (email phone : Option String)
    (stored : Option String × Option String) : Prop :=
  meetsContact rt (normalizeHistoricalEmail rt email) (normalizeHistoricalPhone phone) stored.1
    stored.2

theorem detects_iff (hspace : KeepsSpace rt) {stored : Option String × Option String} :
    Detects rt email phone stored ↔ SharesVia rt Plain email phone stored := by
  refine or_congr (exists_congr fun e => and_congr_right fun he => ?_)
    (exists_congr fun p => and_congr_right fun hp => ?_)
  · exact lower_btrim_iff hspace he
  · exact compact_btrim_iff hp

/-- The contacts of a campus: those of its dossiers, and of the decisions that wait. -/
def scopedContacts (s : ImportStore) (campus : CanonicalCampus) (rowId : Uuid) :
    List (Option String × Option String) :=
  (s.db.leads.findMany fun l => l.campus ∈ campus.keys).map (fun l => (l.email, l.phone)) ++
    (scopedDecisions s campus.id rowId).map fun d =>
      (d.resolved.text "email", d.resolved.text "phone")

theorem not_detects_of_ok {s : ImportStore} {campus : CanonicalCampus} {rowId : Uuid}
    (h : requireNoHistoricalContactCollision rt s campus rowId
      (normalizeHistoricalEmail rt email) (normalizeHistoricalPhone phone) = .ok ()) :
    ∀ stored ∈ scopedContacts s campus rowId, ¬Detects rt email phone stored := by
  simp only [requireNoHistoricalContactCollision, ok_iff] at h
  obtain ⟨-, -, hleads, hdecisions⟩ := h
  intro stored hstored
  rcases mem_append.mp hstored with hmem | hmem
  · obtain ⟨l, hl, rfl⟩ := mem_map.mp hmem
    exact hleads l hl
  · obtain ⟨d, hd, rfl⟩ := mem_map.mp hmem
    exact hdecisions d hd

section

variable (rt) (s : ImportStore) (campus : CanonicalCampus) (rowId : Uuid)
  (email phone : Option String)

/-- The database finds the contacts that the service knows, and no dossier is created for one. -/
def Exact : Prop :=
  (∀ stored ∈ scopedContacts s campus rowId,
    (Detects rt email phone stored ↔ Shares rt email phone stored)) ∧
  (requireNoHistoricalContactCollision rt s campus rowId (normalizeHistoricalEmail rt email)
      (normalizeHistoricalPhone phone) = .ok () →
    ∀ stored ∈ scopedContacts s campus rowId, ¬Shares rt email phone stored)

/-- A contact known by its normal form is known by a text with nothing but spaces around it. -/
def KnownPlainly : Prop :=
  ∀ stored ∈ scopedContacts s campus rowId, Shares rt email phone stored →
    SharesVia rt Plain email phone stored

end

/-- A dossier that waits to be created, with a no-break space after its email. -/
def awaited : BootstrapImportRow where
  id := draw.rowId 0
  packageId := workbook.id
  planId := draw.planId
  sheet := "JOBINTECH REACT"
  relationId := "JOBINTECH REACT"
  rowNumber := 7
  sourceKey := "source"
  fingerprint := "fingerprint"
  payload := visitor
  mapped := ⟨.empty, [], none, none, none, none, [], none⟩
  reasons := []
  state := .READY
  decision := some {
    ignore with
    action := .CREATE_DOSSIER
    actorId := author.actorId.val
    values := some (.ofList [("email", some "ada@ynov.ma\u00a0")]) }

def awaiting : ImportStore := { store with rows := .ofRows [awaited] }

/-- The same visitor in another row. -/
def otherRow : Uuid := ⟨"44444444-0000-4000-8000-000000000001", by decide⟩

theorem keepsSpace_plain : KeepsSpace .plain := by
  intro text
  change (String.ofList (text.toList.map lowerChar)).toList.any isSpace = _
  rw [String.toList_ofList, any_map]
  exact congrArg (text.toList.any ·) (funext isSpace_lowerChar)

end CrmYnov.Bootstrap
