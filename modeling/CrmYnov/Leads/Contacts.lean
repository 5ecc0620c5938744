import CrmYnov.Js.Positions
import CrmYnov.Leads.Identity

/-!
# Contacts

The creation and the update of a lead normalize its email and its phone, and refuse
what they do not accept. Each has its own checks. Both ask of an email for one `@`
with something before it and for a dot after it that is neither next to it nor at
the end (`CrmYnov.Leads.EmailShape`), but the creation wants the *last* dot not to be
at the end, and only looks for spaces where the update looks for any white space
(`CrmYnov.Leads.creationEmail_iff`, `CrmYnov.Leads.validLeadEmail_iff`). A contact of
which normalization leaves nothing is kept by the creation as it was given.
-/

namespace CrmYnov.Leads

open Checked Js Option

/-! ### The checks -/

/-- The check of an email in `createLead`. -/
def creationEmailInvalid (email : String) : Prop :=
  let atIndex := position (indexOf '@' email)
  let lastAtIndex := position (lastIndexOf '@' email)
  let dotIndex := position (lastIndexOf '.' email)
  ' ' ∈ email.toList ∨ atIndex < 1 ∨ atIndex ≠ lastAtIndex ∨ dotIndex < atIndex + 2 ∨
    dotIndex = length email - 1
deriving Decidable

def validLeadEmail (email : String) : Prop :=
  let at' := position (indexOf '@' email)
  let dot := position (indexOfFrom '.' (at' + 2).toNat email)
  0 < at' ∧ at' = position (lastIndexOf '@' email) ∧ at' + 1 < dot ∧
    dot < length email - 1 ∧ ¬∃ c ∈ email.toList, isSpace c = true
deriving Decidable

/-- `/^\+?\d{8,15}$/` -/
def isPhone (phone : String) : Bool :=
  match phone.toList with
  | '+' :: digits => fullMatch isDigit 8 15 (String.ofList digits)
  | digits => fullMatch isDigit 8 15 (String.ofList digits)

variable (rt : Runtime)

/-- A contact of a lead that is created: the normalized one, or what was given when
nothing is left of it. -/
def createdContact (normalize : String → String) (valid : String → Prop) [DecidablePred valid]
    (code : String) (given : Option String) : Outcome (Option String) := do
  let normalized := nonEmpty (given.map normalize)
  require (∀ t ∈ normalized, valid t) (.badRequest code)
  pure (if normalized.isSome then normalized else given)

def creationEmail (email : Option String) : Outcome (Option String) :=
  createdContact (normalizeEmail rt) (fun e => ¬creationEmailInvalid e) "lead_email_invalid" email

def creationPhone (phone : Option String) : Outcome (Option String) :=
  createdContact normalizePhone (fun p => isPhone p = true) "lead_phone_invalid" phone

def updateEmail (current email : Option String) : Outcome (Option String) :=
  match email with
  | none => pure current
  | some text => do
    let normalized := normalizeEmail rt text
    require (normalized ≠ "" → validLeadEmail normalized) (.badRequest "lead_email_invalid")
    pure (nonEmpty (some normalized))

def updatePhone (current phone : Option String) : Outcome (Option String) :=
  match phone with
  | none => pure current
  | some text => do
    let normalized := normalizePhone text
    require (text ≠ "" → isPhone normalized = true) (.badRequest "lead_phone_invalid")
    pure (if present text then some normalized else none)

/-! ### What the checks ask for -/

variable (email : String)

/-- What both checks ask of an email: one `@`, not at the beginning, and a dot that is
at least two further and not at the end. -/
def EmailShape : Prop :=
  ∃ a ∈ positions '@' email, 1 ≤ a ∧ (∀ q ∈ positions '@' email, q = a) ∧
    ∃ p ∈ positions '.' email, a + 2 ≤ p ∧ p + 1 < length email
deriving Decidable

def EndsWithDot : Prop :=
  ∃ p ∈ positions '.' email, p + 1 = length email
deriving Decidable

def HasSpace : Prop := ∃ c ∈ email.toList, isSpace c = true
deriving Decidable

theorem unique_position {c : Char} {s : String} {a : ℕ} :
    indexOf c s = some a ∧ lastIndexOf c s = some a ↔
      a ∈ positions c s ∧ ∀ q ∈ positions c s, q = a := by
  rw [indexOf_eq_some, lastIndexOf_eq_some]
  constructor
  · rintro ⟨⟨ha, hmin⟩, -, hmax⟩
    refine ⟨ha, fun q hq => ?_⟩
    have hlo := hmin q hq
    have hhi := hmax q hq
    omega
  · rintro ⟨ha, hall⟩
    exact ⟨⟨ha, fun q hq => (hall q hq).ge⟩, ha, fun q hq => (hall q hq).le⟩

theorem position_eq_iff {p q : Option ℕ} : position p = position q ↔ p = q := by
  rcases p with _ | p <;> rcases q with _ | q
  · simp
  · simp [position]
  · simp [position]
  · simp only [position, map_some, getD_some, some.injEq]
    omega

theorem one_le_position_iff {p : Option ℕ} :
    1 ≤ position p ↔ ∃ a, p = some a ∧ 1 ≤ a := by
  cases p with
  | none => simp [position]
  | some a =>
    simp only [position, map_some, getD_some, some.injEq, exists_eq_left']
    omega

variable {email : String}

/-- **The creation accepts** an email of the shape, without spaces and with no dot at
its end. -/
theorem creationEmail_iff :
    ¬creationEmailInvalid email ↔ ' ' ∉ email.toList ∧ EmailShape email ∧ ¬EndsWithDot email := by
  simp only [creationEmailInvalid, not_or, not_lt, ne_eq, not_not]
  constructor
  · rintro ⟨hspace, hat, hsame, hdot, hend⟩
    obtain ⟨a, ha, hpos⟩ := one_le_position_iff.mp hat
    have hlast : lastIndexOf '@' email = some a := (position_eq_iff.mp hsame).symm.trans ha
    obtain ⟨hmem, hall⟩ := unique_position.mp ⟨ha, hlast⟩
    rw [ha] at hdot
    cases hd : lastIndexOf '.' email with
    | none =>
      rw [hd] at hdot
      simp only [position, map_none, getD_none, map_some,
        getD_some] at hdot
      omega
    | some p =>
      rw [hd] at hdot hend
      obtain ⟨hp, hmax⟩ := lastIndexOf_eq_some.mp hd
      have hlt := lt_length_of_mem hp
      simp only [position, map_some, getD_some] at hdot hend
      refine ⟨hspace, ⟨a, hmem, hpos, hall, p, hp, by omega, by omega⟩, ?_⟩
      rintro ⟨q, hq, hqend⟩
      have hle := hmax q hq
      omega
  · rintro ⟨hspace, ⟨a, hmem, hpos, hall, p, hp, hpa, hpend⟩, hnodot⟩
    obtain ⟨ha, hlast⟩ := unique_position.mpr ⟨hmem, hall⟩
    cases hd : lastIndexOf '.' email with
    | none =>
      rw [lastIndexOf_eq_none.mp hd] at hp
      cases hp
    | some d =>
      obtain ⟨hdmem, hmax⟩ := lastIndexOf_eq_some.mp hd
      have hle := hmax p hp
      have hne : d + 1 ≠ length email := fun h => hnodot ⟨d, hdmem, h⟩
      rw [ha, hlast]
      simp only [position, map_some, getD_some]
      refine ⟨hspace, ?_, trivial, ?_, ?_⟩ <;> omega

/-- **The update accepts** an email of the shape, without white space. -/
theorem validLeadEmail_iff : validLeadEmail email ↔ ¬HasSpace email ∧ EmailShape email := by
  simp only [validLeadEmail]
  constructor
  · rintro ⟨hat, hsame, hdot, hend, hspace⟩
    have hone : 1 ≤ position (indexOf '@' email) := by omega
    obtain ⟨a, ha, hpos⟩ := one_le_position_iff.mp hone
    have hlast : lastIndexOf '@' email = some a := (position_eq_iff.mp hsame).symm.trans ha
    obtain ⟨hmem, hall⟩ := unique_position.mp ⟨ha, hlast⟩
    rw [ha] at hdot hend
    cases hd : indexOfFrom '.' (position (some a) + 2).toNat email with
    | none =>
      rw [hd] at hdot
      simp only [position, map_none, getD_none, map_some,
        getD_some] at hdot
      omega
    | some p =>
      rw [hd] at hdot hend
      obtain ⟨hp, -, -⟩ := indexOfFrom_eq_some.mp hd
      simp only [position, map_some, getD_some] at hdot hend
      exact ⟨hspace, a, hmem, hpos, hall, p, hp, by omega, by omega⟩
  · rintro ⟨hspace, a, hmem, hpos, hall, p, hp, hpa, hpend⟩
    obtain ⟨ha, hlast⟩ := unique_position.mpr ⟨hmem, hall⟩
    rw [ha, hlast]
    cases hd : indexOfFrom '.' (position (some a) + 2).toNat email with
    | none =>
      have hlt := indexOfFrom_eq_none.mp hd p hp
      simp only [position, map_some, getD_some] at hlt
      omega
    | some d =>
      obtain ⟨-, hstart, hmin⟩ := indexOfFrom_eq_some.mp hd
      have hle := hmin p hp (by simp only [position, map_some, getD_some]; omega)
      simp only [position, map_some, getD_some] at hstart ⊢
      exact ⟨by omega, trivial, by omega, by omega, hspace⟩

/-! ### Where the two checks agree -/

/-- An email on which the checks of the creation and of the update agree: of the shape
both ask for, the only emails they differ on are those with a dot at their end and no
white space, and those with white space that is no space and no dot at their end. -/
def EmailsAgree (email : String) : Prop :=
  EmailShape email →
    if HasSpace email then ' ' ∈ email.toList ∨ EndsWithDot email else ¬EndsWithDot email
deriving Decidable

theorem hasSpace_of_mem (h : ' ' ∈ email.toList) : HasSpace email :=
  ⟨' ', h, by decide⟩

theorem emailsAgree_iff :
    EmailsAgree email ↔ (¬creationEmailInvalid email ↔ validLeadEmail email) := by
  rw [creationEmail_iff, validLeadEmail_iff, EmailsAgree]
  by_cases hshape : EmailShape email
  · by_cases hspace : HasSpace email
    · simp [hshape, hspace, imp_iff_not_or]
    · have hnone : ' ' ∉ email.toList := fun h => hspace (hasSpace_of_mem h)
      simp [hshape, hspace, hnone]
  · simp [hshape]

theorem not_emailShape_empty : ¬EmailShape "" := by decide

variable {normalize : String → String} {valid : String → Prop} {stored : Option String}

/-- **A contact that is given to a creation** is kept as it is when nothing is left of
it, and otherwise normalized, if it is valid. -/
theorem createdContact_ok_iff [DecidablePred valid] {code given : String} :
    createdContact normalize valid code (some given) = .ok stored ↔
      if normalize given = "" then stored = some given
      else valid (normalize given) ∧ stored = some (normalize given) := by
  simp only [createdContact, map_some, ok_iff]
  by_cases hempty : normalize given = ""
  · have hnone : nonEmpty (some (normalize given)) = none := by simp [nonEmpty, hempty]
    rw [hnone, if_pos hempty]
    constructor
    · rintro ⟨-, -, rfl⟩
      rfl
    · rintro rfl
      exact ⟨(), by simp, rfl⟩
  · rw [nonEmpty_eq_self (by simpa using hempty), if_neg hempty]
    constructor
    · rintro ⟨-, hvalid, rfl⟩
      exact ⟨hvalid _ rfl, rfl⟩
    · rintro ⟨hvalid, rfl⟩
      exact ⟨(), by simpa using hvalid, rfl⟩

theorem createdContact_returns [DecidablePred valid] {code given : String} :
    (∃ stored, createdContact normalize valid code (some given) = .ok stored) ↔
      normalize given = "" ∨ valid (normalize given) := by
  simp only [createdContact_ok_iff]
  by_cases hempty : normalize given = "" <;> simp [hempty]

variable {current : Option String}

theorem updateEmail_returns :
    (∃ stored, updateEmail rt current (some email) = .ok stored) ↔
      normalizeEmail rt email = "" ∨ validLeadEmail (normalizeEmail rt email) := by
  simp only [updateEmail, ok_iff]
  constructor
  · rintro ⟨-, -, hvalid, -⟩
    exact or_iff_not_imp_left.mpr hvalid
  · intro h
    exact ⟨_, (), or_iff_not_imp_left.mp h, rfl⟩

/-- **Emails**: creation and update accept the same ones exactly where their checks
agree. -/
theorem emails_agree :
    ((∃ stored, creationEmail rt (some email) = .ok stored) ↔
        ∃ stored, updateEmail rt current (some email) = .ok stored) ↔
      EmailsAgree (normalizeEmail rt email) := by
  rw [creationEmail, createdContact_returns, updateEmail_returns, emailsAgree_iff]
  by_cases hempty : normalizeEmail rt email = ""
  · simp [hempty, creationEmail_iff, validLeadEmail_iff, not_emailShape_empty]
  · simp [hempty]

variable {phone : String}

/-- **Phones**: creation and update accept the same ones, except for a text that is not
empty and of which nothing is left. -/
theorem phones_agree :
    ((∃ stored, creationPhone (some phone) = .ok stored) ↔
        ∃ stored, updatePhone current (some phone) = .ok stored) ↔
      (phone = "" ∨ normalizePhone phone ≠ "") := by
  have hrefused : isPhone "" = false := by decide
  have hupdate : (∃ stored, updatePhone current (some phone) = .ok stored) ↔
      phone = "" ∨ isPhone (normalizePhone phone) = true := by
    simp only [updatePhone, ok_iff]
    constructor
    · rintro ⟨-, -, hvalid, -⟩
      exact or_iff_not_imp_left.mpr hvalid
    · intro h
      exact ⟨_, (), or_iff_not_imp_left.mp h, rfl⟩
  rw [creationPhone, createdContact_returns, hupdate]
  by_cases hphone : phone = ""
  · subst hphone
    have hnormal : normalizePhone "" = "" := by decide
    simp [hnormal]
  · by_cases hempty : normalizePhone phone = ""
    · simp [hphone, hempty, hrefused]
    · simp [hphone, hempty]

/-! ### What is stored -/

/-- An email that is its own normalization and that both checks accept. -/
structure CanonicalEmail (email : String) : Prop where
  normal : normalizeEmail rt email = email
  created : ¬creationEmailInvalid email
  updated : validLeadEmail email

/-- The contacts of a lead are canonical: each is absent, or is what normalization and
the checks make of a contact. -/
structure CanonicalContacts (lead : LeadRow) : Prop where
  email : ∀ e ∈ lead.email, CanonicalEmail rt e
  phone : ∀ p ∈ lead.phone, isPhone p = true

/-- A contact of which normalization leaves something on which the checks agree. -/
def CreationEmailMeets (email : String) : Prop :=
  normalizeEmail rt email ≠ "" ∧ EmailsAgree (normalizeEmail rt email)
deriving Decidable

variable {rt}

/-- **A created email is canonical** exactly when something is left of the given one,
and the checks agree on it. -/
theorem creationEmail_canonical_iff (hlower : LowerStable rt)
    (h : creationEmail rt (some email) = .ok stored) :
    (∀ e ∈ stored, CanonicalEmail rt e) ↔ CreationEmailMeets rt email := by
  rw [creationEmail, createdContact_ok_iff] at h
  split at h
  · rename_i hempty
    subst h
    simp only [mem_def, some.injEq, forall_eq', CreationEmailMeets, hempty, ne_eq,
      not_true, false_and, iff_false]
    intro hself
    have hnone : email = "" := hself.normal.symm.trans hempty
    exact not_emailShape_empty (hnone ▸ (validLeadEmail_iff.mp hself.updated).2)
  · rename_i hempty
    obtain ⟨hcreated, rfl⟩ := h
    simp only [mem_def, some.injEq, forall_eq', CreationEmailMeets, ne_eq, hempty,
      not_false_eq_true, true_and]
    constructor
    · intro hcanonical
      exact emailsAgree_iff.mpr ⟨fun _ => hcanonical.updated, fun _ => hcreated⟩
    · intro hagree
      exact ⟨hlower email, hcreated, (emailsAgree_iff.mp hagree).mp hcreated⟩

theorem normalizePhone_of_isPhone (h : isPhone phone = true) :
    normalizePhone phone = phone := by
  have hall : ∀ c ∈ phone.toList, (c == '+' || isDigit c) = true := by
    intro c hc
    rw [isPhone] at h
    split at h
    · rename_i digits hlist
      simp only [fullMatch, Bool.and_eq_true, String.toList_ofList, List.all_eq_true] at h
      rw [hlist] at hc
      rcases List.mem_cons.mp hc with rfl | hc
      · rfl
      · rw [h.1.1 c hc, Bool.or_true]
    · simp only [fullMatch, Bool.and_eq_true, String.ofList_toList, List.all_eq_true] at h
      rw [h.1.1 c hc, Bool.or_true]
  rw [normalizePhone, keep, List.filter_eq_self.mpr hall, String.ofList_toList]

/-- **A created phone is canonical** exactly when something is left of the given
one. -/
theorem creationPhone_canonical_iff (h : creationPhone (some phone) = .ok stored) :
    (∀ p ∈ stored, isPhone p = true) ↔ normalizePhone phone ≠ "" := by
  rw [creationPhone, createdContact_ok_iff] at h
  split at h
  · rename_i hempty
    subst h
    simp only [mem_def, some.injEq, forall_eq', hempty, ne_eq, not_true, iff_false]
    intro hphone
    -- a phone is made of characters that normalization keeps
    have hkept : normalizePhone phone = phone := normalizePhone_of_isPhone hphone
    rw [hkept] at hempty
    subst hempty
    cases hphone
  · rename_i hempty
    obtain ⟨hvalid, rfl⟩ := h
    simp [hempty, hvalid]

theorem createdContact_none [DecidablePred valid] {code : String}
    (h : createdContact normalize valid code none = .ok stored) : stored = none := by
  simp only [createdContact, ok_iff] at h
  obtain ⟨-, -, rfl⟩ := h
  rfl

theorem creationEmail_canonical (hlower : LowerStable rt) {email stored : Option String}
    (hmeets : ∀ e ∈ email, CreationEmailMeets rt e) (h : creationEmail rt email = .ok stored) :
    ∀ e ∈ stored, CanonicalEmail rt e := by
  cases email with
  | none =>
    rw [createdContact_none h]
    simp
  | some text => exact (creationEmail_canonical_iff hlower h).mpr (hmeets text rfl)

theorem creationPhone_canonical {phone stored : Option String}
    (hmeets : ∀ p ∈ phone, normalizePhone p ≠ "") (h : creationPhone phone = .ok stored) :
    ∀ p ∈ stored, isPhone p = true := by
  cases phone with
  | none =>
    rw [createdContact_none h]
    simp
  | some text => exact (creationPhone_canonical_iff h).mpr (hmeets text rfl)

/-- **An updated email is canonical** when the current one is and the checks agree on
the given one. -/
theorem updateEmail_canonical (hlower : LowerStable rt) {current email stored : Option String}
    (hcur : ∀ e ∈ current, CanonicalEmail rt e)
    (hagree : ∀ e ∈ email, EmailsAgree (normalizeEmail rt e))
    (h : updateEmail rt current email = .ok stored) : ∀ e ∈ stored, CanonicalEmail rt e := by
  cases email with
  | none =>
    cases h
    exact hcur
  | some text =>
    simp only [updateEmail, ok_iff] at h
    obtain ⟨-, hvalid, rfl⟩ := h
    intro e he
    by_cases hempty : normalizeEmail rt text = ""
    · simp [nonEmpty, hempty] at he
    · rw [nonEmpty_eq_self (by simpa using hempty)] at he
      cases he
      have hupdated := hvalid hempty
      exact ⟨hlower text, (emailsAgree_iff.mp (hagree text rfl)).mpr hupdated, hupdated⟩

/-- **An updated phone is canonical** when the current one is. -/
theorem updatePhone_canonical {current phone stored : Option String}
    (hcur : ∀ p ∈ current, isPhone p = true)
    (h : updatePhone current phone = .ok stored) : ∀ p ∈ stored, isPhone p = true := by
  cases phone with
  | none =>
    cases h
    exact hcur
  | some text =>
    simp only [updatePhone, ok_iff] at h
    obtain ⟨-, hvalid, rfl⟩ := h
    intro p hp
    split at hp
    · rename_i hpresent
      cases hp
      refine hvalid ?_
      rintro rfl
      cases hpresent
    · cases hp

end CrmYnov.Leads
