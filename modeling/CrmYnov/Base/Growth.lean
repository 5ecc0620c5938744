import CrmYnov.Base.Table
import Mathlib.Logic.Relation

/-!
# Tables that keep their rows

A table nothing is deleted from still holds, under the same key, whatever it held:
as it was, or changed. When every change counts a version, two readings of one row
at one version are readings of the same row (`Table.Grows.eq_of_version`), and this
is what an optimistic update rests on: it compares the version alone.

A table that is only added to (`Table.Appended`) holds its rows as they were, and an update
that names one row replaces this row and no other (`Table.Replaces`).
-/

namespace Table

variable {ρ κ : Type*} {keys : ρ → List κ}

/-- Every row is still there: as it was, or changed as `R` allows. -/
def Grows (R : ρ → ρ → Prop) (t t' : Table ρ keys) : Prop :=
  ∀ r ∈ t.rows, ∃ r' ∈ t'.rows, r' = r ∨ R r r'

namespace Grows

variable {R S : ρ → ρ → Prop} {t t' t'' : Table ρ keys}

theorem refl (t : Table ρ keys) : t.Grows R t := fun r hr => ⟨r, hr, .inl rfl⟩

theorem trans (hR : ∀ a b c, R a b → R b c → R a c) (h : t.Grows R t') (h' : t'.Grows R t'') :
    t.Grows R t'' := by
  intro r hr
  obtain ⟨r', hr', heq⟩ := h r hr
  obtain ⟨r'', hr'', heq'⟩ := h' r' hr'
  refine ⟨r'', hr'', ?_⟩
  rcases heq with rfl | hrel
  · exact heq'
  · rcases heq' with rfl | hrel'
    · exact .inr hrel
    · exact .inr (hR _ _ _ hrel hrel')

/-- A creation keeps every row. -/
theorem of_create [DecidableEq κ] {r : ρ} (h : t.create r = some t') : t.Grows R t' :=
  fun x hx => ⟨x, (mem_create h).mpr (.inl hx), .inl rfl⟩

/-- An update keeps every row, when what it changes is changed as `R` allows. -/
theorem of_updateMany {p : ρ → Prop} [DecidablePred p] {f : ρ → ρ}
    (hf : ∀ r, keys (f r) = keys r) (h : ∀ r ∈ t.rows, p r → R r (f r)) :
    t.Grows R (t.updateMany p f hf) := by
  intro r hr
  refine ⟨_, mem_updateMany.mpr ⟨r, hr, rfl⟩, ?_⟩
  by_cases hp : p r
  · rw [if_pos hp]
    exact .inr (h r hr hp)
  · rw [if_neg hp]
    exact .inl rfl

/-- A row found later under the same key is the row that was there, or that row
changed. -/
theorem row (hkeys : ∀ a b, R a b → keys b = keys a) (h : t.Grows R t') {r r' : ρ} {k : κ}
    (hr : r ∈ t.rows) (hr' : r' ∈ t'.rows) (hk : k ∈ keys r) (hk' : k ∈ keys r') :
    r' = r ∨ R r r' := by
  obtain ⟨x, hx, heq⟩ := h r hr
  have hkx : k ∈ keys x := by
    rcases heq with rfl | hrel
    · exact hk
    · rwa [hkeys r x hrel]
  rwa [t'.eq_of_key hr' hx hk' hkx]

/-- **One version, one row**: a row that is found later at the version it had has not
changed. -/
theorem eq_of_version {version : ρ → ℕ} (hkeys : ∀ a b, R a b → keys b = keys a)
    (hversion : ∀ a b, R a b → version a < version b) (h : t.Grows R t') {r r' : ρ} {k : κ}
    (hr : r ∈ t.rows) (hr' : r' ∈ t'.rows) (hk : k ∈ keys r) (hk' : k ∈ keys r')
    (heq : version r' = version r) : r' = r := by
  rcases h.row hkeys hr hr' hk hk' with rfl | hrel
  · rfl
  · have := hversion r r' hrel
    omega

end Grows

/-! ### One row that is replaced -/

/-- One row has been replaced by another. -/
def Replaces (t t' : Table ρ keys) (r r' : ρ) : Prop :=
  r ∈ t.rows ∧ ∀ x, x ∈ t'.rows ↔ (x ∈ t.rows ∧ x ≠ r) ∨ x = r'

/-- An update whose condition holds of one row replaces this row. -/
theorem replaces_updateMany {t : Table ρ keys} {p : ρ → Prop} [DecidablePred p] {f : ρ → ρ}
    {hf : ∀ r, keys (f r) = keys r} {r : ρ} (hr : r ∈ t.rows) (hp : ∀ x ∈ t.rows, p x ↔ x = r) :
    t.Replaces (t.updateMany p f hf) r (f r) := by
  refine ⟨hr, fun x => mem_updateMany.trans ?_⟩
  constructor
  · rintro ⟨y, hy, rfl⟩
    by_cases hpy : p y
    · rw [if_pos hpy, (hp y hy).mp hpy]
      exact .inr rfl
    · rw [if_neg hpy]
      exact .inl ⟨hy, fun hyr => hpy ((hp y hy).mpr hyr)⟩
  · rintro (⟨hx, hne⟩ | rfl)
    · exact ⟨x, hx, if_neg fun hpx => hne ((hp x hx).mp hpx)⟩
    · exact ⟨r, hr, if_pos ((hp r hr).mpr rfl)⟩

/-- Every row is kept but the one that is replaced. -/
theorem Replaces.grows {R : ρ → ρ → Prop} {t t' : Table ρ keys} {r r' : ρ}
    (h : t.Replaces t' r r') (hR : R r r') : t.Grows R t' := by
  classical
  intro x hx
  by_cases hxr : x = r
  · subst hxr
    exact ⟨r', (h.2 r').mpr (.inr rfl), .inr hR⟩
  · exact ⟨x, (h.2 x).mpr (.inl ⟨hx, hxr⟩), .inl rfl⟩

/-! ### Rows that are added -/

section Appended

variable [DecidableEq κ]

/-- Rows were created, one after the other, each with a property. -/
def Appended (P : ρ → Prop) : Table ρ keys → Table ρ keys → Prop :=
  Relation.ReflTransGen fun t t' => ∃ r, P r ∧ t.create r = some t'

namespace Appended

variable {P : ρ → Prop} {t t' t'' : Table ρ keys}

theorem refl (t : Table ρ keys) : t.Appended P t := Relation.ReflTransGen.refl

theorem trans (h : t.Appended P t') (h' : t'.Appended P t'') : t.Appended P t'' :=
  Relation.ReflTransGen.trans h h'

theorem single {r : ρ} (hr : P r) (h : t.create r = some t') : t.Appended P t' :=
  Relation.ReflTransGen.single ⟨r, hr, h⟩

end Appended

end Appended

end Table
