import CrmYnov.Base.Table
import Mathlib.Data.Set.Function

/-!
# Registers of identities

A register says who holds each key. Keys that are presented together – all that
is known of one newcomer – resolve to nobody, to one holder, or to several, in
which case they contradict each other. Two registers that name the same holders
differently resolve alike (`Registry.resolve_map`), and what a union of registers
resolves to depends on what each of them does, as long as they agree on the keys
they share (`Registry.resolve_or`).
-/

/-- Who holds each key. -/
abbrev Registry (κ η : Type*) := κ → Option η

/-- What some keys lead to. -/
inductive Resolution (η : Type*)
  | unknown : Resolution η
  | one (h : η) : Resolution η
  | several : Resolution η

namespace Resolution

variable {η η' : Type*}

/-- The resolution a set of holders amounts to. -/
def ofSet : List η → Resolution η
  | [] => unknown
  | [h] => one h
  | _ :: _ :: _ => several

/-- The same resolution, under other names. -/
def map (f : η → η') : Resolution η → Resolution η'
  | unknown => unknown
  | one h => one (f h)
  | several => several

/-- What two resolutions amount to together. -/
def join [DecidableEq η] : Resolution η → Resolution η → Resolution η
  | unknown, r => r
  | r, unknown => r
  | one h, one h' => if h = h' then one h else several
  | _, _ => several

theorem ofSet_eq_unknown {l : List η} : ofSet l = unknown ↔ l = [] := by
  match l with
  | [] | [_] | _ :: _ :: _ => simp [ofSet]

theorem ofSet_eq_one {l : List η} {h : η} : ofSet l = one h ↔ l = [h] := by
  match l with
  | [] | [_] | _ :: _ :: _ => simp [ofSet]

end Resolution

namespace Registry

variable {κ η η' : Type*} [DecidableEq η] [DecidableEq η'] {g g' : Registry κ η} {ks : List κ}

/-- The holders of some keys. -/
def holders (g : Registry κ η) (ks : List κ) : List η := unique (ks.filterMap g)

/-- What some keys lead to. -/
def resolve (g : Registry κ η) (ks : List κ) : Resolution η := .ofSet (g.holders ks)

variable {h : η}

theorem mem_holders : h ∈ g.holders ks ↔ ∃ k ∈ ks, g k = some h := by simp [holders]

theorem resolve_eq_unknown : g.resolve ks = .unknown ↔ ∀ k ∈ ks, g k = none := by
  rw [resolve, Resolution.ofSet_eq_unknown, List.eq_nil_iff_forall_not_mem]
  simp only [mem_holders, not_exists, not_and, Option.eq_none_iff_forall_ne_some]
  exact ⟨fun h k hk a => h a k hk, fun h a k hk => h k hk a⟩

theorem resolve_eq_one :
    g.resolve ks = .one h ↔ (∃ k ∈ ks, g k = some h) ∧ ∀ k ∈ ks, ∀ h', g k = some h' → h' = h := by
  rw [resolve, Resolution.ofSet_eq_one, holders, unique_eq_singleton, List.mem_filterMap]
  refine and_congr_right fun _ => ⟨fun h k hk a hka => ?_, fun h x hx => ?_⟩
  · exact h a (List.mem_filterMap.mpr ⟨k, hk, hka⟩)
  · obtain ⟨k, hk, hkx⟩ := List.mem_filterMap.mp hx
    exact h k hk x hkx

theorem resolve_eq_several :
    g.resolve ks = .several ↔
      ∃ k ∈ ks, ∃ k' ∈ ks, ∃ h h', g k = some h ∧ g k' = some h' ∧ h ≠ h' := by
  constructor
  · intro hr
    by_contra hnot
    push Not at hnot
    rcases hcase : ks.filterMap g with - | ⟨h, l⟩
    · have : g.resolve ks = .unknown := by simp [resolve, holders, hcase, unique, Resolution.ofSet]
      rw [hr] at this
      cases this
    · obtain ⟨k, hk, hkh⟩ := List.mem_filterMap.mp (by rw [hcase]; exact List.mem_cons_self ..)
      have hone : g.resolve ks = .one h :=
        resolve_eq_one.mpr ⟨⟨k, hk, hkh⟩, fun k' hk' h' hkh' => hnot k' hk' k hk h' h hkh' hkh⟩
      rw [hr] at hone
      cases hone
  · rintro ⟨k, hk, k', hk', h, h', hkh, hkh', hne⟩
    cases hr : g.resolve ks with
    | unknown => simp [resolve_eq_unknown.mp hr k hk] at hkh
    | one a =>
      obtain ⟨-, hall⟩ := resolve_eq_one.mp hr
      exact absurd ((hall k hk h hkh).trans (hall k' hk' h' hkh').symm) hne
    | several => rfl

/-- Registers that agree on some keys resolve them alike. -/
theorem resolve_congr (h : ∀ k ∈ ks, g k = g' k) : g.resolve ks = g'.resolve ks := by
  rw [resolve, resolve, holders, holders, List.filterMap_congr h]

/-- **Renaming the holders does not change how keys resolve**, as long as
different holders keep different names. -/
theorem resolve_map {f : η → η'} (hf : Set.InjOn f {h | ∃ k, g k = some h}) (ks : List κ) :
    Registry.resolve (fun k => (g k).map f) ks = (g.resolve ks).map f := by
  cases hr : g.resolve ks with
  | unknown =>
    refine resolve_eq_unknown.mpr fun k hk => ?_
    rw [resolve_eq_unknown.mp hr k hk]
    rfl
  | one h =>
    obtain ⟨⟨k, hk, hkh⟩, hall⟩ := resolve_eq_one.mp hr
    refine resolve_eq_one.mpr ⟨⟨k, hk, by rw [hkh]; rfl⟩, fun k' hk' h' hkh' => ?_⟩
    obtain ⟨a, ha, rfl⟩ := Option.map_eq_some_iff.mp hkh'
    rw [hall k' hk' a ha]
  | several =>
    obtain ⟨k, hk, k', hk', h, h', hkh, hkh', hne⟩ := resolve_eq_several.mp hr
    refine resolve_eq_several.mpr ⟨k, hk, k', hk', f h, f h', by rw [hkh]; rfl, by rw [hkh']; rfl, ?_⟩
    exact fun heq => hne (hf ⟨k, hkh⟩ ⟨k', hkh'⟩ heq)

/-! ### Unions and claims -/

/-- The union of two registers, the first one prevailing. -/
def or (g g' : Registry κ η) : Registry κ η := fun k => (g k).or (g' k)

omit [DecidableEq η] in
@[simp] theorem or_apply (k : κ) : g.or g' k = (g k).or (g' k) := rfl

omit [DecidableEq η] in
/-- A union of registers that agree on their common keys holds what either
holds. -/
theorem or_eq_some (hagree : ∀ k h h', g k = some h → g' k = some h' → h = h') {k : κ} :
    g.or g' k = some h ↔ g k = some h ∨ g' k = some h := by
  cases hk : g k with
  | none => simp [or_apply, hk]
  | some a =>
    rw [or_apply, hk, Option.some_or]
    exact ⟨Or.inl, fun hor => hor.elim id fun h' => by rw [hagree k a h hk h']⟩

/-- **What a union resolves to**, when the registers agree on their common
keys. -/
theorem resolve_or (hagree : ∀ k h h', g k = some h → g' k = some h' → h = h') (ks : List κ) :
    (g.or g').resolve ks = (g.resolve ks).join (g'.resolve ks) := by
  have hmem : ∀ k h, g.or g' k = some h ↔ g k = some h ∨ g' k = some h := fun k h =>
    or_eq_some hagree
  cases hr : g.resolve ks with
  | unknown =>
    refine resolve_congr fun k hk => ?_
    simp [or_apply, resolve_eq_unknown.mp hr k hk]
  | several =>
    obtain ⟨k, hk, k', hk', h, h', hkh, hkh', hne⟩ := resolve_eq_several.mp hr
    have : (g.or g').resolve ks = .several :=
      resolve_eq_several.mpr ⟨k, hk, k', hk', h, h', (hmem k h).mpr (.inl hkh),
        (hmem k' h').mpr (.inl hkh'), hne⟩
    cases g'.resolve ks <;> exact this
  | one h =>
    obtain ⟨⟨k, hk, hkh⟩, hall⟩ := resolve_eq_one.mp hr
    cases hr' : g'.resolve ks with
    | unknown =>
      have hnone := resolve_eq_unknown.mp hr'
      refine resolve_eq_one.mpr ⟨⟨k, hk, (hmem k h).mpr (.inl hkh)⟩, fun a ha b hab => ?_⟩
      rcases (hmem a b).mp hab with hab | hab
      · exact hall a ha b hab
      · rw [hnone a ha] at hab
        cases hab
    | several =>
      obtain ⟨a, ha, b, hb, x, y, hax, hby, hne⟩ := resolve_eq_several.mp hr'
      exact resolve_eq_several.mpr ⟨a, ha, b, hb, x, y, (hmem a x).mpr (.inr hax),
        (hmem b y).mpr (.inr hby), hne⟩
    | one h' =>
      obtain ⟨⟨k', hk', hkh'⟩, hall'⟩ := resolve_eq_one.mp hr'
      simp only [Resolution.join]
      by_cases heq : h = h'
      · rw [if_pos heq]
        refine resolve_eq_one.mpr ⟨⟨k, hk, (hmem k h).mpr (.inl hkh)⟩, fun a ha b hab => ?_⟩
        rcases (hmem a b).mp hab with hab | hab
        · exact hall a ha b hab
        · exact (hall' a ha b hab).trans heq.symm
      · rw [if_neg heq]
        exact resolve_eq_several.mpr ⟨k, hk, k', hk', h, h', (hmem k h).mpr (.inl hkh),
          (hmem k' h').mpr (.inr hkh'), heq⟩

variable [DecidableEq κ]

/-- The register once a newcomer has taken those of some keys that nobody
held. -/
def claim (g : Registry κ η) (ks : List κ) (h : η) : Registry κ η :=
  g.or fun k => if k ∈ ks then some h else none

omit [DecidableEq η] in
theorem claim_apply (g : Registry κ η) (ks : List κ) (h : η) (k : κ) :
    g.claim ks h k = (g k).or (if k ∈ ks then some h else none) := rfl

omit [DecidableEq η] in
theorem claim_eq_some {h a : η} {k : κ} :
    g.claim ks h k = some a ↔ g k = some a ∨ g k = none ∧ k ∈ ks ∧ h = a := by
  rw [claim_apply, Option.or_eq_some_iff]
  by_cases hk : k ∈ ks <;> simp [hk]

omit [DecidableEq η] in
theorem claim_eq_none {k : κ} : g.claim ks h k = none ↔ g k = none ∧ k ∉ ks := by
  simp [claim_apply]

omit [DecidableEq η] in
/-- Keys may be claimed in two steps. -/
theorem claim_claim (g : Registry κ η) (ks ks' : List κ) (h : η) :
    (g.claim ks h).claim ks' h = g.claim (ks' ++ ks) h := by
  funext k
  by_cases hk : k ∈ ks <;> by_cases hk' : k ∈ ks' <;>
    simp [claim_apply, hk, hk']

omit [DecidableEq η] in
/-- What the second register of a union takes, the union takes. -/
theorem or_claim (g g' : Registry κ η) (ks : List κ) (h : η) :
    g.or (g'.claim ks h) = (g.or g').claim ks h := by
  funext k
  simp only [or_apply, claim_apply, Option.or_assoc]

omit [DecidableEq η] in
/-- What the first register of a union takes, the union takes, when the second
holds nothing of it. -/
theorem claim_or (hfree : ∀ k ∈ ks, g' k = none) :
    (g.claim ks h).or g' = (g.or g').claim ks h := by
  funext k
  simp only [or_apply, claim_apply]
  by_cases hk : k ∈ ks
  · simp [hk, hfree k hk]
  · simp [hk]

omit [DecidableEq η] [DecidableEq η'] in
/-- Claims commute with a renaming of the holders. -/
theorem map_claim (f : η → η') (g : Registry κ η) (ks : List κ) (h : η) :
    (fun k => (g.claim ks h k).map f) = Registry.claim (fun k => (g k).map f) ks (f h) := by
  funext k
  rw [claim_apply, claim_apply, Option.map_or]
  by_cases hk : k ∈ ks <;> simp [hk]

end Registry
