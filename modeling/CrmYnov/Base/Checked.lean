import Mathlib.Data.List.Basic
import Mathlib.Data.List.Forall2

/-!
# Checked computations

A service method validates first and acts afterwards: it is a sequence of guards
that throw, of lookups that throw when they find nothing, and of one effect at
the end. In `Except` such a method reads like its source, and what is wanted of
it is its *inversion*: which guards held and which lookups succeeded when it
returned. The lemmas below compute that list (`Checked.ok_iff`), so that a method is
inverted by one `simp only` and never by splitting its body.
-/

namespace Checked

universe u v

variable {ε : Type u} {α β : Type v}

/-- A guard: go on when `p` holds, throw otherwise. -/
def require (p : Prop) [Decidable p] (e : ε) : Except ε Unit := if p then .ok () else .error e

/-- A lookup that has to find something. -/
def demand (o : Option α) (e : ε) : Except ε α :=
  match o with
  | some a => .ok a
  | none => .error e

theorem bind_ok_iff {x : Except ε α} {f : α → Except ε β} {b : β} :
    (x >>= f) = .ok b ↔ ∃ a, x = .ok a ∧ f a = .ok b := by
  cases x with
  | error e => exact ⟨fun h => (nomatch h), fun ⟨_, h, _⟩ => (nomatch h)⟩
  | ok a => exact ⟨fun h => ⟨a, rfl, h⟩, fun ⟨a', h, hf⟩ => by cases h; exact hf⟩

theorem require_ok_iff {p : Prop} [Decidable p] {e : ε} {u : Unit} :
    require p e = .ok u ↔ p := by
  by_cases hp : p <;> simp [require, hp]

theorem demand_ok_iff {o : Option α} {e : ε} {a : α} : demand o e = .ok a ↔ o = some a := by
  cases o <;> simp [demand]

theorem pure_ok_iff {a b : α} : (pure a : Except ε α) = .ok b ↔ a = b :=
  ⟨fun h => by cases h; rfl, fun h => by rw [h]; rfl⟩

/-- What makes a checked computation return, as one rule. -/
theorem ok_iff :
    (∀ {ε α β : Type} {x : Except ε α} {f : α → Except ε β} {b : β},
      (x >>= f) = .ok b ↔ ∃ a, x = .ok a ∧ f a = .ok b) ∧
    (∀ {ε : Type} {p : Prop} [Decidable p] {e : ε} {u : Unit}, require p e = .ok u ↔ p) ∧
    (∀ {ε α : Type} {o : Option α} {e : ε} {a : α}, demand o e = .ok a ↔ o = some a) ∧
    (∀ {ε α : Type} {a b : α}, (pure a : Except ε α) = .ok b ↔ a = b) ∧
    ∀ {α β : Type} {a a' : α} {b b' : β}, (a, b) = (a', b') ↔ a = a' ∧ b = b' :=
  ⟨bind_ok_iff, require_ok_iff, demand_ok_iff, pure_ok_iff,
    (Prod.mk.injEq ..).to_iff⟩

theorem map_ok_iff {x : Except ε α} {f : α → β} {b : β} :
    f <$> x = .ok b ↔ ∃ a, x = .ok a ∧ f a = b := by
  cases x with
  | error e => exact ⟨fun h => (nomatch h), fun ⟨_, h, _⟩ => (nomatch h)⟩
  | ok a => exact ⟨fun h => ⟨a, rfl, Except.ok.inj h⟩, fun ⟨a', h, hf⟩ => by cases h; rw [← hf]; rfl⟩

@[simp] theorem require_pos {p : Prop} [Decidable p] {e : ε} (h : p) :
    require p e = .ok () := if_pos h

@[simp] theorem require_neg {p : Prop} [Decidable p] {e : ε} (h : ¬p) :
    require p e = .error e := if_neg h

@[simp] theorem demand_some {a : α} {e : ε} : demand (some a) e = .ok a := rfl

@[simp] theorem ok_bind {a : α} {f : α → Except ε β} : (Except.ok a >>= f) = f a := rfl

@[simp] theorem error_bind {e : ε} {f : α → Except ε β} : (Except.error e >>= f) = .error e := rfl

variable {l : List α} {l' : List β}

/-- A list of computations returns when each of them does. -/
theorem mapM_ok_iff {f : α → Except ε β} :
    l.mapM f = .ok l' ↔ List.Forall₂ (fun a b => f a = .ok b) l l' := by
  induction l generalizing l' with
  | nil => rw [List.mapM_nil, pure_ok_iff, List.forall₂_nil_left_iff, eq_comm]
  | cons a l ih =>
    simp only [List.mapM_cons, bind_ok_iff, pure_ok_iff, List.forall₂_cons_left_iff, ih]
    constructor
    · rintro ⟨b, hb, l', hl, rfl⟩
      exact ⟨b, l', hb, hl, rfl⟩
    · rintro ⟨b, l', hb, hl, rfl⟩
      exact ⟨b, hb, l', hl, rfl⟩

/-- Each computation of a list that returns has returned. -/
theorem exists_of_mapM {f : α → Except ε β} (h : l.mapM f = .ok l') {a : α} (ha : a ∈ l) :
    ∃ b ∈ l', f a = .ok b := by
  have hall := mapM_ok_iff.mp h
  clear h
  induction hall with
  | nil => simp at ha
  | @cons a₀ b₀ _ l' hb _ ih =>
    rcases List.mem_cons.mp ha with rfl | ha
    · exact ⟨b₀, List.mem_cons_self, hb⟩
    · obtain ⟨b, hmem, hb⟩ := ih ha
      exact ⟨b, List.mem_cons_of_mem b₀ hmem, hb⟩

/-- A relation between the computations of two lists of steps is one between what
they return. -/
theorem exists_mapM_of_rel {γ : Type v} {R : β → γ → Prop} {f : α → Except ε β} {g : α → Except ε γ}
    (h : ∀ a b, f a = .ok b → ∃ c, g a = .ok c ∧ R b c) (hl : l.mapM f = .ok l') :
    ∃ l'', l.mapM g = .ok l'' ∧ List.Forall₂ R l' l'' := by
  have hall := mapM_ok_iff.mp hl
  clear hl
  induction hall with
  | nil => exact ⟨[], by rw [List.mapM_nil]; rfl, .nil⟩
  | @cons a b l l' hb _ ih =>
    obtain ⟨c, hc, hR⟩ := h a b hb
    obtain ⟨l'', hl'', hrel⟩ := ih
    exact ⟨c :: l'', by simp only [List.mapM_cons, hc, hl'', ok_bind]; rfl, .cons hR hrel⟩

/-- Each member of a list has its counterpart. -/
theorem exists_of_forall₂ {γ δ : Type*} {R : γ → δ → Prop} {l : List γ} {l' : List δ}
    (h : List.Forall₂ R l l') {b : γ} (hb : b ∈ l) : ∃ c ∈ l', R b c := by
  induction h with
  | nil => cases hb
  | @cons b₀ c₀ _ _ hR _ ih =>
    rcases List.mem_cons.mp hb with rfl | hb
    · exact ⟨c₀, List.mem_cons_self, hR⟩
    · obtain ⟨c, hc, hR⟩ := ih hb
      exact ⟨c, List.mem_cons_of_mem c₀ hc, hR⟩

/-- A list of computations returns when, and only when, all of them return. -/
theorem mapM_returns_iff {f : α → Except ε β} :
    (∃ l', l.mapM f = .ok l') ↔ ∀ a ∈ l, ∃ b, f a = .ok b := by
  constructor
  · rintro ⟨l', h⟩ a ha
    obtain ⟨b, -, hb⟩ := exists_of_mapM h ha
    exact ⟨b, hb⟩
  · intro h
    induction l with
    | nil => exact ⟨[], rfl⟩
    | cons a l ih =>
      obtain ⟨b, hb⟩ := h a List.mem_cons_self
      obtain ⟨l', hl'⟩ := ih fun a' ha' => h a' (List.mem_cons_of_mem a ha')
      exact ⟨b :: l', by simp only [List.mapM_cons, hb, hl', ok_bind]; rfl⟩

/-- What a list of computations returned comes from one of them. -/
theorem exists_of_mem_mapM {f : α → Except ε β} (h : l.mapM f = .ok l') {b : β} (hb : b ∈ l') :
    ∃ a ∈ l, f a = .ok b :=
  exists_of_forall₂ (mapM_ok_iff.mp h).flip hb

/-- A search among computations that all return finds what there is to find. -/
theorem anyM_of_exists {p : α → Except ε Bool} (hall : ∀ a ∈ l, ∃ b, p a = .ok b)
    (h : ∃ a ∈ l, p a = .ok true) : l.anyM p = .ok true := by
  induction l with
  | nil =>
    obtain ⟨a, ha, -⟩ := h
    cases ha
  | cons a l ih =>
    obtain ⟨b, hb⟩ := hall a List.mem_cons_self
    rw [List.anyM_cons, hb, ok_bind]
    cases b with
    | true => rfl
    | false =>
      refine ih (fun a' ha' => hall a' (List.mem_cons_of_mem a ha')) ?_
      obtain ⟨a', ha', hp⟩ := h
      rcases List.mem_cons.mp ha' with rfl | ha'
      · rw [hb] at hp
        cases hp
      · exact ⟨a', ha', hp⟩

theorem exists_of_anyM {p : α → Except ε Bool} (h : l.anyM p = .ok true) :
    ∃ a ∈ l, p a = .ok true := by
  induction l with
  | nil => cases h
  | cons a l ih =>
    rw [List.anyM_cons, bind_ok_iff] at h
    obtain ⟨b, hb, h⟩ := h
    cases b with
    | true => exact ⟨a, List.mem_cons_self, hb⟩
    | false =>
      obtain ⟨a', ha', hp⟩ := ih h
      exact ⟨a', List.mem_cons_of_mem a ha', hp⟩

/-- What each step of a fold keeps, the fold keeps. -/
theorem foldlM_keeps {f : β → α → Except ε β} {I : β → Prop} {b b' : β}
    (hstep : ∀ a ∈ l, ∀ b b', I b → f b a = .ok b' → I b') (hb : I b) (h : l.foldlM f b = .ok b') :
    I b' := by
  induction l generalizing b with
  | nil =>
    rw [List.foldlM_nil, pure_ok_iff] at h
    rwa [← h]
  | cons a l ih =>
    rw [List.foldlM_cons, bind_ok_iff] at h
    obtain ⟨b₁, hb₁, h⟩ := h
    exact ih (fun a' ha' => hstep a' (List.mem_cons_of_mem a ha'))
      (hstep a List.mem_cons_self b b₁ hb hb₁) h

/-- The computation threw. -/
def Refused (x : Except ε α) : Prop := ∃ e, x = .error e

instance (x : Except ε α) : Decidable (Refused x) :=
  match x with
  | .error e => isTrue ⟨e, rfl⟩
  | .ok _ => isFalse fun ⟨_, h⟩ => nomatch h

theorem refused_iff {x : Except ε α} : Refused x ↔ ∀ a, x ≠ .ok a := by
  cases x with
  | error e => exact ⟨fun _ _ h => (nomatch h), fun _ => ⟨e, rfl⟩⟩
  | ok a => exact ⟨fun ⟨_, h⟩ => (nomatch h), fun h => absurd rfl (h a)⟩

theorem exists_ok_of_not_refused {x : Except ε α} (h : ¬Refused x) : ∃ a, x = .ok a := by
  cases x with
  | error e => exact absurd ⟨e, rfl⟩ h
  | ok a => exact ⟨a, rfl⟩

@[simp] theorem refused_error {e : ε} : Refused (.error e : Except ε α) := ⟨e, rfl⟩

@[simp] theorem not_refused_ok {a : α} : ¬Refused (.ok a : Except ε α) := fun ⟨_, h⟩ => nomatch h

end Checked
