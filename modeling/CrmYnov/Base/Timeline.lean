import CrmYnov.Base.Machine
import Mathlib.Data.List.GetD

/-!
# Transactions that have read the past

A service reads what it needs, checks it, and then writes in one transaction. The
transaction acts on the present state, while what was read before it may be a
state of the past: what keeps such a service right is not the freshness of its
readings but the conditions its transaction puts on the present – a version that
has not moved, a row that is still open.

A *timeline* is a state with those it went through, and a step of a timeline
machine (`Timeline.machine`) is given both: the present state to act on, and a
past to have read from. What is wanted of it is an invariant `I` of the states and
a relation `E` between an earlier state and a later one, both preserved by what a
step does to the present. The relation is what makes a reading of the past worth
something; it is kept between all the states of a run (`Timeline.throughout_held`,
`Timeline.run_linked`).
-/

/-- A state, and those before it, the latest first. -/
structure Timeline (σ : Type*) where
  now : σ
  past : List σ := []

namespace Timeline

variable {σ α ω ε : Type*}

/-- The state some steps ago: the present one when there were not so many. -/
def ago (t : Timeline σ) (k : ℕ) : σ := (t.now :: t.past).getD k t.now

/-- The timeline with one more state. -/
def advance (t : Timeline σ) (s : σ) : Timeline σ := ⟨s, t.now :: t.past⟩

@[simp] theorem advance_now (t : Timeline σ) (s : σ) : (t.advance s).now = s := rfl

theorem ago_mem (t : Timeline σ) (k : ℕ) : t.ago k = t.now ∨ t.ago k ∈ t.past := by
  cases k with
  | zero => exact .inl rfl
  | succ k =>
    rw [ago, List.getD_cons_succ]
    by_cases hk : k < t.past.length
    · exact .inr (List.getD_eq_getElem t.past t.now hk ▸ List.getElem_mem hk)
    · exact .inl (List.getD_eq_default t.past t.now (Nat.not_lt.mp hk))

/-- Every state has the invariant, and every earlier one is related to the
present. -/
structure Held (I : σ → Prop) (E : σ → σ → Prop) (t : Timeline σ) : Prop where
  now : I t.now
  past : ∀ s ∈ t.past, I s ∧ E s t.now

variable {I : σ → Prop} {E : σ → σ → Prop} {t : Timeline σ}

/-- A timeline that begins. -/
theorem held_start {s : σ} (h : I s) : Held I E ⟨s, []⟩ := ⟨h, fun _ hs => absurd hs List.not_mem_nil⟩

/-- What was read in the past has the invariant and is related to the present. -/
theorem Held.ago (h : t.Held I E) (hrefl : ∀ s, E s s) (k : ℕ) :
    I (t.ago k) ∧ E (t.ago k) t.now := by
  rcases ago_mem t k with hk | hk
  · rw [hk]
    exact ⟨h.now, hrefl t.now⟩
  · exact h.past _ hk

theorem Held.advance (h : t.Held I E) (htrans : ∀ s s' s'', E s s' → E s' s'' → E s s'') {s : σ}
    (hs : I s) (hE : E t.now s) : (t.advance s).Held I E := by
  refine ⟨hs, fun s' hs' => ?_⟩
  rcases List.mem_cons.mp hs' with rfl | hs'
  · exact ⟨h.now, hE⟩
  · exact ⟨(h.past s' hs').1, htrans _ _ _ (h.past s' hs').2 hE⟩

/-! ### The machine of the transactions -/

/-- Transactions over timelines: one that throws leaves no state. -/
def machine (perform : (ℕ → σ) → σ → α → Except ε (ω × σ)) :
    Machine (Timeline σ) α (Except ε ω) where
  step t a := match perform t.ago t.now a with
    | .ok (w, s) => (.ok w, t.advance s)
    | .error e => (.error e, t)

variable {perform : (ℕ → σ) → σ → α → Except ε (ω × σ)}

/-- A step is a transaction that was committed, or nothing. -/
theorem machine_cases (perform : (ℕ → σ) → σ → α → Except ε (ω × σ)) (t : Timeline σ) (a : α) :
    (∃ w s, perform t.ago t.now a = .ok (w, s) ∧ (machine perform).step t a = (.ok w, t.advance s)) ∨
      ∃ e, perform t.ago t.now a = .error e ∧ (machine perform).step t a = (.error e, t) := by
  simp only [machine]
  cases h : perform t.ago t.now a with
  | ok r => exact .inl ⟨r.1, r.2, rfl, rfl⟩
  | error e => exact .inr ⟨e, rfl, rfl⟩

/-- **What a transaction does to the present is a step of the timeline.** -/
theorem Held.next (htrans : ∀ s s' s'', E s s' → E s' s'' → E s s'') {a : α} (h : t.Held I E)
    (hstep : ∀ w s, perform t.ago t.now a = .ok (w, s) → I s ∧ E t.now s) :
    ((machine perform).next t a).Held I E := by
  rcases machine_cases perform t a with ⟨w, s, hperform, hnext⟩ | ⟨e, -, hnext⟩
  · rw [Machine.next, hnext]
    obtain ⟨hs, hE⟩ := hstep w s hperform
    exact h.advance htrans hs hE
  · rw [Machine.next, hnext]
    exact h

section Run

variable (hrefl : ∀ s, E s s) (htrans : ∀ s s' s'', E s s' → E s' s'' → E s s'')
  (hstep : ∀ (seen : ℕ → σ) (s : σ) (a : α) (w : ω) (s' : σ), I s →
    (∀ k, I (seen k) ∧ E (seen k) s) → perform seen s a = .ok (w, s') → I s' ∧ E s s')

include hrefl htrans hstep

theorem Held.next_of_step (h : t.Held I E) (a : α) : ((machine perform).next t a).Held I E :=
  h.next htrans fun w s' hperform => hstep t.ago t.now a w s' h.now (h.ago hrefl) hperform

/-- **An invariant and a relation that every transaction keeps hold throughout.** -/
theorem throughout_held (h : t.Held I E) (as : List α) :
    (machine perform).Throughout (Held I E) t as :=
  Machine.throughout_of_step (fun _ a ht => ht.next_of_step hrefl htrans hstep a) h as

/-- **The present is related to every later state.** -/
theorem run_linked (h : t.Held I E) (as : List α) : E t.now ((machine perform).run t as).now := by
  induction as generalizing t with
  | nil => exact hrefl t.now
  | cons a as ih =>
    have hnext := h.next_of_step hrefl htrans hstep a
    refine htrans _ _ _ ?_ (ih hnext)
    rcases machine_cases perform t a with ⟨w, s, hperform, heq⟩ | ⟨e, -, heq⟩
    · rw [Machine.next, heq]
      exact (hstep t.ago t.now a w s h.now (h.ago hrefl) hperform).2
    · rw [Machine.next, heq]
      exact hrefl t.now

/-- Any two states of a run are related, the earlier to the later. -/
theorem linked_throughout (h : t.Held I E) {as bs : List α} (hpre : as <+: bs) :
    E ((machine perform).run t as).now ((machine perform).run t bs).now := by
  obtain ⟨cs, rfl⟩ := hpre
  rw [Machine.run_append]
  exact run_linked hrefl htrans hstep
    (throughout_held hrefl htrans hstep h as).last cs

end Run

/-- **An invariant and a relation that every transaction keeps which meets a condition**
hold throughout the runs whose transactions all meet it. -/
theorem throughout_held_of_meets {C : σ → α → Prop} (hrefl : ∀ s, E s s)
    (htrans : ∀ s s' s'', E s s' → E s' s'' → E s s'')
    (hstep : ∀ (seen : ℕ → σ) (s : σ) (a : α) (w : ω) (s' : σ), I s →
      (∀ k, I (seen k) ∧ E (seen k) s) → C s a → perform seen s a = .ok (w, s') → I s' ∧ E s s')
    (h : t.Held I E) {as : List α} (hmeets : (machine perform).Meets (fun t a => C t.now a) t as) :
    (machine perform).Throughout (Held I E) t as :=
  Machine.throughout_of_meets (fun t a ht hC => ht.next htrans fun w s' hperform =>
    hstep t.ago t.now a w s' ht.now (ht.ago hrefl) hC hperform) h hmeets

end Timeline
