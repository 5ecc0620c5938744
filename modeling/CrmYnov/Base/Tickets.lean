import Mathlib.Data.List.Count
import Mathlib.Algebra.Order.Ring.Int

/-!
# Tickets that are spent

A *ticket* belongs to a holder, is created at an instant and is spent once. The
counter that issues tickets does two things before it adds a new one to its list:
it counts those of the holder that are recent, and it spends those of the holder
that are not spent yet. The first keeps the number of tickets a holder is given
during a span of time under a limit (`Tickets.Limited`), the second leaves a
holder with one unspent ticket at most (`Tickets.OneUnspent`).

The counter reads its own clock before the ticket is created, and nothing more is
asked of the two instants: the last of the tickets of a span was created when the
others of the span were counted.
-/

namespace Tickets

open List

variable {τ ι : Type*} [DecidableEq ι] (holder : τ → ι)

/-- A holder has one unspent ticket at most. -/
def OneUnspent (spent : τ → Prop) [DecidablePred spent] (l : List τ) : Prop :=
  ∀ i, l.countP (fun t => holder t = i ∧ ¬spent t) ≤ 1

/-- A holder is given at most so many tickets during any span of a given length. -/
def Limited (created : τ → ℤ) (limit : ℕ) (span : ℤ) (l : List τ) : Prop :=
  ∀ i t₀, l.countP (fun t => holder t = i ∧ t₀ ≤ created t ∧ created t < t₀ + span) ≤ limit

variable {holder}

section OneUnspent

variable {spent : τ → Prop} [DecidablePred spent] {l : List τ}

theorem oneUnspent_nil : OneUnspent holder spent [] := fun _ => by simp

/-- Tickets that change keep to their holder, and stay spent. -/
theorem OneUnspent.map (h : OneUnspent holder spent l) {f : τ → τ}
    (hholder : ∀ t, holder (f t) = holder t) (hspent : ∀ t, spent t → spent (f t)) :
    OneUnspent holder spent (l.map f) := by
  intro i
  rw [countP_map]
  refine le_trans (countP_mono_left ?_) (h i)
  intro t _ ht
  simp only [Function.comp, hholder, decide_eq_true_eq] at ht ⊢
  exact ⟨ht.1, fun hs => ht.2 (hspent t hs)⟩

/-- **A new ticket is the only unspent one of a holder whose tickets are spent.** -/
theorem OneUnspent.issue (h : OneUnspent holder spent l) {new : τ}
    (hspent : ∀ t ∈ l, holder t = holder new → spent t) :
    OneUnspent holder spent (l ++ [new]) := by
  intro i
  rw [countP_append]
  by_cases hi : holder new = i
  · have hnone : l.countP (fun t => holder t = i ∧ ¬spent t) = 0 := by
      rw [countP_eq_zero]
      intro t ht hc
      simp only [decide_eq_true_eq] at hc
      exact hc.2 (hspent t ht (hc.1.trans hi.symm))
    rw [hnone, Nat.zero_add]
    exact countP_le_length
  · have hnone : [new].countP (fun t => holder t = i ∧ ¬spent t) = 0 := by simp [hi]
    rw [hnone, Nat.add_zero]
    exact h i

end OneUnspent

section Limited

variable {created : τ → ℤ} {limit : ℕ} {span : ℤ} {l : List τ}

theorem limited_nil : Limited holder created limit span [] := fun _ _ => by simp

/-- Tickets that change keep their holder and the instant they were created at. -/
theorem Limited.map (h : Limited holder created limit span l) {f : τ → τ}
    (hholder : ∀ t, holder (f t) = holder t) (hcreated : ∀ t, created (f t) = created t) :
    Limited holder created limit span (l.map f) := by
  intro i t₀
  rw [countP_map]
  refine le_trans (countP_mono_left ?_) (h i t₀)
  intro t _ ht
  simpa only [Function.comp, hholder, hcreated] using ht

/-- **A ticket is issued to a holder with fewer recent ones than the limit.** What is
recent was read off a clock that was not ahead of the ticket. -/
theorem Limited.issue (h : Limited holder created limit span l) {new : τ} {now : ℤ}
    (hnow : now ≤ created new)
    (hrecent : l.countP (fun t => holder t = holder new ∧ now - span < created t) < limit) :
    Limited holder created limit span (l ++ [new]) := by
  intro i t₀
  rw [countP_append]
  by_cases hin : holder new = i ∧ t₀ ≤ created new ∧ created new < t₀ + span
  · -- what the span holds already was counted as recent
    obtain ⟨rfl, hfrom, hto⟩ := hin
    have hold : l.countP (fun t => holder t = holder new ∧ t₀ ≤ created t ∧ created t < t₀ + span) ≤
        l.countP (fun t => holder t = holder new ∧ now - span < created t) := by
      refine countP_mono_left fun t _ ht => ?_
      simp only [decide_eq_true_eq] at ht ⊢
      obtain ⟨hholder, hlow, -⟩ := ht
      exact ⟨hholder, by omega⟩
    have hone : [new].countP
        (fun t => holder t = holder new ∧ t₀ ≤ created t ∧ created t < t₀ + span) ≤ 1 :=
      countP_le_length
    omega
  · have hnone : [new].countP
        (fun t => holder t = i ∧ t₀ ≤ created t ∧ created t < t₀ + span) = 0 := by
      rw [countP_singleton, if_neg]
      simpa using hin
    rw [hnone, Nat.add_zero]
    exact h i t₀

end Limited

end Tickets
