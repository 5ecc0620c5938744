import Mathlib.Algebra.Order.Ring.Int
import Mathlib.Logic.Function.Basic

/-!
# Serving who was served least

Everybody has a count of how often they were served. A *promise* to serve somebody
at a count is made when nobody of a group has less; it is kept later, provided the
count of who it was made to has not moved. The others may have been served in
between, and their counts only grow, so a promise that is kept late is still fair
(`LeastServed.Spread.serve`).
-/

namespace LeastServed

variable {α : Type*} {W : Set α} {count count' : α → ℕ}

/-- Nobody of the group is served more than once more than another. -/
def Spread (W : Set α) (count : α → ℕ) : Prop := ∀ u ∈ W, ∀ v ∈ W, count u ≤ count v + 1

/-- Nobody of the group is below a count. -/
def Promised (W : Set α) (count : α → ℕ) (n : ℕ) : Prop := ∀ w ∈ W, n ≤ count w

/-- One more service. -/
def serve [DecidableEq α] (count : α → ℕ) (u : α) : α → ℕ := Function.update count u (count u + 1)

theorem spread_zero : Spread W fun _ : α => 0 := fun _ _ _ _ => Nat.zero_le _

/-- A promise outlives what is served. -/
theorem Promised.mono {n : ℕ} (h : Promised W count n) (hle : ∀ w, count w ≤ count' w) :
    Promised W count' n := fun w hw => (h w hw).trans (hle w)

variable [DecidableEq α]

theorem le_serve (u w : α) : count w ≤ serve count u w := by
  by_cases h : w = u
  · subst h
    simp [serve]
  · simp [serve, h]

/-- **A promise that is kept is fair**: who it was made to has the count it was made
at, and nobody of the group is below it. -/
theorem Spread.serve {u : α} (h : Spread W count) (hpromised : Promised W count (count u)) :
    Spread W (serve count u) := by
  intro v hv w hw
  have hgrown : count w ≤ LeastServed.serve count u w := le_serve u w
  by_cases hvu : v = u
  · have hleast := hpromised w hw
    have hserved : LeastServed.serve count u v = count u + 1 := by simp [LeastServed.serve, hvu]
    omega
  · have hsame : LeastServed.serve count u v = count v := by simp [LeastServed.serve, hvu]
    have hspread := h v hv w hw
    omega

end LeastServed
