import Mathlib.Algebra.Order.Ring.Int
import Mathlib.Data.List.Basic

/-!
# Grids

The points of a *grid* are its origin and every `step` after it. What is held for
some length and starts on the grid is found by walking: from the first point at
or after the earliest start (`Grid.roundUp`), step by step, as long as what starts
there still ends in time (`Grid.walk`). The walk visits exactly these points
(`Grid.mem_walk_roundUp`).
-/

namespace Grid

variable {step origin length earliest latest start t : ℤ}

/-- The first point of a grid at or after some point: the distance to the origin,
divided by the step and rounded up. -/
def roundUp (origin step t : ℤ) : ℤ := origin + -(-(t - origin) / step) * step

/-- The points from `start` on, a step apart, from which `length` ends at `latest`
at the latest. -/
def walk (step length latest : ℤ) (hstep : 0 < step) (start : ℤ) : List ℤ :=
  if start + length ≤ latest then start :: walk step length latest hstep (start + step) else []
termination_by (latest - length - start + step).toNat
decreasing_by omega

/-- **The walk visits every point from its start on, until what starts there ends
too late.** -/
theorem mem_walk (hstep : 0 < step) :
    t ∈ walk step length latest hstep start ↔
      (∃ n : ℕ, t = start + n * step) ∧ t + length ≤ latest := by
  induction start using walk.induct step length latest hstep with
  | case1 start hfits ih =>
    rw [walk, if_pos hfits, List.mem_cons, ih]
    constructor
    · rintro (rfl | ⟨⟨n, rfl⟩, hends⟩)
      · exact ⟨⟨0, by simp⟩, hfits⟩
      · refine ⟨⟨n + 1, ?_⟩, hends⟩
        rw [Nat.cast_succ, add_mul, one_mul]
        omega
    · rintro ⟨⟨n, rfl⟩, hends⟩
      cases n with
      | zero => exact .inl (by simp)
      | succ n =>
        refine .inr ⟨⟨n, ?_⟩, hends⟩
        rw [Nat.cast_succ, add_mul, one_mul]
        omega
  | case2 start hlate =>
    rw [walk, if_neg hlate]
    refine ⟨fun h => absurd h List.not_mem_nil, ?_⟩
    rintro ⟨⟨n, rfl⟩, hends⟩
    have hforward : 0 ≤ (n : ℤ) * step := Int.mul_nonneg (Int.natCast_nonneg n) hstep.le
    omega

/-- The point of the grid is at or after the point, and less than a step after
it. -/
theorem roundUp_spec (hstep : 0 < step) (origin t : ℤ) :
    t ≤ roundUp origin step t ∧ roundUp origin step t < t + step := by
  have hdiv := Int.emod_add_mul_ediv (-(t - origin)) step
  have hlo := Int.emod_nonneg (-(t - origin)) hstep.ne'
  have hhi := Int.emod_lt_of_pos (-(t - origin)) hstep
  have hneg : -(-(t - origin) / step) * step = -(step * (-(t - origin) / step)) := by
    rw [neg_mul, mul_comm]
  rw [roundUp, hneg]
  omega

/-- **Walking from the first point at or after the earliest start** visits exactly
the points of the grid in time. -/
theorem mem_walk_roundUp (hstep : 0 < step) (horigin : origin ≤ earliest) :
    t ∈ walk step length latest hstep (roundUp origin step earliest) ↔
      (∃ n : ℕ, t = origin + n * step) ∧ earliest ≤ t ∧ t + length ≤ latest := by
  obtain ⟨hlo, hhi⟩ := roundUp_spec hstep origin earliest
  have hpoint : ∃ k : ℕ, roundUp origin step earliest = origin + k * step := by
    refine ⟨(-(-(earliest - origin) / step)).toNat, ?_⟩
    have hnonneg : 0 ≤ -(-(earliest - origin) / step) := by
      have hback : -(earliest - origin) ≤ 0 := by omega
      have := Int.ediv_nonpos_of_nonpos_of_neg hback hstep
      omega
    rw [roundUp, Int.toNat_of_nonneg hnonneg]
  obtain ⟨k, hk⟩ := hpoint
  rw [mem_walk hstep]
  constructor
  · rintro ⟨⟨n, rfl⟩, hends⟩
    have hforward : 0 ≤ (n : ℤ) * step := Int.mul_nonneg (Int.natCast_nonneg n) hstep.le
    refine ⟨⟨k + n, ?_⟩, by omega, hends⟩
    rw [hk, Nat.cast_add, add_mul]
    omega
  · rintro ⟨⟨n, rfl⟩, hearliest, hends⟩
    -- a point of the grid before the first one would be more than a step away
    have hkn : k ≤ n := by
      by_contra hlt
      have hsucc : (n : ℤ) + 1 ≤ k := by omega
      have hmul := Int.mul_le_mul_of_nonneg_right hsucc hstep.le
      rw [add_mul, one_mul] at hmul
      omega
    refine ⟨⟨n - k, ?_⟩, hends⟩
    rw [hk, Nat.cast_sub hkn, sub_mul]
    omega

end Grid
