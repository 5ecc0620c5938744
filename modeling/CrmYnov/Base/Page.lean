import Mathlib.Data.List.Basic
import Mathlib.Data.List.Sort
import Mathlib.Order.Defs.LinearOrder

/-!
# Pages of a sorted list

A query that sorts its rows and returns a bounded number of them, followed by a
filter on what it returned, is not the filter followed by the bound: rows that
the filter rejects take the place of rows it would keep. The question which
rows survive is settled by counting: the page holds a row that is kept exactly
when some row that is kept has fewer rejected rows before it than the page has
room for (`Page.exists_mem_take_iff`).
-/

namespace Page

open List

variable {α : Type*} {r : α → α → Prop} [DecidableRel r] {p : α → Prop} [DecidablePred p]

/-- The rows of a list that are rejected and stand before `x`. -/
def rejectedBefore (p : α → Prop) [DecidablePred p] (r : α → α → Prop) [DecidableRel r]
    (l : List α) (x : α) : List α := l.filter fun y => ¬p y ∧ r y x

/-- **What a page of a sorted list keeps**: something, exactly when some element
to be kept has fewer rejected elements before it than the page has room for. -/
theorem exists_mem_take_iff (hasymm : ∀ a b, r a b → ¬r b a) {l : List α} (hl : l.Pairwise r)
    (n : ℕ) :
    (∃ x ∈ l.take n, p x) ↔ ∃ x ∈ l, p x ∧ (rejectedBefore p r l x).length < n := by
  induction l generalizing n with
  | nil => simp
  | cons a l ih =>
    obtain ⟨hhead, htail⟩ := pairwise_cons.mp hl
    cases n with
    | zero => simp
    | succ n =>
      by_cases ha : p a
      · -- nothing stands before the first element
        have hnone : rejectedBefore p r (a :: l) a = [] := by
          refine filter_eq_nil_iff.mpr fun y hy => ?_
          rcases mem_cons.mp hy with rfl | hy
          · simp [ha]
          · simpa using fun _ => hasymm a y (hhead y hy)
        refine ⟨fun _ => ⟨a, mem_cons_self .., ha, ?_⟩, fun _ => ⟨a, by simp, ha⟩⟩
        rw [hnone]
        exact Nat.succ_pos n
      · -- a rejected first element takes one place of the page
        have hcount : ∀ x ∈ l, (rejectedBefore p r (a :: l) x).length =
            (rejectedBefore p r l x).length + 1 := fun x hx => by
          simp [rejectedBefore, ha, hhead x hx]
        have hrest := ih htail n
        constructor
        · rintro ⟨x, hx, hpx⟩
          rcases mem_cons.mp hx with rfl | hx
          · exact absurd hpx ha
          obtain ⟨y, hy, hpy, hlt⟩ := hrest.mp ⟨x, hx, hpx⟩
          exact ⟨y, mem_cons_of_mem _ hy, hpy, by rw [hcount y hy]; omega⟩
        · rintro ⟨x, hx, hpx, hlt⟩
          rcases mem_cons.mp hx with rfl | hx
          · exact absurd hpx ha
          rw [hcount x hx] at hlt
          obtain ⟨y, hy, hpy⟩ := hrest.mpr ⟨x, hx, hpx, by omega⟩
          exact ⟨y, mem_cons_of_mem _ hy, hpy⟩

/-- A page of what is kept reaches at least as far as the page of the whole list. -/
theorem mem_take_filter {l : List α} {n : ℕ} {a : α} (h : a ∈ l.take n) (hp : p a) :
    a ∈ (l.filter p).take n := by
  induction l generalizing n with
  | nil => simp at h
  | cons x l ih =>
    cases n with
    | zero => cases h
    | succ n =>
      rw [take_succ_cons, mem_cons] at h
      by_cases hx : p x
      · rw [filter_cons_of_pos (by simpa using hx), take_succ_cons, mem_cons]
        exact h.imp_right ih
      · rw [filter_cons_of_neg (by simpa using hx)]
        rcases h with rfl | h
        · exact absurd hp hx
        · exact take_subset_take_left _ n.le_succ (ih h)

/-- Sorting by the weak half of a linear order puts distinct keys in strict
order. -/
theorem pairwise_lt_insertionSort {κ : Type*} [LinearOrder κ] (key : α → κ)
    (hr : ∀ a b, r a b ↔ key a < key b) {l : List α} (hl : l.Pairwise fun a b => key a ≠ key b) :
    (l.insertionSort fun a b => ¬r b a).Pairwise r := by
  have htotal : Std.Total fun a b : α => ¬r b a := ⟨fun a b => by
    simpa only [hr, not_lt] using le_total (key a) (key b)⟩
  have htrans : IsTrans α fun a b => ¬r b a := ⟨fun a b c => by
    simpa only [hr, not_lt] using le_trans⟩
  have hsorted := pairwise_insertionSort (fun a b : α => ¬r b a) l
  have hne : (l.insertionSort fun a b => ¬r b a).Pairwise fun a b => key a ≠ key b :=
    (perm_insertionSort _ l).symm.pairwise hl fun h => h.symm
  refine hsorted.imp₂ (fun a b hle hkey => ?_) hne
  rw [hr] at hle ⊢
  exact lt_of_le_of_ne (not_lt.mp hle) hkey

end Page
