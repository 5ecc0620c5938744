import Mathlib.Data.List.Nodup
import Mathlib.Data.List.Perm.Subperm
import Mathlib.Data.List.Sort

/-!
# Lists under distinct keys

A list whose members have distinct keys is read by key: a search for the key of a member finds
this member (`Keyed.find?_key`), whatever the order of the list, and as
many of its members as there are distinct keys in another list have one of these
(`Keyed.countP_mem`). It is sorted by key whatever the order it came in
(`Keyed.insertionSort_append`).
-/

namespace Keyed

open List

variable {α β κ : Type*} [DecidableEq κ] {key : α → κ} {l l' : List α}

omit [DecidableEq κ] in
/-- Two members of one key are the same. -/
theorem eq_of_key (h : (l.map key).Nodup) {a b : α} (ha : a ∈ l) (hb : b ∈ l)
    (hab : key a = key b) : a = b :=
  inj_on_of_nodup_map h ha hb hab

/-- **A search for the key of a member finds it.** -/
theorem find?_key (h : (l.map key).Nodup) {a : α} (ha : a ∈ l) :
    (l.find? fun x => key x = key a) = some a := by
  cases hf : l.find? fun x => key x = key a with
  | none =>
    have hnone := find?_eq_none.mp hf a ha
    simp at hnone
  | some b =>
    have hb : key b = key a := by simpa using find?_some hf
    rw [eq_of_key h (mem_of_find?_eq_some hf) ha hb]

/-- What a search for a key finds is the member of this key. -/
theorem find?_eq_some (h : (l.map key).Nodup) {k : κ} {a : α} :
    (l.find? fun x => key x = k) = some a ↔ a ∈ l ∧ key a = k := by
  constructor
  · intro hf
    exact ⟨mem_of_find?_eq_some hf, by simpa using find?_some hf⟩
  · rintro ⟨ha, rfl⟩
    exact find?_key h ha

/-- A search for a key finds nothing where no member has it. -/
theorem find?_eq_none {k : κ} : (l.find? fun x => key x = k) = none ↔ k ∉ l.map key := by
  simp

/-- The members of a list that are among others are these others. -/
theorem filter_mem_perm {keys present : List κ} (h : keys.Nodup) (h' : present.Nodup)
    (hsub : present ⊆ keys) : (keys.filter (· ∈ present)).Perm present := by
  rw [perm_ext_iff_of_nodup (h.filter _) h']
  intro k
  rw [mem_filter, decide_eq_true_eq]
  exact ⟨And.right, fun hk => ⟨hsub hk, hk⟩⟩

/-- **As many members as keys**: where each of some distinct keys is the key of a member, that
many members have one of them. -/
theorem countP_mem {present : List κ} (h : (l.map key).Nodup) (h' : present.Nodup)
    (hsub : present ⊆ l.map key) : (l.countP fun a => key a ∈ present) = present.length := by
  have hmap : (l.map key).countP (· ∈ present) = l.countP fun a => key a ∈ present :=
    countP_map
  rw [← hmap, countP_eq_length_filter, (filter_mem_perm h h' hsub).length_eq]

/-- What is there under some of the keys of a list, in its order: what there is, when all of it
is under one of these keys. -/
theorem filterMap_find?_perm {key' : β → κ} {present : List β} (h : (l.map key).Nodup)
    (h' : (present.map key').Nodup) (hsub : ∀ b ∈ present, ∃ a ∈ l, key a = key' b) :
    (l.filterMap fun a => present.find? fun b => key' b = key a).Perm present := by
  have hnodup : (l.filterMap fun a => present.find? fun b => key' b = key a).Nodup := by
    rw [Nodup, pairwise_filterMap]
    refine (pairwise_map.mp h).imp fun {a a'} hne b hb b' hb' heq => hne ?_
    rw [← ((find?_eq_some h').mp hb).2, ← ((find?_eq_some h').mp hb').2, heq]
  rw [perm_ext_iff_of_nodup hnodup (Nodup.of_map key' h')]
  intro b
  rw [mem_filterMap]
  constructor
  · rintro ⟨a, -, hb⟩
    exact ((find?_eq_some h').mp hb).1
  · intro hb
    obtain ⟨a, ha, hkey⟩ := hsub b hb
    exact ⟨a, ha, (find?_eq_some h').mpr ⟨hb, hkey.symm⟩⟩

/-! ### Lists in the order of their keys -/

section Order

variable {r : κ → κ → Prop} [DecidableRel r]

omit [DecidableEq κ] in
/-- **Members of distinct keys are put in their places one after the other**, in whatever
order. -/
theorem orderedInsert_comm (htrans : ∀ i j k, r i j → r j k → r i k) {a b : α}
    (hab : r (key a) (key b)) (hba : ¬r (key b) (key a)) (l : List α) :
    (l.orderedInsert (fun x y => r (key x) (key y)) b).orderedInsert
        (fun x y => r (key x) (key y)) a =
      (l.orderedInsert (fun x y => r (key x) (key y)) a).orderedInsert
        (fun x y => r (key x) (key y)) b := by
  induction l with
  | nil =>
    simp only [orderedInsert_nil, orderedInsert_cons, if_pos hab, if_neg hba]
  | cons c l ih =>
    rw [orderedInsert_cons, orderedInsert_cons]
    by_cases hbc : r (key b) (key c)
    · -- both go before what is there
      rw [if_pos hbc, if_pos (htrans _ _ _ hab hbc), orderedInsert_cons, if_pos hab,
        orderedInsert_cons, if_neg hba, orderedInsert_cons, if_pos hbc]
    · rw [if_neg hbc, orderedInsert_cons]
      by_cases hac : r (key a) (key c)
      · rw [if_pos hac, if_pos hac, orderedInsert_cons, if_neg hba,
          orderedInsert_cons, if_neg hbc]
      · rw [if_neg hac, if_neg hac, orderedInsert_cons, if_neg hbc, ih]

omit [DecidableEq κ] in
/-- **A list is sorted by key whatever the order of its first members**, when these have
distinct keys. -/
theorem insertionSort_append (htotal : ∀ i j, r i j ∨ r j i)
    (htrans : ∀ i j k, r i j → r j k → r i k) (hantisymm : ∀ i j, r i j → r j i → i = j)
    (h : (l.map key).Nodup) (hperm : l.Perm l') (rest : List α) :
    (l ++ rest).insertionSort (fun x y => r (key x) (key y)) =
      (l' ++ rest).insertionSort fun x y => r (key x) (key y) := by
  simp only [insertionSort, foldr_append]
  refine hperm.foldr_eq' (fun a ha b hb rest => ?_) _
  by_cases hab : r (key a) (key b)
  · by_cases hba : r (key b) (key a)
    · rw [eq_of_key h ha hb (hantisymm _ _ hab hba)]
    · exact (orderedInsert_comm htrans hab hba rest).symm
  · exact orderedInsert_comm htrans ((htotal _ _).resolve_left hab) hab rest

end Order

end Keyed
