import Mathlib.Data.List.Basic
import Mathlib.Data.List.Dedup
import Mathlib.Data.List.Pairwise
import Mathlib.Data.List.Nodup
import Mathlib.Data.List.Lattice
import Mathlib.Data.List.Induction

/-!
# Tables under unique constraints, and dictionaries

A *table* is a list of rows, each of which occupies some *keys* – one for every
unique index it appears in, none for an index on a column it leaves null – and
no two rows occupy a common key. The constraint is a field of the structure, so
a table that violates it cannot be built: creating a row fails instead
(`Table.create`), and an update is admitted only when it leaves the keys of
every row alone (`Table.updateMany`).

That one invariant is what makes a lookup by key a function of the key: a row is
found exactly when it is stored (`Table.findUnique_eq_some`), and both kinds of
write change the answer of a lookup in the expected place and nowhere else
(`Table.findUnique_create`, `Table.findUnique_updateMany`).

A *dictionary* (`Dict`) is the table of its entries, keyed by their first
component, in the order of first insertion: the map of the source language. Its
sets are lists without repetition in the same order (`unique`).
-/

/-- A table of rows `ρ`: no two rows occupy a common key. -/
structure Table (ρ : Type*) {κ : Type*} (keys : ρ → List κ) where
  /-- The rows, in the order they were created. -/
  rows : List ρ
  /-- No two rows occupy a common key. -/
  distinct : rows.Pairwise fun r r' => (keys r).Disjoint (keys r')

namespace Table

open List Option

variable {ρ κ : Type*} {keys : ρ → List κ}

/-- The empty table. -/
def empty : Table ρ keys := ⟨[], Pairwise.nil⟩

@[simp] theorem empty_rows : (empty : Table ρ keys).rows = [] := rfl

variable {k : κ}

/-- Two stored rows that occupy a common key are the same row. -/
theorem eq_of_key (t : Table ρ keys) {r r' : ρ} (hr : r ∈ t.rows) (hr' : r' ∈ t.rows)
    (hk : k ∈ keys r) (hk' : k ∈ keys r') : r = r' := by
  by_contra hne
  have : Std.Symm fun r r' : ρ => (keys r).Disjoint (keys r') :=
    ⟨fun _ _ h => h.symm⟩
  exact t.distinct.forall hr hr' hne hk hk'

/-! ### Reading -/

/-- The rows that satisfy a condition. -/
def findMany (t : Table ρ keys) (p : ρ → Prop) [DecidablePred p] : List ρ := t.rows.filter p

/-- The first row that satisfies a condition. -/
def findFirst (t : Table ρ keys) (p : ρ → Prop) [DecidablePred p] : Option ρ := t.rows.find? p

/-- How many rows satisfy a condition. -/
def count (t : Table ρ keys) (p : ρ → Prop) [DecidablePred p] : ℕ := (t.findMany p).length

variable {r : ρ}

@[simp] theorem mem_findMany {t : Table ρ keys} {p : ρ → Prop} [DecidablePred p] :
    r ∈ t.findMany p ↔ r ∈ t.rows ∧ p r := by simp [findMany]

/-- The rows of a table differ by any one of their keys. -/
theorem nodup_keys (t : Table ρ keys) {k : ρ → κ} (hk : ∀ r, k r ∈ keys r) :
    (t.rows.map k).Nodup := by
  rw [Nodup, pairwise_map]
  refine t.distinct.imp fun {r r'} hdisjoint heq => hdisjoint (hk r) ?_
  rw [heq]
  exact hk r'

theorem findFirst_eq_none {t : Table ρ keys} {p : ρ → Prop} [DecidablePred p] :
    t.findFirst p = none ↔ ∀ r ∈ t.rows, ¬p r := by simp [findFirst]

theorem count_pos {t : Table ρ keys} {p : ρ → Prop} [DecidablePred p] :
    0 < t.count p ↔ ∃ r ∈ t.rows, p r := by
  rw [count, length_pos_iff_exists_mem]
  simp

variable [DecidableEq κ]

/-- The row that occupies a key. -/
def findUnique (t : Table ρ keys) (k : κ) : Option ρ := t.rows.find? fun r => k ∈ keys r

/-- **A lookup by key finds the row that occupies it**, whatever the order of
the rows. -/
theorem findUnique_eq_some {t : Table ρ keys} :
    t.findUnique k = some r ↔ r ∈ t.rows ∧ k ∈ keys r := by
  constructor
  · intro h
    exact ⟨mem_of_find?_eq_some h, by simpa using find?_some h⟩
  · rintro ⟨hr, hk⟩
    cases h : t.findUnique k with
    | none =>
      have := find?_eq_none.mp h r hr
      simp [hk] at this
    | some r' =>
      have hk' : k ∈ keys r' := by simpa using find?_some h
      rw [t.eq_of_key (mem_of_find?_eq_some h) hr hk' hk]

theorem findUnique_eq_none {t : Table ρ keys} :
    t.findUnique k = none ↔ ∀ r ∈ t.rows, k ∉ keys r := by simp [findUnique]

theorem findUnique_of_mem {t : Table ρ keys} (hr : r ∈ t.rows) (hk : k ∈ keys r) :
    t.findUnique k = some r := findUnique_eq_some.mpr ⟨hr, hk⟩

@[simp] theorem findUnique_empty : (empty : Table ρ keys).findUnique k = none := rfl

/-! ### Creating a row -/

/-- Store a new row; nothing when one of its keys is occupied. -/
def create (t : Table ρ keys) (r : ρ) : Option (Table ρ keys) :=
  if h : ∀ r' ∈ t.rows, ∀ k ∈ keys r', k ∉ keys r then
    some ⟨t.rows ++ [r], pairwise_append.mpr
      ⟨t.distinct, pairwise_singleton _ _, fun r' hr' x hx => by
        obtain rfl := mem_singleton.mp hx
        exact fun k hk hk' => h r' hr' k hk hk'⟩⟩
  else none

theorem create_rows {t t' : Table ρ keys} (h : t.create r = some t') :
    t'.rows = t.rows ++ [r] := by
  rw [create] at h
  split at h
  · rw [← some.inj h]
  · cases h

theorem mem_create {t t' : Table ρ keys} {r x : ρ} (h : t.create r = some t') :
    x ∈ t'.rows ↔ x ∈ t.rows ∨ x = r := by
  rw [create_rows h, mem_append, mem_singleton]

/-- A row is stored exactly when none of its keys was occupied. -/
theorem create_isSome {t : Table ρ keys} :
    (t.create r).isSome ↔ ∀ k ∈ keys r, t.findUnique k = none := by
  simp only [create, findUnique_eq_none]
  split
  · rename_i h
    exact ⟨fun _ k hk r' hr' hk' => h r' hr' k hk' hk, fun _ => rfl⟩
  · rename_i h
    refine ⟨fun hsome => absurd hsome (by simp), fun hfree => absurd ?_ h⟩
    exact fun r' hr' k hk hk' => hfree k hk' r' hr' hk

theorem findUnique_of_create {t t' : Table ρ keys} (h : t.create r = some t')
    (hk : k ∈ keys r) : t.findUnique k = none :=
  create_isSome.mp (by rw [h]; rfl) k hk

/-- **A creation changes the lookups at the keys of the new row, and no
other.** -/
theorem findUnique_create {t t' : Table ρ keys} (h : t.create r = some t') (k : κ) :
    t'.findUnique k = if k ∈ keys r then some r else t.findUnique k := by
  by_cases hk : k ∈ keys r
  · rw [if_pos hk]
    exact findUnique_of_mem ((mem_create h).mpr (.inr rfl)) hk
  · rw [if_neg hk, findUnique, create_rows h, find?_append]
    simp [hk, findUnique]

/-- The table of a list of rows; a row whose keys are taken is left out. -/
def ofRows (rows : List ρ) : Table ρ keys := rows.foldl (fun t r => (t.create r).getD t) empty

/-! ### Updating rows in place -/

omit [DecidableEq κ]

/-- Update the rows that satisfy a condition. The update may not touch the keys
of a row. -/
def updateMany (t : Table ρ keys) (p : ρ → Prop) [DecidablePred p] (f : ρ → ρ)
    (hf : ∀ r, keys (f r) = keys r := by intro _; rfl) : Table ρ keys where
  rows := t.rows.map fun r => if p r then f r else r
  distinct := by
    rw [pairwise_map]
    refine t.distinct.imp fun {r r'} h => ?_
    have hkeys : ∀ x, keys (if p x then f x else x) = keys x := fun x => by
      split
      · exact hf x
      · rfl
    rwa [hkeys, hkeys]

variable {t : Table ρ keys} {p : ρ → Prop} [DecidablePred p] {f : ρ → ρ}
  {hf : ∀ r, keys (f r) = keys r}

theorem mem_updateMany {x : ρ} :
    x ∈ (t.updateMany p f hf).rows ↔ ∃ r ∈ t.rows, (if p r then f r else r) = x :=
  mem_map

omit [DecidablePred p] in
theorem keys_update [DecidablePred p] (hf : ∀ r, keys (f r) = keys r) (r : ρ) :
    keys (if p r then f r else r) = keys r := by
  split
  · exact hf r
  · rfl

/-- An update whose condition holds of no row changes nothing. -/
theorem updateMany_eq_self (h : ∀ r ∈ t.rows, ¬p r) : t.updateMany p f hf = t := by
  have hrows : (t.updateMany p f hf).rows = t.rows := by
    refine (map_congr_left fun r hr => ?_).trans (map_id _)
    exact if_neg (h r hr)
  cases t
  simpa [updateMany] using hrows

variable [DecidableEq κ]

/-- **An update acts on the row a lookup finds**, and on the lookup in no other
way. -/
theorem findUnique_updateMany (k : κ) :
    (t.updateMany p f hf).findUnique k =
      (t.findUnique k).map fun r => if p r then f r else r := by
  have hkeys := keys_update (p := p) hf
  cases h : t.findUnique k with
  | none =>
    rw [findUnique_eq_none] at h
    refine findUnique_eq_none.mpr fun x hx => ?_
    obtain ⟨r, hr, rfl⟩ := mem_updateMany.mp hx
    rw [hkeys]
    exact h r hr
  | some r =>
    obtain ⟨hr, hk⟩ := findUnique_eq_some.mp h
    exact findUnique_of_mem (mem_updateMany.mpr ⟨r, hr, rfl⟩) (by rwa [hkeys])

/-- A condition that gives the rows it holds of a common key holds of one row at
most. -/
theorem count_eq_one_of_rows (hr : t.findUnique k = some r) (hp : p r)
    (hkey : ∀ x ∈ t.rows, p x → k ∈ keys x) : t.count p = 1 := by
  obtain ⟨hmem, hk⟩ := findUnique_eq_some.mp hr
  have hall : ∀ x ∈ t.findMany p, x = r := fun x hx => by
    obtain ⟨hx, hpx⟩ := mem_findMany.mp hx
    exact t.eq_of_key hx hmem (hkey x hx hpx) hk
  have hnodup : (t.findMany p).Pairwise fun a b => (keys a).Disjoint (keys b) :=
    t.distinct.filter _
  have hin : r ∈ t.findMany p := mem_findMany.mpr ⟨hmem, hp⟩
  rw [count]
  match hl : t.findMany p with
  | [] => rw [hl] at hin; simp at hin
  | [_] => rfl
  | a :: b :: l =>
    rw [hl] at hall hnodup
    have ha : a = r := hall a (by simp)
    have hb : b = r := hall b (by simp)
    have hdis := (pairwise_cons.mp hnodup).1 b (by simp)
    rw [ha, hb] at hdis
    exact absurd hk fun hk' => hdis hk' hk

/-- The condition of an update that names a key concerns one row at most. -/
theorem count_eq_one (hr : t.findUnique k = some r) (hp : p r)
    (hkey : ∀ x, p x → k ∈ keys x) : t.count p = 1 :=
  count_eq_one_of_rows hr hp fun x _ => hkey x

end Table

/-! ### Dictionaries -/

/-- The map of the source language: entries in the order of first insertion. -/
structure Dict (κ ν : Type*) where
  /-- The entries, keyed by their first component. -/
  entries : Table (κ × ν) fun e => [e.1]

namespace Dict

variable {κ ν : Type*}

/-- The empty dictionary. -/
def empty : Dict κ ν := ⟨Table.empty⟩

/-- The values, in the order their keys were first inserted. -/
def values (d : Dict κ ν) : List ν := d.entries.rows.map Prod.snd

variable [DecidableEq κ]

/-- The value stored under a key. -/
def get (d : Dict κ ν) (k : κ) : Option ν := (d.entries.findUnique k).map Prod.snd

/-- Store a value under a key: in place when the key is known, at the end
otherwise. -/
def set (d : Dict κ ν) (k : κ) (v : ν) : Dict κ ν :=
  match d.entries.create (k, v) with
  | some entries => ⟨entries⟩
  | none => ⟨d.entries.updateMany (fun e => e.1 = k) fun e => (e.1, v)⟩

@[simp] theorem get_empty (k : κ) : (empty : Dict κ ν).get k = none := rfl

variable {d : Dict κ ν} {v : ν}

theorem get_eq_some {k : κ} :
    d.get k = some v ↔ (k, v) ∈ d.entries.rows := by
  rw [get, Option.map_eq_some_iff]
  constructor
  · rintro ⟨⟨k', v'⟩, h, rfl⟩
    obtain ⟨hmem, hk⟩ := Table.findUnique_eq_some.mp h
    obtain rfl : k = k' := by simpa using hk
    exact hmem
  · exact fun h => ⟨(k, v), Table.findUnique_of_mem h (by simp), rfl⟩

/-- **Setting a key changes what is read at this key, and nowhere else.** -/
theorem get_set (d : Dict κ ν) (k k' : κ) (v : ν) :
    (d.set k v).get k' = if k' = k then some v else d.get k' := by
  rw [set]
  split
  · rename_i entries h
    rw [get, Table.findUnique_create h, get]
    by_cases hk : k' = k <;> simp [hk]
  · rename_i h
    rw [get, Table.findUnique_updateMany, get, Option.map_map]
    cases hd : d.entries.findUnique k' with
    | none =>
      have hk : k' ≠ k := fun hc => by
        have hfree : (d.entries.create (k, v)).isSome := by
          rw [Table.create_isSome]
          simpa [← hc] using hd
        rw [h] at hfree
        cases hfree
      simp [hk]
    | some e =>
      obtain rfl : k' = e.1 := by simpa using (Table.findUnique_eq_some.mp hd).2
      by_cases hk : e.1 = k <;> simp [hk]

@[simp] theorem get_set_self (d : Dict κ ν) (k : κ) (v : ν) : (d.set k v).get k = some v := by
  rw [get_set, if_pos rfl]

theorem get_set_of_ne (d : Dict κ ν) {k k' : κ} (v : ν) (h : k' ≠ k) :
    (d.set k v).get k' = d.get k' := by rw [get_set, if_neg h]

/-- A new key comes last. -/
theorem values_set_of_none {k : κ} (v : ν) (h : d.get k = none) :
    (d.set k v).values = d.values ++ [v] := by
  have hfree : (d.entries.create (k, v)).isSome := by
    rw [Table.create_isSome]
    simpa [get] using h
  obtain ⟨entries, he⟩ := Option.isSome_iff_exists.mp hfree
  simp [set, he, values, Table.create_rows he]

/-- A known key is given its value in its place. -/
theorem values_set_of_some {k : κ} (v : ν) {old : ν} (h : d.get k = some old) :
    (d.set k v).values = d.entries.rows.map fun e => if e.1 = k then v else e.2 := by
  have hnone : d.entries.create (k, v) = none := by
    rw [← Option.not_isSome_iff_eq_none, Table.create_isSome]
    intro hall
    have := hall k (by simp)
    rw [get, this] at h
    cases h
  simp only [set, hnone, values, Table.updateMany, List.map_map]
  refine List.map_congr_left fun e _ => ?_
  by_cases hk : e.1 = k <;> simp [hk]

/-- **A known key keeps its place**: what is read alike of the old and the new
value is read alike of the values in order. -/
theorem map_values_set {β : Type*} {k : κ} {v old : ν} (g : ν → β)
    (h : d.get k = some old) (hg : g v = g old) :
    (d.set k v).values.map g = d.values.map g := by
  have hmem := get_eq_some.mp h
  rw [values_set_of_some v h, values, List.map_map, List.map_map]
  refine List.map_congr_left fun e he => ?_
  by_cases hk : e.1 = k
  · -- the entry that is replaced is the old one
    have hold : e = (k, old) :=
      d.entries.eq_of_key he hmem (k := k) (by simp [hk]) (by simp)
    simp [hold, hg]
  · simp [hk]

/-- The dictionary of a list of entries, later ones over earlier ones. -/
def ofList (entries : List (κ × ν)) : Dict κ ν :=
  entries.foldl (fun d e => d.set e.1 e.2) empty

theorem ofList_append_singleton (entries : List (κ × ν)) (e : κ × ν) :
    ofList (entries ++ [e]) = (ofList entries).set e.1 e.2 := by
  simp [ofList, List.foldl_append]

variable {entries : List (κ × ν)}

/-- What is read in the dictionary of a list is one of its entries. -/
theorem mem_of_get_ofList {k : κ}
    (h : (ofList entries).get k = some v) : (k, v) ∈ entries := by
  -- the fold is followed from its end: the last entry was set last
  induction entries using List.reverseRecOn with
  | nil => simp [ofList] at h
  | append_singleton entries e ih =>
    rw [ofList_append_singleton, get_set] at h
    rw [List.mem_append, List.mem_singleton]
    split at h
    · rename_i hk
      exact .inr (Prod.ext hk (Option.some.inj h).symm)
    · exact .inl (ih h)

/-- **A dictionary of entries whose keys determine their values holds these
entries.** -/
theorem get_ofList_of_functional
    (h : ∀ e ∈ entries, ∀ e' ∈ entries, e.1 = e'.1 → e.2 = e'.2) {k : κ} :
    (ofList entries).get k = some v ↔ (k, v) ∈ entries := by
  refine ⟨mem_of_get_ofList, fun hmem => ?_⟩
  induction entries using List.reverseRecOn with
  | nil => exact absurd hmem List.not_mem_nil
  | append_singleton entries e ih =>
    have hearlier : ∀ x ∈ entries, x ∈ entries ++ [e] := fun x hx => List.mem_append_left [e] hx
    have hlast : e ∈ entries ++ [e] := List.mem_append_right entries List.mem_cons_self
    rw [ofList_append_singleton, get_set]
    split
    · rename_i hk
      exact congrArg some (h (k, v) hmem e hlast hk).symm
    · rename_i hk
      have hbefore : (k, v) ∈ entries := by
        rw [List.mem_append, List.mem_singleton] at hmem
        exact hmem.resolve_right fun he => hk (by rw [← he])
      exact ih (fun x hx x' hx' => h x (hearlier x hx) x' (hearlier x' hx')) hbefore

/-- **A dictionary of entries with distinct keys holds these entries.** -/
theorem get_ofList (h : (entries.map Prod.fst).Nodup) {k : κ} :
    (ofList entries).get k = some v ↔ (k, v) ∈ entries :=
  get_ofList_of_functional fun _ he _ he' hk => by rw [List.inj_on_of_nodup_map h he he' hk]

omit [DecidableEq κ] in
/-- The dictionary with a value for each of some keys. -/
def tabulate (keys : List κ) (h : keys.Nodup) (f : κ → ν) : Dict κ ν :=
  ⟨⟨keys.map fun k => (k, f k), by
    rw [List.pairwise_map]
    exact h.imp fun hne => by simpa [eq_comm] using hne⟩⟩

theorem get_tabulate {keys : List κ} (h : keys.Nodup) (f : κ → ν) {k : κ} (hk : k ∈ keys) :
    (tabulate keys h f).get k = some (f k) :=
  get_eq_some.mpr (List.mem_map.mpr ⟨k, hk, rfl⟩)

omit [DecidableEq κ] in
/-- Every value, by a function. -/
def map {ν' : Type*} (f : ν → ν') (d : Dict κ ν) : Dict κ ν' :=
  ⟨⟨d.entries.rows.map fun e => (e.1, f e.2), by
    rw [List.pairwise_map]
    exact d.entries.distinct.imp fun h => by simpa using h⟩⟩

@[simp] theorem get_map {ν' : Type*} (f : ν → ν') (d : Dict κ ν) (k : κ) :
    (d.map f).get k = (d.get k).map f := by
  ext v
  rw [get_eq_some, Option.map_eq_some_iff]
  simp [map, get_eq_some]

theorem mem_values : v ∈ d.values ↔ ∃ k, d.get k = some v := by
  simp [values, get_eq_some]

omit [DecidableEq κ] in
/-- The keys of a dictionary differ. -/
theorem nodup_entries (d : Dict κ ν) : (d.entries.rows.map Prod.fst).Nodup :=
  d.entries.nodup_keys fun e => by simp

/-- A dictionary of entries whose keys differ holds their values, in their order. -/
theorem values_ofList (h : (entries.map Prod.fst).Nodup) :
    (ofList entries).values = entries.map Prod.snd := by
  induction entries using List.reverseRecOn with
  | nil => rfl
  | append_singleton entries e ih =>
    rw [List.map_append, List.map_singleton, List.nodup_append] at h
    obtain ⟨hfirst, -, hapart⟩ := h
    have hnone : (ofList entries).get e.1 = none := by
      rw [Option.eq_none_iff_forall_ne_some]
      intro v hv
      have hmem : (e.1, v) ∈ entries := mem_of_get_ofList hv
      exact hapart e.1 (List.mem_map.mpr ⟨_, hmem, rfl⟩) e.1 (List.mem_singleton_self _) rfl
    rw [ofList_append_singleton, values_set_of_none e.2 hnone, ih hfirst, List.map_append,
      List.map_singleton]

/-- **Nothing is lost exactly when the keys differ**: the dictionary of values under keys they
determine holds all of them if and only if no two of them have one key. -/
theorem values_ofList_iff {values : List ν} (key : ν → κ) :
    (ofList (values.map fun v => (key v, v))).values = values ↔ (values.map key).Nodup := by
  have hfst : (values.map fun v => (key v, v)).map Prod.fst = values.map key := by
    rw [List.map_map]
    rfl
  have hsnd : (values.map fun v => (key v, v)).map Prod.snd = values := by
    rw [List.map_map]
    exact List.map_id values
  constructor
  · intro h
    have hentries : (ofList (values.map fun v => (key v, v))).entries.rows.map Prod.fst =
        (ofList (values.map fun v => (key v, v))).values.map key := by
      rw [Dict.values, List.map_map]
      refine List.map_congr_left fun e he => ?_
      obtain ⟨v, -, hv⟩ := List.mem_map.mp (mem_of_get_ofList (get_eq_some.mpr he))
      rw [Prod.mk.injEq] at hv
      rw [Function.comp, ← hv.1, ← hv.2]
    have hnodup := nodup_entries (ofList (values.map fun v => (key v, v)))
    rwa [hentries, h] at hnodup
  · intro h
    rw [values_ofList (by rwa [hfst]), hsnd]

end Dict

/-! ### Sets -/

/-- The elements of a list, each once, in the order they first occur: the set of
the source language. -/
def unique {α : Type*} [DecidableEq α] (l : List α) : List α := l.reverse.dedup.reverse

variable {α : Type*}

@[simp] theorem mem_unique [DecidableEq α] {l : List α} {a : α} :
    a ∈ unique l ↔ a ∈ l := by simp [unique]

theorem nodup_unique [DecidableEq α] {l : List α} : (unique l).Nodup := by
  simp [unique, List.nodup_dedup]

@[simp] theorem unique_eq_nil [DecidableEq α] {l : List α} : unique l = [] ↔ l = [] := by
  simp [unique]

/-- A set has one element when all the elements of the list are equal to it. -/
theorem unique_eq_singleton [DecidableEq α] {l : List α} {a : α} :
    unique l = [a] ↔ a ∈ l ∧ ∀ x ∈ l, x = a := by
  constructor
  · intro hl
    have hmem : ∀ x, x ∈ l ↔ x = a := fun x => by rw [← mem_unique, hl, List.mem_singleton]
    exact ⟨(hmem a).mpr rfl, fun x hx => (hmem x).mp hx⟩
  · rintro ⟨hmem, hall⟩
    match hl : unique l with
    | [] => simp [unique_eq_nil.mp hl] at hmem
    | [x] => rw [hall x (mem_unique.mp (by simp [hl]))]
    | x :: y :: rest =>
      have hnodup := nodup_unique (l := l)
      rw [hl] at hnodup
      have hx := hall x (mem_unique.mp (by simp [hl]))
      have hy := hall y (mem_unique.mp (by simp [hl]))
      simp [hx, hy] at hnodup
