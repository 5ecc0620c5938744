import Mathlib.Data.List.Basic
import Mathlib.Data.List.Nodup

/-!
# Machines and their runs

A *machine* reads one action at a time, answers it, and moves to a new state. A
step is total: an action that the system refuses is one whose answer says so.
Everything a service does in this development – a request, a request whose
transaction is rolled back, one atomic statement of a worker – is an action of
some machine, with the nondeterminism of the world (clocks, identifiers,
faults) written into the action.

The file settles, once, the shapes of argument that are used about runs:

* an invariant of the step is an invariant of the run
  (`Machine.throughout_of_step`);
* an invariant that survives every step taken under a condition survives the
  runs whose steps all meet the condition
  (`Machine.throughout_of_meets`);
* what is settled stays settled (`Machine.run_of_stable`);
* tickets drawn from counters that only grow are never drawn twice
  (`Machine.nodup_tickets`).
-/

/-- A machine with states `σ`, actions `α` and answers `ω`. -/
structure Machine (σ α ω : Type*) where
  /-- One step: the answer to the action, and the state it leaves. -/
  step : σ → α → ω × σ

namespace Machine

open List

variable {σ α ω : Type*} (M : Machine σ α ω)

/-- The answer to an action. -/
def answer (s : σ) (a : α) : ω := (M.step s a).1

/-- The state after an action. -/
def next (s : σ) (a : α) : σ := (M.step s a).2

/-- The state after a list of actions. -/
def run (s : σ) (as : List α) : σ := as.foldl M.next s

@[simp] theorem run_nil (s : σ) : M.run s [] = s := rfl

@[simp] theorem run_cons (s : σ) (a : α) (as : List α) :
    M.run s (a :: as) = M.run (M.next s a) as := rfl

theorem run_append (s : σ) (as bs : List α) : M.run s (as ++ bs) = M.run (M.run s as) bs :=
  foldl_append

/-- The answers given along a run. -/
def trace : σ → List α → List ω
  | _, [] => []
  | s, a :: as => M.answer s a :: trace (M.next s a) as

/-! ### Conditions met by every step, properties held by every state -/

/-- Every action of the run meets the condition in the state it is taken in. -/
def Meets (C : σ → α → Prop) : σ → List α → Prop
  | _, [] => True
  | s, a :: as => C s a ∧ Meets C (M.next s a) as

/-- The property holds in every state the run reaches, its first one included. -/
def Throughout (P : σ → Prop) (s : σ) (as : List α) : Prop :=
  ∀ pre, pre <+: as → P (M.run s pre)

variable {M}

variable {s : σ} {P : σ → Prop}

theorem throughout_nil : M.Throughout P s [] ↔ P s :=
  ⟨fun h => h [] nil_prefix, fun h pre hp => by
    obtain rfl := prefix_nil.mp hp
    exact h⟩

variable {as : List α}

theorem throughout_cons {a : α} :
    M.Throughout P s (a :: as) ↔ P s ∧ M.Throughout P (M.next s a) as := by
  constructor
  · intro h
    exact ⟨h [] nil_prefix, fun pre hp => h (a :: pre) (cons_prefix_cons.mpr ⟨rfl, hp⟩)⟩
  · rintro ⟨hs, h⟩ pre hp
    cases pre with
    | nil => exact hs
    | cons b pre =>
      obtain ⟨rfl, hp'⟩ := cons_prefix_cons.mp hp
      exact h pre hp'

theorem Throughout.last (h : M.Throughout P s as) :
    P (M.run s as) := h as (prefix_refl as)

/-- A condition met at every step is met at any given step. -/
theorem Meets.at {C : σ → α → Prop} {s : σ} {pre : List α} {a : α} {post : List α}
    (h : M.Meets C s (pre ++ a :: post)) : C (M.run s pre) a := by
  induction pre generalizing s with
  | nil => exact h.1
  | cons b pre ih => exact ih h.2

theorem meets_append {C : σ → α → Prop} {as bs : List α} :
    M.Meets C s (as ++ bs) ↔ M.Meets C s as ∧ M.Meets C (M.run s as) bs := by
  induction as generalizing s with
  | nil => exact ⟨fun h => ⟨trivial, h⟩, And.right⟩
  | cons a as ih =>
    refine ⟨fun h => ⟨⟨h.1, (ih.mp h.2).1⟩, (ih.mp h.2).2⟩, fun h => ⟨h.1.1, ih.mpr ⟨h.1.2, h.2⟩⟩⟩

/-- A run whose steps all meet a condition meets a weaker one. -/
theorem Meets.mono {C C' : σ → α → Prop} (hC : ∀ s a, C s a → C' s a) (h : M.Meets C s as) :
    M.Meets C' s as := by
  induction as generalizing s with
  | nil => trivial
  | cons a as ih => exact ⟨hC s a h.1, ih h.2⟩

/-- A condition on the actions alone is met when every action of the run meets it. -/
theorem meets_of_forall {C : α → Prop} (s : σ) (h : ∀ a ∈ as, C a) :
    M.Meets (fun _ a => C a) s as := by
  induction as generalizing s with
  | nil => trivial
  | cons a as ih =>
    exact ⟨h a mem_cons_self, ih (M.next s a) fun b hb => h b (mem_cons_of_mem a hb)⟩

theorem Meets.and {C C' : σ → α → Prop} (h : M.Meets C s as) (h' : M.Meets C' s as) :
    M.Meets (fun s a => C s a ∧ C' s a) s as := by
  induction as generalizing s with
  | nil => trivial
  | cons a as ih => exact ⟨⟨h.1, h'.1⟩, ih h.2 h'.2⟩

/-- **Two conditions on the steps that agree under an invariant** are met by the same runs; a
third one, met by all the steps of the run, may be of help. -/
theorem meets_congr {I : σ → Prop} {H P C : σ → α → Prop} (hI : ∀ s a, I s → H s a → I (M.next s a))
    (hPC : ∀ s a, I s → H s a → (P s a ↔ C s a)) (hs : I s) (hH : M.Meets H s as) :
    M.Meets P s as ↔ M.Meets C s as := by
  induction as generalizing s with
  | nil => exact Iff.rfl
  | cons a as ih => exact and_congr (hPC s a hs hH.1) (ih (hI s a hs hH.1) hH.2)

/-- **The exact condition of a property of the steps**, where the invariant the property is judged
under is only kept by the steps that meet the condition. -/
theorem meets_iff {I : σ → Prop} {H P C : σ → α → Prop}
    (hC : ∀ s a, I s → H s a → C s a → I (M.next s a) ∧ P s a)
    (hP : ∀ s a, I s → H s a → P s a → C s a) {s : σ} (hs : I s) (hH : M.Meets H s as) :
    (M.Meets P s as ↔ M.Meets C s as) ∧ (M.Meets C s as → M.Throughout I s as) := by
  induction as generalizing s with
  | nil => exact ⟨Iff.rfl, fun _ => throughout_nil.mpr hs⟩
  | cons a as ih =>
    refine ⟨⟨fun h => ?_, fun h => ?_⟩, fun h => ?_⟩
    · have hc := hP s a hs hH.1 h.1
      exact ⟨hc, (ih (hC s a hs hH.1 hc).1 hH.2).1.mp h.2⟩
    · have hnext := hC s a hs hH.1 h.1
      exact ⟨hnext.2, (ih hnext.1 hH.2).1.mpr h.2⟩
    · exact throughout_cons.mpr ⟨hs, (ih (hC s a hs hH.1 h.1).1 hH.2).2 h.2⟩

/-- **An invariant under a condition**: what every step taken under `C`
preserves holds throughout the runs whose steps all meet `C`. -/
theorem throughout_of_meets {C : σ → α → Prop} {I : σ → Prop}
    (hstep : ∀ s a, I s → C s a → I (M.next s a)) (hs : I s) (hC : M.Meets C s as) :
    M.Throughout I s as := by
  induction as generalizing s with
  | nil => exact throughout_nil.mpr hs
  | cons a as ih => exact throughout_cons.mpr ⟨hs, ih (hstep s a hs hC.1) hC.2⟩

/-- **An invariant of the step is an invariant of the run.** -/
theorem throughout_of_step {I : σ → Prop} (hstep : ∀ s a, I s → I (M.next s a))
    (hs : I s) (as : List α) : M.Throughout I s as := by
  induction as generalizing s with
  | nil => exact throughout_nil.mpr hs
  | cons a as ih => exact throughout_cons.mpr ⟨hs, ih (hstep s a hs)⟩

/-- What no step undoes, no run undoes. -/
theorem run_of_stable (hstep : ∀ s a, P s → P (M.next s a))
    (hs : P s) (as : List α) : P (M.run s as) :=
  (throughout_of_step hstep hs as).last

/-! ### Tickets -/

section Tickets

variable {κ : Type*} (ticket : ω → Option (κ × ℕ)) (ceiling : σ → κ → ℕ) {I : σ → Prop}

/-- What the tickets drawn along a run are: above the counter the run started
from. -/
theorem ticket_above (hI : ∀ s a, I s → I (M.next s a))
    (hmono : ∀ s a k, I s → ceiling s k ≤ ceiling (M.next s a) k)
    (hdraw : ∀ s a k n, I s → ticket (M.answer s a) = some (k, n) → ceiling s k < n) {s : σ}
    (hs : I s) {k : κ} {n : ℕ} (h : (k, n) ∈ (M.trace s as).filterMap ticket) :
    ceiling s k < n := by
  induction as generalizing s with
  | nil => simp [trace] at h
  | cons a as ih =>
    obtain ⟨w, hw, ht⟩ := mem_filterMap.mp h
    rcases mem_cons.mp hw with rfl | hw
    · exact hdraw s a k n hs ht
    · exact Nat.lt_of_le_of_lt (hmono s a k hs)
        (ih (hI s a hs) (mem_filterMap.mpr ⟨w, hw, ht⟩))

/-- **No ticket is drawn twice**: each one lies above its counter before the
draw and not above it afterwards, and the counters never go down. -/
theorem nodup_tickets (hI : ∀ s a, I s → I (M.next s a))
    (hmono : ∀ s a k, I s → ceiling s k ≤ ceiling (M.next s a) k)
    (hdraw : ∀ s a k n, I s → ticket (M.answer s a) = some (k, n) →
      ceiling s k < n ∧ n ≤ ceiling (M.next s a) k)
    {s : σ} (hs : I s) (as : List α) : ((M.trace s as).filterMap ticket).Nodup := by
  induction as generalizing s with
  | nil => exact nodup_nil
  | cons a as ih =>
    have hrest := ih (hI s a hs)
    cases ht : ticket (M.answer s a) with
    | none => simpa [trace, filterMap_cons, ht] using hrest
    | some t =>
      obtain ⟨k, n⟩ := t
      have hfresh : (k, n) ∉ (M.trace (M.next s a) as).filterMap ticket := fun hmem => by
        have habove := ticket_above ticket ceiling hI hmono
          (fun s a k n hs h => (hdraw s a k n hs h).1) (hI s a hs) hmem
        have hbelow := (hdraw s a k n hs ht).2
        omega
      simpa [trace, filterMap_cons, ht] using ⟨by simpa using hfresh, hrest⟩

end Tickets

end Machine
