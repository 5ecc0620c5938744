import Mathlib.Data.List.Basic

/-!
# Waiting behind jobs

Jobs are done one after the other, and whoever wants to know how they went waits behind those
there are: a wait at the head of the queue is told of the failures since the one before it. A
promise made at some time is due at the next wait. It is *covered* when, at the time this wait
ends well, it will have been kept: because it is kept already, because the wait will be told of a
failure, or because the job of the promise comes first.

What a wait is told of is forgotten afterwards. So a failure that is known covers the promises of
the next wait alone, while a promise that is kept, or a job that is still to be done, covers those
of any wait after it.
-/

/-- An element of the queue: a job, or a wait at which some promises are due. -/
inductive Waiting (J P : Type*)
  | job (j : J) : Waiting J P
  | wait (due : List P) : Waiting J P

namespace Waiting

open List

variable {J P : Type*} (does : J → P → Prop)

/-- Every promise is covered at its wait: `soon` for the next wait, `later` for those behind it;
the promises of the second list are due at a wait that is not there yet. -/
def Covered : (soon late : P → Prop) → List (Waiting J P) → List P → Prop
  | soon, _, [], ps => ∀ p ∈ ps, soon p
  | soon, late, job j :: q, ps =>
    Covered (fun p => soon p ∨ does j p) (fun p => late p ∨ does j p) q ps
  | soon, late, wait due :: q, ps => (∀ p ∈ due, soon p) ∧ Covered late late q ps

/-- The promises of the next wait. -/
def next : List (Waiting J P) → List P → List P
  | [], ps => ps
  | job _ :: q, ps => next q ps
  | wait due :: _, _ => due

/-- All the promises. -/
def all : List (Waiting J P) → List P → List P
  | [], ps => ps
  | job _ :: q, ps => all q ps
  | wait due :: q, ps => due ++ all q ps

/-- The promises of the waits behind the next one. -/
def later : List (Waiting J P) → List P → List P
  | [], _ => []
  | job _ :: q, ps => later q ps
  | wait _ :: q, ps => all q ps

/-- A promise made now is covered at the wait that is not there yet. -/
def CoveredLast (p : P) : (soon late : P → Prop) → List (Waiting J P) → Prop
  | soon, _, [] => soon p
  | soon, late, job j :: q =>
    CoveredLast p (fun p => soon p ∨ does j p) (fun p => late p ∨ does j p) q
  | _, late, wait _ :: q => CoveredLast p late late q

variable {does} {soon soon' late late' : P → Prop} {q : List (Waiting J P)} {ps : List P} {p : P}

theorem next_subset_all : ∀ {q : List (Waiting J P)}, next q ps ⊆ all q ps
  | [] => fun _ h => h
  | job _ :: q => next_subset_all (q := q)
  | wait _ :: q => fun _ h => mem_append_left (all q ps) h

theorem later_subset_all : ∀ {q : List (Waiting J P)}, later q ps ⊆ all q ps
  | [] => fun _ h => absurd h not_mem_nil
  | job _ :: q => later_subset_all (q := q)
  | wait due :: _ => fun _ h => mem_append_right due h

/-- **What covers the promises may be replaced**, by what covers those of the next wait and by
what covers the others. -/
theorem Covered.imp (h : Covered does soon late q ps)
    (hsoon : ∀ p ∈ next q ps, soon p → soon' p) (hlate : ∀ p ∈ later q ps, late p → late' p) :
    Covered does soon' late' q ps := by
  induction q generalizing soon soon' late late' with
  | nil => exact fun p hp => hsoon p hp (h p hp)
  | cons w q ih =>
    cases w with
    | job j =>
      exact ih h (fun p hp hor => hor.imp_left (hsoon p hp)) fun p hp hor =>
        hor.imp_left (hlate p hp)
    | wait due =>
      exact ⟨fun p hp => hsoon p hp (h.1 p hp),
        ih h.2 (fun p hp => hlate p (next_subset_all hp)) fun p hp =>
          hlate p (later_subset_all hp)⟩

/-- **A promise is added**, when it is covered at the wait that is not there yet. -/
theorem Covered.promise (h : Covered does soon late q ps) (hp : CoveredLast does p soon late q) :
    Covered does soon late q (ps ++ [p]) := by
  induction q generalizing soon late with
  | nil =>
    intro p' hp'
    rcases mem_append.mp hp' with hp' | hp'
    · exact h p' hp'
    · obtain rfl := mem_singleton.mp hp'
      exact hp
  | cons w q ih =>
    cases w with
    | job j => exact ih h hp
    | wait due => exact ⟨h.1, ih h.2 hp⟩

/-- **A wait is added**, at which the promises made so far are due. -/
theorem Covered.wait (h : Covered does soon late q ps) :
    Covered does soon late (q ++ [.wait ps]) [] := by
  induction q generalizing soon late with
  | nil => exact ⟨h, fun p hp => absurd hp not_mem_nil⟩
  | cons w q ih =>
    cases w with
    | job j => exact ih h
    | wait due => exact ⟨h.1, ih h.2⟩

/-- A job is added. -/
theorem Covered.job (h : Covered does soon late q ps) (j : J) :
    Covered does soon late (q ++ [.job j]) ps := by
  induction q generalizing soon late with
  | nil => exact fun p hp => .inl (h p hp)
  | cons w q ih =>
    cases w with
    | job j => exact ih h
    | wait due => exact ⟨h.1, ih h.2⟩

/-- What covers any promise covers the last one. -/
theorem coveredLast_of_late (hsoon : soon p) (hlate : late p) : CoveredLast does p soon late q := by
  induction q generalizing soon late with
  | nil => exact hsoon
  | cons w q ih =>
    cases w with
    | job j => exact ih (.inl hsoon) (.inl hlate)
    | wait due => exact ih hlate hlate

/-- The job of a promise covers it. -/
theorem coveredLast_of_job {j : J} (hj : .job j ∈ q) (hdoes : does j p) :
    CoveredLast does p soon late q := by
  induction q generalizing soon late with
  | nil => exact absurd hj not_mem_nil
  | cons w q ih =>
    cases w with
    | job j' =>
      rcases mem_cons.mp hj with heq | hj
      · obtain rfl := Waiting.job.inj heq
        change CoveredLast does p (fun p => soon p ∨ does j p) (fun p => late p ∨ does j p) q
        exact coveredLast_of_late (.inr hdoes) (.inr hdoes)
      · exact ih hj
    | wait due =>
      rcases mem_cons.mp hj with heq | hj
      · cases heq
      · exact ih hj

/-- While nobody waits, what covers the next wait covers the last promise. -/
theorem coveredLast_of_soon (hnobody : ∀ due, .wait due ∉ q) (hsoon : soon p) :
    CoveredLast does p soon late q := by
  induction q generalizing soon late with
  | nil => exact hsoon
  | cons w q ih =>
    cases w with
    | job j => exact ih (fun due h => hnobody due (mem_cons_of_mem _ h)) (.inl hsoon)
    | wait due => exact absurd mem_cons_self (hnobody due)

end Waiting
