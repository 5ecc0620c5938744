import CrmYnov.Base.Machine
import CrmYnov.Base.Table
import CrmYnov.Base.Tickets
import CrmYnov.Platform.Failure

/-!
# Rate limits

Two limiters refuse a call when its key has had as many calls as the limit in the window that
ends with it: one keeps the recent calls of each key in memory, and drops the others when it
accepts one; the other counts the attempts that the audit trail has. Both are described by what
they count (`CrmYnov.Sessions.Counting`): what has been dropped is never asked for again, because
time does not go back.
-/

namespace CrmYnov.Sessions

open Checked Machine List

/-! ### The limiters -/

/-- A call under a key, at an instant. -/
structure TimedCall (κ : Type) where
  key : κ
  now : ℤ

/-- `RateLimitService.assertAllowed` -/
def assertAllowed (limit : ℕ) (windowMs : ℤ) (attempts : Dict String (List ℤ))
    (c : TimedCall String) : Outcome Unit × Dict String (List ℤ) :=
  let recent := ((attempts.get c.key).getD []).filter fun timestamp => c.now - windowMs < timestamp
  if limit ≤ recent.length then (.error (.http .tooManyRequests "rate_limit_exceeded"), attempts)
  else (.ok (), attempts.set c.key (recent ++ [c.now]))

/-- An attempt in the audit trail. -/
structure AttemptEvent where
  (eventType resourceId : String)
  occurredAt : ℤ

inductive RecoveryOperation
  | REQUEST | COMPLETION
deriving DecidableEq

def RecoveryOperation.eventType : RecoveryOperation → String
  | REQUEST => "ACCESS_RECOVERY_REQUEST_ATTEMPT"
  | COMPLETION => "ACCESS_RECOVERY_COMPLETION_ATTEMPT"

/-- The operation, and the digest of the client. -/
abbrev ClientOperation := RecoveryOperation × String

def AttemptEvent.Of (key : ClientOperation) (e : AttemptEvent) : Prop :=
  e.eventType = key.1.eventType ∧ e.resourceId = key.2
deriving Decidable

/-- The transaction of `assertClientAllowedForApi`. -/
def assertClientAllowed (events : List AttemptEvent) (c : TimedCall ClientOperation) :
    Outcome Unit × List AttemptEvent :=
  let attempts := events.countP fun e => e.Of c.key ∧ c.now - 60000 < e.occurredAt
  if 5 ≤ attempts then (.error (.http .tooManyRequests "rate_limit_exceeded"), events)
  else (.ok (), events ++ [⟨c.key.1.eventType, c.key.2, c.now⟩])

/-! ### What a limiter counts -/

variable {σ κ : Type} [DecidableEq κ]

/-- The calls of a key that were accepted. -/
def accepted (M : Machine σ (TimedCall κ) (Outcome Unit)) (k : κ) :
    σ → List (TimedCall κ) → List ℤ
  | _, [] => []
  | s, c :: cs =>
    (if c.key = k ∧ (M.answer s c).toBool then [c.now] else []) ++ accepted M k (M.next s c) cs

/-- What is counted of a key after an instant is the same after a call of another key and after a
call that is refused; one that is accepted is counted too, in the window that it ends. -/
structure Counting (M : Machine σ (TimedCall κ) (Outcome Unit)) (k : κ) (limit : ℕ) (w : ℤ)
    (count : σ → ℤ → ℕ) : Prop where
  answer : ∀ s c, c.key = k → ((M.answer s c).toBool = true ↔ count s (c.now - w) < limit)
  accepts : ∀ s c, c.key = k → (M.answer s c).toBool = true → ∀ t, c.now - w ≤ t →
    count (M.next s c) t = count s t + if t < c.now then 1 else 0
  keeps : ∀ s c, ¬(c.key = k ∧ (M.answer s c).toBool = true) → ∀ t,
    count (M.next s c) t = count s t

/-- The calls of a key come in the order of time. -/
def Chronological (k : κ) (cs : List (TimedCall κ)) : Prop :=
  cs.Pairwise fun c c' => c.key = k → c'.key = k → c.now ≤ c'.now

/-- At most so many calls of a key are accepted in any window, and a call is refused just when
its window has as many. -/
def Limits (M : Machine σ (TimedCall κ) (Outcome Unit)) (k : κ) (limit : ℕ) (w : ℤ) (s : σ)
    (cs : List (TimedCall κ)) : Prop :=
  (∀ t, (accepted M k s cs).countP (fun u => t - w < u ∧ u ≤ t) ≤ limit) ∧
    ∀ before c after, cs = before ++ c :: after → c.key = k →
      ((M.answer (M.run s before) c).toBool = false ↔
        (accepted M k s before).countP (fun u => c.now - w < u ∧ u ≤ c.now) = limit)

variable {M : Machine σ (TimedCall κ) (Outcome Unit)} {k : κ} {limit : ℕ} {w : ℤ}
  {count : σ → ℤ → ℕ} {s : σ} {cs : List (TimedCall κ)}

theorem accepted_append (cs ds : List (TimedCall κ)) :
    accepted M k s (cs ++ ds) = accepted M k s cs ++ accepted M k (M.run s cs) ds := by
  induction cs generalizing s with
  | nil => rfl
  | cons c cs ih => rw [cons_append, accepted, ih, accepted, append_assoc, run_cons]

theorem le_of_mem_accepted {b : ℤ} (hb : ∀ c ∈ cs, c.key = k → c.now ≤ b) :
    ∀ u ∈ accepted M k s cs, u ≤ b := by
  induction cs generalizing s with
  | nil => exact fun u hu => absurd hu not_mem_nil
  | cons c cs ih =>
    intro u hu
    rcases mem_append.mp hu with hu | hu
    · split at hu
      · rename_i h
        rw [mem_singleton.mp hu]
        exact hb c mem_cons_self h.1
      · exact absurd hu not_mem_nil
    · exact ih (fun c' hc' => hb c' (mem_cons_of_mem c hc')) u hu

omit [DecidableEq κ] in
theorem Chronological.before {c : TimedCall κ} (h : Chronological k (cs ++ [c])) (hc : c.key = k) :
    ∀ c' ∈ cs, c'.key = k → c'.now ≤ c.now := fun c' hc' hk =>
  (pairwise_append.mp h).2.2 c' hc' c (mem_singleton_self c) hk hc

/-- **What is counted is what was accepted**, in every window that is still to come. -/
theorem Counting.count_eq (hM : Counting M k limit w count) (hs : ∀ t, count s t = 0)
    (h : Chronological k cs) {b : ℤ} (hb : ∀ c ∈ cs, c.key = k → c.now ≤ b) {t : ℤ}
    (ht : b - w ≤ t) : count (M.run s cs) t = (accepted M k s cs).countP fun u => t < u := by
  induction cs using reverseRecOn generalizing b t with
  | nil => exact hs t
  | append_singleton cs c ih =>
    have hcs : Chronological k cs := (pairwise_append.mp h).1
    have hlast : accepted M k (M.run s cs) [c] =
      if c.key = k ∧ (M.answer (M.run s cs) c).toBool then [c.now] else [] := append_nil _
    rw [run_append, accepted_append, countP_append, hlast]
    by_cases hc : c.key = k ∧ (M.answer (M.run s cs) c).toBool = true
    · have hle := hb c (mem_append_right cs (mem_singleton_self c)) hc.1
      rw [if_pos hc, ← ih hcs (h.before hc.1) (b := c.now) (by omega)]
      refine (hM.accepts _ c hc.1 hc.2 t (by omega)).trans ?_
      simp only [countP_singleton, decide_eq_true_eq]
    · rw [if_neg hc, ← ih hcs (fun c' hc' => hb c' (mem_append_left _ hc')) ht]
      exact hM.keeps _ c hc t

theorem Counting.limited (hM : Counting M k limit w count) (hs : ∀ t, count s t = 0)
    (h : Chronological k cs) :
    Tickets.Limited (fun _ => ()) id limit w (accepted M k s cs) := by
  induction cs using reverseRecOn with
  | nil => exact Tickets.limited_nil
  | append_singleton cs c ih =>
    have hcs : Chronological k cs := (pairwise_append.mp h).1
    have hlast : accepted M k (M.run s cs) [c] =
      if c.key = k ∧ (M.answer (M.run s cs) c).toBool then [c.now] else [] := append_nil _
    rw [accepted_append, hlast]
    split
    · rename_i hc
      refine (ih hcs).issue (le_refl c.now) ?_
      have hcount := (hM.answer _ c hc.1).mp hc.2
      rw [hM.count_eq hs hcs (h.before hc.1) (le_refl _)] at hcount
      simpa using hcount
    · rw [append_nil]
      exact ih hcs

/-- **A limiter that counts limits.** -/
theorem Counting.limits (hM : Counting M k limit w count) (hs : ∀ t, count s t = 0)
    (h : Chronological k cs) : Limits M k limit w s cs := by
  have hwindow : ∀ {cs : List (TimedCall κ)}, Chronological k cs → ∀ t,
      (accepted M k s cs).countP (fun u => t - w < u ∧ u ≤ t) ≤ limit := by
    intro cs h t
    refine (countP_mono_left fun u _ hu => ?_).trans (hM.limited hs h () (t - w + 1))
    simp only [decide_eq_true_eq, id_eq, true_and] at hu ⊢
    omega
  refine ⟨hwindow h, fun before c after hcs hc => ?_⟩
  obtain rfl := hcs
  have hsplit : Chronological k (before ++ [c]) := by
    rw [← singleton_append, ← append_assoc] at h
    exact (pairwise_append.mp h).1
  have hbefore : Chronological k before := (pairwise_append.mp hsplit).1
  have hcount : (accepted M k s before).countP (fun u => c.now - w < u ∧ u ≤ c.now) =
      count (M.run s before) (c.now - w) := by
    rw [hM.count_eq hs hbefore (hsplit.before hc) (le_refl _)]
    refine countP_congr fun u hu => ?_
    have := le_of_mem_accepted (hsplit.before hc) u hu
    simp [this]
  have hle := hwindow hbefore c.now
  rw [hcount] at hle ⊢
  rw [← Bool.not_eq_true, hM.answer _ c hc]
  omega

/-! ### The two limiters count -/

def rateLimiter (limit : ℕ) (windowMs : ℤ) :
    Machine (Dict String (List ℤ)) (TimedCall String) (Outcome Unit) := ⟨assertAllowed limit windowMs⟩

def recoveryLimiter : Machine (List AttemptEvent) (TimedCall ClientOperation) (Outcome Unit) :=
  ⟨assertClientAllowed⟩

theorem rateLimiter_counting (key : String) : Counting (rateLimiter limit w) key limit w
    fun s t => ((s.get key).getD []).countP fun u => t < u where
  answer s c hc := by
    simp only [answer, rateLimiter, assertAllowed, hc, countP_eq_length_filter]
    split
    · exact iff_of_false Bool.false_ne_true (by omega)
    · exact iff_of_true rfl (by omega)
  accepts s c hc haccept t ht := by
    simp only [Machine.answer, Machine.next, rateLimiter, assertAllowed] at haccept ⊢
    split at haccept
    · exact absurd haccept Bool.false_ne_true
    · rename_i h
      rw [if_neg h]
      dsimp only
      simp only [hc, Dict.get_set_self, Option.getD_some, countP_append, countP_filter,
        countP_singleton, decide_eq_true_eq]
      congr 1
      refine countP_congr fun u _ => ?_
      simp only [Bool.and_eq_true, decide_eq_true_eq, and_iff_left_iff_imp]
      omega
  keeps s c hc t := by
    simp only [Machine.answer, Machine.next, rateLimiter, assertAllowed] at hc ⊢
    split
    · rfl
    · rename_i h
      rw [if_neg h] at hc
      have hne : key ≠ c.key := fun hkey => hc ⟨hkey.symm, rfl⟩
      dsimp only
      rw [Dict.get_set_of_ne s _ hne]

theorem recoveryLimiter_counting (key : ClientOperation) : Counting recoveryLimiter key 5 60000
    fun s t => s.countP fun e => e.Of key ∧ t < e.occurredAt where
  answer s c hc := by
    simp only [answer, recoveryLimiter, assertClientAllowed, hc]
    split
    · exact iff_of_false Bool.false_ne_true (by omega)
    · exact iff_of_true rfl (by omega)
  accepts s c hc haccept t ht := by
    simp only [Machine.answer, Machine.next, recoveryLimiter, assertClientAllowed] at haccept ⊢
    split at haccept
    · exact absurd haccept Bool.false_ne_true
    · rename_i h
      rw [if_neg h]
      simp [AttemptEvent.Of, hc]
  keeps s c hc t := by
    simp only [Machine.answer, Machine.next, recoveryLimiter, assertClientAllowed] at hc ⊢
    split
    · rfl
    · rename_i h
      rw [if_neg h] at hc
      have hother : ¬(c.key.1.eventType = key.1.eventType ∧ c.key.2 = key.2) := by
        rintro ⟨htype, hclient⟩
        refine hc ⟨Prod.ext ?_ hclient, rfl⟩
        cases ho : c.key.1 <;> cases ho' : key.1 <;> simp_all [RecoveryOperation.eventType]
      rw [countP_append, countP_singleton, if_neg, Nat.add_zero]
      exact fun h => hother (of_decide_eq_true h).1

/-- **The limiters limit**: whatever the key, the limit and the window, and in whatever way the
calls of the other keys come in between. -/
theorem rate_limited (limit : ℕ) (windowMs : ℤ) :
    (∀ key calls, Chronological key calls →
      Limits (rateLimiter limit windowMs) key limit windowMs .empty calls) ∧
    ∀ key events calls, (∀ e ∈ events, ¬AttemptEvent.Of key e) → Chronological key calls →
      Limits recoveryLimiter key 5 60000 events calls := by
  refine ⟨fun key calls => (rateLimiter_counting key).limits fun _ => rfl,
    fun key events calls hnone => (recoveryLimiter_counting key).limits fun t => ?_⟩
  exact countP_eq_zero.mpr fun e he => by simp [hnone e he]

end CrmYnov.Sessions
