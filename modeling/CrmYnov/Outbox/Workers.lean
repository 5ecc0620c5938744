import CrmYnov.Base.Machine
import CrmYnov.Outbox.Repository
import Mathlib.Logic.Function.Basic

/-!
# The transactional outbox under any interleaving

Any number of calls are open at once, of any workers, and the statements they
are made of reach the database in any order: a claim stops between two of its
candidates, a report of failure between its reading and its update, and a worker
that has crashed is a call of which no further statement comes.

What one statement can do to a row is said once (`CrmYnov.Outbox.Evolves`,
`CrmYnov.Outbox.step_rows`): take it under a lease from a status other than
`DELIVERED` and with an attempt left, report it under the name of the worker that
holds it, or leave it alone. The properties of the runs all follow from this
list, and from what is invariantly true of the candidates that open claims
still have to examine (`CrmYnov.Outbox.World.Sound`).
-/

namespace CrmYnov.Outbox

open Js Checked Table Machine Function List Option

/-- The database and the calls in progress. -/
structure World where
  store : Store
  claims : ℕ → Option Claim
  failures : ℕ → Option FailureReport

/-- No event, and no call in progress. -/
def World.init : World := ⟨empty, fun _ => none, fun _ => none⟩

inductive Statement
  /-- A business transaction enqueues an event. -/
  | enqueue (input : OutboxInput) (id : String) (at_ : Instant) : Statement
  /-- A claim begins: its page is read. -/
  | claim (call : ℕ) (workerId : String) (limit : ℤ) (now leaseMs : Instant) : Statement
  /-- The next statement of a claim in progress. -/
  | advance (call : ℕ) : Statement
  /-- A worker reports an event as delivered. -/
  | delivered (id workerId : String) (now : Instant) : Statement
  /-- A report of failure begins: its row is read. -/
  | failed (call : ℕ) (id workerId errorCode : String) (now : Instant) : Statement
  /-- The update of a report of failure in progress. -/
  | settle (call : ℕ) : Statement

variable (jsonb : Json → Json)

/-- One statement: the grant it makes, if it makes one, and the world it leaves. -/
def World.step (w : World) : Statement → Option Grant × World
  | .enqueue input id at_ =>
    match enqueueInTransaction jsonb input id at_ w.store with
    | .ok (_, store) => (none, { w with store })
    | .error _ => (none, w)
  | .claim call workerId limit now leaseMs =>
    match openClaim workerId limit now leaseMs w.store with
    | .ok c => (none, { w with claims := update w.claims call (some c) })
    | .error _ => (none, w)
  | .advance call =>
    match w.claims call with
    | none => (none, w)
    | some c =>
      let (grant, c', store) := c.advance w.store
      (grant, { w with store, claims := update w.claims call (some c') })
  | .delivered id workerId now => (none, { w with store := (delivered id workerId now w.store).2 })
  | .failed call id workerId errorCode now =>
    match openFailure id workerId errorCode now w.store with
    | .ok report => (none, { w with failures := update w.failures call report })
    | .error _ => (none, w)
  | .settle call =>
    match w.failures call with
    | none => (none, w)
    | some report =>
      (none, { w with
        store := (report.settle w.store).2
        failures := update w.failures call none })

def workers : Machine World Statement (Option Grant) := ⟨World.step jsonb⟩

/-- The worker in whose name a statement is made. -/
def World.author (w : World) : Statement → Option String
  | .enqueue .. => none
  | .claim _ workerId .. => some workerId
  | .advance call => (w.claims call).map Claim.workerId
  | .delivered _ workerId _ => some workerId
  | .failed _ _ workerId .. => some workerId
  | .settle call => (w.failures call).map FailureReport.workerId

/-! ### What a statement can do to a row -/

/-- What becomes of a row under a statement made in the name of `author`, with
the grant the statement makes. -/
inductive Evolves (author : Option String) (grant : Option Grant) (e : OutboxEvent) :
    OutboxEvent → Prop
  /-- The row is left alone. -/
  | same (h : ∀ g, grant = some g → g.event ≠ e.id) : Evolves author grant e e
  /-- The row is taken under a lease. -/
  | leased (worker : String) (now : Instant) (hauthor : author = some worker)
      (hgrant : grant = some ⟨e.id, e.attempts + 1, worker⟩) (hlive : e.status ≠ .DELIVERED)
      (hleft : e.attempts < e.maxAttempts) : Evolves author grant e (e.lease worker now)
  /-- The row is reported as delivered by the worker that holds it. -/
  | delivered (worker : String) (now : Instant) (hauthor : author = some worker)
      (hgrant : grant = none) (hheld : Held e.id worker e) : Evolves author grant e (e.deliver now)
  /-- An attempt is reported as failed by the worker that holds the row. -/
  | failed (worker errorCode : String) (current : OutboxEvent) (now : Instant)
      (hauthor : author = some worker) (hgrant : grant = none) (hheld : Held e.id worker e) :
      Evolves author grant e (current.fail errorCode now e)

variable {worker : String}

section Evolves

variable {author : Option String} {grant : Option Grant} {e e' : OutboxEvent}

theorem Evolves.id_eq (h : Evolves author grant e e') : e'.id = e.id := by cases h <;> rfl

theorem Evolves.maxAttempts_eq (h : Evolves author grant e e') :
    e'.maxAttempts = e.maxAttempts := by cases h <;> rfl

theorem Evolves.attempts_le (h : Evolves author grant e e') : e.attempts ≤ e'.attempts := by
  cases h <;> simp [OutboxEvent.lease, OutboxEvent.deliver, OutboxEvent.fail]

theorem Evolves.bounded (h : Evolves author grant e e') (hb : e.attempts ≤ e.maxAttempts) :
    e'.attempts ≤ e'.maxAttempts := by
  cases h with
  | leased worker now _ _ _ hleft => exact hleft
  | _ => exact hb

theorem Evolves.eq_of_delivered (h : Evolves author grant e e') (hd : e.status = .DELIVERED) :
    e' = e := by
  cases h with
  | same => rfl
  | leased worker now _ _ hlive => exact absurd hd hlive
  | delivered worker now _ _ hheld => exact absurd (hd.symm.trans hheld.2.1) (by decide)
  | failed worker code current now _ _ hheld => exact absurd (hd.symm.trans hheld.2.1) (by decide)

theorem Evolves.of_grant {g : Grant} (h : Evolves author (some g) e e') (hg : g.event = e.id) :
    e.attempts < g.attempt ∧ g.attempt = e'.attempts := by
  cases h with
  | same h => exact absurd hg (h g rfl)
  | leased worker now _ hgrant =>
    cases hgrant
    exact ⟨Nat.lt_succ_self _, rfl⟩
  | delivered worker now _ hgrant => cases hgrant
  | failed worker code current now _ hgrant => cases hgrant

theorem Evolves.not_held (h : Evolves author grant e e') (hheld : e.lockedBy ≠ some worker)
    (hgrant : ∀ g, grant = some g → g.event = e.id → g.worker ≠ worker) :
    e'.lockedBy ≠ some worker := by
  cases h with
  | same => exact hheld
  | leased other now _ hg =>
    intro h
    exact hgrant _ hg rfl (some.inj h)
  | delivered => exact nofun
  | failed => exact nofun

/-- **A worker that does not hold the row changes it by no statement** other
than one that takes it. -/
theorem Evolves.eq_of_not_held (h : Evolves (some worker) grant e e')
    (hheld : e.lockedBy ≠ some worker)
    (hgrant : ∀ g, grant = some g → g.event = e.id → g.worker ≠ worker) : e' = e := by
  cases h with
  | same => rfl
  | leased other now hauthor hg => exact absurd (some.inj hauthor).symm (hgrant _ hg rfl)
  | delivered other now hauthor _ h =>
    rw [some.inj hauthor] at hheld
    exact absurd h.2.2 hheld
  | failed other code current now hauthor _ h =>
    rw [some.inj hauthor] at hheld
    exact absurd h.2.2 hheld

end Evolves

/-! ### What open claims know -/

/-- A candidate of an open claim: not delivered when it was read, and the row it
was read from is still there. -/
def Seen (s : Store) (item : OutboxEvent) : Prop :=
  item.status ≠ .DELIVERED ∧ ∃ e ∈ s.rows, e.id = item.id ∧ e.maxAttempts = item.maxAttempts

/-- What is invariantly true of the world: no row has more attempts than it may
have, and the candidates of open claims were seen in the table. -/
structure World.Sound (w : World) : Prop where
  bounded : ∀ e ∈ w.store.rows, e.attempts ≤ e.maxAttempts
  candidates : ∀ call c, w.claims call = some c → ∀ item ∈ c.pending, Seen w.store item

theorem World.sound_init : World.init.Sound where
  bounded _ h := by cases h
  candidates _ _ h := by cases h

/-! ### One statement -/

/-- What a statement does to the table: it moves each row by
`CrmYnov.Outbox.Evolves`, and adds rows that were never tried. -/
structure Advances (author : Option String) (grant : Option Grant) (s s' : Store) : Prop where
  forth : ∀ e ∈ s.rows, ∃ e' ∈ s'.rows, Evolves author grant e e'
  back : ∀ e' ∈ s'.rows, (∃ e ∈ s.rows, Evolves author grant e e') ∨
    (e'.attempts = 0 ∧ e'.lockedBy = none)
  known : ∀ g, grant = some g → ∃ e ∈ s.rows, e.id = g.event

theorem Advances.refl (author : Option String) (s : Store) : Advances author none s s :=
  ⟨fun e he => ⟨e, he, .same nofun⟩, fun e he => .inl ⟨e, he, .same nofun⟩, nofun⟩

theorem Advances.updateMany {author : Option String} {grant : Option Grant} {s : Store}
    {p : OutboxEvent → Prop} [DecidablePred p] {f : OutboxEvent → OutboxEvent}
    {hf : ∀ e, (f e).keys = e.keys}
    (h : ∀ e ∈ s.rows, Evolves author grant e (if p e then f e else e))
    (hknown : ∀ g, grant = some g → ∃ e ∈ s.rows, e.id = g.event) :
    Advances author grant s (s.updateMany p f hf) where
  known := hknown
  forth e he := ⟨_, mem_updateMany.mpr ⟨e, he, rfl⟩, h e he⟩
  back e' he' := by
    obtain ⟨e, he, rfl⟩ := mem_updateMany.mp he'
    exact .inl ⟨e, he, h e he⟩

variable {id : String}

theorem Advances.create {input : OutboxInput} {at_ : Instant} {s s' : Store}
    (h : s.create (input.toEvent jsonb id at_) = some s') : Advances none none s s' where
  known := nofun
  forth e he := ⟨e, (mem_create h).mpr (.inl he), .same nofun⟩
  back e' he' := by
    rcases (mem_create h).mp he' with he | rfl
    · exact .inl ⟨e', he, .same nofun⟩
    · exact .inr ⟨rfl, rfl⟩

/-- A claim takes a candidate it has seen only with an attempt left and from a
status other than `DELIVERED`. -/
theorem advances_takeLease {s : Store} {item : OutboxEvent} {now : Instant} (hseen : Seen s item)
    (hleft : item.attempts < item.maxAttempts) (htaken : Taken item s) :
    Advances (some worker) (some ⟨item.id, item.attempts + 1, worker⟩) s
      (takeLease worker now item s) := by
  obtain ⟨hlive, e₀, he₀, hid, hmax⟩ := hseen
  obtain ⟨e₁, he₁, hu₁⟩ := taken_iff.mp htaken
  obtain rfl : e₁ = e₀ := eq_of_id he₁ he₀ (hu₁.1.trans hid.symm)
  refine Advances.updateMany (fun e he => ?_) fun g hg => ?_
  rotate_left
  · cases hg
    exact ⟨e₁, he₁, hid⟩
  by_cases hu : Unchanged item e
  · obtain rfl : e = e₁ := eq_of_id he he₁ (hu.1.trans hu₁.1.symm)
    rw [if_pos hu]
    refine .leased worker now rfl ?_ ?_ ?_
    · rw [hu.1, hu.2.2.1]
    · rw [hu.2.1]
      exact hlive
    · rw [hu.2.2.1, hmax]
      exact hleft
  · rw [if_neg hu]
    refine .same fun g hg hev => hu ?_
    cases hg
    obtain rfl : e = e₁ := eq_of_id he he₁ (hev.symm.trans hu₁.1.symm)
    exact hu₁

theorem advances_report {s : Store} {p : OutboxEvent → Prop} [DecidablePred p]
    {f : OutboxEvent → OutboxEvent} (hf : ∀ e, (f e).keys = e.keys)
    (hp : ∀ e, p e → Held id worker e)
    (h : ∀ e, Held e.id worker e → Evolves (some worker) none e (f e)) :
    Advances (some worker) none s (s.updateMany p f hf) := by
  refine Advances.updateMany (fun e _ => ?_) nofun
  by_cases hpe : p e
  · rw [if_pos hpe]
    obtain ⟨hid, hrest⟩ := hp e hpe
    exact h e ⟨rfl, hrest⟩
  · rw [if_neg hpe]
    exact .same nofun

theorem advances_delivered (id worker : String) (now : Instant) (s : Store) :
    Advances (some worker) none s (delivered id worker now s).2 :=
  advances_report (OutboxEvent.keys_deliver now) (fun _ h => h) fun _ h => .delivered worker now rfl rfl h

theorem advances_settle (r : FailureReport) (s : Store) :
    Advances (some r.workerId) none s (r.settle s).2 :=
  advances_report (OutboxEvent.keys_fail r.current r.errorCode r.now) (fun _ h => h.1) fun _ h =>
    .failed r.workerId r.errorCode r.current r.now rfl rfl h

/-- **A statement of a claim.** -/
theorem advances_advance {c : Claim} {s : Store} (hseen : ∀ item ∈ c.pending, Seen s item) :
    Advances (some c.workerId) (c.advance s).1 s (c.advance s).2.2 ∧
      ∀ item ∈ (c.advance s).2.1.pending, item ∈ c.pending := by
  obtain ⟨workerId, limit, now, pending, taken, claimed⟩ := c
  cases taken with
  | some id => exact ⟨.refl _ s, fun _ h => h⟩
  | none =>
    cases pending with
    | nil => exact ⟨.refl _ s, fun _ h => h⟩
    | cons item rest =>
      have hrest : ∀ x ∈ rest, x ∈ item :: rest := fun x hx => mem_cons_of_mem _ hx
      by_cases hfull : limit ≤ claimed.length
      · simpa [Claim.advance, hfull] using Advances.refl (some workerId) s
      by_cases hspent : item.maxAttempts ≤ item.attempts
      · simpa [Claim.advance, hfull, hspent] using
          And.intro (Advances.refl (some workerId) s) hrest
      by_cases htaken : Taken item s
      · have hadv : Advances _ _ s (takeLease workerId now item s) :=
          advances_takeLease (hseen item (mem_cons_self ..)) (Nat.lt_of_not_le hspent) htaken
        simpa [Claim.advance, hfull, hspent, htaken] using And.intro hadv hrest
      · have hself : takeLease workerId now item s = s :=
          updateMany_eq_self fun e he hu => htaken (taken_iff.mpr ⟨e, he, hu⟩)
        simpa [Claim.advance, hfull, hspent, htaken, hself] using
          And.intro (Advances.refl (some workerId) s) hrest

variable {jsonb}

variable {w : World}

variable (jsonb) in
/-- **What one statement does to the table.** -/
theorem step_advances (hw : w.Sound) (a : Statement) :
    Advances (w.author a) (w.step jsonb a).1 w.store (w.step jsonb a).2.store := by
  cases a with
  | enqueue input id at_ =>
    simp only [World.step, World.author]
    split
    · rename_i e s' h
      rcases enqueue_cases jsonb h with ⟨rfl, -⟩ | ⟨rfl, hcreate⟩
      · exact .refl _ _
      · exact .create jsonb hcreate
    · exact .refl _ _
  | claim call workerId limit now leaseMs =>
    simp only [World.step]
    split <;> exact .refl _ _
  | advance call =>
    simp only [World.step, World.author]
    cases hc : w.claims call with
    | none => exact .refl _ _
    | some c => exact (advances_advance (hw.candidates call c hc)).1
  | delivered id workerId now => exact advances_delivered id workerId now w.store
  | failed call id workerId errorCode now =>
    simp only [World.step]
    split <;> exact .refl _ _
  | settle call =>
    simp only [World.step, World.author]
    cases hr : w.failures call with
    | none => exact .refl _ _
    | some r => exact advances_settle r w.store

/-- The candidates an open claim has after a statement: those of its page, when
it has just been read, and otherwise some of those it had. -/
theorem step_claims (hw : w.Sound) (a : Statement) {call : ℕ} {c : Claim}
    (hc : (w.step jsonb a).2.claims call = some c) {item : OutboxEvent} (hi : item ∈ c.pending) :
    Seen w.store item := by
  have hold : ∀ c', w.claims call = some c' → item ∈ c'.pending → Seen w.store item :=
    fun c' h hi => hw.candidates call c' h item hi
  cases a with
  | enqueue =>
    simp only [World.step] at hc
    split at hc <;> exact hold c hc hi
  | claim call' workerId limit now leaseMs =>
    simp only [World.step] at hc
    split at hc
    · rename_i c' hopen
      by_cases hcall : call = call'
      · subst hcall
        simp only [update_self, some.injEq] at hc
        subst hc
        simp only [openClaim, ok_iff] at hopen
        obtain ⟨-, -, rfl⟩ := hopen
        obtain ⟨hrow, hdue⟩ := mem_rows_of_mem_candidates hi
        exact ⟨hdue.not_delivered, item, hrow, rfl, rfl⟩
      · simp only [update_of_ne hcall] at hc
        exact hold c hc hi
    · exact hold c hc hi
  | advance call' =>
    simp only [World.step] at hc
    cases hc' : w.claims call' with
    | none =>
      rw [hc'] at hc
      exact hold c hc hi
    | some c' =>
      rw [hc'] at hc
      by_cases hcall : call = call'
      · subst hcall
        simp only [update_self, some.injEq] at hc
        subst hc
        exact hold c' hc' ((advances_advance (hw.candidates _ c' hc')).2 item hi)
      · simp only [update_of_ne hcall] at hc
        exact hold c hc hi
  | delivered => exact hold c hc hi
  | failed =>
    simp only [World.step] at hc
    split at hc <;> exact hold c hc hi
  | settle call' =>
    simp only [World.step] at hc
    split at hc <;> exact hold c hc hi

/-- **Soundness of the world is preserved by every statement.** -/
theorem sound_step (hw : w.Sound) (a : Statement) : ((workers jsonb).next w a).Sound := by
  have hadv := step_advances jsonb hw a
  constructor
  · intro e' he'
    rcases hadv.back e' he' with ⟨e, he, hev⟩ | ⟨hzero, -⟩
    · exact hev.bounded (hw.bounded e he)
    · rw [hzero]
      exact Nat.zero_le _
  · intro call c hc item hi
    obtain ⟨hlive, e, he, hid, hmax⟩ := step_claims hw a hc hi
    obtain ⟨e', he', hev⟩ := hadv.forth e he
    exact ⟨hlive, e', he', hev.id_eq.trans hid, hev.maxAttempts_eq.trans hmax⟩

/-! ### The row of an event along a run -/

section Runs

variable {author : Option String} {grant : Option Grant} {s s' : Store}

theorem Advances.find_forth (h : Advances author grant s s') {e : OutboxEvent}
    (he : find s id = some e) : ∃ e', find s' id = some e' ∧ Evolves author grant e e' := by
  obtain ⟨hrow, hid⟩ := find_eq_some.mp he
  obtain ⟨e', hrow', hev⟩ := h.forth e hrow
  exact ⟨e', find_eq_some.mpr ⟨hrow', hev.id_eq.trans hid⟩, hev⟩

theorem Advances.find_back (h : Advances author grant s s') {e' : OutboxEvent}
    (he' : find s' id = some e') :
    (∃ e, find s id = some e ∧ Evolves author grant e e') ∨ e'.lockedBy = none := by
  obtain ⟨hrow', hid⟩ := find_eq_some.mp he'
  rcases h.back e' hrow' with ⟨e, hrow, hev⟩ | ⟨-, hnone⟩
  · exact .inl ⟨e, find_eq_some.mpr ⟨hrow, hev.id_eq.symm.trans hid⟩, hev⟩
  · exact .inr hnone

end Runs

/-- The counter of attempts of an event, `0` while it is not in the table. -/
def World.attempts (w : World) (id : String) : ℕ := ((find w.store id).map OutboxEvent.attempts).getD 0

theorem attempts_mono (hw : w.Sound) (a : Statement) (id : String) :
    w.attempts id ≤ ((workers jsonb).next w a).attempts id := by
  cases he : find w.store id with
  | none => simp [World.attempts, he]
  | some e =>
    obtain ⟨e', he', hev⟩ := (step_advances jsonb hw a).find_forth he
    have hnext : find ((workers jsonb).next w a).store id = some e' := he'
    simpa [World.attempts, he, hnext] using hev.attempts_le

theorem attempts_of_grant (hw : w.Sound) {a : Statement} {g : Grant}
    (hg : (workers jsonb).answer w a = some g) :
    w.attempts g.event < g.attempt ∧ g.attempt ≤ ((workers jsonb).next w a).attempts g.event := by
  have hadv := step_advances jsonb hw a
  obtain ⟨e, hrow, hid⟩ := hadv.known g hg
  have he : find w.store g.event = some e := find_eq_some.mpr ⟨hrow, hid⟩
  obtain ⟨e', he', hev⟩ := hadv.find_forth he
  have hnext : find ((workers jsonb).next w a).store g.event = some e' := he'
  have hgrant : (w.step jsonb a).1 = some g := hg
  rw [hgrant] at hev
  obtain ⟨hlt, heq⟩ := hev.of_grant hid.symm
  simpa [World.attempts, he, hnext] using And.intro hlt heq.le

def Grant.ticket (g : Grant) : String × ℕ := (g.event, g.attempt)

variable (jsonb) in
/-- The grants made along a run. -/
def grants (w : World) (as : List Statement) : List Grant :=
  ((workers jsonb).trace w as).filterMap fun g => g

theorem nodup_grants (as : List Statement) (hw : w.Sound) :
    ((grants jsonb w as).map Grant.ticket).Nodup := by
  rw [grants, map_filterMap]
  refine nodup_tickets (Option.map Grant.ticket) World.attempts (I := World.Sound)
    (fun _ a hw => sound_step hw a) (fun _ a id hw => attempts_mono hw a id) ?_ hw as
  intro w a id n hw ht
  obtain ⟨g, hg, hticket⟩ := map_eq_some_iff.mp ht
  obtain ⟨rfl, rfl⟩ := Prod.mk.inj hticket
  exact attempts_of_grant hw hg

variable (jsonb) in
theorem sound_run (hw : w.Sound) (as : List Statement) : ((workers jsonb).run w as).Sound :=
  run_of_stable (P := World.Sound) (fun _ a hw => sound_step hw a) hw as

variable (jsonb) in
theorem known_run (hw : w.Sound) {e : OutboxEvent} (he : find w.store id = some e)
    (bs : List Statement) : ∃ x, find ((workers jsonb).run w bs).store id = some x := by
  have hstable : ∀ (w : World) (a : Statement), (w.Sound ∧ ∃ x, find w.store id = some x) →
      ((workers jsonb).next w a).Sound ∧ ∃ x, find ((workers jsonb).next w a).store id = some x := by
    rintro w a ⟨hw, x, hx⟩
    obtain ⟨x', hx', -⟩ := (step_advances jsonb hw a).find_forth hx
    exact ⟨sound_step hw a, x', hx'⟩
  exact (run_of_stable hstable ⟨hw, e, he⟩ bs).2

theorem delivered_run (hw : w.Sound) {e : OutboxEvent} (he : e ∈ w.store.rows)
    (hd : e.status = .DELIVERED) (bs : List Statement) :
    e ∈ ((workers jsonb).run w bs).store.rows := by
  have hstable : ∀ (w : World) (a : Statement), w.Sound ∧ e ∈ w.store.rows →
      ((workers jsonb).next w a).Sound ∧ e ∈ ((workers jsonb).next w a).store.rows := by
    rintro w a ⟨hw, he⟩
    obtain ⟨e', he', hev⟩ := (step_advances jsonb hw a).forth e he
    obtain rfl := hev.eq_of_delivered hd
    exact ⟨sound_step hw a, he'⟩
  exact (run_of_stable hstable ⟨hw, he⟩ bs).2

/-- A worker that does not hold an event and is not granted it along a run does
not hold it at the end. -/
theorem not_held_run (hw : w.Sound)
    (hheld : ∀ e, find w.store id = some e → e.lockedBy ≠ some worker) (bs : List Statement)
    (hgrants : ∀ g ∈ grants jsonb w bs, g.event = id → g.worker ≠ worker) :
    ∀ e, find ((workers jsonb).run w bs).store id = some e → e.lockedBy ≠ some worker := by
  induction bs generalizing w with
  | nil => exact hheld
  | cons a bs ih =>
    have hfirst : ∀ g, (workers jsonb).answer w a = some g → g.event = id → g.worker ≠ worker :=
      fun g hg => hgrants g (mem_filterMap.mpr ⟨some g, by simp [trace, hg], rfl⟩)
    refine ih (sound_step hw a) (fun e' he' => ?_) fun g hg => hgrants g ?_
    · rcases (step_advances jsonb hw a).find_back he' with ⟨e, he, hev⟩ | hnone
      · have hid := (find_eq_some.mp he).2
        exact hev.not_held (hheld e he) fun g hg hgid => hfirst g hg (hgid.trans hid)
      · rw [hnone]
        simp
    · obtain ⟨x, hx, rfl⟩ := mem_filterMap.mp hg
      exact mem_filterMap.mpr ⟨some g, mem_cons_of_mem _ hx, rfl⟩

theorem grants_append (w : World) (as bs : List Statement) :
    grants jsonb w (as ++ bs) = grants jsonb w as ++ grants jsonb ((workers jsonb).run w as) bs := by
  induction as generalizing w with
  | nil => rfl
  | cons a as ih =>
    have htail := ih ((workers jsonb).next w a)
    simp only [grants] at htail
    cases hg : (workers jsonb).answer w a <;>
      simp [grants, trace, hg, htail]

/-- A worker that does not hold an event, and is not granted it, changes it by
no statement of its own. -/
theorem unchanged_of_not_held (hw : w.Sound) {e : OutboxEvent} (he : e ∈ w.store.rows)
    (hheld : e.lockedBy ≠ some worker) (bs : List Statement) (a : Statement)
    (hauthor : ((workers jsonb).run w bs).author a = some worker)
    (hgrants : ∀ g ∈ grants jsonb w (bs ++ [a]), g.event = e.id → g.worker ≠ worker) :
    find ((workers jsonb).next ((workers jsonb).run w bs) a).store e.id =
      find ((workers jsonb).run w bs).store e.id := by
  rw [grants_append] at hgrants
  have hrun : ∀ x, find ((workers jsonb).run w bs).store e.id = some x →
      x.lockedBy ≠ some worker := by
    refine not_held_run hw (fun x hx => ?_) bs fun g hg => hgrants g (mem_append_left _ hg)
    obtain ⟨hx, hid⟩ := find_eq_some.mp hx
    rwa [eq_of_id hx he hid]
  have hadv := step_advances jsonb (sound_run jsonb hw bs) a
  rw [hauthor] at hadv
  have hlast : ∀ g, (((workers jsonb).run w bs).step jsonb a).1 = some g → g.event = e.id →
      g.worker ≠ worker := fun g hg => by
    refine hgrants g (mem_append_right _ (mem_filterMap.mpr ⟨some g, ?_, rfl⟩))
    exact mem_singleton.mpr hg.symm
  obtain ⟨x, hx⟩ := known_run jsonb hw (find_eq_some.mpr ⟨he, rfl⟩) bs
  obtain ⟨x', hx', hev⟩ := hadv.find_forth hx
  have hid := (find_eq_some.mp hx).2
  obtain rfl := hev.eq_of_not_held (hrun x hx) fun g hg hgid => hlast g hg (hgid.trans hid)
  rw [hx]
  exact hx'

/-- **Leases are exclusive**, whatever statements reach the database and in
whatever order. No pair of an event and an attempt is granted twice; no event
has more attempts than it may have; a delivered event never changes again; and
once another worker holds an event, nothing that a worker does in its own name
changes the event, until the event is granted to this worker anew. -/
theorem leases_exclusive (as : List Statement) :
    ((grants jsonb .init as).map Grant.ticket).Nodup ∧
    ∀ e ∈ ((workers jsonb).run .init as).store.rows, e.attempts ≤ e.maxAttempts ∧
      (e.status = .DELIVERED → ∀ bs, e ∈ ((workers jsonb).run .init (as ++ bs)).store.rows) ∧
      ∀ worker other, e.lockedBy = some other → other ≠ worker →
        ∀ bs a, ((workers jsonb).run .init (as ++ bs)).author a = some worker →
          (∀ g ∈ grants jsonb ((workers jsonb).run .init as) (bs ++ [a]),
            g.event = e.id → g.worker ≠ worker) →
          find ((workers jsonb).run .init (as ++ bs ++ [a])).store e.id =
            find ((workers jsonb).run .init (as ++ bs)).store e.id := by
  have hw := sound_run jsonb World.sound_init as
  refine ⟨nodup_grants as World.sound_init, fun e he => ⟨hw.bounded e he, fun hd bs => ?_, ?_⟩⟩
  · rw [run_append]
    exact delivered_run hw he hd bs
  · intro worker other hother hne bs a hauthor hgrants
    simp only [run_append, run_cons, run_nil] at hauthor ⊢
    exact unchanged_of_not_held hw he (by rw [hother]; simpa using hne) bs a hauthor hgrants

end CrmYnov.Outbox
