import CrmYnov.Cutover.Moves

/-!
# The moves of the transactions

Every transaction on a ledger is a sequence of a few moves (`CrmYnov.Cutover.Move`): the
manifest is given another state, an entry is decided, a reading is recorded, the catch-up goes
on, a case is disposed of, a compensation is noted. Each of them keeps the invariant
(`CrmYnov.Cutover.Move.covered`), and takes back nothing of what is recorded
(`CrmYnov.Cutover.Move.later`).
-/

namespace CrmYnov.Cutover

open Checked Keyed Table CutoverEntry CutoverEffect List

variable {rt : Runtime} {bytes : Ledger → ℕ} {L L' : Ledger}

/-! ### Moves -/

structure SetsState (row next : StoredCutover) : Prop where
  contract : next.contract = row.contract
  inventory : next.inventory = row.inventory
  header : next.headerSha256 = row.headerSha256
  observation : next.exceptionObservation = row.exceptionObservation
  observedAt : next.observedAt = row.observedAt ∨ next.observedAt = none
  version : row.version ≤ next.version

/-- A manifest with an entry decided. -/
structure SetsDecision (row : StoredCutover) (sourceKey : String) (action : OverlapDecision)
    (target : Option String) (next : StoredCutover) : Prop where
  contract : next.contract = row.contract
  inventory : next.inventory = row.inventory.map (decided sourceKey action target)
  header : next.headerSha256 = row.headerSha256
  observation : next.exceptionObservation = row.exceptionObservation
  observedAt : next.observedAt = row.observedAt
  version : row.version ≤ next.version
  open' : ∀ entry ∈ row.inventory, entry.key = sourceKey →
    entry.classification = .BACKLOG ∧ entry.issue = none ∧ entry.decision = none

/-- **What a transaction does to a ledger**, step by step. -/
inductive Move (rt : Runtime) (bytes : Ledger → ℕ) (L : Ledger) : Ledger → Prop
  /-- The manifest has another state; receipts and the runtime are written with it. -/
  | set {L' : Ledger} (hframe : L' = { L with
      manifest := L'.manifest, receipts := L'.receipts, runtime := L'.runtime, runs := L'.runs
      runtimeReceipts := L'.runtimeReceipts }) (hset : SetsState L.manifest L'.manifest) :
      Move rt bytes L L'
  /-- An entry is decided. -/
  | decided {sourceKey : String} {action : OverlapDecision} {target : Option String}
      {next : StoredCutover} (hset : SetsDecision L.manifest sourceKey action target next) :
      Move rt bytes L { L with manifest := next }
  /-- A reading is recorded. -/
  | observed {values : SheetValues} {observed : ObservedCutover} {next : StoredCutover}
      {caseId : ℕ → String} {L' : Ledger}
      (hacc : observeCutover rt L.manifest.contract values L.manifest.inventory
        L.manifest.headerSha256 = .ok observed)
      (hnext : Rereads L.manifest observed next)
      (hobserve : observeCutoverExceptions rt bytes { L with manifest := next } values caseId =
        .ok L') : Move rt bytes L L'
  /-- The catch-up goes on. -/
  | caughtUp {limit n : ℕ} {w : Occasion} {L' : Ledger}
      (hcatch : catchUp rt bytes L limit w = .ok (n, L')) : Move rt bytes L L'
  /-- A case is disposed of. -/
  | disposed {d : CutoverExceptionDisposition}
      {dispositions : Table CutoverExceptionDisposition CutoverExceptionDisposition.keys}
      (hcreate : L.dispositions.create d = some dispositions)
      (hcase : ∃ c ∈ L.cases.rows, c.id = d.caseId ∧ c.evidenceSha256 = d.evidenceSha256) :
      Move rt bytes L { L with dispositions }
  /-- A compensation is noted. -/
  | compensated {effect : CutoverEffect} {status : CompensationStatus} {reason : String}
      (heff : effect ∈ L.effects.rows) (hcreated : effect.outcome = .CREATED) :
      Move rt bytes L { L with
        effects := L.effects.updateMany (fun e => e.id = effect.id) fun e =>
          { e with compensationStatus := some status, compensationReason := some reason } }

abbrev Moves (rt : Runtime) (bytes : Ledger → ℕ) : Ledger → Ledger → Prop :=
  Relation.ReflTransGen (Move rt bytes)

/-! ### The invariant -/

theorem undecided_decided (sourceKey : String) (action : OverlapDecision)
    (target : Option String) (entry : CutoverEntry) :
    (entry.decided sourceKey action target).undecided = entry.undecided := by
  rw [decided]
  split
  · rfl
  · rfl

theorem reviewEffects_compensated {effect : CutoverEffect} {status : CompensationStatus}
    {reason : String} (heff : effect ∈ L.effects.rows) (hcreated : effect.outcome = .CREATED) :
    reviewEffects { L with effects := L.effects.updateMany (fun e => e.id = effect.id) fun e =>
        { e with compensationStatus := some status, compensationReason := some reason } } =
      reviewEffects L := by
  have hrow : ∀ e ∈ L.effects.rows, e.id = effect.id → e.outcome = .CREATED := fun e he hid => by
    have hsame := L.effects.eq_of_key (k := .id e.id) he heff (by simp [CutoverEffect.keys])
      (by simp [CutoverEffect.keys, hid])
    rw [hsame, hcreated]
  simp only [reviewEffects, findMany, updateMany]
  revert hrow
  generalize L.effects.rows = rows
  intro hrow
  induction rows with
  | nil => rfl
  | cons e rows ih =>
    rw [map_cons, filter_cons, filter_cons,
      ih fun e' he' => hrow e' (mem_cons_of_mem e he')]
    by_cases hid : e.id = effect.id
    · -- the row that is changed is none of them
      have hne : e.outcome ≠ .REVIEW := by
        rw [hrow e mem_cons_self hid]
        exact fun heq => by cases heq
      rw [if_pos hid, if_neg (by simpa using hne), if_neg (by simpa using hne)]
    · rw [if_neg hid]

/-- **Every move keeps the invariant.** -/
theorem Move.covered (hmove : Move rt bytes L L') (h : Covered rt L) : Covered rt L' := by
  cases hmove with
  | set hframe hset =>
    have hsame : SameExceptions L L' := by
      rw [hframe]
      exact ⟨hset.contract, hset.header, by rw [hset.inventory], rfl, rfl⟩
    refine h.of_same hsame (by rw [hframe]) hset.observation (fun t ht => ?_) hset.version ?_ ?_
    · rcases hset.observedAt with heq | heq
      · rwa [← heq]
      · rw [heq] at ht
        cases ht
    · rw [hset.inventory, hframe]
      exact h.sound.effects
    · rw [hframe]
      exact h.sound.disposed
  | @decided sourceKey action target next hset =>
    have hsame : SameExceptions L { L with manifest := next } := by
      refine ⟨hset.contract, hset.header, ?_, rfl, rfl⟩
      rw [hset.inventory, map_map]
      exact map_congr_left fun entry _ => undecided_decided sourceKey action target entry
    refine h.of_same hsame rfl hset.observation (fun t ht => ?_) hset.version
      (fun effect heff => ?_) h.sound.disposed
    · rwa [← hset.observedAt]
    · -- an entry that has its effect was decided before
      obtain ⟨entry, hentry, hkey, hbacklog, hdec⟩ := h.sound.effects effect heff
      have hne : entry.key ≠ sourceKey := fun heq => by
        rw [(hset.open' entry hentry heq).2.2] at hdec
        cases hdec
      refine ⟨entry, ?_, hkey, hbacklog, hdec⟩
      rw [hset.inventory]
      exact mem_map.mpr ⟨entry, hentry, if_neg hne⟩
  | observed hacc hnext hobserve =>
    obtain ⟨o, cases, rfl, -, -, -, hcovered⟩ :=
      observeCutoverExceptions_ok h hacc hnext hobserve
    exact hcovered
  | caughtUp hcatch => exact (catchUp_ok h hcatch).covered
  | disposed hcreate hcase =>
    refine h.of_same ⟨rfl, rfl, rfl, rfl, rfl⟩ rfl rfl (fun t ht => ht) le_rfl h.sound.effects
      fun d' hd' => ?_
    rcases (mem_create hcreate).mp hd' with hd' | rfl
    · exact h.sound.disposed d' hd'
    · exact hcase
  | compensated heff hcreated =>
    refine h.of_same ⟨rfl, rfl, rfl, reviewEffects_compensated heff hcreated, rfl⟩ rfl rfl
      (fun t ht => ht) le_rfl (fun e he => ?_) h.sound.disposed
    obtain ⟨e', he', rfl⟩ := mem_map.mp he
    split
    · exact h.sound.effects e' he'
    · exact h.sound.effects e' he'

theorem Moves.covered (hmoves : Moves rt bytes L L') (h : Covered rt L) : Covered rt L' := by
  induction hmoves with
  | refl => exact h
  | tail _ hmove ih => exact hmove.covered ih

/-! ### What is recorded stays -/

/-- An entry is kept: what is decided of it, and its issue, are given once. -/
structure Keeps (old entry : CutoverEntry) : Prop where
  same : { entry with
    issue := old.issue, decision := old.decision
    targetBootstrapRowId := old.targetBootstrapRowId } = old
  issue : ∀ issue ∈ old.issue, entry.issue = some issue
  decision : ∀ decision ∈ old.decision,
    entry.decision = some decision ∧ entry.targetBootstrapRowId = old.targetBootstrapRowId

theorem Keeps.refl (entry : CutoverEntry) : Keeps entry entry :=
  ⟨rfl, fun _ h => h, fun _ h => ⟨h, rfl⟩⟩

theorem Keeps.trans {a b c : CutoverEntry} (h : Keeps a b) (h' : Keeps b c) : Keeps a c := by
  refine ⟨?_, fun issue hissue => ?_, fun decision hdec => ?_⟩
  · rw [← h.same, ← h'.same]
  · exact h'.issue issue (h.issue issue hissue)
  · obtain ⟨hb, htarget⟩ := h.decision decision hdec
    obtain ⟨hc, htarget'⟩ := h'.decision decision hb
    exact ⟨hc, htarget'.trans htarget⟩

theorem Continues.keeps {old entry : CutoverEntry} (h : Continues old entry) : Keeps old entry := by
  have hdec := congrArg decision h.same
  have htarget := congrArg targetBootstrapRowId h.same
  simp only at hdec htarget
  refine ⟨?_, h.issue, fun decision hd => ⟨hdec.trans hd, htarget⟩⟩
  rw [← hdec, ← htarget]
  exact h.same

theorem keeps_decided {sourceKey : String} {action : OverlapDecision} {target : Option String}
    {entry : CutoverEntry} (h : entry.key = sourceKey → entry.decision = none) :
    Keeps entry (entry.decided sourceKey action target) := by
  rw [decided]
  split
  · rename_i hkey
    refine ⟨rfl, fun _ hissue => hissue, fun decision hdec => ?_⟩
    rw [h hkey] at hdec
    cases hdec
  · exact Keeps.refl entry

/-- An effect, apart from what is asked for of it, stays. -/
def SameEffect (effect effect' : CutoverEffect) : Prop :=
  { effect' with
    compensationStatus := effect.compensationStatus
    compensationReason := effect.compensationReason } = effect

theorem SameEffect.trans {a b c : CutoverEffect} (h : SameEffect a b) (h' : SameEffect b c) :
    SameEffect a c := by
  rw [SameEffect, ← h, ← h']

/-- **What is recorded stays**: entries, effects, cases and dispositions are kept. -/
structure Later (L L' : Ledger) : Prop where
  contract : L'.manifest.contract = L.manifest.contract
  version : L.manifest.version ≤ L'.manifest.version
  inventory : ∀ old ∈ L.manifest.inventory, ∃ entry ∈ L'.manifest.inventory, Keeps old entry
  effects : L.effects.Grows SameEffect L'.effects
  cases : L.cases.rows <+: L'.cases.rows
  dispositions : L.dispositions.rows <+: L'.dispositions.rows
  observation : L.manifest.exceptionObservation.isSome → L'.manifest.exceptionObservation.isSome

theorem Later.refl (L : Ledger) : Later L L :=
  ⟨rfl, le_rfl, fun entry h => ⟨entry, h, Keeps.refl entry⟩, Grows.refl _,
    prefix_refl _, prefix_refl _, id⟩

theorem Later.trans {L₁ L₂ L₃ : Ledger} (h : Later L₁ L₂) (h' : Later L₂ L₃) : Later L₁ L₃ where
  contract := h'.contract.trans h.contract
  version := h.version.trans h'.version
  inventory old hold := by
    obtain ⟨entry, hentry, hkeeps⟩ := h.inventory old hold
    obtain ⟨entry', hentry', hkeeps'⟩ := h'.inventory entry hentry
    exact ⟨entry', hentry', hkeeps.trans hkeeps'⟩
  effects := h.effects.trans (fun _ _ _ => SameEffect.trans) h'.effects
  cases := h.cases.trans h'.cases
  dispositions := h.dispositions.trans h'.dispositions
  observation ho := h'.observation (h.observation ho)

theorem grows_append {t t' : Table CutoverEffect keys} {more : List CutoverEffect}
    (h : t'.rows = t.rows ++ more) : t.Grows SameEffect t' := by
  intro effect heff
  exact ⟨effect, by rw [h]; exact mem_append_left more heff, .inl rfl⟩

/-- **No move takes anything back.** -/
theorem Move.later (hmove : Move rt bytes L L') (h : Covered rt L) : Later L L' := by
  cases hmove with
  | set hframe hset =>
    rw [hframe]
    refine ⟨hset.contract, hset.version, fun entry hentry => ⟨entry, ?_, Keeps.refl entry⟩,
      Grows.refl _, prefix_refl _, prefix_refl _, fun ho => ?_⟩
    · rw [hset.inventory]
      exact hentry
    · rw [hset.observation]
      exact ho
  | @decided sourceKey action target next hset =>
    refine ⟨hset.contract, hset.version, fun entry hentry => ?_, Grows.refl _,
      prefix_refl _, prefix_refl _, fun ho => ?_⟩
    · refine ⟨entry.decided sourceKey action target, ?_,
        keeps_decided fun hkey => (hset.open' entry hentry hkey).2.2⟩
      rw [hset.inventory]
      exact mem_map.mpr ⟨entry, hentry, rfl⟩
    · rw [hset.observation]
      exact ho
  | observed hacc hnext hobserve =>
    obtain ⟨rows, -, hreread⟩ := hnext.reread h.sound.reviewable.keys hacc
    obtain ⟨o, cases, rfl, -, -, ⟨more, hmore, -⟩, -⟩ :=
      observeCutoverExceptions_ok h hacc hnext hobserve
    refine ⟨hnext.contract, hnext.version.le, fun old hold => ?_, Grows.refl _,
      ⟨more, hmore.symm⟩, prefix_refl _, fun _ => rfl⟩
    obtain ⟨entry, hentry, hcontinues⟩ := hreread.stays old hold
    exact ⟨entry, hentry, hcontinues.keeps⟩
  | caughtUp hcatch =>
    have hcaught := catchUp_ok h hcatch
    obtain ⟨o, references, -, -, -, hmanifest⟩ := hcaught.manifest
    obtain ⟨effects, heffs, -⟩ := hcaught.effects
    obtain ⟨more, hmore, -⟩ := hcaught.cases
    refine ⟨by rw [hmanifest], by rw [hmanifest]; exact Nat.le_succ _, fun entry hentry => ?_,
      grows_append heffs, ⟨more, hmore.symm⟩, ?_, fun _ => by rw [hmanifest]; rfl⟩
    · rw [hmanifest]
      exact ⟨entry, hentry, Keeps.refl entry⟩
    · rw [hcaught.frame] <;> exact prefix_refl _
  | disposed hcreate hcase =>
    exact ⟨rfl, le_rfl, fun entry hentry => ⟨entry, hentry, Keeps.refl entry⟩,
      Grows.refl _, prefix_refl _, ⟨_, (create_rows hcreate).symm⟩, id⟩
  | compensated heff hcreated =>
    refine ⟨rfl, le_rfl, fun entry hentry => ⟨entry, hentry, Keeps.refl entry⟩,
      fun e he => ⟨_, mem_map.mpr ⟨e, he, rfl⟩, ?_⟩, prefix_refl _, prefix_refl _,
      id⟩
    split
    · exact .inr rfl
    · exact .inl rfl

theorem Moves.later (hmoves : Moves rt bytes L L') (h : Covered rt L) : Later L L' := by
  induction hmoves with
  | refl => exact Later.refl L
  | tail hmoves hmove ih => exact ih.trans (hmove.later (Moves.covered hmoves h))

end CrmYnov.Cutover
