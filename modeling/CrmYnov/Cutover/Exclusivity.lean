import CrmYnov.Cutover.Guarantees

/-!
# The exclusivity of a lease

Workers come to a manifest in any order and stop anywhere. A chunk is carried out only by the
owner of the lease, on the version of the manifest it has last left; the runs are opened in later
and later epochs, at most one of them is running and it is the one the runtime has; and a worker
that was replaced changes nothing any more (`CrmYnov.Cutover.lease_exclusive`).
-/

namespace CrmYnov.Cutover

open Checked Keyed

variable {rt : Runtime} {bytes : Ledger → ℕ} {L L' : Ledger} {s : State}

/-! ### Epochs -/

/-- An epoch is never left for an earlier one; within it a run is only given up. -/
def Onward (L L' : Ledger) : Prop :=
  ∀ runtime ∈ L.runtime, ∃ runtime' ∈ L'.runtime, runtime.epoch ≤ runtime'.epoch ∧
    (runtime'.epoch = runtime.epoch → runtime'.activeRunId = none ∨
      runtime'.activeRunId = runtime.activeRunId ∧ runtime'.leaseOwner = runtime.leaseOwner)

theorem Onward.refl (L : Ledger) : Onward L L :=
  fun runtime h => ⟨runtime, h, le_rfl, fun _ => .inr ⟨rfl, rfl⟩⟩

theorem Onward.trans {L₁ L₂ L₃ : Ledger} (h : Onward L₁ L₂) (h' : Onward L₂ L₃) :
    Onward L₁ L₃ := by
  intro runtime hrt
  obtain ⟨runtime₂, hrt₂, hle₂, hsame₂⟩ := h runtime hrt
  obtain ⟨runtime₃, hrt₃, hle₃, hsame₃⟩ := h' runtime₂ hrt₂
  refine ⟨runtime₃, hrt₃, hle₂.trans hle₃, fun heq => ?_⟩
  have heq₂ : runtime₂.epoch = runtime.epoch := by omega
  rcases hsame₃ (by omega) with hnone | ⟨hactive, howner⟩
  · exact .inl hnone
  · rw [hactive, howner]
    exact hsame₂ heq₂

theorem Advances.onward (h : Advances rt bytes L L') : Onward L L' := by
  intro runtime hrt
  obtain ⟨runtime', hrt', hle, hsame⟩ := h.runtime runtime hrt
  exact ⟨runtime', hrt', hle, fun heq => (hsame heq).2⟩

theorem Inv.onward (h : Inv rt s) (as : List Action) :
    Onward s.ledger ((machine rt bytes).run s as).ledger := by
  induction as generalizing s with
  | nil => exact Onward.refl _
  | cons a as ih =>
    have hstep : Steps rt bytes s _ := h.next a
    exact hstep.advances.onward.trans (ih hstep.inv)

/-! ### Owners -/

def Owner (L : Ledger) (claim : Claim) : Prop :=
  ∃ runtime ∈ L.runtime, runtime.epoch = claim.epoch ∧ runtime.leaseOwner = some claim.owner ∧
    runtime.activeRunId = some claim.runId

theorem finish_of_not_owner {claim : Claim} (h : ¬Owner L claim) (status : RunStatus)
    (errorCode : Option String) : finish L claim status errorCode = L := by
  rw [finish.eq_def]
  cases hrt : L.runtime with
  | none => rfl
  | some runtime =>
    simp only
    refine if_pos ?_
    by_contra howner
    simp only [not_or, not_not] at howner
    exact h ⟨runtime, hrt, howner⟩

/-- **A lease that was lost is never owned again.** -/
theorem Holds.not_owner {worker : Worker} (h : Holds L worker) (hnot : ¬Owner L worker.claim)
    (honward : Onward L L') : ¬Owner L' worker.claim := by
  rintro ⟨runtime', hrt', hepoch', howner', hactive'⟩
  obtain ⟨runtime, hrt, hle, hcur⟩ := h
  obtain ⟨runtime'', hrt'', hle', hsame⟩ := honward runtime hrt
  rw [Option.mem_def.mp hrt'] at hrt''
  cases hrt''
  have hepoch : runtime.epoch = worker.claim.epoch := by omega
  rcases hsame (by omega) with hnone | ⟨hactive, howner⟩
  · rw [hnone] at hactive'
    cases hactive'
  · rcases (hcur hepoch).1 with hnone | ⟨hrun, howns⟩
    · rw [hactive, hnone] at hactive'
      cases hactive'
    · exact hnot ⟨runtime, hrt, hepoch, howns, hrun⟩

/-- **A lease is exclusive**, in every state of a cutover. -/
theorem lease_exclusive {s₀ : State} (h₀ : Created s₀) (as : List Action) :
    let s := (machine rt bytes).run s₀ as
    (∀ i w worker, s.workers[i]? = some worker →
      (∃ values known chunk, worker.progress = .consuming values known chunk) →
      (machine rt bytes).answer s (.chunk i w) = .ok () →
        (∃ runtime, Owns s.ledger worker.claim w runtime ∧
          ∃ leaseUntil ∈ runtime.leaseUntil, w.clock < leaseUntil) ∧
        ∃ run ∈ s.ledger.runs.rows, run.id = worker.claim.runId ∧ run.status = .RUNNING ∧
          run.epoch = worker.claim.epoch) ∧
    ((s.ledger.runs.rows.map CutoverRun.epoch).Pairwise (· < ·) ∧
      ∀ bs, ∀ runtime ∈ s.ledger.runtime,
        ∃ runtime' ∈ ((machine rt bytes).run s bs).ledger.runtime,
          runtime.epoch ≤ runtime'.epoch) ∧
    (∀ run ∈ s.ledger.runs.rows, run.status = .RUNNING →
      activeRunId s.ledger = some run.id ∧
        ∀ run' ∈ s.ledger.runs.rows, run'.status = .RUNNING → run' = run) ∧
    ∀ worker ∈ s.workers, ¬Owner s.ledger worker.claim → ∀ bs status errorCode,
      let s' := (machine rt bytes).run s bs
      finish s'.ledger worker.claim status errorCode = s'.ledger := by
  intro s
  have hinv := inv_run rt bytes h₀ as
  have hleased := hinv.ledger.leased
  refine ⟨fun i w worker hworker hprogress hans => ?_, ⟨hleased.epochs, fun bs runtime hrt => ?_⟩,
    fun run hrun hstatus => ⟨hleased.running run hrun hstatus, fun run' hrun' hstatus' => ?_⟩,
    fun worker hworker hnot bs status errorCode => ?_⟩
  · obtain ⟨values, known, chunk, hprogress⟩ := hprogress
    simp only [Machine.answer, machine, State.step, State.withWorker, hworker, State.chunked,
      hprogress] at hans
    split at hans
    · rename_i processed blocked L' hchunk
      obtain ⟨⟨runtime, howns⟩, -, -, hchunked⟩ := chunkTransaction_ok hinv.ledger.covered
        (fun hstate => (hinv.ledger.fresh_of_ready hstate).1) hinv.ledger.decided hchunk
      obtain ⟨runtime', leaseUntil, hrt', hlease, hclock, -⟩ := hchunked.runtime
      rw [howns.found] at hrt'
      cases hrt'
      obtain ⟨run, hrun, hid, hrunning, hepoch⟩ :=
        hleased.active runtime howns.found worker.claim.runId howns.active
      exact ⟨⟨runtime, howns, leaseUntil, hlease, hclock⟩, run, hrun, hid, hrunning,
        hepoch.trans howns.epoch⟩
    · cases hans
  · have honward : Onward s.ledger ((machine rt bytes).run s bs).ledger := hinv.onward bs
    obtain ⟨runtime', hrt', hle, -⟩ := honward runtime hrt
    exact ⟨runtime', hrt', hle⟩
  · have hid := (hleased.running run hrun hstatus).symm.trans
      (hleased.running run' hrun' hstatus')
    exact s.ledger.runs.eq_of_key (k := .id run.id) hrun' hrun
      (by simp [CutoverRun.keys, Option.some.inj hid]) (by simp [CutoverRun.keys])
  · exact finish_of_not_owner ((hinv.workers worker hworker).not_owner hnot (hinv.onward bs))
      status errorCode

/-- A worker comes to a runtime that was qualified and armed, and reads the source. -/
def Sample.working : List Action := opening ++ [.qualify (request "qualify" 4) (occasion "a"),
  .arm false (request "arm" 1) (occasion "b"), .claim 25 1 (occasion "c"),
  .source 0 values (occasion "d")]

/-- The worker carries out its chunks. -/
def Sample.atWork (worker : Worker) : Bool :=
  match worker.progress with
  | .consuming _ _ _ => true
  | _ => false

open Sample

theorem working_chunk :
    let s := (machine runtime small).run start working
    s.workers[0]?.any atWork = true ∧
      (machine runtime small).answer s (.chunk 0 (occasion "e")) = .ok () := by
  delta machine State.step State.observed State.chunked observe chunkTransaction firstChunk
    observeChunk observeCutover
  simp only [byteLength_stringify]
  decide +kernel

theorem consuming_of_atWork {i : ℕ} (h : s.workers[i]?.any atWork = true) :
    ∃ worker, s.workers[i]? = some worker ∧
      ∃ values known chunk, worker.progress = .consuming values known chunk := by
  obtain ⟨worker, hfound, hwork⟩ := (Option.any_eq_true _ _).mp h
  refine ⟨worker, hfound, ?_⟩
  rw [atWork] at hwork
  cases hp : worker.progress with
  | consuming values known chunk => exact ⟨values, known, chunk, rfl⟩
  | claimed | ending | ended =>
    rw [hp] at hwork
    cases hwork

/-- Its chunk is carried out under its lease. -/
theorem lease_exclusive_working :
    let s := (machine runtime small).run start working
    ∃ worker ∈ s.workers, ∃ runtime,
      Owns s.ledger worker.claim (occasion "e") runtime := by
  dsimp only
  obtain ⟨hwork, hans⟩ := working_chunk
  obtain ⟨worker, hfound, hprogress⟩ := consuming_of_atWork hwork
  obtain ⟨⟨runtime, howns, -⟩, -⟩ := (lease_exclusive created_start working).1 0
    (occasion "e") worker hfound hprogress hans
  exact ⟨worker, List.mem_of_getElem? hfound, runtime, howns⟩

end CrmYnov.Cutover
