import CrmYnov.Cutover.Leases
import CrmYnov.Cutover.Machine

/-!
# The invariant of a cutover

What holds between two transactions (`CrmYnov.Cutover.Inv`): the exceptions are covered, what is
ready is settled, the reading behind a manifest that is not suspended was begun after every
disposition, and the worker's part is under its lease. A reading that is not recorded yet, and a
worker, know of the dispositions what there was at their version and at their epoch; a
quarantine leaves both behind. Every step keeps it (`CrmYnov.Cutover.Inv.next`).
-/

namespace CrmYnov.Cutover

open Checked Keyed List Option

variable {rt : Runtime} {bytes : Ledger → ℕ} {L L' : Ledger} {seen : ℕ}

/-! ### Ledgers -/

/-- **What holds of a ledger**, with the number of the dispositions its reading knew of. -/
structure LedgerInv (rt : Runtime) (L : Ledger) (seen : ℕ) : Prop where
  covered : Covered rt L
  decided : ∀ d ∈ L.dispositions.rows, d.decidedManifestVersion ≤ L.manifest.version
  fresh : L.manifest.state = .SUSPENDED ∨ L.manifest.observedAt = none ∨
    Fresh L ∧ seen = L.dispositions.rows.length
  ready : ReadyWhen rt L
  leased : Leased L

theorem LedgerInv.fresh_of_ready (h : LedgerInv rt L seen)
    (hstate : L.manifest.state = .READY_FOR_CATCHUP) :
    Fresh L ∧ seen = L.dispositions.rows.length := by
  obtain ⟨o, -, hat, -⟩ := (h.ready hstate).observation
  rcases h.fresh with hsusp | hnone | hfresh
  · rw [hstate] at hsusp
    cases hsusp
  · rw [hat] at hnone
    cases hnone
  · exact hfresh

/-- **A ledger goes on**: what is disposed of changes the version, and the epoch of the worker. -/
structure Advances (rt : Runtime) (bytes : Ledger → ℕ) (L L' : Ledger) : Prop where
  moves : Moves rt bytes L L'
  arising : Arising L L'
  dispositions : L'.manifest.version = L.manifest.version → L'.dispositions = L.dispositions
  runtime : ∀ runtime ∈ L.runtime, ∃ runtime' ∈ L'.runtime, runtime.epoch ≤ runtime'.epoch ∧
    (runtime'.epoch = runtime.epoch → L'.dispositions = L.dispositions ∧
      (runtime'.activeRunId = none ∨ runtime'.activeRunId = runtime.activeRunId ∧
        runtime'.leaseOwner = runtime.leaseOwner))

theorem Advances.of_same (hmoves : Moves rt bytes L L') (harising : Arising L L')
    (hdisps : L'.dispositions = L.dispositions) (hruntime : L'.runtime = L.runtime) :
    Advances rt bytes L L' :=
  ⟨hmoves, harising, fun _ => hdisps, fun runtime hrt => ⟨runtime, by rw [hruntime]; exact hrt,
    le_rfl, fun _ => ⟨hdisps, .inr ⟨rfl, rfl⟩⟩⟩⟩

theorem Advances.of_epoch (hmoves : Moves rt bytes L L') (heffs : L'.effects = L.effects)
    (hdisps : L'.dispositions = L.dispositions)
    (hruntime : ∀ runtime ∈ L.runtime, ∃ runtime' ∈ L'.runtime, runtime.epoch < runtime'.epoch) :
    Advances rt bytes L L' := by
  refine ⟨hmoves, .of_same heffs, fun _ => hdisps, fun runtime hrt => ?_⟩
  obtain ⟨runtime', hrt', hlt⟩ := hruntime runtime hrt
  exact ⟨runtime', hrt', hlt.le, fun heq => absurd heq hlt.ne'⟩

theorem Ready.beside (h : Ready rt L) {runtime : Option StoredCutoverRuntime}
    {runs : Table CutoverRun CutoverRun.keys} {receipts runtimeReceipts : Table Receipt Receipt.keys} :
    Ready rt { L with receipts, runtime, runs, runtimeReceipts } :=
  ⟨h.freeze, h.report, h.observation, h.settled⟩

theorem LedgerInv.beside (h : LedgerInv rt L seen) {runtime : Option StoredCutoverRuntime}
    {runs : Table CutoverRun CutoverRun.keys} {receipts runtimeReceipts : Table Receipt Receipt.keys}
    (hleased : Leased { L with receipts, runtime, runs, runtimeReceipts }) :
    LedgerInv rt { L with receipts, runtime, runs, runtimeReceipts } seen where
  covered := Move.covered (@Move.beside rt (fun _ => 0) L _ _ _ _) h.covered
  decided := h.decided
  fresh := h.fresh
  ready hstate := (h.ready hstate).beside
  leased := hleased

/-- **A request that neither reads nor disposes keeps the invariant.** -/
theorem Handled.keeps (h : Handled rt bytes L L') (hI : LedgerInv rt L seen) :
    LedgerInv rt L' seen ∧ Advances rt bytes L L' := by
  have hcovered := h.moves.covered hI.covered
  have hlater := h.moves.later hI.covered
  refine ⟨⟨hcovered, fun d hd => ?_, ?_, h.ready hI.ready, ?_⟩,
    .of_same h.moves h.arising h.dispositions h.runtime⟩
  · rw [h.dispositions] at hd
    exact (hI.decided d hd).trans hlater.version
  · rcases h.reading with hsusp | hnone | ⟨hstate, hat, hver⟩
    · exact .inl hsusp
    · exact .inr (.inl hnone)
    · rcases hI.fresh with hsusp | hnone | ⟨hfresh, hseen⟩
      · exact absurd hsusp hstate
      · exact .inr (.inl (hat.trans hnone))
      · refine .inr (.inr ⟨fun o' ho' d hd => ?_, by rw [h.dispositions]; exact hseen⟩)
        rw [Option.mem_def.mp ho', Option.map_some] at hver
        obtain ⟨o, ho, heq⟩ := Option.map_eq_some_iff.mp hver.symm
        rw [h.dispositions] at hd
        rw [← heq]
        exact hfresh o ho d hd
  · refine hI.leased.keep (f := id) h.runs (by rw [h.runtime, Option.map_id]; rfl)
      (fun _ => ⟨rfl, rfl⟩) fun runtime hrt hstate hactive => ?_
    exact (hI.leased.waiting runtime hrt hstate hactive).later hI.covered hcovered hlater
      h.dispositions

/-- **A reading that is recorded is fresh.** -/
theorem Records.keeps {values : SheetValues} {caseId : ℕ → String} {next : StoredCutover}
    (h : Records rt bytes L values caseId next L') (receipts : Table Receipt Receipt.keys)
    (hstate : next.state = .BASELINED) (hI : LedgerInv rt L seen) :
    LedgerInv rt { L' with receipts } L.dispositions.rows.length ∧
      Advances rt bytes L { L' with receipts } := by
  obtain ⟨⟨hframe, o, hmanifest, hver, hat⟩, hlt⟩ := h.reobserved hI.covered
  have hmoves : Moves rt bytes L { L' with receipts } := (Relation.ReflTransGen.single h.move).tail
    .beside
  have hcovered := hmoves.covered hI.covered
  have hlater := hmoves.later hI.covered
  have heffs : L'.effects = L.effects := by rw [hframe]
  have hdisps : L'.dispositions = L.dispositions := by rw [hframe]
  have hruntime : L'.runtime = L.runtime := by rw [hframe]
  have hruns : L'.runs = L.runs := by rw [hframe]
  refine ⟨⟨hcovered, fun d hd => ?_, .inr (.inr ⟨fun o' ho' d hd => ?_, ?_⟩), fun hready => ?_,
    ?_⟩, .of_same hmoves (.of_same heffs) hdisps hruntime⟩
  · have hd : d ∈ L'.dispositions.rows := hd
    rw [hdisps] at hd
    exact (hI.decided d hd).trans hlater.version
  · have ho' : L'.manifest.exceptionObservation = some o' := ho'
    have hd : d ∈ L'.dispositions.rows := hd
    rw [hmanifest] at ho'
    cases ho'
    rw [hdisps] at hd
    have hle := hI.decided d hd
    omega
  · show L.dispositions.rows.length = L'.dispositions.rows.length
    rw [hdisps]
  · have hready : L'.manifest.state = .READY_FOR_CATCHUP := hready
    rw [hmanifest] at hready
    rw [hstate] at hready
    cases hready
  · refine hI.leased.keep (f := id) hruns (by rw [Option.map_id]; exact hruntime)
      (fun _ => ⟨rfl, rfl⟩) fun runtime hrt hnot hactive => ?_
    exact (hI.leased.waiting runtime hrt hnot hactive).later hI.covered hcovered hlater
      hdisps

/-- **A quarantine leaves a manifest that is suspended, and a worker that has lost its lease.** -/
theorem Quarantined.keeps (h : Quarantined rt bytes L L') (hI : LedgerInv rt L seen) :
    LedgerInv rt L' seen ∧ Advances rt bytes L L' := by
  have hcovered := h.moves.covered hI.covered
  obtain ⟨d, hrows, hdecided⟩ := h.disposed
  have hepoch : ∀ runtime ∈ L.runtime, ∃ runtime' ∈ L'.runtime, runtime.epoch < runtime'.epoch :=
    fun runtime hrt => ⟨_, by rw [h.runtime, mem_def.mp hrt]; rfl, Nat.lt_succ_self _⟩
  have hnone : activeRunId L' = none := by
    rw [activeRunId, h.runtime]
    cases L.runtime <;> rfl
  refine ⟨⟨hcovered, fun d' hd' => ?_, .inl h.state, fun hstate => ?_, ?_⟩, h.moves,
    .of_same h.effects, fun heq => ?_, fun runtime hrt => ?_⟩
  · rw [hrows] at hd'
    rcases mem_append.mp hd' with hd' | hd'
    · have hle := hI.decided d' hd'
      have hver := h.version
      omega
    · rw [mem_singleton.mp hd']
      exact hdecided.le
  · rw [h.state] at hstate
    cases hstate
  · refine (hI.leased.ends _ _ (ends_of_abandoned h.runs hnone) fun runtime hrt => ?_).1
    obtain ⟨runtime', hrt', hlt⟩ := hepoch runtime hrt
    exact ⟨runtime', hrt', hlt.le⟩
  · rw [h.version] at heq
    omega
  · obtain ⟨runtime', hrt', hlt⟩ := hepoch runtime hrt
    exact ⟨runtime', hrt', hlt.le, fun heq => absurd heq hlt.ne'⟩

theorem qualify_keeps {request : CutoverRequest} {w : Occasion}
    (h : qualify rt L request w = .ok L') (hI : LedgerInv rt L seen) :
    LedgerInv rt L' seen ∧ Advances rt bytes L L' := by
  rcases qualify_ok hI.covered h with rfl | ⟨hready, hdisarmed, q, receipts, rfl⟩
  · exact ⟨hI, .of_same .refl (.of_same rfl) rfl rfl⟩
  · refine ⟨hI.beside (hI.leased.qualified hready hdisarmed rfl rfl),
      .of_epoch (.single .beside) rfl rfl fun runtime hrt => ⟨_, rfl, ?_⟩⟩
    rw [qualified.eq_def, mem_def.mp hrt]
    exact Nat.lt_succ_self _

theorem arm_keeps {disarm : Bool} {request : CutoverRequest} {w : Occasion}
    (h : arm rt L disarm request w = .ok L') (hI : LedgerInv rt L seen) :
    LedgerInv rt L' seen ∧ Advances rt bytes L L' := by
  rcases arm_ok h with rfl | ⟨runtime, next, receipts, rfl, hruntime, hepoch, hactive⟩
  · exact ⟨hI, .of_same .refl (.of_same rfl) rfl rfl⟩
  · have hnext : ∀ r ∈ L.runtime, r.epoch < next.epoch := fun r hr => by
      rw [mem_def.mp hr] at hruntime
      rw [some.inj hruntime, hepoch]
      exact Nat.lt_succ_self _
    have hends : Ends L { L with
        runs := (abandonRun L (activeRunId L) "cutover_runtime_disarmed").runs
        runtime := some next, runtimeReceipts := receipts } .ABANDONED
        (some "cutover_runtime_disarmed") := ends_of_abandoned rfl hactive
    exact ⟨hI.beside (hI.leased.ends _ _ hends fun r hr => ⟨next, rfl, (hnext r hr).le⟩).1,
      .of_epoch (.single .beside) rfl rfl fun r hr => ⟨next, rfl, hnext r hr⟩⟩

theorem Opened.keeps {claim : Claim} (h : Opened L claim L') (hI : LedgerInv rt L seen) :
    LedgerInv rt L' seen ∧ Advances rt bytes L L' := by
  have hleased := hI.leased.opened h
  obtain ⟨runtime, next, hrt, -, hnext, -, hepoch, -⟩ := h.runtime
  have hframe := h.frame
  rw [hframe] at hleased ⊢
  refine ⟨hI.beside hleased, .of_epoch (.single .beside) rfl rfl fun r hr => ⟨next, hnext, ?_⟩⟩
  rw [mem_def.mp hr] at hrt
  rw [some.inj hrt, hepoch]
  exact Nat.lt_succ_self _

/-- **A chunk keeps the invariant**: a run that is blocked waits for a disposition. -/
theorem Chunked.keeps {w : Occasion} {blocked : Bool} (h : Chunked rt bytes L w blocked L')
    (hI : LedgerInv rt L seen) :
    LedgerInv rt L' L.dispositions.rows.length ∧ Advances rt bytes L L' := by
  have hcovered := h.moves.covered hI.covered
  have hlater := h.moves.later hI.covered
  obtain ⟨runtime, leaseUntil, hrt, -, -, hrt'⟩ := h.runtime
  refine ⟨⟨hcovered, fun d hd => ?_, .inr (.inr ⟨h.fresh, by rw [h.dispositions]⟩), h.ready, ?_⟩,
    h.moves, h.arising, fun _ => h.dispositions, fun r hr => ⟨_, hrt', ?_⟩⟩
  · rw [h.dispositions] at hd
    exact (hI.decided d hd).trans hlater.version
  · refine hI.leased.keep (f := fun runtime => { runtime with
      state := if blocked then .PAUSED else runtime.state
      leaseUntil := some (w.renewedAt + LEASE_MS)
      leaseManifestVersion := some L'.manifest.version }) h.runs (by rw [hrt', hrt]; rfl)
      (fun _ => ⟨rfl, rfl⟩) fun r hr hstate hactive => ?_
    cases blocked with
    | true => exact h.undisposed rfl
    | false =>
      exact (hI.leased.waiting r hr hstate hactive).later hI.covered hcovered hlater h.dispositions
  · rw [mem_def.mp hr] at hrt
    rw [some.inj hrt]
    exact ⟨le_rfl, fun _ => ⟨h.dispositions, .inr ⟨rfl, rfl⟩⟩⟩

/-- **The end of a run changes nothing but the run**, and its runtime. -/
theorem finish_keeps (claim : Claim) {status : RunStatus} (hstatus : status ≠ .RUNNING)
    (errorCode : Option String) (hI : LedgerInv rt L seen) :
    LedgerInv rt (finish L claim status errorCode) seen ∧
      Advances rt bytes L (finish L claim status errorCode) := by
  rw [finish.eq_def]
  cases hrt : L.runtime with
  | none => exact ⟨hI, .of_same .refl (.of_same rfl) rfl rfl⟩
  | some runtime =>
    simp only
    split
    · exact ⟨hI, .of_same .refl (.of_same rfl) rfl rfl⟩
    · rename_i howner
      simp only [not_or, not_not] at howner
      have hactive : activeRunId L = some claim.runId := by
        rw [activeRunId, hrt]
        exact howner.2.2
      refine ⟨hI.beside ?_, .single .beside, .of_same rfl, fun _ => rfl, fun r hr => ⟨_, rfl, ?_⟩⟩
      · refine (hI.leased.ends status errorCode ⟨hstatus, ?_, rfl⟩
          fun r hr => ⟨_, rfl, ?_⟩).1
        · refine map_congr_left fun run _ => ?_
          rw [hactive]
          simp only [some.injEq, eq_comm]
        · rw [mem_def.mp hr] at hrt
          rw [some.inj hrt]
      · rw [mem_def.mp hr] at hrt
        rw [some.inj hrt]
        exact ⟨le_rfl, fun _ => ⟨rfl, .inl rfl⟩⟩

/-! ### States -/

/-- **What a worker knows**: its epoch is over, or its run is the one there is, or none is; and
while it is not over no disposition was made since it has read the source. -/
def Holds (L : Ledger) (worker : Worker) : Prop :=
  ∃ runtime ∈ L.runtime, worker.claim.epoch ≤ runtime.epoch ∧
    (runtime.epoch = worker.claim.epoch →
      (runtime.activeRunId = none ∨ runtime.activeRunId = some worker.claim.runId ∧
        runtime.leaseOwner = some worker.claim.owner) ∧
      ∀ values known chunk, worker.progress = .consuming values known chunk →
        known = L.dispositions.rows.length)

/-- **What holds between two transactions.** -/
structure Inv (rt : Runtime) (s : State) : Prop where
  ledger : LedgerInv rt s.ledger s.seen
  readings : ∀ r ∈ s.readings, r.request.expectedVersion ≤ s.ledger.manifest.version ∧
    (r.request.expectedVersion = s.ledger.manifest.version → r.known = s.known)
  workers : ∀ worker ∈ s.workers, Holds s.ledger worker

variable {worker : Worker}

theorem Holds.advances (h : Holds L worker) (ha : Advances rt bytes L L') : Holds L' worker := by
  obtain ⟨runtime, hrt, hle, hcur⟩ := h
  obtain ⟨runtime', hrt', hle', hsame⟩ := ha.runtime runtime hrt
  refine ⟨runtime', hrt', hle.trans hle', fun heq => ?_⟩
  have hepoch : runtime.epoch = worker.claim.epoch := by omega
  obtain ⟨hactive, hknown⟩ := hcur hepoch
  obtain ⟨hdisps, hrun⟩ := hsame (heq.trans hepoch.symm)
  refine ⟨?_, fun values known chunk hp => by rw [hdisps]; exact hknown values known chunk hp⟩
  rcases hrun with hnone | ⟨hrun, howner⟩
  · exact .inl hnone
  · rw [hrun, howner]
    exact hactive

theorem Holds.progress (h : Holds L worker) {progress : Progress}
    (hp : ∀ values known chunk, progress = .consuming values known chunk →
      known = L.dispositions.rows.length) : Holds L { worker with progress } := by
  obtain ⟨runtime, hrt, hle, hcur⟩ := h
  exact ⟨runtime, hrt, hle, fun heq => ⟨(hcur heq).1, hp⟩⟩

variable {s : State}

/-- **A step**: it keeps the invariant, its ledger goes on, and the effects it makes rest on a
reading that knew of every disposition. -/
structure Steps (rt : Runtime) (bytes : Ledger → ℕ) (s s' : State) : Prop where
  inv : Inv rt s'
  advances : Advances rt bytes s.ledger s'.ledger
  read : s'.ledger.effects.rows.length = s.ledger.effects.rows.length ∨ s'.seen = s.known

theorem Inv.refl (h : Inv rt s) : Steps rt bytes s s :=
  ⟨h, .of_same .refl (.of_same rfl) rfl rfl, .inl rfl⟩

theorem Inv.reading_later (h : Inv rt s) (ha : Advances rt bytes s.ledger L') {r : Reading}
    (hr : r ∈ s.readings) : r.request.expectedVersion ≤ L'.manifest.version ∧
      (r.request.expectedVersion = L'.manifest.version →
        r.known = L'.dispositions.rows.length) := by
  obtain ⟨hle, hknown⟩ := h.readings r hr
  have hver := (ha.moves.later h.ledger.covered).version
  refine ⟨hle.trans hver, fun heq => ?_⟩
  -- a version that is still the one of the request has seen no disposition
  have hsame : L'.manifest.version = s.ledger.manifest.version := by omega
  rw [hknown (heq.trans hsame), State.known, ha.dispositions hsame]

/-- **A ledger that goes on keeps the invariant.** -/
theorem Inv.advances (h : Inv rt s) {seen : ℕ} (hL : LedgerInv rt L' seen)
    (ha : Advances rt bytes s.ledger L') (hseen : seen = s.seen ∨ seen = s.known) :
    Steps rt bytes s { s with ledger := L', seen } := by
  refine ⟨⟨hL, fun r hr => ?_, fun worker hworker => (h.workers worker hworker).advances ha⟩, ha,
    ha.arising.ready.imp_right fun hstate => ?_⟩
  · exact h.reading_later ha hr
  · rcases hseen with heq | heq
    · exact heq.trans (h.ledger.fresh_of_ready hstate).2
    · exact heq

theorem Steps.setWorker {s' : State} (h : Steps rt bytes s s') (hworker : Holds s'.ledger worker)
    (i : ℕ) : Steps rt bytes s (s'.setWorker i worker) where
  inv := by
    refine ⟨h.inv.ledger, h.inv.readings, fun other hother => ?_⟩
    rcases mem_or_eq_of_mem_set hother with hother | rfl
    · exact h.inv.workers other hother
    · exact hworker
  advances := h.advances
  read := h.read

theorem Inv.failWorker (h : Inv rt s) (hworker : Holds s.ledger worker) (i : ℕ) (e : Failure) :
    Steps rt bytes s (s.failWorker i worker e) :=
  h.refl.setWorker (hworker.progress fun _ _ _ hp => by cases hp) i

theorem Inv.commit (h : Inv rt s) {result : Outcome Ledger}
    (hresult : ∀ L', result = .ok L' → LedgerInv rt L' s.seen ∧ Advances rt bytes s.ledger L') :
    Steps rt bytes s (s.commit result).2 := by
  cases result with
  | error e => exact h.refl
  | ok L' =>
    obtain ⟨hL, ha⟩ := hresult L' rfl
    exact h.advances hL ha (.inl rfl)

theorem Inv.prepared (h : Inv rt s) (request : CutoverRequest) (values : SheetValues)
    (capturedAt : Instant) (w : Occasion) :
    Steps rt bytes s (s.prepared request values capturedAt w).2 := by
  rw [State.prepared]
  split
  · rename_i hprepare
    simp only [prepareObserve, bind_ok_iff] at hprepare
    obtain ⟨-, -, connector, -, known, -, hprepare⟩ := hprepare
    cases known with
    | true => cases hprepare
    | false =>
      simp only [Bool.false_eq_true, if_false, ok_iff, expected] at hprepare
      obtain ⟨-, hver, -⟩ := hprepare
      refine ⟨⟨h.ledger, fun r hr => ?_, h.workers⟩, h.refl.advances, .inl rfl⟩
      rcases mem_append.mp hr with hr | hr
      · exact h.readings r hr
      · rw [mem_singleton.mp hr]
        exact ⟨hver.ge, fun _ => rfl⟩
  · exact h.refl
  · exact h.refl

theorem Inv.observed (h : Inv rt s) {reading : Reading} (hreading : reading ∈ s.readings) (i : ℕ)
    (w : Occasion) : Steps rt bytes s (s.observed rt bytes reading i w).2 := by
  have hless : Inv rt { s with readings := s.readings.eraseIdx i } :=
    ⟨h.ledger, fun r hr => h.readings r (mem_of_mem_eraseIdx hr), h.workers⟩
  rw [State.observed]
  simp only
  split
  · rename_i L' hobserve
    rcases observe_ok hobserve with rfl | ⟨hver, next, L₁, receipts, hrecords, hstate, rfl⟩
    · simp only [if_true]
      exact ⟨hless, h.refl.advances, .inl rfl⟩
    · obtain ⟨hL, ha⟩ := hrecords.keeps receipts hstate h.ledger
      have hlt : L₁.manifest.version ≠ s.ledger.manifest.version := by
        obtain ⟨⟨-, o, hmanifest, -⟩, hlt⟩ := hrecords.reobserved h.ledger.covered
        rw [hmanifest]
        exact hlt.ne'
      have hknown := (h.readings reading hreading).2 hver.symm
      simp only [if_neg hlt, hknown]
      exact ⟨(hless.advances hL ha (.inr rfl)).inv, ha, .inr rfl⟩
  · exact ⟨hless, h.refl.advances, .inl rfl⟩

theorem Inv.claimed (h : Inv rt s) (limit chunks : ℕ) (w : Occasion) :
    Steps rt bytes s (s.claimed rt limit chunks w).2 := by
  rw [State.claimed]
  split
  · split
    · rename_i claim L' hclaim
      rcases claim_ok hclaim with ⟨heq, -⟩ | ⟨claim', heq, hopened⟩
      · cases heq
      · cases heq
        have hkeeps : _ ∧ Advances rt bytes s.ledger L' := hopened.keeps h.ledger
        obtain ⟨hL, ha⟩ := hkeeps
        have hsteps := h.advances hL ha (.inl rfl)
        refine ⟨⟨hL, hsteps.inv.readings, fun worker hworker => ?_⟩, ha, hsteps.read⟩
        rcases mem_append.mp hworker with hworker | hworker
        · exact hsteps.inv.workers worker hworker
        · obtain ⟨runtime, next, -, -, hrt, -, -, hepoch, hactive, howner⟩ := hopened.runtime
          rw [mem_singleton.mp hworker]
          refine ⟨next, hrt, hepoch.le, fun _ => ⟨.inr ⟨hactive, howner⟩, fun _ _ _ hp => ?_⟩⟩
          cases hp
    · rename_i L' hclaim
      rcases claim_ok hclaim with ⟨-, rfl⟩ | ⟨claim', heq, -⟩
      · exact h.refl
      · cases heq
    · exact h.refl
  · exact h.refl

theorem Inv.sourced (h : Inv rt s) (hworker : worker ∈ s.workers) (i : ℕ) (values : SheetValues)
    (w : Occasion) : Steps rt bytes s (s.sourced rt i worker values w).2 := by
  have hholds := h.workers worker hworker
  rw [State.sourced]
  split
  · split
    · refine h.refl.setWorker (hholds.progress fun values known chunk hp => ?_) i
      cases hp
      rfl
    · exact h.failWorker hholds i _
  · exact h.refl

theorem Inv.failed (h : Inv rt s) (hworker : worker ∈ s.workers) (i : ℕ) (e : Failure) :
    Steps rt bytes s (s.failed i worker e) := by
  rw [State.failed]
  split
  · exact h.failWorker (h.workers worker hworker) i e
  · exact h.failWorker (h.workers worker hworker) i e
  · exact h.refl

theorem Inv.chunked (h : Inv rt s) (hworker : worker ∈ s.workers) (i : ℕ) (w : Occasion) :
    Steps rt bytes s (s.chunked rt bytes i worker w).2 := by
  have hholds := h.workers worker hworker
  rw [State.chunked]
  split
  · rename_i values known chunk hprogress
    split
    · rename_i processed blocked L' hchunk
      obtain ⟨⟨runtime, howns⟩, hstate, -, hchunked⟩ := chunkTransaction_ok h.ledger.covered
        (fun hstate => (h.ledger.fresh_of_ready hstate).1) h.ledger.decided hchunk
      obtain ⟨hL, ha⟩ := hchunked.keeps h.ledger
      -- whichever chunk it is, the reading behind the manifest knows of every disposition
      have hknown : known = s.ledger.dispositions.rows.length := by
        obtain ⟨runtime', hrt', -, hcur⟩ := hholds
        rw [howns.found] at hrt'
        cases hrt'
        exact (hcur howns.epoch).2 values known chunk hprogress
      have hseen : (if chunk = 0 then known else s.seen) = s.ledger.dispositions.rows.length := by
        split
        · exact hknown
        · exact (h.ledger.fresh_of_ready hstate).2
      rw [← hseen] at hL
      refine (h.advances hL ha (.inr hseen)).setWorker ?_ i
      obtain ⟨runtime', hrt', hle, hcur⟩ := hholds.advances ha
      refine ⟨runtime', hrt', hle, fun heq => ⟨(hcur heq).1, fun values' known' chunk' hp => ?_⟩⟩
      have hsame : known' = known := by
        simp only [State.afterChunk] at hp
        split at hp
        · cases hp
        · split at hp
          · cases hp
          · cases hp
            rfl
      rw [hsame, hchunked.dispositions]
      exact hknown
    · exact h.failWorker hholds i _
  · exact h.refl

theorem Inv.finished (h : Inv rt s) (hworker : worker ∈ s.workers) (i : ℕ) :
    Steps rt bytes s (s.finished i worker) := by
  rw [State.finished]
  split
  · rename_i e hprogress
    have hstatus : e.status ≠ .RUNNING := by cases e <;> exact fun heq => by cases heq
    obtain ⟨hL, ha⟩ := finish_keeps worker.claim hstatus e.errorCode h.ledger
    exact (h.advances hL ha (.inl rfl)).setWorker (((h.workers worker hworker).advances ha).progress
      fun _ _ _ hp => by cases hp) i
  · exact h.refl

theorem Inv.withWorker (h : Inv rt s) (i : ℕ) {f : Worker → Outcome Unit × State}
    (hf : ∀ worker ∈ s.workers, Steps rt bytes s (f worker).2) :
    Steps rt bytes s (s.withWorker i f).2 := by
  rw [State.withWorker]
  split
  · rename_i worker hworker
    exact hf worker (mem_of_getElem? hworker)
  · exact h.refl

/-- **Every step keeps the invariant.** -/
theorem Inv.next (h : Inv rt s) (a : Action) :
    Steps rt bytes s ((machine rt bytes).next s a) := by
  have hL := h.ledger
  show Steps rt bytes s (s.step rt bytes a).2
  cases a with
  | prepare request values capturedAt w => exact h.prepared request values capturedAt w
  | observe i w =>
    rw [State.step]
    split
    · rename_i reading hreading
      exact h.observed (mem_of_getElem? hreading) i w
    · exact h.refl
  | decide sourceKey action target request w =>
    exact h.commit fun L' hok => (decideOverlap_ok hL.covered hok).keeps hL
  | reconcile request w => exact h.commit fun L' hok => (reconcile_ok hL.covered hok).keeps hL
  | suspend reason resume request w => exact h.commit fun L' hok => (suspend_ok hok).keeps hL
  | consume limit request w => exact h.commit fun L' hok => (consume_ok hL.covered hok).keeps hL
  | quarantine caseId evidenceSha256 reason request w =>
    refine h.commit fun L' hok => ?_
    rcases quarantine_ok hL.covered hok with rfl | hquarantined
    · exact ⟨hL, h.refl.advances⟩
    · exact hquarantined.keeps hL
  | compensate sourceKey reason request w =>
    exact h.commit fun L' hok => (compensate_ok hok).keeps hL
  | qualify request w => exact h.commit fun L' hok => qualify_keeps hok hL
  | arm disarm request w => exact h.commit fun L' hok => arm_keeps hok hL
  | claim limit chunks w => exact h.claimed limit chunks w
  | source i values w => exact h.withWorker i fun worker hworker => h.sourced hworker i values w
  | fail i e => exact h.withWorker i fun worker hworker => h.failed hworker i e
  | chunk i w => exact h.withWorker i fun worker hworker => h.chunked hworker i w
  | finish i => exact h.withWorker i fun worker hworker => h.finished hworker i

/-! ### Runs -/

theorem covered_of_created (h : Created s) : Covered rt s.ledger := by
  have hmanifest := h.manifest
  refine ⟨⟨⟨?_, ?_, ?_, ?_⟩, ?_, ?_, ?_, ?_⟩, ?_⟩ <;> rw [hmanifest]
  · exact nodup_nil
  · exact Nat.zero_le _
  all_goals exact fun _ hmem => by cases hmem

theorem inv_of_created (h : Created s) : Inv rt s where
  ledger := by
    refine ⟨covered_of_created h, fun d hd => ?_, .inr (.inl ?_), fun hstate => ?_,
      leased_of_empty ?_ ?_⟩
    · rw [h.manifest] at hd
      cases hd
    · rw [h.manifest]
    · rw [h.manifest] at hstate
      cases hstate
    · rw [h.manifest]
    · rw [h.manifest]
  readings r hr := by
    rw [h.readings] at hr
    cases hr
  workers worker hworker := by
    rw [h.workers] at hworker
    cases hworker

/-- **What holds along a run**: the invariant, and nothing recorded is taken back. -/
theorem Inv.run (h : Inv rt s) (as : List Action) :
    Inv rt ((machine rt bytes).run s as) ∧ Later s.ledger ((machine rt bytes).run s as).ledger := by
  induction as generalizing s with
  | nil => exact ⟨h, Later.refl _⟩
  | cons a as ih =>
    have hstep : Steps rt bytes s _ := h.next a
    obtain ⟨hinv, hlater⟩ := ih hstep.inv
    exact ⟨hinv, (hstep.advances.moves.later h.ledger.covered).trans hlater⟩

variable (rt bytes) in
theorem inv_run {s₀ : State} (h₀ : Created s₀) (as : List Action) :
    Inv rt ((machine rt bytes).run s₀ as) := ((inv_of_created h₀).run as).1

end CrmYnov.Cutover
