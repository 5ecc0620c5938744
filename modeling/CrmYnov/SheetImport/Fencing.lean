import CrmYnov.SheetImport.Transactions

/-!
# Leases fence what is written

Along every run of the connectors a lease that is good was given to one worker, which executes
the configuration of its version (`CrmYnov.SheetImport.Inv`). A row is written under a good lease
only, whatever was claimed, saved or stopped in the meantime, and a run that is over stays over
(`CrmYnov.SheetImport.runs_fenced`).
-/

namespace CrmYnov.SheetImport

open Checked List Option

variable {rt : Runtime} {S S' : Store} {s : State}

/-! ### The invariant -/

structure Holds (S : Store) (worker : SheetClaim) : Prop where
  run : ∃ run, S.runs.get worker.lease.runId = some run ∧
    run.connectorId = worker.lease.connectorId ∧
    run.configurationVersion = some worker.lease.version ∧
    run.configurationSnapshot = worker.run.configurationSnapshot
  version : worker.run.configurationVersion = some worker.lease.version
  epoch : ∃ c, S.connectors.get worker.lease.connectorId = some c ∧ worker.lease.epoch ≤ c.epoch

def Read (S : Store) (p : PendingClaim) : Prop :=
  ∃ v, S.versions.get (p.candidate.id, p.candidate.version) = some v ∧
    v.snapshot = p.candidate.snapshot

/-- **What holds between two transactions.** -/
structure Inv (s : State) : Prop where
  store : StoreInv s.store
  pending : ∀ p ∈ s.pending, Read s.store p
  workers : ∀ worker ∈ s.workers, Holds s.store worker
  /-- Workers are told apart by their epochs. -/
  apart : (s.workers.map fun worker => (worker.lease.connectorId, worker.lease.epoch)).Nodup
  /-- A lease that is good was given to a worker. -/
  granted : ∀ k c r, Live s.store k c r →
    ∃ worker ∈ s.workers, worker.lease = ⟨k, r, c.epoch, c.version⟩

variable {worker : SheetClaim}

theorem Holds.later (h : Holds S worker) (hlater : Later S S') : Holds S' worker := by
  obtain ⟨run, hrun, hk, hv, hs⟩ := h.run
  obtain ⟨c, hc, hle⟩ := h.epoch
  obtain ⟨run', hrun', hk', -, hv', hs', -⟩ := hlater.runs _ run hrun
  obtain ⟨c', hc', hle', -⟩ := hlater.connectors _ c hc
  exact ⟨⟨run', hrun', hk'.trans hk, hv'.trans hv, hs'.trans hs⟩, h.version, c', hc', hle.trans hle'⟩

theorem Read.later {p : PendingClaim} (h : Read S p) (hlater : Later S S') : Read S' p := by
  obtain ⟨v, hv, hs⟩ := h
  exact ⟨v, hlater.versions _ v hv, hs⟩

theorem Holds.snapshot (h : Holds S worker) (hS : StoreInv S) :
    ∃ v, S.versions.get (worker.lease.connectorId, worker.lease.version) = some v ∧
      worker.run.configurationSnapshot = some v.snapshot := by
  obtain ⟨run, hrun, hk, hver, hsnap⟩ := h.run
  obtain ⟨n, v, hn, hv, hs⟩ := hS.recorded _ run hrun
  rw [hver] at hn
  rw [hk, ← some.inj hn] at hv
  exact ⟨v, hv, by rw [← hsnap, hs]⟩

/-! ### Steps -/

/-- **What a step does**: nothing, or a claim looks, gives up or gives its lease to a worker, or
a transaction gives no lease away. -/
inductive Change (rt : Runtime) (s : State) : State → Prop
  | quiet {S' : Store} (hmoves : Moves Keeps s.store S') : Change rt s { s with store := S' }
  | looked {connectorId : String} {p : PendingClaim}
      (hcandidate : s.store.connectors.get connectorId = some p.candidate)
      (hfree : ¬s.store.Bound connectorId (p.candidate.snapshot.stream.map (streamKey rt))) :
      Change rt s { s with pending := s.pending ++ [p] }
  | forgotten (i : ℕ) : Change rt s { s with pending := s.pending.eraseIdx i }
  | claimed {S' : Store} {i : ℕ} {p : PendingClaim} {c : SheetImportConnector}
      {claim : SheetClaim} (hp : p ∈ s.pending) (htaken : Taken s.store S' p c claim) :
      Change rt s {
        store := S', pending := s.pending.eraseIdx i, workers := s.workers ++ [claim] }

theorem Change.refl (s : State) : Change rt s s := .quiet .refl

theorem change_commit {result : Outcome Store}
    (hresult : ∀ S', result = .ok S' → Moves Keeps s.store S') : Change rt s (s.commit result).2 := by
  cases result with
  | error e => exact Change.refl s
  | ok S' => exact .quiet (hresult S' rfl)

theorem change_looked (s : State) (connectorId : String) (trigger : Trigger)
    (eligible : SheetImportConnector → Bool) (now : Instant) :
    Change rt s (s.looked rt connectorId trigger eligible now).2 := by
  rw [State.looked]
  split
  · rename_i p hlook
    obtain ⟨hcandidate, hfree⟩ := look_ok hlook
    exact .looked hcandidate hfree
  · exact Change.refl s
  · exact Change.refl s

theorem change_taken (h : StoreInv s.store) (i : ℕ) (runId : String) :
    Change rt s (s.taken i runId).2 := by
  rw [State.taken]
  split
  · exact Change.refl s
  · rename_i p hp
    simp only
    split
    · rename_i claim S' htake
      rcases take_ok h htake with ⟨hnone, -⟩ | ⟨c, x, hsome, htaken⟩
      · cases hnone
      · cases hsome
        exact .claimed (mem_of_getElem? hp) htaken
    · rename_i S' htake
      rcases take_ok h htake with ⟨-, rfl⟩ | ⟨c, x, hsome, -⟩
      · exact .forgotten i
      · cases hsome
    · exact .forgotten i

theorem change_withWorker (s : State) (i : ℕ) {f : SheetLease → Outcome Store}
    (hf : ∀ lease S', f lease = .ok S' → Moves Keeps s.store S') :
    Change rt s (s.withWorker i f).2 := by
  rw [State.withWorker]
  split
  · exact change_commit (hf _)
  · exact Change.refl s

theorem change_next (h : StoreInv s.store) (a : Action) : Change rt s ((machine rt).next s a) := by
  show Change rt s (s.step rt a).2
  cases a with
  | look connectorId trigger eligible now => exact change_looked s connectorId trigger eligible now
  | take i runId => exact change_taken h i runId
  | abandon i => exact .forgotten i
  | renew i begins now ends =>
    exact change_withWorker s i fun lease S' hok => renew_ok (map_snd_ok.mp hok)
  | defer i delayMs errorCode begins now ends =>
    exact change_withWorker s i fun lease S' hok => defer_ok (map_snd_ok.mp hok)
  | release i =>
    refine change_withWorker s i fun lease S' hok => ?_
    rw [← Except.ok.inj hok]
    exact release_moves s.store lease
  | row i rowKey authority work begins ends =>
    refine change_withWorker s i fun lease S' hok => ?_
    obtain ⟨run, c, receipts, rfl, -⟩ := rowTransaction_ok (map_snd_ok.mp hok)
    exact .single .received
  | finish i errorCode begins now =>
    exact change_withWorker s i fun lease S' hok => finish_ok hok
  | save id input w => exact change_commit fun S' hok => save_ok h hok
  | requestRun id expectedVersion w => exact change_commit fun S' hok => requestRun_ok hok
  | create request w =>
    refine change_commit fun S' hok => ?_
    obtain ⟨result, hcreate, rfl⟩ := map_ok_iff.mp hok
    exact create_moves hcreate

structure Steps (s s' : State) : Prop where
  inv : Inv s'
  later : Later s.store s'.store

/-- **A claim gives its lease to a new worker.** -/
theorem Inv.claimed (h : Inv s) {p : PendingClaim} {c : SheetImportConnector} {claim : SheetClaim}
    (htaken : Taken s.store S' p c claim) :
    Steps s { s with store := S', workers := s.workers ++ [claim] } := by
  have hlater := htaken.moves.later h.store
  have hlease := htaken.lease
  have hold : ∀ worker ∈ s.workers, worker.lease.connectorId = p.candidate.id →
      worker.lease.epoch ≤ c.epoch := by
    intro worker hworker hk
    obtain ⟨c', hc', hle⟩ := (h.workers worker hworker).epoch
    rw [hk, htaken.connector] at hc'
    rwa [some.inj hc']
  refine ⟨⟨htaken.moves.inv h.store, fun q hq => (h.pending q hq).later hlater,
    fun worker hworker => ?_, ?_, fun k c' r hlive => ?_⟩, hlater⟩
  · rcases mem_append.mp hworker with hworker | hworker
    · exact (h.workers worker hworker).later hlater
    · rw [mem_singleton.mp hworker]
      constructor
      · exact ⟨claim.run, by rw [hlease, htaken.stored], by rw [hlease, htaken.connectorId],
          by rw [hlease, htaken.version], rfl⟩
      · rw [hlease, htaken.version]
      · rw [hlease]
        exact ⟨_, htaken.left, le_rfl⟩
  · rw [map_append, nodup_append]
    refine ⟨h.apart, nodup_singleton _, fun a ha b hb => ?_⟩
    obtain ⟨worker, hworker, rfl⟩ := mem_map.mp ha
    rw [map_singleton, mem_singleton] at hb
    rw [hb, hlease]
    rintro heq
    obtain ⟨hk, hepoch⟩ := Prod.mk.inj heq
    have hle := hold worker hworker hk
    simp only at hepoch
    omega
  · rcases htaken.moves.live h.store hlive with rfl | ⟨c₀, hc₀, hsame⟩
    · -- what is good now is what was given away
      refine ⟨claim, mem_append_right _ (mem_singleton_self _), ?_⟩
      have hc' := hlive.connector
      rw [htaken.left] at hc'
      cases hc'
      have hr : some claim.run.id = some r := hlive.active
      rw [hlease, ← some.inj hr]
      rfl
    · obtain ⟨worker, hworker, hlease'⟩ := h.granted k c₀ r hc₀
      exact ⟨worker, mem_append_left _ hworker,
        by rw [hlease', hsame.epoch, hsame.version]⟩

/-- **Every change keeps the invariant.** -/
theorem Change.steps {s' : State} (hchange : Change rt s s') (h : Inv s) : Steps s s' := by
  have herase : ∀ i, Inv { s with pending := s.pending.eraseIdx i } := fun i =>
    ⟨h.store, fun p hp => h.pending p (mem_of_mem_eraseIdx hp), h.workers, h.apart, h.granted⟩
  cases hchange with
  | quiet hmoves =>
    have hlater := hmoves.later h.store
    refine ⟨⟨hmoves.inv h.store, fun p hp => (h.pending p hp).later hlater,
      fun worker hw => (h.workers worker hw).later hlater, h.apart, fun k c' r hlive => ?_⟩, hlater⟩
    obtain ⟨c, hc, hsame⟩ := (hmoves.live h.store hlive).resolve_left id
    obtain ⟨worker, hworker, hlease⟩ := h.granted k c r hc
    exact ⟨worker, hworker, by rw [hlease, hsame.epoch, hsame.version]⟩
  | @looked connectorId p hcandidate hfree =>
    have hid := h.store.ids _ _ hcandidate
    refine ⟨⟨h.store, fun q hq => ?_, h.workers, h.apart, h.granted⟩, Later.refl _⟩
    rcases mem_append.mp hq with hq | hq
    · exact h.pending q hq
    · rw [mem_singleton.mp hq, Read, hid]
      exact h.store.current _ _ hcandidate
  | forgotten i => exact ⟨herase i, Later.refl _⟩
  | @claimed S' i p c claim hp htaken =>
    obtain ⟨hinv, hlater⟩ := (herase i).claimed htaken
    exact ⟨hinv, hlater⟩

/-- **Every step keeps the invariant.** -/
theorem Inv.next (h : Inv s) (a : Action) : Steps s ((machine rt).next s a) :=
  (change_next h.store a).steps h

theorem inv_start : Inv start where
  store := by
    constructor <;> intros <;> contradiction
  pending p hp := by cases hp
  workers worker hw := by cases hw
  apart := nodup_nil
  granted k c r hlive := by
    have hnone := hlive.connector
    cases hnone

/-- **What holds along a run**: the invariant, and nothing that is stored is taken back. -/
theorem Inv.run (h : Inv s) (as : List Action) :
    Inv ((machine rt).run s as) ∧ Later s.store ((machine rt).run s as).store := by
  induction as generalizing s with
  | nil => exact ⟨h, Later.refl _⟩
  | cons a as ih =>
    have hstep : Steps s ((machine rt).next s a) := h.next a
    obtain ⟨hinv, hlater⟩ := ih hstep.inv
    exact ⟨hinv, hstep.later.trans hlater⟩

theorem run_later (h : Inv s) (as : List Action) : Later s.store ((machine rt).run s as).store :=
  (h.run as).2

variable (rt) in
theorem inv_run (as : List Action) : Inv ((machine rt).run start as) := (inv_start.run as).1

/-! ### What is written -/

theorem row_ok {i : ℕ} {rowKey : String} {authority : Outcome Unit} {work : Outcome ReceiptOutcome}
    {begins ends : Instant} (hworker : s.workers[i]? = some worker)
    (hok : (machine rt).answer s (.row i rowKey authority work begins ends) = .ok ()) :
    ∃ run c, Fenced s.store worker.lease begins run c ∧ Fenced s.store worker.lease ends run c := by
  have hans : (s.withWorker i fun lease =>
      (rowTransaction s.store lease rowKey authority work begins ends).map Prod.snd).1 = .ok () := hok
  rw [State.withWorker, hworker] at hans
  simp only [State.commit] at hans
  split at hans
  · rename_i S' hrow
    obtain ⟨run, c, receipts, -, hbegins, hends⟩ := rowTransaction_ok (map_snd_ok.mp hrow)
    exact ⟨run, c, hbegins, hends⟩
  · cases hans

theorem Fenced.snapshot (h : StoreInv S) (hholds : Holds S worker) {clock : Instant}
    {run : SheetImportRun} {c : SheetImportConnector} (hfenced : Fenced S worker.lease clock run c) :
    worker.run.configurationSnapshot = some c.snapshot ∧
      Live S worker.lease.connectorId c worker.lease.runId := by
  obtain ⟨v, hv, hsnap⟩ := hholds.snapshot h
  obtain ⟨v', hv', hcur⟩ := h.current _ c hfenced.connector
  rw [hfenced.version, hv] at hv'
  cases hv'
  obtain ⟨limit, hlimit, -⟩ := hfenced.unexpired
  obtain ⟨run', hrun', -, hver, -⟩ := hholds.run
  refine ⟨by rw [hsnap, hcur], hfenced.connector, ?_, hfenced.active, run', hrun', ?_⟩
  · rw [mem_def.mp hlimit]
    rfl
  · rw [hver, hfenced.version]

/-- **Leases fence what is written**, in every run of the connectors. A row is written at the
epoch, at the version and in the active run of its connector, under a lease that has not expired
and the configuration of its version, by a single worker; what runs is the active run of its
connector, and what is over stays as it is. -/
theorem runs_fenced (as : List Action) :
    let s := (machine rt).run start as
    (∀ i worker rowKey authority work begins ends, s.workers[i]? = some worker →
      (machine rt).answer s (.row i rowKey authority work begins ends) = .ok () →
        ∃ run c, Fenced s.store worker.lease begins run c ∧
          Fenced s.store worker.lease ends run c ∧
          worker.run.configurationSnapshot = some c.snapshot) ∧
    (∀ (i j : ℕ) (worker worker' : SheetClaim) (clock clock' : Instant) (run run' : SheetImportRun)
      (c c' : SheetImportConnector), s.workers[i]? = some worker → s.workers[j]? = some worker' →
        worker.lease.connectorId = worker'.lease.connectorId →
          Fenced s.store worker.lease clock run c → Fenced s.store worker'.lease clock' run' c' →
            i = j) ∧
    (∀ r run, s.store.runs.get r = some run → run.status = .RUNNING →
      (∃ c, s.store.connectors.get run.connectorId = some c ∧ c.activeRunId = some r) ∧
      ∀ r' run', s.store.runs.get r' = some run' → run'.status = .RUNNING →
        run'.connectorId = run.connectorId → r' = r) ∧
    (∀ bs r run, s.store.runs.get r = some run → run.status ≠ .RUNNING →
      ((machine rt).run s bs).store.runs.get r = some run) ∧
    ∀ worker ∈ s.workers, worker.run.configurationVersion = some worker.lease.version ∧
      ∃ v, s.store.versions.get (worker.lease.connectorId, worker.lease.version) = some v ∧
        worker.run.configurationSnapshot = some v.snapshot := by
  intro s
  have hinv := inv_run rt as
  have hworkers : ∀ i worker, s.workers[i]? = some worker → Holds s.store worker :=
    fun i worker hw => hinv.workers worker (List.mem_of_getElem? hw)
  refine ⟨fun i worker rowKey authority work begins ends hw hok => ?_,
    fun i j worker worker' clock clock' run run' c c' hw hw' hk hf hf' => ?_,
    fun r run hrun hrunning => ⟨hinv.store.running r run hrun hrunning, fun r' run' hrun' hr' hk => ?_⟩,
    fun bs r run hrun hover => ?_, fun worker hw => ?_⟩
  · obtain ⟨run, c, hbegins, hends⟩ := row_ok hw hok
    exact ⟨run, c, hbegins, hends, (hbegins.snapshot hinv.store (hworkers i worker hw)).1⟩
  · -- both leases are at the epoch of the connector
    obtain rfl : c = c' := by
      have hc := hf.connector
      rw [hk, hf'.connector] at hc
      exact (Option.some.inj hc).symm
    obtain ⟨hi, heqi⟩ := List.getElem?_eq_some_iff.mp hw
    obtain ⟨hj, heqj⟩ := List.getElem?_eq_some_iff.mp hw'
    have hepoch : worker.lease.epoch = worker'.lease.epoch := by rw [← hf.epoch, ← hf'.epoch]
    have hmap := hinv.apart
    rw [List.nodup_iff_injective_get] at hmap
    have hfin : (⟨i, by rwa [List.length_map]⟩ : Fin (s.workers.map fun worker =>
        (worker.lease.connectorId, worker.lease.epoch)).length) = ⟨j, by rwa [List.length_map]⟩ := by
      refine hmap ?_
      simp only [List.get_eq_getElem, List.getElem_map]
      rw [heqi, heqj, hk, hepoch]
    exact congrArg Fin.val hfin
  · obtain ⟨c, hc, hr⟩ := hinv.store.running r run hrun hrunning
    obtain ⟨c', hc', hr'⟩ := hinv.store.running r' run' hrun' hr'
    rw [hk, hc] at hc'
    rw [← Option.some.inj hc', hr] at hr'
    exact (Option.some.inj hr').symm
  · obtain ⟨run', hrun', -, -, -, -, hsame⟩ := (run_later hinv bs).runs r run hrun
    rw [hrun', hsame hover]
  · have hholds := hinv.workers worker hw
    exact ⟨hholds.version, hholds.snapshot hinv.store⟩

end CrmYnov.SheetImport
