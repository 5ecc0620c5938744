import CrmYnov.Base.Machine
import CrmYnov.SheetImport.Creation

/-!
# The moves of the store

Every transaction on the connectors is a sequence of a few moves (`CrmYnov.SheetImport.Move`),
each of which keeps what the runs and the connectors say of each other
(`CrmYnov.SheetImport.Move.inv`): the active run of a connector is the one that is running, and
a run is executed under the snapshot of its version.
-/

/-!
## The connectors, step by step

Claims, the transactions of the workers that were given a lease, the requests of the
administrators and the creations of cutovers come in any order. A claim is in two steps, and
holds its locks in between; every other transaction is one step, between whose reads and writes
nothing else is written: the check of a lease locks the row of its connector, and the requests of
the administrators are serializable.

A worker is what its claim has given it. It may do any of its transactions at any time, and
what it never comes back to do is a step that is never taken.
-/

namespace CrmYnov.SheetImport

open Checked

/-- The connectors between two transactions. -/
structure State where
  store : Store := {}
  /-- The claims that have read their connector. -/
  pending : List PendingClaim := []
  /-- The workers that were given a lease. -/
  workers : List SheetClaim := []

inductive Action
  | look (connectorId : String) (trigger : Trigger) (eligible : SheetImportConnector → Bool)
      (now : Instant)
  | take (i : ℕ) (runId : String)
  /-- A claim is given up. -/
  | abandon (i : ℕ)
  | renew (i : ℕ) (begins now ends : Instant)
  | defer (i : ℕ) (delayMs : ℤ) (errorCode : String) (begins now ends : Instant)
  | release (i : ℕ)
  | row (i : ℕ) (rowKey : String) (authority : Outcome Unit) (work : Outcome ReceiptOutcome)
      (begins ends : Instant)
  | finish (i : ℕ) (errorCode : Option String) (begins now : Instant)
  | save (id : Option String) (input : SaveInput) (w : Occasion)
  | requestRun (id : String) (expectedVersion : ℕ) (w : Occasion)
  | create (request : CreateRequest) (w : CreateOccasion)

variable (rt : Runtime)

namespace State

variable (s : State)

def locked : List String := s.pending.flatMap (PendingClaim.locks rt)

/-- A transaction leaves another store, or the one there was. -/
def commit (result : Outcome Store) : Outcome Unit × State :=
  match result with
  | .ok S => (.ok (), { s with store := S })
  | .error e => (.error e, s)

def looked (connectorId : String) (trigger : Trigger) (eligible : SheetImportConnector → Bool)
    (now : Instant) : Outcome Unit × State :=
  match look rt s.store (s.locked rt) connectorId trigger eligible now with
  | .ok (some p) => (.ok (), { s with pending := s.pending ++ [p] })
  | .ok none => (.ok (), s)
  | .error e => (.error e, s)

/-- A connector that was read is written. -/
def taken (i : ℕ) (runId : String) : Outcome Unit × State :=
  match s.pending[i]? with
  | none => (.ok (), s)
  | some p =>
    let s := { s with pending := s.pending.eraseIdx i }
    match SheetImport.take s.store p runId with
    | .ok (some claim, S) => (.ok (), { s with store := S, workers := s.workers ++ [claim] })
    | .ok (none, S) => (.ok (), { s with store := S })
    | .error e => (.error e, s)

def withWorker (i : ℕ) (f : SheetLease → Outcome Store) : Outcome Unit × State :=
  match s.workers[i]? with
  | some worker => s.commit (f worker.lease)
  | none => (.ok (), s)

def step (a : Action) : Outcome Unit × State :=
  match a with
  | .look connectorId trigger eligible now => s.looked rt connectorId trigger eligible now
  | .take i runId => s.taken i runId
  | .abandon i => (.ok (), { s with pending := s.pending.eraseIdx i })
  | .renew i begins now ends => s.withWorker i fun lease =>
      (SheetImport.renew s.store lease begins now ends).map Prod.snd
  | .defer i delayMs errorCode begins now ends => s.withWorker i fun lease =>
      (SheetImport.defer s.store lease delayMs errorCode begins now ends).map Prod.snd
  | .release i => s.withWorker i fun lease => .ok (SheetImport.release s.store lease)
  | .row i rowKey authority work begins ends => s.withWorker i fun lease =>
      (rowTransaction s.store lease rowKey authority work begins ends).map Prod.snd
  | .finish i errorCode begins now => s.withWorker i fun lease =>
      SheetImport.finish s.store lease errorCode begins now
  | .save id input w => s.commit (SheetImport.save rt s.store (s.locked rt) id input w)
  | .requestRun id expectedVersion w =>
      s.commit (SheetImport.requestRun rt s.store (s.locked rt) id expectedVersion w)
  | .create request w =>
      s.commit ((SheetImport.create rt s.store (s.locked rt) request w).map Prod.snd)

end State

def machine : Machine State Action (Outcome Unit) := ⟨State.step rt⟩

/-- Where nothing is stored yet. -/
def start : State := {}

end CrmYnov.SheetImport

namespace CrmYnov.SheetImport

open Checked

variable {rt : Runtime} {S S' : Store} {G : String → Prop}

/-! ### The invariant -/

/-- **What connectors and runs say of each other.** -/
structure StoreInv (S : Store) : Prop where
  ids : ∀ k c, S.connectors.get k = some c → c.id = k
  runIds : ∀ r run, S.runs.get r = some run → run.id = r
  /-- The active run of a connector is running. -/
  active : ∀ k c r, S.connectors.get k = some c → c.activeRunId = some r →
    ∃ run, S.runs.get r = some run ∧ run.connectorId = k ∧ run.status = .RUNNING
  /-- What is running is the active run of its connector. -/
  running : ∀ r run, S.runs.get r = some run → run.status = .RUNNING →
    ∃ c, S.connectors.get run.connectorId = some c ∧ c.activeRunId = some r
  /-- A connector is as it was last saved. -/
  current : ∀ k c, S.connectors.get k = some c →
    ∃ v, S.versions.get (k, c.version) = some v ∧ v.snapshot = c.snapshot
  /-- A run has the snapshot of its version. -/
  recorded : ∀ r run, S.runs.get r = some run → ∃ n v, run.configurationVersion = some n ∧
    S.versions.get (run.connectorId, n) = some v ∧ run.configurationSnapshot = some v.snapshot
  /-- A run of the schedule is active where the schedule is on. -/
  scheduled : ∀ k c r run, S.connectors.get k = some c → c.activeRunId = some r →
    S.runs.get r = some run → run.trigger = .MANUAL ∨ c.enabled = true
  /-- The run of a connector that is not enabled is of its version. -/
  manual : ∀ k c r run, S.connectors.get k = some c → c.activeRunId = some r →
    S.runs.get r = some run → c.enabled = true ∨ run.configurationVersion = some c.version

/-! ### Moves -/

/-- A connector is the same, but for its lease, what was asked of it and when it is due. -/
structure Touches (c c' : SheetImportConnector) : Prop where
  same : { c' with
    leaseUntil := c.leaseUntil, manualRequested := c.manualRequested
    nextRunAt := c.nextRunAt } = c
  lease : c'.leaseUntil.isSome → c.leaseUntil.isSome

def Notes (run run' : SheetImportRun) : Prop :=
  { run' with sourceFailures := run.sourceFailures, errorCode := run.errorCode } = run

def GivesUp (S : Store) (c : SheetImportConnector) (runs : Dict String SheetImportRun) : Prop :=
  c.activeRunId = none ∧ runs = S.runs ∨
    ∃ r run code now, c.activeRunId = some r ∧ S.runs.get r = some run ∧
      runs = S.runs.set r (run.cancelled code now)

structure Saves (S : Store) (k : String) (c c' : SheetImportConnector)
    (runs : Dict String SheetImportRun) (v : ConfigurationVersion) : Prop where
  id : c'.id = c.id
  epoch : c'.epoch = c.epoch
  version : c'.version = c.version + 1
  unused : S.versions.get (k, c'.version) = none
  snapshot : v.snapshot = c'.snapshot
  /-- It keeps its run while it is enabled. -/
  runs : c'.enabled = true ∧ c'.activeRunId = c.activeRunId ∧ runs = S.runs ∨
    c'.activeRunId = none ∧ GivesUp S c runs

/-- **What a transaction does to the store**, step by step; it gives away the leases of some
connectors. -/
inductive Move (G : String → Prop) (S : Store) : Store → Prop
  | touch {k : String} {c c' : SheetImportConnector} (hc : S.connectors.get k = some c)
      (htouch : Touches c c') : Move G S { S with connectors := S.connectors.set k c' }
  | note {r : String} {run run' : SheetImportRun} (hrun : S.runs.get r = some run)
      (hrunning : run.status = .RUNNING) (hnote : Notes run run') :
      Move G S { S with runs := S.runs.set r run' }
  /-- The lease of a connector is given away. -/
  | grants {k : String} {c : SheetImportConnector} {now : Instant}
      (hc : S.connectors.get k = some c) (hgiven : G k) :
      Move G S { S with connectors := S.connectors.set k (c.granted now) }
  /-- A run begins. -/
  | begins {k r : String} {c : SheetImportConnector} {runs : Dict String SheetImportRun}
      {trigger : Trigger} {now : Instant} (hc : S.connectors.get k = some c)
      (hnew : runs.get r = none) (hold : GivesUp S c runs)
      (htrigger : trigger = .MANUAL ∨ c.enabled = true) (hgiven : G k) :
      Move G S { S with
        runs := runs.set r (newRun c trigger now r)
        connectors := S.connectors.set k { c with activeRunId := some r } }
  /-- A run comes to its end. -/
  | ends {k r : String} {c : SheetImportConnector} {run : SheetImportRun} {now : Instant}
      {errorCode : Option String} (hc : S.connectors.get k = some c)
      (hactive : c.activeRunId = some r) (hrun : S.runs.get r = some run) :
      Move G S { S with
        runs := S.runs.set r (run.finished errorCode now)
        connectors := S.connectors.set k { c with
          activeRunId := none, leaseUntil := none
          nextRunAt := now + c.intervalMinutes * 60000 } }
  | saves {k : String} {c c' : SheetImportConnector} {runs : Dict String SheetImportRun}
      {v : ConfigurationVersion} (hc : S.connectors.get k = some c) (hsaves : Saves S k c c' runs v) :
      Move G S { S with
        connectors := S.connectors.set k c', runs
        versions := S.versions.set (k, c'.version) v }
  /-- A connector is saved for the first time. -/
  | enrols {k : String} {c : SheetImportConnector} {v : ConfigurationVersion}
      (hnone : S.connectors.get k = none) (hid : c.id = k) (hactive : c.activeRunId = none)
      (hunused : S.versions.get (k, c.version) = none) (hsnap : v.snapshot = c.snapshot) :
      Move G S { S with
        connectors := S.connectors.set k c, versions := S.versions.set (k, c.version) v }
  | received {receipts : Dict (String × String) ReceiptOutcome} : Move G S { S with receipts }
  | binds {b : Binding} {manifests : Table Binding Binding.keys}
      (hcreate : S.manifests.create b = some manifests) : Move G S { S with manifests }

abbrev Moves (G : String → Prop) : Store → Store → Prop := Relation.ReflTransGen (Move G)

/-! ### Every move keeps the invariant -/

theorem Touches.activeRunId {c c' : SheetImportConnector} (h : Touches c c') :
    c'.activeRunId = c.activeRunId := by
  have hactive := congrArg SheetImportConnector.activeRunId h.same
  exact hactive

theorem Touches.version {c c' : SheetImportConnector} (h : Touches c c') :
    c'.version = c.version := by
  have hver := congrArg SheetImportConnector.version h.same
  exact hver

theorem Touches.id {c c' : SheetImportConnector} (h : Touches c c') : c'.id = c.id := by
  have hid := congrArg SheetImportConnector.id h.same
  exact hid

theorem Touches.epoch {c c' : SheetImportConnector} (h : Touches c c') : c'.epoch = c.epoch := by
  have hepoch := congrArg SheetImportConnector.epoch h.same
  exact hepoch

theorem Touches.enabled {c c' : SheetImportConnector} (h : Touches c c') :
    c'.enabled = c.enabled := by
  have henabled := congrArg SheetImportConnector.enabled h.same
  exact henabled

theorem Touches.snapshot {c c' : SheetImportConnector} (h : Touches c c') :
    c'.snapshot = c.snapshot := by
  have hsnap := congrArg SheetImportConnector.snapshot h.same
  exact hsnap

theorem Notes.same {run run' : SheetImportRun} (h : Notes run run') :
    run'.id = run.id ∧ run'.connectorId = run.connectorId ∧ run'.status = run.status ∧
      run'.trigger = run.trigger ∧ run'.configurationVersion = run.configurationVersion ∧
      run'.configurationSnapshot = run.configurationSnapshot := by
  rw [← h]
  exact ⟨rfl, rfl, rfl, rfl, rfl, rfl⟩

variable {r : String}

section Gives

variable {c : SheetImportConnector} {runs : Dict String SheetImportRun}

theorem GivesUp.get (h : GivesUp S c runs) (r : String) :
    runs.get r = S.runs.get r ∧ c.activeRunId ≠ some r ∨
      ∃ run code now, c.activeRunId = some r ∧ S.runs.get r = some run ∧
        runs.get r = some (run.cancelled code now) := by
  rcases h with ⟨hnone, rfl⟩ | ⟨r', run, code, now, hactive, hrun, rfl⟩
  · exact .inl ⟨rfl, by rw [hnone]; exact fun heq => by cases heq⟩
  · rw [Dict.get_set]
    by_cases heq : r = r'
    · subst heq
      rw [if_pos rfl]
      exact .inr ⟨run, code, now, hactive, hrun, rfl⟩
    · rw [if_neg heq]
      refine .inl ⟨rfl, fun hr => heq ?_⟩
      rw [hactive] at hr
      exact (Option.some.inj hr).symm

theorem GivesUp.get_none (h : GivesUp S c runs) (hr : runs.get r = none) :
    S.runs.get r = none ∧ c.activeRunId ≠ some r := by
  rcases h.get r with ⟨heq, hne⟩ | ⟨run, code, now, -, -, hsome⟩
  · exact ⟨by rw [← heq, hr], hne⟩
  · rw [hr] at hsome
    cases hsome

theorem GivesUp.get_some (h : GivesUp S c runs) {run : SheetImportRun} (hr : runs.get r = some run) :
    ∃ old, S.runs.get r = some old ∧ run.id = old.id ∧
      run.connectorId = old.connectorId ∧ run.trigger = old.trigger ∧
      run.configurationVersion = old.configurationVersion ∧
      run.configurationSnapshot = old.configurationSnapshot ∧
      (run = old ∧ c.activeRunId ≠ some r ∨ run.status ≠ .RUNNING ∧ c.activeRunId = some r) := by
  rcases h.get r with ⟨heq, hne⟩ | ⟨old, code, now, hactive, hold, hsome⟩
  · exact ⟨run, by rw [← heq, hr], rfl, rfl, rfl, rfl, rfl, .inl ⟨rfl, hne⟩⟩
  · rw [hr] at hsome
    cases hsome
    exact ⟨old, hold, rfl, rfl, rfl, rfl, rfl, .inr ⟨fun heq => (by cases heq), hactive⟩⟩

end Gives

variable {k : String}

theorem get_of_set {κ ν : Type*} [DecidableEq κ] {d : Dict κ ν} {k k' : κ} {v x : ν}
    (h : (d.set k v).get k' = some x) : k' = k ∧ x = v ∨ k' ≠ k ∧ d.get k' = some x := by
  rw [Dict.get_set] at h
  split at h
  · rename_i heq
    exact .inl ⟨heq, (Option.some.inj h).symm⟩
  · rename_i hne
    exact .inr ⟨hne, h⟩

theorem StoreInv.touch (h : StoreInv S) {c c' : SheetImportConnector}
    (hc : S.connectors.get k = some c) (hid : c'.id = c.id) (hver : c'.version = c.version)
    (hactive : c'.activeRunId = c.activeRunId) (henabled : c'.enabled = c.enabled)
    (hsnap : c'.snapshot = c.snapshot) :
    StoreInv { S with connectors := S.connectors.set k c' } := by
  -- what is read of the connector is what was
  have hget : ∀ k' x, (S.connectors.set k c').get k' = some x → ∃ y, S.connectors.get k' = some y ∧
      x.id = y.id ∧ x.version = y.version ∧ x.activeRunId = y.activeRunId ∧
      x.enabled = y.enabled ∧ x.snapshot = y.snapshot := by
    intro k' x hx
    rcases get_of_set hx with ⟨heq, rfl⟩ | ⟨-, hx⟩
    · exact ⟨c, by rw [heq, hc], hid, hver, hactive, henabled, hsnap⟩
    · exact ⟨x, hx, rfl, rfl, rfl, rfl, rfl⟩
  refine ⟨fun k' x hx => ?_, h.runIds, fun k' x r hx hr => ?_, fun r run hrun hrunning => ?_,
    fun k' x hx => ?_, h.recorded, fun k' x r run hx hr hrun => ?_, fun k' x r run hx hr hrun => ?_⟩
  · obtain ⟨y, hy, heq, -⟩ := hget k' x hx
    rw [heq, h.ids k' y hy]
  · obtain ⟨y, hy, -, -, heq, -⟩ := hget k' x hx
    exact h.active k' y r hy (by rw [← heq, hr])
  · obtain ⟨y, hy, hyr⟩ := h.running r run hrun hrunning
    simp only [Dict.get_set]
    split
    · rename_i heq
      refine ⟨c', rfl, ?_⟩
      rw [heq, hc] at hy
      rw [hactive, Option.some.inj hy, hyr]
    · exact ⟨y, hy, hyr⟩
  · obtain ⟨y, hy, -, hv, -, -, hs⟩ := hget k' x hx
    rw [hv, hs]
    exact h.current k' y hy
  · obtain ⟨y, hy, -, -, heq, he, -⟩ := hget k' x hx
    rw [he]
    exact h.scheduled k' y r run hy (by rw [← heq, hr]) hrun
  · obtain ⟨y, hy, -, hv, heq, he, -⟩ := hget k' x hx
    rw [he, hv]
    exact h.manual k' y r run hy (by rw [← heq, hr]) hrun

theorem StoreInv.note (h : StoreInv S) {run run' : SheetImportRun} (hrun : S.runs.get r = some run)
    (hnote : Notes run run') : StoreInv { S with runs := S.runs.set r run' } := by
  obtain ⟨hid, hconnector, hstatus, htrigger, hver, hsnap⟩ := hnote.same
  have hget : ∀ r' x, (S.runs.set r run').get r' = some x → ∃ y, S.runs.get r' = some y ∧
      x.id = y.id ∧ x.connectorId = y.connectorId ∧ x.status = y.status ∧
      x.trigger = y.trigger ∧ x.configurationVersion = y.configurationVersion ∧
      x.configurationSnapshot = y.configurationSnapshot := by
    intro r' x hx
    rcases get_of_set hx with ⟨heq, rfl⟩ | ⟨-, hx⟩
    · exact ⟨run, by rw [heq, hrun], hid, hconnector, hstatus, htrigger, hver, hsnap⟩
    · exact ⟨x, hx, rfl, rfl, rfl, rfl, rfl, rfl⟩
  refine ⟨h.ids, fun r' x hx => ?_, fun k c r' hc hr => ?_, fun r' x hx hrunning => ?_, h.current,
    fun r' x hx => ?_, fun k c r' x hc hr hx => ?_, fun k c r' x hc hr hx => ?_⟩
  · obtain ⟨y, hy, heq, -⟩ := hget r' x hx
    rw [heq, h.runIds r' y hy]
  · obtain ⟨y, hy, hyc, hys⟩ := h.active k c r' hc hr
    simp only [Dict.get_set]
    split
    · rename_i heq
      rw [heq, hrun] at hy
      cases hy
      exact ⟨run', rfl, by rw [hconnector, hyc], by rw [hstatus, hys]⟩
    · exact ⟨y, hy, hyc, hys⟩
  · obtain ⟨y, hy, -, hyc, hys, -⟩ := hget r' x hx
    rw [hyc]
    exact h.running r' y hy (by rw [← hys, hrunning])
  · obtain ⟨y, hy, -, hyc, -, -, hv, hs⟩ := hget r' x hx
    rw [hv, hyc, hs]
    exact h.recorded r' y hy
  · obtain ⟨y, hy, -, -, -, ht, -⟩ := hget r' x hx
    rw [ht]
    exact h.scheduled k c r' y hc hr hy
  · obtain ⟨y, hy, -, -, -, -, hv, -⟩ := hget r' x hx
    rw [hv]
    exact h.manual k c r' y hc hr hy

theorem StoreInv.active_inj (h : StoreInv S) {k k' r : String} {c c' : SheetImportConnector}
    (hc : S.connectors.get k = some c) (hc' : S.connectors.get k' = some c')
    (hr : c.activeRunId = some r) (hr' : c'.activeRunId = some r) : k = k' := by
  obtain ⟨run, hrun, hk, -⟩ := h.active k c r hc hr
  obtain ⟨run', hrun', hk', -⟩ := h.active k' c' r hc' hr'
  rw [hrun] at hrun'
  rw [← hk, ← hk', Option.some.inj hrun']

theorem StoreInv.version_stays {key key' : String × ℕ} {v v' : ConfigurationVersion}
    (hunused : S.versions.get key = none) (hv' : S.versions.get key' = some v') :
    (S.versions.set key v).get key' = some v' := by
  rw [Dict.get_set, if_neg ?_, hv']
  rintro rfl
  rw [hunused] at hv'
  cases hv'

theorem StoreInv.begins (h : StoreInv S) {c : SheetImportConnector}
    {runs : Dict String SheetImportRun} {trigger : Trigger} {now : Instant}
    (hc : S.connectors.get k = some c) (hnew : runs.get r = none) (hold : GivesUp S c runs)
    (htrigger : trigger = .MANUAL ∨ c.enabled = true) :
    StoreInv { S with
      runs := runs.set r (newRun c trigger now r)
      connectors := S.connectors.set k { c with activeRunId := some r } } := by
  obtain ⟨hnone, hactive⟩ := hold.get_none hnew
  -- the active runs of the other connectors are as they were
  have hothers : ∀ k' x r', k' ≠ k → S.connectors.get k' = some x → x.activeRunId = some r' →
      r' ≠ r ∧ runs.get r' = S.runs.get r' := by
    intro k' x r' hne hx hr'
    refine ⟨?_, ?_⟩
    · rintro rfl
      obtain ⟨run, hrun, -⟩ := h.active k' x _ hx hr'
      rw [hnone] at hrun
      cases hrun
    · rcases hold.get r' with ⟨heq, -⟩ | ⟨_, _, _, hcr, -⟩
      · exact heq
      · exact absurd (h.active_inj hx hc hr' hcr) hne
  constructor
  · intro k' x hx
    rcases get_of_set hx with ⟨heq, rfl⟩ | ⟨-, hx⟩
    · rw [heq]
      exact h.ids k c hc
    · exact h.ids k' x hx
  · intro r' run hrun
    rcases get_of_set hrun with ⟨heq, rfl⟩ | ⟨-, hrun⟩
    · exact heq.symm
    · obtain ⟨old, hget, hid, -⟩ := hold.get_some hrun
      rw [hid]
      exact h.runIds r' old hget
  · intro k' x r' hx hr'
    simp only [Dict.get_set] at hx ⊢
    split at hx
    · rename_i heq
      cases hx
      cases hr'
      rw [if_pos rfl]
      exact ⟨_, rfl, (h.ids k c hc).trans heq.symm, rfl⟩
    · rename_i hne
      obtain ⟨hr, hsame⟩ := hothers k' x r' hne hx hr'
      rw [if_neg hr, hsame]
      exact h.active k' x r' hx hr'
  · intro r' run hrun hrunning
    simp only [Dict.get_set] at hrun ⊢
    split at hrun
    · rename_i heq
      cases hrun
      rw [if_pos (show (newRun c trigger now r).connectorId = k from h.ids k c hc)]
      exact ⟨_, rfl, by rw [heq]⟩
    · obtain ⟨old, hget, -, -, -, -, -, ⟨rfl, hcr⟩ | ⟨hstopped, -⟩⟩ := hold.get_some hrun
      · obtain ⟨x, hx, hxr⟩ := h.running r' run hget hrunning
        rw [if_neg ?_]
        · exact ⟨x, hx, hxr⟩
        · intro heq
          rw [heq, hc] at hx
          exact hcr (by rw [Option.some.inj hx, hxr])
      · exact absurd hrunning hstopped
  · intro k' x hx
    rcases get_of_set hx with ⟨heq, rfl⟩ | ⟨-, hx⟩
    · rw [heq]
      exact h.current k c hc
    · exact h.current k' x hx
  · intro r' run hrun
    rcases get_of_set hrun with ⟨-, rfl⟩ | ⟨-, hrun⟩
    · obtain ⟨v, hv, hsnap⟩ := h.current k c hc
      have hid := h.ids k c hc
      exact ⟨c.version, v, rfl, by rw [← hv, ← hid]; rfl, by rw [hsnap]; rfl⟩
    · obtain ⟨old, hget, -, hk, -, hver, hsnap, -⟩ := hold.get_some hrun
      rw [hk, hver, hsnap]
      exact h.recorded r' old hget
  · intro k' x r' run hx hr' hrun
    rw [Dict.get_set] at hx hrun
    split at hx
    · cases hx
      cases hr'
      rw [if_pos rfl] at hrun
      cases hrun
      exact htrigger
    · rename_i hne
      obtain ⟨hr, hsame⟩ := hothers k' x r' hne hx hr'
      rw [if_neg hr, hsame] at hrun
      exact h.scheduled k' x r' run hx hr' hrun
  · intro k' x r' run hx hr' hrun
    rw [Dict.get_set] at hx hrun
    split at hx
    · cases hx
      cases hr'
      rw [if_pos rfl] at hrun
      cases hrun
      exact .inr rfl
    · rename_i hne
      obtain ⟨hr, hsame⟩ := hothers k' x r' hne hx hr'
      rw [if_neg hr, hsame] at hrun
      exact h.manual k' x r' run hx hr' hrun

theorem StoreInv.without (h : StoreInv S) {c c' : SheetImportConnector}
    {runs : Dict String SheetImportRun} (hc : S.connectors.get k = some c) (hid : c'.id = c.id)
    (hver : c'.version = c.version) (hsnap : c'.snapshot = c.snapshot)
    (hactive : c'.activeRunId = none)
    (hold : ∀ r run, runs.get r = some run → ∃ old, S.runs.get r = some old ∧ run.id = old.id ∧
      run.connectorId = old.connectorId ∧ run.trigger = old.trigger ∧
      run.configurationVersion = old.configurationVersion ∧
      run.configurationSnapshot = old.configurationSnapshot ∧
      (run = old ∧ c.activeRunId ≠ some r ∨ run.status ≠ .RUNNING ∧ c.activeRunId = some r))
    (hkeeps : ∀ r, c.activeRunId ≠ some r → runs.get r = S.runs.get r) :
    StoreInv { S with runs, connectors := S.connectors.set k c' } := by
  have hothers : ∀ k' x r', k' ≠ k → S.connectors.get k' = some x → x.activeRunId = some r' →
      runs.get r' = S.runs.get r' := by
    intro k' x r' hne hx hr'
    exact hkeeps r' fun hcr => hne (h.active_inj hx hc hr' hcr)
  constructor
  · intro k' x hx
    rcases get_of_set hx with ⟨heq, rfl⟩ | ⟨-, hx⟩
    · rw [heq, hid]
      exact h.ids k c hc
    · exact h.ids k' x hx
  · intro r run hrun
    obtain ⟨old, hget, heq, -⟩ := hold r run hrun
    rw [heq]
    exact h.runIds r old hget
  · intro k' x r hx hr
    rcases get_of_set hx with ⟨-, rfl⟩ | ⟨hne, hx⟩
    · rw [hactive] at hr
      cases hr
    · simp only [hothers k' x r hne hx hr]
      exact h.active k' x r hx hr
  · intro r run hrun hrunning
    obtain ⟨old, hget, -, hk, -, -, -, ⟨rfl, hcr⟩ | ⟨hstopped, -⟩⟩ := hold r run hrun
    · obtain ⟨x, hx, hxr⟩ := h.running r run hget hrunning
      simp only [Dict.get_set]
      rw [if_neg ?_]
      · exact ⟨x, hx, hxr⟩
      · intro heq
        rw [heq, hc] at hx
        exact hcr (by rw [Option.some.inj hx, hxr])
    · exact absurd hrunning hstopped
  · intro k' x hx
    rcases get_of_set hx with ⟨heq, rfl⟩ | ⟨-, hx⟩
    · rw [heq, hver, hsnap]
      exact h.current k c hc
    · exact h.current k' x hx
  · intro r run hrun
    obtain ⟨old, hget, -, hk, -, hv, hs, -⟩ := hold r run hrun
    rw [hk, hv, hs]
    exact h.recorded r old hget
  · intro k' x r run hx hr hrun
    rcases get_of_set hx with ⟨-, rfl⟩ | ⟨hne, hx⟩
    · rw [hactive] at hr
      cases hr
    · simp only [hothers k' x r hne hx hr] at hrun
      exact h.scheduled k' x r run hx hr hrun
  · intro k' x r run hx hr hrun
    rcases get_of_set hx with ⟨-, rfl⟩ | ⟨hne, hx⟩
    · rw [hactive] at hr
      cases hr
    · simp only [hothers k' x r hne hx hr] at hrun
      exact h.manual k' x r run hx hr hrun

theorem StoreInv.of_get (h : StoreInv S) (hconnectors : ∀ k, S'.connectors.get k = S.connectors.get k)
    (hruns : ∀ r, S'.runs.get r = S.runs.get r)
    (hversions : ∀ key, S'.versions.get key = S.versions.get key) : StoreInv S' := by
  constructor <;> simp only [hconnectors, hruns, hversions]
  · exact h.ids
  · exact h.runIds
  · exact h.active
  · exact h.running
  · exact h.current
  · exact h.recorded
  · exact h.scheduled
  · exact h.manual

theorem StoreInv.save (h : StoreInv S) {c c' : SheetImportConnector} {v : ConfigurationVersion}
    (hc : S.connectors.get k = some c) (hid : c'.id = c.id)
    (hunused : S.versions.get (k, c'.version) = none) (hsnap : v.snapshot = c'.snapshot)
    (hactive : c'.activeRunId = c.activeRunId)
    (henabled : c'.enabled = true ∨ c'.activeRunId = none) :
    StoreInv { S with
      connectors := S.connectors.set k c', versions := S.versions.set (k, c'.version) v } := by
  constructor
  · intro k' x hx
    rcases get_of_set hx with ⟨rfl, rfl⟩ | ⟨-, hx⟩
    · rw [hid]
      exact h.ids _ c hc
    · exact h.ids k' x hx
  · exact h.runIds
  · intro k' x r hx hr
    rcases get_of_set hx with ⟨rfl, rfl⟩ | ⟨-, hx⟩
    · exact h.active _ c r hc (by rw [← hactive, hr])
    · exact h.active k' x r hx hr
  · intro r run hrun hrunning
    obtain ⟨x, hx, hxr⟩ := h.running r run hrun hrunning
    simp only [Dict.get_set]
    split
    · rename_i heq
      rw [heq, hc] at hx
      exact ⟨c', rfl, by rw [hactive, Option.some.inj hx, hxr]⟩
    · exact ⟨x, hx, hxr⟩
  · intro k' x hx
    rcases get_of_set hx with ⟨rfl, rfl⟩ | ⟨-, hx⟩
    · exact ⟨v, by rw [Dict.get_set_self], hsnap⟩
    · obtain ⟨v', hv', hs⟩ := h.current k' x hx
      exact ⟨v', version_stays hunused hv', hs⟩
  · intro r run hrun
    obtain ⟨n, v', hn, hv', hs⟩ := h.recorded r run hrun
    exact ⟨n, v', hn, version_stays hunused hv', hs⟩
  · intro k' x r run hx hr hrun
    rcases get_of_set hx with ⟨rfl, rfl⟩ | ⟨-, hx⟩
    · rcases henabled with henabled | hnone
      · exact .inr henabled
      · rw [hnone] at hr
        cases hr
    · exact h.scheduled k' x r run hx hr hrun
  · intro k' x r run hx hr hrun
    rcases get_of_set hx with ⟨rfl, rfl⟩ | ⟨-, hx⟩
    · rcases henabled with henabled | hnone
      · exact .inl henabled
      · rw [hnone] at hr
        cases hr
    · exact h.manual k' x r run hx hr hrun

theorem StoreInv.enrol (h : StoreInv S) {c : SheetImportConnector} {v : ConfigurationVersion}
    (hnone : S.connectors.get k = none) (hid : c.id = k) (hactive : c.activeRunId = none)
    (hunused : S.versions.get (k, c.version) = none) (hsnap : v.snapshot = c.snapshot) :
    StoreInv { S with
      connectors := S.connectors.set k c, versions := S.versions.set (k, c.version) v } := by
  constructor
  · intro k' x hx
    rcases get_of_set hx with ⟨rfl, rfl⟩ | ⟨-, hx⟩
    · exact hid
    · exact h.ids k' x hx
  · exact h.runIds
  · intro k' x r hx hr
    rcases get_of_set hx with ⟨rfl, rfl⟩ | ⟨-, hx⟩
    · rw [hactive] at hr
      cases hr
    · exact h.active k' x r hx hr
  · intro r run hrun hrunning
    obtain ⟨x, hx, hxr⟩ := h.running r run hrun hrunning
    simp only [Dict.get_set]
    rw [if_neg ?_]
    · exact ⟨x, hx, hxr⟩
    · intro heq
      rw [heq, hnone] at hx
      cases hx
  · intro k' x hx
    rcases get_of_set hx with ⟨rfl, rfl⟩ | ⟨-, hx⟩
    · exact ⟨v, by rw [Dict.get_set_self], hsnap⟩
    · obtain ⟨v', hv', hs⟩ := h.current k' x hx
      exact ⟨v', version_stays hunused hv', hs⟩
  · intro r run hrun
    obtain ⟨n, v', hn, hv', hs⟩ := h.recorded r run hrun
    exact ⟨n, v', hn, version_stays hunused hv', hs⟩
  · intro k' x r run hx hr hrun
    rcases get_of_set hx with ⟨rfl, rfl⟩ | ⟨-, hx⟩
    · rw [hactive] at hr
      cases hr
    · exact h.scheduled k' x r run hx hr hrun
  · intro k' x r run hx hr hrun
    rcases get_of_set hx with ⟨rfl, rfl⟩ | ⟨-, hx⟩
    · rw [hactive] at hr
      cases hr
    · exact h.manual k' x r run hx hr hrun

/-- **Every move keeps the invariant.** -/
theorem Move.inv (hmove : Move G S S') (h : StoreInv S) : StoreInv S' := by
  cases hmove with
  | touch hc htouch =>
    exact h.touch hc htouch.id htouch.version htouch.activeRunId htouch.enabled htouch.snapshot
  | note hrun _ hnote => exact h.note hrun hnote
  | grants hc _ => exact h.touch hc rfl rfl rfl rfl rfl
  | begins hc hnew hold htrigger _ => exact h.begins hc hnew hold htrigger
  | @ends k r c run now errorCode hc hactive hrun =>
    refine h.without hc rfl rfl rfl rfl (fun r' run' hget => ?_) fun r' hne => ?_
    · rcases get_of_set hget with ⟨heq, rfl⟩ | ⟨hne, hget⟩
      · refine ⟨run, by rw [heq, hrun], rfl, rfl, rfl, rfl, rfl, .inr ⟨?_, by rw [heq, hactive]⟩⟩
        simp only [SheetImportRun.finished]
        split
        · exact fun heq => by cases heq
        · exact fun heq => by cases heq
      · refine ⟨run', hget, rfl, rfl, rfl, rfl, rfl, .inl ⟨rfl, fun hr => hne ?_⟩⟩
        rw [hactive] at hr
        exact (Option.some.inj hr).symm
    · rw [Dict.get_set, if_neg]
      rintro rfl
      exact hne hactive
  | @saves k c c' runs v hc hsaves =>
    rcases hsaves.runs with ⟨henabled, hactive, rfl⟩ | ⟨hactive, hold⟩
    · exact h.save hc hsaves.id hsaves.unused hsaves.snapshot hactive (.inl henabled)
    · -- the run is given up, and the connector is saved without it
      have hwithout : StoreInv { S with
          runs, connectors := S.connectors.set k { c with activeRunId := none } } :=
        h.without hc rfl rfl rfl rfl (fun r run hget => hold.get_some hget) fun r hne =>
          (hold.get r).elim And.left fun ⟨_, _, _, hr, _⟩ => absurd hr hne
      have hsaved := hwithout.save (Dict.get_set_self _ _ _) hsaves.id hsaves.unused
        hsaves.snapshot hactive (.inr hactive)
      refine hsaved.of_get (fun k' => ?_) (fun _ => rfl) fun _ => rfl
      simp only [Dict.get_set]
      split
      · rfl
      · rfl
  | enrols hnone hid hactive hunused hsnap => exact h.enrol hnone hid hactive hunused hsnap
  | received => exact ⟨h.ids, h.runIds, h.active, h.running, h.current, h.recorded, h.scheduled, h.manual⟩
  | binds => exact ⟨h.ids, h.runIds, h.active, h.running, h.current, h.recorded, h.scheduled, h.manual⟩

theorem Moves.inv (hmoves : Moves G S S') (h : StoreInv S) : StoreInv S' := by
  induction hmoves with
  | refl => exact h
  | tail _ hmove ih => exact hmove.inv ih

/-! ### What is stored stays -/

/-- **What is stored stays**: epochs and versions only grow, a run keeps what it was begun with,
and one that is over is left as it is. -/
structure Later (S S' : Store) : Prop where
  connectors : ∀ k c, S.connectors.get k = some c →
    ∃ c', S'.connectors.get k = some c' ∧ c.epoch ≤ c'.epoch ∧ c.version ≤ c'.version
  runs : ∀ r run, S.runs.get r = some run → ∃ run', S'.runs.get r = some run' ∧
    run'.connectorId = run.connectorId ∧ run'.trigger = run.trigger ∧
    run'.configurationVersion = run.configurationVersion ∧
    run'.configurationSnapshot = run.configurationSnapshot ∧
    (run.status ≠ .RUNNING → run' = run)
  versions : ∀ key v, S.versions.get key = some v → S'.versions.get key = some v
  manifests : ∀ b ∈ S.manifests.rows, b ∈ S'.manifests.rows

theorem Later.refl (S : Store) : Later S S :=
  ⟨fun _ c h => ⟨c, h, le_rfl, le_rfl⟩, fun _ run h => ⟨run, h, rfl, rfl, rfl, rfl, fun _ => rfl⟩,
    fun _ _ h => h, fun _ h => h⟩

theorem Later.trans {S₁ S₂ S₃ : Store} (h : Later S₁ S₂) (h' : Later S₂ S₃) : Later S₁ S₃ where
  connectors k c hc := by
    obtain ⟨c₂, hc₂, he, hv⟩ := h.connectors k c hc
    obtain ⟨c₃, hc₃, he', hv'⟩ := h'.connectors k c₂ hc₂
    exact ⟨c₃, hc₃, he.trans he', hv.trans hv'⟩
  runs r run hrun := by
    obtain ⟨run₂, h₂, hc, ht, hv, hs, hover⟩ := h.runs r run hrun
    obtain ⟨run₃, h₃, hc', ht', hv', hs', hover'⟩ := h'.runs r run₂ h₂
    refine ⟨run₃, h₃, hc'.trans hc, ht'.trans ht, hv'.trans hv, hs'.trans hs, fun hne => ?_⟩
    rw [← hover hne]
    exact hover' (by rwa [hover hne])
  versions key v hv := h'.versions key v (h.versions key v hv)
  manifests b hb := h'.manifests b (h.manifests b hb)

theorem connectors_set {c c' : SheetImportConnector} (hc : S.connectors.get k = some c)
    (hepoch : c.epoch ≤ c'.epoch) (hver : c.version ≤ c'.version) :
    ∀ k' x, S.connectors.get k' = some x →
      ∃ x', (S.connectors.set k c').get k' = some x' ∧ x.epoch ≤ x'.epoch ∧
        x.version ≤ x'.version := by
  intro k' x hx
  rw [Dict.get_set]
  split
  · rename_i heq
    rw [heq, hc] at hx
    cases hx
    exact ⟨c', rfl, hepoch, hver⟩
  · exact ⟨x, hx, le_rfl, le_rfl⟩

theorem GivesUp.keeps (h : StoreInv S) {c : SheetImportConnector}
    {runs : Dict String SheetImportRun} (hold : GivesUp S c runs) (hc : S.connectors.get k = some c) :
    ∀ r run, S.runs.get r = some run →
      ∃ run', runs.get r = some run' ∧ run'.connectorId = run.connectorId ∧
        run'.trigger = run.trigger ∧ run'.configurationVersion = run.configurationVersion ∧
        run'.configurationSnapshot = run.configurationSnapshot ∧
        (run.status ≠ .RUNNING → run' = run) := by
  intro r run hrun
  rcases hold.get r with ⟨heq, -⟩ | ⟨old, code, now, hactive, hget, hsome⟩
  · exact ⟨run, by rw [heq, hrun], rfl, rfl, rfl, rfl, fun _ => rfl⟩
  · rw [hrun] at hget
    cases hget
    obtain ⟨run', hrun', -, hrunning⟩ := h.active k c r hc hactive
    rw [hrun] at hrun'
    cases hrun'
    exact ⟨_, hsome, rfl, rfl, rfl, rfl, fun hne => absurd hrunning hne⟩

/-- **No move takes anything back.** -/
theorem Move.later (hmove : Move G S S') (h : StoreInv S) : Later S S' := by
  have hrefl := Later.refl S
  cases hmove with
  | touch hc htouch =>
    exact ⟨connectors_set hc htouch.epoch.ge htouch.version.ge, hrefl.runs, hrefl.versions,
      hrefl.manifests⟩
  | @note r run run' hrun hrunning hnote =>
    refine ⟨hrefl.connectors, fun r' x hx => ?_, hrefl.versions, hrefl.manifests⟩
    simp only [Dict.get_set]
    split
    · rename_i heq
      rw [heq, hrun] at hx
      cases hx
      obtain ⟨-, hk, -, ht, hv, hs⟩ := hnote.same
      exact ⟨run', rfl, hk, ht, hv, hs, fun hne => absurd hrunning hne⟩
    · exact hrefl.runs r' x hx
  | @grants k c now hc hgiven =>
    exact ⟨connectors_set hc (Nat.le_succ c.epoch) le_rfl, hrefl.runs, hrefl.versions,
      hrefl.manifests⟩
  | @begins k r c runs trigger now hc hnew hold htrigger hgiven =>
    refine ⟨connectors_set hc le_rfl le_rfl, fun r' x hx => ?_, hrefl.versions, hrefl.manifests⟩
    simp only [Dict.get_set]
    rw [if_neg ?_]
    · exact hold.keeps h hc r' x hx
    · rintro rfl
      rw [(hold.get_none hnew).1] at hx
      cases hx
  | @ends k r c run now errorCode hc hactive hrun =>
    refine ⟨connectors_set hc le_rfl le_rfl, fun r' x hx => ?_, hrefl.versions, hrefl.manifests⟩
    simp only [Dict.get_set]
    split
    · rename_i heq
      rw [heq, hrun] at hx
      cases hx
      obtain ⟨run', hrun', -, hrunning⟩ := h.active k c r hc hactive
      rw [hrun] at hrun'
      cases hrun'
      exact ⟨_, rfl, rfl, rfl, rfl, rfl, fun hne => absurd hrunning hne⟩
    · exact hrefl.runs r' x hx
  | @saves k c c' runs v hc hsaves =>
    refine ⟨connectors_set hc hsaves.epoch.ge (by rw [hsaves.version]; exact Nat.le_succ _), ?_,
      fun key v hv => StoreInv.version_stays hsaves.unused hv, hrefl.manifests⟩
    rcases hsaves.runs with ⟨-, -, rfl⟩ | ⟨-, hold⟩
    · exact hrefl.runs
    · exact hold.keeps h hc
  | @enrols k c v hnone hid hactive hunused hsnap =>
    refine ⟨fun k' x hx => ?_, hrefl.runs, fun key v hv => StoreInv.version_stays hunused hv,
      hrefl.manifests⟩
    simp only [Dict.get_set]
    rw [if_neg ?_]
    · exact ⟨x, hx, le_rfl, le_rfl⟩
    · rintro rfl
      rw [hnone] at hx
      cases hx
  | received => exact ⟨hrefl.connectors, hrefl.runs, hrefl.versions, hrefl.manifests⟩
  | binds hcreate =>
    exact ⟨hrefl.connectors, hrefl.runs, hrefl.versions,
      fun b hb => (Table.mem_create hcreate).mpr (.inl hb)⟩

theorem Moves.later (hmoves : Moves G S S') (h : StoreInv S) : Later S S' := by
  induction hmoves with
  | refl => exact Later.refl S
  | tail hmoves hmove ih => exact ih.trans (hmove.later (Moves.inv hmoves h))

/-! ### Who may write -/

/-- A lease of the connector could be good: it has not been taken back, and the active run is of
the version there is. -/
structure Live (S : Store) (k : String) (c : SheetImportConnector) (r : String) : Prop where
  connector : S.connectors.get k = some c
  lease : c.leaseUntil.isSome
  active : c.activeRunId = some r
  version : ∃ run, S.runs.get r = some run ∧ run.configurationVersion = some c.version

structure SameLease (c c' : SheetImportConnector) : Prop where
  epoch : c'.epoch = c.epoch
  version : c'.version = c.version
  snapshot : c'.snapshot = c.snapshot

theorem Live.of_same (hlater : Later S S') (h : StoreInv S) {c c' : SheetImportConnector}
    (hlive : Live S' k c' r) (hc : S.connectors.get k = some c)
    (hlease : c'.leaseUntil.isSome → c.leaseUntil.isSome) (hactive : c'.activeRunId = c.activeRunId)
    (hver : c'.version = c.version) : Live S k c r := by
  have hr : c.activeRunId = some r := by rw [← hactive, hlive.active]
  obtain ⟨run, hrun, -⟩ := h.active k c r hc hr
  obtain ⟨run', hrun', -, -, hv, -⟩ := hlater.runs r run hrun
  obtain ⟨run'', hrun'', hv'⟩ := hlive.version
  rw [hrun'] at hrun''
  cases hrun''
  exact ⟨hc, hlease hlive.lease, hr, run, hrun, by rw [← hv, hv', hver]⟩

/-- **Leases come from claims**: no other move makes a lease good that was not. -/
theorem Move.live (hmove : Move G S S') (h : StoreInv S) {c' : SheetImportConnector}
    (hlive : Live S' k c' r) : G k ∨ ∃ c, Live S k c r ∧ SameLease c c' := by
  have hlater := hmove.later h
  have hsame : S.connectors.get k = some c' → ∃ c, Live S k c r ∧ SameLease c c' := fun hc =>
    ⟨c', hlive.of_same hlater h hc id rfl rfl, rfl, rfl, rfl⟩
  cases hmove with
  | touch hc htouch =>
    rcases get_of_set hlive.connector with ⟨rfl, rfl⟩ | ⟨-, hc'⟩
    · exact .inr ⟨_, hlive.of_same hlater h hc htouch.lease htouch.activeRunId htouch.version,
        htouch.epoch, htouch.version, htouch.snapshot⟩
    · exact .inr (hsame hc')
  | note => exact .inr (hsame hlive.connector)
  | grants hc hgiven =>
    rcases get_of_set hlive.connector with ⟨rfl, -⟩ | ⟨-, hc'⟩
    · exact .inl hgiven
    · exact .inr (hsame hc')
  | begins hc hnew hold htrigger hgiven =>
    rcases get_of_set hlive.connector with ⟨rfl, -⟩ | ⟨-, hc'⟩
    · exact .inl hgiven
    · exact .inr (hsame hc')
  | ends hc hactive hrun =>
    rcases get_of_set hlive.connector with ⟨-, rfl⟩ | ⟨-, hc'⟩
    · have hnone := hlive.active
      cases hnone
    · exact .inr (hsame hc')
  | @saves k' c₀ c₁ runs v hc hsaves =>
    rcases get_of_set hlive.connector with ⟨rfl, rfl⟩ | ⟨-, hc'⟩
    · rcases hsaves.runs with ⟨-, hactive, rfl⟩ | ⟨hnone, -⟩
      · -- the run it keeps is of a version that was there
        obtain ⟨run, hrun, hv⟩ := hlive.version
        obtain ⟨n, v', hn, hv', -⟩ := h.recorded r run hrun
        obtain ⟨run', hrun', hk, -⟩ := h.active _ c₀ r hc (by rw [← hactive, hlive.active])
        rw [hrun] at hrun'
        cases hrun'
        rw [hv] at hn
        rw [hk, ← Option.some.inj hn, hsaves.unused] at hv'
        cases hv'
      · rw [hlive.active] at hnone
        cases hnone
    · exact .inr (hsame hc')
  | enrols hnone hid hactive hunused hsnap =>
    rcases get_of_set hlive.connector with ⟨-, rfl⟩ | ⟨-, hc'⟩
    · rw [hlive.active] at hactive
      cases hactive
    · exact .inr (hsame hc')
  | received => exact .inr (hsame hlive.connector)
  | binds => exact .inr (hsame hlive.connector)

theorem Moves.live (hmoves : Moves G S S') (h : StoreInv S) {c' : SheetImportConnector}
    (hlive : Live S' k c' r) : G k ∨ ∃ c, Live S k c r ∧ SameLease c c' := by
  induction hmoves generalizing c' with
  | refl => exact .inr ⟨c', hlive, rfl, rfl, rfl⟩
  | tail hmoves hmove ih =>
    rcases hmove.live (Moves.inv hmoves h) hlive with hgiven | ⟨c, hc, hsame⟩
    · exact .inl hgiven
    · rcases ih hc with hgiven | ⟨c₀, hc₀, hsame₀⟩
      · exact .inl hgiven
      · exact .inr ⟨c₀, hc₀, hsame.epoch.trans hsame₀.epoch, hsame.version.trans hsame₀.version,
          hsame.snapshot.trans hsame₀.snapshot⟩

end CrmYnov.SheetImport
