import CrmYnov.SheetImport.Fencing

/-!
# A cutover and the runs of its stream

A manifest binds a stream, which the runs of the connectors are to leave alone from then on. The
creation of a manifest asks that its own connector is stopped, and no claim gives a lease of a
stream that is bound; but a run of another connector of the same stream may hold its lease by
then, and writes on. The manifest excludes the runs of its stream exactly when none of them
holds a lease as it is created (`CrmYnov.SheetImport.exclusion_iff`).
-/

namespace CrmYnov.SheetImport

open Checked Cutover List Option

variable {rt : Runtime} {S S' : Store} {s s' : State} {m : StoredCutover}

/-- A manifest is bound to a connector, or to the stream of a snapshot. -/
def Binds (rt : Runtime) (m : StoredCutover) (k : String) (snapshot : Snapshot) : Prop :=
  m.connectorId = k ∨ ∃ stream ∈ snapshot.stream, m.contract.streamKey = some (streamKey rt stream)

/-- A worker executes a run of what a manifest is bound to. -/
def Over (rt : Runtime) (m : StoredCutover) (worker : SheetClaim) : Prop :=
  ∃ snapshot ∈ worker.run.configurationSnapshot, Binds rt m worker.lease.connectorId snapshot

/-- **Excluded**: whatever comes next, no row of what a manifest is bound to is written. -/
def Excluded (rt : Runtime) (s : State) (m : StoredCutover) : Prop :=
  ∀ bs i worker rowKey authority work begins ends,
    ((machine rt).run s bs).workers[i]? = some worker → Over rt m worker →
      Refused ((machine rt).answer ((machine rt).run s bs)
        (.row i rowKey authority work begins ends))

def Unheld (rt : Runtime) (S : Store) (stream : String × ℕ) : Prop :=
  ∀ k c r, Live S k c r → c.snapshot.stream.map (streamKey rt) ≠ some (streamKey rt stream)

/-! ### What is bound is left alone -/

/-- No claim and no lease is of what a manifest is bound to. -/
structure Free (rt : Runtime) (s : State) (m : StoredCutover) : Prop where
  bound : ∃ b ∈ s.store.manifests.rows, b.manifest = m
  pending : ∀ p ∈ s.pending, ¬Binds rt m p.candidate.id p.candidate.snapshot
  live : ∀ k c r, Live s.store k c r → ¬Binds rt m k c.snapshot

theorem bound_of_binds {b : Binding} (hb : b ∈ S.manifests.rows) {k : String}
    {snapshot : Snapshot} (hbinds : Binds rt b.manifest k snapshot) :
    S.Bound k (snapshot.stream.map (streamKey rt)) := by
  refine ⟨b, hb, hbinds.imp id ?_⟩
  rintro ⟨stream, hstream, hkey⟩
  exact ⟨_, by rw [mem_def.mp hstream]; rfl, hkey⟩

/-- **Every change leaves alone what is bound.** -/
theorem Change.free (hchange : Change rt s s') (h : Inv s) (hfree : Free rt s m) :
    Free rt s' m := by
  obtain ⟨-, hlater⟩ := hchange.steps h
  obtain ⟨b, hb, hm⟩ := hfree.bound
  have hbound : ∃ b ∈ s'.store.manifests.rows, b.manifest = m := ⟨b, hlater.manifests b hb, hm⟩
  cases hchange with
  | quiet hmoves =>
    refine ⟨hbound, hfree.pending, fun k c' r hlive => ?_⟩
    obtain ⟨c, hc, hsame⟩ := (hmoves.live h.store hlive).resolve_left id
    rw [hsame.snapshot]
    exact hfree.live k c r hc
  | @looked connectorId p hcandidate hnot =>
    refine ⟨hbound, fun q hq => ?_, hfree.live⟩
    rcases mem_append.mp hq with hq | hq
    · exact hfree.pending q hq
    · rw [mem_singleton.mp hq, h.store.ids _ _ hcandidate]
      exact fun hbinds => hnot (bound_of_binds hb (by rwa [hm]))
  | forgotten i =>
    exact ⟨hbound, fun p hp => hfree.pending p (mem_of_mem_eraseIdx hp), hfree.live⟩
  | @claimed S' i p c claim hp htaken =>
    refine ⟨hbound, fun q hq => hfree.pending q (mem_of_mem_eraseIdx hq),
      fun k c' r hlive => ?_⟩
    rcases htaken.moves.live h.store hlive with rfl | ⟨c₀, hc₀, hsame⟩
    · -- the connector is as the claim has read it
      have hc' := hlive.connector
      rw [htaken.left] at hc'
      cases hc'
      obtain ⟨v, hv, hread⟩ := h.pending p hp
      obtain ⟨v', hv', hcur⟩ := h.store.current _ c htaken.connector
      rw [htaken.claimable.1, hv] at hv'
      cases hv'
      have hsnap : c.snapshot = p.candidate.snapshot := by rw [← hcur, hread]
      exact fun hbinds => hfree.pending p hp (by rwa [← hsnap])
    · rw [hsame.snapshot]
      exact hfree.live k c₀ r hc₀

/-- **What is bound stays left alone.** -/
theorem Free.run (h : Inv s) (hfree : Free rt s m) (bs : List Action) :
    Inv ((machine rt).run s bs) ∧ Free rt ((machine rt).run s bs) m := by
  induction bs generalizing s with
  | nil => exact ⟨h, hfree⟩
  | cons a bs ih =>
    have hchange : Change rt s ((machine rt).next s a) := change_next h.store a
    exact ih (hchange.steps h).inv (hchange.free h hfree)

theorem Free.excluded (h : Inv s) (hfree : Free rt s m) : Excluded rt s m := by
  intro bs i worker rowKey authority work begins ends hworker hover
  obtain ⟨hinv, hfree'⟩ := hfree.run h bs
  refine refused_iff.mpr fun ⟨⟩ hok => ?_
  obtain ⟨run, c, hfenced, -⟩ := row_ok hworker hok
  obtain ⟨hsnap, hlive⟩ := hfenced.snapshot hinv.store
    (hinv.workers worker (mem_of_getElem? hworker))
  obtain ⟨snapshot, hmem, hbinds⟩ := hover
  rw [hsnap] at hmem
  cases hmem
  exact hfree'.live _ c _ hlive hbinds

/-! ### What a lease that is held can do -/

variable (rt) in
/-- **A lease that is held writes.** -/
theorem writes_of_live (h : Inv s) {k r : String} {c : SheetImportConnector}
    (hlive : Live s.store k c r) (rowKey : String) :
    ∃ i worker clock, s.workers[i]? = some worker ∧ worker.lease.connectorId = k ∧
      worker.run.configurationSnapshot = some c.snapshot ∧
      (machine rt).answer s (.row i rowKey (.ok ()) (.ok .CREATED) clock clock) = .ok () := by
  obtain ⟨worker, hworker, hlease⟩ := h.granted k c r hlive
  obtain ⟨i, hi, hget⟩ := getElem_of_mem hworker
  have hsome : s.workers[i]? = some worker := List.getElem?_eq_some_iff.mpr ⟨hi, hget⟩
  obtain ⟨limit, hlimit⟩ := isSome_iff_exists.mp hlive.lease
  obtain ⟨run, hrun, hk, hrunning⟩ := h.store.active k c r hlive.connector hlive.active
  have hfenced : Fenced s.store worker.lease (limit - 1) run c := by
    rw [hlease]
    exact ⟨hrun, hrunning, hlive.connector, h.store.scheduled k c r run hlive.connector
      hlive.active hrun, rfl, rfl, hlive.active, limit, hlimit, Int.sub_one_lt_of_le le_rfl⟩
  refine ⟨i, worker, limit - 1, hsome, by rw [hlease],
    (hfenced.snapshot h.store (h.workers worker hworker)).1, ?_⟩
  obtain ⟨S', hrow⟩ := rowTransaction_of_fenced hfenced rowKey .CREATED
  show (s.withWorker i fun lease => (rowTransaction s.store lease rowKey (.ok ()) (.ok .CREATED)
    (limit - 1) (limit - 1)).map Prod.snd).1 = .ok ()
  rw [State.withWorker, hsome]
  simp only [hrow, Except.map, State.commit]

/-! ### Creations -/

theorem pending_unbound {p : PendingClaim} (hp : p ∈ s.pending)
    (hconnector : m.connectorId ∉ s.locked rt)
    (hstream : ∀ key ∈ m.contract.streamKey, key ∉ s.locked rt) :
    ¬Binds rt m p.candidate.id p.candidate.snapshot := by
  rintro (heq | ⟨stream, hmem, hkey⟩)
  · refine hconnector (mem_flatMap.mpr ⟨p, hp, ?_⟩)
    rw [heq]
    exact mem_cons_self
  · refine hstream _ hkey (mem_flatMap.mpr ⟨p, hp, mem_cons_of_mem _ ?_⟩)
    rw [mem_def.mp hmem]
    exact mem_singleton_self _

/-- **A manifest excludes the runs of its stream exactly when none of them holds a lease** as it
is created, in every run of the connectors. -/
theorem exclusion_iff (as : List Action) {request : CreateRequest} {w : CreateOccasion}
    (hcreate : create rt ((machine rt).run start as).store (((machine rt).run start as).locked rt)
      request w = .ok (some m, S')) :
    Excluded rt { (machine rt).run start as with store := S' } m ↔
      ∀ connector ∈ ((machine rt).run start as).store.connectors.get request.connectorId,
        Unheld rt ((machine rt).run start as).store (connector.workbookId, request.sourceSheetId) := by
  have hinv := inv_run rt as
  generalize (machine rt).run start as = s at hinv hcreate ⊢
  have hquiet : Change rt s { s with store := S' } := .quiet (create_moves hcreate)
  obtain ⟨hinv', -⟩ := hquiet.steps hinv
  rcases create_ok rt hcreate with ⟨hnone, -⟩ | ⟨manifest, connector, manifests, hsome, rfl,
    hbinding, hconnectorId, hconnector, ⟨-, hstopped, -⟩, hkey, hlock, hlockStream, -⟩
  · cases hnone
  cases hsome
  -- the store is as it was, but for the manifest
  have hlive : ∀ k c r, Live { s.store with manifests } k c r ↔ Live s.store k c r := fun k c r =>
    ⟨fun h => ⟨h.connector, h.lease, h.active, h.version⟩,
      fun h => ⟨h.connector, h.lease, h.active, h.version⟩⟩
  constructor
  · intro hexcluded x hx k c r hc hstream
    rw [hconnector] at hx
    cases hx
    obtain ⟨i, worker, clock, hworker, hk, hsnap, hok⟩ :=
      writes_of_live rt hinv' ((hlive k c r).mpr hc) ""
    obtain ⟨stream, hmem, heq⟩ := map_eq_some_iff.mp hstream
    have hover : Over rt m worker := ⟨_, hsnap, .inr ⟨stream, hmem, by rw [hkey, heq]⟩⟩
    obtain ⟨e, he⟩ := hexcluded [] i worker "" (.ok ()) (.ok .CREATED) clock clock hworker hover
    rw [Machine.run_nil, hok] at he
    cases he
  · intro hunheld
    refine Free.excluded hinv' ⟨⟨_, (Table.mem_create hbinding).mpr (.inr rfl), rfl⟩,
      fun p hp => ?_, fun k c r hc => ?_⟩
    · refine pending_unbound hp (by rwa [hconnectorId]) fun key hmem => ?_
      rw [hkey] at hmem
      rwa [← some.inj hmem]
    · rw [hlive] at hc
      rintro (heq | ⟨stream, hmem, hstream⟩)
      · -- its own connector has no active run
        rw [hconnectorId] at heq
        rw [← heq] at hc
        have hget := hc.connector
        rw [hconnector] at hget
        cases hget
        have hactive := hc.active
        rw [hstopped] at hactive
        cases hactive
      · refine hunheld connector hconnector k c r hc ?_
        rw [mem_def.mp hmem, map_some, ← hstream, hkey]

namespace Sample

def t0 : Instant := 1788220800000

/-- A runtime that reads the text of `t0`. -/
def runtime : Runtime := { Runtime.plain with
  parseDate := fun text => if text = "2026-09-01T00:00:00.000Z" then some t0 else none }

def configuration : SheetConfiguration where
  source := some ⟨.GOOGLE, .EXTERNAL_ID, some 7, some "A1:B9"⟩
  columns := [⟨"I", .DIRECT, some "externalId"⟩]
  document := .null

def occasion (newId : String) : Occasion where
  now := t0
  actorId := "ada"
  authorize := .ok ()
  qualified := .ok ()
  newId

def saving (newId tab : String) (enabled : Bool) : Action :=
  .save none ⟨0, enabled, none, "w", tab, "rabat", configuration⟩ (occasion newId)

/-- The sheet is read under its old tab, and a worker has the lease; it was saved under its new
tab too. -/
def opening : List Action :=
  [saving "old" "Form" true, saving "new" "Leads" false,
    .look "old" .SCHEDULED (fun _ => true) t0, .take 0 "run"]

/-- A request to bind the connector of the new tab. -/
def request : CreateRequest where
  bootstrapPackageId := "package"
  connectorId := "new"
  key := "create"
  fingerprint := "create"
  t0 := some "2026-09-01T00:00:00.000Z"
  excelFrozenAt := some "2026-09-01T00:00:00.000Z"
  originalArrivalColumn := some "D"
  identityEvidenceSha256 := some "aaaaaaaaaaaaaaaaaaaaaaaaaaaaaaaaaaaaaaaaaaaaaaaaaaaaaaaaaaaaaaaa"
  sourceSheetId := 7

def creation : CreateOccasion where
  now := t0
  actorId := "ada"
  newId := "manifest"
  timeZone := .ok "Africa/Casablanca"
  package := some ⟨"rabat", "excel", true⟩
  authorize := .ok ()
  binding := .ok ()

/-- The stream is bound while the worker has its lease. -/
def bound : List Action := opening ++ [.create request creation]

def writing : Action := .row 0 "row" (.ok ()) (.ok .CREATED) (t0 + 1000) (t0 + 1000)

end Sample

open SheetImport.Sample

/-- **A run of a stream that is bound writes a row**: its connector was recreated under another
tab, and the worker of the old one has its lease still. -/
theorem row_written_after_binding :
    let s := (machine runtime).run start bound
    s.store.manifests.rows.map (fun b => b.manifest.contract.streamKey) =
        [some (streamKey runtime ("w", 7))] ∧
      s.workers.map (fun worker => worker.run.configurationSnapshot.bind Snapshot.stream) =
        [some ("w", 7)] ∧
      (machine runtime).answer s writing = .ok () ∧
      ((machine runtime).next s writing).store.receipts.get ("run", "row") =
        some .CREATED := by
  decide +kernel

theorem accepted_creation : ((create runtime ((machine runtime).run start opening).store
    (((machine runtime).run start opening).locked runtime) request
    creation).toOption.bind Prod.fst).isSome = true := by
  decide +kernel

/-- What the creation of the sample excludes depends on the lease of the old tab. -/
theorem exclusion_iff_opening : ∃ m S', Excluded runtime
        { (machine runtime).run start opening with store := S' } m ↔
      ∀ connector ∈ ((machine runtime).run start opening).store.connectors.get "new",
        Unheld runtime ((machine runtime).run start opening).store (connector.workbookId, 7) := by
  have hacc := accepted_creation
  cases hcreate : create runtime ((machine runtime).run start opening).store
      (((machine runtime).run start opening).locked runtime) request
      creation with
  | error e =>
    rw [hcreate] at hacc
    cases hacc
  | ok result =>
    obtain ⟨created, S'⟩ := result
    cases created with
    | none =>
      rw [hcreate] at hacc
      cases hacc
    | some m => exact ⟨m, S', exclusion_iff opening hcreate⟩

end CrmYnov.SheetImport
