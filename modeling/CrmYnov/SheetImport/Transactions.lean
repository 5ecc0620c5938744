import CrmYnov.SheetImport.Moves

/-!
# What each transaction does

The transactions of the workers are let through by a good lease and move the store without
giving a lease away (`CrmYnov.SheetImport.transaction_ok`). A claim gives away the lease of its
own connector, and leaves it in the run that it answers with (`CrmYnov.SheetImport.take_ok`).
-/

namespace CrmYnov.SheetImport

open Checked Dict Option

variable {rt : Runtime} {S S' : Store} {G : String → Prop} {lease : SheetLease}

abbrev Keeps : String → Prop := fun _ => False

theorem updateConnector_ok {id : String} {f : SheetImportConnector → SheetImportConnector} :
    S.updateConnector id f = .ok S' ↔ ∃ c, S.connectors.get id = some c ∧
      S' = { S with connectors := S.connectors.set id (f c) } := by
  simp only [Store.updateConnector, ok_iff]
  exact exists_congr fun _ => and_congr_right fun _ => eq_comm

theorem updateRun_ok {id : String} {f : SheetImportRun → SheetImportRun} :
    S.updateRun id f = .ok S' ↔ ∃ run, S.runs.get id = some run ∧
      S' = { S with runs := S.runs.set id (f run) } := by
  simp only [Store.updateRun, ok_iff]
  exact exists_congr fun _ => and_congr_right fun _ => eq_comm

/-! ### Workers -/

variable {begins ends : Instant}

/-- **What a worker writes is between two checks of its lease.** -/
theorem transaction_ok {α : Type} {action : Store → Outcome (α × Store)} {a : α}
    (h : transaction S lease begins ends action = .ok (a, S')) :
    (∃ run c, Fenced S lease begins run c) ∧ action S = .ok (a, S') ∧
      ∃ run c, Fenced S' lease ends run c := by
  simp only [transaction, ok_iff, fence_ok] at h
  obtain ⟨⟨⟩, hbegins, result, hact, ⟨⟩, hends, rfl⟩ := h
  exact ⟨hbegins, hact, hends⟩

theorem map_snd_ok {x : Outcome (Unit × Store)} : x.map Prod.snd = .ok S' ↔ x = .ok ((), S') := by
  cases x with
  | error e =>
    constructor
    · intro h
      cases h
    · intro h
      cases h
  | ok result =>
    obtain ⟨⟨⟩, S₁⟩ := result
    constructor
    · intro h
      cases h
      rfl
    · intro h
      cases h
      rfl

variable {now : Instant}

theorem renew_ok (h : renew S lease begins now ends = .ok ((), S')) : Moves Keeps S S' := by
  obtain ⟨⟨run, c, hfenced⟩, hact, -⟩ := transaction_ok h
  simp only [ok_iff, updateConnector_ok] at hact
  obtain ⟨S₁, ⟨c', hc', rfl⟩, -, rfl⟩ := hact
  rw [hfenced.connector] at hc'
  cases hc'
  obtain ⟨limit, hlimit, -⟩ := hfenced.unexpired
  exact .single (.touch hfenced.connector ⟨rfl, fun _ => by rw [mem_def.mp hlimit]; rfl⟩)

theorem defer_ok {delayMs : ℤ} {errorCode : String}
    (h : defer S lease delayMs errorCode begins now ends = .ok ((), S')) : Moves Keeps S S' := by
  simp only [defer, bind_ok_iff] at h
  obtain ⟨⟨⟩, -, h⟩ := h
  obtain ⟨⟨run, c, hfenced⟩, hact, -⟩ := transaction_ok h
  simp only [ok_iff, updateConnector_ok, updateRun_ok] at hact
  obtain ⟨S₁, ⟨run', hrun', rfl⟩, S₂, ⟨c', hc', rfl⟩, -, rfl⟩ := hact
  rw [hfenced.found] at hrun'
  cases hrun'
  have hnote : Move Keeps S { S with runs := S.runs.set lease.runId { run with
      sourceFailures := run.sourceFailures + 1, errorCode := some errorCode } } :=
    .note hfenced.found hfenced.running rfl
  exact (Relation.ReflTransGen.single hnote).tail (.touch hc' ⟨rfl, id⟩)

theorem release_moves (S : Store) (lease : SheetLease) : Moves Keeps S (release S lease) := by
  rw [release]
  split
  · exact .refl
  · rename_i c hc
    split
    · exact .single (.touch hc ⟨rfl, fun hsome => by cases hsome⟩)
    · exact .refl

theorem processRow_ok {runId rowKey : String} {work : Outcome ReceiptOutcome}
    (h : processRow S runId rowKey work = .ok ((), S')) :
    ∃ receipts, S' = { S with receipts } := by
  rw [processRow] at h
  split at h
  · cases h
    exact ⟨S.receipts, rfl⟩
  · simp only [ok_iff] at h
    obtain ⟨outcome, -, -, rfl⟩ := h
    exact ⟨_, rfl⟩

/-- **What a row is written under.** -/
theorem rowTransaction_ok {rowKey : String} {authority : Outcome Unit}
    {work : Outcome ReceiptOutcome}
    (h : rowTransaction S lease rowKey authority work begins ends = .ok ((), S')) :
    ∃ run c receipts, S' = { S with receipts } ∧ Fenced S lease begins run c ∧
      Fenced S lease ends run c := by
  obtain ⟨⟨run, c, hfenced⟩, hact, run', c', hfenced'⟩ := transaction_ok h
  simp only [bind_ok_iff] at hact
  obtain ⟨⟨⟩, -, hact⟩ := hact
  obtain ⟨receipts, rfl⟩ := processRow_ok hact
  obtain rfl : run' = run := mem_unique hfenced'.found hfenced.found
  obtain rfl : c' = c := mem_unique hfenced'.connector hfenced.connector
  exact ⟨run', c', receipts, rfl, hfenced, ⟨hfenced'.found, hfenced'.running, hfenced'.connector,
    hfenced'.enabled, hfenced'.epoch, hfenced'.version, hfenced'.active, hfenced'.unexpired⟩⟩

variable {run : SheetImportRun} {c : SheetImportConnector}

theorem rowTransaction_of_fenced {clock : Instant} (h : Fenced S lease clock run c)
    (rowKey : String) (outcome : ReceiptOutcome) :
    ∃ S', rowTransaction S lease rowKey (.ok ()) (.ok outcome) clock clock = .ok ((), S') := by
  have hfence : ∀ receipts, fence { S with receipts } lease clock = .ok () := fun receipts =>
    fence_ok.mpr ⟨run, c, h.found, h.running, h.connector, h.enabled, h.epoch, h.version, h.active,
      h.unexpired⟩
  have hwork : ∃ receipts, processRow S lease.runId rowKey (.ok outcome) =
      .ok ((), { S with receipts }) := by
    rw [processRow]
    split
    · exact ⟨S.receipts, rfl⟩
    · exact ⟨_, rfl⟩
  obtain ⟨receipts, hwork⟩ := hwork
  refine ⟨{ S with receipts }, ?_⟩
  have hbegins : fence S lease clock = .ok () := hfence S.receipts
  simp only [rowTransaction, transaction, hbegins, hwork, hfence, ok_bind]
  rfl

theorem finish_ok {errorCode : Option String} (h : finish S lease errorCode begins now = .ok S') :
    Moves Keeps S S' := by
  simp only [finish, ok_iff, fence_ok, updateConnector_ok, updateRun_ok] at h
  obtain ⟨⟨⟩, -, ⟨⟩, ⟨run, c, hfenced⟩, S₁, ⟨run', hrun', rfl⟩, c', hc', rfl⟩ := h
  rw [hfenced.connector] at hc'
  cases hc'
  exact .single (.ends hfenced.connector hfenced.active hrun')

/-! ### Claims -/

variable {locked : List String}

variable {trigger : Trigger}

theorem look_ok {connectorId : String} {eligible : SheetImportConnector → Bool}
    {p : PendingClaim} (h : look rt S locked connectorId trigger eligible now = .ok (some p)) :
    S.connectors.get connectorId = some p.candidate ∧
      ¬S.Bound connectorId (p.candidate.snapshot.stream.map (streamKey rt)) := by
  rw [look] at h
  split at h
  · cases h
  · rename_i candidate hcandidate
    split at h
    · simp only [ok_iff, cutoverConnectorBound] at h
      obtain ⟨bound, ⟨⟨⟩, -, hbound⟩, h⟩ := h
      split at h
      · cases h
      · rename_i hfree
        cases h
        refine ⟨hcandidate, fun hb => hfree ?_⟩
        rw [← hbound]
        exact decide_eq_true hb
    · cases h

theorem startRun_moves {k runId : String} {runs : Dict String SheetImportRun}
    (hid : c.id = k) (hc : S.connectors.get k = some c) (hold : GivesUp S c runs)
    (htrigger : trigger = .MANUAL ∨ c.enabled = true) (hgiven : G k)
    (h : startRun { S with runs } c trigger now runId = .ok (run, S')) :
    run = newRun c trigger now runId ∧
      S' = { S with
        runs := runs.set runId run
        connectors := S.connectors.set k { c with activeRunId := some runId } } ∧
      Moves G S S' := by
  simp only [startRun, ok_iff, updateConnector_ok] at h
  obtain ⟨⟨⟩, hnew, S₁, ⟨c', hc', rfl⟩, rfl, rfl⟩ := h
  subst hid
  rw [hc] at hc'
  cases hc'
  refine ⟨rfl, rfl, ?_⟩
  exact .single (.begins hc (isNone_iff_eq_none.mp hnew) hold htrigger hgiven)

/-- What a connector executes once its lease is given away. -/
structure Executes (S S' : Store) (k : String) (c : SheetImportConnector) (run : SheetImportRun) :
    Prop where
  connector : S'.connectors.get k = some { c with activeRunId := some run.id }
  stored : S'.runs.get run.id = some run
  connectorId : run.connectorId = k
  version : run.configurationVersion = some c.version
  running : run.status = .RUNNING
  manifests : S'.manifests = S.manifests

/-- **A run goes on under its own version**, or a new one is begun. -/
theorem execution_ok (h : StoreInv S) {k runId : String}
    (hc : S.connectors.get k = some c)
    (htrigger : trigger = .MANUAL ∨ c.enabled = true ∨ c.activeRunId.isSome) (hgiven : G k)
    (hok : execution S c trigger now runId = .ok (run, S')) :
    Moves G S S' ∧ Executes S S' k c run := by
  have hid := h.ids k c hc
  rw [execution.eq_def] at hok
  cases hactive : c.activeRunId with
  | none =>
    rw [hactive] at hok htrigger
    obtain ⟨rfl, rfl, hmoves⟩ := startRun_moves hid hc (.inl ⟨hactive, rfl⟩)
      (htrigger.imp id fun h => h.resolve_right (by simp)) hgiven hok
    exact ⟨hmoves, get_set_self _ _ _, get_set_self _ _ _, hid, rfl, rfl, rfl⟩
  | some id =>
    rw [hactive] at hok
    simp only [ok_iff] at hok
    obtain ⟨previous, hprev, hok⟩ := hok
    obtain ⟨previous', hprev', hk, hrunning⟩ := h.active k c id hc hactive
    rw [hprev] at hprev'
    cases hprev'
    split at hok
    · rename_i hresumable
      cases pure_ok_iff.mp hok
      have hrunId := h.runIds id _ hprev
      refine ⟨.refl, ?_, by rw [hrunId, hprev], hk, hresumable.1, hrunning, rfl⟩
      rw [hc, hrunId, ← hactive]
    · rename_i hchanged
      -- a run that is not resumed is of another version, which only an enabled connector has
      have henabled : c.enabled = true := by
        refine (h.manual k c id _ hc hactive hprev).resolve_right fun hver => hchanged ?_
        obtain ⟨n, v, -, -, hsnap⟩ := h.recorded id _ hprev
        exact ⟨hver, by rw [hsnap]; rfl, hrunning⟩
      simp only [bind_ok_iff, updateRun_ok] at hok
      obtain ⟨S₁, ⟨run', hrun', rfl⟩, hok⟩ := hok
      obtain ⟨rfl, rfl, hmoves⟩ := startRun_moves hid hc
        (.inr ⟨id, run', _, _, hactive, hrun', rfl⟩) (.inr henabled) hgiven hok
      exact ⟨hmoves, get_set_self _ _ _, get_set_self _ _ _, hid, rfl, rfl, rfl⟩

structure Taken (S S' : Store) (p : PendingClaim) (c : SheetImportConnector) (claim : SheetClaim) :
    Prop where
  connector : S.connectors.get p.candidate.id = some c
  claimable : Claimable p c
  lease : claim.lease = ⟨p.candidate.id, claim.run.id, c.epoch + 1, c.version⟩
  moves : Moves (fun k => k = p.candidate.id) S S'
  left : S'.connectors.get p.candidate.id = some { c.granted p.now with
    activeRunId := some claim.run.id, manualRequested := false }
  stored : S'.runs.get claim.run.id = some claim.run
  connectorId : claim.run.connectorId = p.candidate.id
  version : claim.run.configurationVersion = some c.version
  manifests : S'.manifests = S.manifests

/-- **What a claim does**: nothing, or it gives away the lease of the connector that it has read,
which is of the same version still. -/
theorem take_ok (h : StoreInv S) {p : PendingClaim} {runId : String} {claim : Option SheetClaim}
    (hok : take S p runId = .ok (claim, S')) :
    claim = none ∧ S' = S ∨ ∃ c x, claim = some x ∧ Taken S S' p c x := by
  rw [take] at hok
  split at hok
  · cases hok
    exact .inl ⟨rfl, rfl⟩
  · rename_i c hc
    split at hok
    · rename_i hclaimable
      simp only [ok_iff, updateConnector_ok] at hok
      obtain ⟨⟨run, S₁⟩, hexecution, S₂, ⟨c', hc', rfl⟩, rfl, rfl⟩ := hok
      have hgrant : Move (fun k => k = p.candidate.id) S
          { S with connectors := S.connectors.set p.candidate.id (c.granted p.now) } :=
        .grants hc rfl
      have htrigger : (if (c.granted p.now).manualRequested = true then Trigger.MANUAL
          else p.trigger) = .MANUAL ∨ (c.granted p.now).enabled = true ∨
            (c.granted p.now).activeRunId.isSome := by
        obtain ⟨-, -, henabled | hmanual | ⟨id, -, hid⟩, -⟩ := hclaimable
        · exact .inr (.inl henabled)
        · exact .inl (if_pos hmanual)
        · exact .inr (.inr (by rw [show (c.granted p.now).activeRunId = some id from hid]; rfl))
      obtain ⟨hmoves, hexecutes⟩ := execution_ok (G := fun k => k = p.candidate.id)
        (hgrant.inv h) (get_set_self _ _ _) htrigger rfl hexecution
      rw [hexecutes.connector] at hc'
      cases hc'
      have htouch : Move (fun k => k = p.candidate.id) S₁ { S₁ with
          connectors := S₁.connectors.set p.candidate.id { c.granted p.now with
            activeRunId := some run.id, manualRequested := false } } :=
        .touch hexecutes.connector ⟨rfl, id⟩
      refine .inr ⟨c, _, rfl, hc, hclaimable, ?_, (Relation.ReflTransGen.head hgrant hmoves).tail
        htouch, get_set_self _ _ _, hexecutes.stored, hexecutes.connectorId, hexecutes.version,
        hexecutes.manifests⟩
      rw [← h.ids _ c hc]
      rfl
    · cases hok
      exact .inl ⟨rfl, rfl⟩

/-! ### Administrators -/

theorem write_ok (h : write S c = .ok S') :
    S.versions.get (c.id, c.version) = none ∧ S' = { S with
      connectors := S.connectors.set c.id (if c.enabled then c else c.stopped)
      versions := S.versions.set (c.id, c.version) c.recorded } := by
  simp only [write, ok_iff] at h
  obtain ⟨⟨⟩, -, ⟨⟩, hunused, rfl⟩ := h
  exact ⟨isNone_iff_eq_none.mp hunused, rfl⟩

theorem saveRow_ok (h : StoreInv S) {k : String} {row : SheetImportConnector} {input : SaveInput}
    {w : Occasion} (hrow : S.connectors.get k = some row)
    (hok : saveRow rt S locked row input w = .ok S') : Moves Keeps S S' := by
  have hid := h.ids k row hrow
  simp only [saveRow, ok_iff] at hok
  obtain ⟨⟨⟩, ⟨hver, -⟩, hok⟩ := hok
  split at hok
  · rename_i henabled
    simp only [bind_ok_iff] at hok
    obtain ⟨⟨⟩, -, ⟨⟩, -, hok⟩ := hok
    obtain ⟨hunused, rfl⟩ := write_ok hok
    rw [if_pos (show (input.row row w).enabled = true from henabled)]
    subst hid
    exact .single (.saves hrow ⟨rfl, rfl, congrArg Nat.succ hver.symm, hunused, rfl,
      .inl ⟨henabled, rfl, rfl⟩⟩)
  · rename_i hdisabled
    simp only [bind_ok_iff] at hok
    obtain ⟨⟨⟩, -, S₁, hstop, hok⟩ := hok
    obtain ⟨hunused, rfl⟩ := write_ok hok
    have hold : ∃ runs, GivesUp S row runs ∧ S₁ = { S with runs } := by
      rw [stopRun] at hstop
      split at hstop
      · rename_i hnone
        exact ⟨S.runs, .inl ⟨hnone, rfl⟩, (pure_ok_iff.mp hstop).symm⟩
      · rename_i runId hactive
        obtain ⟨run, hrun, rfl⟩ := updateRun_ok.mp hstop
        exact ⟨_, .inr ⟨runId, run, _, _, hactive, hrun, rfl⟩, rfl⟩
    obtain ⟨runs, hold, rfl⟩ := hold
    rw [if_neg (show ¬(input.row row w).enabled = true from hdisabled)]
    subst hid
    exact .single (.saves hrow ⟨rfl, rfl, congrArg Nat.succ hver.symm, hunused, rfl,
      .inr ⟨rfl, hold⟩⟩)

theorem save_ok (h : StoreInv S) {id : Option String} {input : SaveInput} {w : Occasion}
    (hok : save rt S locked id input w = .ok S') : Moves Keeps S S' := by
  simp only [save, ok_iff] at hok
  obtain ⟨⟨⟩, -, ⟨⟩, -, hok⟩ := hok
  cases id with
  | none =>
    simp only [saveNew, ok_iff] at hok
    obtain ⟨⟨⟩, -, ⟨⟩, -, ⟨⟩, hfree, hok⟩ := hok
    obtain ⟨hunused, rfl⟩ := write_ok hok
    have hnone := isNone_iff_eq_none.mp hfree
    split
    · exact .single (.enrols hnone rfl rfl hunused rfl)
    · exact .single (.enrols hnone rfl rfl hunused rfl)
  | some id =>
    simp only [ok_iff] at hok
    obtain ⟨row, hrow, hok⟩ := hok
    exact saveRow_ok h hrow hok

theorem requestRun_ok {id : String} {expectedVersion : ℕ} {w : Occasion}
    (h : requestRun rt S locked id expectedVersion w = .ok S') : Moves Keeps S S' := by
  simp only [requestRun, ok_iff, updateConnector_ok] at h
  obtain ⟨row, hrow, ⟨⟩, -, ⟨⟩, -, ⟨⟩, -, ⟨⟩, -, ⟨⟩, -, ⟨⟩, -, c, hc, rfl⟩ := h
  exact .single (.touch hc ⟨rfl, fun hlease => hlease⟩)

theorem create_moves {request : CreateRequest} {w : CreateOccasion}
    {created : Option Cutover.StoredCutover} (h : create rt S locked request w = .ok (created, S')) :
    Moves Keeps S S' := by
  rcases create_ok rt h with ⟨-, rfl⟩ | ⟨manifest, connector, manifests, -, rfl, hcreate, -⟩
  · exact .refl
  · exact .single (.binds hcreate)

end CrmYnov.SheetImport
