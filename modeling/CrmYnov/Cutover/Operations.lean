import CrmYnov.Cutover.Transactions

/-!
# What each operation leaves

Each transaction, taken apart: what it has checked, the moves it consists of, and what it
leaves of the manifest and of the runtime. A request that neither reads the source nor
disposes of a case leaves the worker alone, and what it leaves ready was settled
(`CrmYnov.Cutover.Handled`). The transactions of a worker are described with the lease they
were carried out under (`CrmYnov.Cutover.chunkTransaction_ok`).
-/

namespace CrmYnov.Cutover

open Checked Keyed Table CutoverEntry List

variable {rt : Runtime} {bytes : Ledger → ℕ} {L L' : Ledger}

theorem view_ok (h : view rt L = .ok L') : L' = L := by
  simp only [view, ok_iff] at h
  obtain ⟨-, -, rfl⟩ := h
  rfl

/-! ### Readings -/

/-- **A reading is recorded**: the manifest it leaves, and the ledger once its exceptions are
observed. -/
structure Records (rt : Runtime) (bytes : Ledger → ℕ) (L : Ledger) (values : SheetValues)
    (caseId : ℕ → String) (next : StoredCutover) (L' : Ledger) : Prop where
  accepted : ∃ observed, observeCutover rt L.manifest.contract values L.manifest.inventory
    L.manifest.headerSha256 = .ok observed ∧ Rereads L.manifest observed next
  observed : observeCutoverExceptions rt bytes { L with manifest := next } values caseId = .ok L'

/-- What a recorded reading leaves. -/
structure Reobserved (L : Ledger) (next : StoredCutover) (L' : Ledger) : Prop where
  frame : L' = { L with manifest := L'.manifest, cases := L'.cases }
  manifest : ∃ o, L'.manifest = { next with exceptionObservation := some o } ∧
    o.observedManifestVersion = next.version ∧ next.observedAt = some o.observedAt

variable {values : SheetValues} {next : StoredCutover}

theorem Records.reobserved {caseId : ℕ → String} (h : Records rt bytes L values caseId next L')
    (hL : Covered rt L) : Reobserved L next L' ∧ L.manifest.version < next.version := by
  obtain ⟨observed, hacc, hnext⟩ := h.accepted
  obtain ⟨o, cases, rfl, hver, hat, -, -⟩ :=
    observeCutoverExceptions_ok hL hacc hnext h.observed
  exact ⟨⟨rfl, o, rfl, hver, hat⟩, hnext.version⟩

theorem Records.move {caseId : ℕ → String} (h : Records rt bytes L values caseId next L') :
    Move rt bytes L L' := by
  obtain ⟨observed, hacc, hnext⟩ := h.accepted
  exact .observed hacc hnext h.observed

theorem Move.beside {runtime : Option StoredCutoverRuntime}
    {runs : Table CutoverRun CutoverRun.keys} {receipts runtimeReceipts : Table Receipt Receipt.keys} :
    Move rt bytes L { L with receipts, runtime, runs, runtimeReceipts } :=
  .set rfl ⟨rfl, rfl, rfl, rfl, .inl rfl, le_rfl⟩

variable {request : CutoverRequest} {w : Occasion}

/-- **What `observe` leaves**, unless its request is known: a reading is recorded of the
manifest that the request names. -/
theorem observe_ok {capturedAt : Instant}
    (h : observe rt bytes L request values capturedAt w = .ok L') :
    L' = L ∨ L.manifest.version = request.expectedVersion ∧ ∃ next L₁ receipts,
      Records rt bytes L values w.caseId next L₁ ∧ next.state = .BASELINED ∧
        L' = { L₁ with receipts } := by
  simp only [observe, bind_ok_iff] at h
  obtain ⟨-, -, -, -, h⟩ := h
  rcases recorded_ok h with h | ⟨L₁, receipts, hact, rfl⟩
  · exact .inl h
  · simp only [ok_iff, expected, updateCutover_ok_iff] at hact
    obtain ⟨-, hver, -, -, observed, hacc, L₂, ⟨-, rfl⟩, L₃, hobserve, hview⟩ := hact
    obtain rfl := view_ok hview
    refine .inr ⟨hver, _, L₁, receipts, ⟨⟨observed, hacc, ?_⟩, hobserve⟩, rfl, rfl⟩
    exact ⟨rfl, rfl, .inl rfl, rfl, rfl, Nat.lt_succ_self _⟩

/-! ### What is ready -/

/-- **A manifest that is ready**: its freeze is final, a report and an observation are recorded,
every exception is disposed of, and what is not decided is an exception. -/
structure Ready (rt : Runtime) (L : Ledger) : Prop where
  freeze : cutoverFinalFreeze rt L.manifest.contract.excelFrozenAt L.manifest.contract.t0 = .ok ()
  report : L.manifest.reportSha256.isSome
  observation : ∃ o, L.manifest.exceptionObservation = some o ∧
    L.manifest.observedAt = some o.observedAt ∧
    ∀ r ∈ o.cases, L.dispositions.findUnique (.caseId r.caseId) ≠ none
  settled : ∀ entry ∈ L.manifest.inventory, entry.classification = .BACKLOG →
    entry.decision = none → ∃ slot ∈ exceptionsOf L, slot.1 = entry.key

/-- What is ready while its state says so. -/
def ReadyWhen (rt : Runtime) (L : Ledger) : Prop :=
  L.manifest.state = .READY_FOR_CATCHUP → Ready rt L

/-- The reading behind a manifest is still the one there was, or it takes another one to go on. -/
def SameReading (L L' : Ledger) : Prop :=
  L'.manifest.state = .SUSPENDED ∨ L'.manifest.observedAt = none ∨
    L.manifest.state ≠ .SUSPENDED ∧ L'.manifest.observedAt = L.manifest.observedAt ∧
      L'.manifest.exceptionObservation.map CutoverExceptionObservation.observedManifestVersion =
        L.manifest.exceptionObservation.map CutoverExceptionObservation.observedManifestVersion

theorem SameReading.refl (L : Ledger) : SameReading L L := by
  by_cases h : L.manifest.state = .SUSPENDED
  · exact .inl h
  · exact .inr (.inr ⟨h, rfl, rfl⟩)

/-- **An effect has arisen**: its source had no case before, and has none now but that of its own
review. -/
structure Arisen (L L' : Ledger) (effect : CutoverEffect) : Prop where
  before : ∀ c ∈ L.cases.rows, c.sourceKey ≠ effect.sourceKey
  after : ∀ c ∈ L'.cases.rows, c.sourceKey = effect.sourceKey →
    c.kind = .EFFECT_REVIEW ∧ effect.outcome = .REVIEW
  entry : ∃ entry ∈ L'.manifest.inventory, entry.key = effect.sourceKey ∧ entry.issue = none

/-- What becomes of the effects: they stay, and others arise of a manifest that is ready. -/
structure Arising (L L' : Ledger) : Prop where
  ready : L'.effects.rows.length = L.effects.rows.length ∨
    L.manifest.state = .READY_FOR_CATCHUP
  arisen : ∀ effect ∈ L'.effects.rows,
    (∃ old ∈ L.effects.rows, old = effect ∨ SameEffect old effect) ∨ Arisen L L' effect

theorem Arising.of_same (h : L'.effects = L.effects) : Arising L L' :=
  ⟨.inl (by rw [h]), fun effect heff => .inl ⟨effect, by rwa [← h], .inl rfl⟩⟩

/-- **What a request leaves that neither reads the source nor disposes of a case.** -/
structure Handled (rt : Runtime) (bytes : Ledger → ℕ) (L L' : Ledger) : Prop where
  moves : Moves rt bytes L L'
  runtime : L'.runtime = L.runtime
  runs : L'.runs = L.runs
  dispositions : L'.dispositions = L.dispositions
  reading : SameReading L L'
  ready : ReadyWhen rt L → ReadyWhen rt L'
  arising : Arising L L'

theorem Handled.refl (L : Ledger) : Handled rt bytes L L :=
  ⟨.refl, rfl, rfl, rfl, SameReading.refl L, id, .of_same rfl⟩

theorem Handled.unready (hmoves : Moves rt bytes L L') (hruntime : L'.runtime = L.runtime)
    (hruns : L'.runs = L.runs) (hdisps : L'.dispositions = L.dispositions)
    (hreading : SameReading L L') (harising : Arising L L')
    (hstate : L'.manifest.state ≠ .READY_FOR_CATCHUP) : Handled rt bytes L L' :=
  ⟨hmoves, hruntime, hruns, hdisps, hreading, fun _ h => absurd h hstate, harising⟩

theorem Later.exceptions (h : Later L L') : exceptionsOf L ⊆ exceptionsOf L' := by
  intro slot hslot
  rw [mem_exceptionsOf]
  rcases mem_exceptionsOf.mp hslot with ⟨old, hold, heq⟩ | ⟨effect, heff, heq⟩
  · obtain ⟨entry, hentry, hkeeps⟩ := h.inventory old hold
    obtain ⟨issue, hissue, rfl⟩ := Option.map_eq_some_iff.mp heq
    have hkey : entry.key = old.key := by
      have hsame := congrArg key hkeeps.same
      exact hsame
    refine .inl ⟨entry, hentry, ?_⟩
    rw [slot?, hkeeps.issue issue hissue, hkey]
    rfl
  · obtain ⟨hmem, hreview⟩ := mem_findMany.mp heff
    obtain ⟨effect', heff', hsame⟩ := h.effects effect hmem
    have hfields : effect'.outcome = effect.outcome ∧ effect'.slot = effect.slot := by
      rcases hsame with rfl | hsame
      · exact ⟨rfl, rfl⟩
      · rw [← hsame]
        exact ⟨rfl, rfl⟩
    refine .inr ⟨effect', mem_findMany.mpr ⟨heff', hfields.1.trans hreview⟩, ?_⟩
    exact hfields.2.trans heq

variable {state : CutoverExceptionState} {o : CutoverExceptionObservation}

theorem settled_of_undecided (h : Covered rt L) (ha : Asserted L state o)
    (hundecided : ¬Undecided L state.quarantinedKeys) :
    ∀ entry ∈ L.manifest.inventory, entry.classification = .BACKLOG → entry.decision = none →
      ∃ slot ∈ exceptionsOf L, slot.1 = entry.key := by
  intro entry hentry hbacklog hdec
  by_contra hslot
  exact hundecided ⟨entry, hentry, hbacklog, hdec,
    fun hkey => hslot ((ha.quarantined h).mp hkey)⟩

theorem Asserted.disposition (ha : Asserted L state o) {r : CutoverExceptionReference}
    (hr : r ∈ o.cases) : L.dispositions.findUnique (.caseId r.caseId) ≠ none := by
  obtain ⟨c, hc, hcur⟩ := exists_of_forall₂ ha.cases hr
  rw [← hcur.disposition]
  exact ha.disposed c hc

variable {limit n : ℕ}

theorem catchUp_settled (hL : Covered rt L)
    (h : catchUp rt bytes L limit w = .ok (n, L')) :
    ∀ entry ∈ L.manifest.inventory, entry.classification = .BACKLOG → entry.decision = none →
      ∃ slot ∈ exceptionsOf L, slot.1 = entry.key := by
  simp only [catchUp, consumeCutover, ok_iff, Prod.exists] at h
  obtain ⟨_, _, ⟨-, -, -, -, -, -, -, -, -, -, -, -, state, hassert, -, -, -, hdone, -⟩, -⟩ := h
  obtain ⟨-, -, o, ha⟩ := assertCutoverExceptions_ok hL hassert
  refine settled_of_undecided hL ha fun hundecided => hdone ⟨?_, hundecided⟩
  obtain ⟨entry, hentry, hbacklog, hdec, -⟩ := hundecided
  rw [overlapReview, ← Nat.pos_iff_ne_zero, countP_pos_iff]
  exact ⟨entry, hentry, decide_eq_true ⟨hbacklog, hdec⟩⟩

/-- **The effects of a catch-up arise of entries that waited for them.** -/
theorem arising_of_catchUp (hL : Covered rt L)
    (h : catchUp rt bytes L limit w = .ok (n, L')) : Arising L L' := by
  have hcaught := catchUp_ok hL h
  obtain ⟨effects, heffs, hwaiting⟩ := hcaught.effects
  obtain ⟨more, hmore, hslots⟩ := hcaught.cases
  obtain ⟨o, references, -, -, -, hmanifest⟩ := hcaught.manifest
  refine ⟨.inr hcaught.ready.1, fun effect heff => ?_⟩
  rw [heffs] at heff
  rcases mem_append.mp heff with hold | hnew
  · exact .inl ⟨effect, hold, .inl rfl⟩
  · obtain ⟨entry, hentry, hkey⟩ := hwaiting effect hnew
    have hbefore : ∀ c ∈ L.cases.rows, c.sourceKey ≠ effect.sourceKey := fun c hc heq =>
      hentry.exception c.slot (hL.sound.cases c hc).2 (heq.trans hkey.symm)
    refine .inr ⟨hbefore, fun c hc heq => ?_, ⟨entry, ?_, hkey, hentry.issue⟩⟩
    · rw [hmore] at hc
      rcases mem_append.mp hc with hc | hc
      · exact absurd heq (hbefore c hc)
      · -- the inventory is the same, so that what has a case now is the review of an effect
        rcases mem_exceptionsOf.mp (hslots c hc) with ⟨e, he, hslot⟩ | ⟨e, he, hslot⟩
        · rw [hmanifest] at he
          exact absurd (heq.trans hkey.symm)
            (hentry.exception c.slot (mem_exceptionsOf.mpr (.inl ⟨e, he, hslot⟩)))
        · obtain ⟨hmem, hreview⟩ := mem_findMany.mp he
          obtain ⟨hekey, hekind⟩ := Prod.mk.inj hslot
          have hsame : e = effect := L'.effects.eq_of_key (k := .sourceKey effect.sourceKey) hmem
            (by rw [heffs]; exact mem_append_right _ hnew)
            (by simp [CutoverEffect.keys, hekey, heq]) (by simp [CutoverEffect.keys])
          exact ⟨hekind.symm, by rw [← hsame]; exact hreview⟩
    · rw [hmanifest]
      exact hentry.mem

/-! ### Requests -/

theorem Moves.set {receipts : Table Receipt Receipt.keys} (hset : SetsState L.manifest next) :
    Moves rt bytes L { L with manifest := next, receipts } :=
  .single (.set rfl hset)

theorem not_suspended_of_available (h : available L.manifest = .ok ()) :
    L.manifest.state ≠ .SUSPENDED := fun hstate => by
  rw [available, require_ok_iff] at h
  exact h ⟨hstate, by simp⟩

theorem decideOverlap_ok (hL : Covered rt L) {sourceKey target : String} {action : OverlapDecision}
    (h : decideOverlap rt bytes L sourceKey action target request w = .ok L') :
    Handled rt bytes L L' := by
  simp only [decideOverlap, bind_ok_iff] at h
  obtain ⟨-, -, -, -, h⟩ := h
  rcases recorded_ok h with rfl | ⟨L₁, receipts, hact, rfl⟩
  · exact Handled.refl _
  · simp only [ok_iff, updateCutover_ok_iff] at hact
    obtain ⟨-, -, ⟨⟩, havailable, -, -, source, hsource, -, hfree, -, -, L₂, ⟨-, rfl⟩, hview⟩ := hact
    obtain rfl := view_ok hview
    have hset : SetsDecision L.manifest sourceKey action
        (if action = .LINK_BASELINE then some target else none)
        { L.manifest with
          inventory := L.manifest.inventory.map (decided sourceKey action
            (if action = .LINK_BASELINE then some target else none))
          state := .BASELINED, reportSha256 := none, version := L.manifest.version + 1 } := by
      refine ⟨rfl, rfl, rfl, rfl, rfl, Nat.le_succ _, fun entry hentry hkey => ?_⟩
      -- the entry that was found is the only one with its key
      obtain ⟨hmem, hskey⟩ := (find?_eq_some hL.sound.reviewable.keys).mp hsource
      rwa [eq_of_key hL.sound.reviewable.keys hentry hmem (hkey.trans hskey.symm)]
    refine Handled.unready ((Relation.ReflTransGen.single (.decided hset)).tail .beside)
      rfl rfl rfl (.inr (.inr ⟨not_suspended_of_available havailable, rfl, rfl⟩))
      (.of_same rfl) ?_
    exact fun heq => by cases heq

theorem reconcile_ok (hL : Covered rt L) (h : reconcile rt bytes L request w = .ok L') :
    Handled rt bytes L L' := by
  simp only [reconcile, bind_ok_iff] at h
  obtain ⟨-, -, -, -, ⟨⟩, hfreeze, h⟩ := h
  rcases recorded_ok h with rfl | ⟨L₁, receipts, hact, rfl⟩
  · exact Handled.refl _
  · simp only [ok_iff, updateCutover_ok_iff] at hact
    obtain ⟨-, -, ⟨⟩, havailable, -, -, report, -, state, hassert, -, -, -, hdone, -, -, L₂, ⟨-, rfl⟩,
      hview⟩ := hact
    obtain rfl := view_ok hview
    obtain ⟨-, -, o, ha⟩ := assertCutoverExceptions_ok hL hassert
    have hsettled := settled_of_undecided hL ha hdone.2
    refine ⟨Moves.set ?_, rfl, rfl, rfl,
      .inr (.inr ⟨not_suspended_of_available havailable, rfl, rfl⟩), fun _ _ => ?_,
      .of_same rfl⟩
    · exact ⟨rfl, rfl, rfl, rfl, .inl rfl, Nat.le_succ _⟩
    · exact ⟨hfreeze, rfl, ⟨o, ha.observation, ha.current, fun r hr => ha.disposition hr⟩,
        hsettled⟩

theorem suspend_ok {reason : String} {resume : Bool}
    (h : suspend rt bytes L reason resume request w = .ok L') : Handled rt bytes L L' := by
  simp only [suspend, bind_ok_iff] at h
  obtain ⟨-, -, -, -, h⟩ := h
  rcases recorded_ok h with rfl | ⟨L₁, receipts, hact, rfl⟩
  · exact Handled.refl _
  · simp only [bind_ok_iff, updateCutover_ok_iff] at hact
    obtain ⟨-, -, -, -, L₂, ⟨-, rfl⟩, hview⟩ := hact
    obtain rfl := view_ok hview
    refine Handled.unready (Moves.set ?_) rfl rfl rfl ?_ (.of_same rfl) ?_
    · refine ⟨rfl, rfl, rfl, rfl, ?_, Nat.le_succ _⟩
      cases resume with
      | true => exact .inr rfl
      | false => exact .inl rfl
    · cases resume with
      | true => exact .inr (.inl rfl)
      | false => exact .inl rfl
    · cases resume <;> exact fun heq => by cases heq

/-- **What a catch-up that leaves nothing to be resolved leaves ready.** -/
theorem ready_of_catchUp (hL : Covered rt L)
    (h : catchUp rt bytes L limit w = .ok (n, L'))
    (hstate : cutoverExceptionState rt L' = .ok state) (hresolved : state.unresolvedCases = 0) :
    Ready rt L' := by
  have hcaught := catchUp_ok hL h
  obtain ⟨o, references, ho, hat, ⟨state₀, ha⟩, hmanifest⟩ := hcaught.manifest
  have hsettled := catchUp_settled hL h
  have ho' : L'.manifest.exceptionObservation = some { o with cases := references } := by
    rw [hmanifest]
  have hat' : L'.manifest.observedAt = some o.observedAt := by
    rw [hmanifest]
    exact hat
  obtain ⟨cases, hcases, hcur⟩ := exceptionState_covered hcaught.covered ho' hat'
  obtain rfl := Except.ok.inj (hstate.symm.trans hcases)
  have hexcs := ((Move.caughtUp h).later hL).exceptions
  refine ⟨?_, ?_, ⟨_, ho', hat', fun r hr hnone => ?_⟩, fun entry hentry hbacklog hdec => ?_⟩
  · rw [hmanifest]
    exact hcaught.freeze
  · rw [hmanifest]
    exact hcaught.ready.2.1
  · obtain ⟨c, hc, hcr⟩ := exists_of_forall₂ hcur hr
    rw [CutoverExceptionState.unresolvedCases, if_pos rfl, countP_eq_zero] at hresolved
    exact hresolved c hc (decide_eq_true (hcr.disposition.trans hnone))
  · rw [hmanifest] at hentry
    obtain ⟨slot, hslot, hkey⟩ := hsettled entry hentry hbacklog hdec
    exact ⟨slot, hexcs hslot, hkey⟩

theorem consume_ok (hL : Covered rt L) {limit : ℕ} (h : consume rt bytes L limit request w = .ok L') :
    Handled rt bytes L L' := by
  simp only [consume, bind_ok_iff] at h
  obtain ⟨-, -, -, -, ⟨⟩, -, h⟩ := h
  rcases recorded_ok h with rfl | ⟨L₁, receipts, hact, rfl⟩
  · exact Handled.refl _
  · simp only [bind_ok_iff, Prod.exists] at hact
    obtain ⟨-, -, ⟨⟩, havailable, n, L₂, hcatch, state, hstate, hact⟩ := hact
    have hcaught := catchUp_ok hL hcatch
    obtain ⟨o, references, ho, hat, -, hmanifest⟩ := hcaught.manifest
    have hmoves : Moves rt bytes L L₂ := .single (.caughtUp hcatch)
    have hframe := hcaught.frame
    have hsusp := not_suspended_of_available havailable
    have harising := arising_of_catchUp hL hcatch
    have hsame : L₂.manifest.observedAt = L.manifest.observedAt ∧
        L₂.manifest.exceptionObservation.map CutoverExceptionObservation.observedManifestVersion =
          L.manifest.exceptionObservation.map
            CutoverExceptionObservation.observedManifestVersion := by
      rw [hmanifest, ho]
      exact ⟨rfl, rfl⟩
    split at hact
    · rename_i hresolved
      obtain rfl := view_ok hact
      refine ⟨hmoves.tail .beside, ?_, ?_, ?_, .inr (.inr ⟨hsusp, hsame⟩), fun _ _ => ?_,
        ⟨harising.ready, fun effect heff => (harising.arisen effect heff).imp_right
          fun h => ⟨h.before, h.after, h.entry⟩⟩⟩
      · rw [hframe]
      · rw [hframe]
      · rw [hframe]
      · have hready := ready_of_catchUp hL hcatch hstate hresolved
        exact ⟨hready.freeze, hready.report, hready.observation, hready.settled⟩
    · simp only [bind_ok_iff, updateCutover_ok_iff] at hact
      obtain ⟨L₃, ⟨-, rfl⟩, hview⟩ := hact
      obtain rfl := view_ok hview
      refine Handled.unready (hmoves.trans (Moves.set ?_)) ?_ ?_ ?_
        (.inr (.inr ⟨hsusp, hsame⟩)) ⟨harising.ready, fun effect heff =>
          (harising.arisen effect heff).imp_right fun h => ⟨h.before, h.after, h.entry⟩⟩ ?_
      · exact ⟨rfl, rfl, rfl, rfl, .inl rfl, Nat.le_succ _⟩
      · rw [hframe]
      · rw [hframe]
      · rw [hframe]
      · exact fun heq => by cases heq

theorem arising_compensated {effect : CutoverEffect} {status : Option CompensationStatus}
    {reason : Option String} {receipts : Table Receipt Receipt.keys} :
    Arising L { L with
      manifest := next, receipts
      effects := L.effects.updateMany (fun e => e.id = effect.id) fun e => { e with
        compensationStatus := status, compensationReason := reason } } := by
  refine ⟨.inl (length_map _), fun e he => .inl ?_⟩
  obtain ⟨old, hold, rfl⟩ := mem_map.mp he
  refine ⟨old, hold, ?_⟩
  split
  · exact .inr rfl
  · exact .inl rfl

theorem compensate_ok {sourceKey reason : String}
    (h : compensate rt bytes L sourceKey reason request w = .ok L') : Handled rt bytes L L' := by
  simp only [compensate, bind_ok_iff] at h
  obtain ⟨-, -, -, -, h⟩ := h
  rcases recorded_ok h with rfl | ⟨L₁, receipts, hact, rfl⟩
  · exact Handled.refl _
  · simp only [ok_iff, updateCutover_ok_iff] at hact
    obtain ⟨-, -, effect, hfound, leadId, -, -, ⟨hcreated, -⟩, -, -, L₂, ⟨-, rfl⟩, hview⟩ := hact
    obtain rfl := view_ok hview
    obtain ⟨heff, -⟩ := findUnique_eq_some.mp hfound
    refine Handled.unready ((Moves.set ?_).head (.compensated heff hcreated))
      rfl rfl rfl (.inl rfl) arising_compensated ?_
    · exact ⟨rfl, rfl, rfl, rfl, .inl rfl, Nat.le_succ _⟩
    · exact fun heq => by cases heq

/-! ### Quarantine -/

/-- **What a quarantine leaves**: one disposition more, of a case as it stands, a manifest that
is suspended, and a worker that has lost what it had. -/
structure Quarantined (rt : Runtime) (bytes : Ledger → ℕ) (L L' : Ledger) : Prop where
  moves : Moves rt bytes L L'
  disposed : ∃ d, L'.dispositions.rows = L.dispositions.rows ++ [d] ∧
    d.decidedManifestVersion = L'.manifest.version
  version : L'.manifest.version = L.manifest.version + 1
  state : L'.manifest.state = .SUSPENDED
  runtime : L'.runtime = L.runtime.map fun runtime => { runtime with
    state := .PAUSED, version := runtime.version + 1, epoch := runtime.epoch + 1
    leaseOwner := none, leaseUntil := none, activeRunId := none }
  runs : L'.runs = (abandonRun L (activeRunId L) "cutover_quarantined").runs
  effects : L'.effects = L.effects

theorem quarantine_ok (hL : Covered rt L) {caseId evidenceSha256 reason : String}
    (h : quarantine rt bytes L caseId evidenceSha256 reason request w = .ok L') :
    L' = L ∨ Quarantined rt bytes L L' := by
  simp only [quarantine, bind_ok_iff] at h
  obtain ⟨-, -, -, -, -, -, h⟩ := h
  rcases recorded_ok h with h | ⟨L₁, receipts, hact, rfl⟩
  · exact .inl h
  · simp only [ok_iff, updateCutover_ok_iff, quarantineCutoverCase, insert_ok_iff] at hact
    obtain ⟨-, -, -, -, state, hstate, entry, hentry, -, ⟨hvalid, -⟩, -, -, -, -, L₂,
      ⟨dispositions, hcreate, -, -, rfl⟩, L₃, ⟨-, rfl⟩, hview⟩ := hact
    obtain rfl := view_ok hview
    obtain ⟨o, -, -, hcases⟩ := exceptionState_valid hL hstate hvalid
    obtain ⟨r, -, hcur⟩ := exists_of_forall₂ hcases.flip (mem_of_find?_eq_some hentry)
    refine .inr ⟨?_, ⟨_, create_rows hcreate, rfl⟩, rfl, rfl, rfl, rfl, rfl⟩
    refine Relation.ReflTransGen.head
      (.disposed hcreate ⟨entry.item, hcur.latest.mem, rfl, rfl⟩) (.single (.set rfl ?_))
    exact ⟨rfl, rfl, rfl, rfl, .inl rfl, Nat.le_succ _⟩

/-! ### The worker -/

theorem ready_ok (hL : Covered rt L) (h : ready rt L w = .ok ()) :
    L.manifest.state = .READY_FOR_CATCHUP ∧ Ready rt L := by
  simp only [ready, ok_iff] at h
  obtain ⟨⟨⟩, hfreeze, state, hassert, -, -, -, ⟨hstate, hreport, -, hundecided⟩, -⟩ := h
  obtain ⟨-, -, o, ha⟩ := assertCutoverExceptions_ok hL hassert
  exact ⟨hstate, hfreeze, hreport, ⟨o, ha.observation, ha.current, fun r hr => ha.disposition hr⟩,
    settled_of_undecided hL ha hundecided⟩

/-- The run there is, is ended: no runtime has it any more. -/
structure Ends (L L' : Ledger) (status : RunStatus) (errorCode : Option String) : Prop where
  ended : status ≠ .RUNNING
  runs : L'.runs.rows = L.runs.rows.map fun run =>
    if activeRunId L = some run.id ∧ run.status = .RUNNING then
      { run with status := status, errorCode := errorCode }
    else run
  active : activeRunId L' = none

theorem abandonRun_rows (L : Ledger) (errorCode : String) :
    (abandonRun L (activeRunId L) errorCode).runs.rows = L.runs.rows.map fun run =>
      if activeRunId L = some run.id ∧ run.status = .RUNNING then
        { run with status := .ABANDONED, errorCode := some errorCode }
      else run := by
  refine map_congr_left fun run _ => ?_
  simp only [eq_comm]

/-- **What `qualify` leaves**, unless its request is known: what was qualified is ready, and the
runtime there was had not been armed. -/
theorem qualify_ok (hL : Covered rt L) (h : qualify rt L request w = .ok L') :
    L' = L ∨ Ready rt L ∧ (∀ previous ∈ L.runtime, previous.state ≠ .ARMED) ∧
      ∃ qualification runtimeReceipts, L' = { L with
        runtime := some (qualified L.runtime qualification L.manifest.version), runtimeReceipts } := by
  simp only [qualify, bind_ok_iff] at h
  obtain ⟨-, -, connector, -, -, -, h⟩ := h
  rcases runtimeRecorded_ok h with h | ⟨L₁, runtimeReceipts, hact, rfl⟩
  · exact .inl h
  · simp only [ok_iff] at hact
    obtain ⟨-, -, -, hprev, artifact, -, -, -, -, -, ⟨⟩, hready, -, -, rfl⟩ := hact
    exact .inr ⟨(ready_ok hL hready).2, fun previous hp => (hprev previous hp).1, _, _, rfl⟩

/-- **What `arm` leaves**, unless its request is known: the run there was is given up, and the
runtime is in the next epoch. -/
theorem arm_ok {disarm : Bool} (h : arm rt L disarm request w = .ok L') :
    L' = L ∨ ∃ runtime next runtimeReceipts,
      L' = { L with
        runs := (abandonRun L (activeRunId L) "cutover_runtime_disarmed").runs
        runtime := some next, runtimeReceipts } ∧
      L.runtime = some runtime ∧ next.epoch = runtime.epoch + 1 ∧ next.activeRunId = none := by
  simp only [arm, ok_iff] at h
  obtain ⟨-, -, -, -, runtime, hruntime, h⟩ := h
  rcases runtimeRecorded_ok h with h | ⟨L₁, runtimeReceipts, hact, rfl⟩
  · exact .inl h
  · simp only [ok_iff] at hact
    obtain ⟨-, -, -, -, rfl⟩ := hact
    have hactive : activeRunId L = runtime.activeRunId := by
      rw [activeRunId, hruntime]
      rfl
    right
    rw [hactive]
    exact ⟨runtime, _, runtimeReceipts, rfl, hruntime, rfl, rfl⟩

/-- **What a claim opens**: a run in the next epoch, once the one there was is given up. -/
structure Opened (L : Ledger) (claim : Claim) (L' : Ledger) : Prop where
  runtime : ∃ runtime next, L.runtime = some runtime ∧ runtime.state = .ARMED ∧
    L'.runtime = some next ∧ next.state = .ARMED ∧ next.epoch = runtime.epoch + 1 ∧
    claim.epoch = next.epoch ∧ next.activeRunId = some claim.runId ∧
    next.leaseOwner = some claim.owner
  runs : (abandonRun L (activeRunId L) "cutover_lease_expired").runs.create
    { id := claim.runId, epoch := claim.epoch, status := .RUNNING } = some L'.runs
  version : claim.manifestVersion = L.manifest.version
  frame : L' = { L with runs := L'.runs, runtime := L'.runtime }

theorem claim_ok {opened : Option Claim} (h : claim rt L w = .ok (opened, L')) :
    opened = none ∧ L' = L ∨ ∃ claim, opened = some claim ∧ Opened L claim L' := by
  rw [claim] at h
  cases hruntime : L.runtime with
  | none =>
    rw [hruntime] at h
    cases h
    exact .inl ⟨rfl, rfl⟩
  | some runtime =>
    rw [hruntime] at h
    simp only at h
    split at h
    · rename_i harmed
      simp only [claimArmed, bind_ok_iff] at h
      obtain ⟨-, -, -, -, -, -, h⟩ := h
      split at h
      · cases h
        exact .inl ⟨rfl, rfl⟩
      · simp only [openRun, ok_iff, insert_ok_iff, Prod.exists] at h
        obtain ⟨claim, L₁, ⟨runs, hcreate, rfl, rfl⟩, rfl, rfl⟩ := h
        have hactive : activeRunId L = runtime.activeRunId := by
          rw [activeRunId, hruntime]
          rfl
        refine .inr ⟨_, rfl, ⟨runtime, _, hruntime, harmed, rfl, harmed, rfl, rfl, rfl, rfl⟩, ?_,
          rfl, rfl⟩
        rw [hactive]
        exact hcreate
    · cases h
      exact .inl ⟨rfl, rfl⟩

/-! ### Chunks -/

/-- Each disposition was decided before the last reading. -/
def Fresh (L : Ledger) : Prop :=
  ∀ o ∈ L.manifest.exceptionObservation, ∀ d ∈ L.dispositions.rows,
    d.decidedManifestVersion < o.observedManifestVersion

/-- A case that is named and not disposed of. -/
def Undisposed (L : Ledger) : Prop :=
  ∃ o ∈ L.manifest.exceptionObservation, ∃ r ∈ o.cases,
    L.dispositions.findUnique (.caseId r.caseId) = none

/-- **What blocks a run is a case that is not disposed of**, as long as the reading is fresh. -/
theorem undisposed_of_blocks (hL : Covered rt L) (ho : L.manifest.exceptionObservation = some o)
    (hat : L.manifest.observedAt = some o.observedAt) (hfresh : Fresh L)
    (hstate : cutoverExceptionState rt L = .ok state) (hblocks : state.blocks = true) :
    Undisposed L := by
  obtain ⟨cases, hcases, hcur⟩ := exceptionState_covered hL ho hat
  obtain rfl := Except.ok.inj (hstate.symm.trans hcases)
  by_contra hall
  have hdisposed : ∀ c ∈ cases, c.disposition ≠ none := fun c hc hnone => by
    obtain ⟨r, hr, hcr⟩ := exists_of_forall₂ hcur.flip hc
    exact hall ⟨o, ho, r, hr, hcr.disposition.symm.trans hnone⟩
  have hread : ∀ c ∈ cases, c.requiresReobservation = false := fun c hc => by
    obtain ⟨r, -, hcr⟩ := exists_of_forall₂ hcur.flip hc
    rw [hcr.again, Bool.eq_false_iff]
    intro hany
    obtain ⟨d, hd, hlate⟩ := (Option.any_eq_true _ _).mp hany
    rw [hcr.disposition] at hd
    have hlt := hfresh o ho d (findUnique_eq_some.mp hd).1
    have hle := of_decide_eq_true hlate
    omega
  have hunresolved : cases.countP (fun c => c.disposition = none) = 0 :=
    countP_eq_zero.mpr fun c hc hnone => hdisposed c hc (of_decide_eq_true hnone)
  have hany : cases.any CurrentException.requiresReobservation = false :=
    any_eq_false.mpr fun c hc => by simp [hread c hc]
  simp [CutoverExceptionState.blocks, CutoverExceptionState.unresolvedCases,
    CutoverExceptionState.requiresReobservation, hunresolved, hany] at hblocks

structure Owns (L : Ledger) (claim : Claim) (w : Occasion) (runtime : StoredCutoverRuntime) :
    Prop where
  found : L.runtime = some runtime
  armed : runtime.state = .ARMED
  epoch : runtime.epoch = claim.epoch
  version : runtime.version = claim.version
  owner : runtime.leaseOwner = some claim.owner
  active : runtime.activeRunId = some claim.runId
  lease : ∃ leaseUntil, runtime.leaseUntil = some leaseUntil ∧ w.now < leaseUntil
  manifest : L.manifest.version = claim.manifestVersion

variable {claim : Claim}

theorem owned_ok {runtime : StoredCutoverRuntime} (h : owned L claim w = .ok runtime) :
    Owns L claim w runtime := by
  simp only [owned, ok_iff] at h
  obtain ⟨r, hruntime, leaseUntil, hlease, -, ⟨hstate, hepoch, hver, howner, hactive, hnow, -,
    hmanifest⟩, rfl⟩ := h
  exact ⟨hruntime, hstate, hepoch, hver, howner, hactive, ⟨leaseUntil, hlease, hnow⟩, hmanifest⟩

/-- **What a chunk leaves.** -/
structure Chunked (rt : Runtime) (bytes : Ledger → ℕ) (L : Ledger) (w : Occasion) (blocked : Bool)
    (L' : Ledger) : Prop where
  moves : Moves rt bytes L L'
  runs : L'.runs = L.runs
  dispositions : L'.dispositions = L.dispositions
  arising : Arising L L'
  /-- The lease is renewed, by a worker that had not lost it. -/
  runtime : ∃ runtime leaseUntil, L.runtime = some runtime ∧ runtime.leaseUntil = some leaseUntil ∧
    w.clock < leaseUntil ∧ L'.runtime = some { runtime with
      state := if blocked then .PAUSED else runtime.state
      leaseUntil := some (w.renewedAt + LEASE_MS)
      leaseManifestVersion := some L'.manifest.version }
  ready : ReadyWhen rt L'
  fresh : Fresh L'
  undisposed : blocked = true → Undisposed L'

theorem renew_ok (h : renew L claim w = .ok L') :
    ∃ runtime leaseUntil, L.runtime = some runtime ∧ runtime.leaseUntil = some leaseUntil ∧
      w.clock < leaseUntil ∧ L' = { L with runtime := some { runtime with
        leaseUntil := some (w.renewedAt + LEASE_MS)
        leaseManifestVersion := some L.manifest.version } } := by
  simp only [renew, ok_iff] at h
  obtain ⟨runtime, hruntime, leaseUntil, hlease, -, ⟨-, -, -, -, hclock⟩, rfl⟩ := h
  exact ⟨runtime, leaseUntil, hruntime, hlease, hclock, rfl⟩

theorem pauseRun_ok (h : pauseRun bytes L = .ok L') :
    L' = { L with
      manifest := { L.manifest with
        state := .BASELINED, reportSha256 := none, version := L.manifest.version + 1 }
      runtime := L.runtime.map fun runtime => { runtime with
        state := .PAUSED, leaseManifestVersion := some (L.manifest.version + 1) } } := by
  simp only [pauseRun, ok_iff, updateCutover_ok_iff] at h
  obtain ⟨L₁, ⟨-, rfl⟩, rfl⟩ := h
  rfl

theorem Chunked.paused {L₁ L₂ : Ledger} {runtimeReceipts : Table Receipt Receipt.keys}
    (hmoves : Moves rt bytes L L₁) (hruns : L₁.runs = L.runs)
    (hdisps : L₁.dispositions = L.dispositions) (hruntime : L₁.runtime = L.runtime)
    (harising : Arising L L₁) (hfresh : Fresh L₁) (hundisposed : Undisposed L₁)
    (hpause : pauseRun bytes L₁ = .ok L₂)
    (hrenew : renew { L₂ with runtimeReceipts } claim w = .ok L') :
    Chunked rt bytes L w true L' := by
  obtain rfl := pauseRun_ok hpause
  obtain ⟨runtime, leaseUntil, hrt, hlease, hclock, rfl⟩ := renew_ok hrenew
  obtain ⟨runtime₁, hrt₁, rfl⟩ := Option.map_eq_some_iff.mp hrt
  refine ⟨hmoves.tail (.set rfl ?_), hruns, hdisps, ⟨harising.ready, fun effect heff =>
      (harising.arisen effect heff).imp_right fun h => ⟨h.before, h.after, h.entry⟩⟩,
    ?_, fun hstate => ?_, hfresh, fun _ => hundisposed⟩
  · exact ⟨rfl, rfl, rfl, rfl, .inl rfl, Nat.le_succ _⟩
  · exact ⟨runtime₁, leaseUntil, hruntime.symm.trans hrt₁, hlease, hclock, rfl⟩
  · cases hstate

theorem Fresh.of_same (h : Fresh L) (ho : L.manifest.exceptionObservation = some o)
    {references : List CutoverExceptionReference}
    (ho' : L'.manifest.exceptionObservation = some { o with cases := references })
    (hdisps : L'.dispositions = L.dispositions) : Fresh L' := by
  intro o' hmem d hd
  rw [ho'] at hmem
  cases hmem
  rw [hdisps] at hd
  exact h o ho d hd

/-- **What a chunk that consumes leaves.** -/
theorem consumeChunk_ok (hL : Covered rt L) (hfresh : Fresh L) {runtime : StoredCutoverRuntime}
    {chunk limit n : ℕ} {blocked : Bool}
    (h : consumeChunk rt bytes L claim runtime chunk limit w = .ok ((n, blocked), L')) :
    Chunked rt bytes L w blocked L' := by
  simp only [consumeChunk, bind_ok_iff, Prod.exists] at h
  obtain ⟨n', L₁, hcatch, state, hstate, h⟩ := h
  have hcaught := catchUp_ok hL hcatch
  obtain ⟨o, references, ho, hat, -, hmanifest⟩ := hcaught.manifest
  have hframe := hcaught.frame
  have ho₁ : L₁.manifest.exceptionObservation = some { o with cases := references } := by
    rw [hmanifest]
  have hat₁ : L₁.manifest.observedAt = some o.observedAt := by
    rw [hmanifest]
    exact hat
  have hmoves : Moves rt bytes L L₁ := .single (.caughtUp hcatch)
  have hruns : L₁.runs = L.runs := by rw [hframe]
  have hdisps : L₁.dispositions = L.dispositions := by rw [hframe]
  have hruntime : L₁.runtime = L.runtime := by rw [hframe]
  have hfresh₁ := hfresh.of_same ho ho₁ hdisps
  have harising := arising_of_catchUp hL hcatch
  cases hblocks : state.blocks with
  | true =>
    simp only [hblocks, if_true, ok_iff, runtimeReceipt] at h
    obtain ⟨L₂, hpause, L₃, ⟨runtimeReceipts, -, rfl⟩, -, -, L₄, hrenew, ⟨rfl, rfl⟩, rfl⟩ := h
    exact Chunked.paused hmoves hruns hdisps hruntime harising hfresh₁
      (undisposed_of_blocks hcaught.covered ho₁ hat₁ hfresh₁ hstate hblocks) hpause hrenew
  | false =>
    simp only [hblocks, Bool.false_eq_true, if_false, ok_iff, runtimeReceipt,
      exists_eq_left'] at h
    obtain ⟨L₃, ⟨runtimeReceipts, -, rfl⟩, -, -, L₄, hrenew, ⟨rfl, rfl⟩, rfl⟩ := h
    obtain ⟨runtime₁, leaseUntil, hrt, hlease, hclock, rfl⟩ := renew_ok hrenew
    have hresolved : state.unresolvedCases = 0 := by
      rw [CutoverExceptionState.blocks, Bool.or_eq_false_iff, Bool.or_eq_false_iff] at hblocks
      simpa using hblocks.1.2
    have hready := ready_of_catchUp hL hcatch hstate hresolved
    refine ⟨hmoves.tail .beside, hruns, hdisps, ⟨harising.ready, fun effect heff =>
        (harising.arisen effect heff).imp_right fun h => ⟨h.before, h.after, h.entry⟩⟩,
      ?_, fun _ => ?_, hfresh₁, fun hb => ?_⟩
    · exact ⟨runtime₁, leaseUntil, hruntime.symm.trans hrt, hlease, hclock, rfl⟩
    · exact ⟨hready.freeze, hready.report, hready.observation, hready.settled⟩
    · cases hb

theorem observeChunk_ok (h : observeChunk rt bytes L values w = .ok L') :
    ∃ next, Records rt bytes L values w.caseId next L' ∧ next.state = L.manifest.state := by
  simp only [observeChunk, bind_ok_iff, updateCutover_ok_iff] at h
  obtain ⟨observed, hacc, L₁, ⟨-, rfl⟩, hobserve⟩ := h
  refine ⟨_, ⟨⟨observed, hacc, ?_⟩, hobserve⟩, rfl⟩
  exact ⟨rfl, rfl, .inr rfl, rfl, rfl, Nat.lt_succ_self _⟩

/-- **What the transaction of a chunk leaves**: it was carried out by the owner of the lease, on
a manifest that was ready. -/
theorem chunkTransaction_ok (hL : Covered rt L)
    (hfresh : L.manifest.state = .READY_FOR_CATCHUP → Fresh L)
    (hdecided : ∀ d ∈ L.dispositions.rows, d.decidedManifestVersion ≤ L.manifest.version)
    {chunk limit n : ℕ} {blocked : Bool}
    (h : chunkTransaction rt bytes L claim values chunk limit w = .ok ((n, blocked), L')) :
    (∃ runtime, Owns L claim w runtime) ∧ L.manifest.state = .READY_FOR_CATCHUP ∧ Ready rt L ∧
      Chunked rt bytes L w blocked L' := by
  simp only [chunkTransaction, bind_ok_iff] at h
  obtain ⟨runtime, howned, ⟨⟩, -, ⟨⟩, hready, h⟩ := h
  obtain ⟨hstate, hready⟩ := ready_ok hL hready
  refine ⟨⟨runtime, owned_ok howned⟩, hstate, hready, ?_⟩
  split at h
  · simp only [firstChunk, bind_ok_iff] at h
    obtain ⟨L₁, hobserve, state, hexcs, h⟩ := h
    obtain ⟨next, hrecords, -⟩ := observeChunk_ok hobserve
    obtain ⟨⟨hframe, o, hmanifest, hver, hat⟩, hlt⟩ := hrecords.reobserved hL
    have hmove := hrecords.move
    have hL₁ := hmove.covered hL
    have ho₁ : L₁.manifest.exceptionObservation = some o := by rw [hmanifest]
    have hdisps : L₁.dispositions = L.dispositions := by rw [hframe]
    have hruns : L₁.runs = L.runs := by rw [hframe]
    have hruntime : L₁.runtime = L.runtime := by rw [hframe]
    have heffs : L₁.effects = L.effects := by rw [hframe]
    -- what was decided was decided before this reading
    have hfresh₁ : Fresh L₁ := fun o' ho' d hd => by
      rw [ho₁] at ho'
      cases ho'
      rw [hdisps] at hd
      have hle := hdecided d hd
      omega
    split at h
    · rename_i hblocks
      simp only [ok_iff] at h
      obtain ⟨L₂, hpause, L₃, hrenew, ⟨-, rfl⟩, rfl⟩ := h
      refine Chunked.paused (.single hmove) hruns hdisps hruntime (.of_same heffs) hfresh₁
        (undisposed_of_blocks hL₁ ho₁ ?_ hfresh₁ hexcs hblocks) hpause hrenew
      rw [hmanifest]
      exact hat
    · have hchunk := consumeChunk_ok hL₁ hfresh₁ h
      refine { hchunk with
        moves := hchunk.moves.head hmove, runs := hchunk.runs.trans hruns
        dispositions := hchunk.dispositions.trans hdisps, runtime := ?_
        arising := ⟨.inr hstate, fun effect heff => ?_⟩ }
      · rw [← heffs]
        refine (hchunk.arising.arisen effect heff).imp_right fun h => ⟨fun c hc => ?_, h.after,
          h.entry⟩
        exact h.before c ((hmove.later hL).cases.subset hc)
      · rw [← hruntime]
        exact hchunk.runtime
  · exact consumeChunk_ok hL (hfresh hstate) h

end CrmYnov.Cutover
