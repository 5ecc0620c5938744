import CrmYnov.Cutover.Invariant

/-!
# What a cutover guarantees

Along every run of a cutover, whatever the order of its transactions:

* a reading that is accepted is observed, and so is what a consumption leaves to be reviewed; the
  exceptions have one case each afterwards (`CrmYnov.Cutover.observation_agrees`);
* a source has one effect, made of what was decided of its entry while it had no exception
  (`CrmYnov.Cutover.effects_once`);
* what excludes a source was decided on its current evidence, a disposition of an evidence that
  was replaced never applies again, and nothing is consumed on a reading that a quarantine has
  overtaken (`CrmYnov.Cutover.quarantine_fresh`);
* what is ready for the catch-up is settled (`CrmYnov.Cutover.ready_settled`).
-/

namespace CrmYnov.Cutover

open Checked Keyed CutoverExceptionCase List

variable {rt : Runtime} {bytes : Ledger → ℕ} {L L' : Ledger}

namespace Sample

def t0 : Instant := 1788220800000

/-- A runtime that reads the text of `t0`, with short digests. -/
def runtime : Runtime := { Runtime.plain with
  sha256 := fun _ => "#"
  parseDate := fun text => if text = "2026-09-01T00:00:00.000Z" then some t0 else none }

def contract : CutoverContract where
  schemaVersion := 2
  streamKey := some "stream"
  sourceSheetId := some 7
  bootstrapPackageId := "package"
  connectorId := "connector"
  excelSha256 := "excel"
  connectorVersion := 1
  configurationSha256 := "configuration"
  t0 := "2026-09-01T00:00:00.000Z"
  timeZone := "Africa/Casablanca"
  excelFrozenAt := "2026-09-01T00:00:00.000Z"
  originalArrivalColumn := "D"
  externalIdColumn := "I"
  identityEvidenceSha256 := "identity"

/-- A cutover that was just created. -/
def start : State where
  ledger := {
    manifest := {
      id := "manifest", campusId := "rabat", actorId := "ada", bootstrapPackageId := "package"
      connectorId := "connector", contract } }

theorem created_start : Created start := ⟨rfl, rfl, rfl, rfl⟩

def visitor : Payload where
  cells := [("I", "17"), ("D", "2026-09-01T00:00:00.000Z")]
  distinct := by decide

def values : SheetValues where
  columns := ["I", "D"]
  rows := [visitor]

def report : Js.Json := .obj [("cutoverBlocked", .bool false)]

def occasion (id : String) : Occasion where
  now := t0 + 7200000
  renewedAt := t0 + 7200000
  clock := t0 + 7200000
  authorize := .ok ()
  actorId := "ada"
  delegation := ⟨"ada", "ada", 1, 1⟩
  fixtureDatabase := .ok ()
  artifact := some "artifact"
  connector := some {
    campusId := "rabat", workbookId := "synthetic_sheet", version := 1
    configurationSha256 := "configuration", enabled := false, activeRunId := none
    manualRequested := false, leaseUntil := none, google := false, sourceColumns := ["I", "D"] }
  pack := some ⟨"rabat", "excel"⟩
  report := .ok report
  authorizeLead := fun _ => .ok ()
  baselineRow := fun _ => none
  leadCampus := fun _ => .ok none
  mappedCampus := fun _ => .ok (some "rabat")
  persist := fun entry => .ok {
    record := ⟨"batch " ++ entry.externalId, .str "batch", .str "report", some (.str "review")⟩
    created := false, leadId := none, reason := some "ambiguous", acquisitionNew := false }
  downstreamHash := fun _ => "downstream"
  effectId := fun key => "effect " ++ key
  caseId := fun n => "case " ++ toString n
  id
  owner := "owner"

def request (key : String) (expectedVersion : ℕ) : CutoverRequest := ⟨key, key, expectedVersion⟩

/-- The sheet is read, the visitor kept for the catch-up, and the baseline reconciled. -/
def opening : List Action := [
  .prepare (request "observe" 1) values (t0 + 7200000) (occasion "1"), .observe 0 (occasion "2"),
  .decide "#" .KEEP_FOR_CATCHUP "" (request "decide" 2) (occasion "3"),
  .reconcile (request "reconcile" 3) (occasion "4")]

/-- The catch-up leaves the visitor to be reviewed. -/
def consuming : Action := .consume 25 (request "consume" 4) (occasion "5")

def quarantining : Action := .quarantine "case 0" "#" "kept" (request "quarantine" 6) (occasion "6")

def small : Ledger → ℕ := fun _ => 0

end Sample

open Sample

/-! ### Observations -/

def CoveredExactly (rt : Runtime) (L : Ledger) : Prop :=
  ∃ state, cutoverExceptionState rt L = .ok state ∧ state.coverageValid = true ∧
    (state.cases.map fun c => c.item.slot).Perm (exceptionsOf L) ∧ (exceptionsOf L).Nodup

theorem slots_of_current {o : CutoverExceptionObservation}
    {references : List CutoverExceptionReference} {cases : List CurrentException}
    (h : Forall₂ (CurrentOf L o) references cases) :
    cases.map (fun c => c.item.slot) = references.map CutoverExceptionReference.slot := by
  induction h with
  | nil => rfl
  | cons hcr _ ih => rw [map_cons, map_cons, hcr.slot, ih]

theorem coveredExactly_of_current (h : Covered rt L) {o : CutoverExceptionObservation}
    (ho : L.manifest.exceptionObservation = some o)
    (hat : L.manifest.observedAt = some o.observedAt) : CoveredExactly rt L := by
  obtain ⟨cases, hcases, hcur⟩ := exceptionState_covered h ho hat
  refine ⟨_, hcases, rfl, ?_, nodup_exceptionsOf h.sound.reviewable⟩
  rw [slots_of_current hcur]
  exact (h.journaled o ho).slots_perm h.sound

/-- What is left after a consumption, once its version is counted. -/
def Ledger.bumped (L : Ledger) : Ledger :=
  { L with manifest := { L.manifest with version := L.manifest.version + 1 } }

/-- What an observation or a refresh may answer. -/
structure Answers (rt : Runtime) (stored : Table CutoverExceptionCase keys)
    (caseId : ℕ → String) (result : Outcome Ledger) : Prop where
  covered : ∀ L', result = .ok L' → CoveredExactly rt L'
  /-- Only the bound of the journal refuses it, or an identifier that is taken. -/
  refused : ∀ e, result = .error e → e = boundExceeded ∨ e = .database ∧ ¬Free stored caseId

theorem observe_answers (h : Covered rt L) {values : SheetValues} {observed : ObservedCutover}
    (haccepted : observeCutover rt L.manifest.contract values L.manifest.inventory
      L.manifest.headerSha256 = .ok observed)
    {next : StoredCutover} (hnext : Rereads L.manifest observed next) (caseId : ℕ → String) :
    Answers rt L.cases caseId
      (observeCutoverExceptions rt bytes { L with manifest := next } values caseId) where
  covered L' hok := by
    obtain ⟨o, cases, rfl, -, hat, -, hcovered⟩ := observeCutoverExceptions_ok h haccepted hnext hok
    exact coveredExactly_of_current hcovered rfl hat
  refused e herror := observeCutoverExceptions_error h haccepted hnext herror

theorem refresh_answers (h : Covered rt L) {limit n : ℕ} {w : Occasion}
    (hconsume : consumeCutover rt L limit w = .ok (n, L')) (caseId : ℕ → String) :
    Answers rt L.cases caseId (refreshCutoverExceptions rt bytes L'.bumped caseId) := by
  obtain ⟨state, o, -, ha, hadvanced⟩ := advanced_of_consume h hconsume
  refine ⟨fun L'' hok => ?_, fun e herror => ?_⟩
  · obtain ⟨references, cases, rfl, -, hcovered⟩ :=
      refreshCutoverExceptions_ok h hadvanced ha.observation ha.current hok
    refine coveredExactly_of_current hcovered rfl ?_
    have hat := congrArg StoredCutover.observedAt hadvanced.manifest
    exact hat.trans ha.current
  · exact refreshCutoverExceptions_error h hadvanced ha.observation ha.current herror

/-- **An accepted reading and the journal agree**, in every state of a cutover: the observation
made with it, and the refresh after a consumption of what it leaves, are refused by nothing but
the bound of the journal or an identifier that is taken, and cover each exception by one case. -/
theorem observation_agrees {s₀ : State} (h₀ : Created s₀) (as : List Action)
    {values : SheetValues} {observed : ObservedCutover} {next : StoredCutover}
    (haccepted : observeCutover rt ((machine rt bytes).run s₀ as).ledger.manifest.contract values
      ((machine rt bytes).run s₀ as).ledger.manifest.inventory
      ((machine rt bytes).run s₀ as).ledger.manifest.headerSha256 = .ok observed)
    (hnext : Rereads ((machine rt bytes).run s₀ as).ledger.manifest observed next)
    (caseId caseId' : ℕ → String) :
    Answers rt ((machine rt bytes).run s₀ as).ledger.cases caseId (observeCutoverExceptions rt bytes
        { ((machine rt bytes).run s₀ as).ledger with manifest := next } values caseId) ∧
    ∀ L, L = ((machine rt bytes).run s₀ as).ledger ∨ observeCutoverExceptions rt bytes
          { ((machine rt bytes).run s₀ as).ledger with manifest := next } values caseId = .ok L →
      ∀ limit w n L', consumeCutover rt L limit w = .ok (n, L') →
        Answers rt L.cases caseId' (refreshCutoverExceptions rt bytes L'.bumped caseId') := by
  have hcovered := (inv_run rt bytes h₀ as).ledger.covered
  refine ⟨observe_answers hcovered haccepted hnext caseId, fun L hL limit w n L' hconsume => ?_⟩
  have hcoveredL : Covered rt L := by
    rcases hL with rfl | hobserve
    · exact hcovered
    · exact Move.covered (.observed haccepted hnext hobserve) hcovered
  exact refresh_answers hcoveredL hconsume caseId'

/-- The first reading of a sheet is observed. -/
theorem observation_agrees_start : ∃ observed next, Rereads start.ledger.manifest observed next ∧
      Answers runtime .empty (fun n => toString n) (observeCutoverExceptions runtime
        small { start.ledger with manifest := next } values fun n => toString n) := by
  have hok : (observeCutover runtime contract values [] none).map (fun _ => ()) = .ok () := by
    simp only [observeCutover, byteLength_stringify]
    decide +kernel
  obtain ⟨observed, haccepted, -⟩ := map_ok_iff.mp hok
  have hnext : Rereads start.ledger.manifest observed
      { start.ledger.manifest.observed observed t0 with version := 2 } :=
    ⟨rfl, rfl, .inl rfl, rfl, rfl, Nat.lt_succ_self 1⟩
  exact ⟨observed, _, hnext, (observation_agrees created_start []
    haccepted hnext (fun n => toString n) fun n => toString n).1⟩

/-! ### Effects -/

theorem nodup_sources (t : Table CutoverEffect CutoverEffect.keys) :
    (t.rows.map CutoverEffect.sourceKey).Nodup := by
  have hkeys := t.nodup_keys (k := fun e => CutoverEffect.Key.sourceKey e.sourceKey) fun e => by
    simp [CutoverEffect.keys]
  rw [← Function.comp_def, ← map_map] at hkeys
  exact hkeys.of_map _

/-- **A source has one effect**, in every run and whatever comes next. -/
theorem effects_once {s₀ : State} (h₀ : Created s₀) (as : List Action) :
    let s := (machine rt bytes).run s₀ as
    (s.ledger.effects.rows.map CutoverEffect.sourceKey).Nodup ∧
      (∀ effect ∈ s.ledger.effects.rows, Decided s.ledger.manifest.inventory effect) ∧
      (∀ bs, ∀ effect ∈ s.ledger.effects.rows,
        ∃ effect' ∈ ((machine rt bytes).run s bs).ledger.effects.rows, effect'.id = effect.id ∧
          effect'.sourceKey = effect.sourceKey ∧ effect'.outcome = effect.outcome) ∧
      ∀ a, ∀ effect ∈ ((machine rt bytes).next s a).ledger.effects.rows,
        effect.sourceKey ∉ s.ledger.effects.rows.map CutoverEffect.sourceKey →
          Arisen s.ledger ((machine rt bytes).next s a).ledger effect := by
  intro s
  have hinv := inv_run rt bytes h₀ as
  refine ⟨nodup_sources s.ledger.effects, hinv.ledger.covered.sound.effects,
    fun bs effect heff => ?_, fun a effect heff hnew => ?_⟩
  · have hrun : _ ∧ Later s.ledger ((machine rt bytes).run s bs).ledger := hinv.run bs
    obtain ⟨effect', heff', hsame⟩ := hrun.2.effects effect heff
    refine ⟨effect', heff', ?_⟩
    rcases hsame with rfl | hsame
    · exact ⟨rfl, rfl, rfl⟩
    · rw [← hsame]
      exact ⟨rfl, rfl, rfl⟩
  · have hsteps : Steps rt bytes s _ := hinv.next a
    refine (hsteps.advances.arising.arisen effect heff).resolve_left ?_
    rintro ⟨old, hold, hsame⟩
    refine hnew (mem_map.mpr ⟨old, hold, ?_⟩)
    rcases hsame with rfl | hsame
    · rfl
    · rw [← hsame]

theorem sources_consuming :
    ((machine runtime small).run start opening).ledger.effects.rows.map
        CutoverEffect.sourceKey = [] ∧ ((machine runtime small).next ((machine runtime small).run
        start opening) consuming).ledger.effects.rows.map CutoverEffect.sourceKey = ["#"] := by
  delta machine State.step State.observed observe observeCutover
  simp only [byteLength_stringify]
  decide +kernel

/-- A visitor who was kept for the catch-up has an effect, made while nothing was said of it. -/
theorem effects_once_consuming :
    ∃ L L' : Ledger, ∃ effect ∈ L'.effects.rows, effect.sourceKey = "#" ∧ Arisen L L' effect := by
  obtain ⟨before, after⟩ := sources_consuming
  have hmem := mem_singleton_self "#"
  rw [← after] at hmem
  obtain ⟨effect, heff, hkey⟩ := mem_map.mp hmem
  refine ⟨_, _, effect, heff, hkey, (effects_once created_start opening).2.2.2
    consuming effect heff ?_⟩
  rw [before]
  exact not_mem_nil

/-! ### Quarantine -/

variable {state : CutoverExceptionState}

theorem coverageValid_of_mem (hstate : cutoverExceptionState rt L = .ok state)
    {c : CurrentException} (hc : c ∈ state.cases) : state.coverageValid = true := by
  rw [cutoverExceptionState.eq_def] at hstate
  cases ho : L.manifest.exceptionObservation with
  | none =>
    rw [ho] at hstate
    rw [← pure_ok_iff.mp hstate] at hc
    cases hc
  | some o =>
    rw [ho] at hstate
    simp only at hstate
    split at hstate
    · rw [← pure_ok_iff.mp hstate] at hc
      cases hc
    · simp only [bind_ok_iff] at hstate
      obtain ⟨expected, -, hstate⟩ := hstate
      split at hstate
      · rw [← pure_ok_iff.mp hstate] at hc
        cases hc
      · split at hstate
        · rw [← pure_ok_iff.mp hstate] at hc
          cases hc
        · rw [← pure_ok_iff.mp hstate]

/-- A disposition was decided on what its source is now. -/
structure DecidedOn (rt : Runtime) (L : Ledger) (state : CutoverExceptionState)
    (ev : CutoverExceptionEvidence) (d : CutoverExceptionDisposition) : Prop where
  mem : d ∈ L.dispositions.rows
  digest : d.evidenceSha256 = cutoverExceptionEvidenceHash rt ev
  current : ∃ c ∈ state.cases, c.item.id = d.caseId ∧ c.item.slot = ev.slot ∧
    c.disposition = some d

/-- **A source in quarantine**: each of its exceptions was disposed of on its current evidence. -/
theorem decidedOn_of_quarantined (h : Covered rt L)
    (hstate : cutoverExceptionState rt L = .ok state) {key : String}
    (hkey : key ∈ state.quarantinedKeys) :
    ∃ o ∈ L.manifest.exceptionObservation, ∃ expected,
      expectedEvidence rt L o.sources = .ok expected ∧ (∃ ev ∈ expected, ev.sourceKey = key) ∧
        ∀ ev ∈ expected, ev.sourceKey = key → ∃ d, DecidedOn rt L state ev d := by
  rw [CutoverExceptionState.quarantinedKeys, mem_filter, mem_unique] at hkey
  obtain ⟨hmem, hall⟩ := hkey
  have hall := of_decide_eq_true hall
  obtain ⟨c₀, hc₀, rfl⟩ := mem_map.mp hmem
  obtain ⟨o, ho, -, hcases⟩ := exceptionState_valid h hstate (coverageValid_of_mem hstate hc₀)
  obtain ⟨expected, hexpected, hnamed⟩ := (h.journaled o ho).named
  refine ⟨o, ho, expected, hexpected, ?_, fun ev hev hevkey => ?_⟩
  · obtain ⟨r₀, hr₀, hcurrent₀⟩ := exists_of_forall₂ hcases.flip hc₀
    obtain ⟨ev₀, hev₀, hnamed₀⟩ := exists_of_forall₂ hnamed.flip hr₀
    exact ⟨ev₀, hev₀, congrArg Prod.fst (hnamed₀.slot.symm.trans hcurrent₀.slot.symm)⟩
  · obtain ⟨r, hr, hrnamed⟩ := exists_of_forall₂ hnamed hev
    obtain ⟨c, hc, hcur⟩ := exists_of_forall₂ hcases hr
    have hslot : c.item.slot = ev.slot := hcur.slot.trans hrnamed.slot
    obtain ⟨d, hd⟩ := Option.ne_none_iff_exists'.mp
      (hall c hc ((congrArg Prod.fst hslot).trans hevkey))
    have hfound := hcur.disposition.symm.trans hd
    obtain ⟨hdmem, hdkey⟩ := Table.findUnique_eq_some.mp hfound
    have hcase : d.caseId = r.caseId := by
      simpa [CutoverExceptionDisposition.keys, eq_comm] using hdkey
    -- the case it was decided on is the one that is named
    obtain ⟨c', hc', hid, hdigest⟩ := h.sound.disposed d hdmem
    have hsame : c' = c.item :=
      eq_of_caseId hc' hcur.latest.mem (by rw [hid, hcase, hcur.id])
    refine ⟨d, hdmem, ?_, c, hc, by rw [hcur.id, hcase], hslot, hd⟩
    rw [← hdigest, hsame, hcur.digest, hrnamed.digest]

theorem latest_of_mem (h : Covered rt L) (hstate : cutoverExceptionState rt L = .ok state)
    {c : CurrentException} (hc : c ∈ state.cases) :
    Latest L.cases.rows c.item ∧ ∀ d ∈ c.disposition, d.caseId = c.item.id := by
  obtain ⟨o, -, -, hcases⟩ := exceptionState_valid h hstate (coverageValid_of_mem hstate hc)
  obtain ⟨r, -, hcur⟩ := exists_of_forall₂ hcases.flip hc
  refine ⟨hcur.latest, fun d hd => ?_⟩
  obtain ⟨-, hdkey⟩ := Table.findUnique_eq_some.mp (hcur.disposition.symm.trans hd)
  rw [hcur.id]
  simpa [CutoverExceptionDisposition.keys, eq_comm] using hdkey

/-- **A case that another one has replaced never comes back.** -/
theorem Latest.replaced {cases₁ cases₂ cases₃ : Table CutoverExceptionCase keys}
    {c₁ c₂ c₃ : CutoverExceptionCase} (h₁ : Latest cases₁.rows c₁) (h₂ : Latest cases₂.rows c₂)
    (h₃ : Latest cases₃.rows c₃) (h₁₂ : cases₁.rows <+: cases₂.rows)
    (h₂₃ : cases₂.rows <+: cases₃.rows) (hslot₂ : c₂.slot = c₁.slot) (hslot₃ : c₃.slot = c₁.slot)
    (hne : c₂ ≠ c₁) : c₃.id ≠ c₁.id := by
  intro hid
  have hmem₁ := h₁₂.subset h₁.mem
  have hmem₂ := h₂₃.subset h₂.mem
  obtain rfl : c₃ = c₁ := eq_of_caseId h₃.mem (h₂₃.subset hmem₁) hid
  -- both are the latest of their slot, so that they are of one generation
  have hgen : c₂.generation = c₃.generation :=
    le_antisymm (h₃.latest c₂ hmem₂ hslot₂) (h₂.latest c₃ hmem₁ hslot₂.symm)
  obtain ⟨hkey, hkind⟩ := Prod.mk.inj hslot₂
  exact hne (cases₃.eq_of_key (k := .generation c₃.sourceKey c₃.kind c₃.generation) hmem₂ h₃.mem
    (by simp [CutoverExceptionCase.keys, hkey, hkind, hgen]) (by simp [CutoverExceptionCase.keys]))

/-- **What is excluded was decided on its current evidence**, in every state; the disposition of
a case that another evidence has replaced never applies again; and what is consumed after a
disposition was made rests on a reading begun after it. -/
theorem quarantine_fresh {s₀ : State} (h₀ : Created s₀) (as : List Action) :
    let s := (machine rt bytes).run s₀ as
    (∀ state, cutoverExceptionState rt s.ledger = .ok state → ∀ key ∈ state.quarantinedKeys,
      ∃ o ∈ s.ledger.manifest.exceptionObservation, ∃ expected,
        expectedEvidence rt s.ledger o.sources = .ok expected ∧
          (∃ ev ∈ expected, ev.sourceKey = key) ∧
          ∀ ev ∈ expected, ev.sourceKey = key → ∃ d, DecidedOn rt s.ledger state ev d) ∧
    (∀ bs cs, let s₂ := (machine rt bytes).run s bs
      let s₃ := (machine rt bytes).run s₂ cs
      ∀ state₁ state₂ state₃, cutoverExceptionState rt s.ledger = .ok state₁ →
        cutoverExceptionState rt s₂.ledger = .ok state₂ →
        cutoverExceptionState rt s₃.ledger = .ok state₃ →
        ∀ c₁ ∈ state₁.cases, ∀ c₂ ∈ state₂.cases, ∀ c₃ ∈ state₃.cases,
          c₂.item.slot = c₁.item.slot → c₃.item.slot = c₁.item.slot →
            c₂.item.evidenceSha256 ≠ c₁.item.evidenceSha256 →
              ∀ d ∈ c₁.disposition, c₃.disposition ≠ some d) ∧
    ∀ a bs b, let s₁ := (machine rt bytes).next s a
      let s₂ := (machine rt bytes).run s₁ bs
      let s₃ := (machine rt bytes).next s₂ b
      s.known < s₁.known → s₃.ledger.effects.rows.length ≠ s₂.ledger.effects.rows.length →
        s.known < s₃.seen := by
  intro s
  have hinv := inv_run rt bytes h₀ as
  refine ⟨fun state hstate key hkey => decidedOn_of_quarantined hinv.ledger.covered hstate hkey,
    fun bs cs => ?_, fun a bs b => ?_⟩
  · intro s₂ s₃ state₁ state₂ state₃ hstate₁ hstate₂ hstate₃ c₁ hc₁ c₂ hc₂ c₃ hc₃ hslot₂ hslot₃ hne d
      hd hd₃
    obtain ⟨hinv₂, hlater₂⟩ : Inv rt s₂ ∧ Later s.ledger s₂.ledger := hinv.run bs
    obtain ⟨hinv₃, hlater₃⟩ : Inv rt s₃ ∧ Later s₂.ledger s₃.ledger := hinv₂.run cs
    obtain ⟨hlatest₁, hcase₁⟩ := latest_of_mem hinv.ledger.covered hstate₁ hc₁
    obtain ⟨hlatest₂, -⟩ := latest_of_mem hinv₂.ledger.covered hstate₂ hc₂
    obtain ⟨hlatest₃, hcase₃⟩ := latest_of_mem hinv₃.ledger.covered hstate₃ hc₃
    refine hlatest₁.replaced hlatest₂ hlatest₃ hlater₂.cases hlater₃.cases hslot₂ hslot₃
      (fun heq => hne (by rw [heq])) ?_
    rw [← hcase₃ d hd₃, ← hcase₁ d hd]
  · intro s₁ s₂ s₃ hknown heffs
    have hinv₁ : Inv rt s₁ := (hinv.next a).inv
    obtain ⟨hinv₂, hlater⟩ : Inv rt s₂ ∧ Later s₁.ledger s₂.ledger := hinv₁.run bs
    have hsteps : Steps rt bytes s₂ s₃ := hinv₂.next b
    rw [hsteps.read.resolve_left heffs]
    exact hknown.trans_le hlater.dispositions.length_le

/-- The review that was put in quarantine excludes its source. -/
theorem quarantine_fresh_quarantining :
    let M := machine runtime small
    let L := (M.run start (opening ++ [consuming, quarantining])).ledger
    ∃ state, cutoverExceptionState runtime L = .ok state ∧ "#" ∈ state.quarantinedKeys ∧
      ∃ ev d, ev.sourceKey = "#" ∧ DecidedOn runtime L state ev d := by
  intro M L
  have hrun : (cutoverExceptionState runtime L).map CutoverExceptionState.quarantinedKeys =
      .ok ["#"] := by
    dsimp only [L, M]
    delta machine State.step State.observed observe observeCutover
    simp only [byteLength_stringify]
    decide +kernel
  obtain ⟨state, hstate, hkeys⟩ := map_ok_iff.mp hrun
  have hkey : "#" ∈ state.quarantinedKeys := by
    rw [hkeys]
    exact mem_singleton_self _
  obtain ⟨o, -, expected, -, ⟨ev, hev, hevkey⟩, hall⟩ := (quarantine_fresh created_start
    (opening ++ [consuming, quarantining])).1 state hstate "#" hkey
  obtain ⟨d, hd⟩ := hall ev hev hevkey
  exact ⟨state, hstate, hkey, ev, d, hevkey, hd⟩

/-! ### Readiness -/

/-- **What is ready is settled**: the freeze is `T0`, a report and an observation are recorded, and
every entry of the backlog is decided or has its exceptions disposed of. -/
theorem ready_settled {s₀ : State} (h₀ : Created s₀) (as : List Action)
    (hstate : ((machine rt bytes).run s₀ as).ledger.manifest.state = .READY_FOR_CATCHUP) :
    let L := ((machine rt bytes).run s₀ as).ledger
    (∃ t0, cutoverInstant rt (some L.manifest.contract.excelFrozenAt) = .ok t0 ∧
        cutoverInstant rt (some L.manifest.contract.t0) = .ok t0) ∧
      L.manifest.reportSha256.isSome ∧ L.manifest.observedAt.isSome ∧
      L.manifest.exceptionObservation.isSome ∧
      ∃ state, cutoverExceptionState rt L = .ok state ∧ state.coverageValid = true ∧
        ∀ entry ∈ L.manifest.inventory, entry.classification = .BACKLOG →
          entry.decision.isSome ∨ (∃ c ∈ state.cases, c.item.sourceKey = entry.key) ∧
            ∀ c ∈ state.cases, c.item.sourceKey = entry.key → c.disposition ≠ none := by
  intro L
  have hinv := (inv_run rt bytes h₀ as).ledger
  have hready := hinv.ready hstate
  obtain ⟨o, ho, hat, hdisposed⟩ := hready.observation
  obtain ⟨cases, hcases, hcur⟩ := exceptionState_covered hinv.covered ho hat
  refine ⟨?_, hready.report, by rw [hat]; rfl, by rw [ho]; rfl, _, hcases, rfl,
    fun entry hentry hbacklog => ?_⟩
  · have hfreeze := hready.freeze
    simp only [cutoverFinalFreeze, ok_iff] at hfreeze
    obtain ⟨frozen, hfrozen, start, hstart, rfl⟩ := hfreeze
    exact ⟨frozen, hfrozen, hstart⟩
  · cases hdec : entry.decision with
    | some decision => exact .inl rfl
    | none =>
      obtain ⟨slot, hslot, hkey⟩ := hready.settled entry hentry hbacklog hdec
      obtain ⟨r, hr, rfl⟩ := mem_map.mp
        (((hinv.covered.journaled o ho).slots_perm hinv.covered.sound).mem_iff.mpr hslot)
      obtain ⟨c, hc, hcr⟩ := exists_of_forall₂ hcur hr
      refine .inr ⟨⟨c, hc, (congrArg Prod.fst hcr.slot).trans hkey⟩, fun c' hc' _ => ?_⟩
      obtain ⟨r', hr', hcr'⟩ := exists_of_forall₂ hcur.flip hc'
      rw [hcr'.disposition]
      exact hdisposed r' hr'

/-- What was reconciled has its report. -/
theorem ready_settled_opening :
    let M := machine runtime small
    (M.run start opening).ledger.manifest.reportSha256.isSome :=
  (ready_settled created_start opening (by
    delta machine State.step State.observed observe observeCutover
    simp only [byteLength_stringify]
    decide +kernel)).2.1

end CrmYnov.Cutover
