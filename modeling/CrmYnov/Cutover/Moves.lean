import CrmYnov.Base.Growth
import CrmYnov.Cutover.Coverage

/-!
# What a transaction does to a ledger

Every transaction on a ledger is a sequence of a few moves (`CrmYnov.Cutover.Move`): the
manifest is given another state, an entry is decided, a reading is recorded, the catch-up
consumes, a case is disposed of, a compensation is noted. Each of them keeps the invariant
(`CrmYnov.Cutover.Move.covered`), adds to what is recorded and takes nothing of it back
(`CrmYnov.Cutover.Move.later`).
-/

/-!
## What a consumption writes

A consumption writes effects, and what the ingestion has stored, and nothing else. Each effect is
that of an entry which was waiting for it, and is the one its decision asks for
(`CrmYnov.Cutover.consumeCutover_ok`). What waits is a decided entry of the backlog without an
effect and without any exception, so that the journal can be written for what it leaves to be
reviewed (`CrmYnov.Cutover.catchUp_ok`, `CrmYnov.Cutover.refreshCutoverExceptions_error`).
-/

variable {w : Occasion}

namespace CrmYnov.Cutover

open Checked Keyed

variable {rt : Runtime}

/-! ### Effects -/

structure EffectOf (ingested : Table IngestedRecord IngestedRecord.keys)
    (pending : List CutoverEntry) (effect : CutoverEffect) : Prop where
  entry : ∃ entry ∈ pending, entry.key = effect.sourceKey ∧
    entry.decision = some effect.outcome.decision
  record : effect.outcome = .REVIEW →
    ∃ record ∈ ingested.rows, effect.batchId = some record.batchId

structure Consumed (pending : List CutoverEntry) (L L' : Ledger) : Prop where
  frame : L' = { L with effects := L'.effects, ingested := L'.ingested }
  effects : ∃ more, L'.effects.rows = L.effects.rows ++ more ∧
    ∀ effect ∈ more, EffectOf L'.ingested pending effect
  ingested : ∃ more, L'.ingested.rows = L.ingested.rows ++ more

theorem Consumed.save {pending : List CutoverEntry} {L L' : Ledger} (h : Consumed pending L L')
    {ingested : Table IngestedRecord IngestedRecord.keys}
    (hingested : ∃ more, ingested.rows = L'.ingested.rows ++ more) {effect : CutoverEffect}
    (heff : EffectOf ingested pending effect) {L'' : Ledger}
    (hsave : saveCutoverEffect { L' with ingested } effect = .ok L'') : Consumed pending L L'' := by
  simp only [saveCutoverEffect, ok_iff, insert_ok_iff] at hsave
  obtain ⟨effects, hcreate, rfl⟩ := hsave
  obtain ⟨more, hmore, hall⟩ := h.effects
  obtain ⟨before, hbefore⟩ := h.ingested
  obtain ⟨after, hafter⟩ := hingested
  refine ⟨?_, ⟨more ++ [effect], ?_, fun e he => ?_⟩, before ++ after, ?_⟩
  · rw [h.frame]
  · rw [Table.create_rows hcreate, hmore, List.append_assoc]
  · rcases List.mem_append.mp he with he | he
    · refine ⟨(hall e he).entry, fun hreview => ?_⟩
      obtain ⟨record, hrecord, hbatch⟩ := (hall e he).record hreview
      exact ⟨record, by rw [hafter]; exact List.mem_append_left after hrecord, hbatch⟩
    · obtain rfl := List.mem_singleton.mp he
      exact heff
  · rw [hafter, hbefore, List.append_assoc]

theorem Consumed.entry {pending : List CutoverEntry} {L L' L'' : Ledger} (h : Consumed pending L L')
    {entry : CutoverEntry} (hentry : entry ∈ pending) (hconsume : consumeEntry L' w entry = .ok L'') :
    Consumed pending L L'' := by
  rw [consumeEntry.eq_def] at hconsume
  cases hdec : entry.decision with
  | none =>
    rw [hdec] at hconsume
    cases hconsume
  | some decision =>
    rw [hdec] at hconsume
    cases decision with
    | LINK_BASELINE =>
      simp only [linkEntry, bind_ok_iff] at hconsume
      obtain ⟨leadId, -, -, -, hsave⟩ := hconsume
      have hsame : ∃ more, L'.ingested.rows = L'.ingested.rows ++ more := ⟨[], by simp⟩
      refine h.save hsame ⟨⟨entry, hentry, rfl, ?_⟩, fun hreview => ?_⟩ hsave
      · exact hdec
      · cases hreview
    | KEEP_FOR_CATCHUP =>
      simp only [keepEntry, bind_ok_iff, insert_ok_iff] at hconsume
      obtain ⟨_, -, campus, -, -, -, result, -, ingested, hcreate, -, -, -, -, hsave⟩ := hconsume
      refine h.save ⟨[result.record], Table.create_rows hcreate⟩
        ⟨⟨entry, hentry, rfl, ?_⟩, fun _ => ?_⟩ hsave
      · cases result.created <;> exact hdec
      · exact ⟨result.record, (Table.mem_create hcreate).mpr (.inr rfl), rfl⟩

/-- **What a consumption writes**: what was checked before it, and its effects. -/
theorem consumeCutover_ok {L L' : Ledger} {limit n : ℕ}
    (h : consumeCutover rt L limit w = .ok (n, L')) :
    (L.manifest.state = .READY_FOR_CATCHUP ∧ L.manifest.reportSha256.isSome ∧
        L.manifest.observedAt.isSome) ∧
      cutoverFinalFreeze rt L.manifest.contract.excelFrozenAt L.manifest.contract.t0 = .ok () ∧
      ∃ exceptions, assertCutoverExceptions rt L = .ok exceptions ∧
        Consumed (pendingEntries L exceptions.quarantinedKeys limit) L L' := by
  simp only [consumeCutover, ok_iff] at h
  obtain ⟨-, -, connector, -, ⟨⟩, hfreeze, -, -, -, hstate, -, -, exceptions, hexcs, -, -,
    -, -, -, -, L'', hfold, -, rfl⟩ := h
  refine ⟨hstate, hfreeze, exceptions, hexcs, ?_⟩
  refine foldlM_keeps (I := Consumed (pendingEntries L exceptions.quarantinedKeys limit) L)
    (fun _ hentry _ _ hconsumed hstep => hconsumed.entry hentry hstep) ?_ hfold
  exact ⟨rfl, ⟨[], by simp, by simp⟩, [], by simp⟩

end CrmYnov.Cutover

namespace CrmYnov.Cutover

open Checked Keyed

variable {rt : Runtime} {bytes : Ledger → ℕ} {L L' : Ledger}

/-! ### Ledgers with the same exceptions -/

/-- Two ledgers have the same exceptions: what these rest on is the same in both. -/
structure SameExceptions (L L' : Ledger) : Prop where
  contract : L'.manifest.contract = L.manifest.contract
  header : L'.manifest.headerSha256 = L.manifest.headerSha256
  inventory : L'.manifest.inventory.map CutoverEntry.undecided =
    L.manifest.inventory.map CutoverEntry.undecided
  reviews : reviewEffects L' = reviewEffects L
  ingested : L'.ingested = L.ingested

variable {sources : List CutoverObservedSource}

namespace SameExceptions

variable (h : SameExceptions L L')

include h

theorem map_eq {β : Type} {f : CutoverEntry → β} (hf : ∀ entry, f entry.undecided = f entry) :
    L'.manifest.inventory.map f = L.manifest.inventory.map f := by
  have hmap : ∀ entries : List CutoverEntry,
      entries.map f = (entries.map CutoverEntry.undecided).map f := fun entries => by
    rw [List.map_map]
    exact List.map_congr_left fun entry _ => (hf entry).symm
  rw [hmap, hmap L.manifest.inventory, h.inventory]

theorem mem {entry : CutoverEntry} (hentry : entry ∈ L'.manifest.inventory) :
    ∃ old ∈ L.manifest.inventory, old.undecided = entry.undecided := by
  have hmem : entry.undecided ∈ L.manifest.inventory.map CutoverEntry.undecided := by
    rw [← h.inventory]
    exact List.mem_map.mpr ⟨entry, hentry, rfl⟩
  exact List.mem_map.mp hmem

theorem binding (rt : Runtime) : cutoverExceptionBindingHash rt L'.manifest =
    cutoverExceptionBindingHash rt L.manifest := by
  rw [cutoverExceptionBindingHash, cutoverExceptionBindingHash, h.contract, h.header]

theorem expectedEvidence (rt : Runtime) (sources : List CutoverObservedSource) :
    expectedEvidence rt L' sources = expectedEvidence rt L sources := by
  have hissue : ∀ entry source kind review, issueEvidence rt L'.manifest entry source kind review =
      issueEvidence rt L.manifest entry source kind review := fun entry source kind review => by
    simp only [issueEvidence, h.binding rt, h.header]
  have hentry : entryEvidence rt L' sources = entryEvidence rt L sources := by
    funext entry
    simp only [entryEvidence, hissue, h.reviews, h.ingested]
  have hundecided : ∀ entries : List CutoverEntry, entries.mapM (entryEvidence rt L sources) =
      (entries.map CutoverEntry.undecided).mapM (entryEvidence rt L sources) := fun entries => by
    rw [List.mapM_map]
    rfl
  have hkeys : ∀ effect : CutoverEffect,
      (∃ entry ∈ L'.manifest.inventory, entry.key = effect.sourceKey) ↔
        ∃ entry ∈ L.manifest.inventory, entry.key = effect.sourceKey := fun effect => by
    have hmap := h.map_eq (f := CutoverEntry.key) fun _ => rfl
    rw [← List.mem_map, ← List.mem_map, hmap]
  simp only [Cutover.expectedEvidence, h.reviews, h.ingested, ingestedOf, hentry, hkeys]
  rw [hundecided, h.inventory, ← hundecided]
  congr!

theorem exceptionsOf : exceptionsOf L' = exceptionsOf L := by
  have hslots : ∀ entries : List CutoverEntry, entries.filterMap CutoverEntry.slot? =
      (entries.map CutoverEntry.undecided).filterMap CutoverEntry.slot? := fun entries => by
    rw [List.filterMap_map]
    rfl
  rw [Cutover.exceptionsOf, Cutover.exceptionsOf, h.reviews, hslots, h.inventory, ← hslots]

theorem reviewable (hr : Reviewable L) : Reviewable L' where
  keys := by
    rw [h.map_eq fun _ => rfl]
    exact hr.keys
  bounded := by
    have hlen := congrArg List.length h.inventory
    rw [List.length_map, List.length_map] at hlen
    exact hlen.le.trans hr.bounded
  entry effect heff := by
    rw [h.reviews] at heff
    have hkey : effect.sourceKey ∈ L'.manifest.inventory.map CutoverEntry.key := by
      rw [h.map_eq fun _ => rfl]
      exact List.mem_map.mpr (hr.entry effect heff)
    exact List.mem_map.mp hkey
  record effect heff := by
    rw [h.reviews] at heff
    rw [h.ingested]
    exact hr.record effect heff

theorem covers (hc : Covers L.manifest.inventory sources) :
    Covers L'.manifest.inventory sources where
  keys := by
    rw [h.map_eq fun _ => rfl]
    exact hc.keys
  shape := hc.shape
  undisturbed entry hentry hissue := by
    obtain ⟨old, hold, hsame⟩ := h.mem hentry
    obtain ⟨hkey, hissue', hprint, -⟩ := read_of_undecided hsame
    rw [← hkey, ← hprint]
    exact hc.undisturbed old hold (hissue'.trans hissue)

end SameExceptions

/-- **The invariant of a ledger with the same exceptions**: the observation is the same one, and
what was disposed of and decided is accounted for. -/
theorem Covered.of_same (h : Covered rt L) (hsame : SameExceptions L L')
    (hcases : L'.cases = L.cases)
    (hobservation : L'.manifest.exceptionObservation = L.manifest.exceptionObservation)
    (hat : ∀ t ∈ L'.manifest.observedAt, L.manifest.observedAt = some t)
    (hver : L.manifest.version ≤ L'.manifest.version)
    (heffs : ∀ effect ∈ L'.effects.rows, Decided L'.manifest.inventory effect)
    (hdisposed : ∀ d ∈ L'.dispositions.rows, ∃ c ∈ L.cases.rows,
      c.id = d.caseId ∧ c.evidenceSha256 = d.evidenceSha256) : Covered rt L' where
  sound := {
    reviewable := hsame.reviewable h.sound.reviewable
    fingerprints := fun entry hentry => by
      obtain ⟨old, hold, heq⟩ := hsame.mem hentry
      obtain ⟨-, -, hprint, hpayload⟩ := read_of_undecided heq
      rw [← hprint, ← hpayload]
      exact h.sound.fingerprints old hold
    effects := heffs
    cases := by
      rw [hcases, hsame.exceptionsOf]
      exact h.sound.cases
    disposed := by
      rw [hcases]
      exact hdisposed }
  journaled o ho := by
    have hj := h.journaled o (by rwa [← hobservation])
    obtain ⟨expected, hexpected, hnamed⟩ := hj.named
    refine ⟨⟨?_, ?_, ?_, ?_, hj.observed.digest, hsame.covers hj.observed.covers⟩, expected,
      by rwa [hsame.expectedEvidence rt], by rwa [hcases]⟩
    · rw [hsame.binding rt]
      exact hj.observed.binding
    · rw [hsame.header]
      exact hj.observed.header
    · exact fun t ht => hj.observed.observedAt t (hat t ht)
    · exact hj.observed.version.trans hver

/-! ### Recording a reading -/

theorem mem_exceptionsOf {slot : Slot} : slot ∈ exceptionsOf L ↔
    (∃ entry ∈ L.manifest.inventory, entry.slot? = some slot) ∨
      ∃ effect ∈ reviewEffects L, effect.slot = slot := by
  rw [exceptionsOf, List.mem_append, List.mem_filterMap, List.mem_map]

theorem Continues.slot {old entry : CutoverEntry} (h : Continues old entry) {slot : Slot}
    (hslot : old.slot? = some slot) : entry.slot? = some slot := by
  obtain ⟨issue, hissue, rfl⟩ := Option.map_eq_some_iff.mp hslot
  rw [CutoverEntry.slot?, h.issue issue hissue, h.key]
  rfl

/-- A manifest with what was read of its source, whatever else is written with it. -/
structure Rereads (row : StoredCutover) (observed : ObservedCutover) (next : StoredCutover) :
    Prop where
  contract : next.contract = row.contract
  header : next.headerSha256 = some observed.headerSha256
  inventory : next.inventory = observed.entries ∨ next.inventory =
    observed.entries.map (CutoverEntry.automatic (row.inventory.map CutoverEntry.key))
  observedAt : next.observedAt.isSome
  observation : next.exceptionObservation = row.exceptionObservation
  version : row.version < next.version

variable {values : SheetValues}

theorem Rereads.reread {row next : StoredCutover} {observed : ObservedCutover}
    (h : Rereads row observed next) (hkeys : (row.inventory.map CutoverEntry.key).Nodup)
    (hacc : observeCutover rt row.contract values row.inventory row.headerSha256 =
      .ok observed) :
    ∃ rows, trueRows rt next.contract [] values.rows = .ok rows ∧
      Reread rt row.inventory rows next.inventory := by
  obtain ⟨-, rows, htrue, hreread⟩ := observeCutover_ok hkeys hacc
  rw [h.contract]
  refine ⟨rows, htrue, ?_⟩
  rcases h.inventory with heq | heq
  · rw [heq]
    exact hreread
  · rw [heq]
    exact hreread.automatic

variable {next : StoredCutover} {rows : List SourceRow}

theorem Sound.reread (h : Sound rt L) (hreread : Reread rt L.manifest.inventory rows next.inventory) :
    Sound rt { L with manifest := next } where
  reviewable := {
    keys := hreread.keys
    bounded := hreread.bounded
    entry := fun effect heff => by
      obtain ⟨old, hold, hkey⟩ := h.reviewable.entry effect heff
      obtain ⟨entry, hentry, hcontinues⟩ := hreread.stays old hold
      exact ⟨entry, hentry, hcontinues.key.trans hkey⟩
    record := h.reviewable.record }
  fingerprints entry hentry := by
    rcases hreread.origin entry hentry with ⟨old, hold, hcontinues⟩ | ⟨-, harrives⟩
    · have hpayload : entry.payload = old.payload := by
        have hsame := congrArg CutoverEntry.payload hcontinues.same
        exact hsame
      rw [hcontinues.fingerprint, hpayload]
      exact h.fingerprints old hold
    · obtain ⟨row, hrow, -, hprint, hpayload⟩ := harrives.row
      rw [← hprint, ← hpayload]
      exact hreread.read.fingerprint row hrow
  effects effect heff := by
    obtain ⟨old, hold, hkey, hbacklog, hdec⟩ := h.effects effect heff
    obtain ⟨entry, hentry, hcontinues⟩ := hreread.stays old hold
    have hclass : entry.classification = old.classification := by
      have hsame := congrArg CutoverEntry.classification hcontinues.same
      exact hsame
    have hdecided : entry.decision = old.decision := by
      have hsame := congrArg CutoverEntry.decision hcontinues.same
      exact hsame
    exact ⟨entry, hentry, hcontinues.key.trans hkey, hclass.trans hbacklog,
      hdecided.trans hdec⟩
  cases c hc := by
    obtain ⟨hsound, hslot⟩ := h.cases c hc
    refine ⟨hsound, mem_exceptionsOf.mpr ?_⟩
    rcases mem_exceptionsOf.mp hslot with ⟨old, hold, hissue⟩ | ⟨effect, heff, heq⟩
    · obtain ⟨entry, hentry, hcontinues⟩ := hreread.stays old hold
      exact .inl ⟨entry, hentry, hcontinues.slot hissue⟩
    · exact .inr ⟨effect, heff, heq⟩
  disposed := h.disposed

/-! ### Writing the journal -/

variable {o : CutoverExceptionObservation} {ev : CutoverExceptionEvidence}

theorem shape_of_isEvidence (hc : Covers L.manifest.inventory o.sources)
    (hev : IsEvidence rt L o.sources ev) : ¬ev.source.present → ev.source.fingerprint = none := by
  intro hgone
  have hshape := hc.shape ev.source hev.source.1
  rw [if_neg hgone] at hshape
  exact hshape.1

theorem mem_orderedCases (L : Ledger) (c : CutoverExceptionCase) :
    c ∈ orderedCases L ↔ c ∈ L.cases.rows := (List.perm_insertionSort _ _).mem_iff

variable {caseId : ℕ → String}

/-- **What the journal leaves**: the ledger with the cases of its observation, and these cover
the exceptions there are. -/
theorem journal_ok (h : Sound rt L) (ho : Observed rt L.manifest o)
    (hprev : ∀ evidences, Referred
      ((L.manifest.exceptionObservation.map CutoverExceptionObservation.cases).getD [])
      L.cases.rows evidences) (hjournal : journal rt bytes L o rows caseId = .ok L') :
    ∃ references cases,
      L' = { L with
        manifest := { L.manifest with
          exceptionObservation := some { o with cases := references } }
        cases } ∧
      (∃ more, cases.rows = L.cases.rows ++ more ∧ ∀ c ∈ more, c.slot ∈ exceptionsOf L) ∧
      Covered rt L' := by
  obtain ⟨expected, hexpected, hperm, hall⟩ := expectedEvidence_ok rt h.reviewable ho.covers.keys
  simp only [journal, ok_iff, hexpected, Except.ok.injEq, exists_eq_left', Prod.exists] at hjournal
  obtain ⟨references, cases, hcases, ⟨⟩, -, rfl⟩ := hjournal
  have hslots := hperm.nodup_iff.mpr (nodup_exceptionsOf h.reviewable)
  obtain ⟨hnamed, more, hmore, hnew⟩ := journalCases_ok (mem_orderedCases L) hslots
    (hprev expected) (fun ev hev => shape_of_isEvidence ho.covers (hall ev hev)) hcases
  have hexcepted : ∀ c ∈ more, c.slot ∈ exceptionsOf L := fun c hc => by
    obtain ⟨-, ev, hev, hslot⟩ := hnew c hc
    rw [hslot]
    exact hperm.mem_iff.mp (List.mem_map.mpr ⟨ev, hev, rfl⟩)
  refine ⟨references, cases, rfl, ⟨more, hmore, hexcepted⟩, ⟨?_, fun o' ho' => ?_⟩⟩
  · have hsame : SameExceptions L { L with
        manifest := { L.manifest with exceptionObservation := some { o with cases := references } }
        cases } := ⟨rfl, rfl, rfl, rfl, rfl⟩
    refine ⟨hsame.reviewable h.reviewable, h.fingerprints, h.effects, fun c hc => ?_,
      fun d hd => ?_⟩
    · have hc : c ∈ cases.rows := hc
      rw [hmore] at hc
      rcases List.mem_append.mp hc with hc | hc
      · exact h.cases c hc
      · exact ⟨(hnew c hc).1, hexcepted c hc⟩
    · obtain ⟨c, hc, hid⟩ := h.disposed d hd
      exact ⟨c, by rw [hmore]; exact List.mem_append_left more hc, hid⟩
  · obtain rfl := Option.some.inj (Option.mem_def.mp ho')
    exact ⟨⟨ho.binding, ho.header, ho.observedAt, ho.version, ho.digest, ho.covers⟩, expected,
      hexpected, hnamed⟩

/-- The code of a journal that has grown too large. -/
def boundExceeded : Failure := conflict "cutover_exception_journal_bound_exceeded"

/-- **Only the bound, or a taken identifier, keeps the journal from being written**, where each
evidence keeps its case or can be paid for. -/
theorem journal_error (h : Sound rt L) (ho : Observed rt L.manifest o)
    (hpay : ∀ ev, IsEvidence rt L o.sources ev →
      (keptCase rt ((L.manifest.exceptionObservation.map
        CutoverExceptionObservation.cases).getD []) (orderedCases L) ev).isSome ∨
      Payable rt L.manifest.inventory rows ev) {e : Failure}
    (hjournal : journal rt bytes L o rows caseId = .error e) :
    e = boundExceeded ∨ e = .database ∧ ¬Free L.cases caseId := by
  obtain ⟨expected, hexpected, -, hall⟩ := expectedEvidence_ok rt h.reviewable ho.covers.keys
  simp only [journal, hexpected, ok_bind] at hjournal
  cases hcases : journalCases rt L.manifest.inventory
      ((L.manifest.exceptionObservation.map CutoverExceptionObservation.cases).getD []) rows
      caseId expected (orderedCases L) L.cases with
  | error e' =>
    rw [hcases] at hjournal
    cases hjournal
    exact .inr (journalCases_error h.reviewable.keys h.fingerprints (mem_orderedCases L)
      (fun c hc => (h.cases c hc).1)
      (fun ev hev => shape_of_isEvidence ho.covers (hall ev hev))
      (fun ev hev => hpay ev (hall ev hev)) hcases)
  | ok r =>
    rw [hcases, ok_bind] at hjournal
    refine .inl ?_
    rw [assertCutoverJournalBounds, require] at hjournal
    split at hjournal
    · cases hjournal
    · cases hjournal
      rfl

/-! ### Observing the exceptions -/

/-- What an observation made of an accepted reading is. -/
structure Observation (rt : Runtime) (next : StoredCutover) (rows : List SourceRow)
    (o : CutoverExceptionObservation) : Prop where
  observed : Observed rt next o
  version : o.observedManifestVersion = next.version
  current : next.observedAt = some o.observedAt
  read : ReadRows rt [] rows
  witnessed : ∀ source ∈ o.sources, Witnessed rows source

variable (bytes) in
/-- **The observation of an accepted reading is never refused**: what is left is to write the
journal. -/
theorem observeCutoverExceptions_eq {row next : StoredCutover} {observed : ObservedCutover}
    (hkeys : (row.inventory.map CutoverEntry.key).Nodup)
    (hacc : observeCutover rt row.contract values row.inventory row.headerSha256 =
      .ok observed) (hnext : Rereads row observed next) (hL : L.manifest = next)
    (caseId : ℕ → String) :
    ∃ o rows, Observation rt next rows o ∧
      observeCutoverExceptions rt bytes L values caseId = journal rt bytes L o rows caseId := by
  obtain ⟨rows, htrue, hreread⟩ := hnext.reread hkeys hacc
  obtain ⟨sources, hsources, hcovers, hwitnessed⟩ := cutoverTrueObservation_ok htrue hreread
  obtain ⟨t, ht⟩ := Option.isSome_iff_exists.mp hnext.observedAt
  subst hL
  let o : CutoverExceptionObservation := {
    bindingSha256 := cutoverExceptionBindingHash rt L.manifest
    headerSha256 := observed.headerSha256
    sourceEvidenceSha256 := cutoverTrueObservationHash rt
      (cutoverExceptionBindingHash rt L.manifest) observed.headerSha256 sources
    observedAt := t, observedManifestVersion := L.manifest.version, sources, cases := [] }
  refine ⟨o, rows, ⟨⟨rfl, hnext.header, fun t' ht' => ?_, le_rfl, rfl, hcovers⟩, rfl, ht,
    hreread.read, hwitnessed⟩, ?_⟩
  · rw [ht] at ht'
    exact (Option.some.inj ht').symm
  · simp only [observeCutoverExceptions, hnext.header, ht, hsources, demand_some, ok_bind]
    rfl

theorem Observation.payable (h : Observation rt next rows o) (hev : IsEvidence rt L o.sources ev) :
    Payable rt next.inventory rows ev := by
  obtain ⟨hsource, hkey⟩ := hev.source
  have hwitnessed := h.witnessed ev.source hsource
  refine ⟨fun row hrow hrowKey => ?_, fun hpresent => .inl ?_⟩
  · rcases hwitnessed with ⟨row', hrow', heq⟩ | ⟨hgone, -⟩
    · have hsame : row'.key = row.key := by
        rw [hrowKey, ← hkey, heq]
        rfl
      obtain rfl := eq_of_key h.read.keys hrow' hrow hsame
      rw [heq, ← h.read.fingerprint row' hrow']
      rfl
    · exact absurd (List.mem_map.mpr ⟨row, hrow, hrowKey.trans hkey.symm⟩) hgone
  · rcases hwitnessed with ⟨row, hrow, heq⟩ | ⟨-, hgone⟩
    · refine ⟨row, hrow, ?_⟩
      rw [← hkey, heq]
      rfl
    · rw [hgone] at hpresent
      cases hpresent

/-- **What recording a reading leaves**: the exceptions are covered again, by an observation of
this reading. -/
theorem observeCutoverExceptions_ok (h : Covered rt L) {observed : ObservedCutover}
    (hacc : observeCutover rt L.manifest.contract values L.manifest.inventory
      L.manifest.headerSha256 = .ok observed) (hnext : Rereads L.manifest observed next)
    (hobserve : observeCutoverExceptions rt bytes { L with manifest := next } values caseId =
      .ok L') :
    ∃ o cases, L' = { L with
        manifest := { next with exceptionObservation := some o }, cases } ∧
      o.observedManifestVersion = next.version ∧ next.observedAt = some o.observedAt ∧
      (∃ more, cases.rows = L.cases.rows ++ more ∧ ∀ c ∈ more, c.slot ∈ exceptionsOf L') ∧
      Covered rt L' := by
  obtain ⟨o, rows, ho, heq⟩ := observeCutoverExceptions_eq bytes
    h.sound.reviewable.keys hacc hnext (L := { L with manifest := next }) rfl caseId
  rw [heq] at hobserve
  obtain ⟨rows', -, hreread⟩ := hnext.reread h.sound.reviewable.keys hacc
  have hprev := h.referred
  rw [← hnext.observation] at hprev
  obtain ⟨references, cases, rfl, hmore, hcovered⟩ :=
    journal_ok (h.sound.reread hreread) ho.observed hprev hobserve
  exact ⟨_, cases, rfl, ho.version, ho.current, hmore, hcovered⟩

theorem observeCutoverExceptions_error (h : Covered rt L) {observed : ObservedCutover}
    (hacc : observeCutover rt L.manifest.contract values L.manifest.inventory
      L.manifest.headerSha256 = .ok observed) (hnext : Rereads L.manifest observed next)
    {e : Failure}
    (hobserve : observeCutoverExceptions rt bytes { L with manifest := next } values caseId =
      .error e) : e = boundExceeded ∨ e = .database ∧ ¬Free L.cases caseId := by
  obtain ⟨o, rows, ho, heq⟩ := observeCutoverExceptions_eq bytes
    h.sound.reviewable.keys hacc hnext (L := { L with manifest := next }) rfl caseId
  rw [heq] at hobserve
  obtain ⟨rows', -, hreread⟩ := hnext.reread h.sound.reviewable.keys hacc
  exact journal_error (h.sound.reread hreread) ho.observed
    (fun ev hev => .inr (ho.payable hev)) hobserve

/-! ### The catch-up -/

/-- **What an assertion says of the exceptions**: each of them is disposed of, and its source
was read since. -/
structure Asserted (L : Ledger) (state : CutoverExceptionState)
    (o : CutoverExceptionObservation) : Prop where
  observation : L.manifest.exceptionObservation = some o
  current : L.manifest.observedAt = some o.observedAt
  cases : List.Forall₂ (CurrentOf L o) o.cases state.cases
  disposed : ∀ c ∈ state.cases, c.disposition ≠ none
  read : ∀ c ∈ state.cases, c.requiresReobservation = false

variable {state : CutoverExceptionState}

theorem assertCutoverExceptions_ok (h : Covered rt L)
    (hassert : assertCutoverExceptions rt L = .ok state) :
    cutoverExceptionState rt L = .ok state ∧ state.coverageValid = true ∧
      ∃ o, Asserted L state o := by
  simp only [assertCutoverExceptions, ok_iff] at hassert
  obtain ⟨state', hstate, ⟨⟩, ⟨hvalid, hread⟩, ⟨⟩, hunresolved, rfl⟩ := hassert
  obtain ⟨o, ho, hat, hcases⟩ := exceptionState_valid h hstate hvalid
  refine ⟨hstate, hvalid, o, ho, hat, hcases, fun c hc hnone => ?_, fun c hc => ?_⟩
  · rw [CutoverExceptionState.unresolvedCases, if_pos hvalid, List.countP_eq_zero] at hunresolved
    exact hunresolved c hc (decide_eq_true hnone)
  · rw [CutoverExceptionState.requiresReobservation, hvalid, Bool.not_true, Bool.false_or,
      List.any_eq_false] at hread
    simpa using hread c hc

theorem Asserted.quarantined (h : Covered rt L) (ha : Asserted L state o) {key : String} :
    key ∈ state.quarantinedKeys ↔ ∃ slot ∈ exceptionsOf L, slot.1 = key := by
  have hslots := (h.journaled o ha.observation).slots_perm h.sound
  rw [CutoverExceptionState.quarantinedKeys, List.mem_filter, mem_unique, decide_eq_true_eq]
  constructor
  · rintro ⟨hmem, -⟩
    obtain ⟨c, hc, rfl⟩ := List.mem_map.mp hmem
    obtain ⟨r, hr, hcur⟩ := exists_of_forall₂ ha.cases.flip hc
    refine ⟨r.slot, hslots.mem_iff.mp (List.mem_map.mpr ⟨r, hr, rfl⟩), ?_⟩
    rw [← hcur.slot]
    rfl
  · rintro ⟨slot, hslot, rfl⟩
    obtain ⟨r, hr, rfl⟩ := List.mem_map.mp (hslots.mem_iff.mpr hslot)
    obtain ⟨c, hc, hcur⟩ := exists_of_forall₂ ha.cases hr
    refine ⟨List.mem_map.mpr ⟨c, hc, congrArg Prod.fst hcur.slot⟩, fun c' hc' _ => ?_⟩
    exact ha.disposed c' hc'

/-- **An entry that waits for its effect**: it has none, and no exception. -/
structure Waiting (L : Ledger) (entry : CutoverEntry) : Prop where
  mem : entry ∈ L.manifest.inventory
  backlog : entry.classification = .BACKLOG
  effect : entry.key ∉ L.effects.rows.map CutoverEffect.sourceKey
  exception : ∀ slot ∈ exceptionsOf L, slot.1 ≠ entry.key

theorem Waiting.issue {entry : CutoverEntry} (h : Waiting L entry) : entry.issue = none := by
  rw [Option.eq_none_iff_forall_ne_some]
  intro issue hissue
  refine h.exception (entry.key, issue.kind) (mem_exceptionsOf.mpr (.inl ⟨entry, h.mem, ?_⟩)) rfl
  rw [CutoverEntry.slot?, hissue]
  rfl

theorem waiting_of_pending (h : Covered rt L) (ha : Asserted L state o) {limit : ℕ}
    {entry : CutoverEntry} (hentry : entry ∈ pendingEntries L state.quarantinedKeys limit) :
    Waiting L entry := by
  obtain ⟨hmem, hpend⟩ := List.mem_filter.mp (List.mem_of_mem_take hentry)
  obtain ⟨hbacklog, heff, hquarantine⟩ := of_decide_eq_true hpend
  refine ⟨hmem, hbacklog, heff, fun slot hslot hkey => hquarantine ?_⟩
  exact (ha.quarantined h).mpr ⟨slot, hslot, hkey⟩

/-- A ledger once its catch-up has gone on, before the journal is written. -/
structure Advanced (L L₁ : Ledger) : Prop where
  consumed : ∃ pending, Consumed pending L { L₁ with manifest := L.manifest } ∧
    ∀ entry ∈ pending, Waiting L entry
  manifest : L₁.manifest = { L.manifest with version := L.manifest.version + 1 }

section Advanced

variable {L₁ : Ledger}

theorem Advanced.reviews (h : Advanced L L₁) :
    ∃ more, reviewEffects L₁ = reviewEffects L ++ more ∧ ∀ effect ∈ more,
      effect.outcome = .REVIEW ∧ ∃ entry, Waiting L entry ∧ entry.key = effect.sourceKey ∧
        ∃ record ∈ L₁.ingested.rows, effect.batchId = some record.batchId := by
  obtain ⟨pending, hconsumed, hwaiting⟩ := h.consumed
  obtain ⟨more, hmore, hall⟩ := hconsumed.effects
  refine ⟨more.filter fun effect => effect.outcome = .REVIEW, ?_, fun effect heff => ?_⟩
  · have hmore : L₁.effects.rows = L.effects.rows ++ more := hmore
    rw [reviewEffects, Table.findMany, hmore, List.filter_append]
    rfl
  · obtain ⟨hmem, hreview⟩ := List.mem_filter.mp heff
    obtain ⟨entry, hentry, hkey, -⟩ := (hall effect hmem).entry
    exact ⟨of_decide_eq_true hreview, entry, hwaiting entry hentry, hkey,
      (hall effect hmem).record (of_decide_eq_true hreview)⟩

theorem Advanced.exceptions (h : Advanced L L₁) : exceptionsOf L ⊆ exceptionsOf L₁ := by
  intro slot hslot
  obtain ⟨more, hmore, -⟩ := h.reviews
  rw [mem_exceptionsOf, hmore, h.manifest]
  refine (mem_exceptionsOf.mp hslot).imp_right ?_
  rintro ⟨effect, heff, heq⟩
  exact ⟨effect, List.mem_append_left more heff, heq⟩

theorem Advanced.findUnique (h : Advanced L L₁) {batchId : String} {record : IngestedRecord}
    (hfound : L.ingested.findUnique batchId = some record) :
    L₁.ingested.findUnique batchId = some record := by
  obtain ⟨pending, hconsumed, -⟩ := h.consumed
  obtain ⟨more, hmore⟩ := hconsumed.ingested
  obtain ⟨hmem, hkey⟩ := Table.findUnique_eq_some.mp hfound
  have hmore : L₁.ingested.rows = L.ingested.rows ++ more := hmore
  exact Table.findUnique_of_mem (by rw [hmore]; exact List.mem_append_left more hmem) hkey

theorem Advanced.sound (hS : Sound rt L) (h : Advanced L L₁) : Sound rt L₁ := by
  obtain ⟨pending, hconsumed, hwaiting⟩ := h.consumed
  obtain ⟨more, hmore, hall⟩ := hconsumed.effects
  obtain ⟨before, hbefore⟩ := hconsumed.ingested
  obtain ⟨reviews, hreviews, hnew⟩ := h.reviews
  have hmore : L₁.effects.rows = L.effects.rows ++ more := hmore
  have hbefore : L₁.ingested.rows = L.ingested.rows ++ before := hbefore
  have hinventory : L₁.manifest.inventory = L.manifest.inventory := by rw [h.manifest]
  have hcases := congrArg Ledger.cases hconsumed.frame
  have hdisps := congrArg Ledger.dispositions hconsumed.frame
  simp only at hcases hdisps
  refine ⟨⟨?_, ?_, fun effect heff => ?_, fun effect heff => ?_⟩, ?_, fun effect heff => ?_,
    fun c hc => ?_, fun d hd => ?_⟩
  · rw [hinventory]
    exact hS.reviewable.keys
  · rw [hinventory]
    exact hS.reviewable.bounded
  · rw [hreviews] at heff
    rw [hinventory]
    rcases List.mem_append.mp heff with heff | heff
    · exact hS.reviewable.entry effect heff
    · obtain ⟨-, entry, hentry, hkey, -⟩ := hnew effect heff
      exact ⟨entry, hentry.mem, hkey⟩
  · rw [hreviews] at heff
    rcases List.mem_append.mp heff with heff | heff
    · obtain ⟨record, hrecord, hbatch⟩ := hS.reviewable.record effect heff
      exact ⟨record, by rw [hbefore]; exact List.mem_append_left before hrecord, hbatch⟩
    · obtain ⟨-, entry, -, -, hrecord⟩ := hnew effect heff
      exact hrecord
  · rw [hinventory]
    exact hS.fingerprints
  · rw [hmore] at heff
    rw [hinventory]
    rcases List.mem_append.mp heff with heff | heff
    · exact hS.effects effect heff
    · obtain ⟨entry, hentry, hkey, hdec⟩ := (hall effect heff).entry
      exact ⟨entry, (hwaiting entry hentry).mem, hkey, (hwaiting entry hentry).backlog, hdec⟩
  · rw [hcases] at hc
    obtain ⟨hsound, hslot⟩ := hS.cases c hc
    exact ⟨hsound, h.exceptions hslot⟩
  · rw [hdisps] at hd
    rw [hcases]
    exact hS.disposed d hd

/-- **An evidence is told by its slot.** -/
theorem IsEvidence.eq_of_slot (hr : Reviewable L) {ev ev' : CutoverExceptionEvidence}
    (h : IsEvidence rt L sources ev) (h' : IsEvidence rt L sources ev') (hslot : ev.slot = ev'.slot) :
    ev = ev' := by
  obtain ⟨hkey, hkind⟩ := Prod.mk.inj hslot
  cases h with
  | @issue entry source issue hentry hsource hissue =>
    cases h' with
    | @issue entry' source' issue' hentry' hsource' hissue' =>
      obtain rfl := eq_of_key hr.keys hentry hentry' hkey
      obtain rfl := Option.mem_unique hsource hsource'
      obtain rfl := Option.mem_unique hissue hissue'
      rfl
    | review => exact absurd hkind issue.kind_ne_review
  | @review entry source effect record hentry hsource heff hkeyEffect hrecord =>
    cases h' with
    | @issue entry' source' issue' _ _ _ => exact absurd hkind.symm issue'.kind_ne_review
    | @review entry' source' effect' record' hentry' hsource' heff' hkeyEffect' hrecord' =>
      obtain rfl := eq_of_key hr.keys hentry hentry' hkey
      obtain rfl := Option.mem_unique hsource hsource'
      obtain rfl := eq_of_key (nodup_reviewEffects L) heff heff'
        (hkeyEffect.trans hkeyEffect'.symm)
      obtain rfl := Option.mem_unique hrecord hrecord'
      rfl

theorem IsEvidence.slot_mem (h : IsEvidence rt L sources ev) : ev.slot ∈ exceptionsOf L := by
  rw [mem_exceptionsOf]
  cases h with
  | issue hentry _ hissue =>
    refine .inl ⟨_, hentry, ?_⟩
    rw [CutoverEntry.slot?, hissue]
    rfl
  | review hentry _ heff hkey _ =>
    exact .inr ⟨_, heff, Prod.ext hkey rfl⟩

/-- **An evidence after a consumption**: it was one before, or it is the review of an effect
whose entry had no exception. -/
theorem Advanced.evidence (h : Advanced L L₁) (hr : Reviewable L)
    (hev : IsEvidence rt L₁ sources ev) :
    IsEvidence rt L sources ev ∨ ∃ entry, Waiting L entry ∧ entry.key = ev.sourceKey := by
  obtain ⟨more, hmore, hnew⟩ := h.reviews
  have hissue : ∀ entry source kind review, issueEvidence rt L₁.manifest entry source kind review =
      issueEvidence rt L.manifest entry source kind review := fun entry source kind review => by
    rw [h.manifest]
    rfl
  have hinventory : L₁.manifest.inventory = L.manifest.inventory := by rw [h.manifest]
  cases hev with
  | issue hentry hsource hissue' =>
    rw [hinventory] at hentry
    rw [hissue]
    exact .inl (.issue hentry hsource hissue')
  | @review entry source effect record hentry hsource heff hkey hrecord =>
    rw [hinventory] at hentry
    rw [hmore] at heff
    rcases List.mem_append.mp heff with heff | heff
    · -- the record of an earlier review is the one it had
      obtain ⟨record', hrecord'⟩ := hr.found heff
      obtain ⟨batchId, hbatch, hfound⟩ := Option.bind_eq_some_iff.mp hrecord'
      rw [hbatch, Option.bind_some, h.findUnique hfound] at hrecord
      cases hrecord
      rw [hissue]
      exact .inl (.review hentry hsource heff hkey hrecord')
    · obtain ⟨-, entry', hentry', hkey', -⟩ := hnew effect heff
      exact .inr ⟨entry', hentry', hkey'.trans hkey⟩

theorem Advanced.observed (h : Advanced L L₁) (ho : Observed rt L.manifest o) :
    Observed rt L₁.manifest o := by
  rw [h.manifest]
  exact ⟨ho.binding, ho.header, ho.observedAt, ho.version.trans (Nat.le_succ _), ho.digest,
    ho.covers⟩

theorem keptCase_of_evidence (h : Covered rt L) (ho : L.manifest.exceptionObservation = some o)
    (hev : IsEvidence rt L o.sources ev) {existing : List CutoverExceptionCase}
    (hexisting : ∀ c, c ∈ existing ↔ c ∈ L.cases.rows) :
    (keptCase rt o.cases existing ev).isSome := by
  have hj := h.journaled o ho
  obtain ⟨expected, hexpected, hnamed⟩ := hj.named
  obtain ⟨expected', hexpected', hperm, hall⟩ :=
    expectedEvidence_ok rt h.sound.reviewable hj.observed.covers.keys
  obtain rfl : expected' = expected := Except.ok.inj (hexpected'.symm.trans hexpected)
  obtain ⟨ev', hev', hslot⟩ := List.mem_map.mp (hperm.mem_iff.mpr hev.slot_mem)
  obtain rfl := (hall ev' hev').eq_of_slot h.sound.reviewable hev hslot
  obtain ⟨r, hr, hrnamed⟩ := exists_of_forall₂ hnamed hev'
  obtain ⟨item, hid, hvalid, hlatest⟩ := hrnamed.item
  have hfound : existing.find? (fun c => c.id = r.caseId) = some item := by
    cases hf : existing.find? fun c => c.id = r.caseId with
    | none =>
      exact absurd (decide_eq_true hid)
        (List.find?_eq_none.mp hf item ((hexisting item).mpr hlatest.mem))
    | some c =>
      have hcid : c.id = r.caseId := by simpa using List.find?_some hf
      rw [eq_of_caseId ((hexisting c).mp (List.mem_of_find?_eq_some hf)) hlatest.mem
        (hcid.trans hid.symm)]
  have href : o.cases.find? (fun r => r.slot = ev'.slot) = some r :=
    (find?_eq_some (hj.nodup h.sound)).mpr ⟨hr, hrnamed.slot⟩
  rw [keptCase, find?_slot, href]
  simp only [Option.bind_eq_bind, Option.bind_some, hfound, hvalid]
  rfl

theorem refreshCutoverExceptions_eq (h : Covered rt L) (ha : Advanced L L₁)
    (ho : L.manifest.exceptionObservation = some o)
    (hat : L.manifest.observedAt = some o.observedAt) (bytes : Ledger → ℕ) (caseId : ℕ → String) :
    refreshCutoverExceptions rt bytes L₁ caseId = journal rt bytes L₁ o [] caseId := by
  have ho₁ : L₁.manifest.exceptionObservation = some o := by rw [ha.manifest, ← ho]
  have hat₁ : L₁.manifest.observedAt = some o.observedAt := by rw [ha.manifest, ← hat]
  have hvalid := validObservation_of_observed (ha.sound h.sound).reviewable.keys
    (ha.observed (h.journaled o ho).observed) ho₁ hat₁
  simp only [refreshCutoverExceptions, ho₁, require_pos hvalid, ok_bind]

/-- **What a refresh leaves**: the exceptions are covered again, on the last reading. -/
theorem refreshCutoverExceptions_ok (h : Covered rt L) (ha : Advanced L L₁)
    (ho : L.manifest.exceptionObservation = some o)
    (hat : L.manifest.observedAt = some o.observedAt)
    (hrefresh : refreshCutoverExceptions rt bytes L₁ caseId = .ok L') :
    ∃ references cases,
      L' = { L₁ with
        manifest := { L₁.manifest with
          exceptionObservation := some { o with cases := references } }
        cases } ∧
      (∃ more, cases.rows = L₁.cases.rows ++ more ∧ ∀ c ∈ more, c.slot ∈ exceptionsOf L₁) ∧
      Covered rt L' := by
  rw [refreshCutoverExceptions_eq h ha ho hat] at hrefresh
  obtain ⟨pending, hconsumed, -⟩ := ha.consumed
  have hcases := congrArg Ledger.cases hconsumed.frame
  simp only at hcases
  refine journal_ok (ha.sound h.sound) (ha.observed (h.journaled o ho).observed)
    (fun evidences => ?_) hrefresh
  rw [ha.manifest, hcases]
  exact h.referred evidences

/-- **Nothing but the bound, or a taken identifier, refuses a refresh.** -/
theorem refreshCutoverExceptions_error (h : Covered rt L) (ha : Advanced L L₁)
    (ho : L.manifest.exceptionObservation = some o)
    (hat : L.manifest.observedAt = some o.observedAt) {e : Failure}
    (hrefresh : refreshCutoverExceptions rt bytes L₁ caseId = .error e) :
    e = boundExceeded ∨ e = .database ∧ ¬Free L.cases caseId := by
  rw [refreshCutoverExceptions_eq h ha ho hat] at hrefresh
  obtain ⟨pending, hconsumed, -⟩ := ha.consumed
  have hcases := congrArg Ledger.cases hconsumed.frame
  simp only at hcases
  rw [← hcases]
  refine journal_error (ha.sound h.sound) (ha.observed (h.journaled o ho).observed)
    (fun ev hev => ?_) hrefresh
  have ho₁ : L₁.manifest.exceptionObservation = some o := by rw [ha.manifest, ← ho]
  rw [ho₁]
  rcases ha.evidence h.sound.reviewable hev with hev | ⟨entry, hentry, hkey⟩
  · refine .inl (keptCase_of_evidence h ho hev fun c => ?_)
    rw [mem_orderedCases, hcases]
  · -- an entry that waited is as it was first read
    refine .inr ⟨fun row hrow => ?_, fun _ => .inr ⟨entry, ?_, hkey, ?_⟩⟩
    · cases hrow
    · rw [ha.manifest]
      exact hentry.mem
    · have hcovers := (h.journaled o ho).observed.covers
      obtain ⟨source, hsource, hskey, -, hprint⟩ :=
        hcovers.undisturbed entry hentry.mem hentry.issue
      obtain ⟨hmem, hevkey⟩ := hev.source
      have hsame : ev.source = source := by
        refine eq_of_key ?_ hmem hsource (hevkey.trans (hkey.symm.trans hskey.symm))
        exact hcovers.keys.nodup_iff.mpr h.sound.reviewable.keys
      rw [hsame, hprint]

end Advanced

/-- **A consumption advances its ledger**: each effect is that of an entry which was waiting. -/
theorem advanced_of_consume (h : Covered rt L) {limit n : ℕ}
    (hconsume : consumeCutover rt L limit w = .ok (n, L')) :
    ∃ state o, assertCutoverExceptions rt L = .ok state ∧ Asserted L state o ∧
      Advanced L { L' with manifest := { L'.manifest with version := L'.manifest.version + 1 } } := by
  obtain ⟨-, -, state, hassert, hconsumed⟩ := consumeCutover_ok hconsume
  obtain ⟨-, -, o, ho⟩ := assertCutoverExceptions_ok h hassert
  have hmanifest := congrArg Ledger.manifest hconsumed.frame
  simp only at hmanifest
  refine ⟨state, o, hassert, ho, ⟨pendingEntries L state.quarantinedKeys limit, ?_,
    fun entry hentry => waiting_of_pending h ho hentry⟩, ?_⟩
  · rw [← hmanifest]
    exact ⟨hconsumed.frame, hconsumed.effects, hconsumed.ingested⟩
  · rw [hmanifest]

/-- **What a catch-up leaves**: the effects of entries that were waiting, and a journal that
covers what they left to be reviewed. -/
structure CaughtUp (rt : Runtime) (L L' : Ledger) : Prop where
  ready : L.manifest.state = .READY_FOR_CATCHUP ∧ L.manifest.reportSha256.isSome ∧
    L.manifest.observedAt.isSome
  freeze : cutoverFinalFreeze rt L.manifest.contract.excelFrozenAt L.manifest.contract.t0 = .ok ()
  effects : ∃ more, L'.effects.rows = L.effects.rows ++ more ∧ ∀ effect ∈ more,
    ∃ entry, Waiting L entry ∧ entry.key = effect.sourceKey
  cases : ∃ more, L'.cases.rows = L.cases.rows ++ more ∧ ∀ c ∈ more, c.slot ∈ exceptionsOf L'
  manifest : ∃ o references, L.manifest.exceptionObservation = some o ∧
    L.manifest.observedAt = some o.observedAt ∧
    (∃ state, Asserted L state o) ∧
    L'.manifest = { L.manifest with
      version := L.manifest.version + 1
      exceptionObservation := some { o with cases := references } }
  frame : L' = { L with
    manifest := L'.manifest, effects := L'.effects, ingested := L'.ingested, cases := L'.cases }
  covered : Covered rt L'

theorem catchUp_ok (h : Covered rt L) {limit n : ℕ}
    (hcatch : catchUp rt bytes L limit w = .ok (n, L')) : CaughtUp rt L L' := by
  simp only [catchUp, ok_iff, Prod.exists, updateCutover_ok_iff] at hcatch
  obtain ⟨n', L₁, hconsume, L₂, ⟨-, rfl⟩, L₃, hrefresh, rfl, rfl⟩ := hcatch
  obtain ⟨hready, hfreeze, _, -, hconsumed'⟩ := consumeCutover_ok hconsume
  obtain ⟨state, o, -, ho, ha⟩ := advanced_of_consume h hconsume
  obtain ⟨references, cases, rfl, ⟨more, hmore, hnew⟩, hcovered⟩ :=
    refreshCutoverExceptions_ok h ha ho.observation ho.current hrefresh
  obtain ⟨pending, hconsumed, hwaiting⟩ := ha.consumed
  obtain ⟨effects, heffs, hall⟩ := hconsumed.effects
  have hframe := hconsumed'.frame
  refine ⟨hready, hfreeze, ⟨effects, heffs, fun effect heff => ?_⟩, ⟨more, ?_, hnew⟩,
    ⟨o, references, ho.observation, ho.current, ⟨state, ho⟩, ?_⟩, ?_, hcovered⟩
  · obtain ⟨entry, hentry, hkey, -⟩ := (hall effect heff).entry
    exact ⟨entry, hwaiting entry hentry, hkey⟩
  · rw [hmore, hframe]
  · rw [hframe]
  · rw [hframe]

end CrmYnov.Cutover
