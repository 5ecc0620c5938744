import CrmYnov.Cutover.Operations

/-!
# The lease of a worker

The invariant of the worker's part of a ledger (`CrmYnov.Cutover.Leased`): the run that is
running is the one the runtime has, each run was opened in a later epoch than those before it,
and a runtime that has a run while it is not armed waits for a case to be disposed of. This last
clause is why a runtime that is qualified again leaves no run behind: what is qualified is ready,
and nothing ready waits for a disposition (`CrmYnov.Cutover.Leased.qualified`).
-/

namespace CrmYnov.Cutover

open Checked Keyed List Option

variable {rt : Runtime} {bytes : Ledger → ℕ} {L L' : Ledger}

/-! ### Cases that wait -/

/-- **A case that waits goes on waiting**: what is named later is the same case or a newer one,
and nothing was disposed of since. -/
theorem Undisposed.later (hL : Covered rt L) (hL' : Covered rt L') (hlater : Later L L')
    (hdisps : L'.dispositions = L.dispositions) (h : Undisposed L) : Undisposed L' := by
  obtain ⟨o, ho, r, hr, hnone⟩ := h
  obtain ⟨o', ho'⟩ := isSome_iff_exists.mp (hlater.observation (by rw [ho]; rfl))
  have hj := hL.journaled o ho
  have hj' := hL'.journaled o' ho'
  have hslot : r.slot ∈ exceptionsOf L' := hlater.exceptions
    ((hj.slots_perm hL.sound).mem_iff.mp (mem_map.mpr ⟨r, hr, rfl⟩))
  obtain ⟨r', hr', hsame⟩ := mem_map.mp ((hj'.slots_perm hL'.sound).mem_iff.mpr hslot)
  refine ⟨o', ho', r', hr', ?_⟩
  obtain ⟨item, hid, hitem, hlatest⟩ := hj.item hr
  obtain ⟨item', hid', hitem', hlatest'⟩ := hj'.item hr'
  rw [hdisps]
  by_contra hsome
  obtain ⟨d, hd⟩ := ne_none_iff_exists'.mp hsome
  obtain ⟨hmem, hkey⟩ := Table.findUnique_eq_some.mp hd
  have hcase : d.caseId = r'.caseId := by
    simpa [CutoverExceptionDisposition.keys, eq_comm] using hkey
  obtain ⟨c, hc, hcid, -⟩ := hL.sound.disposed d hmem
  -- the case that was disposed of is the one named now, and so it was the latest before
  have hcsame : c = item' :=
    eq_of_caseId (hlater.cases.subset hc) hlatest'.mem (by rw [hcid, hcase, hid'])
  rw [hcsame] at hc
  have hslots : item'.slot = item.slot := by rw [hitem', hsame, hitem]
  have hgen : item'.generation = item.generation :=
    le_antisymm (hlatest.latest item' hc hslots)
      (hlatest'.latest item (hlater.cases.subset hlatest.mem) hslots.symm)
  obtain ⟨hskey, hskind⟩ := Prod.mk.inj hslots
  have heq : item' = item := L.cases.eq_of_key
    (k := .generation item.sourceKey item.kind item.generation) hc hlatest.mem
    (by simp [CutoverExceptionCase.keys, hskey, hskind, hgen]) (by simp [CutoverExceptionCase.keys])
  rw [← hid', heq, hid, hnone] at hd
  cases hd

theorem Ready.not_undisposed (h : Ready rt L) : ¬Undisposed L := by
  rintro ⟨o, ho, r, hr, hnone⟩
  obtain ⟨o', ho', -, hall⟩ := h.observation
  rw [ho'] at ho
  cases ho
  exact hall r hr hnone

/-! ### The invariant -/

/-- **What holds of the worker's part of a ledger.** -/
structure Leased (L : Ledger) : Prop where
  /-- What is running is what the runtime has. -/
  running : ∀ run ∈ L.runs.rows, run.status = .RUNNING → activeRunId L = some run.id
  /-- What the runtime has is running, in its epoch. -/
  active : ∀ runtime ∈ L.runtime, ∀ id ∈ runtime.activeRunId, ∃ run ∈ L.runs.rows,
    run.id = id ∧ run.status = .RUNNING ∧ run.epoch = runtime.epoch
  epochs : (L.runs.rows.map CutoverRun.epoch).Pairwise (· < ·)
  past : ∀ run ∈ L.runs.rows, ∃ runtime ∈ L.runtime, run.epoch ≤ runtime.epoch
  waiting : ∀ runtime ∈ L.runtime, runtime.state ≠ .ARMED → runtime.activeRunId ≠ none →
    Undisposed L

theorem leased_of_empty (hruns : L.runs = .empty) (hruntime : L.runtime = none) : Leased L where
  running run hrun := by
    rw [hruns] at hrun
    cases hrun
  active runtime hrt := by
    rw [hruntime] at hrt
    cases hrt
  epochs := by
    rw [hruns]
    exact Pairwise.nil
  past run hrun := by
    rw [hruns] at hrun
    cases hrun
  waiting runtime hrt := by
    rw [hruntime] at hrt
    cases hrt

theorem Leased.keep (h : Leased L) {f : StoredCutoverRuntime → StoredCutoverRuntime}
    (hruns : L'.runs = L.runs) (hruntime : L'.runtime = L.runtime.map f)
    (hf : ∀ runtime, (f runtime).epoch = runtime.epoch ∧
      (f runtime).activeRunId = runtime.activeRunId)
    (hwaiting : ∀ runtime ∈ L.runtime, (f runtime).state ≠ .ARMED → runtime.activeRunId ≠ none →
      Undisposed L') : Leased L' where
  running run hrun hstatus := by
    rw [hruns] at hrun
    rw [activeRunId, hruntime, ← h.running run hrun hstatus, activeRunId]
    cases L.runtime with
    | none => rfl
    | some runtime => exact (hf runtime).2
  active runtime hrt id hid := by
    rw [hruntime] at hrt
    obtain ⟨old, hold, rfl⟩ := map_eq_some_iff.mp hrt
    rw [(hf old).2] at hid
    rw [hruns, (hf old).1]
    exact h.active old hold id hid
  epochs := by
    rw [hruns]
    exact h.epochs
  past run hrun := by
    rw [hruns] at hrun
    obtain ⟨old, hold, hle⟩ := h.past run hrun
    exact ⟨f old, by rw [hruntime, mem_def.mp hold]; rfl, by rwa [(hf old).1]⟩
  waiting runtime hrt hstate hactive := by
    rw [hruntime] at hrt
    obtain ⟨old, hold, rfl⟩ := map_eq_some_iff.mp hrt
    rw [(hf old).2] at hactive
    exact hwaiting old hold hstate hactive

/-- **Once its run is ended a runtime has none**, and nothing is running. -/
theorem Leased.ends (h : Leased L) (status : RunStatus) (errorCode : Option String)
    (hends : Ends L L' status errorCode)
    (hepoch : ∀ runtime ∈ L.runtime, ∃ runtime' ∈ L'.runtime, runtime.epoch ≤ runtime'.epoch) :
    Leased L' ∧ ∀ run ∈ L'.runs.rows, run.status ≠ .RUNNING := by
  have hover : ∀ run ∈ L'.runs.rows, run.status ≠ .RUNNING := fun run hrun => by
    rw [hends.runs] at hrun
    obtain ⟨old, hold, rfl⟩ := mem_map.mp hrun
    split
    · exact hends.ended
    · -- a run that is not ended was not running
      rename_i hnot
      exact fun hstatus => hnot ⟨h.running old hold hstatus, hstatus⟩
  have hepochs : L'.runs.rows.map CutoverRun.epoch = L.runs.rows.map CutoverRun.epoch := by
    rw [hends.runs, List.map_map]
    refine map_congr_left fun run _ => ?_
    rw [Function.comp]
    split <;> rfl
  have hnone : ∀ runtime ∈ L'.runtime, runtime.activeRunId = none := fun runtime hrt => by
    have hactive := hends.active
    rw [activeRunId, mem_def.mp hrt] at hactive
    exact hactive
  refine ⟨⟨fun run hrun hstatus => absurd hstatus (hover run hrun), fun runtime hrt id hid => ?_,
    by rw [hepochs]; exact h.epochs, fun run hrun => ?_, fun runtime hrt _ hactive => ?_⟩, hover⟩
  · rw [hnone runtime hrt] at hid
    cases hid
  · have hmem : run.epoch ∈ L.runs.rows.map CutoverRun.epoch := by
      rw [← hepochs]
      exact mem_map.mpr ⟨run, hrun, rfl⟩
    obtain ⟨old, hold, heq⟩ := mem_map.mp hmem
    obtain ⟨runtime, hrt, hle⟩ := h.past old hold
    obtain ⟨runtime', hrt', hle'⟩ := hepoch runtime hrt
    exact ⟨runtime', hrt', by omega⟩
  · exact absurd (hnone runtime hrt) hactive

theorem ends_of_abandoned {code : String}
    (hruns : L'.runs = (abandonRun L (activeRunId L) code).runs) (hactive : activeRunId L' = none) :
    Ends L L' .ABANDONED (some code) :=
  ⟨by decide, by rw [hruns, abandonRun_rows], hactive⟩

/-- **A runtime that is qualified again had no run**: what waits is not ready. -/
theorem Leased.qualified (h : Leased L) (hready : Ready rt L)
    (hdisarmed : ∀ previous ∈ L.runtime, previous.state ≠ .ARMED)
    {qualification : CutoverQualification} {manifestVersion : ℕ} (hruns : L'.runs = L.runs)
    (hruntime : L'.runtime = some (qualified L.runtime qualification manifestVersion)) :
    Leased L' := by
  have hnone : activeRunId L = none := by
    cases hrt : L.runtime with
    | none =>
      rw [activeRunId, hrt]
      rfl
    | some previous =>
      by_contra hactive
      rw [activeRunId, hrt] at hactive
      exact hready.not_undisposed (h.waiting previous hrt (hdisarmed previous hrt) hactive)
  have hends : Ends L L' .ABANDONED none := by
    refine ⟨by decide, ?_, ?_⟩
    · rw [hruns]
      refine ((map_congr_left fun run _ => if_neg ?_).trans (map_id _)).symm
      rw [hnone]
      exact fun heq => by cases heq.1
    · rw [activeRunId, hruntime, Cutover.qualified.eq_def]
      cases L.runtime <;> rfl
  refine (h.ends _ _ hends fun runtime hrt => ⟨_, hruntime, ?_⟩).1
  rw [Cutover.qualified.eq_def, mem_def.mp hrt]
  exact Nat.le_succ _

/-- **A claim leaves one run running**, the one it has opened. -/
theorem Leased.opened (h : Leased L) {claim : Claim} (hopened : Opened L claim L') : Leased L' := by
  obtain ⟨runtime, next, hrt, -, hnext, harmed, hepoch, hclaim, hactive, -⟩ := hopened.runtime
  -- the run there was is given up before the new one is opened
  have hends : Ends L { L with
      runs := (abandonRun L (activeRunId L) "cutover_lease_expired").runs
      runtime := some { runtime with activeRunId := none } } .ABANDONED
      (some "cutover_lease_expired") := ends_of_abandoned rfl rfl
  obtain ⟨hleased, hover⟩ := h.ends _ _ hends fun r hr => ⟨_, rfl, by
    rw [mem_def.mp hr] at hrt
    rw [some.inj hrt]⟩
  have hrows := Table.create_rows hopened.runs
  have hlt : ∀ run ∈ (abandonRun L (activeRunId L) "cutover_lease_expired").runs.rows,
      run.epoch < claim.epoch := fun run hrun => by
    obtain ⟨_, hr, hle⟩ := hleased.past run hrun
    cases hr
    simp only at hle
    omega
  have hactive' : activeRunId L' = some claim.runId := by
    rw [activeRunId, hnext]
    exact hactive
  refine ⟨fun run hrun hstatus => ?_, fun r hr id hid => ?_, ?_, fun run hrun => ⟨next, hnext, ?_⟩,
    fun r hr hstate => ?_⟩
  · rw [hrows] at hrun
    rcases mem_append.mp hrun with hrun | hrun
    · exact absurd hstatus (hover run hrun)
    · rw [mem_singleton.mp hrun]
      exact hactive'
  · rw [hnext] at hr
    cases hr
    rw [hactive] at hid
    cases hid
    exact ⟨_, by rw [hrows]; exact mem_append_right _ (mem_singleton_self _), rfl, rfl,
      hclaim⟩
  · rw [hrows, map_append, pairwise_append]
    refine ⟨hleased.epochs, pairwise_singleton _ _, fun e he e' he' => ?_⟩
    obtain ⟨run, hrun, rfl⟩ := mem_map.mp he
    rw [mem_singleton.mp he']
    exact hlt run hrun
  · rw [hrows] at hrun
    rcases mem_append.mp hrun with hrun | hrun
    · have := hlt run hrun
      omega
    · rw [mem_singleton.mp hrun]
      exact hclaim.le
  · rw [hnext] at hr
    cases hr
    exact absurd harmed hstate

end CrmYnov.Cutover
