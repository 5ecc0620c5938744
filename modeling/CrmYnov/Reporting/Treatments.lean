import CrmYnov.Base.Keyed
import CrmYnov.Reporting.Leads

/-!
# What a treatment summary depends on

A summary is made of the dates of the treatments, and of whether a note has none. When no activity
is corrected twice, the order in which the activities and the notes are read is of no consequence,
a cancellation takes away what it cancels and nothing else, and a correction brings no date of its
own (`CrmYnov.Reporting.treatmentSummary_sound`).
-/

namespace CrmYnov.Reporting

open Leads List

variable (activities : List LeadActivityRecord)

/-- No activity is corrected twice. -/
def SingleCorrections : Prop :=
  ((activities.filterMap LeadActivityRecord.correction).map
    ActivityCorrection.originalEventId).Nodup

/-- What an activity is judged by: what replaces it, when a correction does. -/
def evidenceOf (activity : LeadActivityRecord) : LeadActivityRecord :=
  match (correctionOf activities activity.id).bind ActivityCorrection.replacement with
  | some replacement => { activity with type := replacement.type, result := replacement.result }
  | none => activity

/-- What a cancellation leaves: neither itself nor what it cancels. -/
def uncancelled (c : ActivityCorrection) : List LeadActivityRecord :=
  activities.filter fun a =>
    a.correction ≠ some c ∧ (a.id = c.originalEventId → a.correction.isSome)

/-- The corrections are recorded at other dates. -/
def redated (date : LeadActivityRecord → Instant) (a : LeadActivityRecord) : LeadActivityRecord :=
  if a.correction.isSome then { a with occurredAt := date a } else a

variable {rt : Runtime} {activities activities' : List LeadActivityRecord}
  {history history' : List (Option Instant)} {a : LeadActivityRecord} {c : ActivityCorrection}

theorem correctionOf_eq_some (h : SingleCorrections activities) {id : String} :
    correctionOf activities id = some c ↔
      c ∈ activities.filterMap LeadActivityRecord.correction ∧ c.originalEventId = id := by
  have hreverse : ((activities.filterMap LeadActivityRecord.correction).reverse.map
      ActivityCorrection.originalEventId).Nodup := by
    rw [map_reverse]
    exact nodup_reverse.mpr h
  rw [correctionOf, Keyed.find?_eq_some hreverse, mem_reverse]

/-- The correction of an activity is found among those of its list, wherever it stands. -/
theorem correctionOf_congr (h : SingleCorrections activities) (h' : SingleCorrections activities')
    {id : String} (hmem : ∀ c : ActivityCorrection, c.originalEventId = id →
      (c ∈ activities.filterMap LeadActivityRecord.correction ↔
        c ∈ activities'.filterMap LeadActivityRecord.correction)) :
    correctionOf activities id = correctionOf activities' id := by
  ext c
  rw [correctionOf_eq_some h, correctionOf_eq_some h']
  exact and_congr_left (hmem c)

theorem treatmentDate_of_correction (h : a.correction.isSome) :
    treatmentDate rt activities a = none := if_pos h

theorem treatmentDate_of_cancelled (h : correctionOf activities a.id = some c)
    (hc : c.operation = .CANCEL) : treatmentDate rt activities a = none := by
  simp [treatmentDate, h, hc]

theorem treatmentDate_of_evidence (h : isCommercialContact rt (evidenceOf activities a) = false)
    (hstatus : (evidenceOf activities a).type ≠ .STATUS_CHANGED) :
    treatmentDate rt activities a = none := by
  have heq : treatmentDate rt activities a =
      if a.correction.isSome then none
      else if (correctionOf activities a.id).map ActivityCorrection.operation = some .CANCEL then none
      else if isCommercialContact rt (evidenceOf activities a) ||
        (evidenceOf activities a).type == .STATUS_CHANGED then some a.occurredAt
      else none := rfl
  simp only [heq, h, Bool.false_or, beq_iff_eq, hstatus, if_false, ite_self]

theorem treatmentDate_congr (h : correctionOf activities a.id = correctionOf activities' a.id) :
    treatmentDate rt activities a = treatmentDate rt activities' a := by
  simp only [treatmentDate, h]

/-- A summary depends on the dates of the treatments, in any order. -/
theorem treatmentSummary_congr (hhistory : history.Perm history')
    (hdates : (activities.filterMap (treatmentDate rt activities)).Perm
      (activities'.filterMap (treatmentDate rt activities'))) :
    treatmentSummary rt activities history = treatmentSummary rt activities' history' := by
  have hperm := (hhistory.filterMap id).append hdates
  have hsorted : (history.filterMap id ++
      activities.filterMap (treatmentDate rt activities)).insertionSort (· ≤ ·) =
      (history'.filterMap id ++
        activities'.filterMap (treatmentDate rt activities')).insertionSort (· ≤ ·) :=
    ((perm_insertionSort _ _).trans (hperm.trans (perm_insertionSort _ _).symm))
      |>.eq_of_pairwise' (pairwise_insertionSort _ _) (pairwise_insertionSort _ _)
  simp only [treatmentSummary, hsorted, hhistory.any_eq]

theorem SingleCorrections.perm (h : SingleCorrections activities)
    (hperm : activities'.Perm activities) : SingleCorrections activities' :=
  ((hperm.filterMap _).map _).nodup_iff.mpr h

theorem treatmentSummary_perm (h : SingleCorrections activities)
    (hperm : activities'.Perm activities) (hhistory : history'.Perm history) :
    treatmentSummary rt activities' history' = treatmentSummary rt activities history := by
  refine treatmentSummary_congr hhistory ?_
  have hdate : treatmentDate rt activities' = treatmentDate rt activities := by
    funext a
    exact treatmentDate_congr
      (correctionOf_congr (h.perm hperm) h fun c _ => (hperm.filterMap _).mem_iff)
  rw [hdate]
  exact hperm.filterMap _

theorem SingleCorrections.uncancelled (h : SingleCorrections activities) :
    SingleCorrections (uncancelled activities c) :=
  ((filter_sublist.filterMap _).map _).nodup h

/-- **A cancellation takes away what it cancels**, and nothing else. -/
theorem treatmentSummary_uncancelled (h : SingleCorrections activities)
    (hc : c ∈ activities.filterMap LeadActivityRecord.correction) (hcancel : c.operation = .CANCEL) :
    treatmentSummary rt activities history =
      treatmentSummary rt (uncancelled activities c) history := by
  refine treatmentSummary_congr (.refl _) (.of_eq ?_)
  conv_rhs => rw [uncancelled, filterMap_filter]
  refine filterMap_congr fun a ha => ?_
  by_cases hcorrection : a.correction.isSome
  · rw [treatmentDate_of_correction hcorrection, treatmentDate_of_correction hcorrection, ite_self]
  have hne : a.correction ≠ some c := fun heq => hcorrection (heq ▸ rfl)
  by_cases hid : a.id = c.originalEventId
  · rw [treatmentDate_of_cancelled ((correctionOf_eq_some h).mpr ⟨hc, hid.symm⟩) hcancel,
      if_neg (by simp [hid, hcorrection])]
  · -- a correction of this activity is not the cancellation, and stays
    rw [if_pos (by simp [hid, hne])]
    refine treatmentDate_congr (correctionOf_congr h h.uncancelled fun d hd => ?_)
    have hdc : d ≠ c := fun heq => hid (heq ▸ hd).symm
    simp only [mem_filterMap, uncancelled, mem_filter, decide_eq_true_eq]
    constructor
    · rintro ⟨b, hb, hbd⟩
      exact ⟨b, ⟨hb, fun hbc => hdc (Option.mem_unique hbd hbc), fun _ => hbd ▸ rfl⟩, hbd⟩
    · rintro ⟨b, ⟨hb, -⟩, hbd⟩
      exact ⟨b, hb, hbd⟩

variable (date : LeadActivityRecord → Instant)

@[simp] theorem redated_correction : (redated date a).correction = a.correction := by
  rw [redated]
  split <;> rfl

theorem filterMap_redated :
    (activities.map (redated date)).filterMap LeadActivityRecord.correction =
      activities.filterMap LeadActivityRecord.correction := by
  rw [filterMap_map]
  exact filterMap_congr fun a _ => redated_correction date

/-- **A correction brings no date**: another date of its recording changes nothing. -/
theorem treatmentSummary_redated :
    treatmentSummary rt (activities.map (redated date)) history =
      treatmentSummary rt activities history := by
  refine treatmentSummary_congr (.refl _) (.of_eq ?_)
  rw [filterMap_map]
  refine filterMap_congr fun a _ => ?_
  by_cases h : a.correction.isSome
  · rw [treatmentDate_of_correction h]
    exact treatmentDate_of_correction (by rwa [redated_correction])
  · rw [Function.comp_apply, redated, if_neg h]
    exact treatmentDate_congr (by rw [correctionOf, correctionOf, filterMap_redated])

theorem first_le_last {first last : Instant}
    (hfirst : (treatmentSummary rt activities history).firstTreatmentAt = some first)
    (hlast : (treatmentSummary rt activities history).lastTreatmentAt = some last) :
    first ≤ last := by
  simp only [treatmentSummary] at hfirst hlast
  have hsorted := pairwise_insertionSort (· ≤ ·)
    (history.filterMap id ++ activities.filterMap (treatmentDate rt activities))
  generalize insertionSort (· ≤ ·)
    (history.filterMap id ++ activities.filterMap (treatmentDate rt activities)) = dates at *
  obtain ⟨rest, rfl⟩ := head?_eq_some_iff.mp hfirst
  rcases mem_cons.mp (mem_of_getLast? hlast) with rfl | hmem
  · exact le_refl _
  · exact rel_of_pairwise_cons hsorted hmem

theorem treatmentSummary_cons (hcorrection : a.correction = none)
    (hcontact : isCommercialContact rt (evidenceOf activities a) = false)
    (hstatus : (evidenceOf activities a).type ≠ .STATUS_CHANGED) :
    treatmentSummary rt (a :: activities) history = treatmentSummary rt activities history := by
  have hsame : ∀ id, correctionOf (a :: activities) id = correctionOf activities id := by
    intro id
    rw [correctionOf, filterMap_cons_none hcorrection, correctionOf]
  refine treatmentSummary_congr (.refl _) (.of_eq ?_)
  rw [filterMap_cons_none
    ((treatmentDate_congr (hsame a.id)).trans (treatmentDate_of_evidence hcontact hstatus))]
  exact filterMap_congr fun b _ => treatmentDate_congr (hsame b.id)

def statusChange : LeadActivityRecord where
  id := "activity-1"
  leadId := "lead-1"
  type := .STATUS_CHANGED
  result := "PROSPECT->CONTACTED"
  authorId := "adviser-1"
  correlationId := "correlation-1"
  occurredAt := 0

end CrmYnov.Reporting
