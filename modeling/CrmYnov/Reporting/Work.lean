import CrmYnov.Reporting.Leads
import Mathlib.Algebra.BigOperators.Group.Finset.Piecewise

/-!
# Commercial work

The report on the commercial work counts the leads, the follow-ups and the closure requests that
wait in each of its queues, for the whole of what it is asked about and for each adviser. One
projection of the cohort drives all its counters, and the advisers share out each queue
(`CrmYnov.Reporting.commercialWork_accounts`).
-/

namespace CrmYnov.Reporting

open Checked Leads

/-! ### Queues -/

inductive CommercialWorkQueue
  | NEW_RECEIVED | TO_CONTACT | FIRST_TREATMENT_OVERDUE | ACTIVE_FOLLOW_UP | OVERDUE_FOLLOW_UP
  | NEXT_ACTION_MISSING | PENDING_CLOSURE

inductive ItemUnit
  | LEADS | ACTIONS | REQUESTS

structure WorkSelection where
  leadIds : List String
  itemCount : ℕ
  itemUnit : ItemUnit

/-- The counts of the follow-ups. -/
structure WorkActions where
  (active future dueNow overdue invalidDeadline completed cancelled : ℕ)

structure WorkProjection where
  queues : CommercialWorkQueue → WorkSelection
  actions : WorkActions

/-- `new Map(list.map((item) => [id(item), item]))` -/
def indexBy {α : Type} (id : α → String) (list : List α) : Dict String α :=
  .ofList (list.map fun item => (id item, item))

def openLead (lead : LeadReportingRow) : Bool := !([.ENROLLED, .CLOSED_LOST].contains lead.status)

/-- The identifiers are sorted by `localeCompare`. -/
def projectCommercialWork (collate : String → String → Bool) (rows : List LeadReportingRow)
    (tasks : List FollowUpRecord) (requests : List ClosureRequest) (now : Instant) :
    WorkProjection :=
  let leads := indexBy LeadReportingRow.id rows
  let visibleTasks := (indexBy FollowUpRecord.id
    (tasks.filter fun task => (leads.get task.leadId).isSome)).values
  let active := visibleTasks.filter fun task =>
    [.SCHEDULED, .DUE].contains task.state && (leads.get task.leadId).any openLead
  let overdue := active.filter fun task => task.dueAt.any (· < now)
  let pending := (indexBy ClosureRequest.id (requests.filter fun request =>
    request.state == .PENDING && [.ENROLLED, .CLOSED_LOST].contains request.target &&
      (leads.get request.leadId).any openLead)).values
  let sorted := fun (ids : List String) => ids.insertionSort fun a b => collate a b
  let leadSelection := fun (predicate : LeadReportingRow → Bool) =>
    let leadIds := sorted ((leads.values.filter predicate).map LeadReportingRow.id)
    (⟨leadIds, leadIds.length, .LEADS⟩ : WorkSelection)
  let items := fun (records : List String) (itemUnit : ItemUnit) =>
    (⟨sorted (unique records), records.length, itemUnit⟩ : WorkSelection)
  { queues := fun
      | .NEW_RECEIVED => leadSelection fun lead => lead.acquisitionKind == .NEW
      | .TO_CONTACT => leadSelection fun lead => isToContact lead.status lead.toTreatmentSummary
      | .FIRST_TREATMENT_OVERDUE => leadSelection fun lead => (firstTreatmentState lead.status
          lead.receivedAt lead.toTreatmentSummary now).firstTreatmentOverdue
      | .ACTIVE_FOLLOW_UP => items (active.map FollowUpRecord.leadId) .ACTIONS
      | .OVERDUE_FOLLOW_UP => items (overdue.map FollowUpRecord.leadId) .ACTIONS
      | .NEXT_ACTION_MISSING => leadSelection fun lead => needsNextAction lead.status
          lead.toTreatmentSummary lead.nextActionAt lead.hasActiveNextAction
      | .PENDING_CLOSURE => items (pending.map ClosureRequest.leadId) .REQUESTS
    actions :=
      { active := active.length
        future := (active.filter fun task => task.dueAt.any (now < ·)).length
        dueNow := (active.filter fun task => task.dueAt == some now).length
        overdue := overdue.length
        invalidDeadline := (active.filter fun task => task.dueAt.isNone).length
        completed := (visibleTasks.filter fun task => task.state == .COMPLETED).length
        cancelled := (visibleTasks.filter fun task => task.state == .CANCELLED).length } }

/-! ### The advisers share out the work -/

variable {α : Type} {id : α → String} {l : List α}

theorem get_indexBy (h : (l.map id).Nodup) {k : String} {a : α} :
    (indexBy id l).get k = some a ↔ a ∈ l ∧ id a = k := by
  rw [indexBy, Dict.get_ofList (by rwa [List.map_map])]
  simp only [List.mem_map, ok_iff, exists_eq_right_right]

theorem nodup_filter (h : (l.map id).Nodup) (p : α → Bool) : ((l.filter p).map id).Nodup :=
  h.sublist (List.filter_sublist.map id)

theorem values_indexBy (h : (l.map id).Nodup) (p : α → Bool) :
    (indexBy id (l.filter p)).values = l.filter p :=
  (Dict.values_ofList_iff id).mpr (nodup_filter h p)

theorem get_indexBy_filter (h : (l.map id).Nodup) (p : α → Bool) (k : String) :
    (indexBy id (l.filter p)).get k = ((indexBy id l).get k).filter p := by
  ext a
  rw [get_indexBy (nodup_filter h p), Option.filter_eq_some_iff, get_indexBy h, List.mem_filter]
  tauto

variable {collate : String → String → Bool} {now : Instant} {rows : List LeadReportingRow}
  {tasks : List FollowUpRecord} {requests : List ClosureRequest}

structure Distinct (rows : List LeadReportingRow) (tasks : List FollowUpRecord)
    (requests : List ClosureRequest) : Prop where
  rows : (rows.map LeadReportingRow.id).Nodup
  tasks : (tasks.map FollowUpRecord.id).Nodup
  requests : (requests.map ClosureRequest.id).Nodup

/-- A count is of some leads of a cohort, each as often as what is about it. -/
def Counts (rows : List LeadReportingRow) (count : (LeadReportingRow → Bool) → ℕ) : Prop :=
  ∃ counted : List LeadReportingRow, (∀ row ∈ counted, row ∈ rows) ∧
    ∀ p, count p = counted.countP p

theorem counts_leads (pred : LeadReportingRow → Bool) :
    Counts rows fun p => ((rows.filter p).filter pred).length :=
  ⟨rows.filter pred, fun row hrow => List.mem_of_mem_filter hrow, fun p => by
    simp only [List.countP_eq_length_filter, List.filter_comm]⟩

theorem counts_records (h : (rows.map LeadReportingRow.id).Nodup) {β : Type} (leadId : β → String)
    (records : List β) (c : β → Bool) : Counts rows fun p => (records.filter fun r => c r &&
      ((indexBy LeadReportingRow.id (rows.filter p)).get (leadId r)).any openLead).length := by
  let lead r := ((indexBy LeadReportingRow.id rows).get (leadId r)).filter openLead
  refine ⟨(records.filter c).filterMap lead, fun row hrow => ?_, fun p => ?_⟩
  · obtain ⟨r, -, hr⟩ := List.mem_filterMap.mp hrow
    exact ((get_indexBy h).mp (Option.filter_eq_some_iff.mp hr).1).1
  · simp only [List.countP_filterMap, List.countP_filter, ← List.countP_eq_length_filter,
      get_indexBy_filter h, lead]
    refine List.countP_congr fun r _ => ?_
    cases (indexBy LeadReportingRow.id rows).get (leadId r) with
    | none => simp
    | some row => cases hp : p row <;> cases ho : openLead row <;> simp [Option.filter, hp, ho]

/-- **Each queue counts the records of its leads.** -/
theorem counts_queue (h : Distinct rows tasks requests) (queue : CommercialWorkQueue) :
    Counts rows fun p =>
      ((projectCommercialWork collate (rows.filter p) tasks requests now).queues
        queue).itemCount := by
  have hsome : ∀ o : Option LeadReportingRow, (o.any openLead && o.isSome) = o.any openLead :=
    fun o => by cases o <;> simp
  cases queue
  case ACTIVE_FOLLOW_UP =>
    simpa [projectCommercialWork, values_indexBy h.tasks, List.filter_filter, Bool.and_assoc,
      hsome] using counts_records h.rows FollowUpRecord.leadId tasks fun task =>
        [.SCHEDULED, .DUE].contains task.state
  case OVERDUE_FOLLOW_UP =>
    simpa [projectCommercialWork, values_indexBy h.tasks, List.filter_filter, Bool.and_assoc,
      hsome] using counts_records h.rows FollowUpRecord.leadId tasks fun task =>
        task.dueAt.any (· < now) && [.SCHEDULED, .DUE].contains task.state
  case PENDING_CLOSURE =>
    simpa [projectCommercialWork, values_indexBy h.requests, Bool.and_assoc]
      using counts_records h.rows ClosureRequest.leadId requests fun request =>
        request.state == .PENDING && [.ENROLLED, .CLOSED_LOST].contains request.target
  all_goals
    simpa [projectCommercialWork, values_indexBy h.rows] using counts_leads _

def advisers (rows : List LeadReportingRow) : List String :=
  unique (rows.filterMap fun row => row.assignedToId)

/-- What is counted is counted with its adviser, or without one. -/
theorem counts_shared {count : (LeadReportingRow → Bool) → ℕ} (h : Counts rows count) :
    ((advisers rows).map fun id => count fun row => row.assignedToId == some id).sum +
      count (fun row => row.assignedToId == none) = count fun _ => true := by
  obtain ⟨counted, hcounted, hcount⟩ := h
  have hnodup : (none :: (advisers rows).map some).Nodup :=
    List.nodup_cons.mpr ⟨by simp, nodup_unique.map (Option.some_injective _)⟩
  have hshared := Multiset.sum_count_eq_card (s := (none :: (advisers rows).map some).toFinset)
    (m := counted.map fun row => row.assignedToId) fun adviser hadviser => by
      obtain ⟨row, hrow, rfl⟩ := List.mem_map.mp hadviser
      cases hid : row.assignedToId with
      | none => simp
      | some id =>
        have hmem : id ∈ advisers rows :=
          mem_unique.mpr (List.mem_filterMap.mpr ⟨row, hcounted row hrow, hid⟩)
        simp [hmem]
  rw [List.sum_toFinset _ hnodup] at hshared
  simpa [hcount, List.count, List.countP_map, Function.comp_def, Nat.add_comm, beq_eq_decide]
    using hshared

/-- **The accounts of the commercial work**: the active follow-ups are future, due, overdue or
without a date, and each queue of a cohort is shared out among its advisers and the leads that have
none. -/
theorem commercialWork_accounts (h : Distinct rows tasks requests) (now : Instant) :
    let work p := projectCommercialWork collate (rows.filter p) tasks requests now
    let actions := (work fun _ => true).actions
    actions.active = actions.future + actions.dueNow + actions.overdue + actions.invalidDeadline ∧
      ∀ queue, ((advisers rows).map fun id =>
          ((work fun row => row.assignedToId == some id).queues queue).itemCount).sum +
        ((work fun row => row.assignedToId == none).queues queue).itemCount =
          ((work fun _ => true).queues queue).itemCount := by
  refine ⟨?_, fun queue => counts_shared (counts_queue h queue)⟩
  simp only [projectCommercialWork]
  generalize List.filter _ (Dict.values _) = active
  induction active with
  | nil => rfl
  | cons task active ih =>
    cases hdue : task.dueAt with
    | none => simp [hdue]; omega
    | some due =>
      have hlt : now < due ↔ ¬due < now ∧ due ≠ now := by
        rw [not_lt, ne_comm, lt_iff_le_and_ne]
      by_cases h : due < now <;> by_cases h' : due = now <;> simp [hdue, hlt, h, h', ih] <;> omega

namespace Sample

def row (id : String) : LeadReportingRow :=
  ⟨{}, ⟨true, false, some 0, some firstTreatmentLimit⟩, id, .PROSPECT, "Casablanca", "2026",
    "Informatique", "SALON", 0, some 0, some "adviser", none, [], none, none, .NEW, []⟩

def task : FollowUpRecord := ⟨"task", "a", "adviser", .SCHEDULED, some 0⟩

def work (p : LeadReportingRow → Bool) : WorkProjection :=
  projectCommercialWork (fun a b => a ≤ b) ([row "a", row "b"].filter p) [task] [] 0

end Sample

theorem commercialWork_accounts_pair :
    ((Sample.work fun row => row.assignedToId == some "adviser").queues .ACTIVE_FOLLOW_UP).itemCount
        + ((Sample.work fun row => row.assignedToId == none).queues .ACTIVE_FOLLOW_UP).itemCount =
      ((Sample.work fun _ => true).queues .ACTIVE_FOLLOW_UP).itemCount :=
  (@commercialWork_accounts (fun a b => a ≤ b) [Sample.row "a", Sample.row "b"] [Sample.task] []
    ⟨by decide, by decide, by decide⟩ 0).2 .ACTIVE_FOLLOW_UP

end CrmYnov.Reporting
