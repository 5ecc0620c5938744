import CrmYnov.Js.Date
import CrmYnov.Leads.Progression

/-!
# Leads as the reports read them

A report reads leads, each with what is known of its treatment: when it was first and last treated,
whether a treatment of it has no date, and how long it has been waiting for its first one. It reads
the follow-ups and the closure requests in the same way.
-/

namespace CrmYnov.Reporting

open Checked Leads

/-! ### Treatments -/

/-- `TreatmentSummary["treatmentState"]` -/
inductive TreatmentState
  | DATED | UNKNOWN_DATE | NONE
deriving DecidableEq

structure TreatmentSummary where
  firstTreatmentAt : Option Instant := none
  lastTreatmentAt : Option Instant := none
  treatmentState : TreatmentState := .NONE
  hasUndatedHistory : Bool := false

def correctionOf (activities : List LeadActivityRecord) (id : String) :
    Option ActivityCorrection :=
  (activities.filterMap LeadActivityRecord.correction).reverse.find? fun c =>
    c.originalEventId = id

/-- The date of an activity, when it is a treatment: what replaces it is judged in its place, and it
counts no more when it has been cancelled. -/
def treatmentDate (rt : Runtime) (activities : List LeadActivityRecord)
    (activity : LeadActivityRecord) : Option Instant :=
  let correction := correctionOf activities activity.id
  let evidence := match correction.bind ActivityCorrection.replacement with
    | some replacement => { activity with type := replacement.type, result := replacement.result }
    | none => activity
  if activity.correction.isSome then none
  else if correction.map ActivityCorrection.operation = some .CANCEL then none
  else if isCommercialContact rt evidence || evidence.type == .STATUS_CHANGED then
    some activity.occurredAt
  else none

def treatmentSummary (rt : Runtime) (activities : List LeadActivityRecord)
    (history : List (Option Instant)) : TreatmentSummary :=
  let dates := (history.filterMap id ++
    activities.filterMap (treatmentDate rt activities)).insertionSort (· ≤ ·)
  let hasUndatedHistory := history.any Option.isNone
  { firstTreatmentAt := dates.head?
    lastTreatmentAt := dates.getLast?
    treatmentState :=
      if hasUndatedHistory then .UNKNOWN_DATE else if dates.isEmpty then .NONE else .DATED
    hasUndatedHistory }

def isToContact (status : LeadStatus) (t : TreatmentSummary) : Bool :=
  status == .PROSPECT && t.firstTreatmentAt.isNone && t.lastTreatmentAt.isNone &&
    !t.hasUndatedHistory && !([.DATED, .UNKNOWN_DATE].contains t.treatmentState)

structure FirstTreatmentIndicators where
  (firstTreatmentPending firstTreatmentOverdue : Bool)
  firstTreatmentAgeMinutes : Option ℤ
  firstTreatmentDeadlineAt : Option Instant

/-- The time a first treatment may wait for: 24 hours. -/
def firstTreatmentLimit : ℤ := 24 * 3600000

/-- `firstTreatmentState`, of a lead that has been received at an instant, or at no date. -/
def firstTreatmentState (status : LeadStatus) (received : Option Instant) (t : TreatmentSummary)
    (now : Instant) : FirstTreatmentIndicators :=
  let pending := isToContact status t
  let known := if pending then received else none
  { firstTreatmentPending := pending
    firstTreatmentOverdue := known.any fun received => firstTreatmentLimit < now - received
    firstTreatmentAgeMinutes := known.map fun received => max 0 ((now - received) / 60000)
    firstTreatmentDeadlineAt := known.map (· + firstTreatmentLimit) }

def needsNextAction (status : LeadStatus) (t : TreatmentSummary) (nextActionAt : Option Instant)
    (hasActiveNextAction : Option Bool) : Bool :=
  let treated := [.CONTACTED, .QUALIFIED].contains status || t.treatmentState == .DATED ||
    t.hasUndatedHistory
  let active := hasActiveNextAction.getD nextActionAt.isSome
  !([.ENROLLED, .CLOSED_LOST].contains status) && treated && !active

/-! ### What is read -/

/-- `FollowUpRecord`; the due date of a follow-up may be no date. -/
structure FollowUpRecord where
  (id leadId ownerId : String)
  state : FollowUp.FollowUpState
  dueAt : Option Instant

structure ClosureRequest where
  (id leadId : String)
  target : LeadStatus
  requesterId : String
  state : Closure.ClosureState
  createdAt : Instant

structure LeadReportingRow extends TreatmentSummary, FirstTreatmentIndicators where
  id : String
  status : LeadStatus
  (campus campaign program source : String)
  createdAt : Instant
  receivedAt : Option Instant
  (assignedToId assignedToLabel : Option String)
  collaboratorIds : List String
  nextActionAt : Option Instant
  hasActiveNextAction : Option Bool
  acquisitionKind : AcquisitionKind
  activities : List LeadActivityRecord

end CrmYnov.Reporting
