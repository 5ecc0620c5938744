import CrmYnov.Assignment.Engine
import CrmYnov.Ingestion.Types
import CrmYnov.Leads.Progression

/-!
# Batches of assignments

A batch gives some leads to collaborators, one item after the other: to a fixed one, or to
those the rules of the engine select (`CrmYnov.Assignment.BatchService.assignBatch`). A preview
says beforehand what becomes of each item (`CrmYnov.Assignment.BatchService.preview`), always
from the state before the batch, while the batch moves the cursor of a rule each time the rule
is used.
-/

namespace CrmYnov.Assignment

open Checked Leads

inductive BatchAssignmentStrategy
  | FIXED | ROUND_ROBIN | CONTROLLED_RANDOM
deriving DecidableEq

def BatchAssignmentStrategy.text : BatchAssignmentStrategy → String
  | FIXED => "FIXED"
  | ROUND_ROBIN => "ROUND_ROBIN"
  | CONTROLLED_RANDOM => "CONTROLLED_RANDOM"

def AssignmentStrategy.ofBatch : AssignmentStrategy → BatchAssignmentStrategy
  | .ROUND_ROBIN => .ROUND_ROBIN
  | .CONTROLLED_RANDOM => .CONTROLLED_RANDOM

structure AssignmentItemInput where
  (leadId source campaign : String)

structure BatchAssignmentInput where
  idempotencyKey : String
  items : List AssignmentItemInput
  strategy : BatchAssignmentStrategy
  targetUserId : Option String := none
  confirmed : Bool := false

inductive AssignmentPreviewOutcome
  | READY | SKIPPED | REFUSED
deriving DecidableEq

/-- `AssignmentPreviewItem` -/
@[ext]
structure AssignmentPreviewItem where
  leadId : String
  selectedUserId : Option String := none
  outcome : AssignmentPreviewOutcome
  reason : Option String := none
deriving DecidableEq

structure AssignmentBatchResult where
  (batchId idempotencyKey : String)
  assigned : List LeadRecord
  (skipped refused : List AssignmentPreviewItem)

def eventKey (idempotencyKey : String) (index : ℕ) : String :=
  idempotencyKey ++ ":" ++ toString index

abbrev BatchEntry := AssignmentItemInput × ℕ

/-- What the engine is asked about an item. -/
def BatchAssignmentInput.context (input : BatchAssignmentInput) (entry : BatchEntry) :
    AssignmentContext where
  leadId := entry.1.leadId
  source := entry.1.source
  campaign := entry.1.campaign
  eventKey := eventKey input.idempotencyKey entry.2

def BatchAssignmentInput.validate (input : BatchAssignmentInput) (requireConfirmation : Bool) :
    Outcome Unit := do
  require (Ingestion.isIdempotencyKey input.idempotencyKey ∧ 1 ≤ input.items.length ∧
      input.items.length ≤ 100 ∧ (input.items.map AssignmentItemInput.leadId).Nodup)
    (.badRequest "assignment_batch_invalid")
  require (requireConfirmation → input.confirmed) (.badRequest "assignment_confirmation_required")
  require (input.strategy = .FIXED ↔ (nonEmpty input.targetUserId).isSome)
    (.badRequest "assignment_target_invalid")

/-- `reason` -/
def failureReason : Failure → String
  | .http _ code _ => code
  | _ => "assignment_failed"

def readyItem (leadId userId : String) : AssignmentPreviewItem :=
  { leadId, selectedUserId := some userId, outcome := .READY }

def refusedItem (leadId reason : String) : AssignmentPreviewItem :=
  { leadId, outcome := .REFUSED, reason := some reason }

def skippedItem (leadId : String) : AssignmentPreviewItem :=
  { leadId, outcome := .SKIPPED, reason := some "lead_already_assigned" }

structure BatchService where
  engine : Engine := {}
  leads : LeadMemory := .init
  completed : Dict String AssignmentBatchResult := .empty

variable (rt : Runtime) (collate : String → String → Bool)

def fixedTarget (e : Engine) (input : BatchAssignmentInput) : Outcome String := do
  let target := input.targetUserId.getD ""
  e.assertEligibleTarget target
  pure target

def checkedTarget (input : BatchAssignmentInput) (selection : Selection) : Outcome String := do
  require (selection.strategy.ofBatch = input.strategy)
    (.conflict "assignment_strategy_rule_mismatch")
  pure selection.selectedUserId

def simulatedTarget (e : Engine) (input : BatchAssignmentInput) (entry : BatchEntry)
    (principal : Principal) (roundRobinOffset : ℕ) : Outcome String := do
  let selection ← e.simulate rt collate (input.context entry) principal roundRobinOffset
  checkedTarget input selection

/-- `engineTarget`: what the engine decides is kept even when it is of no use. -/
def engineTarget (e : Engine) (input : BatchAssignmentInput) (entry : BatchEntry)
    (principal : Principal) (decisionId : String) (now : Instant) : Outcome String × Engine :=
  match e.assign rt collate (input.context entry) principal decisionId now with
  | .error f => (.error f, e)
  | .ok (decision, e') => (checkedTarget input decision.toSelection, e')

namespace BatchService

/-! ### Previews -/

variable (s : BatchService)

/-- The target of a preview, at a position of the rounds of the rules. -/
def previewTarget (input : BatchAssignmentInput) (principal : Principal) (entry : BatchEntry)
    (offset : ℕ) : Outcome String :=
  if input.strategy = .FIXED then fixedTarget s.engine input
  else simulatedTarget rt collate s.engine input entry principal offset

/-- What is shown of an item, at a position of the rounds of the rules. -/
def previewItem (input : BatchAssignmentInput) (principal : Principal) (entry : BatchEntry)
    (offset : ℕ) : AssignmentPreviewItem :=
  match s.leads.leads.get entry.1.leadId with
  | none => refusedItem entry.1.leadId "lead_not_found"
  | some lead =>
    if lead.assignedToId ≠ none then skippedItem entry.1.leadId
    else
      match s.previewTarget rt collate input principal entry offset with
      | .ok userId => readyItem entry.1.leadId userId
      | .error f => refusedItem entry.1.leadId (failureReason f)

/-- `preview`: each item at the position the rules are at. -/
def preview (input : BatchAssignmentInput) (principal : Principal) :
    Outcome (List AssignmentPreviewItem) := do
  input.validate false
  pure (input.items.zipIdx.map fun entry => s.previewItem rt collate input principal entry 0)

/-! ### Batches -/

/-- What an item of a batch adds to its result. -/
inductive ItemOutcome
  | assigned (lead : LeadRecord)
  | skipped (item : AssignmentPreviewItem)
  | refused (item : AssignmentPreviewItem)

/-- The target of an item, and the engine that is left. -/
def batchTarget (input : BatchAssignmentInput) (principal : Principal) (entry : BatchEntry)
    (decisionId : String) (o : Occasion) : Outcome String × Engine :=
  if input.strategy = .FIXED then (fixedTarget s.engine input, s.engine)
  else engineTarget rt collate s.engine input entry principal decisionId o.now

/-- One turn of the loop of `assignBatch`. -/
def assignItem (input : BatchAssignmentInput) (principal : Principal) (correlationId : String)
    (entry : BatchEntry) (decisionId : String) (o : Occasion) : ItemOutcome × BatchService :=
  match s.leads.leads.get entry.1.leadId with
  | none => (.refused (refusedItem entry.1.leadId "lead_not_found"), s)
  | some lead =>
    if lead.assignedToId ≠ none then (.skipped (skippedItem entry.1.leadId), s)
    else
      match s.batchTarget rt collate input principal entry decisionId o with
      | (.error f, engine) =>
        (.refused (refusedItem entry.1.leadId (failureReason f)), { s with engine })
      | (.ok target, engine) =>
        match assignLocalLead s.leads entry.1.leadId target principal
          (correlationId ++ ":" ++ toString entry.2) ("BATCH:" ++ input.idempotencyKey)
          input.strategy.text o with
        | .error f => (.refused (refusedItem entry.1.leadId (failureReason f)), { s with engine })
        | .ok (lead, leads) => (.assigned lead, { s with engine, leads })

/-- The identifiers and the instants a batch draws, for each of its items. -/
structure BatchDraw where
  batchId : String
  decisionId : ℕ → String
  occasion : ℕ → Occasion

/-- The loop of `assignBatch`. -/
def assignItems (input : BatchAssignmentInput) (principal : Principal) (correlationId : String)
    (draw : BatchDraw) : List BatchEntry → BatchService → List ItemOutcome × BatchService
  | [], s => ([], s)
  | entry :: entries, s =>
    let (outcome, s) := s.assignItem rt collate input principal correlationId entry
      (draw.decisionId entry.2) (draw.occasion entry.2)
    let (outcomes, s) := assignItems input principal correlationId draw entries s
    (outcome :: outcomes, s)

def batchResult (batchId idempotencyKey : String) (outcomes : List ItemOutcome) :
    AssignmentBatchResult where
  batchId
  idempotencyKey
  assigned := outcomes.filterMap fun | .assigned lead => some lead | _ => none
  skipped := outcomes.filterMap fun | .skipped item => some item | _ => none
  refused := outcomes.filterMap fun | .refused item => some item | _ => none

/-- `assignBatch`: a batch that was completed is answered as it was. -/
def assignBatch (input : BatchAssignmentInput) (principal : Principal) (correlationId : String)
    (draw : BatchDraw) : Outcome (AssignmentBatchResult × BatchService) := do
  input.validate true
  match s.completed.get input.idempotencyKey with
  | some previous => pure (previous, s)
  | none =>
    let (outcomes, s) := assignItems rt collate input principal correlationId draw
      input.items.zipIdx s
    let result := batchResult draw.batchId input.idempotencyKey outcomes
    pure (result, { s with completed := s.completed.set input.idempotencyKey result })

end BatchService

end CrmYnov.Assignment
