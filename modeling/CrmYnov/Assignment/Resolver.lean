import CrmYnov.Assignment.CampusRules
import CrmYnov.Permissions.Evaluator

/-!
# Resolving and committing an assignment

To whom a lead goes is *resolved* from the rules of its campus: a fixed target that a rule
lists, the next candidate of a rule along its cursor, one drawn from the digest of the event,
or a new entrant's reservation (`CrmYnov.Assignment.prepareSheetAssignment`). Resolving changes
nothing. The caller writes the lead with its target and *commits* the assignment, which moves
the cursor (`CrmYnov.Assignment.commitImportRecord`). A preview resolves each record of an import
from one state, at a virtual position along the cursors
(`CrmYnov.Assignment.previewImportRecords`).
-/

namespace CrmYnov.Assignment

open Checked References Permissions Ingestion

/-! ### Candidates -/

def AssignmentStrategy.text : AssignmentStrategy → String
  | ROUND_ROBIN => "ROUND_ROBIN"
  | CONTROLLED_RANDOM => "CONTROLLED_RANDOM"

def assignmentCandidateCapability (roles : List Role) (rows : List ConfigurationSnapshot)
    (context : EvaluationContext) : Outcome Bool :=
  if .ADMISSIONS ∉ roles then pure false
  else do
    let explanations ← [PermissionKey.leadView, .leadEdit, .reminderManage].mapM fun key =>
      explainRole .ADMISSIONS key rows { context with own := true }
    pure (explanations.all GrantExplanation.allowed)

/-- What a candidate must be able to do, when something is asked: the permissions of
`AssignmentEligibility`. -/
abbrev Eligibility := Option (List ConfigurationSnapshot)

/-- The capability of a candidate, when it is asked for. -/
def eligibilityAllows (eligibility : Eligibility) (roles : List Role)
    (context : EvaluationContext) : Outcome Bool :=
  match eligibility with
  | none => pure true
  | some rows => assignmentCandidateCapability roles rows context

def activeLeadCount (db : Database) (userId : String) : ℕ :=
  (db.leads.findMany fun lead =>
    lead.assignedToId = some userId ∧ lead.status ≠ .CLOSED_LOST ∧ lead.status ≠ .ENROLLED).length

variable (rt : Runtime) (collate : String → String → Bool)

def Assignable (user : Users.CollaboratorRow) : Prop :=
  user.active ∧ ¬user.firstLoginRequired ∧ (Leads.nonEmpty user.campusId).isSome ∧
    (.ADMISSIONS ∈ user.roles ∨ .MANAGER ∈ user.roles)
deriving Decidable

def eligibleAssignmentCandidate (db : Database) (candidate : AssignmentCandidate)
    (campusId : String) (eligibility : Eligibility) : Outcome AssignmentCandidate := do
  let id ← demand (readUuid candidate.userId) .database
  match (db.collaborators.findUnique (.id id)).filter fun user => Assignable user with
  | none => pure { candidate with active := false }
  | some user => do
    let campus ← canonicalCampus rt db.references (user.campusId.getD "")
    let allowed ← eligibilityAllows eligibility user.roles {
      campus := campus.id, active := true, own := true, team := false
      campusAllowed := campus.id = campusId, globalAllowed := false }
    if allowed then
      pure { candidate with
        active := candidate.active && campus.id = campusId
        activeLeadCount := activeLeadCount db user.id }
    else pure { candidate with active := false }

def fixedSheetTarget (db : Database) (candidates : List AssignmentCandidate)
    (targetUserId : Option String) (campusId : String) (eligibility : Eligibility) :
    Outcome String := do
  let ineligible := Failure.conflict "assignment_target_ineligible"
  let candidate ← demand (candidates.find? fun c => some c.userId = targetUserId) ineligible
  let current ← eligibleAssignmentCandidate rt db candidate campusId eligibility
  require current.Eligible ineligible
  pure current.userId

/-! ### Resolving -/

/-- An assignment that is resolved: what a commit reads of it, and the evidence. -/
structure ResolvedAssignment extends SheetAssignment where
  eventKey : String
  reason : Option String := none
  evidence : Option Selection := none

variable (s : CampusBook)

/-- `prepareBalancedAssignment`; `evidence` is the assignment without a target. -/
def prepareBalancedAssignment (cohort : Cohort) (strategy : AssignmentStrategy)
    (candidates : List AssignmentCandidate) (evidence : ResolvedAssignment)
    (automatic newEntrant : Bool) (eligibility : Eligibility) (pick : ℕ → Option ℤ) :
    Outcome ResolvedAssignment :=
  if !newEntrant || !automatic then
    pure { evidence with reason := some "assignment_new_entrants_only" }
  else do
    require eligibility.isSome (.conflict "assignment_balance_permissions_required")
    match ← reserveNewEntrant rt collate s.ledger cohort evidence.eventKey candidates pick with
    | none => pure { evidence with reason := some "assignment_candidate_unavailable" }
    | some reservation => do
      let legacy ← selectAssignmentCandidate rt collate cohort.ruleId strategy 0 candidates
        evidence.eventKey 0
      let selection := { legacy with
        candidateIds := eligibleIds collate candidates, selectedUserId := reservation.userId }
      pure { evidence with
        targetUserId := some reservation.userId, newEntrantReservation := some reservation
        selection := some selection.toAssignmentSelection, evidence := some selection
        reason := some "assignment_balanced_new_entrant_v1" }

/-- `cursor?.cursor ?? 0` -/
def Ledger.cursor (s : Ledger) (cohort : Cohort) : ℕ :=
  ((s.cursors.findUnique cohort).map CampusAssignmentCursorRow.cursor).getD 0

variable (assignment : BatchAssignment)

/-- The rest of `prepareSheetAssignment`, under the rule that is applied. -/
def resolveByRule (rule : AssignmentRuleInput) (campusId : String) (version : ℤ)
    (evidence : ResolvedAssignment) (previewOffset : ℕ) (automatic : Bool)
    (eligibility : Eligibility) (newEntrant : Bool) (pick : ℕ → Option ℤ) :
    Outcome ResolvedAssignment := do
  let ruleId ← demand (Leads.nonEmpty rule.id) (.conflict "assignment_rule_invalid")
  if assignment.strategy = "FIXED" then do
    let target ← fixedSheetTarget rt s.db rule.candidates assignment.targetUserId campusId
      eligibility
    pure { evidence with targetUserId := some target }
  else do
    require (rule.strategy.text = assignment.strategy) (.conflict "assignment_strategy_conflict")
    let candidates ← rule.candidates.mapM fun candidate =>
      eligibleAssignmentCandidate rt s.db candidate campusId eligibility
    if rule.balanceNewEntrants = some true then
      prepareBalancedAssignment rt collate s ⟨campusId, version, ruleId⟩ rule.strategy candidates
        evidence automatic newEntrant eligibility pick
    else do
      let selection ← selectAssignmentCandidate rt collate ruleId rule.strategy
        (s.ledger.cursor ⟨campusId, version, ruleId⟩) candidates evidence.eventKey previewOffset
      pure { evidence with
        targetUserId := some selection.selectedUserId
        selection := some selection.toAssignmentSelection, evidence := some selection }

/-- The rest of `prepareSheetAssignment`, under the rules of the campus. -/
def resolveByRules (source campaign campusId eventKey : String) (configuration : CampusRules)
    (previewOffset : ℕ) (automatic : Bool) (eligibility : Eligibility) (newEntrant : Bool)
    (pick : ℕ → Option ℤ) : Outcome ResolvedAssignment :=
  let evidence : ResolvedAssignment :=
    { eventKey, campusId := some campusId, configurationVersion := some configuration.version }
  if automatic ∧ ¬configuration.automaticEnabled then
    pure { evidence with reason := some (if configuration.version ≠ 0 then
      "assignment_automation_disabled" else "assignment_configuration_absent") }
  else
    (applicableCampusRule configuration.rules source campaign).bind fun
      | none => pure { evidence with reason := some "assignment_configuration_absent" }
      | some rule => resolveByRule rt collate s assignment rule campusId configuration.version
          evidence previewOffset automatic eligibility newEntrant pick

def prepareSheetAssignment (source campaign campusId eventKey : String) (previewOffset : ℕ)
    (automatic : Bool) (eligibility : Eligibility) (newEntrant : Bool) (pick : ℕ → Option ℤ) :
    Outcome ResolvedAssignment :=
  if assignment.strategy = "UNASSIGNED" then
    pure { eventKey, reason := some "assignment_explicitly_unassigned" }
  else do
    let _ ← canonicalCampus rt s.db.references campusId
    let configuration ← readCampusRules s campusId
    resolveByRules rt collate s assignment source campaign campusId eventKey configuration
      previewOffset automatic eligibility newEntrant pick

/-! ### Imports -/

/-- The assignment of a record of an import: nobody asks for capabilities, and the record brings
in no new entrant. -/
def resolveImportRecord (input : IngestionBatchInput)
    (record : IngestionRecordInput) (campusId : String) (previewOffset : ℕ) :
    Outcome ResolvedAssignment :=
  prepareSheetAssignment rt collate s input.assignment record.source (record.campaign.getD "")
    campusId (input.idempotencyKey ++ ":" ++ toString record.lineNumber) previewOffset
    (input.assignment.strategy ≠ "FIXED") none false fun _ => none

/-- Where a preview counts: under a campus, a version of its rules and one of them. The source
joins them into one text, whose parts are read back since the identifier of a campus has no
colon. -/
def offsetKey (campusId : String) (version : ℤ) (rule : Option AssignmentRuleInput) : Cohort :=
  ⟨campusId, version, (rule.bind AssignmentRuleInput.id).getD "absent"⟩

/-- One turn of the loop of `previewImportRecords`; `authorize` is the check of the permission to
assign in the campus. -/
def previewImportRecord (input : IngestionBatchInput)
    (authorize : CanonicalCampus → Outcome Unit) (offsets : Dict Cohort ℕ)
    (record : IngestionRecordInput) : Outcome (ResolvedAssignment × Dict Cohort ℕ) := do
  let campus ← canonicalCampus rt s.db.references (record.campus.getD "")
  authorize campus
  let configuration ← readCampusRules s campus.id
  let rule ← applicableCampusRule configuration.rules record.source (record.campaign.getD "")
  let key := offsetKey campus.id configuration.version rule
  let offset := (offsets.get key).getD 0
  let selected ← resolveImportRecord rt collate s input record campus.id offset
  if selected.selection.map AssignmentSelection.strategy = some .ROUND_ROBIN then
    pure (selected, offsets.set key (offset + 1))
  else pure (selected, offsets)

/-- The loop of `previewImportRecords`. -/
def previewLoop (s : CampusBook) (input : IngestionBatchInput)
    (authorize : CanonicalCampus → Outcome Unit) :
    List IngestionRecordInput → Dict Cohort ℕ → Outcome (List (ℤ × ResolvedAssignment))
  | [], _ => pure []
  | record :: records, offsets => do
    let (selected, offsets) ← previewImportRecord rt collate s input authorize offsets record
    let results ← previewLoop s input authorize records offsets
    pure ((record.lineNumber, selected) :: results)

def previewImportRecords (input : IngestionBatchInput)
    (authorize : CanonicalCampus → Outcome Unit) : Outcome (Dict ℤ ResolvedAssignment) := do
  let results ← previewLoop rt collate s input authorize input.records .empty
  pure (.ofList results)

/-- The lead of a record is written, with its target, and the assignment is committed: what
`createLead` does of a record. `lead` holds the other columns. -/
def commitImportRecord (input : IngestionBatchInput)
    (authorize : CanonicalCampus → Outcome Unit) (record : IngestionRecordInput)
    (lead : Leads.LeadRow) : Outcome (ResolvedAssignment × CampusBook) := do
  let campus ← canonicalCampus rt s.db.references (record.campus.getD "")
  authorize campus
  let selected ← resolveImportRecord rt collate s input record campus.id 0
  let leads ← insert s.db.leads { lead with
    assignedToId := selected.targetUserId.bind readUuid
    assignmentMode := selected.targetUserId.map fun _ => input.assignment.strategy }
  let db := { s.db with leads }
  let ledger ← commitSheetAssignment rt db s.ledger selected.toSheetAssignment lead.id
  pure (selected, { s with db, ledger })

def commitImportRecords (s : CampusBook) (input : IngestionBatchInput)
    (authorize : CanonicalCampus → Outcome Unit) :
    List (IngestionRecordInput × Leads.LeadRow) →
      Outcome (List (ℤ × ResolvedAssignment) × CampusBook)
  | [] => pure ([], s)
  | (record, lead) :: rest => do
    let (selected, s) ← commitImportRecord rt collate s input authorize record lead
    let (results, s) ← commitImportRecords s input authorize rest
    pure ((record.lineNumber, selected) :: results, s)

end CrmYnov.Assignment
