import CrmYnov.Assignment.Engine
import CrmYnov.Ingestion.Types

/-!
# The rules of a campus

A campus keeps the versions of its rules: each of them is written once, and the last one is
in force (`CrmYnov.Assignment.readCampusRules`). A version is configured from rules that are
read over, brought to normal form as the engine does, and checked against the collaborators
of the campus (`CrmYnov.Assignment.configureCampus`). The rule of a lead is the one of its
campaign, else of its source, else of the campus
(`CrmYnov.Assignment.applicableCampusRule`).
-/

namespace CrmYnov.Assignment

open Checked References

/-! ### Versions -/

/-- The rules of a version, as they are stored. -/
inductive CampusSnapshot
  /-- An array of rules: the form of old versions. -/
  | rules (rules : List AssignmentRuleInput) : CampusSnapshot
  | automated (automaticEnabled : Bool) (rules : List AssignmentRule) : CampusSnapshot

/-- A row of `campus_assignment_configurations`. -/
structure CampusAssignmentConfigurationRow where
  campusId : String
  version : ℤ

def CampusAssignmentConfigurationRow.keys (r : CampusAssignmentConfigurationRow) : List String :=
  [r.campusId]

def CampusAssignmentConfigurationRow.withVersion (version : ℤ)
    (r : CampusAssignmentConfigurationRow) : CampusAssignmentConfigurationRow :=
  { r with version }

theorem CampusAssignmentConfigurationRow.keys_withVersion (version : ℤ)
    (r : CampusAssignmentConfigurationRow) : (r.withVersion version).keys = r.keys := rfl

/-- A row of `campus_assignment_versions`. -/
structure CampusAssignmentVersionRow where
  campusId : String
  version : ℤ
  actorId : String
  rules : CampusSnapshot

def CampusAssignmentVersionRow.keys (r : CampusAssignmentVersionRow) : List (String × ℤ) :=
  [(r.campusId, r.version)]

/-- The tables assignments read and write. -/
structure CampusBook where
  db : Database := {}
  ledger : Ledger := {}
  configurations : Table CampusAssignmentConfigurationRow CampusAssignmentConfigurationRow.keys :=
    .empty
  versions : Table CampusAssignmentVersionRow CampusAssignmentVersionRow.keys := .empty

/-! ### Reading rules over -/

/-- `assignment_configuration_invalid` -/
def invalidConfiguration : Failure := .badRequest "assignment_configuration_invalid"

/-- `text(value)` -/
def requiredText (value : String) : Outcome String := do
  require (Js.present value) invalidConfiguration
  pure (Js.trim value)

/-- `text(value)`, of a text that is given. -/
def optionalText : Option String → Outcome (Option String)
  | none => pure none
  | some value => do
    let text ← requiredText value
    pure (some text)

/-- A candidate that is read over: nothing is known of its leads. -/
def parseCandidate (candidate : AssignmentCandidate) : Outcome AssignmentCandidate := do
  require (1 ≤ candidate.capacity ∧ candidate.capacity ≤ 9007199254740991)
    (.badRequest "assignment_candidate_invalid")
  let userId ← requiredText candidate.userId
  pure { candidate with userId, activeLeadCount := 0 }

/-- One rule of `parseCampusRules`. -/
def parseCampusRule (rule : AssignmentRuleInput) : Outcome AssignmentRuleInput := do
  require (rule.balanceNewEntrants = some true → rule.strategy = .CONTROLLED_RANDOM)
    (.badRequest "assignment_balance_policy_invalid")
  require (rule.candidates.length ≤ 100) (.badRequest "assignment_rule_invalid")
  let id ← optionalText rule.id
  let matchValue ← optionalText rule.matchValue
  let candidates ← rule.candidates.mapM parseCandidate
  pure { rule with id, matchValue, candidates }

def parseCampusRules (rules : List AssignmentRuleInput) : Outcome (List AssignmentRuleInput) := do
  require (rules.length ≤ 100) invalidConfiguration
  rules.mapM parseCampusRule

/-- What is read over of a rule that was stored. -/
def AssignmentRule.input (rule : AssignmentRule) : AssignmentRuleInput :=
  { rule.toAssignmentRuleBody with id := some rule.id }

structure CampusRules where
  campusId : String
  version : ℤ
  automaticEnabled : Bool
  rules : List AssignmentRuleInput

def campusSnapshot : CampusSnapshot → Outcome (Bool × List AssignmentRuleInput)
  | .rules rules => do
    let rules ← parseCampusRules rules
    pure (rules.any fun rule => rule.enabled, rules)
  | .automated automaticEnabled rules => do
    let rules ← parseCampusRules (rules.map AssignmentRule.input)
    pure (automaticEnabled, rules)

def readCampusRules (s : CampusBook) (campusId : String) : Outcome CampusRules :=
  match s.configurations.findUnique campusId with
  | none => pure { campusId, version := 0, automaticEnabled := false, rules := [] }
  | some configuration => do
    let snapshot ← demand (s.versions.findUnique (campusId, configuration.version)) .database
    let (automaticEnabled, rules) ← campusSnapshot snapshot.rules
    pure { campusId, version := snapshot.version, automaticEnabled, rules }

def MatchesLead (source campaign : String) (scope : AssignmentScope) (rule : AssignmentRuleInput) :
    Prop :=
  rule.enabled ∧ rule.scope = scope ∧
    (scope = .GLOBAL ∨ rule.matchValue = some (if scope = .CAMPAIGN then campaign else source))
deriving Decidable

def matchingRules (rules : List AssignmentRuleInput) (source campaign : String)
    (scope : AssignmentScope) : List AssignmentRuleInput :=
  rules.filter fun rule => MatchesLead source campaign scope rule

/-- The loop of `applicableCampusRule`. -/
def firstMatching (rules : List AssignmentRuleInput) (source campaign : String) :
    List AssignmentScope → Outcome (Option AssignmentRuleInput)
  | [] => pure none
  | scope :: scopes =>
    match matchingRules rules source campaign scope with
    | [] => firstMatching rules source campaign scopes
    | [rule] => pure (some rule)
    | _ => .error (.conflict "assignment_rule_ambiguous")

def applicableCampusRule (rules : List AssignmentRuleInput) (source campaign : String) :
    Outcome (Option AssignmentRuleInput) :=
  firstMatching rules source campaign [.CAMPAIGN, .SOURCE, .GLOBAL]

/-! ### Configuring a campus -/

variable (rt : Runtime)

variable (s : CampusBook)

/-- One rule of `validateBalancedPoolReferences`. -/
def validateBalancedReference (campusId : String) (rule : AssignmentRule) : Outcome Unit :=
  match rule.balanceNewEntrants, rule.scope with
  | some true, .SOURCE =>
    require (rule.matchValue.getD "" ∈ Ingestion.ingestionSources)
      (.badRequest "assignment_source_invalid")
  | some true, .CAMPAIGN => do
    let invalid := Failure.badRequest "assignment_campaign_invalid"
    let reference ← demand (resolveReference rt s.db.references .CAMPAIGN
      (rule.matchValue.getD "") (some campusId)) invalid
    require (reference.state = .ACTIVE) invalid
    require (some reference.code = rule.matchValue)
      (.badRequest "assignment_campaign_canonical_code_required")
  | _, _ => pure ()

/-- A candidate of a rule is an active collaborator of the campus. -/
def validateCampusCandidate (campusId : String) (candidate : AssignmentCandidate) :
    Outcome Unit := do
  let id ← demand (readUuid candidate.userId) .database
  let user ← demand (s.db.collaborators.findUnique (.id id)) permissionDenied
  require (user.active ∧ (Leads.nonEmpty user.campusId).isSome ∧
      (.ADMISSIONS ∈ user.roles ∨ .MANAGER ∈ user.roles))
    permissionDenied
  let campus ← canonicalCampus rt s.db.references (user.campusId.getD "")
  require (campus.id = campusId) permissionDenied

/-- `tx.campusAssignmentConfiguration.create` or `update` -/
def setVersion (campusId : String) (expectedVersion : ℤ) : Outcome CampusBook :=
  if expectedVersion = 0 then do
    let configurations ← insert s.configurations ⟨campusId, expectedVersion + 1⟩
    pure { s with configurations }
  else do
    let current ← demand (s.configurations.findUnique campusId) .database
    require (current.version = expectedVersion) .database
    pure { s with
      configurations := s.configurations.updateMany (fun r => r.campusId = campusId)
        (CampusAssignmentConfigurationRow.withVersion (expectedVersion + 1))
        (CampusAssignmentConfigurationRow.keys_withVersion (expectedVersion + 1)) }

def campusRules (parsed : List AssignmentRuleInput) (actorId : String) (draw : ℕ → String)
    (now : Instant) : Outcome (List AssignmentRule) :=
  if parsed = [] then pure [] else snapshotRules parsed actorId draw now

/-- `CampusAssignmentService.configure`; `authorized` is the campus the actor is authorized in,
and who the actor is. -/
def configureCampus (authorized : Outcome (String × Principal)) (expectedVersion : ℤ)
    (input : List AssignmentRuleInput) (automaticEnabled : Option Bool) (confirmedNewCohort : Bool)
    (draw : ℕ → String) (now : Instant) : Outcome (CampusRules × CampusBook) := do
  require (0 ≤ expectedVersion) (.badRequest "assignment_version_invalid")
  let parsed ← parseCampusRules input
  require ((∃ rule ∈ parsed, rule.balanceNewEntrants = some true) → confirmedNewCohort)
    (.badRequest "assignment_balance_confirmation_required")
  let (campusId, current) ← authorized
  let previous ← readCampusRules s campusId
  let enabled := automaticEnabled.getD (if previous.version = 0 then
    parsed.any fun rule => rule.enabled else previous.automaticEnabled)
  require (previous.version = expectedVersion) (.conflict "assignment_version_conflict")
  let rules ← campusRules parsed current.userId draw now
  rules.forM (validateBalancedReference rt s campusId)
  (rules.flatMap fun rule => rule.candidates).forM (validateCampusCandidate rt s campusId)
  let s ← setVersion s campusId expectedVersion
  let versions ← insert s.versions
    ⟨campusId, expectedVersion + 1, current.userId, .automated enabled rules⟩
  pure ({ campusId, version := expectedVersion + 1, automaticEnabled := enabled
          rules := rules.map AssignmentRule.input }, { s with versions })

end CrmYnov.Assignment
