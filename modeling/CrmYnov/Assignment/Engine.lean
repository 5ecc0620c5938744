import CrmYnov.Assignment.NewEntrants

/-!
# The assignment engine

Rules say to which collaborators a lead goes: those of its source, those of its campaign, or
the global ones. A rule takes its candidates in turn, along a cursor, or draws one from the
digest of the event. Configuring the engine replaces its rules by the normal forms of those
it is given (`CrmYnov.Assignment.Engine.configure`); a selection is simulated, or decided and
kept under the key of its event (`CrmYnov.Assignment.Engine.assign`).
-/

namespace CrmYnov.Assignment

open Checked

inductive AssignmentScope
  | GLOBAL | SOURCE | CAMPAIGN
deriving DecidableEq

def AssignmentScope.text : AssignmentScope → String
  | GLOBAL => "GLOBAL"
  | SOURCE => "SOURCE"
  | CAMPAIGN => "CAMPAIGN"

/-- What a rule says, whatever its identifier. -/
structure AssignmentRuleBody where
  scope : AssignmentScope
  matchValue : Option String := none
  strategy : AssignmentStrategy
  balanceNewEntrants : Option Bool := none
  enabled : Bool
  candidates : List AssignmentCandidate

structure AssignmentRuleInput extends AssignmentRuleBody where
  id : Option String := none

structure AssignmentRule extends AssignmentRuleBody where
  id : String
  version : ℤ := 1
  cursor : ℕ := 0
  updatedAt : Instant
  updatedBy : String

/-- `IDENTIFIER` -/
def isIdentifier (text : String) : Bool :=
  Js.fullMatch (fun c => Js.isAlnum c || c == '_' || c == '-') 2 64 text

/-! ### Normal forms -/

/-- A candidate may be written in a rule. -/
def AssignmentCandidate.Valid (c : AssignmentCandidate) : Prop :=
  isIdentifier c.userId ∧ 1 ≤ c.capacity ∧ 0 ≤ c.activeLeadCount
deriving Decidable

def AssignmentRuleInput.givenId (input : AssignmentRuleInput) : Option String :=
  input.id.filter fun id => isIdentifier id

def AssignmentRuleBody.matched (rule : AssignmentRuleBody) : Option String :=
  Leads.nonEmpty (rule.matchValue.map Js.trim)

/-- `normalizeRule`; `fresh` is the identifier of a rule that was given none. -/
def normalizeRule (input : AssignmentRuleInput) (actorId fresh : String) (now : Instant) :
    Outcome AssignmentRule := do
  require (input.balanceNewEntrants = some true → input.strategy = .CONTROLLED_RANDOM)
    (.badRequest "assignment_balance_policy_invalid")
  require (input.scope = .GLOBAL ↔ input.matched = none)
    (.badRequest "assignment_rule_match_invalid")
  require (input.candidates ≠ [] ∧ ∀ c ∈ input.candidates, c.Valid)
    (.badRequest "assignment_candidate_invalid")
  require (input.candidates.map AssignmentCandidate.userId).Nodup
    (.conflict "assignment_candidate_duplicate")
  pure { input.toAssignmentRuleBody with
    id := input.givenId.getD fresh, matchValue := input.matched, updatedAt := now
    updatedBy := actorId }

/-- What two rules may not share. -/
def AssignmentRule.scopeName (rule : AssignmentRule) : String :=
  rule.scope.text ++ ":" ++ rule.matchValue.getD ""

def AssignmentRule.Fallback (rule : AssignmentRule) : Prop := rule.scope = .GLOBAL ∧ rule.enabled
deriving Decidable

variable (inputs : List AssignmentRuleInput)

def normalizeRules (actorId : String) (draw : ℕ → String) (now : Instant) :
    Outcome (List AssignmentRule) :=
  inputs.zipIdx.mapM fun entry => normalizeRule entry.1 actorId (draw entry.2) now

def snapshotRules (actorId : String) (draw : ℕ → String) (now : Instant) :
    Outcome (List AssignmentRule) := do
  let normalized ← normalizeRules inputs actorId draw now
  require (normalized.map AssignmentRule.scopeName).Nodup
    (.conflict "assignment_rule_duplicate_scope")
  require (normalized.countP (fun rule => rule.Fallback) = 1)
    (.badRequest "assignment_global_rule_required")
  pure normalized

/-! ### The engine -/

structure Selection extends AssignmentSelection where
  selectedUserId : String
  candidateIds : List String
  candidateFingerprint : String

structure AssignmentDecision extends Selection where
  (id eventKey leadId : String)
  createdAt : Instant

structure AssignmentContext where
  (leadId source campaign eventKey : String)

structure Engine where
  rules : Dict String AssignmentRule := .empty
  decisions : Dict String AssignmentDecision := .empty
  history : List AssignmentRule := []

def assertManager (principal : Principal) : Outcome Unit :=
  require (principal.hasSome Principal.managers) (.forbidden "assignment_manager_required")

variable (rt : Runtime) (collate : String → String → Bool)

/-- The first four bytes of a digest, as a number: `digest().readUInt32BE(0)`. -/
def firstWord (digest : String) : ℕ :=
  (digest.toList.take 8).foldl (fun n c => 16 * n + Js.Json.hexValue c) 0

/-- The candidates that may be given a lead, in the order of their identifiers. -/
def eligibleIds (candidates : List AssignmentCandidate) : List String :=
  ((candidates.filter AssignmentCandidate.Eligible).insertionSort fun a b =>
    collate a.userId b.userId).map AssignmentCandidate.userId

/-- The place of the candidate that is taken, among some of them. -/
def selectionIndex (strategy : AssignmentStrategy) (ruleId eventKey : String) (cursor count : ℕ) :
    ℕ :=
  match strategy with
  | .ROUND_ROBIN => cursor % count
  | .CONTROLLED_RANDOM =>
    firstWord (rt.sha256 ("assignment-v1:" ++ ruleId ++ ":" ++ eventKey)) % count

def selectAssignmentCandidate (ruleId : String) (strategy : AssignmentStrategy) (cursor : ℕ)
    (candidates : List AssignmentCandidate) (eventKey : String) (offset : ℕ) :
    Outcome Selection := do
  let candidateIds := eligibleIds collate candidates
  require (candidateIds ≠ []) (.conflict "assignment_candidate_unavailable")
  let index := selectionIndex rt strategy ruleId eventKey (cursor + offset) candidateIds.length
  let selectedUserId ← demand candidateIds[index]?
    (.error "Cannot read properties of undefined (reading 'userId')")
  pure { ruleId, strategy, selectedUserId, candidateIds
         candidateFingerprint := rt.sha256 (String.intercalate ":" candidateIds) }

namespace Engine

variable (e : Engine)

def configure (inputs : List AssignmentRuleInput) (principal : Principal) (draw : ℕ → String)
    (now : Instant) : Outcome Engine := do
  assertManager principal
  require (inputs ≠ []) (.badRequest "assignment_rules_empty")
  let normalized ← snapshotRules inputs principal.userId draw now
  pure { e with
    rules := .ofList (normalized.map fun rule => (rule.id, rule))
    history := e.history ++ normalized }

/-- A rule is about a lead of a source and of a campaign. -/
def Specific (context : AssignmentContext) (rule : AssignmentRule) : Prop :=
  rule.enabled ∧
    (rule.scope = .SOURCE ∧ rule.matchValue = some (Js.trim context.source) ∨
      rule.scope = .CAMPAIGN ∧ rule.matchValue = some (Js.trim context.campaign))
deriving Decidable

def applicableRule (context : AssignmentContext) : Outcome AssignmentRule := do
  require (context.leadId ≠ "" ∧ context.eventKey ≠ "" ∧ Js.present context.source ∧
      Js.present context.campaign)
    (.badRequest "assignment_context_invalid")
  let specific := e.rules.values.filter fun rule => Specific context rule
  require (specific.length ≤ 1) (.conflict "assignment_rule_ambiguous")
  let rule ← demand (specific.head?.or (e.rules.values.find? fun rule => rule.Fallback))
    (.notFound "assignment_rule_not_found")
  require (rule.balanceNewEntrants ≠ some true) (.conflict "assignment_balance_persistence_required")
  pure rule

def advance (rule : AssignmentRule) : Engine :=
  if rule.strategy = .ROUND_ROBIN then
    { e with rules := e.rules.set rule.id { rule with cursor := rule.cursor + 1 } }
  else e

/-- `select`: the rule that is applied, and what it selects. -/
def select (context : AssignmentContext) (offset : ℕ) : Outcome (AssignmentRule × Selection) := do
  let rule ← e.applicableRule context
  let selection ← selectAssignmentCandidate rt collate rule.id rule.strategy rule.cursor
    rule.candidates context.eventKey offset
  pure (rule, selection)

def simulate (context : AssignmentContext) (principal : Principal) (offset : ℕ) :
    Outcome Selection := do
  assertManager principal
  let (_, selection) ← e.select rt collate context offset
  pure selection

def assign (context : AssignmentContext) (principal : Principal) (decisionId : String)
    (now : Instant) : Outcome (AssignmentDecision × Engine) := do
  require (principal.hasSome (.ADMISSIONS :: Principal.managers))
    (.forbidden "assignment_role_forbidden")
  match e.decisions.get context.eventKey with
  | some existing => pure (existing, e)
  | none => do
    let (rule, selection) ← e.select rt collate context 0
    let decision : AssignmentDecision := { selection with
      id := decisionId, eventKey := context.eventKey, leadId := context.leadId, createdAt := now }
    let e := e.advance rule
    pure (decision, { e with decisions := e.decisions.set context.eventKey decision })

def assertEligibleTarget (userId : String) : Outcome Unit :=
  require (∃ rule ∈ e.rules.values, rule.enabled ∧
      ∃ c ∈ rule.candidates, c.userId = userId ∧ c.Eligible)
    (.conflict "assignment_target_ineligible")

end Engine

end CrmYnov.Assignment
