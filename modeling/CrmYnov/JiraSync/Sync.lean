import CrmYnov.Base.Machine
import CrmYnov.Base.Table
import CrmYnov.Platform.Runtime

/-!
# Tickets that follow their pull requests

The events of a pull request move its Jira ticket: a run reads the ticket, keeps a record of the
event under a key drawn from what identifies it, moves the ticket, comments, and completes the
record. An event whose record is there is a duplicate, and nothing is done about it.

The record comes before the transition, so that no event moves the ticket twice, and a run that
stops between the two leaves the ticket where it was for good: a later delivery of the event is
a duplicate (`JiraSync.Sample.retry_blocked`), and the record is left to be cleared by hand.
`JiraSync.ticket_follows` says what holds over every sequence of deliveries and crashes.
-/

namespace CrmYnov.JiraSync

open Js Runtime List

/-! ### Events -/

inductive Status
  | TODO | IN_PROGRESS | IN_REVIEW | DONE
deriving DecidableEq

inductive Transition
  | START | SUBMIT_REVIEW | RESUME | COMPLETE

def Transition.to : Transition → Status
  | START => .IN_PROGRESS
  | SUBMIT_REVIEW => .IN_REVIEW
  | RESUME => .IN_PROGRESS
  | COMPLETE => .DONE

inductive Intent
  | WORK_BRANCH_CREATED | PR_DRAFT | PR_READY | CHANGES_REQUESTED | MERGED_DEVELOP
  | PR_CLOSED_UNMERGED | RELEASE_PUBLISHED | IGNORE
deriving DecidableEq

def Intent.text : Intent → String
  | WORK_BRANCH_CREATED => "work_branch_created"
  | PR_DRAFT => "pr_draft"
  | PR_READY => "pr_ready"
  | CHANGES_REQUESTED => "changes_requested"
  | MERGED_DEVELOP => "merged_develop"
  | PR_CLOSED_UNMERGED => "pr_closed_unmerged"
  | RELEASE_PUBLISHED => "release_published"
  | IGNORE => "ignore"

structure PullRequest where
  headRef : Option String := none
  headSha : Option String := none
  headRepository : Option String := none
  baseRef : Option String := none
  draft : Bool := false
  merged : Bool := false
  title : Option String := none
  body : Option String := none
  number : Option ℕ := none
deriving DecidableEq

structure Review where
  id : Option ℕ := none
  state : Option String := none
  commitId : Option String := none
deriving DecidableEq

structure Release where
  id : Option ℕ := none
  tagName : Option String := none
  draft : Option Bool := none
deriving DecidableEq

structure ReleaseEvidence where
  approvalValidated : Bool := false
  humanApproved : Bool := false
  ciGreen : Bool := false
  mergedToMain : Bool := false
  tagCreated : Bool := false
  releasePublished : Bool := false
  listedInManifest : Bool := false
deriving DecidableEq

structure Payload where
  ref : Option String := none
  refType : Option String := none
  action : Option String := none
  pullRequest : Option PullRequest := none
  review : Option Review := none
  release : Option Release := none
  after : Option String := none
  number : Option ℕ := none
  ticketKey : Option String := none
  releaseEvidence : Option ReleaseEvidence := none
deriving DecidableEq

structure Event where
  name : String
  payload : Payload
  (repository actor actorPermission : String)
deriving DecidableEq

structure Config where
  (baseUrl userEmail apiToken projectKey : String)
  (enabled dryRun : Bool)
  allowedActors : List String

def hasReadCredentials (config : Config) : Bool :=
  config.baseUrl != "" && config.userEmail != "" && config.apiToken != ""

def mutationAllowed (config : Config) : Bool := config.enabled && !config.dryRun

/-- What follows some characters, whatever the case. -/
def afterIgnoringCase : List Char → List Char → Option (List Char)
  | [], text => some text
  | _ :: _, [] => none
  | c :: cs, d :: ds =>
    if lowerChar c = lowerChar d then afterIgnoringCase cs ds else none

/-- `${projectKey}-\d+` at the front of a text: the digits, and what follows them. -/
def projectIssue (projectKey : String) (text : List Char) : Option (List Char × List Char) := do
  let rest ← afterIgnoringCase (projectKey.toList ++ ['-']) text
  let digits := rest.takeWhile isDigit
  if digits = [] then none else some (digits, rest.dropWhile isDigit)

variable (u : Unicode)

/-- The characters that a match has taken from a text, in upper case. -/
def matched (text rest : List Char) : String :=
  u.toUpperCase (String.ofList (text.take (text.length - rest.length)))

def branchIssueKey (projectKey : String) (branch : String) : Option String := do
  let text ← afterIgnoringCase "feature/".toList branch.toList <|>
    afterIgnoringCase "fix/".toList branch.toList
  let (_, rest) ← projectIssue projectKey text
  match rest with
  | [] => some (matched u text rest)
  | '-' :: c :: cs =>
    if isAlnum c && cs.all (fun d => isAlnum d || d == '-') then some (matched u text rest)
    else none
  | _ => none

/-- `\w` -/
def isWordChar (c : Char) : Bool := isAlnum c || c == '_'

/-- `\b` between two characters -/
def boundary (before after : Option Char) : Bool := before.any isWordChar != after.any isWordChar

/-- The first issue that a text names, after a character. -/
def issueFrom (u : Unicode) (projectKey : String) (before : Option Char) :
    List Char → Option String
  | [] => none
  | c :: cs =>
    let here := do
      let (digits, rest) ← projectIssue projectKey (c :: cs)
      if boundary before (some c) && boundary digits.getLast? rest.head? then
        some (matched u (c :: cs) rest)
      else none
    here <|> issueFrom u projectKey (some c) cs

def textIssueKey (projectKey : String) (text : String) : Option String :=
  issueFrom u projectKey none text.toList

def extractIssueKey (payload : Payload) (projectKey : String) : Option String :=
  payload.ref.bind (branchIssueKey u projectKey) <|>
    (payload.pullRequest.bind PullRequest.headRef).bind (branchIssueKey u projectKey) <|>
    payload.ticketKey.bind (textIssueKey u projectKey) <|>
    (payload.pullRequest.bind PullRequest.title).bind (textIssueKey u projectKey) <|>
    (payload.pullRequest.bind PullRequest.body).bind (textIssueKey u projectKey)

def pullRequestIntent (payload : Payload) : Intent :=
  let action := payload.action.getD ""
  let pullRequest := payload.pullRequest.getD {}
  if action = "ready_for_review" then .PR_READY
  else if action ∈ ["opened", "reopened", "converted_to_draft"] then
    if pullRequest.draft then .PR_DRAFT else .PR_READY
  else if action = "closed" then
    if ¬pullRequest.merged then .PR_CLOSED_UNMERGED
    else if pullRequest.baseRef = some "develop" then .MERGED_DEVELOP else .IGNORE
  else .IGNORE

/-- `normalizeGithubEvent`: its intent. -/
def intentOf (eventName : String) (payload : Payload) : Intent :=
  if eventName = "create" ∧ payload.refType = some "branch" then .WORK_BRANCH_CREATED
  else if eventName = "pull_request" then pullRequestIntent payload
  else if eventName = "pull_request_review" ∧ payload.action = some "submitted" ∧
      (payload.review.bind Review.state).map u.toLowerCase = some "changes_requested" then
    .CHANGES_REQUESTED
  else if eventName = "release" ∧ payload.action = some "published" ∧
      payload.release.bind Release.draft = some false then .RELEASE_PUBLISHED
  else .IGNORE

def isExternalPullRequest (payload : Payload) (repository : String) : Bool :=
  (payload.pullRequest.bind PullRequest.headRepository).any fun head =>
    head != "" && repository != "" && head != repository

def actorIsAllowed (actor : String) (allowedActors : List String) : Bool :=
  actor != "" && allowedActors.contains actor

def actorHasWritePermission (permission : String) : Bool :=
  ["write", "maintain", "admin"].contains (u.toLowerCase permission)

/-- A text, or `null`. -/
def orNull : Option String → Json
  | none => .null
  | some text => .str text

/-- A number, or `null`. -/
def numberOrNull : Option ℕ → Json
  | none => .null
  | some n => Json.nat n

def eventIdentity (event : Event) (intent : Intent) (issueKey : String) : Json :=
  let payload := event.payload
  let head := payload.pullRequest
  .obj [("repository", .str event.repository), ("intent", .str intent.text),
    ("issueKey", .str issueKey),
    ("branch", orNull (head.bind PullRequest.headRef <|> payload.ref)),
    ("branchSha", orNull (head.bind PullRequest.headSha <|> payload.review.bind Review.commitId <|>
      payload.after)),
    ("pullRequestNumber", numberOrNull (head.bind PullRequest.number <|> payload.number)),
    ("pullRequestAction", orNull payload.action),
    ("reviewId", numberOrNull (payload.review.bind Review.id)),
    ("reviewState", orNull (payload.review.bind Review.state)),
    ("releaseId", numberOrNull (payload.release.bind Release.id)),
    ("releaseTag", orNull (payload.release.bind Release.tagName))]

def idempotencyKey (rt : Runtime) (event : Event) (intent : Intent) (issueKey : String) : String :=
  rt.sha256 (Json.stringify (eventIdentity event intent issueKey))

/-! ### The ticket -/

/-- A ticket, as `getIssue` reads it. -/
structure Issue where
  key : String
  status : Status
  labels : List String
  epic : Bool := false
  blocked : Bool := false

def releaseEvidenceIsComplete (evidence : Option ReleaseEvidence) : Bool :=
  evidence.any fun e => (e.approvalValidated || e.humanApproved) && e.ciGreen && e.mergedToMain &&
    e.tagCreated && e.releasePublished && e.listedInManifest

/-- What is decided about an event, and why. -/
inductive Evaluation
  | transition (transition : Transition) (reason : String)
  | no_op (reason : String)
  | denied (reason : String)

def evaluateIntent (intent : Intent) (issue : Issue) (releaseEvidence : Option ReleaseEvidence) :
    Evaluation :=
  match intent with
  | .WORK_BRANCH_CREATED =>
    match issue.status with
    | .TODO => .transition .START "work_started"
    | .IN_PROGRESS => .no_op "already_in_progress"
    | _ => .denied "invalid_status_for_work_start"
  | .PR_DRAFT =>
    match issue.status with
    | .TODO => .transition .START "draft_pull_request_started_work"
    | .IN_PROGRESS => .no_op "draft_pull_request_remains_in_progress"
    | .IN_REVIEW => .transition .RESUME "pull_request_returned_to_draft"
    | .DONE => .denied "invalid_status_for_draft_pull_request"
  | .PR_READY =>
    match issue.status with
    | .IN_PROGRESS => .transition .SUBMIT_REVIEW "pull_request_ready"
    | .IN_REVIEW => .no_op "already_in_review"
    | _ => .denied "review_cannot_skip_work_start"
  | .CHANGES_REQUESTED =>
    match issue.status with
    | .IN_REVIEW => .transition .RESUME "changes_requested"
    | .IN_PROGRESS => .no_op "already_back_in_progress"
    | _ => .denied "invalid_status_for_changes_requested"
  | .MERGED_DEVELOP =>
    if issue.status = .IN_REVIEW then .no_op "awaiting_validated_release"
    else .denied "merge_develop_requires_in_review"
  | .PR_CLOSED_UNMERGED => .no_op "pull_request_closed_without_merge"
  | .RELEASE_PUBLISHED =>
    if issue.epic then .denied "epic_done_forbidden"
    else if ¬releaseEvidenceIsComplete releaseEvidence then .denied "release_evidence_incomplete"
    else if issue.status ≠ .IN_REVIEW then .denied "release_completion_requires_in_review"
    else .transition .COMPLETE "validated_release_published"
  | .IGNORE => .no_op "event_not_actionable"

/-- The ticket may be moved: it is one of the project, ready, and not blocked. -/
def Issue.ready (issue : Issue) (projectKey : String) : Bool :=
  startsWith (projectKey ++ "-") issue.key && issue.labels.contains "codex-ready" &&
    !issue.blocked

def evaluateTransition (intent : Intent) (issue : Issue)
    (releaseEvidence : Option ReleaseEvidence) (projectKey : String) : Evaluation :=
  if ¬startsWith (projectKey ++ "-") issue.key then .denied "wrong_project"
  else if ¬issue.labels.contains "codex-ready" then .denied "missing_codex_ready"
  else if issue.blocked then .denied "issue_blocked"
  else evaluateIntent intent issue releaseEvidence

inductive RecordState
  | processing | completed

/-- What a run asks Jira to write. -/
inductive Write
  | recordEvent (key : String) (state : RecordState)
  | transition (transition : Transition)
  | addComment

/-- A ticket with its properties and comments. -/
structure Jira where
  issue : Issue
  records : Dict String RecordState := Dict.empty
  comments : ℕ := 0

def Jira.write (jira : Jira) : Write → Jira
  | .recordEvent key state => { jira with records := jira.records.set key state }
  | .transition transition => { jira with issue := { jira.issue with status := transition.to } }
  | .addComment => { jira with comments := jira.comments + 1 }

/-- Jira carries out writes, where the configuration lets them go out. -/
def Jira.writeAll (config : Config) (jira : Jira) (writes : List Write) : Jira :=
  if mutationAllowed config then writes.foldl Jira.write jira else jira

inductive Decision
  | no_op (reason : String)
  | denied (reason : String)
  | transition (transition : Transition)

/-- What a run decides about an event that is not a duplicate, and what it writes, in order. -/
def process (evaluation : Evaluation) (key : String) : Decision × List Write :=
  match evaluation with
  | .denied reason => (.denied reason, [])
  | .no_op reason =>
    (.no_op reason, [.recordEvent key .processing, .addComment, .recordEvent key .completed])
  | .transition transition _ =>
    (.transition transition, [.recordEvent key .processing, .transition transition, .addComment,
      .recordEvent key .completed])

/-- `runSync`, for the ticket of the event: what it decides, and what it writes, in order. -/
def runSync (rt : Runtime) (config : Config) (jira : Jira) (event : Event) :
    Decision × List Write :=
  let intent := intentOf rt.unicode event.name event.payload
  match intent, extractIssueKey rt.unicode event.payload config.projectKey with
  | .IGNORE, _ => (.no_op "event_not_actionable", [])
  | _, none => (.denied "missing_issue_key", [])
  | _, some issueKey =>
    if isExternalPullRequest event.payload event.repository then
      (.denied "external_pull_request", [])
    else if ¬actorIsAllowed event.actor config.allowedActors then (.denied "actor_not_allowed", [])
    else if ¬actorHasWritePermission rt.unicode event.actorPermission then
      (.denied "actor_write_permission_required", [])
    else if ¬hasReadCredentials config then (.no_op "jira_read_credentials_missing", [])
    else
      let key := idempotencyKey rt event intent issueKey
      if (jira.records.get key).isSome then (.no_op "duplicate_event", [])
      else
        process (evaluateTransition intent jira.issue event.payload.releaseEvidence
          config.projectKey) key

/-! ### Deliveries -/

/-- The event that is being delivered. -/
structure Current where
  /-- Its place among the events. -/
  place : ℕ
  event : Event
  /-- The status of the ticket when it was first delivered. -/
  before : Status
  /-- A run has gone through it without a crash. -/
  processed : Bool := false
  /-- A run has crashed between its record and its transition. -/
  stalled : Bool := false

structure World where
  jira : Jira
  current : Option Current := none
  /-- The places of the events whose transition has been carried out, each time it was. -/
  applied : List ℕ := []

/-- What happens: an event is delivered for the first time, or again. The run may crash after some
of its writes. -/
inductive Delivery
  | event (event : Event) (crash : Option ℕ)
  | redelivery (crash : Option ℕ)

def Write.isTransition : Write → Bool
  | .transition _ => true
  | _ => false

/-- An event is delivered, and the run crashes after some of its writes, if it does. -/
def deliver (rt : Runtime) (config : Config) (w : World) (current : Current) (crash : Option ℕ) :
    Decision × World :=
  let (decision, writes) := runSync rt config w.jira current.event
  let made := writes.take (crash.getD writes.length)
  (decision,
    { jira := w.jira.writeAll config made
      current := some
        { current with
          processed := current.processed || crash.isNone
          stalled := current.stalled || (crash == some 1 && (writes[1]?).any Write.isTransition) }
      applied := w.applied ++ (made.filter Write.isTransition).map fun _ => current.place })

def step (rt : Runtime) (config : Config) (w : World) : Delivery → Decision × World
  | .event event crash =>
    deliver rt config w
      { place := (w.current.map fun current => current.place + 1).getD 0, event
        before := w.jira.issue.status } crash
  | .redelivery crash =>
    match w.current with
    | none => (.no_op "event_not_actionable", w)
    | some current => deliver rt config w current crash

def sync (rt : Runtime) (config : Config) : Machine World Delivery Decision where
  step := step rt config

/-! ### What a delivery does -/

section

variable (rt : Runtime) (config : Config) (issueKey : String)

/-- The event is one of the pull request of the ticket that an allowed actor has caused. -/
structure Deliverable (event : Event) : Prop where
  intent : intentOf rt.unicode event.name event.payload ∈
    [Intent.PR_DRAFT, .PR_READY, .CHANGES_REQUESTED]
  ticket : extractIssueKey rt.unicode event.payload config.projectKey = some issueKey
  internal : isExternalPullRequest event.payload event.repository = false
  actor : actorIsAllowed event.actor config.allowedActors = true
  permission : actorHasWritePermission rt.unicode event.actorPermission = true

/-- The status that an event leads its ticket to: a review when it is a ready one. -/
def targetOf (event : Event) : Status :=
  if intentOf rt.unicode event.name event.payload = .PR_READY then .IN_REVIEW else .IN_PROGRESS

def keyOf (event : Event) : String :=
  idempotencyKey rt event (intentOf rt.unicode event.name event.payload) issueKey

/-- The ticket is one of the project, ready, not blocked, and being worked on or reviewed. -/
structure Underway (jira : Jira) : Prop where
  key : jira.issue.key = issueKey
  ready : jira.issue.ready config.projectKey = true
  status : jira.issue.status = .IN_PROGRESS ∨ jira.issue.status = .IN_REVIEW

variable {rt config issueKey} {jira : Jira} {event : Event}

theorem evaluateTransition_of (hjira : Underway config issueKey jira)
    (hevent : Deliverable rt config issueKey event) :
    (jira.issue.status = targetOf rt event ∧ ∃ reason, evaluateTransition
        (intentOf rt.unicode event.name event.payload) jira.issue event.payload.releaseEvidence
        config.projectKey = .no_op reason) ∨
      jira.issue.status ≠ targetOf rt event ∧ ∃ t reason, t.to = targetOf rt event ∧
        evaluateTransition (intentOf rt.unicode event.name event.payload) jira.issue
          event.payload.releaseEvidence config.projectKey = .transition t reason := by
  have hready := hjira.ready
  simp only [Issue.ready, Bool.and_eq_true, Bool.not_eq_true'] at hready
  obtain ⟨⟨hproject, hcontains⟩, hblocked⟩ := hready
  have hlabel : "codex-ready" ∈ jira.issue.labels := by simpa using hcontains
  have hintent := hevent.intent
  simp only [mem_cons, not_mem_nil, or_false] at hintent
  rcases hintent with hintent | hintent | hintent <;> rcases hjira.status with hstatus | hstatus <;>
    simp [evaluateTransition, evaluateIntent, targetOf, hproject, hlabel, hblocked, hintent, hstatus,
      Transition.to]

/-- **What a run writes**: nothing about an event whose record is there, and otherwise its record,
the transition if the ticket is not where the event leads, a comment, and the record again. -/
theorem runSync_of (hread : hasReadCredentials config = true)
    (hjira : Underway config issueKey jira) (hevent : Deliverable rt config issueKey event) :
    ((jira.records.get (keyOf rt issueKey event)).isSome = true →
      (runSync rt config jira event).2 = []) ∧ (jira.records.get (keyOf rt issueKey event) = none →
      jira.issue.status = targetOf rt event ∧ (runSync rt config jira event).2 =
          [.recordEvent (keyOf rt issueKey event) .processing, .addComment,
            .recordEvent (keyOf rt issueKey event) .completed] ∨
        jira.issue.status ≠ targetOf rt event ∧ ∃ t : Transition, t.to = targetOf rt event ∧
          (runSync rt config jira event).2 =
            [.recordEvent (keyOf rt issueKey event) .processing, .transition t, .addComment,
              .recordEvent (keyOf rt issueKey event) .completed]) := by
  have hrun : runSync rt config jira event =
      if (jira.records.get (keyOf rt issueKey event)).isSome then (.no_op "duplicate_event", [])
      else process (evaluateTransition (intentOf rt.unicode event.name event.payload) jira.issue
        event.payload.releaseEvidence config.projectKey) (keyOf rt issueKey event) := by
    have hintent := hevent.intent
    simp only [mem_cons, not_mem_nil, or_false] at hintent
    rcases hintent with hintent | hintent | hintent <;>
      simp [runSync, hintent, hevent.ticket, hevent.internal, hevent.actor, hevent.permission, hread,
        keyOf]
  rw [hrun]
  refine ⟨fun hsome => by rw [if_pos hsome], fun hnone => ?_⟩
  rw [if_neg (by rw [hnone]; exact Bool.false_ne_true)]
  rcases evaluateTransition_of hjira hevent with ⟨hstatus, reason, heval⟩ |
    ⟨hstatus, t, reason, ht, heval⟩
  · rw [heval]
    exact .inl ⟨hstatus, rfl⟩
  · rw [heval]
    exact .inr ⟨hstatus, t, ht, rfl⟩

/-- What becomes of the record and of the ticket when an event is delivered. -/
inductive Delivered (rt : Runtime) (issueKey : String) (w : World) (current : Current)
    (crash : Option ℕ) (w' : World) : Prop
  /-- Nothing is written. -/
  | idle (hjira : w'.jira = w.jira) (happlied : w'.applied = w.applied)
      (hcur : w'.current = some { current with processed := current.processed || crash.isNone })
      (hrecord : crash = none →
        (w.jira.records.get (keyOf rt issueKey current.event)).isSome = true)
  /-- The run stops between its record and its transition. -/
  | stopped (hnone : w.jira.records.get (keyOf rt issueKey current.event) = none)
      (hrecord : (w'.jira.records.get (keyOf rt issueKey current.event)).isSome = true)
      (hissue : w'.jira.issue = w.jira.issue) (happlied : w'.applied = w.applied)
      (hcur : w'.current = some { current with stalled := true })
  /-- The ticket is where the event leads. -/
  | moved (hnone : w.jira.records.get (keyOf rt issueKey current.event) = none)
      (hrecord : (w'.jira.records.get (keyOf rt issueKey current.event)).isSome = true)
      (hissue : w'.jira.issue = { w.jira.issue with status := targetOf rt current.event })
      (happlied : w'.applied = w.applied ∨ w'.applied = w.applied ++ [current.place])
      (hcur : w'.current = some { current with processed := current.processed || crash.isNone })

/-- **What a delivery does.** -/
theorem deliver_cases (hmutation : mutationAllowed config = true)
    (hread : hasReadCredentials config = true) {w : World} {current : Current}
    (hjira : Underway config issueKey w.jira) (hevent : Deliverable rt config issueKey current.event)
    (crash : Option ℕ) :
    Delivered rt issueKey w current crash (deliver rt config w current crash).2 := by
  obtain ⟨hduplicate, hnew⟩ := runSync_of hread hjira hevent
  have hnowrites : ∀ crash, ((runSync rt config w.jira current.event).2.take
      (crash.getD (runSync rt config w.jira current.event).2.length)) = [] →
        (crash = none → (w.jira.records.get (keyOf rt issueKey current.event)).isSome = true) →
          (crash == some 1 && ((runSync rt config w.jira current.event).2[1]?).any
            Write.isTransition) = false →
              Delivered rt issueKey w current crash (deliver rt config w current crash).2 := by
    intro crash hmade hrecord hstalled
    refine .idle ?_ ?_ ?_ hrecord
    · simp only [deliver, hmade, Jira.writeAll, foldl_nil, ite_self]
    · simp only [deliver, hmade, filter_nil, map_nil, append_nil]
    · simp only [deliver, hstalled, Bool.or_false]
  cases hrecord : w.jira.records.get (keyOf rt issueKey current.event) with
  | some state =>
    have hwrites := hduplicate (by rw [hrecord]; rfl)
    refine hnowrites crash ?_ (fun _ => by rw [hrecord]; rfl) ?_
    · rw [hwrites, take_nil]
    · rw [hwrites]
      exact Bool.and_false _
  | none =>
    rcases hnew hrecord with ⟨hstatus, hwrites⟩ | ⟨hstatus, t, ht, hwrites⟩
    · -- the ticket is where the event leads
      rcases crash with _ | _ | _ | _ | k
      case some.zero =>
        exact hnowrites (some 0) take_zero (fun h => (by cases h)) rfl
      all_goals
        refine .moved hrecord ?_ ?_ (.inl ?_) ?_ <;>
          simp [deliver, hwrites, Jira.writeAll, hmutation, Jira.write, Write.isTransition,
            Dict.get_set_self, ← hstatus]
    · -- the run has a transition to make
      rcases crash with _ | _ | _ | _ | _ | k
      case some.zero =>
        exact hnowrites (some 0) take_zero (fun h => (by cases h)) rfl
      case some.succ.zero =>
        refine .stopped hrecord ?_ ?_ ?_ ?_ <;>
          simp [deliver, hwrites, Jira.writeAll, hmutation, Jira.write, Write.isTransition,
            Dict.get_set_self]
      all_goals
        refine .moved hrecord ?_ ?_ (.inr ?_) ?_ <;>
          simp [deliver, hwrites, Jira.writeAll, hmutation, Jira.write, Write.isTransition,
            filter_cons, Dict.get_set_self, ht]

/-! ### Runs -/

/-- What every delivery keeps: a transition has been made for no event twice, and for none whose
record is missing. -/
structure Kept (rt : Runtime) (config : Config) (issueKey : String) (w : World) : Prop where
  underway : Underway config issueKey w.jira
  once : w.applied.Nodup
  places : ∀ p ∈ w.applied, ∃ current, w.current = some current ∧ p ≤ current.place
  current : ∀ current, w.current = some current → Deliverable rt config issueKey current.event ∧
    (current.place ∈ w.applied →
      (w.jira.records.get (keyOf rt issueKey current.event)).isSome = true)

/-- Where the ticket is: where it was until the event has its record, and then where the event
leads, unless a run has stopped in between. -/
structure Located (rt : Runtime) (issueKey : String) (jira : Jira) (current : Current) : Prop where
  unrecorded : jira.records.get (keyOf rt issueKey current.event) = none →
    jira.issue.status = current.before ∧ current.stalled = false ∧ current.processed = false
  recorded : (jira.records.get (keyOf rt issueKey current.event)).isSome = true →
    jira.issue.status = if current.stalled then current.before else targetOf rt current.event

theorem Underway.move (hjira : Underway config issueKey jira) {issue : Issue} {jira' : Jira}
    (hissue : jira'.issue = { issue with status := targetOf rt event }) (hsame : issue = jira.issue) :
    Underway config issueKey jira' := by
  subst hsame
  refine ⟨?_, ?_, ?_⟩
  · rw [hissue]
    exact hjira.key
  · rw [hissue]
    exact hjira.ready
  · rw [hissue]
    by_cases h : intentOf rt.unicode event.name event.payload = .PR_READY
    · exact .inr (if_pos h)
    · exact .inl (if_neg h)

theorem Underway.same (hjira : Underway config issueKey jira) {jira' : Jira}
    (hissue : jira'.issue = jira.issue) : Underway config issueKey jira' :=
  ⟨by rw [hissue]; exact hjira.key, by rw [hissue]; exact hjira.ready,
    by rw [hissue]; exact hjira.status⟩

section

variable {w : World} {current : Current}

/-- **A delivery moves the ticket once for its event**: the event that it has been moved for has
its record. -/
theorem deliver_kept (hmutation : mutationAllowed config = true)
    (hread : hasReadCredentials config = true) (hjira : Underway config issueKey w.jira)
    (honce : w.applied.Nodup) (hevent : Deliverable rt config issueKey current.event)
    (hplaces : ∀ p ∈ w.applied, p ≤ current.place) (hrecorded : current.place ∈ w.applied →
      (w.jira.records.get (keyOf rt issueKey current.event)).isSome = true) (crash : Option ℕ) :
    Kept rt config issueKey (deliver rt config w current crash).2 := by
  have hstill : ∀ (w' : World) (current' : Current), w'.current = some current' →
      current'.place = current.place → w'.applied = w.applied →
        ∀ p ∈ w'.applied, ∃ c, w'.current = some c ∧ p ≤ c.place := by
    intro w' current' hcur hplace happlied p hp
    rw [happlied] at hp
    exact ⟨current', hcur, by rw [hplace]; exact hplaces p hp⟩
  cases deliver_cases hmutation hread hjira hevent crash with
  | idle hjira' happlied hcur _ =>
    refine ⟨by rw [hjira']; exact hjira, by rw [happlied]; exact honce, hstill _ _ hcur rfl happlied,
      fun c hc => ?_⟩
    rw [hcur] at hc
    cases hc
    rw [hjira', happlied]
    exact ⟨hevent, hrecorded⟩
  | stopped hnone hrecord hissue happlied hcur =>
    refine ⟨hjira.same hissue, by rw [happlied]; exact honce, hstill _ _ hcur rfl happlied,
      fun c hc => ?_⟩
    rw [hcur] at hc
    cases hc
    exact ⟨hevent, fun _ => hrecord⟩
  | moved hnone hrecord hissue happlied hcur =>
    -- the event had no record, and so no transition
    have hfirst : current.place ∉ w.applied := by
      intro hmem
      have hsome := hrecorded hmem
      rw [hnone] at hsome
      cases hsome
    refine ⟨hjira.move hissue rfl, ?_, ?_, fun c hc => ?_⟩
    · rcases happlied with happlied | happlied
      · rw [happlied]
        exact honce
      · rw [happlied]
        exact nodup_append.mpr ⟨honce, nodup_singleton _, fun p hp q hq => by
          rw [mem_singleton] at hq
          rintro rfl
          exact hfirst (hq ▸ hp)⟩
    · intro p hp
      refine ⟨_, hcur, ?_⟩
      rcases happlied with happlied | happlied
      · rw [happlied] at hp
        exact hplaces p hp
      · rw [happlied, mem_append, mem_singleton] at hp
        rcases hp with hp | rfl
        · exact hplaces p hp
        · exact Nat.le_refl _
    · rw [hcur] at hc
      cases hc
      exact ⟨hevent, fun _ => hrecord⟩

/-- **A delivery leaves the ticket where it was, or where the event leads.** -/
theorem deliver_located (hmutation : mutationAllowed config = true)
    (hread : hasReadCredentials config = true) (hjira : Underway config issueKey w.jira)
    (hevent : Deliverable rt config issueKey current.event)
    (hlocated : Located rt issueKey w.jira current) (crash : Option ℕ) {current' : Current}
    (hcur' : (deliver rt config w current crash).2.current = some current') :
    Located rt issueKey (deliver rt config w current crash).2.jira current' := by
  cases deliver_cases hmutation hread hjira hevent crash with
  | idle hjira' _ hcur hrecord =>
    rw [hcur] at hcur'
    cases hcur'
    rw [hjira']
    refine ⟨fun hnone => ?_, hlocated.recorded⟩
    obtain ⟨hstatus, hstalled, hprocessed⟩ := hlocated.unrecorded hnone
    refine ⟨hstatus, hstalled, ?_⟩
    cases crash with
    | none =>
      have hsome := hrecord rfl
      rw [show w.jira.records.get (keyOf rt issueKey current.event) = none from hnone] at hsome
      cases hsome
    | some k =>
      change (current.processed || (some k).isNone) = false
      rw [hprocessed]
      rfl
  | stopped hnone hrecord hissue _ hcur =>
    rw [hcur] at hcur'
    cases hcur'
    refine ⟨fun hnone' => ?_, fun _ => ?_⟩
    · rw [show _ = none from hnone'] at hrecord
      cases hrecord
    · rw [hissue, if_pos rfl]
      exact (hlocated.unrecorded hnone).1
  | moved hnone hrecord hissue _ hcur =>
    rw [hcur] at hcur'
    cases hcur'
    refine ⟨fun hnone' => ?_, fun _ => ?_⟩
    · rw [show _ = none from hnone'] at hrecord
      cases hrecord
    · have hstalled : current.stalled = false := (hlocated.unrecorded hnone).2.1
      rw [hissue]
      change targetOf rt current.event = if current.stalled then _ else _
      rw [hstalled]
      rfl

end

/-- The event of a first delivery is one of the ticket. -/
def Promised (rt : Runtime) (config : Config) (issueKey : String) : Delivery → Prop
  | .event event _ => Deliverable rt config issueKey event
  | .redelivery _ => True

/-- The event of a first delivery has no record yet: no earlier one has its identity. -/
def Fresh (rt : Runtime) (issueKey : String) (w : World) : Delivery → Prop
  | .event event _ => w.jira.records.get (keyOf rt issueKey event) = none
  | .redelivery _ => True

/-- Once the last event has been processed by a run that has not crashed, the ticket is where the
event leads it, unless a run has stopped between the record of the event and its transition. -/
def Follows (rt : Runtime) (w : World) : Prop :=
  ∀ current, w.current = some current → current.processed = true →
    w.jira.issue.status = if current.stalled then current.before else targetOf rt current.event

/-- The ticket is where its last event says. -/
def Placed (rt : Runtime) (issueKey : String) (w : World) : Prop :=
  ∀ current, w.current = some current → Located rt issueKey w.jira current

theorem Placed.follows {w : World} (hplaced : Placed rt issueKey w) : Follows rt w := by
  intro current hcur hprocessed
  have hlocated := hplaced current hcur
  cases hrecord : w.jira.records.get (keyOf rt issueKey current.event) with
  | none =>
    obtain ⟨_, _, hnot⟩ := hlocated.unrecorded hrecord
    rw [hnot] at hprocessed
    cases hprocessed
  | some state => exact hlocated.recorded (by rw [hrecord]; rfl)

/-- The world before the first event. -/
def World.start (jira : Jira) : World := { jira }

theorem Kept.next_place {w : World} (hkept : Kept rt config issueKey w) (p : ℕ)
    (hp : p ∈ w.applied) : p < (w.current.map fun current => current.place + 1).getD 0 := by
  obtain ⟨current, hcur, hle⟩ := hkept.places p hp
  rw [hcur]
  exact Nat.lt_succ_of_le hle

theorem Kept.next (hmutation : mutationAllowed config = true)
    (hread : hasReadCredentials config = true) (w : World) (d : Delivery)
    (hkept : Kept rt config issueKey w) (hd : Promised rt config issueKey d) :
    Kept rt config issueKey ((sync rt config).next w d) := by
  cases d with
  | event event crash =>
    have hevent : Deliverable rt config issueKey event := hd
    refine deliver_kept hmutation hread hkept.underway hkept.once hevent
      (fun p hp => Nat.le_of_lt (hkept.next_place p hp)) (fun hmem => ?_) crash
    exact absurd (hkept.next_place _ hmem) (Nat.lt_irrefl _)
  | redelivery crash =>
    change Kept rt config issueKey (step rt config w (.redelivery crash)).2
    cases hcur : w.current with
    | none =>
      simp only [step, hcur]
      exact hkept
    | some current =>
      simp only [step, hcur]
      obtain ⟨hevent, hrecorded⟩ := hkept.current current hcur
      refine deliver_kept hmutation hread hkept.underway hkept.once hevent (fun p hp => ?_)
        hrecorded crash
      obtain ⟨c, hc, hle⟩ := hkept.places p hp
      rw [hcur] at hc
      cases hc
      exact hle

theorem Placed.next (hmutation : mutationAllowed config = true)
    (hread : hasReadCredentials config = true) (w : World) (d : Delivery)
    (hkept : Kept rt config issueKey w) (hplaced : Placed rt issueKey w)
    (hd : Promised rt config issueKey d) (hfresh : Fresh rt issueKey w d) :
    Placed rt issueKey ((sync rt config).next w d) := by
  cases d with
  | event event crash =>
    have hevent : Deliverable rt config issueKey event := hd
    intro current hcur
    refine deliver_located hmutation hread hkept.underway hevent ⟨fun _ => ⟨rfl, rfl, rfl⟩, ?_⟩
      crash hcur
    intro hsome
    rw [show w.jira.records.get _ = none from hfresh] at hsome
    cases hsome
  | redelivery crash =>
    change Placed rt issueKey (step rt config w (.redelivery crash)).2
    cases hcur : w.current with
    | none =>
      simp only [step, hcur]
      exact hplaced
    | some current =>
      simp only [step, hcur]
      intro current' hcur'
      exact deliver_located hmutation hread hkept.underway (hkept.current current hcur).1
        (hplaced current hcur) crash hcur'

end

/-- **A ticket follows its pull request.** Over every sequence of deliveries and crashes, no event
has its transition made twice. If no event repeats the identity of an earlier one, then whenever the
last event has been processed by a run that did not crash the ticket is where the event leads it; or
it is where the event found it, if a run of that event has stopped between its record and its
transition. -/
theorem ticket_follows (rt : Runtime) (config : Config) (jira : Jira)
    (hmutation : mutationAllowed config = true) (hread : hasReadCredentials config = true)
    (hready : jira.issue.ready config.projectKey = true)
    (hstatus : jira.issue.status = .IN_PROGRESS) (as : List Delivery)
    (has : ∀ d ∈ as, Promised rt config jira.issue.key d) :
    (sync rt config).Throughout (fun w => w.applied.Nodup) (.start jira) as ∧
      ((sync rt config).Meets (Fresh rt jira.issue.key) (.start jira) as →
        (sync rt config).Throughout (Follows rt) (.start jira) as) := by
  have hmeets := Machine.meets_of_forall (M := sync rt config) (.start jira) has
  have hkept : Kept rt config jira.issue.key (.start jira) :=
    ⟨⟨rfl, hready, .inl hstatus⟩, nodup_nil, fun p hp => (by cases hp),
      fun c hc => (by cases hc)⟩
  refine ⟨fun pre hpre => ?_, fun hfresh pre hpre => ?_⟩
  · exact (Machine.throughout_of_meets (fun w d hw hd => hw.next hmutation hread w d hd) hkept hmeets
      pre hpre).once
  · refine (Machine.throughout_of_meets (I := fun w => Kept rt config jira.issue.key w ∧
      Placed rt jira.issue.key w) (fun w d hw hd => ?_) ⟨hkept, fun c hc => (by cases hc)⟩
      (hmeets.and hfresh) pre hpre).2.follows
    exact ⟨hw.1.next hmutation hread w d hd.1, hw.2.next hmutation hread w d hw.1 hd.1 hd.2⟩

/-! ### A sample -/

namespace Sample

def config : Config where
  baseUrl := "https://jira.example"
  userEmail := "robot@jira.example"
  apiToken := "token"
  projectKey := "CRMY"
  enabled := true
  dryRun := false
  allowedActors := ["octo"]

/-- A ticket that is being worked on. -/
def jira : Jira where
  issue := { key := "CRMY-1", status := .IN_PROGRESS, labels := ["codex-ready"] }

def pullRequest (action : String) (draft : Bool) (commit : String) : Event where
  name := "pull_request"
  payload :=
    { action := some action
      pullRequest := some
        { headRef := some "feature/CRMY-1-sync", headSha := some commit
          headRepository := some "crm/crm", baseRef := some "develop", draft, number := some 7 } }
  repository := "crm/crm"
  actor := "octo"
  actorPermission := "write"

def readied : Event := pullRequest "ready_for_review" false "c1"

def drafted : Event := pullRequest "converted_to_draft" true "c2"

/-- The run of the event stops after the record, and the event is delivered again. -/
def retry : List Delivery := [.event readied (some 1), .redelivery none]

/-- **A retry is blocked**: the run has stopped between the record of the event and its transition,
the one that goes through finds a duplicate, and the pull request is ready while its ticket is in
progress. -/
theorem retry_blocked :
    ((sync plain config).run (.start jira) retry).current.map
        (fun current => (current.event, current.processed)) = some (readied, true) ∧
      intentOf plain.unicode readied.name readied.payload = .PR_READY ∧
      ((sync plain config).run (.start jira) retry).jira.issue.status ≠ .IN_REVIEW := by
  decide +kernel

/-- The ticket goes to review and back, over a crash and redeliveries. -/
def regular : List Delivery :=
  [.event readied (some 0), .redelivery (some 2), .redelivery none, .event drafted none,
    .redelivery none]

/-- `ticket_follows` on the sample. -/
theorem ticket_follows_regular :
    (sync plain config).Throughout (fun w => w.applied.Nodup) (.start jira) regular ∧
      (sync plain config).Throughout (Follows plain) (.start jira) regular := by
  have hdeliverable : ∀ event ∈ [readied, drafted],
      Deliverable plain config "CRMY-1" event := by
    intro event hevent
    simp only [mem_cons, not_mem_nil, or_false] at hevent
    rcases hevent with rfl | rfl <;>
      exact ⟨by decide +kernel, by decide +kernel, by decide +kernel, by decide +kernel,
        by decide +kernel⟩
  obtain ⟨honce, hfollows⟩ := ticket_follows plain config jira (by decide +kernel)
    (by decide +kernel) (by decide +kernel) rfl regular (by
      intro d hd
      simp only [regular, mem_cons, not_mem_nil, or_false] at hd
      rcases hd with rfl | rfl | rfl | rfl | rfl
      · exact hdeliverable readied (by simp)
      · trivial
      · trivial
      · exact hdeliverable drafted (by simp)
      · trivial)
  refine ⟨honce, hfollows ⟨?_, trivial, trivial, ?_, trivial, trivial⟩⟩
  · change Dict.get _ _ = none
    decide +kernel
  · change Dict.get _ _ = none
    decide +kernel

end Sample

end CrmYnov.JiraSync
