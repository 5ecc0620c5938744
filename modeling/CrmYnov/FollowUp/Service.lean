import CrmYnov.FollowUp.Repository
import CrmYnov.Leads.Progression

/-!
# The follow-up service

A request reads the follow-ups, the lead and the receipts, checks what it has read,
and calls a mutation of the repository. Inside the transaction of its permission
check all of it is read in one state; a service called on its own reads each from a
state of its own (`CrmYnov.FollowUp.View`), and the mutation acts on a later one.

Completing a follow-up plans the next one, and an interaction that is recorded by
hand plans or confirms one: each of the two is one transaction, which sees what it
has written itself.
-/

/-!
## What is planned next

Whoever records an interaction says what comes next: a new follow-up, or the
confirmation of the one that is open, as it was seen. The body of a request is a
JSON value, and is read into an intent or refused (`parseNextActionIntent`); what
is read is the date of the intent as the source writes it back.
-/

namespace CrmYnov.FollowUp

open Checked

inductive NextActionIntent
  | schedule (dueAt : Instant) (reason : String)
  | confirm (id : String) (expectedVersion : ℕ) (dueAt : Instant)

def NextActionIntent.dueAt : NextActionIntent → Instant
  | schedule dueAt _ => dueAt
  | confirm _ _ dueAt => dueAt

/-- `invalid()` -/
def intentInvalid : Failure := .badRequest "next_action_intent_invalid"

/-- A positive integer the source can count up to: `Number.isSafeInteger`. -/
def version? : Js.Json → Option ℕ
  | .num digits => digits.toNat?.filter fun n => 1 ≤ n ∧ n ≤ 9007199254740991 ∧ toString n = digits
  | _ => none

/-- `/^\d{4}-\d{2}-\d{2}T\d{2}:\d{2}:\d{2}(?:\.\d{1,3})?(?:Z|[+-]\d{2}:\d{2})$/` -/
def isDateText (text : String) : Bool :=
  let digits := fun n => List.replicate n Js.isDigit
  let mark := fun d : Char => [fun c => c == d]
  let second := digits 4 ++ mark '-' ++ digits 2 ++ mark '-' ++ digits 2 ++ mark 'T' ++ digits 2 ++
    mark ':' ++ digits 2 ++ mark ':' ++ digits 2
  let fractions := [[], mark '.' ++ digits 1, mark '.' ++ digits 2, mark '.' ++ digits 3]
  let zones := [mark 'Z', [fun c => c == '+' || c == '-'] ++ digits 2 ++ mark ':' ++ digits 2]
  fractions.any fun fraction => zones.any fun zone => Js.hasShape (second ++ fraction ++ zone) text

variable (rt : Runtime)

/-- The date an intent gives, on a day that exists. -/
def intentDate (value : Js.Json) : Outcome Instant := do
  let text ← demand ((value.member "dueAt").bind Js.Json.text?) intentInvalid
  require (isDateText text) intentInvalid
  let dueAt ← demand (rt.parseDate text) intentInvalid
  let calendarDay := Js.slice 10 text
  let midnight ← demand (rt.parseDate (calendarDay ++ "T00:00:00Z")) (.error "Invalid time value")
  require (Js.slice 10 (Js.isoString midnight) = calendarDay) intentInvalid
  pure dueAt

def onlyMembers (members : List (String × Js.Json)) (allowed : List String) : Outcome Unit :=
  require (∀ m ∈ members, m.1 ∈ allowed) intentInvalid

def parseNextActionIntent (input : Option Js.Json) : Outcome NextActionIntent :=
  match input with
  | some (.obj members) =>
    let value := Js.Json.obj members
    let mode := (value.member "mode").bind Js.Json.text?
    if mode = some "SCHEDULE" then do
      onlyMembers members ["mode", "dueAt", "reason"]
      let dueAt ← intentDate rt value
      let reason ← demand ((value.member "reason").bind Js.Json.text?) intentInvalid
      require (3 ≤ Js.length (Js.trim reason) ∧ Js.length (Js.trim reason) ≤ 1000) intentInvalid
      pure (.schedule dueAt (Js.trim reason))
    else do
      onlyMembers members ["mode", "id", "expectedVersion", "dueAt"]
      let dueAt ← intentDate rt value
      require (mode = some "CONFIRM") intentInvalid
      let id ← demand ((value.member "id").bind Js.Json.text?) intentInvalid
      require (isUuidText id) intentInvalid
      let expectedVersion ← demand ((value.member "expectedVersion").bind version?) intentInvalid
      pure (.confirm id expectedVersion dueAt)
  | _ => .error intentInvalid

def assertFutureNextAction (intent : NextActionIntent) (now : Instant) : Outcome Unit :=
  require (now < intent.dueAt) (.badRequest "next_action_chronology_invalid")

def assertConfirmedNextAction (id : String) (expectedVersion : ℕ) (dueAt : Instant)
    (record : Option FollowUpRecord) (leadId : String) (now : Instant) : Outcome Unit := do
  require (∃ r ∈ record, r.id = id ∧ r.leadId = leadId ∧ r.version = expectedVersion ∧ r.state.Open ∧
      r.dueAt = dueAt)
    (.conflict "next_action_confirmation_stale")
  assertFutureNextAction (.confirm id expectedVersion dueAt) now

end CrmYnov.FollowUp

namespace CrmYnov.FollowUp

open Checked Leads

/-- The states a request has read: its follow-ups, its leads, its receipts. -/
structure View where
  (items leads receipts : Database)

/-- A request that reads all in one state. -/
def View.of (db : Database) : View := ⟨db, db, db⟩

namespace View

/-- `this.items.get(id)` -/
def item (view : View) (id : String) : Option FollowUpRecord :=
  (view.items.leadFollowUps.findUnique (.id id)).map LeadFollowUpRow.record

def memory (view : View) : LeadMemory := LeadMemory.init.refresh view.leads

end View

def isManager (principal : Principal) : Prop := principal.hasSome Principal.managers
deriving Decidable

def mutationKey (operation targetId raw : String) : Outcome String := do
  require (Js.fullMatch (fun c => Js.isAlnum c || c == ':' || c == '_' || c == '-') 8 96 raw)
    (.badRequest "follow_up_idempotency_invalid")
  pure ("follow-up:" ++ operation ++ ":" ++ targetId ++ ":" ++ raw)

/-- The key of a request that may have none. -/
def rawKey (idempotencyKey : Option String) (correlationId : String) (d : Draw) : String :=
  idempotencyKey.getD (if correlationId = "missing-correlation" then d.keyId else correlationId)

variable (rt : Runtime)

/-- A date that lies in the future: what the source reads with `new Date(text ?? "")`
and compares with the clock. -/
def futureDate (text : Option String) (now : Instant) (code : String) : Outcome Instant := do
  let due ← demand (rt.parseDate (text.getD "")) (.badRequest code)
  require (now < due) (.badRequest code)
  pure due

/-! ### Planning -/

structure ScheduleInput where
  dueAt : Option String := none
  reason : Option String := none
  ownerId : Option String := none
  idempotencyKey : Option String := none

/-- What a plan has validated: its date, its reason and its owner. -/
def scheduleFields (input : ScheduleInput) (assignedToId : Option String) (principal : Principal)
    (now : Instant) : Outcome (Instant × String × String) := do
  let due ← futureDate rt input.dueAt now "follow_up_invalid"
  let reason ← demand (nonEmpty (input.reason.map Js.trim)) (.badRequest "follow_up_invalid")
  let ownerId ← demand (nonEmpty (input.ownerId.or assignedToId)) (.badRequest "follow_up_invalid")
  require (assignedToId = some principal.userId ∨ isManager principal)
    (.forbidden "follow_up_forbidden")
  pure (due, reason, ownerId)

def buildSchedule (view : View) (leadId : String) (input : ScheduleInput)
    (assignedToId : Option String) (principal : Principal) (d : Draw) : Outcome FollowUpRecord := do
  let (dueAt, reason, ownerId) ← scheduleFields rt input assignedToId principal d.now
  require (view.items.leadFollowUps.findFirst (Pending leadId) = none)
    (.conflict "follow_up_pending")
  pure { id := d.rowId, leadId, ownerId, dueAt, state := .SCHEDULED, reason, version := 1 }

def scheduleForApi (view : View) (db : Database) (leadId : String) (input : ScheduleInput)
    (principal : Principal) (correlationId : String) (d : Draw) :
    Outcome (FollowUpRecord × Database) := do
  let lead ← getLead view.memory leadId principal
  require (¬lead.status.Closed) (.badRequest "next_action_closed_lead")
  let (due, reason, ownerId) ← scheduleFields rt input lead.assignedToId principal d.now
  let idempotencyKey ← mutationKey "schedule" leadId (rawKey input.idempotencyKey correlationId d)
  let fingerprint := fingerprint rt (.obj [("leadId", .str leadId),
    ("dueAt", .str (Js.isoString due)), ("reason", .str reason), ("ownerId", .str ownerId)])
  match ← findReplay view.receipts idempotencyKey fingerprint with
  | some replay => pure (replay, db)
  | none =>
    let record ← buildSchedule rt view leadId
      { dueAt := some (Js.isoString due), reason := some reason, ownerId := some ownerId }
      lead.assignedToId principal d
    schedule rt db record
      { idempotencyKey, fingerprint, principal, correlationId, expectedLeadVersion := lead.version } d

/-! ### Deciding -/

inductive FollowUpDecisionAction
  | POSTPONE | COMPLETE | CANCEL
deriving DecidableEq

namespace FollowUpDecisionAction

def text : FollowUpDecisionAction → String
  | POSTPONE => "POSTPONE"
  | COMPLETE => "COMPLETE"
  | CANCEL => "CANCEL"

def ofText? (text : String) : Option FollowUpDecisionAction :=
  [POSTPONE, COMPLETE, CANCEL].find? fun a => a.text = text

/-- `followUpDecisionStates` -/
def state : FollowUpDecisionAction → FollowUpState
  | POSTPONE => .SCHEDULED
  | COMPLETE => .COMPLETED
  | CANCEL => .CANCELLED

end FollowUpDecisionAction

structure FollowUpDecisionInput where
  action : Option String := none
  dueAt : Option String := none
  reason : Option String := none
  expectedVersion : Option ℤ := none
  idempotencyKey : Option String := none
  nextAction : Option Js.Json := none

structure ValidatedFollowUpDecision where
  action : FollowUpDecisionAction
  reason : String
  due : Option Instant

def validateDecision (input : FollowUpDecisionInput) (now : Instant) :
    Outcome ValidatedFollowUpDecision := do
  let action ← demand (input.action.bind FollowUpDecisionAction.ofText?)
    (.badRequest "follow_up_decision_invalid")
  let reason ← demand (nonEmpty (input.reason.map Js.trim))
    (.badRequest "follow_up_decision_invalid")
  require (Js.length reason ≤ 1000) (.badRequest "follow_up_decision_invalid")
  if action = .POSTPONE then
    let due ← futureDate rt input.dueAt now "follow_up_due_invalid"
    pure ⟨action, reason, some due⟩
  else pure ⟨action, reason, none⟩

def decisionFingerprint (id : String) (input : FollowUpDecisionInput) (principal : Principal) :
    String :=
  fingerprint rt (.present ([("id", some (.str id)), ("action", input.action.map Js.Json.str),
    ("dueAt", if input.action = some "POSTPONE"
      then (rt.parseDate (input.dueAt.getD "")).map fun due => .str (Js.isoString due) else none),
    ("reason", input.reason.map fun reason => .str (Js.trim reason)),
    ("expectedVersion", input.expectedVersion.map Js.Json.int)] ++
    match input.nextAction.filter Js.Json.truthy with
    | some nextAction => [("nextAction", some nextAction), ("actorId", some (.str principal.userId))]
    | none => []))

variable (current : FollowUpRecord)

def assertDecisionAccess (principal : Principal) : Outcome Unit :=
  require (current.ownerId = principal.userId ∨ isManager principal)
    (.forbidden "follow_up_forbidden")

def assertDecisionVersion (expectedVersion : Option ℤ) : Outcome Unit :=
  require (expectedVersion = some (current.version : ℤ) ∧ current.state.Open)
    (.conflict "follow_up_concurrent")

def decidedRecord (decision : ValidatedFollowUpDecision) : FollowUpRecord :=
  { current with
    state := decision.action.state, dueAt := decision.due.getD current.dueAt
    reason := decision.reason, version := current.version + 1 }

def decideSingleForApi (view : View) (db : Database) (id : String) (input : FollowUpDecisionInput)
    (principal : Principal) (correlationId : String) (d : Draw) :
    Outcome (FollowUpRecord × Database) := do
  let current ← demand (view.item id) (.notFound "follow_up_not_found")
  let decision ← validateDecision rt input d.now
  let idempotencyKey ← mutationKey "decide" id (rawKey input.idempotencyKey correlationId d)
  let fingerprint := decisionFingerprint rt id input principal
  match ← findReplay view.receipts idempotencyKey fingerprint with
  | some replay => pure (replay, db)
  | none =>
    assertDecisionAccess current principal
    let lead ← getLead view.memory current.leadId principal
    assertDecisionVersion current input.expectedVersion
    decide rt db current (decidedRecord current decision) ("FOLLOW_UP_" ++ decision.action.text)
      { idempotencyKey, fingerprint, principal, correlationId, expectedLeadVersion := lead.version } d

/-- `/^[A-Za-z0-9:_-]{8,64}$/` -/
def isInteractionKey (key : String) : Bool :=
  Js.fullMatch (fun c => Js.isAlnum c || c == ':' || c == '_' || c == '-') 8 64 key

/-- The clocks and the identifiers of a completion, and of the plan that follows
it. -/
structure CompletionDraw where
  (completion plan : Draw)

variable (db : Database)

/-- `completeAndPlanForApi`: one transaction, which completes and plans. -/
def completeAndPlanForApi (id : String) (input : FollowUpDecisionInput) (principal : Principal)
    (correlationId : String) (d : CompletionDraw) : Outcome (FollowUpRecord × Database) := do
  let raw ← demand (input.idempotencyKey.filter isInteractionKey)
    (.badRequest "follow_up_idempotency_invalid")
  let key ← mutationKey "decide" id raw
  match ← findReplay db key (decisionFingerprint rt id input principal) with
  | some replay => pure (replay, db)
  | none =>
    match ← parseNextActionIntent rt input.nextAction with
    | .confirm .. => .error (.badRequest "next_action_required")
    | .schedule dueAt reason =>
      assertFutureNextAction (.schedule dueAt reason) d.completion.now
      let current ← demand ((View.of db).item id) (.notFound "follow_up_not_found")
      assertDecisionAccess current principal
      let lead ← getLead (View.of db).memory current.leadId principal
      require (¬lead.status.Closed) (.badRequest "next_action_closed_lead")
      require (lead.assignedToId = some principal.userId ∨ isManager principal)
        (.forbidden "follow_up_forbidden")
      let (completed, db) ← decideSingleForApi rt (View.of db) db id input principal correlationId
        d.completion
      let (_, db) ← scheduleForApi rt (View.of db) db lead.id
        { dueAt := some (Js.isoString dueAt), reason := some reason
          ownerId := some (lead.assignedToId.getD principal.userId), idempotencyKey := some raw }
        principal correlationId d.plan
      pure (completed, db)

def decideForApi (view : View) (db : Database) (id : String) (input : FollowUpDecisionInput)
    (principal : Principal) (correlationId : String) (d : CompletionDraw) :
    Outcome (FollowUpRecord × Database) := do
  require (input.nextAction.isSome → input.action = some "COMPLETE")
    (.badRequest "next_action_intent_invalid")
  let _ ← validateDecision rt input d.completion.now
  if input.action = some "COMPLETE" then
    completeAndPlanForApi rt db id input principal correlationId d
  else decideSingleForApi rt view db id input principal correlationId d.completion

/-! ### Interactions recorded by hand -/

structure ManualInteractionInput where
  (type result : String)
  note : Option String := none
  nextActionAt : Option String := none
  nextAction : Option Js.Json := none
  idempotencyKey : Option String := none

def ManualInteractionInput.json (input : ManualInteractionInput) : Js.Json :=
  .present [("type", some (.str input.type)), ("result", some (.str input.result)),
    ("note", input.note.map Js.Json.str), ("nextActionAt", input.nextActionAt.map Js.Json.str),
    ("nextAction", input.nextAction), ("idempotencyKey", input.idempotencyKey.map Js.Json.str)]

def interactionFingerprint (input : ManualInteractionInput) (principal : Principal) : String :=
  fingerprint rt (.str (Js.Json.stringify (.obj [("actorId", .str principal.userId),
    ("input", input.json)])))

/-- The clocks and the identifiers of an interaction, and of the plan that follows
it. -/
structure InteractionDraw where
  contact : ContactOccasion
  plan : Draw

/-- The intent of an interaction: required of an open lead, refused of a closed
one. -/
def interactionIntent (lead : LeadRecord) (input : ManualInteractionInput) :
    Outcome (Option NextActionIntent) := do
  let nextAction := input.nextAction.filter Js.Json.truthy
  require (¬lead.status.Closed → nextAction.isSome) (.badRequest "next_action_required")
  require (lead.status.Closed → nextAction = none ∧ nonEmpty input.nextActionAt = none)
    (.badRequest "next_action_closed_lead")
  let intent ← nextAction.mapM fun value => parseNextActionIntent rt (some value)
  require (∀ text ∈ nonEmpty input.nextActionAt,
      intent.map (fun i => Js.isoString i.dueAt) = some text)
    (.badRequest "next_action_intent_invalid")
  pure intent

/-- What an interaction checks of its intent, before it is recorded. -/
def checkIntent (lead : LeadRecord) (leadId : String) (principal : Principal) (d : Draw) :
    Option NextActionIntent → Outcome Unit
  | none => pure ()
  | some intent => do
    assertFutureNextAction intent d.now
    require (lead.assignedToId = some principal.userId ∨ isManager principal)
      (.forbidden "follow_up_forbidden")
    match intent with
    | .confirm id expectedVersion dueAt =>
      assertConfirmedNextAction id expectedVersion dueAt ((View.of db).item id) leadId d.now
    | .schedule dueAt reason =>
      let _ ← buildSchedule rt (View.of db) leadId
        { dueAt := some (Js.isoString dueAt), reason := some reason
          ownerId := some (lead.assignedToId.getD principal.userId) } lead.assignedToId principal d

def planIntent (lead : LeadRecord) (leadId raw : String) (principal : Principal)
    (correlationId : String) (d : Draw) : Option NextActionIntent → Outcome Database
  | some (.schedule dueAt reason) => do
    let (_, db) ← scheduleForApi rt (View.of db) db leadId
      { dueAt := some (Js.isoString dueAt), reason := some reason
        ownerId := some (lead.assignedToId.getD principal.userId), idempotencyKey := some raw }
      principal correlationId d
    pure db
  | _ => pure db

/-- The transaction of an interaction that was not recorded before. -/
def recordInteraction (leadId raw key : String) (input : ManualInteractionInput)
    (principal : Principal) (correlationId : String) (d : InteractionDraw) :
    Outcome (LeadActivityRecord × Database) := do
  let lead ← getLead (View.of db).memory leadId principal
  let intent ← interactionIntent rt lead input
  checkIntent rt db lead leadId principal d.plan intent
  let (result, db) ← addActivityForApi rt db db leadId {
    type := input.type, result := input.result, note := input.note
    nextActionAt := intent.map fun i => Js.isoString i.dueAt, idempotencyKey := some raw }
    principal correlationId d.contact
  let db ← planIntent rt db lead leadId raw principal correlationId d.plan intent
  let db ← db.addReceipt {
    leadId, idempotencyKey := key, operation := "COMMERCIAL_INTERACTION"
    fingerprint := interactionFingerprint rt input principal, result := .activity result }
  pure (result, db)

/-- `addManualActivityForApi`: one transaction, which records and plans. -/
def addManualActivityForApi (leadId : String) (input : ManualInteractionInput)
    (principal : Principal) (correlationId : String) (d : InteractionDraw) :
    Outcome (ReceiptResult × Database) := do
  let raw ← demand (input.idempotencyKey.filter isInteractionKey)
    (.badRequest "lead_action_idempotency_invalid")
  let key := "commercial-interaction:" ++ leadId ++ ":" ++ raw
  match db.leadMutationReceipts.findUnique key with
  | some receipt =>
    require (receipt.fingerprint = interactionFingerprint rt input principal)
      (.conflict "lead_idempotency_conflict")
    pure (receipt.result, db)
  | none =>
    let (result, db) ← recordInteraction rt db leadId raw key input principal correlationId d
    pure (.activity result, db)

end CrmYnov.FollowUp
