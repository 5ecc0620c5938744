import CrmYnov.Base.Machine
import CrmYnov.BusinessMail.Journal
import CrmYnov.Platform.Failure
import CrmYnov.Platform.Runtime

/-!
# The operator of the business mail

The configuration is changed by five operations. A preparation writes the settings and makes the
memberships active; a fixture sends one mail to qualify the transport; a preflight is recorded
with the settings it was made of; an activation needs all of these; a pause ends it. Each
operation makes a new version of the configuration, and a preflight is good for the next version
only. An operation that was carried out is not carried out again under its identifier.

The operations take place one after the other, each in a transaction; what the fixture does to
the journal is in transactions of its own and stays when the operation fails
(`CrmYnov.BusinessMail.execute`).
-/

namespace CrmYnov.BusinessMail

open Checked

/-! ### Settings -/

structure BusinessMailSettings where
  campusId : String
  (campaignIds memberUserIds : List String)
  (warningCadenceHours maximumWarnings : ℤ)
  limits : MailSendingLimits

/-- `mailUuid`: `/^[a-f0-9]{8}-[a-f0-9]{4}-[1-8][a-f0-9]{3}-[89ab][a-f0-9]{3}-[a-f0-9]{12}$/i` -/
def mailUuid (text : String) : Bool :=
  let hex (n : ℕ) : List (Char → Bool) := List.replicate n Js.isHexDigitAnyCase
  let dash (c : Char) : Bool := c == '-'
  let version (c : Char) : Bool := '1' ≤ c && c ≤ '8'
  let variant (c : Char) : Bool := c ∈ ['8', '9', 'a', 'b', 'A', 'B']
  Js.hasShape (hex 8 ++ dash :: hex 4 ++ dash :: version :: hex 3 ++ dash :: variant :: hex 3 ++
    dash :: hex 12) text

/-- `business_mail_settings_invalid` -/
def settingsInvalid : Failure := .error "business_mail_settings_invalid"

def uuidList (value : List String) (maximum : ℕ) : Outcome (List String) := do
  require (1 ≤ value.length ∧ value.length ≤ maximum ∧ value.all mailUuid ∧ value.Nodup)
    settingsInvalid
  pure (value.insertionSort (· ≤ ·))

def bounded (value maximum : ℤ) : Outcome ℤ := do
  require (1 ≤ value ∧ value ≤ maximum) settingsInvalid
  pure value

def parseBusinessMailSettings (row : BusinessMailSettings) : Outcome BusinessMailSettings := do
  require (mailUuid row.campusId) settingsInvalid
  let campaignIds ← uuidList row.campaignIds 10
  let memberUserIds ← uuidList row.memberUserIds 30
  let warningCadenceHours ← bounded row.warningCadenceHours 720
  let maximumWarnings ← bounded row.maximumWarnings 30
  let messagesPerHour ← bounded row.limits.messagesPerHour 1000
  let messagesPerDay ← bounded row.limits.messagesPerDay 24000
  let recipientsPerHour ← bounded row.limits.recipientsPerHour 10000
  let recipientsPerDay ← bounded row.limits.recipientsPerDay 240000
  let warningIntervalHours ← bounded row.limits.warningIntervalHours 720
  require (messagesPerHour ≤ messagesPerDay ∧ recipientsPerHour ≤ recipientsPerDay ∧
    warningCadenceHours ≤ warningIntervalHours) settingsInvalid
  pure ⟨row.campusId, campaignIds, memberUserIds, warningCadenceHours, maximumWarnings,
    ⟨messagesPerHour, messagesPerDay, recipientsPerHour, recipientsPerDay, warningIntervalHours⟩⟩

def BusinessMailSettings.json (s : BusinessMailSettings) : Js.Json :=
  .obj [("campusId", .str s.campusId), ("campaignIds", .arr (s.campaignIds.map .str)),
    ("memberUserIds", .arr (s.memberUserIds.map .str)),
    ("warningCadenceHours", .num (toString s.warningCadenceHours)),
    ("maximumWarnings", .num (toString s.maximumWarnings)),
    ("messagesPerHour", .num (toString s.limits.messagesPerHour)),
    ("messagesPerDay", .num (toString s.limits.messagesPerDay)),
    ("recipientsPerHour", .num (toString s.limits.recipientsPerHour)),
    ("recipientsPerDay", .num (toString s.limits.recipientsPerDay)),
    ("warningIntervalHours", .num (toString s.limits.warningIntervalHours))]

/-! ### Requests -/

inductive OperatorMode
  | PREPARE | FIXTURE | PREFLIGHT | ACTIVATE | PAUSE
deriving DecidableEq

def OperatorMode.text : OperatorMode → String
  | PREPARE => "PREPARE"
  | FIXTURE => "FIXTURE"
  | PREFLIGHT => "PREFLIGHT"
  | ACTIVATE => "ACTIVATE"
  | PAUSE => "PAUSE"

structure MailOperatorRequest where
  mode : OperatorMode
  (authorizationSubjectId operationId : String)
  expectedVersion : ℤ
  (sourceSha decisionSha256 : String)
  settings : Option BusinessMailSettings := none

def parseMailOperatorRequest (row : MailOperatorRequest) : Outcome MailOperatorRequest := do
  require ((row.mode = .PREPARE ↔ row.settings ≠ none) ∧ mailUuid row.authorizationSubjectId ∧
    mailUuid row.operationId ∧ 0 ≤ row.expectedVersion ∧
    Js.fullMatch Js.isHexDigit 40 40 row.sourceSha ∧ isDigest row.decisionSha256)
    (.error "business_mail_operator_invalid")
  let settings ← row.settings.mapM parseBusinessMailSettings
  pure { row with settings }

def MailOperatorRequest.json (r : MailOperatorRequest) : Js.Json :=
  .obj ([("mode", .str r.mode.text), ("authorizationSubjectId", .str r.authorizationSubjectId),
    ("operationId", .str r.operationId), ("expectedVersion", .num (toString r.expectedVersion)),
    ("sourceSha", .str r.sourceSha), ("decisionSha256", .str r.decisionSha256)] ++
    (r.settings.map fun s => ("settings", s.json)).toList)

/-! ### The configuration -/

structure MailRuntimeReport where
  (configurationVersion inspected prepared accepted uncertain recipientDeliveries : ℤ)

structure MailPreflight where
  report : MailRuntimeReport
  (sourceSha settingsHash : String)
  qualifiedVersion : ℤ

/-- `BusinessMailConfiguration` -/
structure MailConfiguration where
  settings : BusinessMailSettings
  enabled : Bool := false
  activatedAt : Option Instant := none
  qualificationKey : Option String := none
  preflight : Option MailPreflight := none
  preflightAt : Option Instant := none
  version : ℤ := 1

/-- A membership: of a campus, of a campaign, of a user. -/
structure Membership where
  (campusId campaignId userId : String)
deriving DecidableEq

/-- An identifier, as the database keeps it. -/
def storedId (text : String) : String := String.ofList (text.toList.map Js.lowerChar)

def Membership.stored (m : Membership) : Membership :=
  ⟨storedId m.campusId, storedId m.campaignId, storedId m.userId⟩

def BusinessMailSettings.desired (s : BusinessMailSettings) : List Membership :=
  s.campaignIds.flatMap fun campaignId => s.memberUserIds.map fun userId =>
    ⟨s.campusId, campaignId, userId⟩

/-- The tables of the operator: the configuration, the memberships and whether they are active,
the journal, and the request of each operation that was carried out. -/
structure MailControl where
  configuration : Option MailConfiguration
  memberships : Dict Membership Bool
  deliveries : Deliveries
  audits : Dict String String

/-- What an operation meets: what the permissions say of it, the clock, the report of a preflight,
what comes of a fixture, and whether its transaction is committed. -/
structure OperatorOccasion where
  authorized : Outcome Unit := .ok ()
  now : Instant := 0
  report : MailRuntimeReport := ⟨0, 0, 0, 0, 0, 0⟩
  /-- `currentMailIdentity`: the address of the subject. -/
  address : Option String := none
  /-- The digest of what the fixture says. -/
  fingerprint : String := ""
  token : String := ""
  /-- When the transaction of the reservation begins, and when the delivery is settled. -/
  sendingAt : ℤ := 0
  settledAt : ℤ := 0
  alive : Bool := true
  answer : Option String := none
  committed : Bool := true

variable (rt : Runtime)

def digest (value : Js.Json) : String := rt.sha256 (Js.Json.stringify value)

/-- `new MailOperationRefused(code)` -/
def refused (code : String) : Failure := .conflict code

/-! ### The operations -/

variable (S : MailControl)

variable (settings : BusinessMailSettings)

/-- `prepare`: the memberships. -/
def prepareMemberships : Outcome (Dict Membership Bool) := do
  require (∀ e ∈ S.memberships.entries.rows, e.2 = true → e.1 ∈ settings.desired)
    (refused "business_mail_membership_change_requires_separate_objective")
  pure (settings.desired.foldl (fun d m => d.set m.stored true) S.memberships)

def prepare : Outcome MailControl := do
  require (∀ c ∈ S.configuration, c.enabled = false)
    (refused "business_mail_configuration_must_be_paused")
  let memberships ← prepareMemberships S settings
  let configuration : MailConfiguration := match S.configuration with
    | none => { settings }
    | some c => { c with settings, enabled := false, version := c.version + 1 }
  pure { S with memberships, configuration := some configuration }

def fixtureKey : String :=
  digest rt (.arr [.str "business-mail-explicit-transport-fixture-v1", .str "internal-business-v1"])

def fixtureInput (request : MailOperatorRequest) (settings : BusinessMailSettings)
    (o : OperatorOccasion) (address : String) : MailJournalInput where
  key := fixtureKey rt
  eventType := .FOLLOW_UP_DUE
  resourceId := "synthetic-transport-fixture-v1"
  templateVersion := "fr-v1"
  fingerprint := o.fingerprint
  recipientSnapshots := [⟨1, request.authorizationSubjectId, address, .TO, settings.campusId,
    settings.campaignIds.head?⟩]
  limits := settings.limits

def fixtureUncertain (deliveries : Deliveries) (o : OperatorOccasion) (code : UncertaintyCode) :
    Deliveries × Outcome String :=
  match uncertain deliveries (fixtureKey rt) o.token code o.settledAt with
  | .ok (_, deliveries) => (deliveries, .error (refused "business_mail_fixture_uncertain_no_replay"))
  | .error message => (deliveries, .error (.error message))

/-- `fixture`: what it leaves in the journal, and the key when the fixture is accepted. -/
def fixture (request : MailOperatorRequest) (settings : BusinessMailSettings) (o : OperatorOccasion) :
    Deliveries × Outcome String :=
  match o.address with
  | none => (S.deliveries, .error (refused "business_mail_operator_not_authorized"))
  | some address =>
    match S.deliveries.findUnique (.key (fixtureKey rt)) with
    | some existing =>
      if existing.status ≠ .ACCEPTED then
        (S.deliveries, .error (refused "business_mail_fixture_uncertain_no_replay"))
      else if existing.recipients.head?.any fun first =>
          first.userId = request.authorizationSubjectId ∧ first.address = address then
        (S.deliveries, .ok (fixtureKey rt))
      else (S.deliveries, .error (refused "business_mail_fixture_identity_changed_no_replay"))
    | none =>
      match reserveSending S.deliveries (fixtureInput rt request settings o address) o.token
        o.sendingAt with
      | .error message => (S.deliveries, .error (.error message))
      | .ok (.reserved _, deliveries) =>
        match o.alive, o.answer with
        | true, some providerMessageId =>
          match accepted deliveries (fixtureKey rt) o.token providerMessageId o.settledAt with
          | .ok (true, deliveries) => (deliveries, .ok (fixtureKey rt))
          | .ok (false, deliveries) =>
            fixtureUncertain rt deliveries o .ACCEPTANCE_COMMIT_UNCONFIRMED
          | .error _ => fixtureUncertain rt deliveries o .ACCEPTANCE_COMMIT_UNCONFIRMED
        | _, _ => fixtureUncertain rt deliveries o .TRANSPORT_UNCONFIRMED
      | .ok (_, deliveries) =>
        (deliveries, .error (refused "business_mail_fixture_retained_no_replay"))

variable (c : MailConfiguration)

/-- The part of `execute` that records a preflight. -/
def recordPreflight (request : MailOperatorRequest) (settings : BusinessMailSettings)
    (o : OperatorOccasion) : Outcome MailConfiguration := do
  require (o.report.configurationVersion = c.version ∧ c.enabled = false)
    (refused "business_mail_preflight_configuration_changed")
  let preflight : MailPreflight :=
    ⟨o.report, request.sourceSha, digest rt settings.json, c.version + 1⟩
  pure { c with preflight := some preflight, preflightAt := some o.now, version := c.version + 1 }

def assertPreflight (request : MailOperatorRequest) (settings : BusinessMailSettings)
    (now : Instant) : Outcome Unit := do
  let e := refused "business_mail_fresh_bounded_preflight_required"
  let at' ← demand c.preflightAt e
  require (now - at' ≤ 300000 ∧ at' ≤ now) e
  let proof ← demand c.preflight e
  require (proof.qualifiedVersion = c.version ∧ proof.settingsHash = digest rt settings.json ∧
    proof.sourceSha = request.sourceSha) e
  let report := proof.report
  require (0 ≤ report.inspected ∧ 0 ≤ report.prepared ∧ 0 ≤ report.accepted ∧
    0 ≤ report.uncertain ∧ 0 ≤ report.recipientDeliveries) e
  require (report.configurationVersion = c.version - 1 ∧ report.accepted = 0 ∧
    report.uncertain = 0 ∧ report.prepared ≤ settings.limits.messagesPerHour ∧
    report.prepared ≤ settings.limits.messagesPerDay ∧
    report.recipientDeliveries ≤ settings.limits.recipientsPerHour ∧
    report.recipientDeliveries ≤ settings.limits.recipientsPerDay) e

/-- The transport is qualified: the fixture was accepted. -/
def MailControl.Qualified : Prop :=
  ∃ key ∈ c.qualificationKey, ∃ row ∈ S.deliveries.findUnique (.key key), row.status = .ACCEPTED

instance (S : MailControl) (c : MailConfiguration) : Decidable (S.Qualified c) :=
  decidable_of_iff ((c.qualificationKey.bind fun key => S.deliveries.findUnique (.key key)).any
      fun row => decide (row.status = .ACCEPTED)) (by
    simp only [MailControl.Qualified, Option.any_eq_true, Option.bind_eq_some_iff,
      decide_eq_true_eq, Option.mem_def]
    constructor
    · rintro ⟨row, ⟨key, hkey, hrow⟩, h⟩
      exact ⟨key, hkey, row, hrow, h⟩
    · rintro ⟨key, hkey, row, hrow, h⟩
      exact ⟨row, ⟨key, hkey, hrow⟩, h⟩)

/-- The part of `execute` that activates the configuration. -/
def activate (request : MailOperatorRequest) (settings : BusinessMailSettings) (now : Instant) :
    Outcome MailConfiguration := do
  require (S.Qualified c) (refused "business_mail_transport_not_qualified")
  assertPreflight rt c request settings now
  pure { c with
    enabled := true, activatedAt := some (c.activatedAt.getD now), version := c.version + 1 }

/-- The part of `execute` that pauses it. -/
def pause : MailConfiguration :=
  { c with enabled := false, version := c.version + 1 }

def operatedSettings (request : MailOperatorRequest) : Outcome BusinessMailSettings :=
  match request.mode, S.configuration with
  | .PREPARE, _ => demand request.settings (refused "business_mail_configuration_missing")
  | _, some c => parseBusinessMailSettings c.settings
  | _, none => .error (refused "business_mail_configuration_missing")

/-- What is checked before an operation: its settings, unless it is a replay. -/
def precheck (request : MailOperatorRequest) (o : OperatorOccasion) :
    Outcome (Option BusinessMailSettings) := do
  let settings ← operatedSettings S request
  o.authorized
  match S.audits.get request.operationId with
  | some fingerprint => do
    require (fingerprint = digest rt request.json) (refused "business_mail_operation_conflict")
    pure none
  | none => do
    require ((S.configuration.map MailConfiguration.version).getD 0 = request.expectedVersion)
      (refused "business_mail_configuration_version_conflict")
    pure (some settings)

/-- What an operation other than the fixture makes of the tables. -/
def operate (request : MailOperatorRequest) (settings : BusinessMailSettings) (o : OperatorOccasion) :
    Outcome MailControl := do
  match request.mode, S.configuration with
  | .PREPARE, _ => prepare S settings
  | .PREFLIGHT, some c => do
    let c' ← recordPreflight rt c request settings o
    pure { S with configuration := some c' }
  | .ACTIVATE, some c => do
    let c' ← activate rt S c request settings o.now
    pure { S with configuration := some c' }
  | .PAUSE, some c => pure { S with configuration := some (pause c) }
  | _, _ => throw (refused "business_mail_configuration_missing")

/-- The operation is carried out, when its transaction is committed. -/
def record (S S' : MailControl) (request : MailOperatorRequest) (o : OperatorOccasion) :
    MailControl × Outcome Bool :=
  if o.committed then
    ({ S' with audits := S'.audits.set request.operationId (digest rt request.json) }, .ok false)
  else (S, .error .database)

def executeFixture (request : MailOperatorRequest) (settings : BusinessMailSettings)
    (o : OperatorOccasion) : MailControl × Outcome Bool :=
  if c.enabled then
    (S, .error (refused "business_mail_fixture_requires_paused_configuration"))
  else
    let (deliveries, result) := fixture rt S request settings o
    match result with
    | .error e => ({ S with deliveries }, .error e)
    | .ok key =>
      record rt { S with deliveries }
        { S with
          deliveries
          configuration := some { c with
            qualificationKey := some key, version := c.version + 1 } } request o

/-- `execute`: the tables it leaves, and whether it was a replay. -/
def execute (input : MailOperatorRequest) (o : OperatorOccasion) : MailControl × Outcome Bool :=
  match (do
    let request ← parseMailOperatorRequest input
    let settings ← precheck rt S request o
    pure (request, settings)) with
  | .error e => (S, .error e)
  | .ok (_, none) => (S, .ok true)
  | .ok (request, some settings) =>
    match request.mode, S.configuration with
    | .FIXTURE, some c => executeFixture rt S c request settings o
    | _, _ =>
      match operate rt S request settings o with
      | .error e => (S, .error e)
      | .ok S' => record rt S S' request o

/-! ### The machine -/

/-- What happens: an operation, or something that is written to the journal by the workers. -/
inductive OperatorAction
  | operate (request : MailOperatorRequest) (o : OperatorOccasion)
  | reserve (input : MailJournalInput) (token : String) (now : ℤ)
  | accept (key token providerMessageId : String) (now : ℤ)
  | giveUp (key token : String) (code : UncertaintyCode) (now : ℤ)
  | recover (olderThan : ℤ) (limit : ℕ) (locked : List String) (now : ℤ)

def journalled {α : Type} (x : Except String α) (deliveries : α → Deliveries) : MailControl :=
  match x with
  | .ok a => { S with deliveries := deliveries a }
  | .error _ => S

def MailControl.next (a : OperatorAction) : MailControl :=
  match a with
  | .operate request o => (execute rt S request o).1
  | .reserve input token now => journalled S (reserveSending S.deliveries input token now) Prod.snd
  | .accept key token providerMessageId now =>
    journalled S (accepted S.deliveries key token providerMessageId now) Prod.snd
  | .giveUp key token code now => journalled S (uncertain S.deliveries key token code now) Prod.snd
  | .recover olderThan limit locked now =>
    journalled S (retainInterrupted S.deliveries olderThan limit locked now) id

def operatorMachine : Machine MailControl OperatorAction Unit := ⟨fun S a => ((), S.next rt a)⟩

def MailControl.initial : MailControl := ⟨none, .empty, .empty, .empty⟩

end CrmYnov.BusinessMail
