import CrmYnov.Recovery.Types

/-!
# Recovering one's access

A collaborator who has lost its password asks for a token by the email it is known
under, and completes the recovery with the token and a new password. A request puts
away the challenges that are still open, stores one, and records in the audit trail
which version of the user the challenge was issued under; the token is sent afterwards,
and a challenge whose token was not sent is put away. A completion uses the challenge,
counts the version of the user up, revokes its sessions and puts away whatever else
would still open its account.

The answer to a request is the same whatever was found, so that it tells nothing about
the accounts there are.
-/

namespace CrmYnov.Recovery

open Checked Users

/-- What the process is configured with: whether recovery is enabled
(`CRM_ACCESS_RECOVERY_ENABLED`), and the mail sender, with the origin it puts before the
links when it has one. -/
structure RecoveryEnvironment where
  (enabled configured : Bool)
  publicOrigin : Option String

/-- `ALLOWED_RETURN_PATHS` -/
def allowedReturnPaths : List String := ["/access-recovery/complete"]

/-- `RECOVERY_LIFETIME_MS` -/
def recoveryLifetime : ℤ := 15 * 60000

/-- The hour the challenges of a user are counted over. -/
def subjectWindow : ℤ := 3600000

/-- `SUBJECT_LIMIT_PER_HOUR` -/
def subjectLimitPerHour : ℕ := 3

def requestAuditKey (challengeId : String) : String := "access-recovery-requested:" ++ challengeId

/-- A service the process cannot render. -/
def unavailable (code : String) : Failure := .http .serviceUnavailable code

def assertRecoveryEnabled (env : RecoveryEnvironment) : Outcome Unit :=
  require env.enabled (unavailable "recovery_disabled")

def invalidChallenge : Failure := .forbidden "recovery_challenge_invalid"

/-- `/^[^\s@]+@[^\s@]+\.[^\s@]+$/` -/
def isEmail (email : String) : Bool :=
  let local' := email.toList.takeWhile fun c => c != '@'
  let domain := (email.toList.dropWhile fun c => c != '@').tail
  !local'.isEmpty && !email.toList.any Js.isSpace && !domain.contains '@' &&
    (domain.drop 1).dropLast.contains '.'

example : isEmail "ada@school.example" = true := by decide

variable (rt : Runtime)

def normalizedEmail (value : Js.Json) : Outcome String := do
  let text ← demand value.text? (.badRequest "recovery_request_invalid")
  let email := rt.unicode.toLowerCase (Js.trim text)
  require (Js.length email ≤ 254 ∧ isEmail email) (.badRequest "recovery_request_invalid")
  pure email

def allowedReturnPath (value : Js.Json) : Outcome String := do
  let path ← demand value.text? (.badRequest "recovery_return_path_invalid")
  require (path ∈ allowedReturnPaths) (.badRequest "recovery_return_path_invalid")
  pure path

/-- The user has an access to recover: it is active, is past its first login, and has a
password of its own. -/
def Recoverable (store : AccessStore) (user : CollaboratorRow) : Prop :=
  user.active ∧ !user.firstLoginRequired ∧
    (store.localPasswordHashes.findUnique user.id).any fun h => !h.mustChange
deriving Decidable

/-- What a request draws: the identifier of a challenge, a token, and how long after it
was received its transaction began. -/
structure RequestDraw where
  (challengeId rawToken : String)
  waited : ℕ

variable (challengeId : String) (user : CollaboratorRow)

/-- The audit event of a request: it binds the challenge to the version it is issued
under. An event that has no actor names none. -/
def requestedAudit : AuditEventRow where
  eventType := "ACCESS_RECOVERY_REQUESTED"
  resourceType := "COLLABORATOR"
  resourceId := user.id
  campusId := none
  actorId := ""
  actorRoles := []
  sessionId := none
  correlationId := challengeId
  idempotencyKey := requestAuditKey challengeId
  before := .null
  after := .obj [("challengeId", .str challengeId),
    ("authenticationVersion", .int user.authenticationVersion)]

/-- The challenge of a request that was received at an instant. -/
def newChallenge (draw : RequestDraw) (returnPath : String) (now clock : Instant) :
    LocalRecoveryChallengeRow where
  id := draw.challengeId
  collaboratorId := user.id
  tokenDigest := rt.sha256 draw.rawToken
  returnPath := returnPath
  expiresAt := now + recoveryLifetime
  createdAt := clock

/-- The challenges a user was issued during the hour before an instant. -/
def recentChallenges (store : AccessStore) (userId : String) (now : Instant) : ℕ :=
  store.localRecoveryChallenges.count fun c =>
    c.collaboratorId = userId ∧ now - subjectWindow < c.createdAt

/-- Put away the open challenges of a user and store a new one, with its audit event. -/
def issueChallenge (store : AccessStore) (user : CollaboratorRow) (draw : RequestDraw)
    (returnPath : String) (now clock : Instant) : Outcome AccessStore := do
  let store := store.useChallenges (fun c => c.collaboratorId = user.id) now
  let localRecoveryChallenges ← insert store.localRecoveryChallenges
    (newChallenge rt user draw returnPath now clock)
  { store with localRecoveryChallenges }.audit (requestedAudit draw.challengeId user)

/-- The transaction of a request: nothing is stored for who is not known, has no access
to recover, or was issued enough challenges. -/
def requestTransaction (store : AccessStore) (email returnPath : String) (draw : RequestDraw)
    (now clock : Instant) : Outcome AccessStore :=
  match store.db.collaborators.findUnique (.professionalEmail email) with
  | none => pure store
  | some user =>
    if Recoverable store user ∧ recentChallenges store user.id now < subjectLimitPerHour then
      issueChallenge rt store user draw returnPath now clock
    else pure store

/-- `requestForApi`, up to the sending of the token. The request was received before
its transaction began. -/
def requestForApi (env : RecoveryEnvironment) (store : AccessStore) (email returnPath : Js.Json)
    (draw : RequestDraw) (clock : Instant) : Outcome AccessStore := do
  assertRecoveryEnabled env
  let email ← normalizedEmail rt email
  let returnPath ← allowedReturnPath returnPath
  require (env.configured ∧ env.publicOrigin.isSome) (unavailable "recovery_transport_unavailable")
  requestTransaction rt store email returnPath draw (clock - draw.waited) clock

def unconfirmedAudit : AuditEventRow where
  eventType := "ACCESS_RECOVERY_DELIVERY_UNCONFIRMED"
  resourceType := "ACCESS_RECOVERY_CHALLENGE"
  resourceId := challengeId
  campusId := none
  actorId := ""
  actorRoles := []
  sessionId := none
  correlationId := challengeId
  idempotencyKey := "access-recovery-unconfirmed:" ++ challengeId
  before := .null
  after := .obj [("challengeId", .str challengeId)]
  result := "FAILED"

/-- What `requestForApi` does when the token could not be sent. -/
def deliveryUnconfirmed (store : AccessStore) (challengeId : String) (now : Instant) :
    Outcome AccessStore :=
  (store.useChallenges (fun c => c.id = challengeId) now).audit (unconfirmedAudit challengeId)

/-- The audit event is the one of the request that issued a challenge, and names the
version a user is at. -/
def BindsVersion (event : AuditEventRow) (challenge : LocalRecoveryChallengeRow) (version : ℤ) :
    Prop :=
  event.eventType = "ACCESS_RECOVERY_REQUESTED" ∧ event.resourceType = "COLLABORATOR" ∧
    event.resourceId = challenge.collaboratorId ∧
    ((event.after.member "challengeId").bind Js.Json.text? = some challenge.id) ∧
    (match event.after.member "authenticationVersion" with
      | some (.num text) => text = toString version
      | _ => False) ∧ 1 ≤ version

instance (event : AuditEventRow) (challenge : LocalRecoveryChallengeRow) (version : ℤ) :
    Decidable (BindsVersion event challenge version) := by
  unfold BindsVersion
  split <;> infer_instance

def completedAudit (revokedSessions : ℕ) :
    AuditEventRow where
  eventType := "ACCESS_RECOVERY_COMPLETED"
  resourceType := "COLLABORATOR"
  resourceId := user.id
  campusId := user.campusId
  actorId := user.id
  actorRoles := user.roles
  sessionId := none
  correlationId := challengeId
  idempotencyKey := "access-recovery-completed:" ++ challengeId
  before := .null
  after := .obj [("challengeId", .str challengeId),
    ("authenticationVersion", .int (user.authenticationVersion + 1)),
    ("revokedSessions", .nat revokedSessions)]

def completionInput (token nextSecret : Js.Json) : Outcome (String × String) := do
  let token ← demand token.text? (.badRequest "recovery_completion_invalid")
  let nextSecret ← demand nextSecret.text? (.badRequest "recovery_completion_invalid")
  require (isToken token ∧ acceptableSecret nextSecret) (.badRequest "recovery_completion_invalid")
  pure (token, nextSecret)

/-- The challenge of a token, and the user it was issued to, when the token may be
completed. -/
def claimable (store : AccessStore) (token returnPath : String) (now : Instant) :
    Outcome (LocalRecoveryChallengeRow × CollaboratorRow) := do
  let challenge ← demand (store.localRecoveryChallenges.findUnique (.digest (rt.sha256 token)))
    invalidChallenge
  require (challenge.usedAt = none ∧ now < challenge.expiresAt ∧ challenge.returnPath = returnPath)
    invalidChallenge
  let issued ← demand (store.db.auditEvents.findUnique (requestAuditKey challenge.id))
    invalidChallenge
  let user ← demand (store.db.collaborators.findUnique (.id challenge.collaboratorId))
    invalidChallenge
  require (Recoverable store user ∧ BindsVersion issued challenge user.authenticationVersion)
    invalidChallenge
  pure (challenge, user)

/-- The challenge can still be used by the user it was issued to. -/
def Claims (challenge : LocalRecoveryChallengeRow) (user : CollaboratorRow) (returnPath : String)
    (now : Instant) (c : LocalRecoveryChallengeRow) : Prop :=
  c.id = challenge.id ∧ c.collaboratorId = user.id ∧ c.usedAt = none ∧ c.returnPath = returnPath ∧
    now < c.expiresAt
deriving Decidable

/-- The user is still at the version its challenge was issued under. -/
def Versioned (user u : CollaboratorRow) : Prop :=
  u.id = user.id ∧ u.active ∧ !u.firstLoginRequired ∧
    u.authenticationVersion = user.authenticationVersion
deriving Decidable

variable (deriveSecret : String → String → String)

/-- What a completion writes. Each of the two updates that claim a row has to find it. -/
def recover (store : AccessStore) (challenge : LocalRecoveryChallengeRow) (user : CollaboratorRow)
    (returnPath nextSecret salt : String) (now : Instant) : Outcome AccessStore := do
  require (store.localRecoveryChallenges.count (Claims challenge user returnPath now) = 1)
    invalidChallenge
  let store := store.useChallenges (Claims challenge user returnPath now) now
  require (store.db.collaborators.count (Versioned user) = 1) invalidChallenge
  let store := store.countVersion user.id false
  let store ← store.updatePassword user.id (rt.sha256 user.professionalEmail) salt
    (deriveSecret nextSecret salt) false
  let revokedSessions := store.activeSessions user.id
  let store := store.revokeSessions (fun s => s.collaboratorId = user.id) now
  let store := store.useChallenges (fun c => c.collaboratorId = user.id) now
  let store := store.revokeInvitations user.id
  store.audit (completedAudit challenge.id user revokedSessions)

def completeForApi (env : RecoveryEnvironment) (store : AccessStore)
    (token returnPath nextSecret : Js.Json) (salt : String) (now : Instant) :
    Outcome AccessStore := do
  assertRecoveryEnabled env
  let (token, nextSecret) ← completionInput token nextSecret
  let returnPath ← allowedReturnPath returnPath
  let (challenge, user) ← claimable rt store token returnPath now
  recover rt deriveSecret store challenge user returnPath nextSecret salt now

end CrmYnov.Recovery
