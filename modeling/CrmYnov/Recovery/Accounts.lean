import CrmYnov.Recovery.Service

/-!
# The other ways an account changes

A first login replaces the password a collaborator was given; an invitation is accepted
with a first one; an administrator gives a temporary password, makes a user active or
inactive, or changes its authorization; sessions are opened and revoked. Each of these
runs in one transaction behind the fence of the permissions, and before an
administrator's call the memory of the users is read again
(`CrmYnov.Users.UserProcess.start`).
-/

namespace CrmYnov.Recovery

open Checked Users

variable (rt : Runtime) (deriveSecret : String → String → String)

/-! ### First login -/

variable (user : CollaboratorRow)

def firstLoginAudit (sessionId correlationId : String) (revokedSessions : ℕ) : AuditEventRow where
  eventType := "FIRST_LOGIN_SECRET_CHANGED"
  resourceType := "COLLABORATOR"
  resourceId := user.id
  campusId := user.campusId
  actorId := user.id
  actorRoles := user.roles
  sessionId := some sessionId
  correlationId := correlationId
  idempotencyKey := "first-login-secret:" ++ user.id ++ ":v" ++ toString user.authenticationVersion
  before := .null
  after := .obj [("subjectId", .str user.id), ("revokedSessions", .nat revokedSessions),
    ("authenticationVersion", .int (user.authenticationVersion + 1))]

def changeForApi (store : AccessStore) (userId currentSecret nextSecret correlationId : String)
    (sessionId salt : String) (now : Instant) : Outcome AccessStore := do
  require (acceptableSecret nextSecret ∧ currentSecret ≠ nextSecret ∧ Js.length currentSecret ≤ 128)
    (.forbidden "secret_policy_refused")
  let user ← demand (store.db.collaborators.findUnique (.id userId))
    (.forbidden "temporary_credential_invalid")
  let credential ← demand (store.localPasswordHashes.findUnique userId)
    (.forbidden "temporary_credential_invalid")
  let session ← demand (store.localSessions.findUnique (.id sessionId))
    (.forbidden "temporary_credential_invalid")
  require (user.active ∧ user.firstLoginRequired ∧ credential.mustChange ∧ session.active ∧
    session.collaboratorId = userId ∧ now < session.expiresAt ∧
    session.authenticationVersion = user.authenticationVersion)
    (.forbidden "temporary_credential_invalid")
  require (credential.passwordDigest = deriveSecret currentSecret credential.passwordSalt)
    (.forbidden "temporary_credential_invalid")
  let store ← store.updatePassword userId credential.identityDigest salt
    (deriveSecret nextSecret salt) false
  let store := store.countVersion userId false
  let revokedSessions := store.activeSessions userId
  let store := store.revokeSessions (fun s => s.collaboratorId = userId) now
  let store := store.revokeInvitations userId
  store.audit (firstLoginAudit user sessionId correlationId revokedSessions)

/-! ### Invitations -/

/-- `INVITATION_LIFETIME_MS` -/
def invitationLifetime : ℤ := 72 * 60 * 60000

def invitationAudit (eventType idempotencyKey invitationId : String) (user actor : CollaboratorRow) :
    AuditEventRow where
  eventType := eventType
  resourceType := "COLLABORATOR"
  resourceId := user.id
  campusId := none
  actorId := actor.id
  actorRoles := actor.roles
  sessionId := none
  correlationId := invitationId
  idempotencyKey := idempotencyKey
  before := .null
  after := .obj [("invitationId", .str invitationId)]

/-- `InvitationService.issue`, up to the sending of the link, by an actor whose permission
was granted. The invitation was asked for before its transaction began. -/
def issueInvitation (store : AccessStore) (collaboratorId actorId invitationId raw : String)
    (waited : ℕ) (clock : Instant) : Outcome AccessStore := do
  let actor ← demand (store.db.collaborators.findUnique (.id actorId))
    (.forbidden "permission_denied")
  let user ← demand (store.db.collaborators.findUnique (.id collaboratorId))
    (.forbidden "invitation_subject_ineligible")
  require (user.active ∧ user.firstLoginRequired) (.forbidden "invitation_subject_ineligible")
  require (store.localAccessInvitations.count (fun i => i.collaboratorId = collaboratorId ∧
    clock - waited - subjectWindow < i.createdAt) < 3) (.conflict "invitation_rate_limited")
  let store := store.revokeInvitations collaboratorId
  let localAccessInvitations ← insert store.localAccessInvitations
    { id := invitationId, collaboratorId, linkDigest := rt.sha256 raw, state := .PENDING,
      expiresAt := clock - waited + invitationLifetime, createdAt := clock }
  { store with localAccessInvitations }.audit (invitationAudit "ACCESS_INVITATION_REQUESTED"
    ("access-invitation-requested:" ++ invitationId) invitationId user actor)

/-- An invitation whose link was sent at an instant, or may not have been. -/
def LocalAccessInvitationRow.settle (sentAt : Option Instant) (i : LocalAccessInvitationRow) :
    LocalAccessInvitationRow :=
  { i with state := if sentAt.isSome then .SENT else .SEND_UNCONFIRMED, sentAt }

/-- What `InvitationService.issue` does once the link was sent, or was not. -/
def settleInvitation (store : AccessStore) (invitationId : String) (sent : Bool) (now : Instant) :
    AccessStore :=
  { store with
    localAccessInvitations := store.localAccessInvitations.updateMany
      (fun i => i.id = invitationId ∧ i.state = .PENDING) (.settle (if sent then some now else none)) }

def LocalAccessInvitationRow.accept (now : Instant) (i : LocalAccessInvitationRow) :
    LocalAccessInvitationRow := { i with state := .USED, usedAt := some now }

def invitationOpen (invitation : LocalAccessInvitationRow) (now : Instant) : Outcome Unit := do
  require (invitation.state ≠ .USED) (.conflict "invitation_already_used")
  require (invitation.state ≠ .REVOKED) (.conflict "invitation_revoked")
  require (now < invitation.expiresAt) (.conflict "invitation_expired")
  require (invitation.state = .SENT) (.conflict "invitation_unavailable")

/-- `InvitationService.complete` -/
def completeInvitation (store : AccessStore) (raw nextSecret salt : String) (now : Instant) :
    Outcome AccessStore := do
  require (isToken raw ∧ acceptableSecret nextSecret) (.forbidden "invitation_input_invalid")
  let invitation ← demand (store.localAccessInvitations.findUnique (.digest (rt.sha256 raw)))
    (.forbidden "invitation_invalid")
  invitationOpen invitation now
  let user ← demand (store.db.collaborators.findUnique (.id invitation.collaboratorId))
    (.forbidden "invitation_subject_ineligible")
  require (user.active ∧ user.firstLoginRequired) (.forbidden "invitation_subject_ineligible")
  let store := { store with
    localAccessInvitations := store.localAccessInvitations.updateMany
      (fun i => i.id = invitation.id) (.accept now) }
  let store ← store.upsertPassword user.id (rt.sha256 user.professionalEmail) salt
    (deriveSecret nextSecret salt) false
  let store := store.countVersion user.id false
  let store := store.revokeSessions (fun s => s.collaboratorId = user.id) now
  store.audit (invitationAudit "ACCESS_INVITATION_COMPLETED"
    ("access-invitation-completed:" ++ invitation.id) invitation.id user user)

/-! ### What an administrator does -/

def temporarySecretReasons : List String := ["INITIAL_ACCESS", "CREDENTIAL_COMPROMISED", "USER_REQUEST"]

/-- A user that has a first login before it again, under the version its memory holds. -/
def withFirstLogin (authenticationVersion : ℤ) (user : CollaboratorRow) : CollaboratorRow :=
  { user with firstLoginRequired := true, authenticationVersion }

def issueTemporarySecret (store : AccessStore) (id reason : String) (confirmed : Bool)
    (temporarySecret salt : String) (now : Instant) : Outcome AccessStore := do
  let user ← demand ((UserProcess.start store.db).users.get id)
    (.forbidden "collaborator_not_found_or_inactive")
  require user.active (.forbidden "collaborator_not_found_or_inactive")
  require (confirmed ∧ reason ∈ temporarySecretReasons) (.forbidden "temporary_secret_issue_invalid")
  let store ← store.upsertPassword id (rt.sha256 user.professionalEmail) salt
    (deriveSecret temporarySecret salt) true
  let store := store.revokeSessions (fun s => s.collaboratorId = id) now
  let store := { store with
    db := { store.db with
      collaborators := store.db.collaborators.updateMany (fun u => u.id = id)
        (withFirstLogin (user.authenticationVersion + 1)) } }
  pure (store.revokeInvitations id)

/-- `setActive`: a user made inactive loses its sessions and its invitations. -/
def setStatus (store : AccessStore) (id : String) (active : Bool) (now : Instant) :
    Outcome AccessStore :=
  match setActive (.start store.db) id active true with
  | (.error e, _) => .error e
  | (.ok _, s) =>
    let store := { store with db := s.db }
    pure (if active then store
      else (store.revokeSessions (fun s => s.collaboratorId = id) now).revokeInvitations id)

/-- `updateAuthorizationForApi`: a user whose authorization changes loses its
sessions. -/
def changeAuthorizationForApi (store : AccessStore) (id : String) (input : UpdateAuthorization)
    (actorId correlationId : String) (now : Instant) : Outcome AccessStore := do
  let (row, db) ← updateAuthorizationForApi rt store.db id input actorId correlationId
    (store.activeSessions id)
  let store' := { store with db }
  let before := (store.db.collaborators.findUnique (.id id)).map CollaboratorRow.authenticationVersion
  pure (if before = some row.authenticationVersion then store'
    else store'.revokeSessions (fun s => s.collaboratorId = id) now)

/-! ### Sessions -/

def sessionLifetime : ℤ := 3600000

def HasScope : Prop :=
  (∃ role ∈ user.roles, role ∈ [Role.SUPER_ADMIN, .ADMIN, .AUDITOR]) ∨
    (Leads.nonEmpty user.campusId).isSome ∨ (Leads.nonEmpty user.teamId).isSome
deriving Decidable

def sessionAudit (sessionId correlationId : String) : AuditEventRow where
  eventType := "SESSION_CREATED"
  resourceType := "COLLABORATOR"
  resourceId := user.id
  campusId := user.campusId
  actorId := user.id
  actorRoles := user.roles
  sessionId := some sessionId
  correlationId := correlationId
  idempotencyKey := "session-created:" ++ sessionId
  before := .null
  after := .null

/-- `SessionController.create`: a login opens a session under the version of its user. -/
def createSession (store : AccessStore) (email password sessionId token correlationId : String)
    (now : Instant) : Outcome AccessStore := do
  let email := rt.unicode.toLowerCase (Js.trim email)
  let credential ← demand (store.localPasswordHashes.findFirst fun h =>
    h.identityDigest = rt.sha256 email) (.forbidden "identity_invalid")
  require (credential.passwordDigest = deriveSecret password credential.passwordSalt)
    (.forbidden "identity_invalid")
  let user ← demand (store.db.collaborators.findUnique (.id credential.collaboratorId))
    (.forbidden "identity_invalid")
  require (user.active ∧ user.professionalEmail = email) (.forbidden "identity_invalid")
  require (HasScope user) (.forbidden "identity_scope_missing")
  let localSessions ← insert store.localSessions
    { id := sessionId, collaboratorId := user.id, tokenDigest := rt.sha256 token,
      roles := user.roles, authenticationVersion := user.authenticationVersion,
      expiresAt := now + sessionLifetime }
  { store with localSessions }.audit (sessionAudit user sessionId correlationId)

end CrmYnov.Recovery
