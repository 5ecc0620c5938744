import CrmYnov.Base.Growth
import CrmYnov.Base.Tickets
import CrmYnov.Users.Service

/-!
# Passwords, sessions, challenges and invitations

What the access of a collaborator is made of: a password hash, the sessions it has
opened, the challenges it was sent to recover its access, and the invitations it was
sent to gain a first one. The tables live in the database beside those of the
business, and a store of access (`CrmYnov.Recovery.AccessStore`) is both.
-/

namespace CrmYnov.Recovery

open Checked

/-! ### The rows -/

/-- A row of `local_password_hashes`. -/
structure LocalPasswordHashRow where
  (collaboratorId identityDigest passwordSalt passwordDigest : String)
  mustChange : Bool := true
deriving DecidableEq

def LocalPasswordHashRow.keys (h : LocalPasswordHashRow) : List String := [h.collaboratorId]

/-- A row of `local_sessions`. -/
structure LocalSessionRow where
  (id collaboratorId tokenDigest : String)
  roles : List Role
  authenticationVersion : ℤ
  active : Bool := true
  expiresAt : Instant
  revokedAt : Option Instant := none
deriving DecidableEq

/-- The unique indexes of a row that is found by an identifier and by the digest of a
secret. -/
inductive DigestKey
  | id (value : String)
  | digest (value : String)
deriving DecidableEq

def LocalSessionRow.keys (s : LocalSessionRow) : List DigestKey := [.id s.id, .digest s.tokenDigest]

/-- A row of `local_recovery_challenges`. -/
structure LocalRecoveryChallengeRow where
  (id collaboratorId tokenDigest returnPath : String)
  expiresAt : Instant
  usedAt : Option Instant := none
  createdAt : Instant

def LocalRecoveryChallengeRow.keys (c : LocalRecoveryChallengeRow) : List DigestKey :=
  [.id c.id, .digest c.tokenDigest]

inductive InvitationState
  | PENDING | SENT | SEND_UNCONFIRMED | USED | REVOKED
deriving DecidableEq

/-- A row of `local_access_invitations`. -/
structure LocalAccessInvitationRow where
  (id collaboratorId linkDigest : String)
  state : InvitationState
  expiresAt : Instant
  sentAt : Option Instant := none
  usedAt : Option Instant := none
  createdAt : Instant

def LocalAccessInvitationRow.keys (i : LocalAccessInvitationRow) : List DigestKey :=
  [.id i.id, .digest i.linkDigest]

structure AccessStore where
  db : Database := {}
  localPasswordHashes : Table LocalPasswordHashRow LocalPasswordHashRow.keys := .empty
  localSessions : Table LocalSessionRow LocalSessionRow.keys := .empty
  localRecoveryChallenges : Table LocalRecoveryChallengeRow LocalRecoveryChallengeRow.keys := .empty
  localAccessInvitations : Table LocalAccessInvitationRow LocalAccessInvitationRow.keys := .empty

/-! ### The writes the services share -/

def LocalRecoveryChallengeRow.use (now : Instant) (c : LocalRecoveryChallengeRow) :
    LocalRecoveryChallengeRow := { c with usedAt := some now }

def LocalSessionRow.revoke (now : Instant) (s : LocalSessionRow) : LocalSessionRow :=
  { s with active := false, revokedAt := some now }

def LocalAccessInvitationRow.move (state : InvitationState) (i : LocalAccessInvitationRow) :
    LocalAccessInvitationRow := { i with state }

/-- The states of an invitation that can still be accepted. -/
def openInvitation : List InvitationState := [.PENDING, .SENT, .SEND_UNCONFIRMED]

/-- Use the challenges that are not used yet, among those that satisfy a condition. -/
def AccessStore.useChallenges (store : AccessStore) (p : LocalRecoveryChallengeRow → Prop)
    [DecidablePred p] (now : Instant) : AccessStore :=
  { store with
    localRecoveryChallenges :=
      store.localRecoveryChallenges.updateMany (fun c => p c ∧ c.usedAt = none) (.use now) }

/-- Revoke the active sessions that satisfy a condition. -/
def AccessStore.revokeSessions (store : AccessStore) (p : LocalSessionRow → Prop)
    [DecidablePred p] (now : Instant) : AccessStore :=
  { store with
    localSessions := store.localSessions.updateMany (fun s => p s ∧ s.active) (.revoke now) }

def AccessStore.activeSessions (store : AccessStore) (userId : String) : ℕ :=
  store.localSessions.count fun s => s.collaboratorId = userId ∧ s.active

def AccessStore.revokeInvitations (store : AccessStore) (userId : String) : AccessStore :=
  { store with
    localAccessInvitations := store.localAccessInvitations.updateMany
      (fun i => i.collaboratorId = userId ∧ i.state ∈ openInvitation) (.move .REVOKED) }

def LocalPasswordHashRow.replace (identityDigest salt digest : String) (mustChange : Bool)
    (h : LocalPasswordHashRow) : LocalPasswordHashRow :=
  { h with identityDigest, passwordSalt := salt, passwordDigest := digest, mustChange }

/-- `localPasswordHash.update`: the digest of an identity belongs to one collaborator. -/
def AccessStore.updatePassword (store : AccessStore) (userId identityDigest salt digest : String)
    (mustChange : Bool) : Outcome AccessStore := do
  require ((store.localPasswordHashes.findUnique userId).isSome ∧
    ∀ h ∈ store.localPasswordHashes.rows, h.identityDigest = identityDigest →
      h.collaboratorId = userId) .database
  pure { store with
    localPasswordHashes := store.localPasswordHashes.updateMany
      (fun h => h.collaboratorId = userId) (.replace identityDigest salt digest mustChange) }

/-- `localPasswordHash.upsert` -/
def AccessStore.upsertPassword (store : AccessStore) (userId identityDigest salt digest : String)
    (mustChange : Bool) : Outcome AccessStore :=
  if (store.localPasswordHashes.findUnique userId).isSome then
    store.updatePassword userId identityDigest salt digest mustChange
  else do
    require (∀ h ∈ store.localPasswordHashes.rows, h.identityDigest ≠ identityDigest) .database
    let localPasswordHashes ← insert store.localPasswordHashes
      { collaboratorId := userId, identityDigest, passwordSalt := salt, passwordDigest := digest,
        mustChange }
    pure { store with localPasswordHashes }

def AccessStore.audit (store : AccessStore) (event : AuditEventRow) : Outcome AccessStore := do
  let db ← store.db.audit event
  pure { store with db }

def nextVersion (firstLoginRequired : Bool) (user : Users.CollaboratorRow) : Users.CollaboratorRow :=
  { user with firstLoginRequired, authenticationVersion := user.authenticationVersion + 1 }

/-- Count the version of a user up, and say whether it has a first login before it. -/
def AccessStore.countVersion (store : AccessStore) (userId : String) (firstLoginRequired : Bool) :
    AccessStore :=
  { store with
    db := { store.db with
      collaborators := store.db.collaborators.updateMany (fun u => u.id = userId)
        (nextVersion firstLoginRequired) } }

/-! ### What the services check -/

/-- `acceptableSecret`, which the first login and the invitations have as well. -/
def acceptableSecret (value : String) : Bool :=
  14 ≤ Js.length value && Js.length value ≤ 128 && value.toList.any Js.isLower &&
    value.toList.any Js.isUpper && value.toList.any Js.isDigit &&
    value.toList.any (fun c => !Js.isAlnum c) && !value.toList.any Js.isSpace

/-- `/^[A-Za-z0-9_-]{40,128}$/` -/
def isToken (value : String) : Bool :=
  Js.fullMatch (fun c => Js.isAlnum c || c == '_' || c == '-') 40 128 value

end CrmYnov.Recovery
