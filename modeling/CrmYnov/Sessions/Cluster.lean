import CrmYnov.Recovery.Runs

/-!
# Processes that share the sessions

Sessions are kept in the database, and an authentication reads them there. Beside it every process
of the API holds in memory the users and the sessions it has read, and some operations count from
this memory: a user made active or inactive, or given a temporary password, is written under the
version its memory holds plus one, and a session is revoked when the memory holds it.

What changes access runs in a transaction that holds the fence of the permissions exclusively. A
request first passes the fence, and the memory it needs is read again (`Cluster.enter`); then it is
handled, its writes are flushed, and the transaction is committed or rolled back
(`Cluster.finish`). Authentications pass no fence: they go on between any two of these steps, each
with its own reading of the session and, later, of the user.
-/

namespace CrmYnov.Sessions

open Checked Users Recovery

/-! ### The memory of a process -/

structure SessionRecord where
  userId : String
  roles : List Role
  (sessionId tokenDigest : String)
  active : Bool
  expiresAt : Instant
  mustChangeSecret : Bool
  authenticationVersion : ℤ

structure Process where
  users : Dict String CollaboratorRow
  sessions : Dict String SessionRecord

def mustChange (store : AccessStore) (userId : String) : Bool :=
  (store.localPasswordHashes.findUnique userId).any LocalPasswordHashRow.mustChange

def recordOf (store : AccessStore) (row : LocalSessionRow) : SessionRecord where
  userId := row.collaboratorId
  roles := row.roles
  sessionId := row.id
  tokenDigest := row.tokenDigest
  active := row.active
  expiresAt := row.expiresAt
  mustChangeSecret := mustChange store row.collaboratorId
  authenticationVersion := row.authenticationVersion

/-- The sessions that `onModuleInit` reads. -/
def liveSessions (store : AccessStore) (now : Instant) : List LocalSessionRow :=
  store.localSessions.findMany fun row => row.active ∧ now < row.expiresAt

/-- `SessionService.onModuleInit` -/
def Process.refreshSessions (store : AccessStore) (now : Instant) (p : Process) : Process :=
  { p with
    sessions := .ofList ((liveSessions store now).map fun row =>
      (row.tokenDigest, recordOf store row)) }

/-- `UserService.onModuleInit` -/
def Process.refreshUsers (store : AccessStore) (p : Process) : Process :=
  { p with users := (UserProcess.start store.db).users }

def Process.start (store : AccessStore) (now : Instant) : Process :=
  ((Process.mk .empty .empty).refreshUsers store).refreshSessions store now

def SessionRecord.end' (r : SessionRecord) : SessionRecord := { r with active := false }

/-- The part of `revokeUser` that is about the memory. -/
def Process.endUser (userId : String) (p : Process) : Process :=
  { p with
    sessions := .ofList (p.sessions.entries.rows.map fun e =>
      (e.1, if e.2.userId = userId then e.2.end' else e.2)) }

/-- The entry that `revoke` finds. -/
def Process.sessionOf (sessionId : String) (p : Process) : Option (String × SessionRecord) :=
  p.sessions.entries.rows.find? fun e => e.2.sessionId = sessionId

/-! ### The requests -/

/-- Whose memory is read again before a request is handled: that of the users, that of the
sessions. -/
def refreshes : AccessCall → Bool × Bool
  | .issueTemporarySecret .. | .setStatus .. | .updateAuthorization .. => (true, true)
  | .changeSecret .. | .createSession .. => (true, true)
  | .revokeSession .. | .revokeUser .. => (false, true)
  | _ => (false, false)

/-- The author of a request: what was read of its session when it was authenticated. -/
structure Actor where
  (userId sessionId : String)
  mustChangeSecret : Bool

/-- `currentPrincipal`: the author, as the transaction reads it. -/
def currentPrincipal (store : AccessStore) (now : Instant) (actor : Actor) :
    Outcome CollaboratorRow := do
  let e := .forbidden "permission_denied"
  let user ← demand (store.db.collaborators.findUnique (.id actor.userId)) e
  let session ← demand (store.localSessions.findUnique (.id actor.sessionId)) e
  require (user.active ∧ session.active ∧ session.collaboratorId = user.id ∧
    now < session.expiresAt ∧ session.authenticationVersion = user.authenticationVersion ∧
    user.roles ≠ []) e
  pure user

/-- The revocation of a session is authorized: by its own user, or by a `SUPER_ADMIN`. -/
def authorizeRevocation (store : AccessStore) (now : Instant) (actor : Actor) (sessionId : String) :
    Outcome Unit := do
  let user ← currentPrincipal store now actor
  require (¬(user.firstLoginRequired ∨ actor.mustChangeSecret)) (.forbidden "secret_change_required")
  require (actor.sessionId = sessionId ∨ Role.SUPER_ADMIN ∈ user.roles)
    (.forbidden "session_ownership_required")

/-- What is checked before a request is handled. Of the requests other than the revocation of a
session, what the permissions say is given. -/
def authorize (store : AccessStore) (now : Instant) (actor : Actor) : AccessCall → Outcome Unit
  | .revokeSession sessionId => authorizeRevocation store now actor sessionId
  | _ => pure ()

variable (rt : Runtime) (deriveSecret : String → String → String) (env : RecoveryEnvironment)

variable (p : Process)

/-- `setActive`, counted from the memory of a process. -/
def setStatusFrom (store : AccessStore) (id : String) (active : Bool) (now : Instant) :
    Outcome (AccessStore × Process) :=
  match setActive ⟨store.db, p.users⟩ id active true with
  | (.error e, _) => .error e
  | (.ok _, s) =>
    let store := { store with db := s.db }
    let p := { p with users := s.users }
    pure (if active then (store, p)
      else ((store.revokeSessions (fun s => s.collaboratorId = id) now).revokeInvitations id,
        p.endUser id))

/-- `issueTemporarySecret`, counted from the memory of a process. -/
def issueTemporarySecretFrom (store : AccessStore) (id reason : String) (confirmed : Bool)
    (temporarySecret salt : String) (now : Instant) : Outcome (AccessStore × Process) := do
  let user ← demand (p.users.get id) (.forbidden "collaborator_not_found_or_inactive")
  require user.active (.forbidden "collaborator_not_found_or_inactive")
  require (confirmed ∧ reason ∈ temporarySecretReasons) (.forbidden "temporary_secret_issue_invalid")
  let store ← store.upsertPassword id (rt.sha256 user.professionalEmail) salt
    (deriveSecret temporarySecret salt) true
  let store := store.revokeSessions (fun s => s.collaboratorId = id) now
  let store := { store with
    db := { store.db with
      collaborators := store.db.collaborators.updateMany (fun u => u.id = id)
        (withFirstLogin (user.authenticationVersion + 1)) fun r => .refl r.keys } }
  let user := withFirstLogin (user.authenticationVersion + 1) user
  pure (store.revokeInvitations id, ({ p with users := p.users.set id user }).endUser id)

/-- `SessionService.revoke`: the database is written to when the memory holds the session. -/
def revokeFrom (store : AccessStore) (sessionId : String) (now : Instant) : AccessStore × Process :=
  match p.sessionOf sessionId with
  | none => (store, p)
  | some (digest, record) =>
    (store.revokeSessions (fun s => s.id = sessionId) now,
      { p with sessions := p.sessions.set digest record.end' })

/-- A request that is handled, and its writes flushed. -/
def handle (store : AccessStore) (now : Instant) :
    AccessCall → Outcome (AccessStore × Process)
  | .setStatus id active => setStatusFrom p store id active now
  | .issueTemporarySecret id reason confirmed temporarySecret salt =>
    issueTemporarySecretFrom rt deriveSecret p store id reason confirmed temporarySecret salt now
  | .revokeSession sessionId => .ok (revokeFrom p store sessionId now)
  | .revokeUser userId =>
    .ok (store.revokeSessions (fun s => s.collaboratorId = userId) now, p.endUser userId)
  | call => (serve rt deriveSecret env store now call).map fun store => (store, p)

/-! ### The cluster -/

/-- The processes, their database and the clock; the request that holds the fence; and the sessions
that authentications have read, which they have still to accept. -/
structure Cluster where
  store : AccessStore
  clock : Instant
  processes : ℕ → Process
  holder : Option (ℕ × AccessCall) := none
  flights : List (ℕ × LocalSessionRow) := []

variable (S : Cluster)

def Cluster.setProcess (i : ℕ) (p : Process) : Cluster :=
  { S with processes := Function.update S.processes i p }

/-- The memory of a process, read again for a call. -/
def refresh (call : AccessCall) (store : AccessStore) (now : Instant) (p : Process) : Process :=
  let p := if (refreshes call).1 then p.refreshUsers store else p
  if (refreshes call).2 then p.refreshSessions store now else p

/-- A request passes the fence, when no other holds it. -/
def Cluster.enter (i : ℕ) (actor : Actor) (call : AccessCall) : Cluster :=
  match S.holder, authorize S.store S.clock actor call with
  | none, .ok () =>
    { S.setProcess i (refresh call S.store S.clock (S.processes i)) with holder := some (i, call) }
  | _, _ => S

/-- The request that holds the fence is handled, and its transaction ends. -/
def Cluster.finish (committed : Bool) : Cluster :=
  match S.holder with
  | none => S
  | some (i, call) =>
    match handle rt deriveSecret env (S.processes i) S.store S.clock call with
    | .error _ => { S with holder := none }
    | .ok (store, p) =>
      { S.setProcess i p with holder := none, store := if committed then store else S.store }

/-- `authenticateForApi`, first: the session of a token is read. -/
def Cluster.look (i : ℕ) (token : String) : Cluster :=
  match S.store.localSessions.findUnique (.digest (rt.sha256 token)) with
  | none => S
  | some row => { S with flights := S.flights ++ [(i, row)] }

def scopesOf (user : CollaboratorRow) : List Scope :=
  (if Role.SUPER_ADMIN ∈ user.roles then [.GLOBAL] else []) ++
    ((Leads.nonEmpty user.campusId).map Scope.CAMPUS).toList ++
    ((Leads.nonEmpty user.teamId).map Scope.TEAM).toList

/-- `authenticateForApi`, then: the user is read, and the principal is made of both. -/
def principalOf (store : AccessStore) (now : Instant) (row : LocalSessionRow) :
    Option (Principal × Bool) :=
  match store.db.collaborators.findUnique (.id row.collaboratorId) with
  | none => none
  | some user =>
    if row.active ∧ now < row.expiresAt ∧ user.active ∧
        row.authenticationVersion = user.authenticationVersion ∧ user.roles ≠ [] then
      some (⟨user.id, user.roles, scopesOf user, row.id⟩,
        user.firstLoginRequired || mustChange store user.id)
    else none

def acceptedRecord (row : LocalSessionRow) (principal : Principal) (mustChangeSecret : Bool) :
    SessionRecord where
  userId := principal.userId
  roles := principal.roles
  sessionId := principal.sessionId
  tokenDigest := row.tokenDigest
  active := true
  expiresAt := row.expiresAt
  mustChangeSecret := mustChangeSecret
  authenticationVersion := row.authenticationVersion

def Cluster.identified (n : ℕ) : Option (Principal × Bool) :=
  S.flights[n]?.bind fun flight => principalOf S.store S.clock flight.2

/-- An authentication ends, and a session that is accepted is put into the memory. -/
def Cluster.identify (n : ℕ) : Cluster :=
  match S.flights[n]?, S.identified n with
  | some (i, row), some (principal, mustChangeSecret) =>
    let p := S.processes i
    S.setProcess i { p with
      sessions := p.sessions.set row.tokenDigest (acceptedRecord row principal mustChangeSecret) }
  | _, _ => S

/-- A process starts again: a request of its own that held the fence is rolled back. -/
def Cluster.restart (i : ℕ) : Cluster :=
  { S.setProcess i (.start S.store S.clock) with
    holder := S.holder.filter fun h => h.1 ≠ i }

inductive ClusterAction
  | enter (process : ℕ) (actor : Actor) (call : AccessCall)
  | finish (committed : Bool)
  | look (process : ℕ) (token : String)
  | identify (flight : ℕ)
  | restart (process : ℕ)
  | settle (invitationId : String) (sent : Bool)
  | advance (elapsed : ℕ)

def Cluster.next : ClusterAction → Cluster
  | .enter i actor call => S.enter i actor call
  | .finish committed => S.finish rt deriveSecret env committed
  | .look i token => S.look rt i token
  | .identify n => S.identify n
  | .restart i => S.restart i
  | .settle invitationId sent =>
    { S with store := settleInvitation S.store invitationId sent S.clock }
  | .advance elapsed => { S with clock := S.clock + elapsed }

/-- The processes, behind one fence. An authentication that ends answers its principal. -/
def cluster : Machine Cluster ClusterAction (Option (Principal × Bool)) where
  step S a :=
    (match a with
      | .identify n => S.identified n
      | _ => none, S.next rt deriveSecret env a)

/-- Processes that start on a database in which nobody is logged in. -/
def Cluster.start (db : Database)
    (localPasswordHashes : Table LocalPasswordHashRow LocalPasswordHashRow.keys)
    (localRecoveryChallenges : Table LocalRecoveryChallengeRow LocalRecoveryChallengeRow.keys)
    (localAccessInvitations : Table LocalAccessInvitationRow LocalAccessInvitationRow.keys)
    (clock : Instant) : Cluster :=
  let store : AccessStore :=
    { db, localPasswordHashes, localRecoveryChallenges, localAccessInvitations }
  { store, clock, processes := fun _ => .start store clock }

end CrmYnov.Sessions
