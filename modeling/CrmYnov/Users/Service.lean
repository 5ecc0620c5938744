import CrmYnov.Platform.Database

/-!
# The roles and the activity of users

The roles of a user are changed in one transaction of the database. Whether a
user is active is changed in the memory of the process first, and the database is
written to afterwards; the memory is filled when the process starts, and the entry
of one user is replaced whenever this user is looked up. Both operations refuse
to take the last active `SUPER_ADMIN` away – as the database counts them in one
case, as the memory does in the other.
-/

namespace CrmYnov.Users

open Checked

structure UserProcess where
  db : Database
  users : Dict String CollaboratorRow

/-- `onModuleInit` -/
def UserProcess.start (db : Database) : UserProcess where
  db := db
  users := .ofList (db.collaborators.rows.map fun user => (user.id, user))

structure UpdateAuthorization where
  roles : List Role
  campusId : Option String := none
  teamId : Option String := none
  reason : String
  confirmed : Bool

/-- `/^[a-zA-Z0-9_-]{2,64}$/` -/
def isIdentifier (value : String) : Bool :=
  Js.fullMatch (fun c => Js.isAlnum c || c == '_' || c == '-') 2 64 value

def validateScopes (campusId teamId : Option String) : Outcome Unit :=
  require (∀ value ∈ [campusId, teamId], ∀ text ∈ Leads.nonEmpty value, isIdentifier text)
    (.forbidden "scope_invalid")

def authorizationReasons : List String :=
  ["RESPONSIBILITY_CHANGE", "TEAM_CHANGE", "CAMPUS_CHANGE", "ACCESS_REVIEW"]

def validateAuthorization (input : UpdateAuthorization) : Outcome Unit := do
  require (input.confirmed ∧ input.reason ∈ authorizationReasons ∧ input.roles ≠ [])
    (.forbidden "authorization_change_invalid")
  validateScopes input.campusId input.teamId

variable (rt : Runtime)

def authorizedCampus (db : Database) (campusId : Option String) : Outcome (Option String) :=
  match Leads.nonEmpty campusId with
  | none => pure none
  | some campusId => (References.canonicalCampus rt db.references campusId).map fun campus =>
    some campus.id

/-- The user is the last active `SUPER_ADMIN` of some users, and is no longer to
be one. -/
def LosesLastSuperAdmin (users : List CollaboratorRow) (user : CollaboratorRow) : Prop :=
  user.active ∧ Role.SUPER_ADMIN ∈ user.roles ∧
    (users.filter fun u => u.active ∧ Role.SUPER_ADMIN ∈ u.roles).length ≤ 1
deriving Decidable

/-- The authorization of a user is already the one asked for. -/
def SameAuthorization (user : CollaboratorRow) (roles : List Role)
    (campusId teamId : Option String) : Prop :=
  (unique user.roles).length = roles.length ∧ (∀ role ∈ roles, role ∈ user.roles) ∧
    user.campusId = campusId ∧ user.teamId = teamId
deriving Decidable

def CollaboratorRow.authorize (roles : List Role) (campusId teamId : Option String)
    (user : CollaboratorRow) : CollaboratorRow :=
  { user with roles, campusId, teamId, authenticationVersion := user.authenticationVersion + 1 }

theorem CollaboratorRow.keys_authorize (roles : List Role) (campusId teamId : Option String)
    (user : CollaboratorRow) : (user.authorize roles campusId teamId).keys = user.keys := rfl

def jsonOrNull (value : Option String) : Js.Json := (value.map Js.Json.str).getD .null

def authorizationAudit (user actor : CollaboratorRow) (roles : List Role)
    (campusId teamId : Option String) (reason correlationId : String) (revokedSessions : ℕ) :
    AuditEventRow where
  eventType := "COLLABORATOR_AUTHORIZATION_CHANGED"
  resourceType := "COLLABORATOR"
  resourceId := user.id
  campusId := campusId
  actorId := actor.id
  actorRoles := actor.roles
  sessionId := none
  correlationId := correlationId
  idempotencyKey :=
    "collaborator-authorization:" ++ user.id ++ ":v" ++ toString user.authenticationVersion
  before := .obj [("roles", .arr (user.roles.map fun role => .str role.text)),
    ("campusId", jsonOrNull user.campusId), ("teamId", jsonOrNull user.teamId)]
  after := .obj [("subjectId", .str user.id), ("roles", .arr (roles.map fun role => .str role.text)),
    ("campusId", jsonOrNull campusId), ("teamId", jsonOrNull teamId), ("reason", .str reason),
    ("revokedSessions", .nat revokedSessions),
    ("authenticationVersion", .int (user.authenticationVersion + 1))]

/-- Store another authorization, with its audit event. -/
def changeAuthorization (db : Database) (user actor : CollaboratorRow) (roles : List Role)
    (campusId teamId : Option String) (reason correlationId : String) (revokedSessions : ℕ) :
    Outcome (CollaboratorRow × Database) := do
  let db := { db with
    collaborators := db.collaborators.updateMany (fun u => u.id = user.id)
      (CollaboratorRow.authorize roles campusId teamId)
      (CollaboratorRow.keys_authorize roles campusId teamId) }
  let db ← db.audit (authorizationAudit user actor roles campusId teamId reason correlationId
    revokedSessions)
  pure (user.authorize roles campusId teamId, db)

/-- `updateAuthorizationForApi`; how many sessions are revoked is given. -/
def updateAuthorizationForApi (db : Database) (id : String) (input : UpdateAuthorization)
    (actorId correlationId : String) (revokedSessions : ℕ) :
    Outcome (CollaboratorRow × Database) := do
  validateAuthorization input
  let user ← demand (db.collaborators.findUnique (.id id)) (.forbidden "collaborator_not_found")
  let actor ← demand (db.collaborators.findUnique (.id actorId))
    (.forbidden "authorization_change_invalid")
  require (actor.active ∧ Role.SUPER_ADMIN ∈ actor.roles)
    (.forbidden "authorization_change_invalid")
  let roles := unique input.roles
  let campusId ← authorizedCampus rt db input.campusId
  require (Role.SUPER_ADMIN ∈ roles ∨ ¬LosesLastSuperAdmin db.collaborators.rows user)
    (.conflict "last_super_admin_required")
  if SameAuthorization user roles campusId input.teamId then pure (user, db)
  else
    changeAuthorization db user actor roles campusId input.teamId input.reason correlationId
      revokedSessions

def CollaboratorRow.activate (active : Bool) (authenticationVersion : ℤ) (user : CollaboratorRow) :
    CollaboratorRow := { user with active, authenticationVersion }

theorem CollaboratorRow.keys_activate (active : Bool) (authenticationVersion : ℤ)
    (user : CollaboratorRow) : (user.activate active authenticationVersion).keys = user.keys := rfl

/-- `setActive`. The database is written to afterwards; whether this write takes
effect is given. -/
def setActive (s : UserProcess) (id : String) (active written : Bool) :
    Outcome CollaboratorRow × UserProcess :=
  match s.users.get id with
  | none => (.error (.forbidden "collaborator_not_found"), s)
  | some user =>
    if !active ∧ LosesLastSuperAdmin s.users.values user then
      (.error (.conflict "last_super_admin_required"), s)
    else
      let authenticationVersion := user.authenticationVersion + 1
      let user := user.activate active authenticationVersion
      let db := if written then
          { s.db with
            collaborators := s.db.collaborators.updateMany (fun u => u.id = id)
              (CollaboratorRow.activate active authenticationVersion)
              (CollaboratorRow.keys_activate active authenticationVersion) }
        else s.db
      (.ok user, { db, users := s.users.set id user })

def findByIdForApi (s : UserProcess) (id : String) : Option CollaboratorRow × UserProcess :=
  match s.db.collaborators.findUnique (.id id) with
  | none => (none, s)
  | some row => (some row, { s with users := s.users.set id row })

end CrmYnov.Users
