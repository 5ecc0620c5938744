import CrmYnov.Permissions.Evaluator
import CrmYnov.Platform.Database

/-!
# Saving and restoring configurations

A configuration is saved in one transaction: the principal is read again from the
database, must be allowed to edit the target and to give the scopes it gives, and
must know the version it replaces. A save after which no active Super Admin would
be granted the administration of permissions is refused
(`CrmYnov.Permissions.protectLastSuperAdmin`). Restoring a version saves its
grants anew.
-/

namespace CrmYnov.Permissions

open Checked Users References

variable (rt : Runtime)

/-! ### The principal of a transaction -/

/-- What the database answers about the session of a request, and the time. -/
structure Visit where
  session : Option LocalSession
  now : Instant

def currentCampusScopes (s : Store) (campusId : Option String) : List Scope :=
  match Leads.nonEmpty campusId with
  | none => []
  | some campusId =>
    let campus := if looksLikeId campusId then s.references.findUnique (.id campusId)
      else resolveReference rt s .CAMPUS campusId
    Scope.CAMPUS campusId :: (campus.toList.flatMap fun campus =>
      ([campus.id, campus.code, campus.label].filter fun id => id ≠ campusId).map Scope.CAMPUS)

variable (db : Database)

variable (visit : Visit)

def currentPrincipal (principal : AuthenticatedPrincipal) : Outcome AuthenticatedPrincipal := do
  let user ← demand (db.collaborators.findUnique (.id principal.userId))
    permissionDenied
  let session ← demand visit.session permissionDenied
  require (user.active ∧ session.active ∧ session.collaboratorId = user.id ∧
      visit.now < session.expiresAt ∧ session.authenticationVersion = user.authenticationVersion)
    permissionDenied
  require (user.roles ≠ []) permissionDenied
  pure { principal with
    roles := user.roles
    scopes := (if Role.SUPER_ADMIN ∈ user.roles then [.GLOBAL] else []) ++
      currentCampusScopes rt db.references user.campusId ++
      (Leads.nonEmpty user.teamId).toList.map Scope.TEAM
    mustChangeSecret := user.firstLoginRequired || principal.mustChangeSecret }

/-! ### The stored configurations -/

/-- The later of two versions, if there is one before. -/
def laterVersion (last : Option (ℤ × Grants)) (version : ℤ × Grants) : Option (ℤ × Grants) :=
  match last with
  | none => some version
  | some last => if last.1 < version.1 then some version else some last

def lastVersion (versions : List (ℤ × Grants)) : Option (ℤ × Grants) :=
  versions.foldl laterVersion none

def RolePermissionConfigurationRow.latest (row : RolePermissionConfigurationRow) :
    Option (ℤ × Grants) := lastVersion row.versions.entries.rows

def snapshotRow (row : RolePermissionConfigurationRow) : Outcome ConfigurationSnapshot := do
  validateTarget row.toConfigurationTarget
  require (configurationKey row.toConfigurationTarget = row.id ∧ 1 ≤ row.version)
    (.error "permission_configuration_invalid")
  let version ← demand (row.latest.filter fun version => version.1 = row.version)
    (.error "permission_version_missing")
  let grants ← historicalGrants version.2 row.toConfigurationTarget
  pure { row.toConfigurationTarget with id := row.id, version := row.version, grants }

def snapshots : Outcome (List ConfigurationSnapshot) :=
  db.rolePermissionConfigurations.rows.mapM snapshotRow

def RolePermissionConfigurationRow.advance (version : ℤ) (versions : Dict ℤ Grants)
    (row : RolePermissionConfigurationRow) : RolePermissionConfigurationRow :=
  { row with version, versions }

theorem RolePermissionConfigurationRow.keys_advance (version : ℤ) (versions : Dict ℤ Grants)
    (row : RolePermissionConfigurationRow) : (row.advance version versions).keys = row.keys := rfl

def append (input : ConfigurationInput) : Outcome (ℤ × Database) :=
  let id := configurationKey input.toConfigurationTarget
  let version := input.expectedVersion + 1
  if input.expectedVersion = 0 then do
    let rolePermissionConfigurations ← insert db.rolePermissionConfigurations {
      input.toConfigurationTarget with id, version, versions := Dict.empty.set version input.grants }
    pure (version, { db with rolePermissionConfigurations })
  else do
    let row ← demand (db.rolePermissionConfigurations.findUnique id) .database
    require (row.version = input.expectedVersion) .database
    let versions ← demand (row.versions.entries.create (version, input.grants)) .database
    pure (version, { db with
      rolePermissionConfigurations := db.rolePermissionConfigurations.updateMany
        (fun row => row.id = id) (RolePermissionConfigurationRow.advance version ⟨versions⟩)
        (RolePermissionConfigurationRow.keys_advance version ⟨versions⟩) })

/-! ### Who may save what -/

def knownCampus (campus : String) : Outcome Unit :=
  require (campus = GLOBAL_CAMPUS ∨ ∃ row ∈ db.references.references.findUnique (.id campus),
    row.kind = .CAMPUS ∧ row.state = .ACTIVE) permissionDenied

def visibleTarget (principal : AuthenticatedPrincipal) (target : ConfigurationTarget) :
    Outcome Unit := do
  validateTarget target
  require (principal.hasSome [.SUPER_ADMIN, .ADMIN]) permissionDenied
  require (Role.SUPER_ADMIN ∈ principal.roles ∨
      (target.campus ≠ GLOBAL_CAMPUS ∧
        (campusContext principal.toPrincipal target.campus).campusAllowed))
    permissionDenied

def editableTarget (principal : AuthenticatedPrincipal) (target : ConfigurationTarget) :
    Outcome Unit := do
  visibleTarget principal target
  require (Role.SUPER_ADMIN ∈ principal.roles ∨
      (target.kind = .ROLE ∧
        ∃ role ∈ target.role, role ∈ [.MANAGER, .ADMISSIONS, .AUDITOR] ∧ role ∉ principal.roles))
    permissionDenied

def requirePermission (principal : AuthenticatedPrincipal) (key : PermissionKey)
    (rows : List ConfigurationSnapshot) (campus : String) : Outcome Unit := do
  let decision ← evaluatePermission principal key rows (campusContext principal.toPrincipal campus)
  require decision.allowed permissionDenied

/-- The grants a role is given globally, which a campus may only restrict. -/
def resolveRoleCeiling (input : ConfigurationInput) (rows : List ConfigurationSnapshot)
    (ceiling : Grants) : Outcome Grants :=
  if input.kind = .ROLE then resolveGrants rows ⟨.ROLE, input.role, GLOBAL_CAMPUS⟩
  else pure ceiling

def assertCeilings (input : ConfigurationInput) (rows : List ConfigurationSnapshot) :
    Outcome Unit :=
  if input.campus = GLOBAL_CAMPUS ∧ input.kind = .CEILING then pure ()
  else do
    let ceiling ← resolveGrants rows ⟨.CEILING, none, GLOBAL_CAMPUS⟩
    let role ← resolveRoleCeiling input rows ceiling
    require (∀ e ∈ input.grants.entries.rows, scopeWithin e.2 (ceiling.scope e.1) ∧
        (input.campus ≠ GLOBAL_CAMPUS → scopeWithin e.2 (role.scope e.1)))
      permissionDenied

def assertAdminGrantBounds (actor : AuthenticatedPrincipal) (input : ConfigurationInput)
    (rows : List ConfigurationSnapshot) : Outcome Unit :=
  if Role.SUPER_ADMIN ∈ actor.roles then pure ()
  else do
    let authority ← evaluatePermission actor .rolesPermissionsManage rows
      (campusContext actor.toPrincipal input.campus)
    require (∀ e ∈ input.grants.entries.rows, e.2 ≠ .NONE →
        e.2 ≠ .GLOBAL ∧ (definition e.1).reserved = false ∧
        ∃ source ∈ authority.sources, source.role = .ADMIN ∧ source.allowed ∧
          ∀ ceiling ∈ [source.sourceScope, source.globalCeiling, source.campusCeiling,
            source.campusGrant], scopeWithin e.2 ceiling)
      permissionDenied

structure ConfigurationChange where
  permission : PermissionKey
  (previous next : PermissionScope)
  (widening sensitive : Bool)

def configurationChanges (before after : Grants) : List ConfigurationChange :=
  (after.entries.rows.filter fun e => before.get e.1 ≠ some e.2).map fun e => {
    permission := e.1, previous := before.scope e.1, next := e.2
    widening := !scopeWithin e.2 (before.scope e.1), sensitive := (definition e.1).sensitive }

/-- The configuration stored for a target, among some snapshots. -/
def currentConfiguration (rows : List ConfigurationSnapshot) (target : ConfigurationTarget) :
    Option ConfigurationSnapshot := rows.find? fun row => row.id = configurationKey target

def validateChange (principal : AuthenticatedPrincipal) (input : ConfigurationInput)
    (rows : List ConfigurationSnapshot) : Outcome Grants := do
  editableTarget principal input.toConfigurationTarget
  requirePermission principal .rolesPermissionsManage rows input.campus
  let current := currentConfiguration rows input.toConfigurationTarget
  require ((current.map ConfigurationSnapshot.version).getD 0 = input.expectedVersion)
    (.conflict "permission_version_conflict")
  assertCeilings input rows
  assertAdminGrantBounds principal input rows
  pure ((current.map ConfigurationSnapshot.grants).getD
    (defaultConfiguration input.toConfigurationTarget))

/-! ### The last Super Admin -/

/-- The principal the protection of the last Super Admin evaluates. -/
def invariantPrincipal (id : String) (roles : List Role) : AuthenticatedPrincipal where
  userId := id
  roles := roles
  scopes := [.GLOBAL]
  sessionId := "invariant-check"

/-- The user with these roles is granted a permission, globally. -/
def grantedGlobally (rows : List ConfigurationSnapshot) (id : String) (roles : List Role)
    (key : PermissionKey) : Outcome Bool :=
  let principal := invariantPrincipal id roles
  (evaluatePermission principal key rows (campusContext principal.toPrincipal GLOBAL_CAMPUS)).map
    PermissionDecision.allowed

/-- The user with these roles is granted the administration of permissions. -/
def administers (rows : List ConfigurationSnapshot) (id : String) (roles : List Role) :
    Outcome Bool :=
  [PermissionKey.rolesPermissionsView, .rolesPermissionsManage].allM fun key =>
    grantedGlobally rows id roles key

/-- The active users who hold `SUPER_ADMIN`. -/
def superAdmins : List CollaboratorRow :=
  db.collaborators.findMany fun user => user.active ∧ Role.SUPER_ADMIN ∈ user.roles

def protectLastSuperAdmin (rows : List ConfigurationSnapshot) : Outcome Unit := do
  let remains ← (superAdmins db).anyM fun admin => administers rows admin.id admin.roles
  require remains (.conflict "last_super_admin_required")

/-! ### Saving -/

structure SaveResponse where
  version : ℤ
  changes : List ConfigurationChange
  roles : List Role

def nextSnapshots (rows : List ConfigurationSnapshot) (input : ConfigurationInput) :
    List ConfigurationSnapshot :=
  let id := configurationKey input.toConfigurationTarget
  (rows.filter fun row => row.id ≠ id) ++ [{ input.toConfigurationTarget with
    id, version := input.expectedVersion + 1, grants := input.grants }]

def saveInTransaction (actor : AuthenticatedPrincipal) (input : ConfigurationInput) :
    Outcome (SaveResponse × Database) := do
  let principal ← currentPrincipal rt db visit actor
  let rows ← snapshots db
  knownCampus db input.campus
  let before ← validateChange principal input rows
  let changes := configurationChanges before input.grants
  require (changes ≠ []) (.conflict "permission_no_change")
  require ((∃ change ∈ changes, change.widening ∨ change.sensitive) → input.confirmed)
    permissionDenied
  protectLastSuperAdmin db (nextSnapshots rows input)
  let (version, db) ← append db input
  pure ({ version, changes, roles := principal.roles }, db)

def save (actor : AuthenticatedPrincipal) (input : ConfigurationInput) :
    Outcome (SaveResponse × Database) := do
  validateInput input
  saveInTransaction rt db visit actor input

structure RestoreInput extends ConfigurationTarget where
  expectedVersion : ℤ
  reason : String
  confirmed : Bool
  restoreVersion : ℤ

def restore (actor : AuthenticatedPrincipal) (input : RestoreInput) :
    Outcome (SaveResponse × Database) := do
  require (isSafeInteger input.restoreVersion ∧ 1 ≤ input.restoreVersion)
    permissionDenied
  validateTarget input.toConfigurationTarget
  let principal ← currentPrincipal rt db visit actor
  editableTarget principal input.toConfigurationTarget
  let row ← demand (db.rolePermissionConfigurations.findUnique
    (configurationKey input.toConfigurationTarget)) permissionDenied
  let stored ← demand (row.versions.get input.restoreVersion) permissionDenied
  let grants ← historicalGrants stored input.toConfigurationTarget
  let restored : ConfigurationInput := { input.toConfigurationTarget with
    expectedVersion := input.expectedVersion, confirmed := input.confirmed
    reason := "RESTORE_VERSION", grants }
  validateInput restored
  saveInTransaction rt db visit principal restored

end CrmYnov.Permissions
