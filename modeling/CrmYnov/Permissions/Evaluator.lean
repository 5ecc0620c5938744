import CrmYnov.Permissions.Contract

/-!
# The evaluation of permissions

A principal is granted a permission when one of its roles is: the scope the role
is given must include the resource, and so must every ceiling and every campus
restriction above it. A configuration that is not stored has its default.

The evaluation depends on the stored configurations only through the grants that
each key leads to (`CrmYnov.Permissions.matching`), so two lists of
configurations that agree on these give the same decisions
(`CrmYnov.Permissions.evaluatePermission_congr`).
-/

namespace CrmYnov.Permissions

open Checked PermissionKey

/-! ### Defaults -/

def readRoles : List Role := [.SUPER_ADMIN, .ADMIN, .MANAGER, .ADMISSIONS, .AUDITOR]

def managers : List Role := [.SUPER_ADMIN, .ADMIN, .MANAGER]

def auditRoles : List Role := [.SUPER_ADMIN, .ADMIN, .AUDITOR]

def defaultRoles : PermissionKey → Option (List Role)
  | .auditView => some auditRoles
  | .reportingPilotageView => some managers
  | .leadCreate => some [.SUPER_ADMIN, .ADMIN, .ADMISSIONS]
  | .leadEdit => some (managers ++ [.ADMISSIONS])
  | .leadAssign => some managers
  | .leadReassignRequest => some (managers ++ [.ADMISSIONS])
  | .leadReassignApprove => some managers
  | .leadCloseRequest => some (managers ++ [.ADMISSIONS])
  | .leadCloseApprove => some managers
  | .leadTagsAssign => some (managers ++ [.ADMISSIONS])
  | .leadCollaboratorsManage => some (managers ++ [.ADMISSIONS])
  | .leadTagsManage => some [.SUPER_ADMIN, .ADMIN]
  | .leadReferencesManage => some [.SUPER_ADMIN, .ADMIN]
  | .leadReferencesArchive => some [.SUPER_ADMIN, .ADMIN]
  | .interactionCreate => some (managers ++ [.ADMISSIONS])
  | .reminderManage => some (managers ++ [.ADMISSIONS])
  | .appointmentManage => some (managers ++ [.ADMISSIONS])
  | .importExecute => some [.SUPER_ADMIN, .ADMIN]
  | .importConfirm => some [.SUPER_ADMIN, .ADMIN]
  | .importReviewResolve => some managers
  | .rolesPermissionsView => some [.SUPER_ADMIN, .ADMIN]
  | .rolesPermissionsManage => some [.SUPER_ADMIN, .ADMIN]
  | .settingsCampusManage => some [.SUPER_ADMIN, .ADMIN]
  | .settingsGlobalManage => some [.SUPER_ADMIN]
  | .chatUse => some (managers ++ [.ADMISSIONS])
  | .chatBroadcast => some managers
  | .notificationManage => some (managers ++ [.ADMISSIONS])
  | _ => none

def viewDefaultScope (role : Role) (key : PermissionKey) : Option PermissionScope :=
  if key ∉ viewGrantKeys then none
  else if key = .leadViewsView then some (if role = .SUPER_ADMIN then .GLOBAL else .CAMPUS)
  else if role = .AUDITOR then some .NONE
  else if role = .SUPER_ADMIN then some .GLOBAL
  else if key = .leadViewsRevokeOwn then some .OWN
  else if role = .ADMIN then some .CAMPUS
  else if role = .MANAGER ∧ key.endsWith "team" then some .TEAM
  else some .NONE

def qualificationScope : Role → PermissionScope
  | .SUPER_ADMIN => .GLOBAL
  | .ADMIN => .CAMPUS
  | .MANAGER => .CAMPUS
  | .ADMISSIONS => .OWN
  | .AUDITOR => .NONE

def freeCallScope : Role → PermissionScope
  | .SUPER_ADMIN => .GLOBAL
  | .ADMIN => .CAMPUS
  | _ => .NONE

def defaultRoleScope (role : Role) (key : PermissionKey) : PermissionScope :=
  let item := definition key
  if !item.available || (role = .AUDITOR && item.mutation) then .NONE
  else if key = .leadQualificationUpdate then qualificationScope role
  else if key = .telephonyFreeCallCreate then freeCallScope role
  else
    match viewDefaultScope role key with
    | some scope => scope
    | none =>
      if role = .SUPER_ADMIN then .GLOBAL
      else if item.reserved || key.startsWith "users" then .NONE
      else if role ∉ (defaultRoles key).getD (if item.mutation then [] else readRoles) then .NONE
      else if role = .ADMISSIONS ∧ key ∈ [.leadEdit, .leadTagsAssign, .leadCollaboratorsManage]
      then .OWN
      else .CAMPUS

/-- The default scope of one permission for a target. A configuration for no role
that is not a ceiling does not exist. -/
def defaultScope (target : ConfigurationTarget) (key : PermissionKey) : PermissionScope :=
  let item := definition key
  let scope :=
    if item.available ∧ target.kind = .CEILING then .GLOBAL
    else (target.role.map fun role => defaultRoleScope role key).getD .NONE
  if target.campus ≠ GLOBAL_CAMPUS ∧ scope = .GLOBAL then
    if item.reserved then .NONE else .CAMPUS
  else scope

def defaultConfiguration (target : ConfigurationTarget) : Grants :=
  .tabulate keys nodup_keys (defaultScope target)

def resolveGrants (rows : List ConfigurationSnapshot) (target : ConfigurationTarget) :
    Outcome Grants :=
  match rows.filter fun row =>
      configurationKey row.toConfigurationTarget = configurationKey target with
  | [] => pure (defaultConfiguration target)
  | [row] => pure row.grants
  | _ => .error (.error "permission_configuration_ambiguous")

/-! ### Decisions -/

structure EvaluationContext where
  campus : String
  (active own team : Bool)
  managedTeam : Option Bool := none
  (campusAllowed globalAllowed : Bool)
  restriction : Option String := none

structure AuthenticatedPrincipal extends Principal where
  mustChangeSecret : Bool := false

def campusContext (principal : Principal) (campus : String) : EvaluationContext where
  campus := campus
  active := true
  own := false
  team := false
  globalAllowed := Role.SUPER_ADMIN ∈ principal.roles
  campusAllowed := Role.SUPER_ADMIN ∈ principal.roles || Scope.CAMPUS campus ∈ principal.scopes

structure GrantExplanation where
  role : Role
  (sourceScope globalCeiling campusCeiling campusGrant : PermissionScope)
  allowed : Bool
  restriction : Option String

structure PermissionDecision where
  permission : PermissionKey
  allowed : Bool
  sources : List GrantExplanation
  restriction : Option String

def includesResource (scope : PermissionScope) (context : EvaluationContext) (role : Role) : Bool :=
  match scope with
  | .NONE => false
  | .GLOBAL => context.globalAllowed || context.campusAllowed
  | .CAMPUS => context.campusAllowed
  | .OWN => context.campusAllowed && context.own
  | .TEAM =>
    context.campusAllowed &&
      (if role = .MANAGER then context.managedTeam == some true else context.team)

/-- The ceiling of a campus; there is none above the global context. -/
def resolveCampusCeiling (rows : List ConfigurationSnapshot) (key : PermissionKey)
    (campus : String) : Outcome PermissionScope :=
  if campus = GLOBAL_CAMPUS then pure .GLOBAL
  else (resolveGrants rows ⟨.CEILING, none, campus⟩).map fun grants => grants.scope key

def explainRole (role : Role) (key : PermissionKey) (rows : List ConfigurationSnapshot)
    (context : EvaluationContext) : Outcome GrantExplanation := do
  let source ← resolveGrants rows ⟨.ROLE, some role, GLOBAL_CAMPUS⟩
  let ceiling ← resolveGrants rows ⟨.CEILING, none, GLOBAL_CAMPUS⟩
  let sourceScope := source.scope key
  let globalCeiling := ceiling.scope key
  let campusCeiling ← resolveCampusCeiling rows key context.campus
  let campusTarget : ConfigurationTarget := ⟨.ROLE, some role, context.campus⟩
  let campusRow := (rows.filter fun row =>
    configurationKey row.toConfigurationTarget = configurationKey campusTarget).head?
  let campusGrant := (campusRow.bind fun row => row.grants.get key).getD sourceScope
  let scopeAllowed := [sourceScope, globalCeiling, campusCeiling, campusGrant].all fun scope =>
    includesResource scope context role
  let restriction :=
    if role = .AUDITOR ∧ (definition key).mutation then some "auditor_read_only"
    else context.restriction <|> if context.active then none else some "resource_inactive"
  pure {
    role, sourceScope, globalCeiling, campusCeiling, campusGrant
    allowed := scopeAllowed && restriction.isNone, restriction }

def auditDecision (sources : List GrantExplanation) (context : EvaluationContext) :
    PermissionDecision :=
  let eligible := sources.filter fun source => source.role ∈ auditRoles ∧ source.sourceScope ≠ .NONE
  let allowed := !eligible.isEmpty && eligible.all GrantExplanation.allowed
  { permission := .auditView, allowed, sources
    restriction := if allowed then none
      else context.restriction <|> some "audit_scope_or_role_denied" }

def evaluatePermission (principal : AuthenticatedPrincipal) (key : PermissionKey)
    (rows : List ConfigurationSnapshot) (context : EvaluationContext) :
    Outcome PermissionDecision :=
  if !(definition key).available || principal.userId = "" || principal.sessionId = "" ||
      principal.mustChangeSecret then
    pure { permission := key, allowed := false, sources := [],
           restriction := some "permission_or_session_invalid" }
  else if key = .auditView then do
    let auditContext := { context with
      globalAllowed := true
      campusAllowed := context.campus ≠ GLOBAL_CAMPUS && context.campusAllowed }
    let sources ← (unique principal.roles).mapM fun role => explainRole role key rows auditContext
    pure (auditDecision sources auditContext)
  else do
    let sources ← (unique principal.roles).mapM fun role => explainRole role key rows context
    pure { permission := key, allowed := sources.any GrantExplanation.allowed, sources,
           restriction := context.restriction }

/-! ### What a decision depends on -/

/-- The grants that a key leads to among some configurations. -/
def matching (rows : List ConfigurationSnapshot) (key : String) :
    List (PermissionKey → Option PermissionScope) :=
  (rows.filter fun row => configurationKey row.toConfigurationTarget = key).map fun row =>
    row.grants.get

variable {rows rows' : List ConfigurationSnapshot}

/-- What `resolveGrants` finds, as a function of the grants that the key of the
target leads to. -/
def resolveMatching (target : ConfigurationTarget) :
    List (PermissionKey → Option PermissionScope) → Outcome (PermissionKey → Option PermissionScope)
  | [] => pure (defaultConfiguration target).get
  | [get] => pure get
  | _ => .error (.error "permission_configuration_ambiguous")

theorem map_get_resolveGrants (rows : List ConfigurationSnapshot) (target : ConfigurationTarget) :
    (resolveGrants rows target).map Dict.get =
      resolveMatching target (matching rows (configurationKey target)) := by
  rw [resolveGrants, matching]
  rcases rows.filter _ with _ | ⟨row, _ | ⟨row', rest⟩⟩ <;> rfl

/-- **The grants found for a target** are found, or are not, alike among
configurations that agree, and read alike. -/
theorem resolveGrants_congr (h : ∀ key, matching rows key = matching rows' key)
    (target : ConfigurationTarget) :
    (∃ e, resolveGrants rows target = .error e ∧ resolveGrants rows' target = .error e) ∨
      ∃ grants grants', resolveGrants rows target = .ok grants ∧
        resolveGrants rows' target = .ok grants' ∧ ∀ key, grants.scope key = grants'.scope key := by
  have hget : (resolveGrants rows target).map Dict.get =
      (resolveGrants rows' target).map Dict.get := by
    rw [map_get_resolveGrants, map_get_resolveGrants, h]
  cases hx : resolveGrants rows target with
  | error e =>
    cases hy : resolveGrants rows' target with
    | error e' =>
      rw [hx, hy] at hget
      cases hget
      exact .inl ⟨e, rfl, rfl⟩
    | ok grants' => simp [hx, hy, Except.map] at hget
  | ok grants =>
    cases hy : resolveGrants rows' target with
    | error e' => simp [hx, hy, Except.map] at hget
    | ok grants' =>
      have hsame : grants.get = grants'.get := by simpa [hx, hy, Except.map] using hget
      exact .inr ⟨grants, grants', rfl, rfl, fun key => by rw [Grants.scope, Grants.scope, hsame]⟩

theorem explainRole_congr (h : ∀ key, matching rows key = matching rows' key) (role : Role)
    (key : PermissionKey) (context : EvaluationContext) :
    explainRole role key rows context = explainRole role key rows' context := by
  have hceiling : resolveCampusCeiling rows key context.campus =
      resolveCampusCeiling rows' key context.campus := by
    rw [resolveCampusCeiling, resolveCampusCeiling]
    rcases resolveGrants_congr h ⟨.CEILING, none, context.campus⟩ with
      ⟨e, hx, hy⟩ | ⟨grants, grants', hx, hy, hscope⟩
    · rw [hx, hy]
    · rw [hx, hy, Except.map, Except.map, hscope]
  have hcampus : ∀ target, ((rows.filter fun row => configurationKey row.toConfigurationTarget =
        configurationKey target).head?.bind fun row => row.grants.get key) =
      (rows'.filter fun row => configurationKey row.toConfigurationTarget =
        configurationKey target).head?.bind fun row => row.grants.get key := fun target => by
    have hhead := congrArg List.head? (h (configurationKey target))
    rw [matching, matching, List.head?_map, List.head?_map] at hhead
    have hread := congrArg (fun get : Option (PermissionKey → Option PermissionScope) =>
      get.bind fun get => get key) hhead
    simpa [Option.bind_map] using hread
  rw [explainRole, explainRole]
  rcases resolveGrants_congr h ⟨.ROLE, some role, GLOBAL_CAMPUS⟩ with
    ⟨e, hx, hy⟩ | ⟨source, source', hx, hy, hsource⟩
  · rw [hx, hy]
    rfl
  rcases resolveGrants_congr h ⟨.CEILING, none, GLOBAL_CAMPUS⟩ with
    ⟨e, hx', hy'⟩ | ⟨ceiling, ceiling', hx', hy', hscope⟩
  · rw [hx, hy, hx', hy']
    rfl
  · simp only [hx, hy, hx', hy', ok_bind, hceiling, hsource, hscope, hcampus]

/-- **A decision depends on the configurations only through the grants that each
key leads to.** -/
theorem evaluatePermission_congr (h : ∀ key, matching rows key = matching rows' key)
    (principal : AuthenticatedPrincipal) (key : PermissionKey) (context : EvaluationContext) :
    evaluatePermission principal key rows context =
      evaluatePermission principal key rows' context := by
  simp only [evaluatePermission, explainRole_congr h]

end CrmYnov.Permissions
