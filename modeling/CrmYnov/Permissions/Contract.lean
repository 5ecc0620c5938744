import CrmYnov.Auth.Principal
import CrmYnov.Base.Table
import Mathlib.Data.List.MinMax
import Mathlib.Data.List.Perm.Subperm

/-!
# The contract of the permission configurations

A configuration gives a scope to every permission of the catalogue, for a role or
as a ceiling, globally or in a campus. It is versioned, and a version that was
stored under an older catalogue is completed when it is read
(`CrmYnov.Permissions.historicalGrants`), so that what is read is as valid as
what is written (`CrmYnov.Permissions.historicalGrants_of_valid`).
-/

namespace CrmYnov.Permissions

open Checked List

/-! ### The catalogue -/

inductive PermissionKey
  | leadView | leadCreate | leadEdit | leadQualificationUpdate | leadAssign | leadReassignRequest
  | leadReassignApprove | leadCloseRequest | leadCloseApprove | leadTagsAssign
  | leadCollaboratorsManage | leadTagsManage | leadReferencesView | leadReferencesManage
  | leadReferencesArchive | interactionCreate | interactionView | reminderManage
  | appointmentManage | importView | importExecute | importConfirm | importReviewResolve
  | importReportExport | reportingView | reportingPilotageView | reportingExport
  | reportingGlobalView | usersView | usersCreate | usersEdit | usersDisable | usersRolesAssign
  | rolesPermissionsView | rolesPermissionsManage | settingsCampusManage | settingsGlobalManage
  | auditView | auditExport | chatUse | chatBroadcast | notificationManage
  | telephonyFreeCallCreate | leadViewsView | leadViewsShareTeam | leadViewsShareCampus
  | leadViewsRevokeOwn | leadViewsRevokeTeam | leadViewsRevokeCampus
deriving DecidableEq

namespace PermissionKey

/-- The words of a permission, between the dots of its text. -/
def path : PermissionKey → List String
  | leadView => ["lead", "view"]
  | leadCreate => ["lead", "create"]
  | leadEdit => ["lead", "edit"]
  | leadQualificationUpdate => ["lead", "qualification", "update"]
  | leadAssign => ["lead", "assign"]
  | leadReassignRequest => ["lead", "reassign", "request"]
  | leadReassignApprove => ["lead", "reassign", "approve"]
  | leadCloseRequest => ["lead", "close", "request"]
  | leadCloseApprove => ["lead", "close", "approve"]
  | leadTagsAssign => ["lead", "tags", "assign"]
  | leadCollaboratorsManage => ["lead", "collaborators", "manage"]
  | leadTagsManage => ["lead", "tags", "manage"]
  | leadReferencesView => ["lead", "references", "view"]
  | leadReferencesManage => ["lead", "references", "manage"]
  | leadReferencesArchive => ["lead", "references", "archive"]
  | interactionCreate => ["interaction", "create"]
  | interactionView => ["interaction", "view"]
  | reminderManage => ["reminder", "manage"]
  | appointmentManage => ["appointment", "manage"]
  | importView => ["import", "view"]
  | importExecute => ["import", "execute"]
  | importConfirm => ["import", "confirm"]
  | importReviewResolve => ["import", "review", "resolve"]
  | importReportExport => ["import", "report", "export"]
  | reportingView => ["reporting", "view"]
  | reportingPilotageView => ["reporting", "pilotage", "view"]
  | reportingExport => ["reporting", "export"]
  | reportingGlobalView => ["reporting", "global", "view"]
  | usersView => ["users", "view"]
  | usersCreate => ["users", "create"]
  | usersEdit => ["users", "edit"]
  | usersDisable => ["users", "disable"]
  | usersRolesAssign => ["users", "roles", "assign"]
  | rolesPermissionsView => ["roles", "permissions", "view"]
  | rolesPermissionsManage => ["roles", "permissions", "manage"]
  | settingsCampusManage => ["settings", "campus", "manage"]
  | settingsGlobalManage => ["settings", "global", "manage"]
  | auditView => ["audit", "view"]
  | auditExport => ["audit", "export"]
  | chatUse => ["chat", "use"]
  | chatBroadcast => ["chat", "broadcast"]
  | notificationManage => ["notification", "manage"]
  | telephonyFreeCallCreate => ["telephony", "free-call", "create"]
  | leadViewsView => ["lead", "views", "view"]
  | leadViewsShareTeam => ["lead", "views", "share", "team"]
  | leadViewsShareCampus => ["lead", "views", "share", "campus"]
  | leadViewsRevokeOwn => ["lead", "views", "revoke", "own"]
  | leadViewsRevokeTeam => ["lead", "views", "revoke", "team"]
  | leadViewsRevokeCampus => ["lead", "views", "revoke", "campus"]

def text (key : PermissionKey) : String := ".".intercalate key.path

/-- `key.startsWith(word + ".")` -/
def startsWith (key : PermissionKey) (word : String) : Bool := key.path.head? = some word

/-- `key.endsWith("." + word)` -/
def endsWith (key : PermissionKey) (word : String) : Bool := key.path.getLast? = some word

def viewGrantKeys : List PermissionKey :=
  [leadViewsView, leadViewsShareTeam, leadViewsShareCampus, leadViewsRevokeOwn,
    leadViewsRevokeTeam, leadViewsRevokeCampus]

def keys : List PermissionKey :=
  [leadView, leadCreate, leadEdit, leadQualificationUpdate, leadAssign, leadReassignRequest,
    leadReassignApprove, leadCloseRequest, leadCloseApprove, leadTagsAssign,
    leadCollaboratorsManage, leadTagsManage, leadReferencesView, leadReferencesManage,
    leadReferencesArchive, interactionCreate, interactionView, reminderManage, appointmentManage,
    importView, importExecute, importConfirm, importReviewResolve, importReportExport,
    reportingView, reportingPilotageView, reportingExport, reportingGlobalView, usersView,
    usersCreate, usersEdit, usersDisable, usersRolesAssign, rolesPermissionsView,
    rolesPermissionsManage, settingsCampusManage, settingsGlobalManage, auditView, auditExport,
    chatUse, chatBroadcast, notificationManage, telephonyFreeCallCreate] ++ viewGrantKeys

theorem nodup_keys : keys.Nodup := by decide

theorem mem_keys (key : PermissionKey) : key ∈ keys := by cases key <;> decide

end PermissionKey

/-- `scopes`: how far a permission reaches. -/
inductive PermissionScope
  | NONE | OWN | TEAM | CAMPUS | GLOBAL
deriving DecidableEq

structure PermissionDefinition where
  key : PermissionKey
  (mutation sensitive : Bool)
  scopes : List PermissionScope
  (reserved available : Bool)

def readOnly (key : PermissionKey) : Bool := key.endsWith "view" || key.endsWith "export"

def globalOnly : List PermissionKey := [.settingsGlobalManage, .reportingGlobalView]

def unavailable : List PermissionKey := [.usersEdit, .auditExport]

/-- `definition`: the entry of a permission in the catalogue. -/
def definition (key : PermissionKey) : PermissionDefinition where
  key := key
  mutation := !readOnly key
  sensitive := !readOnly key || key.startsWith "audit"
  scopes :=
    if key ∈ unavailable then [.NONE]
    else if key ∈ globalOnly then [.NONE, .GLOBAL]
    else if key.startsWith "lead" || key.startsWith "interaction" ||
      key ∈ [.reportingView, .reportingPilotageView, .reportingExport]
    then [.NONE, .OWN, .TEAM, .CAMPUS, .GLOBAL]
    else [.NONE, .CAMPUS, .GLOBAL]
  reserved := key ∈ globalOnly
  available := key ∉ unavailable

def permissionCatalogue : List PermissionDefinition := PermissionKey.keys.map definition

/-! ### Configurations -/

/-- `Grants`: a scope for some permissions. -/
abbrev Grants := Dict PermissionKey PermissionScope

/-- `grants[key] ?? "NONE"` -/
def Grants.scope (grants : Grants) (key : PermissionKey) : PermissionScope :=
  (grants.get key).getD .NONE

inductive ConfigurationKind
  | CEILING | ROLE
deriving DecidableEq

/-- What a configuration is about; no role stands for `"*"`. -/
structure ConfigurationTarget where
  kind : ConfigurationKind
  role : Option Role
  campus : String

structure ConfigurationInput extends ConfigurationTarget where
  expectedVersion : ℤ
  grants : Grants
  reason : String
  confirmed : Bool

structure ConfigurationSnapshot extends ConfigurationTarget where
  id : String
  version : ℤ
  grants : Grants

/-- A row of `role_permission_configurations`, with its versions. -/
structure RolePermissionConfigurationRow extends ConfigurationTarget where
  id : String
  version : ℤ
  /-- The grants of each version, by its number. -/
  versions : Dict ℤ Grants

def RolePermissionConfigurationRow.keys (c : RolePermissionConfigurationRow) : List String := [c.id]

def GLOBAL_CAMPUS : String := "GLOBAL"

def ConfigurationKind.text : ConfigurationKind → String
  | CEILING => "CEILING"
  | ROLE => "ROLE"

def configurationKey (target : ConfigurationTarget) : String :=
  target.kind.text ++ ":" ++ (target.role.map Role.text).getD "*" ++ ":" ++ target.campus

def invalidConfiguration : Failure := .badRequest "role_permission_configuration_invalid"

/-- `/^[a-zA-Z0-9_-]{2,80}$/` -/
def isCampusId (campus : String) : Bool :=
  Js.fullMatch (fun c => Js.isAlnum c || c == '_' || c == '-') 2 80 campus

def validateTarget (target : ConfigurationTarget) : Outcome Unit := do
  require (isCampusId target.campus) invalidConfiguration
  require (target.kind = .CEILING ↔ target.role = none) invalidConfiguration

def ValidGrant (target : ConfigurationTarget) (key : PermissionKey) (scope : PermissionScope) :
    Prop :=
  scope ∈ (definition key).scopes ∧
    ¬(target.role = some .AUDITOR ∧ (definition key).mutation ∧ scope ≠ .NONE) ∧
    ¬(target.campus ≠ GLOBAL_CAMPUS ∧ scope = .GLOBAL) ∧
    ¬((definition key).reserved ∧ target.campus ≠ GLOBAL_CAMPUS ∧ scope ≠ .NONE)
deriving Decidable

/-- `validateGrants`: every permission of the catalogue has a scope that is
allowed. -/
def validateGrants (grants : Grants) (target : ConfigurationTarget) : Outcome Unit := do
  require (grants.entries.rows.length = permissionCatalogue.length) invalidConfiguration
  require (∀ e ∈ grants.entries.rows, ValidGrant target e.1 e.2) invalidConfiguration

def configurationReasons : List String :=
  ["ACCESS_REVIEW", "RESPONSIBILITY_CHANGE", "RESTORE_VERSION", "CAMPUS_RESTRICTION"]

/-- `Number.isSafeInteger` -/
def isSafeInteger (n : ℤ) : Bool := -9007199254740991 ≤ n && n ≤ 9007199254740991

def validateInput (input : ConfigurationInput) : Outcome Unit := do
  validateTarget input.toConfigurationTarget
  validateGrants input.grants input.toConfigurationTarget
  require (isSafeInteger input.expectedVersion ∧ 0 ≤ input.expectedVersion) invalidConfiguration
  require (input.reason ∈ configurationReasons) invalidConfiguration

/-- `scopeWithin`: the scopes `OWN` and `TEAM` are not ordered. -/
def scopeWithin (candidate ceiling : PermissionScope) : Bool :=
  candidate = .NONE || candidate = ceiling || ceiling = .GLOBAL ||
    (ceiling = .CAMPUS && candidate ∈ [.OWN, .TEAM])

/-! ### Grants of older catalogues -/

def historicalPilotageScope (grants : Grants) (target : ConfigurationTarget) : PermissionScope :=
  let scope := grants.get .reportingView
  match scope with
  | some .CAMPUS =>
    if target.kind = .CEILING ∨ target.role = some .SUPER_ADMIN then .CAMPUS
    else if target.role = some .MANAGER ∨ target.role = some .ADMIN then .CAMPUS
    else .NONE
  | some .GLOBAL =>
    if target.kind = .CEILING ∨ target.role = some .SUPER_ADMIN then .GLOBAL
    else if target.role = some .MANAGER ∨ target.role = some .ADMIN then .CAMPUS
    else .NONE
  | _ => .NONE

/-- The catalogues a stored version may have been written under. -/
def historicalCatalogues : List (List PermissionKey) :=
  [PermissionKey.keys, PermissionKey.keys.filter fun key => key ≠ .reportingPilotageView].flatMap
    fun base =>
      let version2 := base.filter fun key => key ≠ .telephonyFreeCallCreate
      let beforeViews := version2.filter fun key => key ∉ PermissionKey.viewGrantKeys
      let withoutQualification := filter fun key => key ≠ PermissionKey.leadQualificationUpdate
      [base, withoutQualification base, version2, withoutQualification version2, beforeViews,
        withoutQualification beforeViews]

def isExactCatalogue (grants : Grants) (catalogue : List PermissionKey) : Prop :=
  grants.entries.rows.length = catalogue.length ∧ ∀ key ∈ catalogue, (grants.get key).isSome
deriving Decidable

/-- A scope for every permission, `NONE` where none is given: the value of
`{ ...none, ...value }`. -/
def Grants.complete (grants : Grants) : Grants :=
  .tabulate PermissionKey.keys PermissionKey.nodup_keys grants.scope

def historicalGrants (value : Grants) (target : ConfigurationTarget) : Outcome Grants := do
  require (∃ catalogue ∈ historicalCatalogues, isExactCatalogue value catalogue)
    invalidConfiguration
  let current :=
    if (value.get .reportingPilotageView).isSome then value.complete
    else value.complete.set .reportingPilotageView (historicalPilotageScope value target)
  validateGrants current target
  pure current

/-! ### What is valid is read back -/

variable {target : ConfigurationTarget}

variable {grants : Grants}

theorem validateGrants_ok_iff {u : Unit} :
    validateGrants grants target = .ok u ↔ grants.entries.rows.length = PermissionKey.keys.length ∧
        ∀ e ∈ grants.entries.rows, ValidGrant target e.1 e.2 := by
  simp only [validateGrants, ok_iff, permissionCatalogue, length_map, exists_const]

/-- Valid grants have a scope for every permission: they have as many entries as
the catalogue, and no permission twice. -/
theorem exists_scope_of_valid {u : Unit}
    (h : validateGrants grants target = .ok u) (key : PermissionKey) :
    ∃ scope, grants.get key = some scope ∧ ValidGrant target key scope := by
  obtain ⟨hlen, hvalid⟩ := validateGrants_ok_iff.mp h
  have hsub : (grants.entries.rows.map Prod.fst).Subperm PermissionKey.keys :=
    Nodup.subperm (grants.entries.nodup_keys fun _ => mem_singleton.mpr rfl)
      fun k _ => k.mem_keys
  have hperm := hsub.perm_of_length_le (by rw [length_map, hlen])
  obtain ⟨⟨k, scope⟩, hmem, rfl⟩ := mem_map.mp (hperm.mem_iff.mpr key.mem_keys)
  exact ⟨scope, Dict.get_eq_some.mpr hmem, hvalid _ hmem⟩

theorem get_complete (grants : Grants) (key : PermissionKey) :
    grants.complete.get key = some (grants.scope key) :=
  Dict.get_tabulate PermissionKey.nodup_keys grants.scope key.mem_keys

/-- **Valid grants are read back as they were written**: completing them adds
nothing. -/
theorem historicalGrants_of_valid {u : Unit}
    (h : validateGrants grants target = .ok u) :
    ∃ grants', historicalGrants grants target = .ok grants' ∧
      ∀ key, grants'.get key = grants.get key := by
  have hscope := exists_scope_of_valid h
  obtain ⟨hlen, -⟩ := validateGrants_ok_iff.mp h
  have hexact : ∃ catalogue ∈ historicalCatalogues, isExactCatalogue grants catalogue := by
    refine ⟨PermissionKey.keys, by decide, hlen, fun key _ => ?_⟩
    obtain ⟨scope, hget, -⟩ := hscope key
    simp [hget]
  have hpilotage : (grants.get .reportingPilotageView).isSome := by
    obtain ⟨scope, hget, -⟩ := hscope .reportingPilotageView
    simp [hget]
  have hcomplete : ∀ key, grants.complete.get key = grants.get key := fun key => by
    obtain ⟨scope, hget, -⟩ := hscope key
    simp [get_complete, Grants.scope, hget]
  have hvalid : validateGrants grants.complete target = .ok () := by
    refine validateGrants_ok_iff.mpr ⟨by simp [Grants.complete, Dict.tabulate], ?_⟩
    rintro ⟨key, scope⟩ hmem
    have hget := Dict.get_eq_some.mpr hmem
    obtain ⟨scope', hget', hgrant⟩ := hscope key
    rw [hcomplete, hget'] at hget
    cases hget
    exact hgrant
  refine ⟨grants.complete, ?_, hcomplete⟩
  rw [historicalGrants, require_pos hexact, ok_bind]
  dsimp only
  rw [if_pos hpilotage, hvalid]
  rfl

end CrmYnov.Permissions
