import CrmYnov.Permissions.Narrowing

/-!
# The leads of a collection

A list of leads is filtered by the permission to view them. The filter is computed
for the collection at once: it reads the leads that are stored under a campus text
of the principal (`CrmYnov.Permissions.selects`), resolves the campus of each, and
keeps those that may be viewed. A single lead is read with its own resolution.

Both give a lead the same context, so that a lead the collection reads is in the
filter exactly when it may be viewed alone
(`CrmYnov.Permissions.mem_permissionLeadIds`). They differ in what they read: a
lead that is stored under an alias of the campus may be viewed alone and is not in
the collection, and a collection that reads a lead whose campus does not resolve is
refused as a whole (`CrmYnov.Permissions.permissionLeadIds_ok_iff`).
-/

namespace CrmYnov.Permissions

open Checked References Leads List

/-! ### The context of a resource -/

/-- A row of `team_responsibilities`. -/
structure TeamResponsibilityRow where
  (teamId campusId managerId : String)
  active : Bool

def TeamResponsibilityRow.keys (r : TeamResponsibilityRow) : List (String × String × String) :=
  [(r.teamId, r.campusId, r.managerId)]

abbrev TeamResponsibilities := Table TeamResponsibilityRow TeamResponsibilityRow.keys

/-- `ResourceContext`, as the evaluation reads it. -/
structure ResourceContext where
  campusKeys : List String
  active : Bool
  ownerId : Option String := none
  collaboratorIds : List String := []

variable (rt : Runtime) (db : Database) (responsibilities : TeamResponsibilities)

/-- `managed`: the manager is responsible for the team in the campus. -/
def managed (teamId campusId managerId : String) : Bool :=
  (responsibilities.findUnique (teamId, campusId, managerId)).any TeamResponsibilityRow.active

/-- The team of the owner of a resource, when it is active in its campus. -/
def ownerTeam (resource : ResourceContext) (ownerId : String) : Option String := do
  let assigned ← db.collaborators.findUnique (.id ownerId)
  let campusId ← nonEmpty assigned.campusId
  if assigned.active ∧ campusId ∈ resource.campusKeys then nonEmpty assigned.teamId else none

def evaluateResourceContext (principal : Principal) (resource : ResourceContext) :
    EvaluationContext :=
  let campus := resource.campusKeys.head?.getD GLOBAL_CAMPUS
  let base := campusContext principal campus
  let context := { base with
    campusAllowed := base.campusAllowed ||
      decide (∃ key ∈ resource.campusKeys, Scope.CAMPUS key ∈ principal.scopes)
    active := resource.active
    own := resource.ownerId = some principal.userId || principal.userId ∈ resource.collaboratorIds }
  match nonEmpty resource.ownerId with
  | none => context
  | some ownerId =>
    let team := ownerTeam db resource ownerId
    { context with
      team := team.any fun team => Scope.TEAM team ∈ principal.scopes
      managedTeam := some (team.any fun team =>
        Role.MANAGER ∈ principal.roles && managed responsibilities team campus principal.userId) }

/-! ### One lead -/

def resourceOf (lead : LeadRow) (campus : CanonicalCampus) : ResourceContext where
  campusKeys := campus.keys
  active := true
  ownerId := nonEmpty lead.assignedToId
  collaboratorIds := db.activeCollaborators lead.id

def leadResource (id : String) : Outcome ResourceContext := do
  require (looksLikeId id) permissionDenied
  let lead ← demand (db.lead id) permissionDenied
  let campus ← canonicalCampus rt db.references lead.campus
  pure (resourceOf db lead campus)

/-- The answer to whether a principal may view one lead. -/
def viewable (principal : AuthenticatedPrincipal) (id : String) : Outcome Bool := do
  let rows ← snapshots db
  let resource ← leadResource rt db id
  let decision ← evaluatePermission principal .leadView rows
    (evaluateResourceContext db responsibilities principal.toPrincipal resource)
  pure decision.allowed

/-! ### The collection -/

/-- The leads a collection reads: those stored under a campus text of the
principal, and all of them for a Super Admin. -/
def selects (principal : Principal) (lead : LeadRow) : Prop :=
  Role.SUPER_ADMIN ∈ principal.roles ∨ Scope.CAMPUS lead.campus ∈ principal.scopes
deriving Decidable

def leadContext (principal : Principal) (lead : LeadRow) : Outcome (String × EvaluationContext) := do
  require (looksLikeId lead.id) permissionDenied
  let campus ← canonicalCampus rt db.references lead.campus
  pure (lead.id, evaluateResourceContext db responsibilities principal (resourceOf db lead campus))

def leadCollectionContexts (principal : Principal) : Outcome (List (String × EvaluationContext)) :=
  (db.leads.findMany (selects principal)).mapM (leadContext rt db responsibilities principal)

def principalCampuses (principal : Principal) : List String :=
  if Role.SUPER_ADMIN ∈ principal.roles then
    (db.references.references.findMany fun r => r.kind = .CAMPUS ∧ r.state = .ACTIVE).map
      CrmReference.id
  else principal.scopes.filterMap fun
    | .CAMPUS id => some id
    | _ => none

/-- `routeContexts`, for a list of leads and the campus its request asks for. -/
def routeContexts (principal : Principal) (requested : Option String) :
    Outcome (List EvaluationContext) :=
  let campuses := match nonEmpty requested with
    | some campus => [campus]
    | none => principalCampuses db principal
  if campuses = [] then pure [campusContext principal GLOBAL_CAMPUS]
  else (unique campuses).mapM fun value => do
    let campus ← canonicalCampus rt db.references value
    pure (evaluateResourceContext db responsibilities principal {
      campusKeys := campus.keys, active := true })

def EvaluationContext.widest (context : EvaluationContext) : EvaluationContext :=
  { context with own := true, team := true, managedTeam := some true }

def collectionDecision (principal : AuthenticatedPrincipal) (rows : List ConfigurationSnapshot)
    (resource : String × EvaluationContext) : Outcome (String × Bool) := do
  let decision ← evaluatePermission principal .leadView rows resource.2
  pure (resource.1, decision.allowed)

/-- `filterLeadCollection`: the identifiers a list of leads is filtered by. -/
def permissionLeadIds (principal : AuthenticatedPrincipal) (requested : Option String) :
    Outcome (List String) := do
  let rows ← snapshots db
  let contexts ← routeContexts rt db responsibilities principal.toPrincipal requested
  let entry ← contexts.anyM fun context => do
    let decision ← evaluatePermission principal .leadView rows context.widest
    pure decision.allowed
  require entry permissionDenied
  let resources ← leadCollectionContexts rt db responsibilities principal.toPrincipal
  let decisions ← resources.mapM (collectionDecision principal rows)
  pure ((decisions.filter Prod.snd).map Prod.fst)

/-! ### The collection and the single leads -/

variable {rt : Runtime} {db : Database} {responsibilities : TeamResponsibilities}
  {principal : AuthenticatedPrincipal} {requested : Option String}

variable {lead : LeadRow}

theorem selects_findMany :
    lead ∈ db.leads.findMany (selects principal.toPrincipal) ↔
      lead ∈ db.leads.rows ∧ selects principal.toPrincipal lead :=
  Table.mem_findMany

/-- **One resolution**: a stored lead is resolved alone as it is in a collection. -/
theorem leadContext_eq (hlead : lead ∈ db.leads.rows) :
    leadContext rt db responsibilities principal.toPrincipal lead =
      (leadResource rt db lead.id).map fun resource =>
        (lead.id, evaluateResourceContext db responsibilities principal.toPrincipal resource) := by
  have hstored : db.lead lead.id = some lead := Database.lead_eq_some.mpr ⟨hlead, rfl⟩
  rw [leadContext, leadResource, hstored]
  by_cases hid : looksLikeId lead.id = true
  · rw [require_pos hid, ok_bind, ok_bind, demand_some, ok_bind]
    cases canonicalCampus rt db.references lead.campus with
    | ok campus => rfl
    | error e => rfl
  · rw [require_neg hid]
    rfl

theorem viewable_ok_iff {id : String} {b : Bool} :
    viewable rt db responsibilities principal id = .ok b ↔
      ∃ rows, snapshots db = .ok rows ∧ ∃ resource, leadResource rt db id = .ok resource ∧
        ∃ decision, evaluatePermission principal .leadView rows
          (evaluateResourceContext db responsibilities principal.toPrincipal resource) =
            .ok decision ∧ decision.allowed = b := by
  simp only [viewable, ok_iff]

theorem permissionLeadIds_ok {ids : List String}
    (h : permissionLeadIds rt db responsibilities principal requested = .ok ids) :
    ∃ rows resources decisions, snapshots db = .ok rows ∧
      leadCollectionContexts rt db responsibilities principal.toPrincipal = .ok resources ∧
      resources.mapM (collectionDecision principal rows) = .ok decisions ∧
      ∀ id, id ∈ ids ↔ (id, true) ∈ decisions := by
  simp only [permissionLeadIds, ok_iff] at h
  obtain ⟨rows, hrows, -, -, -, -, -, -, resources, hresources, decisions, hdecisions, rfl⟩ := h
  exact ⟨rows, resources, decisions, hrows, hresources, hdecisions, fun id => by simp⟩

/-- **A lead belongs to the collection** exactly when the collection reads it and the
lead may be viewed alone. -/
theorem mem_permissionLeadIds {ids : List String}
    (h : permissionLeadIds rt db responsibilities principal requested = .ok ids)
    (hlead : lead ∈ db.leads.rows) :
    lead.id ∈ ids ↔ selects principal.toPrincipal lead ∧
      viewable rt db responsibilities principal lead.id = .ok true := by
  obtain ⟨rows, resources, decisions, hrows, hresources, hdecisions, hids⟩ := permissionLeadIds_ok h
  rw [hids, viewable_ok_iff]
  rw [leadCollectionContexts] at hresources
  constructor
  · intro hmem
    obtain ⟨⟨id, context⟩, hcontext, hdec⟩ := exists_of_mem_mapM hdecisions hmem
    simp only [collectionDecision, ok_iff] at hdec
    obtain ⟨decision, hdec, rfl, hallow⟩ := hdec
    obtain ⟨lead', hlead', hleadContext⟩ := exists_of_mem_mapM hresources hcontext
    obtain ⟨hstored, hselects⟩ := selects_findMany.mp hlead'
    rw [leadContext_eq hstored] at hleadContext
    cases hresource : leadResource rt db lead'.id with
    | error e => rw [hresource] at hleadContext; cases hleadContext
    | ok resource =>
      rw [hresource] at hleadContext
      obtain ⟨hid, rfl⟩ := Prod.mk.inj (Except.ok.inj hleadContext)
      -- an identifier names one stored lead
      obtain rfl : lead' = lead := db.leads.eq_of_key hstored hlead
        (LeadRow.mem_keys_id.mpr hid) (LeadRow.mem_keys_id.mpr rfl)
      exact ⟨hselects, rows, hrows, resource, hresource, decision, hdec, hallow⟩
  · rintro ⟨hselects, rows', hrows', resource, hresource, decision, hdec, hallow⟩
    obtain rfl := Except.ok.inj (hrows.symm.trans hrows')
    have hcontext : leadContext rt db responsibilities principal.toPrincipal lead = _ :=
      leadContext_eq hlead
    rw [hresource] at hcontext
    obtain ⟨context, hmem, hleadContext⟩ :=
      exists_of_mapM hresources (selects_findMany.mpr ⟨hlead, hselects⟩)
    obtain rfl := Except.ok.inj (hleadContext.symm.trans hcontext)
    obtain ⟨d, hmemd, hd⟩ := exists_of_mapM hdecisions hmem
    simp only [collectionDecision, hdec, ok_bind] at hd
    cases hd
    rw [hallow] at hmemd
    exact hmemd

/-! ### When a collection is computed -/

section Total

variable {rows : List ConfigurationSnapshot}

theorem resolveGrants_returns
    (hrows : (rows.map fun row => configurationKey row.toConfigurationTarget).Nodup)
    (target : ConfigurationTarget) : ∃ grants, resolveGrants rows target = .ok grants := by
  rw [resolveGrants]
  have hfilter : (((rows.filter fun row => configurationKey row.toConfigurationTarget =
      configurationKey target)).map fun row => configurationKey row.toConfigurationTarget).Nodup :=
    hrows.sublist (filter_sublist.map _)
  have hkey : ∀ row ∈ rows.filter fun row => configurationKey row.toConfigurationTarget =
      configurationKey target, configurationKey row.toConfigurationTarget = configurationKey target :=
    fun row hrow => of_decide_eq_true (mem_filter.mp hrow).2
  split
  · exact ⟨_, rfl⟩
  · exact ⟨_, rfl⟩
  · rename_i l hnil hone
    -- two of them would have the key of the target
    rcases hl : rows.filter _ with _ | ⟨row, _ | ⟨row', rest⟩⟩
    · exact absurd hl hnil
    · exact absurd hl (hone row)
    · rw [hl] at hfilter hkey
      simp only [map_cons, nodup_cons, mem_cons, not_or] at hfilter
      exact absurd ((hkey row (by simp)).trans (hkey row' (by simp)).symm) hfilter.1.1

theorem evaluatePermission_returns
    (hrows : (rows.map fun row => configurationKey row.toConfigurationTarget).Nodup)
    (key : PermissionKey) (context : EvaluationContext) :
    ∃ decision, evaluatePermission principal key rows context = .ok decision := by
  have hexplain : ∀ context : EvaluationContext, ∃ sources,
      (unique principal.roles).mapM (fun role => explainRole role key rows context) = .ok sources :=
    fun context => mapM_returns_iff.mpr fun role _ => by
      obtain ⟨source, hsource⟩ := resolveGrants_returns hrows ⟨.ROLE, some role, GLOBAL_CAMPUS⟩
      obtain ⟨ceiling, hceiling⟩ := resolveGrants_returns hrows ⟨.CEILING, none, GLOBAL_CAMPUS⟩
      obtain ⟨grants, hgrants⟩ := resolveGrants_returns hrows ⟨.CEILING, none, context.campus⟩
      have hcampus : ∃ scope, resolveCampusCeiling rows key context.campus = .ok scope := by
        rw [resolveCampusCeiling]
        split
        · exact ⟨_, rfl⟩
        · exact ⟨_, by rw [hgrants]; rfl⟩
      obtain ⟨scope, hscope⟩ := hcampus
      exact ⟨_, bind_ok_iff.mpr ⟨source, hsource, bind_ok_iff.mpr ⟨ceiling, hceiling,
        bind_ok_iff.mpr ⟨scope, hscope, rfl⟩⟩⟩⟩
  rw [evaluatePermission]
  split
  · exact ⟨_, rfl⟩
  · split
    · obtain ⟨sources, hsources⟩ := hexplain _
      exact ⟨_, bind_ok_iff.mpr ⟨sources, hsources, rfl⟩⟩
    · obtain ⟨sources, hsources⟩ := hexplain context
      exact ⟨_, bind_ok_iff.mpr ⟨sources, hsources, rfl⟩⟩

theorem snapshots_nodup (h : snapshots db = .ok rows) :
    (rows.map fun row => configurationKey row.toConfigurationTarget).Nodup := by
  obtain ⟨hids, hkeys⟩ := snapshots_ids h
  have hsame : (rows.map fun row => configurationKey row.toConfigurationTarget) =
      rows.map ConfigurationSnapshot.id := map_congr_left hkeys
  rw [hsame, hids]
  exact db.rolePermissionConfigurations.nodup_keys fun _ => mem_singleton.mpr rfl

end Total

/-- The lead can be resolved: it has an identifier, and its campus is known and
active. -/
def Resolves (rt : Runtime) (db : Database) (lead : LeadRow) : Prop :=
  looksLikeId lead.id = true ∧ ∃ campus, canonicalCampus rt db.references lead.campus = .ok campus

/-- The campuses of the request are known, and the leads of one of them may be viewed
in the widest case. -/
def EntryAllowed (rt : Runtime) (db : Database) (responsibilities : TeamResponsibilities)
    (principal : AuthenticatedPrincipal) (requested : Option String)
    (rows : List ConfigurationSnapshot) : Prop :=
  ∃ contexts, routeContexts rt db responsibilities principal.toPrincipal requested = .ok contexts ∧
    ∃ context ∈ contexts, granted principal .leadView rows context.widest = true

/-- **A collection is computed or refused as a whole**: every lead it reads must
resolve. -/
theorem permissionLeadIds_ok_iff :
    (∃ ids, permissionLeadIds rt db responsibilities principal requested = .ok ids) ↔
      ∃ rows, snapshots db = .ok rows ∧
        EntryAllowed rt db responsibilities principal requested rows ∧
        ∀ lead ∈ db.leads.rows, selects principal.toPrincipal lead → Resolves rt db lead := by
  have hlead : ∀ lead, Resolves rt db lead ↔
      ∃ resource, leadContext rt db responsibilities principal.toPrincipal lead = .ok resource :=
    fun lead => by
      simp only [Resolves, leadContext, ok_iff]
      constructor
      · rintro ⟨hid, campus, hcampus⟩
        exact ⟨_, (), hid, campus, hcampus, rfl⟩
      · rintro ⟨-, -, hid, campus, hcampus, -⟩
        exact ⟨hid, campus, hcampus⟩
  have hcontexts : (∃ resources,
        leadCollectionContexts rt db responsibilities principal.toPrincipal = .ok resources) ↔
      ∀ lead ∈ db.leads.rows, selects principal.toPrincipal lead → Resolves rt db lead := by
    rw [leadCollectionContexts, mapM_returns_iff]
    simp only [selects_findMany, hlead, and_imp]
  constructor
  · rintro ⟨ids, h⟩
    simp only [permissionLeadIds, ok_iff] at h
    obtain ⟨rows, hrows, contexts, hroute, entry, hentry, -, rfl, resources, hresources, -⟩ := h
    obtain ⟨context, hcontext, hdec⟩ := exists_of_anyM hentry
    simp only [ok_iff] at hdec
    exact ⟨rows, hrows, ⟨contexts, hroute, context, hcontext, granted_iff.mpr hdec⟩,
      hcontexts.mp ⟨resources, hresources⟩⟩
  · rintro ⟨rows, hrows, ⟨contexts, hroute, context, hcontext, hgranted⟩, hall⟩
    have hkeys := snapshots_nodup hrows
    obtain ⟨resources, hresources⟩ := hcontexts.mpr hall
    obtain ⟨decisions, hdecisions⟩ : ∃ decisions,
        resources.mapM (collectionDecision principal rows) = .ok decisions :=
      mapM_returns_iff.mpr fun resource _ => by
        obtain ⟨decision, hdec⟩ : ∃ decision,
            evaluatePermission principal .leadView rows resource.2 = .ok decision :=
          evaluatePermission_returns hkeys .leadView resource.2
        exact ⟨_, bind_ok_iff.mpr ⟨decision, hdec, rfl⟩⟩
    have hentry : (contexts.anyM fun context => do
        let decision ← evaluatePermission principal .leadView rows context.widest
        pure decision.allowed) = .ok true := by
      refine anyM_of_exists (fun context _ => ?_) ⟨context, hcontext, ?_⟩
      · obtain ⟨decision, hdec⟩ : ∃ decision,
            evaluatePermission principal .leadView rows context.widest = .ok decision :=
          evaluatePermission_returns hkeys .leadView context.widest
        exact ⟨_, bind_ok_iff.mpr ⟨decision, hdec, rfl⟩⟩
      · obtain ⟨decision, hdec, hallow⟩ := granted_iff.mp hgranted
        exact bind_ok_iff.mpr ⟨decision, hdec, pure_ok_iff.mpr hallow⟩
    exact ⟨(decisions.filter Prod.snd).map Prod.fst, by
      simp only [permissionLeadIds, hrows, hroute, hentry, hresources, hdecisions, ok_bind,
        require_pos]
      rfl⟩

theorem viewable_congr {leads : Table LeadRow LeadRow.keys} (h : lead ∈ db.leads.rows)
    (h' : lead ∈ leads.rows) :
    viewable rt { db with leads } responsibilities principal lead.id =
      viewable rt db responsibilities principal lead.id := by
  have hstored : db.lead lead.id = some lead := Database.lead_eq_some.mpr ⟨h, rfl⟩
  have hstored' : ({ db with leads } : Database).lead lead.id = some lead :=
    Database.lead_eq_some.mpr ⟨h', rfl⟩
  rw [viewable, viewable, leadResource, leadResource, hstored, hstored']
  rfl

section Example

/-- An active campus and an archived one; the first has an alias. -/
def exampleReferences : Store where
  references := .ofRows [
    ⟨"00000000-0000-4000-8000-000000000001", .CAMPUS, "PARIS", "Paris", "GLOBAL", .ACTIVE⟩,
    ⟨"00000000-0000-4000-8000-000000000002", .CAMPUS, "LYON", "Lyon", "GLOBAL", .ARCHIVED⟩]
  keys := .ofRows [
    ⟨"00000000-0000-4000-8000-000000000001", .CAMPUS, "GLOBAL", "PARIS"⟩,
    ⟨"00000000-0000-4000-8000-000000000001", .CAMPUS, "GLOBAL", "IDF"⟩,
    ⟨"00000000-0000-4000-8000-000000000002", .CAMPUS, "GLOBAL", "LYON"⟩]
  availability := .empty

def exampleLead (id campus : String) : LeadRow where
  id
  leadCode := id
  firstName := "Ada"
  lastName := "Martin"
  campus
  campaign := ""
  educationLevel := ""
  program := ""
  source := ""
  createdAt := 0

def aliasLead : LeadRow := exampleLead "00000000-0000-4000-8000-00000000000a" "IDF"

def plainLead : LeadRow := exampleLead "00000000-0000-4000-8000-00000000000b" "PARIS"

def archivedLead : LeadRow := exampleLead "00000000-0000-4000-8000-00000000000c" "LYON"

def exampleLeads (leads : List LeadRow) : Database where
  references := exampleReferences
  leads := .ofRows leads

/-- A manager of the active campus, as a transaction reads it. -/
def campusManager : AuthenticatedPrincipal where
  userId := "user-1"
  roles := [.MANAGER]
  scopes := [.CAMPUS "00000000-0000-4000-8000-000000000001", .CAMPUS "PARIS", .CAMPUS "Paris"]
  sessionId := "session-1"

def superAdmin : AuthenticatedPrincipal where
  userId := "user-2"
  roles := [.SUPER_ADMIN]
  scopes := [.GLOBAL]
  sessionId := "session-2"

end Example

end CrmYnov.Permissions
