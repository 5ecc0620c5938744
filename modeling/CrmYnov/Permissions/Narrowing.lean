import CrmYnov.Permissions.Administration

/-!
# Narrower configurations

A scope that is within another one includes no more resources. A decision asks of
the scope of a role, of the two ceilings above it and of the row of its campus
that they all include the resource, so narrower configurations grant no more
(`CrmYnov.Permissions.granted_of_narrows`) when they replace stored ones
(`CrmYnov.Permissions.narrows_of_forall₂`).

The configurations of campuses are themselves a narrowing, of the configurations
that remain without them: a ceiling that is stored for a campus is valid there, so
it is within the ceiling every campus has by default, and the row of a role is one
more scope to include the resource. Hence no run of saves and restores leaves a
campus that grants more than the global configurations
(`CrmYnov.Permissions.campuses_restrict`).
-/

namespace CrmYnov.Permissions

open Checked Users PermissionKey List

variable {rows rows' : List ConfigurationSnapshot}

/-! ### Scopes -/

@[simp] theorem scopeWithin_refl (scope : PermissionScope) : scopeWithin scope scope = true := by
  simp [scopeWithin]

variable {context : EvaluationContext}

/-- **A scope includes what the scopes within it include.** -/
theorem includesResource_of_within {candidate scope : PermissionScope} {role : Role}
    (h : scopeWithin candidate scope = true)
    (hincludes : includesResource candidate context role = true) :
    includesResource scope context role = true := by
  cases candidate <;> cases scope <;> simp_all [scopeWithin, includesResource]

variable {key : PermissionKey}

/-- **A ceiling that is valid for a campus** is within the one it has by default. -/
theorem within_default {campus : String} (hcampus : campus ≠ GLOBAL_CAMPUS)
    {scope : PermissionScope} (h : ValidGrant ⟨.CEILING, none, campus⟩ key scope) :
    scopeWithin scope (defaultScope ⟨.CEILING, none, campus⟩ key) = true := by
  obtain ⟨hscopes, -, hglobal, hreserved⟩ := h
  by_cases havailable : (definition key).available = true
  · have hdefault : defaultScope ⟨.CEILING, none, campus⟩ key =
        if (definition key).reserved then .NONE else .CAMPUS := by
      simp [defaultScope, havailable, hcampus]
    rw [hdefault]
    split
    · rename_i hr
      obtain rfl : scope = .NONE := by_contra fun hc => hreserved ⟨hr, hcampus, hc⟩
      rfl
    · have hne : scope ≠ .GLOBAL := fun hc => hglobal ⟨hcampus, hc⟩
      cases scope <;> first | rfl | exact absurd rfl hne
  · have hkey : key ∈ unavailable := by simpa [definition] using havailable
    obtain rfl : scope = .NONE := by simpa [definition, hkey] using hscopes
    rfl

/-! ### Narrower configurations -/

/-- What is stored for a permission under a target, if something is. -/
def storedScope (rows : List ConfigurationSnapshot) (target : ConfigurationTarget)
    (key : PermissionKey) : Option PermissionScope :=
  (rows.filter fun row =>
    configurationKey row.toConfigurationTarget = configurationKey target).head?.bind fun row =>
      row.grants.get key

/-- What a target leads to, stored or by default, is narrower among `rows'` than
among `rows`. -/
def NarrowsAt (rows' rows : List ConfigurationSnapshot) (target : ConfigurationTarget) : Prop :=
  ∀ grants', resolveGrants rows' target = .ok grants' →
    ∃ grants, resolveGrants rows target = .ok grants ∧
      ∀ key, scopeWithin (grants'.scope key) (grants.scope key) = true

/-- The configurations `rows'` are narrower than `rows`: the roles and the ceilings
have narrower scopes, and what is stored for a role in a campus is still there, and
narrower. -/
structure Narrows (rows' rows : List ConfigurationSnapshot) : Prop where
  source : ∀ role, NarrowsAt rows' rows ⟨.ROLE, some role, GLOBAL_CAMPUS⟩
  ceiling : ∀ campus, NarrowsAt rows' rows ⟨.CEILING, none, campus⟩
  campusRow : ∀ role campus key scope, storedScope rows ⟨.ROLE, some role, campus⟩ key = some scope →
    ∃ scope', storedScope rows' ⟨.ROLE, some role, campus⟩ key = some scope' ∧
      scopeWithin scope' scope = true

theorem narrowsAt_of_eq {target : ConfigurationTarget}
    (h : resolveGrants rows' target = resolveGrants rows target) : NarrowsAt rows' rows target :=
  fun grants' hgrants' => ⟨grants', h ▸ hgrants', fun _ => scopeWithin_refl _⟩

structure Narrowed (row' row : ConfigurationSnapshot) : Prop where
  target : row'.toConfigurationTarget = row.toConfigurationTarget
  grants : ∀ key, Option.Rel (fun scope' scope => scopeWithin scope' scope = true)
    (row'.grants.get key) (row.grants.get key)

theorem Narrowed.scope {row' row : ConfigurationSnapshot} (h : Narrowed row' row)
    (key : PermissionKey) : scopeWithin (row'.grants.scope key) (row.grants.scope key) = true := by
  have hkey := h.grants key
  rw [Grants.scope, Grants.scope]
  generalize row'.grants.get key = scope', row.grants.get key = scope at hkey ⊢
  cases hkey with
  | some hwithin => exact hwithin
  | none => rfl

/-- **Scopes that are replaced by narrower ones** make the configurations narrower. -/
theorem narrows_of_forall₂ (h : Forall₂ Narrowed rows' rows) : Narrows rows' rows := by
  -- the configurations of a key are on both sides, in the same order
  have hfilter : ∀ target : ConfigurationTarget, ∃ l' l, Forall₂ Narrowed l' l ∧
      (rows'.filter fun row => configurationKey row.toConfigurationTarget =
        configurationKey target) = l' ∧
      (rows.filter fun row => configurationKey row.toConfigurationTarget =
        configurationKey target) = l := fun target =>
    ⟨_, _, rel_filter (fun row' row hrow => by simp [hrow.target]) h, rfl, rfl⟩
  have hat : ∀ target, NarrowsAt rows' rows target := fun target grants' hgrants' => by
    obtain ⟨l', l, hall, hl', hl⟩ := hfilter target
    rw [resolveGrants, hl'] at hgrants'
    rw [resolveGrants, hl]
    cases hall with
    | nil => exact ⟨grants', hgrants', fun _ => scopeWithin_refl _⟩
    | @cons row' row _ _ hrow hrest =>
      cases hrest with
      | nil =>
        cases hgrants'
        exact ⟨row.grants, rfl, hrow.scope⟩
      | cons => cases hgrants'
  refine ⟨fun role => hat _, fun campus => hat _, fun role campus key scope hscope => ?_⟩
  obtain ⟨l', l, hall, hl', hl⟩ := hfilter ⟨.ROLE, some role, campus⟩
  rw [storedScope, hl] at hscope
  rw [storedScope, hl']
  cases hall with
  | nil => cases hscope
  | @cons row' row _ _ hrow hrest =>
    have hkey := hrow.grants key
    simp only [head?_cons, Option.bind_some] at hscope ⊢
    rw [hscope] at hkey
    cases hget : row'.grants.get key with
    | none => rw [hget] at hkey; cases hkey
    | some scope' =>
      rw [hget] at hkey
      cases hkey with
      | some hwithin => exact ⟨scope', rfl, hwithin⟩

/-! ### What is granted -/

def granted (principal : AuthenticatedPrincipal) (key : PermissionKey)
    (rows : List ConfigurationSnapshot) (context : EvaluationContext) : Bool :=
  match evaluatePermission principal key rows context with
  | .ok decision => decision.allowed
  | .error _ => false

theorem granted_iff {principal : AuthenticatedPrincipal} :
    granted principal key rows context = true ↔
      ∃ decision, evaluatePermission principal key rows context = .ok decision ∧
        decision.allowed = true := by
  rw [granted]
  cases evaluatePermission principal key rows context with
  | ok decision => simp
  | error e => simp

theorem explainRole_source {role : Role} {e : GrantExplanation}
    (h : explainRole role key rows context = .ok e) :
    e.role = role ∧ ∃ source, resolveGrants rows ⟨.ROLE, some role, GLOBAL_CAMPUS⟩ = .ok source ∧
      e.sourceScope = source.scope key := by
  simp only [explainRole, ok_iff] at h
  obtain ⟨source, hsource, -, -, -, -, rfl⟩ := h
  exact ⟨rfl, source, hsource, rfl⟩

/-- **One role**: what it is allowed under narrower configurations it is allowed. -/
theorem explainRole_narrows (h : Narrows rows' rows) {role : Role} {e' : GrantExplanation}
    (he : explainRole role key rows' context = .ok e') :
    ∃ e, explainRole role key rows context = .ok e ∧ (e'.allowed = true → e.allowed = true) := by
  simp only [explainRole, ok_iff] at he
  obtain ⟨source', hsource', ceiling', hceiling', campusCeiling', hcampus', rfl⟩ := he
  obtain ⟨source, hsource, hwithin⟩ := h.source role _ hsource'
  obtain ⟨ceiling, hceiling, hwithin₁⟩ := h.ceiling GLOBAL_CAMPUS _ hceiling'
  have hcampusCeiling : ∃ campusCeiling, resolveCampusCeiling rows key context.campus =
      .ok campusCeiling ∧ scopeWithin campusCeiling' campusCeiling = true := by
    rw [resolveCampusCeiling] at hcampus' ⊢
    split at hcampus'
    · rename_i hglobal
      cases hcampus'
      exact ⟨_, by rw [if_pos hglobal]; rfl, rfl⟩
    · rename_i hcampus
      rw [if_neg hcampus]
      cases hgrants' : resolveGrants rows' ⟨.CEILING, none, context.campus⟩ with
      | error e => simp [hgrants', Except.map] at hcampus'
      | ok grants' =>
        obtain ⟨grants, hgrants, hscope⟩ := h.ceiling context.campus _ hgrants'
        obtain rfl : grants'.scope key = campusCeiling' := by
          simpa [hgrants', Except.map] using hcampus'
        exact ⟨grants.scope key, by rw [hgrants]; rfl, hscope key⟩
  obtain ⟨campusCeiling, hcampus, hwithin₂⟩ := hcampusCeiling
  -- a campus without a row follows the scope of the role
  have hgrant : includesResource ((storedScope rows' ⟨.ROLE, some role, context.campus⟩ key).getD
        (source'.scope key)) context role = true →
      includesResource (source'.scope key) context role = true →
      includesResource ((storedScope rows ⟨.ROLE, some role, context.campus⟩ key).getD
        (source.scope key)) context role = true := fun hstored hrole => by
    cases hscope : storedScope rows ⟨.ROLE, some role, context.campus⟩ key with
    | none => exact includesResource_of_within (hwithin key) hrole
    | some scope =>
      obtain ⟨scope', hscope', hwithin₃⟩ := h.campusRow role context.campus key scope hscope
      rw [hscope'] at hstored
      exact includesResource_of_within hwithin₃ hstored
  refine ⟨_, bind_ok_iff.mpr ⟨source, hsource, bind_ok_iff.mpr ⟨ceiling, hceiling,
    bind_ok_iff.mpr ⟨campusCeiling, hcampus, rfl⟩⟩⟩, ?_⟩
  simp only [Bool.and_eq_true, all_cons, all_nil, Bool.and_true]
  rintro ⟨⟨hs, hc, hcc, hg⟩, hrestriction⟩
  exact ⟨⟨includesResource_of_within (hwithin key) hs, includesResource_of_within (hwithin₁ key) hc,
    includesResource_of_within hwithin₂ hcc, hgrant hg hs⟩, hrestriction⟩

/-- **Narrower configurations grant no more**: what is denied for a principal and a
resource is denied when scopes of roles, of ceilings and of campuses are made
narrower. The view of the audit is apart, because there a role that loses its scope
no longer has to agree. -/
theorem granted_of_narrows (h : Narrows rows' rows) {key : PermissionKey} (hkey : key ≠ .auditView)
    (principal : AuthenticatedPrincipal) (context : EvaluationContext)
    (hgranted : granted principal key rows' context = true) :
    granted principal key rows context = true := by
  rw [granted_iff] at hgranted ⊢
  obtain ⟨decision, hdec, hallow⟩ := hgranted
  rw [evaluatePermission] at hdec ⊢
  split at hdec
  · cases hdec
    cases hallow
  · rename_i hknown
    simp only [ok_iff] at hdec
    obtain ⟨sources', hsources', rfl⟩ := hdec
    obtain ⟨sources, hsources, hall⟩ := exists_mapM_of_rel
      (R := fun e' e : GrantExplanation => e'.allowed = true → e.allowed = true)
      (fun role e' he => explainRole_narrows h he) hsources'
    obtain ⟨e', he', hallow⟩ := any_eq_true.mp hallow
    obtain ⟨e, he, himp⟩ := exists_of_forall₂ hall he'
    rw [if_neg hknown, if_neg hkey, hsources]
    exact ⟨_, rfl, any_eq_true.mpr ⟨e, he, himp hallow⟩⟩

section Example

def exampleGrants (scope : PermissionScope) : Grants :=
  .tabulate keys nodup_keys fun key =>
    if scope ∈ (definition key).scopes then scope else .NONE

def exampleCeiling (scope : PermissionScope) : ConfigurationSnapshot where
  kind := .CEILING
  role := none
  campus := GLOBAL_CAMPUS
  id := "CEILING:*:GLOBAL"
  version := 1
  grants := exampleGrants scope

/-- A manager, and a resource of another one in the same campus. -/
def exampleManager : AuthenticatedPrincipal where
  userId := "user-1"
  roles := [.MANAGER]
  scopes := [.CAMPUS "campus-1"]
  sessionId := "session-1"

theorem narrows_example : Narrows [exampleCeiling .CAMPUS] [exampleCeiling .GLOBAL] := by
  refine narrows_of_forall₂ (.cons ⟨rfl, fun key => ?_⟩ .nil)
  rw [exampleCeiling, exampleCeiling, exampleGrants, exampleGrants,
    Dict.get_tabulate nodup_keys _ key.mem_keys,
    Dict.get_tabulate nodup_keys _ key.mem_keys]
  exact .some (by cases key <;> decide)

theorem granted_of_narrows_ceiling :
    let context := campusContext exampleManager.toPrincipal "campus-1"
    granted exampleManager .leadView [exampleCeiling .CAMPUS] context = true ∧
      granted exampleManager .leadView [exampleCeiling .GLOBAL] context = true :=
  ⟨by decide +kernel,
    granted_of_narrows narrows_example (by decide) exampleManager _ (by decide +kernel)⟩

end Example

/-! ### Campuses -/

def withoutCampuses (rows : List ConfigurationSnapshot) : List ConfigurationSnapshot :=
  rows.filter fun row => row.campus = GLOBAL_CAMPUS

theorem filter_withoutCampuses (target : ConfigurationTarget) (h : target.campus = GLOBAL_CAMPUS) :
    ((withoutCampuses rows).filter fun row =>
      configurationKey row.toConfigurationTarget = configurationKey target) =
    rows.filter fun row => configurationKey row.toConfigurationTarget = configurationKey target := by
  rw [withoutCampuses, filter_filter]
  refine filter_congr fun row _ => ?_
  by_cases hkey : configurationKey row.toConfigurationTarget = configurationKey target
  · have hcampus : row.campus = GLOBAL_CAMPUS := by rw [configurationKey_inj hkey, h]
    simp [hkey, hcampus]
  · simp [hkey]

theorem filter_withoutCampuses_campus (target : ConfigurationTarget)
    (h : target.campus ≠ GLOBAL_CAMPUS) :
    ((withoutCampuses rows).filter fun row =>
      configurationKey row.toConfigurationTarget = configurationKey target) = [] := by
  rw [withoutCampuses, filter_filter, filter_eq_nil_iff]
  intro row _ hrow
  obtain ⟨hkey, hcampus⟩ : configurationKey row.toConfigurationTarget = configurationKey target ∧
      row.campus = GLOBAL_CAMPUS := by simpa using hrow
  exact h (configurationKey_inj hkey ▸ hcampus)

theorem scope_defaultConfiguration (target : ConfigurationTarget) (key : PermissionKey) :
    (defaultConfiguration target).scope key = defaultScope target key := by
  rw [Grants.scope, defaultConfiguration, Dict.get_tabulate nodup_keys _ key.mem_keys]
  rfl

/-- **The configurations of campuses narrow the others**, when they are valid. -/
theorem narrows_withoutCampuses
    (hvalid : ∀ row ∈ rows, validateGrants row.grants row.toConfigurationTarget = .ok ()) :
    Narrows rows (withoutCampuses rows) := by
  have hglobal : ∀ target : ConfigurationTarget, target.campus = GLOBAL_CAMPUS →
      resolveGrants rows target = resolveGrants (withoutCampuses rows) target :=
    fun target h => by rw [resolveGrants, resolveGrants, filter_withoutCampuses target h]
  refine ⟨fun role => narrowsAt_of_eq (hglobal _ rfl), fun campus => ?_,
    fun role campus key scope hscope => ?_⟩
  · by_cases hcampus : campus = GLOBAL_CAMPUS
    · exact narrowsAt_of_eq (hglobal _ hcampus)
    -- above a campus there remains the default ceiling
    intro grants' hgrants'
    refine ⟨defaultConfiguration ⟨.CEILING, none, campus⟩, ?_, fun key => ?_⟩
    · rw [resolveGrants, filter_withoutCampuses_campus _ hcampus]
      rfl
    rw [scope_defaultConfiguration]
    rw [resolveGrants] at hgrants'
    split at hgrants'
    · cases hgrants'
      rw [scope_defaultConfiguration, scopeWithin_refl]
    · rename_i row hrow
      cases hgrants'
      obtain ⟨hmem, hkey⟩ := mem_filter.mp (hrow ▸ mem_singleton_self row)
      have htarget := configurationKey_inj (of_decide_eq_true hkey)
      obtain ⟨scope, hget, hgrant⟩ := exists_scope_of_valid (hvalid row hmem) key
      rw [Grants.scope, hget]
      exact within_default hcampus (htarget ▸ hgrant)
    · cases hgrants'
  · by_cases hcampus : campus = GLOBAL_CAMPUS
    · refine ⟨scope, ?_, scopeWithin_refl scope⟩
      rw [storedScope, ← filter_withoutCampuses ⟨.ROLE, some role, campus⟩ hcampus]
      exact hscope
    · rw [storedScope, filter_withoutCampuses_campus ⟨.ROLE, some role, campus⟩ hcampus]
        at hscope
      cases hscope

/-- **What is granted with the configurations of campuses is granted without them**:
the view of the audit too, because the scopes of the roles are not those of a
campus. -/
theorem granted_withoutCampuses
    (hvalid : ∀ row ∈ rows, validateGrants row.grants row.toConfigurationTarget = .ok ())
    (principal : AuthenticatedPrincipal) (key : PermissionKey) (context : EvaluationContext)
    (hgranted : granted principal key rows context = true) :
    granted principal key (withoutCampuses rows) context = true := by
  have hnarrows := narrows_withoutCampuses hvalid
  by_cases hkey : key = .auditView
  · subst hkey
    rw [granted_iff] at hgranted ⊢
    obtain ⟨decision, hdec, hallow⟩ := hgranted
    rw [evaluatePermission] at hdec ⊢
    split at hdec
    · cases hdec
      cases hallow
    rename_i hknown
    simp only [if_pos, ok_iff] at hdec
    obtain ⟨sources', hsources', rfl⟩ := hdec
    rw [if_neg hknown, if_pos rfl]
    obtain ⟨sources, hsources, hall⟩ := exists_mapM_of_rel
      (R := fun e' e : GrantExplanation => (e'.role = e.role ∧ e'.sourceScope = e.sourceScope) ∧
        (e'.allowed = true → e.allowed = true))
      (fun role e' he' => by
        obtain ⟨e, he, himp⟩ := explainRole_narrows hnarrows he'
        obtain ⟨hrole', source', hsource', hscope'⟩ := explainRole_source he'
        obtain ⟨hrole, source, hsource, hscope⟩ := explainRole_source he
        have hsame : source' = source := by
          have hfilter := @filter_withoutCampuses rows ⟨.ROLE, some role, GLOBAL_CAMPUS⟩ rfl
          rw [resolveGrants, ← hfilter, ← resolveGrants, hsource] at hsource'
          exact (Except.ok.inj hsource').symm
        exact ⟨e, he, ⟨hrole'.trans hrole.symm, by rw [hscope', hscope, hsame]⟩, himp⟩) hsources'
    have heligible := rel_filter
      (p := fun source : GrantExplanation => decide
        (source.role ∈ auditRoles ∧ source.sourceScope ≠ .NONE))
      (q := fun source : GrantExplanation => decide
        (source.role ∈ auditRoles ∧ source.sourceScope ≠ .NONE))
      (fun e' e h => by simp only [h.1.1, h.1.2]) hall
    refine ⟨_, bind_ok_iff.mpr ⟨sources, hsources, rfl⟩, ?_⟩
    simp only [auditDecision, Bool.and_eq_true, Bool.not_eq_true', all_eq_true,
      isEmpty_eq_false_iff_exists_mem] at hallow ⊢
    obtain ⟨⟨e', he'⟩, hallow⟩ := hallow
    obtain ⟨e, he, -⟩ := exists_of_forall₂ heligible he'
    refine ⟨⟨e, he⟩, fun e he => ?_⟩
    obtain ⟨e', he', -, himp⟩ := exists_of_forall₂ (Forall₂.flip heligible) he
    exact himp (hallow e' he')
  · exact granted_of_narrows hnarrows hkey principal context hgranted

theorem historicalGrants_ok {value grants : Grants} {target : ConfigurationTarget}
    (h : historicalGrants value target = .ok grants) : validateGrants grants target = .ok () := by
  simp only [historicalGrants, ok_iff] at h
  obtain ⟨-, -, ⟨⟩, hvalid, rfl⟩ := h
  exact hvalid

/-- **What is read is valid**: a stored configuration is checked when it is read. -/
theorem snapshots_valid {db : Database} (h : snapshots db = .ok rows) :
    ∀ row ∈ rows, validateGrants row.grants row.toConfigurationTarget = .ok () := by
  intro row hrow
  obtain ⟨stored, -, hstored⟩ := exists_of_forall₂ (mapM_ok_iff.mp h).flip hrow
  simp only [snapshotRow, ok_iff] at hstored
  obtain ⟨-, -, -, -, version, -, grants, hgrants, rfl⟩ := hstored
  exact historicalGrants_ok hgrants

/-- **Campuses only restrict**, in every state that saves and restores of
configurations and changes of users lead to, whoever makes them: what the
configurations that are read then grant to a principal for a resource, they grant
without those of the campuses. -/
theorem campuses_restrict (rt : Runtime) (db : Database) (calls : List AdministrationCall) :
    (administration rt).Throughout (fun s => ∀ rows, snapshots s.db = .ok rows →
      ∀ principal key context, granted principal key rows context = true →
        granted principal key (withoutCampuses rows) context = true) (.start db) calls :=
  fun _ _ _ hrows => granted_withoutCampuses (snapshots_valid hrows)

end CrmYnov.Permissions
