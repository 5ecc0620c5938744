import CrmYnov.Base.Machine
import CrmYnov.Permissions.Service
import CrmYnov.Users.Service

/-!
# Someone can administer the permissions

Two services take care that the permissions can still be administered. A save of
a configuration is refused when no active Super Admin would be granted the
administration of permissions; a change of roles or of activity is refused when
it takes the last Super Admin away. The second does not ask what the Super Admins
are granted: one who owes the administration of permissions to another role can
lose this role, and nobody is left who could give it back
(`CrmYnov.Permissions.administration_lost`).

A save keeps an administrator whatever it changes, because the configurations that
are read after it are those it was checked against
(`CrmYnov.Permissions.append_snapshots`). So administration is only lost by the
changes of users, and is kept in the runs where these spare an administrator
(`CrmYnov.Permissions.administration_kept`).
-/

namespace CrmYnov.Permissions

open Checked Users Table

variable {rt : Runtime} {db db' : Database}

/-! ### What is read after a save -/

section Matching

variable {rows rest : List ConfigurationSnapshot} {row : ConfigurationSnapshot}

theorem matching_append (rows rest : List ConfigurationSnapshot) (key : String) :
    matching (rows ++ rest) key = matching rows key ++ matching rest key := by
  rw [matching, List.filter_append, List.map_append, matching, matching]

theorem matching_cons (row : ConfigurationSnapshot) (rows : List ConfigurationSnapshot)
    (key : String) :
    matching (row :: rows) key = matching [row] key ++ matching rows key :=
  matching_append [row] rows key

theorem matching_eq_nil {key : String}
    (h : ∀ row ∈ rows, configurationKey row.toConfigurationTarget ≠ key) :
    matching rows key = [] := by
  rw [matching, List.filter_eq_nil_iff.mpr fun row hrow => by simpa using h row hrow, List.map_nil]

/-- **A configuration may be replaced in place or at the end**: each key leads to
the same grants. -/
theorem matching_replace {id : String} {new new' : ConfigurationSnapshot}
    (hrows : ∀ row ∈ rows, configurationKey row.toConfigurationTarget = row.id)
    (hids : (rows.map ConfigurationSnapshot.id).Nodup) (hid : id ∈ rows.map ConfigurationSnapshot.id)
    (hkey : configurationKey new.toConfigurationTarget = id)
    (hkey' : configurationKey new'.toConfigurationTarget = id)
    (hget : new.grants.get = new'.grants.get) (key : String) :
    matching (rows.map fun row => if row.id = id then new else row) key =
      matching ((rows.filter fun row => row.id ≠ id) ++ [new']) key := by
  have hnew : matching [new] key = matching [new'] key := by
    simp [matching, List.filter_cons, hkey, hkey', apply_ite, hget]
  induction rows with
  | nil => simp at hid
  | cons row rows ih =>
    obtain ⟨hfresh, hids⟩ := List.nodup_cons.mp hids
    have hrow := hrows row List.mem_cons_self
    have hrest := fun r hr => hrows r (List.mem_cons_of_mem row hr)
    by_cases heq : row.id = id
    · -- the configuration is this one: the others are kept on both sides
      subst heq
      have hother : ∀ r ∈ rows, r.id ≠ row.id := fun r hr hc =>
        hfresh (hc ▸ List.mem_map_of_mem hr)
      have hmap : (rows.map fun r => if r.id = row.id then new else r) = rows :=
        (List.map_congr_left fun r hr => if_neg (hother r hr)).trans (List.map_id _)
      have hfilter : (rows.filter fun r => r.id ≠ row.id) = rows :=
        List.filter_eq_self.mpr fun r hr => by simpa using hother r hr
      rw [List.map_cons, if_pos rfl, hmap, List.filter_cons_of_neg (by simp), hfilter,
        matching_cons, matching_append, hnew]
      by_cases hk : key = row.id
      · rw [matching_eq_nil fun r hr hc => hother r hr (by rw [← hrest r hr, hc, hk]),
          List.append_nil, List.nil_append]
      · have hnone : matching [new'] key = [] := matching_eq_nil fun r hr hc => hk (by
          rw [← hc, List.mem_singleton.mp hr, hkey'])
        rw [hnone, List.append_nil, List.nil_append]
    · have hid : id ∈ rows.map ConfigurationSnapshot.id := by
        simpa [Ne.symm heq] using hid
      rw [List.map_cons, if_neg heq, List.filter_cons_of_pos (by simpa using heq), List.cons_append,
        matching_cons row (rows.map _), ih hrest hids hid, ← matching_cons]

end Matching

theorem snapshotRow_ok {row : RolePermissionConfigurationRow} {snapshot : ConfigurationSnapshot}
    (h : snapshotRow row = .ok snapshot) :
    validateTarget row.toConfigurationTarget = .ok () ∧
      configurationKey row.toConfigurationTarget = row.id ∧
      snapshot.toConfigurationTarget = row.toConfigurationTarget ∧ snapshot.id = row.id ∧
      snapshot.version = row.version ∧ ∃ grants, row.latest = some (row.version, grants) := by
  simp only [snapshotRow, ok_iff] at h
  obtain ⟨⟨⟩, hvalid, -, ⟨hkey, -⟩, ⟨version, grants⟩, hlatest, -, -, rfl⟩ := h
  rw [Option.filter_eq_some_iff] at hlatest
  obtain ⟨hlatest, hver⟩ := hlatest
  obtain rfl : version = row.version := by simpa using hver
  exact ⟨hvalid, hkey, rfl, rfl, rfl, grants, hlatest⟩

theorem snapshotRow_of_latest {row : RolePermissionConfigurationRow} {grants : Grants}
    (hvalid : validateTarget row.toConfigurationTarget = .ok ())
    (hkey : configurationKey row.toConfigurationTarget = row.id) (hver : 1 ≤ row.version)
    (hlatest : row.latest = some (row.version, grants))
    (hgrants : validateGrants grants row.toConfigurationTarget = .ok ()) :
    ∃ snapshot, snapshotRow row = .ok snapshot ∧ snapshot.id = row.id ∧
      configurationKey snapshot.toConfigurationTarget = row.id ∧
      snapshot.grants.get = grants.get := by
  obtain ⟨grants', hhistorical, hget⟩ := historicalGrants_of_valid hgrants
  refine ⟨{ row.toConfigurationTarget with id := row.id, version := row.version, grants := grants' },
    ?_, rfl, hkey, funext hget⟩
  simp [snapshotRow, hvalid, hkey, hver, hlatest, hhistorical, Option.filter, pure, Except.pure]

variable {version : ℤ}

theorem latest_create {versions : Dict ℤ Grants} {t : Table (ℤ × Grants) fun e => [e.1]}
    {grants : Grants} (hcreate : versions.entries.create (version, grants) = some t)
    (hlatest : ∀ last ∈ lastVersion versions.entries.rows, last.1 < version) :
    lastVersion t.rows = some (version, grants) := by
  rw [create_rows hcreate, lastVersion, List.foldl_append]
  change laterVersion (lastVersion versions.entries.rows) (version, grants) = _
  cases hlast : lastVersion versions.entries.rows with
  | none => rfl
  | some last => exact if_pos (hlatest last hlast)

/-! ### The keys of configurations -/

/-- The text of a key before its campus. -/
def keyPrefix (kind : ConfigurationKind) (role : Option Role) : String :=
  kind.text ++ ":" ++ (role.map Role.text).getD "*" ++ ":"

theorem keyPrefix_inj {kind kind' : ConfigurationKind} {role role' : Option Role}
    (h : (keyPrefix kind role).toList <+: (keyPrefix kind' role').toList) :
    kind = kind' ∧ role = role' := by
  have hall : ∀ k ∈ [ConfigurationKind.CEILING, .ROLE], ∀ k' ∈ [ConfigurationKind.CEILING, .ROLE],
      ∀ r ∈ [none, some Role.SUPER_ADMIN, some .ADMIN, some .MANAGER, some .ADMISSIONS,
        some .AUDITOR], ∀ r' ∈ [none, some Role.SUPER_ADMIN, some .ADMIN, some .MANAGER,
        some .ADMISSIONS, some .AUDITOR],
      (keyPrefix k r).toList <+: (keyPrefix k' r').toList → k = k' ∧ r = r' := by
    decide +kernel
  have hkind : ∀ k, k ∈ [ConfigurationKind.CEILING, .ROLE] := by rintro (_ | _) <;> decide
  have hrole : ∀ r, r ∈ [none, some Role.SUPER_ADMIN, some .ADMIN, some .MANAGER,
      some .ADMISSIONS, some .AUDITOR] := by
    rintro (_ | _ | _ | _ | _ | _) <;> decide
  exact hall kind (hkind kind) kind' (hkind kind') role (hrole role) role' (hrole role') h

/-- **A key names one target.** -/
theorem configurationKey_inj {target target' : ConfigurationTarget}
    (h : configurationKey target = configurationKey target') : target = target' := by
  obtain ⟨kind, role, campus⟩ := target
  obtain ⟨kind', role', campus'⟩ := target'
  have hlist : (keyPrefix kind role).toList ++ campus.toList =
      (keyPrefix kind' role').toList ++ campus'.toList := by
    simpa [configurationKey, keyPrefix] using congrArg String.toList h
  have hprefix : (keyPrefix kind role).toList <+: (keyPrefix kind' role').toList ∨
      (keyPrefix kind' role').toList <+: (keyPrefix kind role).toList :=
    List.prefix_or_prefix_of_prefix (hlist ▸ List.prefix_append _ _) (List.prefix_append _ _)
  obtain ⟨rfl, rfl⟩ : kind = kind' ∧ role = role' :=
    hprefix.elim keyPrefix_inj fun h => (keyPrefix_inj h).imp Eq.symm Eq.symm
  obtain rfl : campus = campus' := String.toList_inj.mp (List.append_cancel_left hlist)
  rfl

/-! ### Saving, and reading again -/

theorem snapshots_ids {rows : List ConfigurationSnapshot} (h : snapshots db = .ok rows) :
    rows.map ConfigurationSnapshot.id =
        db.rolePermissionConfigurations.rows.map RolePermissionConfigurationRow.id ∧
      ∀ row ∈ rows, configurationKey row.toConfigurationTarget = row.id := by
  have hall := mapM_ok_iff.mp h
  clear h
  generalize db.rolePermissionConfigurations.rows = stored at hall ⊢
  induction hall with
  | nil => simp
  | cons hrow _ ih =>
    obtain ⟨-, hkey, htarget, hid, -⟩ := snapshotRow_ok hrow
    obtain ⟨hids, hkeys⟩ := ih
    refine ⟨by rw [List.map_cons, List.map_cons, hid, hids], fun row hrow => ?_⟩
    rcases List.mem_cons.mp hrow with rfl | hrow
    · rw [htarget, hid, hkey]
    · exact hkeys row hrow

variable {input : ConfigurationInput}

theorem validateInput_ok (h : validateInput input = .ok ()) :
    validateTarget input.toConfigurationTarget = .ok () ∧
      validateGrants input.grants input.toConfigurationTarget = .ok () ∧
      0 ≤ input.expectedVersion := by
  simp only [validateInput, ok_iff] at h
  obtain ⟨⟨⟩, htarget, ⟨⟩, hgrants, -, ⟨-, hver⟩, -⟩ := h
  exact ⟨htarget, hgrants, hver⟩

def savedRow (input : ConfigurationInput) (versions : Dict ℤ Grants) :
    RolePermissionConfigurationRow :=
  { input.toConfigurationTarget with
    id := configurationKey input.toConfigurationTarget
    version := input.expectedVersion + 1, versions }

/-- **What is read after a save is what the save was checked against.** -/
theorem append_snapshots {rows : List ConfigurationSnapshot}
    (hrows : snapshots db = .ok rows) (hinput : validateInput input = .ok ())
    (h : append db input = .ok (version, db')) :
    ∃ rows', snapshots db' = .ok rows' ∧
      ∀ key, matching rows' key = matching (nextSnapshots rows input) key := by
  obtain ⟨htarget, hgrants, hnonneg⟩ := validateInput_ok hinput
  obtain ⟨hids, hkeys⟩ := snapshots_ids hrows
  have hall := mapM_ok_iff.mp hrows
  -- the snapshot of the configuration that is stored
  have hsaved : ∀ versions : Dict ℤ Grants,
      lastVersion versions.entries.rows = some (input.expectedVersion + 1, input.grants) →
      ∃ snapshot, snapshotRow (savedRow input versions) = .ok snapshot ∧
        snapshot.id = configurationKey input.toConfigurationTarget ∧
        configurationKey snapshot.toConfigurationTarget =
          configurationKey input.toConfigurationTarget ∧
        snapshot.grants.get = input.grants.get := fun versions hlatest =>
    have hver : 1 ≤ input.expectedVersion + 1 := by omega
    snapshotRow_of_latest htarget rfl hver hlatest hgrants
  rw [append] at h
  dsimp only at h
  split at h
  · -- a first version: the configuration is added at the end
    simp only [ok_iff, insert_ok_iff] at h
    obtain ⟨t, hcreate, -, rfl⟩ := h
    obtain ⟨snapshot, hsnap, hid, hkey, hget⟩ := hsaved (Dict.empty.set _ input.grants) rfl
    have hfresh : ∀ row ∈ rows, row.id ≠ configurationKey input.toConfigurationTarget := by
      intro row hrow hc
      have hmem := hids ▸ List.mem_map_of_mem hrow
      obtain ⟨r, hr, hrid⟩ := List.mem_map.mp hmem
      have hfree := findUnique_of_create hcreate (List.mem_singleton.mpr rfl)
      exact findUnique_eq_none.mp hfree r hr (List.mem_singleton.mpr (hrid.trans hc).symm)
    refine ⟨rows ++ [snapshot], ?_, fun key => ?_⟩
    · refine mapM_ok_iff.mpr ?_
      rw [create_rows hcreate]
      exact List.rel_append hall (.cons hsnap .nil)
    · have hfilter : (rows.filter fun row =>
          row.id ≠ configurationKey input.toConfigurationTarget) = rows :=
        List.filter_eq_self.mpr fun row hrow => by simpa using hfresh row hrow
      rw [nextSnapshots, hfilter, matching_append, matching_append]
      simp [matching, List.filter_cons, hkey, apply_ite, hget]
  · -- a further version: the configuration is replaced in place
    simp only [ok_iff] at h
    obtain ⟨row, hrow, -, hver, t, hcreate, -, rfl⟩ := h
    obtain ⟨hmem, hrowkey⟩ := findUnique_eq_some.mp hrow
    have hrowid : row.id = configurationKey input.toConfigurationTarget :=
      (List.mem_singleton.mp hrowkey).symm
    obtain ⟨last, -, hsnapshotRow⟩ := exists_of_mapM hrows hmem
    obtain ⟨-, -, -, -, -, grants, hlast⟩ := snapshotRow_ok hsnapshotRow
    have hlatest := latest_create hcreate fun last' hlast' => by
      have hsame := Option.mem_unique hlast hlast'
      rw [← hsame]
      show row.version < input.expectedVersion + 1
      omega
    obtain ⟨snapshot, hsnap, hid, hkey, hget⟩ := hsaved ⟨t⟩ hlatest
    refine ⟨rows.map fun r =>
      if r.id = configurationKey input.toConfigurationTarget then snapshot else r, ?_, ?_⟩
    · refine mapM_ok_iff.mpr (List.forall₂_map_left_iff.mpr (List.forall₂_map_right_iff.mpr ?_))
      refine hall.imp fun r s hrs => ?_
      obtain ⟨-, hrkey, -, hsid, -⟩ := snapshotRow_ok hrs
      by_cases hr : r.id = configurationKey input.toConfigurationTarget
      · -- the stored configuration has the target of the input: their keys are the same
        rw [if_pos hr, if_pos (hsid.trans hr), ← hsnap]
        have htargets := configurationKey_inj (hrkey.trans hr)
        rw [RolePermissionConfigurationRow.advance, savedRow, ← htargets, hrkey]
      · rw [if_neg hr, if_neg fun hc => hr (hsid.symm.trans hc)]
        exact hrs
    · have hnodup : (rows.map ConfigurationSnapshot.id).Nodup := by
        rw [hids]
        exact db.rolePermissionConfigurations.nodup_keys fun _ => List.mem_singleton.mpr rfl
      have hstored : configurationKey input.toConfigurationTarget ∈
          rows.map ConfigurationSnapshot.id := by
        rw [hids, ← hrowid]
        exact List.mem_map_of_mem hmem
      exact matching_replace hkeys hnodup hstored hkey rfl hget

/-! ### Administrators -/

/-- The stored configurations can be read, and have a property. -/
def Reads (db : Database) (P : List ConfigurationSnapshot → Prop) : Prop :=
  ∃ rows, snapshots db = .ok rows ∧ P rows

instance (db : Database) (P : List ConfigurationSnapshot → Prop) [DecidablePred P] :
    Decidable (Reads db P) :=
  match h : snapshots db with
  | .error e => isFalse fun ⟨_, hrows, _⟩ => nomatch h.symm.trans hrows
  | .ok rows =>
    decidable_of_iff (P rows) ⟨fun hP => ⟨rows, h, hP⟩, fun ⟨rows', hrows', hP⟩ => by
      obtain rfl := Except.ok.inj (hrows'.symm.trans h)
      exact hP⟩

/-- **Someone can administer the permissions**: the stored configurations grant an
active Super Admin to see and to change the permissions. -/
def Administered (db : Database) : Prop :=
  Reads db fun rows => ∃ user ∈ superAdmins db, administers rows user.id user.roles = .ok true
deriving Decidable

theorem mem_superAdmins {user : CollaboratorRow} :
    user ∈ superAdmins db ↔
      user ∈ db.collaborators.rows ∧ user.active ∧ Role.SUPER_ADMIN ∈ user.roles :=
  mem_findMany

theorem administers_congr {rows rows' : List ConfigurationSnapshot}
    (h : ∀ key, matching rows key = matching rows' key) (id : String) (roles : List Role) :
    administers rows id roles = administers rows' id roles := by
  simp only [administers, grantedGlobally, evaluatePermission_congr h]

theorem append_collaborators (h : append db input = .ok (version, db')) :
    db'.collaborators = db.collaborators := by
  rw [append] at h
  dsimp only at h
  split at h
  · simp only [ok_iff] at h
    obtain ⟨-, -, -, rfl⟩ := h
    rfl
  · simp only [ok_iff] at h
    obtain ⟨-, -, -, -, -, -, -, rfl⟩ := h
    rfl

variable {actor : AuthenticatedPrincipal} {response : SaveResponse}

variable {visit : Visit}

/-- **A save leaves an administrator**, whatever it changes. -/
theorem saveInTransaction_administered (hinput : validateInput input = .ok ())
    (h : saveInTransaction rt db visit actor input = .ok (response, db')) : Administered db' := by
  simp only [saveInTransaction, protectLastSuperAdmin, bind_assoc, ok_iff] at h
  obtain ⟨-, -, rows, hrows, -, -, -, -, -, -, -, -, remains, hremains, -, rfl, ⟨version, db₁⟩,
    happend, -, rfl⟩ := h
  obtain ⟨admin, hadmin, hadministers⟩ := exists_of_anyM hremains
  obtain ⟨rows', hrows', hmatching⟩ := append_snapshots hrows hinput happend
  refine ⟨rows', hrows', admin, ?_, ?_⟩
  · rw [superAdmins, append_collaborators happend]
    exact hadmin
  · rw [administers_congr hmatching]
    exact hadministers

theorem save_administered (h : save rt db visit actor input = .ok (response, db')) :
    Administered db' := by
  simp only [save, bind_ok_iff] at h
  obtain ⟨⟨⟩, hinput, h⟩ := h
  exact saveInTransaction_administered hinput h

theorem restore_administered {input : RestoreInput}
    (h : restore rt db visit actor input = .ok (response, db')) : Administered db' := by
  simp only [restore, bind_ok_iff] at h
  obtain ⟨-, -, -, -, principal, -, -, -, row, -, stored, -, grants, -, ⟨⟩, hinput, h⟩ := h
  exact saveInTransaction_administered hinput h

/-! ### Changes of users -/

/-- Another user than the one that is changed administers the permissions. -/
def OtherAdministrator (db : Database) (id : String) : Prop :=
  Reads db fun rows =>
    ∃ user ∈ superAdmins db, user.id ≠ id ∧ administers rows user.id user.roles = .ok true

/-- The user may administer the permissions with other roles. -/
def StillAdministers (db : Database) (id : String) (roles : List Role) : Prop :=
  Role.SUPER_ADMIN ∈ roles ∧ Reads db fun rows => administers rows id roles = .ok true
deriving Decidable

section Update

variable {id : String} {change : CollaboratorRow → CollaboratorRow}
  {hkeys : ∀ user, (change user).keys = user.keys}

theorem administered_of_other
    (hconfigs : db'.rolePermissionConfigurations = db.rolePermissionConfigurations)
    (hcollabs : db'.collaborators =
      db.collaborators.updateMany (fun user => user.id = id) change hkeys)
    (h : OtherAdministrator db id) : Administered db' := by
  obtain ⟨rows, hrows, user, huser, hid, hadministers⟩ := h
  obtain ⟨hmem, hactive⟩ := mem_superAdmins.mp huser
  refine ⟨rows, by rw [snapshots, hconfigs]; exact hrows, user, ?_, hadministers⟩
  rw [mem_superAdmins, hcollabs, mem_updateMany]
  exact ⟨⟨user, hmem, if_neg hid⟩, hactive⟩

theorem administered_of_still {roles : List Role}
    (hconfigs : db'.rolePermissionConfigurations = db.rolePermissionConfigurations)
    (hcollabs : db'.collaborators =
      db.collaborators.updateMany (fun user => user.id = id) change hkeys)
    (hchange : ∀ user, (change user).id = user.id ∧ (change user).active = user.active ∧
      (change user).roles = roles)
    (hdb : Administered db) (h : StillAdministers db id roles) : Administered db' := by
  obtain ⟨rows, hrows, user, huser, hadministers⟩ := hdb
  by_cases hid : user.id = id
  · obtain ⟨hrole, rows', hrows', hstill⟩ := h
    obtain ⟨hmem, hactive, -⟩ := mem_superAdmins.mp huser
    obtain ⟨hsame, hactive', hroles⟩ := hchange user
    refine ⟨rows', by rw [snapshots, hconfigs]; exact hrows', change user, ?_, ?_⟩
    · rw [mem_superAdmins, hcollabs, mem_updateMany]
      exact ⟨⟨user, hmem, if_pos hid⟩, hactive'.trans hactive, hroles ▸ hrole⟩
    · rw [hsame, hid, hroles]
      exact hstill
  · exact administered_of_other hconfigs hcollabs
      ⟨rows, hrows, user, huser, hid, hadministers⟩

end Update

/-- **What a change of authorization does**: nothing, or the user has the roles of
the input; and it does not take the last Super Admin away. -/
theorem updateAuthorizationForApi_cases {id actorId correlationId : String}
    {input : UpdateAuthorization} {revokedSessions : ℕ} {row : CollaboratorRow}
    (h : updateAuthorizationForApi rt db id input actorId correlationId revokedSessions =
      .ok (row, db')) :
    (∀ user ∈ db.collaborators.findUnique (.id id), Role.SUPER_ADMIN ∈ input.roles ∨
      ¬LosesLastSuperAdmin db.collaborators.rows user) ∧ (db' = db ∨ ∃ campusId,
      db'.rolePermissionConfigurations = db.rolePermissionConfigurations ∧
      db'.collaborators = db.collaborators.updateMany (fun user => user.id = id)
        (CollaboratorRow.authorize (unique input.roles) campusId input.teamId)
        (CollaboratorRow.keys_authorize (unique input.roles) campusId input.teamId)) := by
  simp only [updateAuthorizationForApi, ok_iff, mem_unique] at h
  obtain ⟨-, -, user, huser, actor, -, -, -, campusId, -, -, hguard, h⟩ := h
  refine ⟨fun user' huser' => ?_, ?_⟩
  · obtain rfl := Option.mem_unique huser huser'
    exact hguard
  · split at h
    · cases h
      exact .inl rfl
    · simp only [changeAuthorization, ok_iff, Database.audit_ok_iff] at h
      obtain ⟨-, ⟨t, -, rfl⟩, -, rfl⟩ := h
      obtain ⟨-, hkey⟩ := findUnique_eq_some.mp huser
      obtain rfl := CollaboratorRow.mem_keys_id.mp hkey
      exact .inr ⟨campusId, rfl, rfl⟩

/-- **What a change of activity does**: nothing, or the user is made active or
inactive under the version its memory holds; and it does not take away the last
Super Admin of the memory. -/
theorem setActive_cases (s : UserProcess) (id : String) (active written : Bool) :
    (setActive s id active written).2.db = s.db ∨ ∃ user, s.users.get id = some user ∧
      (active ∨ ¬LosesLastSuperAdmin s.users.values user) ∧
      (setActive s id active written).2.db.rolePermissionConfigurations =
        s.db.rolePermissionConfigurations ∧ (setActive s id active written).2.db.collaborators =
        s.db.collaborators.updateMany (fun user => user.id = id)
          (CollaboratorRow.activate active (user.authenticationVersion + 1))
          (CollaboratorRow.keys_activate active (user.authenticationVersion + 1)) := by
  rw [setActive]
  split
  · exact .inl rfl
  rename_i user huser
  split
  · exact .inl rfl
  rename_i hguard
  cases written with
  | false => exact .inl rfl
  | true =>
    refine .inr ⟨user, huser, ?_, rfl, rfl⟩
    cases active with
    | false => exact .inr fun hlast => hguard ⟨rfl, hlast⟩
    | true => exact .inl rfl

/-! ### The two services -/

/-- A call of the permission service or of the user service, with what the world
gives to it. -/
inductive AdministrationCall
  | save (visit : Visit) (actor : AuthenticatedPrincipal) (input : ConfigurationInput) :
    AdministrationCall
  | restore (visit : Visit) (actor : AuthenticatedPrincipal) (input : RestoreInput) :
    AdministrationCall
  | updateAuthorization (id : String) (input : UpdateAuthorization)
    (actorId correlationId : String) (revokedSessions : ℕ) : AdministrationCall
  | setActive (id : String) (active written : Bool) : AdministrationCall
  /-- A user is looked up, as every request does with its author. -/
  | findById (id : String) : AdministrationCall
  /-- The process starts again. -/
  | start : AdministrationCall

/-- The answer of a transaction, and the state it leaves: what throws is rolled
back. -/
def commit {T : Type} (s : UserProcess) (outcome : Outcome (T × Database)) :
    Outcome Unit × UserProcess :=
  match outcome with
  | .ok (_, db) => (.ok (), { s with db })
  | .error e => (.error e, s)

variable (rt) in
/-- The permissions and the users of an instance. -/
def administration : Machine UserProcess AdministrationCall (Outcome Unit) where
  step s call := match call with
    | .save visit actor input => commit s (save rt s.db visit actor input)
    | .restore visit actor input => commit s (restore rt s.db visit actor input)
    | .updateAuthorization id input actorId correlationId revokedSessions =>
      commit s (updateAuthorizationForApi rt s.db id input actorId correlationId revokedSessions)
    | .setActive id active written =>
      (setActive s id active written).map (fun answer => answer.map fun _ => ()) fun s => s
    | .findById id => (.ok (), (findByIdForApi s id).2)
    | .start => (.ok (), .start s.db)

/-- The call spares an administrator: it does not change a user, or changes one
while another administers the permissions, or leaves to the user it changes what
makes it an administrator, or is refused because the last Super Admin is asked
for. -/
def Spares (s : UserProcess) : AdministrationCall → Prop
  | .updateAuthorization id input .. =>
    OtherAdministrator s.db id ∨ StillAdministers s.db id (unique input.roles) ∨
      ∃ user ∈ s.db.collaborators.findUnique (.id id), Role.SUPER_ADMIN ∉ input.roles ∧
        LosesLastSuperAdmin s.db.collaborators.rows user
  | .setActive id active _ =>
    OtherAdministrator s.db id ∨ active ∨
      ∃ user ∈ s.users.get id, LosesLastSuperAdmin s.users.values user
  | _ => True

theorem updateAuthorization_administered {id actorId correlationId : String}
    {input : UpdateAuthorization} {revokedSessions : ℕ} {row : CollaboratorRow}
    (h : updateAuthorizationForApi rt db id input actorId correlationId revokedSessions =
      .ok (row, db')) (hdb : Administered db)
    (hspares : OtherAdministrator db id ∨ StillAdministers db id (unique input.roles) ∨
      ∃ user ∈ db.collaborators.findUnique (.id id), Role.SUPER_ADMIN ∉ input.roles ∧
        LosesLastSuperAdmin db.collaborators.rows user) : Administered db' := by
  obtain ⟨hguard, rfl | ⟨campusId, hconfigs, hcollabs⟩⟩ :=
    updateAuthorizationForApi_cases h
  · exact hdb
  · rcases hspares with hother | hstill | ⟨user, huser, hrole, hlast⟩
    · exact administered_of_other hconfigs hcollabs hother
    · exact administered_of_still hconfigs hcollabs (fun _ => ⟨rfl, rfl, rfl⟩) hdb
        hstill
    · rcases hguard user huser with h | h
      · exact absurd h hrole
      · exact absurd hlast h

theorem setActive_administered {s : UserProcess} {id : String} {active written : Bool}
    (hdb : Administered s.db) (hspares : OtherAdministrator s.db id ∨ active ∨
      ∃ user ∈ s.users.get id, LosesLastSuperAdmin s.users.values user) :
    Administered (setActive s id active written).2.db := by
  rcases setActive_cases s id active written with
    hsame | ⟨user, huser, hguard, hconfigs, hcollabs⟩
  · rwa [hsame]
  have hcase : OtherAdministrator s.db id ∨ active := by
    rcases hspares with hother | hactive | ⟨user', huser', hlast⟩
    · exact .inl hother
    · exact .inr hactive
    · obtain rfl := Option.mem_unique huser huser'
      exact .inr (hguard.resolve_right (not_not_intro hlast))
  rcases hcase with hother | hactive
  · exact administered_of_other hconfigs hcollabs hother
  · -- a user made active keeps its roles, and so does an administrator
    obtain ⟨rows, hrows, admin, hadmin, hadministers⟩ := hdb
    obtain ⟨hmem, hadminActive, hrole⟩ := mem_superAdmins.mp hadmin
    refine ⟨rows, by rw [snapshots, hconfigs]; exact hrows, if admin.id = id then
      admin.activate active (user.authenticationVersion + 1) else admin, ?_, ?_⟩
    · rw [mem_superAdmins, hcollabs, mem_updateMany]
      refine ⟨⟨admin, hmem, rfl⟩, ?_⟩
      split
      · exact ⟨hactive, hrole⟩
      · exact ⟨hadminActive, hrole⟩
    · split <;> exact hadministers

/-- **One step**: a call that spares an administrator leaves one. -/
theorem administered_step {s : UserProcess} {call : AdministrationCall}
    (hdb : Administered s.db) (hspares : Spares s call) :
    Administered ((administration rt).next s call).db := by
  have hcommit : ∀ {T : Type} {outcome : Outcome (T × Database)},
      (∀ a db, outcome = .ok (a, db) → Administered db) →
      Administered (commit s outcome).2.db := fun {T} {outcome} h => by
    cases outcome with
    | ok result => exact h result.1 result.2 rfl
    | error e => exact hdb
  cases call with
  | save visit actor input => exact hcommit fun _ _ h => save_administered h
  | restore visit actor input => exact hcommit fun _ _ h => restore_administered h
  | updateAuthorization id input actorId correlationId revokedSessions =>
    exact hcommit fun _ _ h => updateAuthorization_administered h hdb hspares
  | setActive id active written => exact setActive_administered hdb hspares
  | findById id =>
    show Administered (findByIdForApi s id).2.db
    rw [findByIdForApi]
    split <;> exact hdb
  | start => exact hdb

/-- **The permissions can always be administered** in the runs of saves, restores
and changes of users whose changes of users spare an administrator. -/
theorem administration_kept (rt : Runtime) (db : Database) (hdb : Administered db)
    (calls : List AdministrationCall)
    (hspares : (administration rt).Meets Spares (.start db) calls) :
    (administration rt).Throughout (fun s => Administered s.db) (.start db) calls :=
  Machine.throughout_of_meets (I := fun s => Administered s.db)
    (fun _ _ hs hspares => administered_step hs hspares) hdb hspares

/-! ### An administration that is lost -/

section Example

/-- The only Super Admin, who is an administrator too. -/
def exampleAdmin : CollaboratorRow where
  id := "admin-1"
  professionalEmail := "admin-1@example.test"
  roles := [.SUPER_ADMIN, .ADMIN]
  firstLoginRequired := false

/-- An instance with one user and the default configurations. -/
def exampleInstance : Database where
  collaborators := .ofRows [exampleAdmin]

/-- The session of the Super Admin. -/
def exampleVisit : Visit :=
  ⟨some ⟨"admin-1", 1, true, 100⟩, 10⟩

/-- The Super Admin, as its session knows it. -/
def exampleActor : AuthenticatedPrincipal where
  userId := "admin-1"
  roles := [.SUPER_ADMIN, .ADMIN]
  scopes := [.GLOBAL]
  sessionId := "session-1"

/-- The role `SUPER_ADMIN` is no longer to administer the permissions. -/
def exampleSave : AdministrationCall :=
  .save exampleVisit exampleActor {
    kind := .ROLE, role := some .SUPER_ADMIN, campus := GLOBAL_CAMPUS, expectedVersion := 0
    grants := .tabulate PermissionKey.keys PermissionKey.nodup_keys fun key =>
      if key ∈ [.rolesPermissionsView, .rolesPermissionsManage] then .NONE
      else defaultScope ⟨.ROLE, some .SUPER_ADMIN, GLOBAL_CAMPUS⟩ key
    reason := "ACCESS_REVIEW", confirmed := true }

def exampleRoles (roles : List Role) : AdministrationCall :=
  .updateAuthorization "admin-1" { roles, reason := "ACCESS_REVIEW", confirmed := true } "admin-1"
    "c-1" 0

/-- A change of roles that leaves what makes the Super Admin an administrator. -/
theorem administration_spared :
    (administration .plain).Throughout (fun s => Administered s.db) (.start exampleInstance)
      [exampleSave, exampleRoles [.SUPER_ADMIN, .ADMIN, .MANAGER]] :=
  administration_kept .plain exampleInstance (by decide +kernel)
    [exampleSave, exampleRoles [.SUPER_ADMIN, .ADMIN, .MANAGER]]
    ⟨trivial, .inr (.inl (by decide +kernel)), trivial⟩

/-- **The administration can be lost**: the save leaves the Super Admin an
administrator through its second role, the change of roles leaves it a Super
Admin, and both succeed. -/
theorem administration_lost :
    let calls := [exampleSave, exampleRoles [.SUPER_ADMIN]]
    Administered exampleInstance ∧
      (administration .plain).trace (.start exampleInstance) calls = [.ok (), .ok ()] ∧
      ¬Administered ((administration .plain).run (.start exampleInstance) calls).db := by
  decide +kernel

end Example

end CrmYnov.Permissions
