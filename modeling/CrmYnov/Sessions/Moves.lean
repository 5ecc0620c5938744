import CrmYnov.Sessions.Cluster

/-!
# What a request does to access

Whatever a request is, the row of a user is left alone or moves to a higher version, and it does
so when the password of the user changes; a session is left alone or ends; and a session that is
opened carries the version of its user (`CrmYnov.Sessions.Moves`). The memory of the process is as
the database when a request is handled, so that counting from it is counting from the database.
-/

namespace CrmYnov.Sessions

open Checked Users Recovery Table

variable {rt : Runtime} {deriveSecret : String → String → String} {env : RecoveryEnvironment}
  {s s' s'' : AccessStore} {now : Instant} {p p' : Process}

/-! ### Sessions that end -/

def Ended (x x' : LocalSessionRow) : Prop :=
  x'.keys = x.keys ∧ x'.collaboratorId = x.collaboratorId ∧
    x'.authenticationVersion = x.authenticationVersion ∧ x'.active = false

theorem Ended.trans (x x' x'' : LocalSessionRow) (h : Ended x x') (h' : Ended x' x'') :
    Ended x x'' :=
  ⟨h'.1.trans h.1, h'.2.1.trans h.2.1, h'.2.2.1.trans h.2.2.1, h'.2.2.2⟩

/-- No session is opened, and those there are are left alone or end. -/
structure Kept (s s' : AccessStore) : Prop where
  stay : s.localSessions.Grows Ended s'.localSessions
  known : ∀ x ∈ s'.localSessions.rows, ∃ y ∈ s.localSessions.rows, x = y ∨ Ended y x

theorem Kept.of_eq (h : s'.localSessions = s.localSessions) : Kept s s' := by
  refine ⟨?_, fun x hx => ⟨x, ?_, .inl rfl⟩⟩
  · rw [h]
    exact .refl _
  · rwa [h] at hx

theorem Kept.trans (h : Kept s s') (h' : Kept s' s'') : Kept s s'' := by
  refine ⟨h.stay.trans Ended.trans h'.stay, fun x hx => ?_⟩
  obtain ⟨y, hy, hxy⟩ := h'.known x hx
  obtain ⟨z, hz, hyz⟩ := h.known y hy
  refine ⟨z, hz, ?_⟩
  rcases hxy with rfl | hended
  · exact hyz
  · rcases hyz with rfl | hended'
    · exact .inr hended
    · exact .inr (hended'.trans _ _ _ hended)

theorem revokeSessions_kept (s : AccessStore) (q : LocalSessionRow → Prop) [DecidablePred q]
    (now : Instant) : Kept s (s.revokeSessions q now) := by
  have hended : ∀ x : LocalSessionRow, Ended x (x.revoke now) := fun _ => ⟨rfl, rfl, rfl, rfl⟩
  refine ⟨Grows.of_updateMany (f := LocalSessionRow.revoke now) (fun _ => rfl)
    fun x _ _ => hended x, fun x hx => ?_⟩
  have hx' := List.mem_map.mp hx
  obtain ⟨y, hy, rfl⟩ := hx'
  refine ⟨y, hy, ?_⟩
  split
  · exact .inr (hended y)
  · exact .inl rfl

/-! ### What a request does -/

/-- The users and the passwords are as they were, and no session is opened. -/
structure Quiet (s s' : AccessStore) : Prop where
  users : s'.db.collaborators = s.db.collaborators
  passwords : s'.localPasswordHashes = s.localPasswordHashes
  sessions : Kept s s'

/-- **What a request does**: versions go up, and they do where a password changes; sessions end, or
are opened under the version of their user. -/
structure Moves (s s' : AccessStore) : Prop where
  users : s.db.collaborators.Grows Promoted s'.db.collaborators
  passwords : ∀ u ∈ s.db.collaborators.rows,
    s'.localPasswordHashes.findUnique u.id ≠ s.localPasswordHashes.findUnique u.id →
      ∃ u' ∈ s'.db.collaborators.rows, Promoted u u'
  sessions : s.localSessions.Grows Ended s'.localSessions
  opened : ∀ x ∈ s'.localSessions.rows, (∃ y ∈ s.localSessions.rows, x = y ∨ Ended y x) ∨
    ∃ u ∈ s.db.collaborators.rows, x.collaboratorId = u.id ∧
      x.authenticationVersion = u.authenticationVersion

theorem Quiet.moves (h : Quiet s s') : Moves s s' where
  users := by
    rw [h.users]
    exact .refl _
  passwords := by
    intro u _ hne
    rw [h.passwords] at hne
    exact absurd rfl hne
  sessions := h.sessions.stay
  opened := fun x hx => .inl (h.sessions.known x hx)

theorem Quiet.trans (h : Quiet s s') (h' : Quiet s' s'') : Quiet s s'' :=
  ⟨h'.users.trans h.users, h'.passwords.trans h.passwords, h.sessions.trans h'.sessions⟩

theorem Quiet.of_eq (husers : s'.db.collaborators = s.db.collaborators)
    (hpasswords : s'.localPasswordHashes = s.localPasswordHashes)
    (hsessions : s'.localSessions = s.localSessions) : Quiet s s' :=
  ⟨husers, hpasswords, .of_eq hsessions⟩

theorem Moves.refl (s : AccessStore) : Moves s s := (Quiet.of_eq rfl rfl rfl).moves

theorem Moves.quiet (h : Moves s s') (h' : Quiet s' s'') : Moves s s'' where
  users := by
    rw [h'.users]
    exact h.users
  passwords := by
    rw [h'.passwords, h'.users]
    exact h.passwords
  sessions := h.sessions.trans Ended.trans h'.sessions.stay
  opened := by
    intro x hx
    obtain ⟨y, hy, hxy⟩ := h'.sessions.known x hx
    rcases h.opened y hy with ⟨z, hz, hyz⟩ | ⟨u, hu, huser, hver⟩
    · refine .inl ⟨z, hz, ?_⟩
      rcases hxy with rfl | hended
      · exact hyz
      · rcases hyz with rfl | hended'
        · exact .inr hended
        · exact .inr (hended'.trans _ _ _ hended)
    · refine .inr ⟨u, hu, ?_⟩
      rcases hxy with rfl | ⟨-, hsame, hsameVersion, -⟩
      · exact ⟨huser, hver⟩
      · exact ⟨hsame.trans huser, hsameVersion.trans hver⟩

theorem moves_of_promoted {id : String} {f : CollaboratorRow → CollaboratorRow}
    (hkeys : ∀ u, (f u).keys = u.keys) (hver : ∀ u ∈ s.db.collaborators.rows, u.id = id →
      u.authenticationVersion < (f u).authenticationVersion)
    (husers : s'.db.collaborators = s.db.collaborators.updateMany (fun u => u.id = id) f hkeys)
    (hpasswords : ∀ key, key ≠ id →
      s'.localPasswordHashes.findUnique key = s.localPasswordHashes.findUnique key)
    (hsessions : s'.localSessions = s.localSessions) : Moves s s' where
  users := by
    rw [husers]
    exact Grows.of_updateMany hkeys fun u hu hid => ⟨hkeys u, hver u hu hid⟩
  passwords := by
    intro u hu hne
    have hid : u.id = id := by
      by_contra hother
      exact hne (hpasswords u.id hother)
    refine ⟨f u, ?_, hkeys u, hver u hu hid⟩
    rw [husers]
    exact mem_updateMany.mpr ⟨u, hu, if_pos hid⟩
  sessions := by
    rw [hsessions]
    exact .refl _
  opened := by
    intro x hx
    rw [hsessions] at hx
    exact .inl ⟨x, hx, .inl rfl⟩

/-! ### The writes the services share -/

theorem quiet_audit {event : AuditEventRow} (h : s.audit event = .ok s') : Quiet s s' := by
  simp only [AccessStore.audit, bind_ok_iff, pure_ok_iff, Database.audit_ok_iff] at h
  obtain ⟨_, ⟨t, -, rfl⟩, rfl⟩ := h
  exact .of_eq rfl rfl rfl

theorem quiet_revokeSessions (s : AccessStore) (q : LocalSessionRow → Prop) [DecidablePred q]
    (now : Instant) : Quiet s (s.revokeSessions q now) :=
  ⟨rfl, rfl, revokeSessions_kept s q now⟩

theorem quiet_revokeInvitations (s : AccessStore) (userId : String) :
    Quiet s (s.revokeInvitations userId) := .of_eq rfl rfl rfl

theorem updatePassword_other {userId identityDigest salt digest : String} {mustChange : Bool}
    (h : s.updatePassword userId identityDigest salt digest mustChange = .ok s') {key : String}
    (hkey : key ≠ userId) :
    s'.localPasswordHashes.findUnique key = s.localPasswordHashes.findUnique key := by
  simp only [AccessStore.updatePassword, bind_ok_iff, pure_ok_iff] at h
  obtain ⟨-, -, rfl⟩ := h
  refine (@findUnique_updateMany _ _ _ s.localPasswordHashes
    (fun h => h.collaboratorId = userId) _
    (LocalPasswordHashRow.replace identityDigest salt digest mustChange) (fun _ => rfl) _
    key).trans ?_
  cases hrow : s.localPasswordHashes.findUnique key with
  | none => rfl
  | some row =>
    obtain ⟨-, hmem⟩ := findUnique_eq_some.mp hrow
    have hid : row.collaboratorId = key := (List.mem_singleton.mp hmem).symm
    simp [hid, hkey]

theorem upsertPassword_other {userId identityDigest salt digest : String} {mustChange : Bool}
    (h : s.upsertPassword userId identityDigest salt digest mustChange = .ok s') {key : String}
    (hkey : key ≠ userId) :
    s'.localPasswordHashes.findUnique key = s.localPasswordHashes.findUnique key := by
  rw [AccessStore.upsertPassword] at h
  split at h
  · exact updatePassword_other h hkey
  · simp only [bind_ok_iff, pure_ok_iff, insert_ok_iff] at h
    obtain ⟨-, -, t, hcreate, rfl⟩ := h
    rw [findUnique_create hcreate, if_neg]
    exact fun hmem => hkey (List.mem_singleton.mp hmem)

theorem moves_countVersion {s₁ : AccessStore} {userId : String} {firstLoginRequired : Bool}
    (hframe : ∃ t, s₁ = { s with localPasswordHashes := t }) (hother : ∀ key, key ≠ userId →
      s₁.localPasswordHashes.findUnique key = s.localPasswordHashes.findUnique key) :
    Moves s (s₁.countVersion userId firstLoginRequired) := by
  obtain ⟨t, rfl⟩ := hframe
  refine moves_of_promoted (f := nextVersion firstLoginRequired) (fun _ => rfl) (fun u _ _ => ?_)
    rfl hother rfl
  show u.authenticationVersion < u.authenticationVersion + 1
  omega

/-! ### The requests -/

theorem requestForApi_quiet {email returnPath : Js.Json} {draw : RequestDraw} {clock : Instant}
    (h : requestForApi rt env s email returnPath draw clock = .ok s') : Quiet s s' := by
  simp only [requestForApi, bind_ok_iff] at h
  obtain ⟨-, -, email, -, returnPath, -, -, -, h⟩ := h
  rw [requestTransaction] at h
  split at h
  · cases h
    exact .of_eq rfl rfl rfl
  split at h
  · simp only [issueChallenge, bind_ok_iff, insert_ok_iff] at h
    obtain ⟨t, -, haudit⟩ := h
    refine Quiet.trans ?_ (quiet_audit haudit)
    exact .of_eq rfl rfl rfl
  · cases h
    exact .of_eq rfl rfl rfl

theorem completeForApi_moves {token returnPath nextSecret : Js.Json} {salt : String}
    (h : completeForApi rt deriveSecret env s token returnPath nextSecret salt now = .ok s') :
    Moves s s' := by
  simp only [completeForApi, bind_ok_iff] at h
  obtain ⟨-, -, ⟨text, secret⟩, -, path, -, ⟨challenge, user⟩, -, h⟩ := h
  simp only [recover, bind_ok_iff] at h
  obtain ⟨-, -, -, -, s₁, hpassword, haudit⟩ := h
  have hother : ∀ key, key ≠ _ → _ := fun key hkey => updatePassword_other hpassword hkey
  obtain ⟨t, rfl⟩ := updatePassword_frame hpassword
  have hmoves : Moves s (({ s with localPasswordHashes := t } : AccessStore).countVersion user.id
      false) := moves_countVersion ⟨t, rfl⟩ hother
  refine hmoves.quiet (Quiet.trans ?_ (quiet_audit haudit))
  exact ⟨rfl, rfl, (revokeSessions_kept _ _ now).trans (.of_eq rfl)⟩

theorem changeForApi_moves {userId currentSecret nextSecret correlationId sessionId salt : String}
    (h : changeForApi deriveSecret s userId currentSecret nextSecret correlationId sessionId salt
      now = .ok s') : Moves s s' := by
  simp only [changeForApi, bind_ok_iff] at h
  obtain ⟨-, -, user, -, credential, -, session, -, -, -, -, -, s₁, hpassword, haudit⟩ := h
  have hother : ∀ key, key ≠ _ → _ := fun key hkey => updatePassword_other hpassword hkey
  have hmoves : Moves s (s₁.countVersion userId false) :=
    moves_countVersion (updatePassword_frame hpassword) hother
  refine hmoves.quiet (Quiet.trans ?_ (quiet_audit haudit))
  exact (quiet_revokeSessions _ _ now).trans (quiet_revokeInvitations _ _)

theorem issueInvitation_quiet {collaboratorId actorId invitationId raw : String} {waited : ℕ}
    {clock : Instant}
    (h : issueInvitation rt s collaboratorId actorId invitationId raw waited clock = .ok s') :
    Quiet s s' := by
  simp only [issueInvitation, bind_ok_iff] at h
  obtain ⟨actor, -, user, -, -, -, -, -, t, -, haudit⟩ := h
  refine Quiet.trans ?_ (quiet_audit haudit)
  exact .of_eq rfl rfl rfl

theorem completeInvitation_moves {raw nextSecret salt : String}
    (h : completeInvitation rt deriveSecret s raw nextSecret salt now = .ok s') : Moves s s' := by
  simp only [completeInvitation, bind_ok_iff] at h
  obtain ⟨-, -, invitation, -, -, -, user, -, -, -, s₁, hpassword, haudit⟩ := h
  have hother : ∀ key, key ≠ _ → _ := fun key hkey => upsertPassword_other hpassword hkey
  obtain ⟨t, rfl⟩ := upsertPassword_frame hpassword
  refine (Moves.quiet ?_ (quiet_revokeSessions _ _ now)).quiet (quiet_audit haudit)
  refine moves_of_promoted (f := nextVersion false) (fun _ => rfl) (fun u _ _ => ?_) rfl hother rfl
  show u.authenticationVersion < u.authenticationVersion + 1
  omega

theorem changeAuthorizationForApi_moves {id actorId correlationId : String}
    {input : UpdateAuthorization}
    (h : changeAuthorizationForApi rt s id input actorId correlationId now = .ok s') :
    Moves s s' := by
  simp only [changeAuthorizationForApi, bind_ok_iff, pure_ok_iff] at h
  obtain ⟨⟨row, db⟩, hupdate, rfl⟩ := h
  have hmoves : Moves s { s with db } := by
    simp only [updateAuthorizationForApi, bind_ok_iff] at hupdate
    obtain ⟨-, -, user, -, actor, -, -, -, campusId, -, -, -, hupdate⟩ := hupdate
    split at hupdate
    · cases hupdate
      exact .refl s
    · simp only [changeAuthorization, bind_ok_iff, pure_ok_iff, Database.audit_ok_iff,
        Prod.mk.injEq] at hupdate
      obtain ⟨_, ⟨t, -, rfl⟩, -, rfl⟩ := hupdate
      refine moves_of_promoted
        (f := CollaboratorRow.authorize (unique input.roles) campusId input.teamId) (fun _ => rfl)
        (fun u _ _ => ?_) rfl (fun _ _ => rfl) rfl
      show u.authenticationVersion < u.authenticationVersion + 1
      omega
  split
  · exact hmoves
  · exact hmoves.quiet (quiet_revokeSessions _ _ now)

theorem createSession_moves {email password sessionId token correlationId : String}
    (h : createSession rt deriveSecret s email password sessionId token correlationId now = .ok s') :
    Moves s s' := by
  simp only [createSession, bind_ok_iff, insert_ok_iff, demand_ok_iff] at h
  obtain ⟨credential, -, -, -, user, huser, -, -, -, -, t, hcreate, haudit⟩ := h
  have hmoves : Moves s { s with localSessions := t } := ?_
  · exact hmoves.quiet (quiet_audit haudit)
  refine ⟨.refl _, fun u _ hne => absurd rfl hne, .of_create hcreate, fun x hx => ?_⟩
  rcases (mem_create hcreate).mp hx with hold | rfl
  · exact .inl ⟨x, hold, .inl rfl⟩
  · exact .inr ⟨user, (findUnique_eq_some.mp huser).1, rfl, rfl⟩

/-! ### What is counted from the memory -/

variable {result : AccessStore × Process}

theorem setStatusFrom_moves {id : String} {active : Bool}
    (husers : p.users = (UserProcess.start s.db).users)
    (h : setStatusFrom p s id active now = .ok result) : Moves s result.1 := by
  rw [setStatusFrom] at h
  split at h
  · cases h
  rename_i row process hset
  rw [setActive] at hset
  split at hset
  · cases hset
  rename_i user huser
  split at hset
  · cases hset
  obtain ⟨-, rfl⟩ := Prod.mk.inj hset
  have hversions : ∀ u ∈ s.db.collaborators.rows, u.id = id →
      u.authenticationVersion < user.authenticationVersion + 1 :=
    fun u hu hid => version_of_get_start (husers ▸ huser) hu hid
  have hmoves : ∀ {db : Database}, db.collaborators =
        s.db.collaborators.updateMany (fun u => u.id = id)
          (CollaboratorRow.activate active (user.authenticationVersion + 1))
          (CollaboratorRow.keys_activate active (user.authenticationVersion + 1)) →
      Moves s { s with db } :=
    fun hdb => moves_of_promoted (CollaboratorRow.keys_activate active _) hversions hdb
      (fun _ _ => rfl) rfl
  cases h
  cases active with
  | true => exact hmoves rfl
  | false =>
    exact ((hmoves rfl).quiet (quiet_revokeSessions _ _ now)).quiet (quiet_revokeInvitations _ _)

theorem issueTemporarySecretFrom_moves {id reason : String} {confirmed : Bool}
    {temporarySecret salt : String} (husers : p.users = (UserProcess.start s.db).users)
    (h : issueTemporarySecretFrom rt deriveSecret p s id reason confirmed temporarySecret salt now =
      .ok result) : Moves s result.1 := by
  simp only [issueTemporarySecretFrom, bind_ok_iff, demand_ok_iff, pure_ok_iff] at h
  obtain ⟨user, huser, -, -, -, -, s₁, hpassword, rfl⟩ := h
  have hother : ∀ key, key ≠ _ → _ := fun key hkey => upsertPassword_other hpassword hkey
  obtain ⟨t, rfl⟩ := upsertPassword_frame hpassword
  have hversions : ∀ u ∈ s.db.collaborators.rows, u.id = id →
      u.authenticationVersion < user.authenticationVersion + 1 :=
    fun u hu hid => version_of_get_start (husers ▸ huser) hu hid
  have hmoves : Moves s { s with
      localPasswordHashes := t
      db := { s.db with
        collaborators := s.db.collaborators.updateMany (fun u => u.id = id)
          (withFirstLogin (user.authenticationVersion + 1)) } } :=
    moves_of_promoted (f := withFirstLogin (user.authenticationVersion + 1)) (fun _ => rfl)
      hversions rfl hother rfl
  exact (hmoves.quiet (quiet_revokeSessions _ _ now)).quiet (quiet_revokeInvitations _ _)

theorem revokeFrom_quiet (p : Process) (s : AccessStore) (sessionId : String) (now : Instant) :
    Quiet s (revokeFrom p s sessionId now).1 := by
  rw [revokeFrom]
  split
  · exact .of_eq rfl rfl rfl
  · exact quiet_revokeSessions _ _ now

/-- **A request that is handled moves access on**, when the memory it counts from is as the
database. -/
theorem handle_moves {call : AccessCall}
    (husers : (refreshes call).1 = true → p.users = (UserProcess.start s.db).users)
    (h : handle rt deriveSecret env p s now call = .ok result) : Moves s result.1 := by
  -- a request that leaves the memory alone is one of the services'
  have hserve : ∀ {call : AccessCall} {result : AccessStore × Process},
      (serve rt deriveSecret env s now call).map (fun store => (store, p)) = .ok result →
      serve rt deriveSecret env s now call = .ok result.1 := by
    intro call result h
    cases hs : serve rt deriveSecret env s now call with
    | error e =>
      rw [hs] at h
      cases h
    | ok store =>
      rw [hs] at h
      rw [← Except.ok.inj h]
  cases call with
  | request email returnPath draw => exact (requestForApi_quiet (hserve h)).moves
  | deliveryUnconfirmed challengeId =>
    refine (Quiet.trans ?_ (quiet_audit (hserve h))).moves
    exact .of_eq rfl rfl rfl
  | complete token returnPath nextSecret salt => exact completeForApi_moves (hserve h)
  | changeSecret userId currentSecret nextSecret correlationId sessionId salt =>
    exact changeForApi_moves (hserve h)
  | issueInvitation collaboratorId actorId invitationId raw waited =>
    exact (issueInvitation_quiet (hserve h)).moves
  | settleInvitation invitationId sent =>
    cases h
    have hquiet : Quiet s (settleInvitation s invitationId sent now) := .of_eq rfl rfl rfl
    exact hquiet.moves
  | completeInvitation raw nextSecret salt => exact completeInvitation_moves (hserve h)
  | issueTemporarySecret id reason confirmed temporarySecret salt =>
    exact issueTemporarySecretFrom_moves (husers rfl) h
  | setStatus id active => exact setStatusFrom_moves (husers rfl) h
  | updateAuthorization id input actorId correlationId =>
    exact changeAuthorizationForApi_moves (hserve h)
  | createSession email password sessionId token correlationId =>
    exact createSession_moves (hserve h)
  | revokeSession sessionId =>
    rw [← Except.ok.inj h]
    exact (revokeFrom_quiet _ _ _ _).moves
  | revokeUser userId =>
    rw [← Except.ok.inj h]
    exact (quiet_revokeSessions _ _ now).moves
  | advance elapsed =>
    cases h
    exact .refl s

end CrmYnov.Sessions
