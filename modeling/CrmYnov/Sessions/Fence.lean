import CrmYnov.Sessions.Moves

/-!
# The version of a user, over all processes

A user is never under a lower version than it was, and is under a higher one after each change of
its password, of its authorization or of its activity, whichever process made the change: the
version that is counted from a memory is counted from the database, since this memory was read
again behind the fence (`CrmYnov.Sessions.Coherent`). A session that was opened before such a
change is refused by every authentication that begins after it
(`CrmYnov.Sessions.authentication_fenced`).
-/

namespace CrmYnov.Sessions

open Checked Users Recovery List

variable {rt : Runtime} {deriveSecret : String → String → String} {env : RecoveryEnvironment}
  {s s' : AccessStore} {S : Cluster}

/-! ### One step -/

/-- What every state keeps: the memory a request counts from is as the database, and a session is
under the version of its user, or one before it. -/
structure Coherent (S : Cluster) : Prop where
  memory : ∀ i call, S.holder = some (i, call) → (refreshes call).1 = true →
    (S.processes i).users = (UserProcess.start S.store.db).users
  versions : ∀ x ∈ S.store.localSessions.rows, ∃ u ∈ S.store.db.collaborators.rows,
    u.id = x.collaboratorId ∧ x.authenticationVersion ≤ u.authenticationVersion

theorem id_of_promoted {u u' : CollaboratorRow} (h : Promoted u u') : u'.id = u.id := by
  have hmem : CollaboratorRow.Key.id u.id ∈ u'.keys := by
    rw [h.1]
    exact CollaboratorRow.mem_keys_id.mpr rfl
  exact CollaboratorRow.mem_keys_id.mp hmem

theorem Moves.user (h : Moves s s') {u : CollaboratorRow} (hu : u ∈ s.db.collaborators.rows) :
    ∃ u' ∈ s'.db.collaborators.rows, u'.id = u.id ∧
      u.authenticationVersion ≤ u'.authenticationVersion := by
  obtain ⟨u', hu', rfl | hpromoted⟩ := h.users u hu
  · exact ⟨u', hu', rfl, le_refl _⟩
  · exact ⟨u', hu', id_of_promoted hpromoted, hpromoted.2.le⟩

theorem Moves.versions (h : Moves s s')
    (hversions : ∀ x ∈ s.localSessions.rows, ∃ u ∈ s.db.collaborators.rows,
      u.id = x.collaboratorId ∧ x.authenticationVersion ≤ u.authenticationVersion) :
    ∀ x ∈ s'.localSessions.rows, ∃ u ∈ s'.db.collaborators.rows,
      u.id = x.collaboratorId ∧ x.authenticationVersion ≤ u.authenticationVersion := by
  intro x hx
  obtain ⟨u, hu, hid, hle⟩ : ∃ u ∈ s.db.collaborators.rows,
      u.id = x.collaboratorId ∧ x.authenticationVersion ≤ u.authenticationVersion := by
    rcases h.opened x hx with ⟨y, hy, rfl | ⟨-, huser, hver, -⟩⟩ | ⟨u, hu, huser, hver⟩
    · exact hversions x hy
    · rw [huser, hver]
      exact hversions y hy
    · exact ⟨u, hu, huser.symm, hver.le⟩
  obtain ⟨u', hu', hid', hle'⟩ := h.user hu
  exact ⟨u', hu', hid'.trans hid, hle.trans hle'⟩

theorem refresh_users (call : AccessCall) (store : AccessStore) (now : Instant) (p : Process)
    (h : (refreshes call).1 = true) :
    (refresh call store now p).users = (UserProcess.start store.db).users := by
  rw [refresh, if_pos h]
  split <;> rfl

variable (rt deriveSecret env) in
/-- **A step moves access on.** -/
theorem next_moves (hS : Coherent S) (a : ClusterAction) :
    Moves S.store (S.next rt deriveSecret env a).store := by
  cases a with
  | enter i actor call =>
    show Moves S.store (S.enter i actor call).store
    rw [Cluster.enter]
    split <;> exact .refl _
  | finish committed =>
    show Moves S.store (S.finish rt deriveSecret env committed).store
    rw [Cluster.finish]
    split
    · exact .refl _
    · rename_i i call hholder
      split
      · exact .refl _
      · rename_i store p hhandle
        cases committed with
        | false => exact .refl _
        | true => exact handle_moves (hS.memory i call hholder) hhandle
  | look i token =>
    show Moves S.store (S.look rt i token).store
    rw [Cluster.look]
    split <;> exact .refl _
  | identify n =>
    show Moves S.store (S.identify n).store
    rw [Cluster.identify]
    split <;> exact .refl _
  | restart i => exact .refl _
  | settle invitationId sent =>
    have hquiet : Quiet S.store (settleInvitation S.store invitationId sent S.clock) :=
      .of_eq rfl rfl rfl
    exact hquiet.moves
  | advance elapsed => exact .refl _

theorem identify_users (S : Cluster) (n i : ℕ) :
    ((S.identify n).processes i).users = (S.processes i).users := by
  rw [Cluster.identify]
  split
  · rename_i j row principal mustChangeSecret _ _
    simp only [Cluster.setProcess, Function.update_apply]
    split
    · rename_i heq
      rw [heq]
    · rfl
  · rfl

theorem identify_holder (S : Cluster) (n : ℕ) : (S.identify n).holder = S.holder := by
  rw [Cluster.identify]
  split <;> rfl

theorem identify_store (S : Cluster) (n : ℕ) : (S.identify n).store = S.store := by
  rw [Cluster.identify]
  split <;> rfl

variable (rt deriveSecret env) in
theorem Coherent.next (hS : Coherent S) (a : ClusterAction) :
    Coherent (S.next rt deriveSecret env a) := by
  refine ⟨?_, (next_moves rt deriveSecret env hS a).versions hS.versions⟩
  intro i call hholder hrefresh
  cases a with
  | enter j actor call' =>
    simp only [Cluster.next, Cluster.enter] at hholder ⊢
    split at hholder
    · cases hholder
      simp only [Cluster.setProcess, Function.update_self]
      exact refresh_users _ _ _ _ hrefresh
    · exact hS.memory i call hholder hrefresh
  | finish committed =>
    simp only [Cluster.next, Cluster.finish] at hholder
    split at hholder
    · rename_i hnone
      rw [hnone] at hholder
      cases hholder
    · split at hholder <;> cases hholder
  | look j token =>
    simp only [Cluster.next, Cluster.look] at hholder ⊢
    split at hholder <;> exact hS.memory i call hholder hrefresh
  | identify n =>
    simp only [Cluster.next] at hholder ⊢
    rw [identify_holder] at hholder
    rw [identify_users, identify_store]
    exact hS.memory i call hholder hrefresh
  | restart j =>
    simp only [Cluster.next, Cluster.restart, Option.filter_eq_some_iff] at hholder ⊢
    obtain ⟨hholder, hother⟩ := hholder
    have hne : i ≠ j := by simpa using hother
    simp only [Cluster.setProcess, Function.update_of_ne hne]
    exact hS.memory i call hholder hrefresh
  | settle invitationId sent => exact hS.memory i call hholder hrefresh
  | advance elapsed => exact hS.memory i call hholder hrefresh

/-! ### Runs -/

variable (rt deriveSecret env)

theorem coherent_start (db : Database)
    (localPasswordHashes : Table LocalPasswordHashRow LocalPasswordHashRow.keys)
    (localRecoveryChallenges : Table LocalRecoveryChallengeRow LocalRecoveryChallengeRow.keys)
    (localAccessInvitations : Table LocalAccessInvitationRow LocalAccessInvitationRow.keys)
    (clock : Instant) : Coherent (.start db localPasswordHashes localRecoveryChallenges
      localAccessInvitations clock) :=
  ⟨fun i call h => (by cases h), fun x hx => (by cases hx)⟩

theorem coherent_run (hS : Coherent S) (as : List ClusterAction) :
    Coherent ((cluster rt deriveSecret env).run S as) :=
  Machine.run_of_stable (M := cluster rt deriveSecret env) (fun _ a h => h.next rt deriveSecret env a) hS as

theorem user_run (hS : Coherent S) {u : CollaboratorRow} (hu : u ∈ S.store.db.collaborators.rows)
    (as : List ClusterAction) :
    ∃ u' ∈ ((cluster rt deriveSecret env).run S as).store.db.collaborators.rows, u'.id = u.id ∧
      u.authenticationVersion ≤ u'.authenticationVersion := by
  induction as generalizing S u with
  | nil => exact ⟨u, hu, rfl, le_refl _⟩
  | cons a as ih =>
    obtain ⟨u₁, hu₁, hid₁, hle₁⟩ := (next_moves rt deriveSecret env hS a).user hu
    obtain ⟨u', hu', hid', hle'⟩ := ih (hS.next rt deriveSecret env a) hu₁
    exact ⟨u', hu', hid'.trans hid₁, hle₁.trans hle'⟩

theorem flights_next (S : Cluster) (a : ClusterAction) :
    S.flights <+: (S.next rt deriveSecret env a).flights := by
  cases a with
  | enter i actor call =>
    show S.flights <+: (S.enter i actor call).flights
    rw [Cluster.enter]
    split <;> exact prefix_refl _
  | finish committed =>
    show S.flights <+: (S.finish rt deriveSecret env committed).flights
    rw [Cluster.finish]
    split
    · exact prefix_refl _
    · split <;> exact prefix_refl _
  | look i token =>
    show S.flights <+: (S.look rt i token).flights
    rw [Cluster.look]
    split
    · exact prefix_refl _
    · exact prefix_append _ _
  | identify n =>
    show S.flights <+: (S.identify n).flights
    rw [Cluster.identify]
    split <;> exact prefix_refl _
  | restart i => exact prefix_refl _
  | settle invitationId sent => exact prefix_refl _
  | advance elapsed => exact prefix_refl _

theorem flights_run (S : Cluster) (as : List ClusterAction) :
    S.flights <+: ((cluster rt deriveSecret env).run S as).flights := by
  induction as generalizing S with
  | nil => exact prefix_refl _
  | cons a as ih => exact (flights_next rt deriveSecret env S a).trans (ih _)

/-- **The reading of an authentication**: the session that its token named when it began. -/
theorem flight_of_look {T : Cluster} {token : String} {row : LocalSessionRow}
    (hrow : T.store.localSessions.findUnique (.digest (rt.sha256 token)) = some row) (i : ℕ)
    (post : List ClusterAction) :
    ((cluster rt deriveSecret env).run (T.next rt deriveSecret env (.look i token))
      post).flights[T.flights.length]? = some (i, row) := by
  have hlook : (T.next rt deriveSecret env (.look i token)).flights = T.flights ++ [(i, row)] := by
    simp only [Cluster.next, Cluster.look, hrow]
  obtain ⟨later, hlater⟩ := flights_run rt deriveSecret env
    (T.next rt deriveSecret env (.look i token)) post
  rw [← hlater, hlook]
  simp

/-- **The fence of the versions**, over all processes and every order of what they do: the version
of a user never goes down, and goes up with every change of its row or of its password; a session
is never under a higher version than its user; and once the version went up, no authentication that
begins afterwards accepts a session that was opened under an earlier one. -/
theorem authentication_fenced (db : Database)
    (localPasswordHashes : Table LocalPasswordHashRow LocalPasswordHashRow.keys)
    (localRecoveryChallenges : Table LocalRecoveryChallengeRow LocalRecoveryChallengeRow.keys)
    (localAccessInvitations : Table LocalAccessInvitationRow LocalAccessInvitationRow.keys)
    (clock : Instant) (pre : List ClusterAction) (a : ClusterAction) :
    let M := cluster rt deriveSecret env
    let S := M.run (.start db localPasswordHashes localRecoveryChallenges localAccessInvitations
      clock) pre
    let S' := M.next S a
    (∀ u ∈ S.store.db.collaborators.rows, ∃ u' ∈ S'.store.db.collaborators.rows, u'.id = u.id ∧
      u.authenticationVersion ≤ u'.authenticationVersion ∧
      (u' ≠ u ∨ S'.store.localPasswordHashes.findUnique u.id ≠
          S.store.localPasswordHashes.findUnique u.id →
        u.authenticationVersion < u'.authenticationVersion)) ∧
    (∀ row ∈ S.store.localSessions.rows, ∃ u ∈ S.store.db.collaborators.rows,
      u.id = row.collaboratorId ∧ row.authenticationVersion ≤ u.authenticationVersion) ∧
    (∀ u ∈ S.store.db.collaborators.rows, ∀ u' ∈ S'.store.db.collaborators.rows, u'.id = u.id →
      u.authenticationVersion < u'.authenticationVersion →
      ∀ post i token row, (M.run S' post).store.localSessions.findUnique
          (.digest (rt.sha256 token)) = some row →
        row.collaboratorId = u.id → row.authenticationVersion ≤ u.authenticationVersion →
        ∀ post', M.answer (M.run (M.next (M.run S' post) (.look i token)) post')
          (.identify (M.run S' post).flights.length) = none) := by
  intro M S S'
  have hS : Coherent S := coherent_run rt deriveSecret env
    (coherent_start db localPasswordHashes localRecoveryChallenges localAccessInvitations clock) pre
  have hS' : Coherent S' := hS.next rt deriveSecret env a
  have hmoves : Moves S.store S'.store := next_moves rt deriveSecret env hS a
  refine ⟨fun u hu => ?_, hS.versions, fun u hu u' hu' hid hlt post i token row hrow huser hle
    post' => ?_⟩
  · obtain ⟨u', hu', hrel⟩ := hmoves.users u hu
    by_cases hpassword : S'.store.localPasswordHashes.findUnique u.id =
        S.store.localPasswordHashes.findUnique u.id
    · rcases hrel with rfl | hpromoted
      · exact ⟨u', hu', rfl, le_refl _, fun h => (h.elim (absurd rfl) (absurd hpassword))⟩
      · exact ⟨u', hu', id_of_promoted hpromoted, hpromoted.2.le, fun _ => hpromoted.2⟩
    · obtain ⟨u'', hu'', hpromoted⟩ := hmoves.passwords u hu hpassword
      exact ⟨u'', hu'', id_of_promoted hpromoted, hpromoted.2.le, fun _ => hpromoted.2⟩
  · -- whatever happens until the user is read, its version stays above that of the session
    have hT : Coherent (M.run S' post) := coherent_run rt deriveSecret env hS' post
    obtain ⟨v, hv, hvid, hvle⟩ := user_run rt deriveSecret env hS' hu'
      (post ++ .look i token :: post')
    have hflight := flight_of_look rt deriveSecret env hrow i post'
    rw [Machine.run_append, Machine.run_cons] at hv
    show ((M.run (M.next (M.run S' post) (.look i token)) post').flights[
      (M.run S' post).flights.length]?.bind _) = none
    refine (congrArg (fun f => Option.bind f _) hflight).trans ?_
    show principalOf _ _ row = none
    rw [principalOf]
    split
    · rfl
    · rename_i user hfound
      obtain ⟨hmem, hkey⟩ := Table.findUnique_eq_some.mp hfound
      have huserId : user.id = row.collaboratorId := CollaboratorRow.mem_keys_id.mp hkey
      have heq : user = v := Table.eq_of_key _ hmem hv (CollaboratorRow.mem_keys_id.mpr rfl)
        (CollaboratorRow.mem_keys_id.mpr
          (((hvid.trans hid).trans huser.symm).trans huserId.symm))
      refine if_neg fun hacc => ?_
      have hver := hacc.2.2.2.1
      rw [heq] at hver
      omega

end CrmYnov.Sessions
