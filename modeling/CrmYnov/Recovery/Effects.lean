import CrmYnov.Recovery.Accounts

/-!
# What a transaction does to the challenges

Whatever a transaction does, a version only counts up, the audit trail only grows, and
a challenge that is stored stays and is used at most once
(`CrmYnov.Recovery.Spending`). One transaction alone adds a challenge: a request, which
first uses the open ones of its user, counted the recent ones, and records the version
the challenge is issued under (`CrmYnov.Recovery.Issuing`).
-/

namespace CrmYnov.Recovery

open Checked Users Table List

/-! ### The two kinds of effects -/

/-- A user whose version has counted up. -/
def Promoted (u u' : CollaboratorRow) : Prop :=
  u'.keys = u.keys ∧ u.authenticationVersion < u'.authenticationVersion

def Used (c c' : LocalRecoveryChallengeRow) : Prop := c.usedAt = none ∧ ∃ now, c' = c.use now

def Uses (f : LocalRecoveryChallengeRow → LocalRecoveryChallengeRow) : Prop :=
  ∀ c, f c = c ∨ Used c (f c)

/-- Versions count up, audit events are added, challenges are used. -/
structure Spending (s s' : AccessStore) : Prop where
  collaborators : s.db.collaborators.Grows Promoted s'.db.collaborators
  auditEvents : s.db.auditEvents.rows ⊆ s'.db.auditEvents.rows
  challenges : ∃ f, Uses f ∧
    s'.localRecoveryChallenges.rows = s.localRecoveryChallenges.rows.map f

structure Issuing (s s' : AccessStore) (clock : Instant) (user : CollaboratorRow)
    (challenge : LocalRecoveryChallengeRow) : Prop where
  known : user ∈ s.db.collaborators.rows
  holder : challenge.collaboratorId = user.id
  created : challenge.createdAt = clock
  unused : challenge.usedAt = none
  recent : ∃ now, now ≤ clock ∧ challenge.expiresAt = now + recoveryLifetime ∧
    recentChallenges s user.id now < subjectLimitPerHour
  collaborators : s'.db.collaborators = s.db.collaborators
  auditEvents : s.db.auditEvents.rows ⊆ s'.db.auditEvents.rows
  recorded : requestedAudit challenge.id user ∈ s'.db.auditEvents.rows
  challenges : ∃ f, Uses f ∧
    (∀ c ∈ s.localRecoveryChallenges.rows, c.collaboratorId = user.id → (f c).usedAt ≠ none) ∧
    s'.localRecoveryChallenges.rows = s.localRecoveryChallenges.rows.map f ++ [challenge]

variable {s s' s'' : AccessStore} {c : LocalRecoveryChallengeRow}

theorem Promoted.trans {u u' u'' : CollaboratorRow} (h : Promoted u u') (h' : Promoted u' u'') :
    Promoted u u'' := ⟨h'.1.trans h.1, h.2.trans h'.2⟩

theorem Used.usedAt {c' : LocalRecoveryChallengeRow} (h : Used c c') : c'.usedAt ≠ none := by
  obtain ⟨-, now, rfl⟩ := h
  exact Option.some_ne_none now

theorem uses_id : Uses id := fun _ => .inl rfl

theorem Uses.comp {f g : LocalRecoveryChallengeRow → LocalRecoveryChallengeRow} (hg : Uses g)
    (hf : Uses f) : Uses (g ∘ f) := by
  intro c
  rcases hf c with hc | hc
  · rw [Function.comp, hc]
    exact hg c
  · rcases hg (f c) with hgc | hgc
    · rw [Function.comp, hgc]
      exact .inr hc
    · exact absurd hgc.1 hc.usedAt

theorem Uses.id_eq {f : LocalRecoveryChallengeRow → LocalRecoveryChallengeRow} (hf : Uses f)
    (c : LocalRecoveryChallengeRow) : (f c).id = c.id ∧ (f c).tokenDigest = c.tokenDigest ∧
      (f c).collaboratorId = c.collaboratorId ∧ (f c).createdAt = c.createdAt ∧
      (f c).expiresAt = c.expiresAt := by
  rcases hf c with hc | ⟨-, now, hc⟩
  · rw [hc]
    exact ⟨rfl, rfl, rfl, rfl, rfl⟩
  · rw [hc]
    exact ⟨rfl, rfl, rfl, rfl, rfl⟩

theorem Uses.usedAt {f : LocalRecoveryChallengeRow → LocalRecoveryChallengeRow} (hf : Uses f)
    (hc : c.usedAt ≠ none) : (f c).usedAt ≠ none := by
  rcases hf c with heq | hused
  · rwa [heq]
  · exact hused.usedAt

namespace Spending

theorem of_eq (hdb : s'.db = s.db)
    (hchallenges : s'.localRecoveryChallenges = s.localRecoveryChallenges) : Spending s s' where
  collaborators := by
    rw [hdb]
    exact Grows.refl _
  auditEvents := by
    rw [hdb]
    exact Subset.refl _
  challenges := ⟨id, uses_id, by rw [hchallenges, map_id]⟩

theorem refl (s : AccessStore) : Spending s s := of_eq rfl rfl

theorem trans (h : Spending s s') (h' : Spending s' s'') : Spending s s'' where
  collaborators := h.collaborators.trans (fun _ _ _ => Promoted.trans) h'.collaborators
  auditEvents := Subset.trans h.auditEvents h'.auditEvents
  challenges := by
    obtain ⟨f, hf, heq⟩ := h.challenges
    obtain ⟨g, hg, heq'⟩ := h'.challenges
    exact ⟨g ∘ f, hg.comp hf, by rw [heq', heq, map_map]⟩

end Spending

/-! ### The writes -/

theorem audit_spending {event : AuditEventRow} (h : s.audit event = .ok s') :
    Spending s s' ∧ event ∈ s'.db.auditEvents.rows := by
  simp only [AccessStore.audit, ok_iff, Database.audit_ok_iff] at h
  obtain ⟨_, ⟨t, hcreate, rfl⟩, rfl⟩ := h
  refine ⟨⟨Grows.refl _, fun e he => ?_, id, uses_id, by rw [map_id]⟩, ?_⟩
  · exact (mem_create hcreate).mpr (.inl he)
  · exact (mem_create hcreate).mpr (.inr rfl)

theorem audit_frame {event : AuditEventRow} (h : s.audit event = .ok s') :
    s'.db.collaborators = s.db.collaborators ∧
      s'.localRecoveryChallenges = s.localRecoveryChallenges ∧ s'.localSessions = s.localSessions ∧
      s'.localAccessInvitations = s.localAccessInvitations := by
  simp only [AccessStore.audit, ok_iff, Database.audit_ok_iff] at h
  obtain ⟨_, ⟨t, -, rfl⟩, rfl⟩ := h
  exact ⟨rfl, rfl, rfl, rfl⟩

theorem updatePassword_frame {userId identityDigest salt digest : String} {mustChange : Bool}
    (h : s.updatePassword userId identityDigest salt digest mustChange = .ok s') :
    ∃ t, s' = { s with localPasswordHashes := t } := by
  simp only [AccessStore.updatePassword, ok_iff] at h
  obtain ⟨-, -, rfl⟩ := h
  exact ⟨_, rfl⟩

theorem upsertPassword_frame {userId identityDigest salt digest : String} {mustChange : Bool}
    (h : s.upsertPassword userId identityDigest salt digest mustChange = .ok s') :
    ∃ t, s' = { s with localPasswordHashes := t } := by
  rw [AccessStore.upsertPassword] at h
  split at h
  · exact updatePassword_frame h
  · simp only [ok_iff] at h
    obtain ⟨-, -, t, -, rfl⟩ := h
    exact ⟨t, rfl⟩

theorem spending_of_promoted {p : CollaboratorRow → Prop} [DecidablePred p]
    {f : CollaboratorRow → CollaboratorRow} (hkeys : ∀ u, (f u).keys = u.keys)
    (hver : ∀ u ∈ s.db.collaborators.rows, p u →
      u.authenticationVersion < (f u).authenticationVersion)
    (hcollabs : s'.db.collaborators = s.db.collaborators.updateMany p f hkeys)
    (haudit : s.db.auditEvents.rows ⊆ s'.db.auditEvents.rows)
    (hchallenges : s'.localRecoveryChallenges = s.localRecoveryChallenges) : Spending s s' where
  collaborators := by
    rw [hcollabs]
    exact Grows.of_updateMany hkeys fun u hu hp => ⟨hkeys u, hver u hu hp⟩
  auditEvents := haudit
  challenges := ⟨id, uses_id, by rw [hchallenges, map_id]⟩

theorem countVersion_spending (s : AccessStore) (userId : String) (firstLoginRequired : Bool) :
    Spending s (s.countVersion userId firstLoginRequired) := by
  refine spending_of_promoted (p := fun u => u.id = userId) (f := nextVersion firstLoginRequired)
    (fun _ => rfl) (fun u _ _ => ?_) rfl (Subset.refl _) rfl
  show u.authenticationVersion < u.authenticationVersion + 1
  omega

variable (p : LocalRecoveryChallengeRow → Prop)

/-- A challenge, used when it is open and satisfies a condition. -/
def useIf [DecidablePred p] (now : Instant) (c : LocalRecoveryChallengeRow) :
    LocalRecoveryChallengeRow :=
  if p c ∧ c.usedAt = none then c.use now else c

theorem useChallenges_rows (s : AccessStore) (p : LocalRecoveryChallengeRow → Prop)
    [DecidablePred p] (now : Instant) : (s.useChallenges p now).localRecoveryChallenges.rows =
      s.localRecoveryChallenges.rows.map (useIf p now) := rfl

theorem uses_useIf [DecidablePred p] (now : Instant) : Uses (useIf p now) := by
  intro c
  by_cases hc : p c ∧ c.usedAt = none
  · rw [useIf, if_pos hc]
    exact .inr ⟨hc.2, now, rfl⟩
  · rw [useIf, if_neg hc]
    exact .inl rfl

variable {now : Instant}

theorem usedAt_useIf {p : LocalRecoveryChallengeRow → Prop} [DecidablePred p] (hp : p c) :
    (useIf p now c).usedAt ≠ none := by
  by_cases hc : c.usedAt = none
  · rw [useIf, if_pos ⟨hp, hc⟩]
    exact Option.some_ne_none now
  · rwa [useIf, if_neg fun h => hc h.2]

theorem useChallenges_spending (s : AccessStore) (p : LocalRecoveryChallengeRow → Prop)
    [DecidablePred p] (now : Instant) : Spending s (s.useChallenges p now) where
  collaborators := Grows.refl _
  auditEvents := Subset.refl _
  challenges := ⟨useIf p now, uses_useIf p now, useChallenges_rows s p now⟩

/-! ### The transactions of the recovery -/

section Transactions

variable {rt : Runtime} {deriveSecret : String → String → String} {env : RecoveryEnvironment}

variable {user : CollaboratorRow}

theorem issueChallenge_issuing {draw : RequestDraw} {returnPath : String} {now clock : Instant}
    (hknown : user ∈ s.db.collaborators.rows) (hnow : now ≤ clock)
    (hrecent : recentChallenges s user.id now < subjectLimitPerHour)
    (h : issueChallenge rt s user draw returnPath now clock = .ok s') :
    Issuing s s' clock user (newChallenge rt user draw returnPath now clock) := by
  simp only [issueChallenge, bind_ok_iff, insert_ok_iff] at h
  obtain ⟨t, hcreate, haudit⟩ := h
  obtain ⟨hspending, hrecorded⟩ := audit_spending haudit
  obtain ⟨hcollabs, hchallenges, -, -⟩ := audit_frame haudit
  refine ⟨hknown, rfl, rfl, rfl, ⟨now, hnow, rfl, hrecent⟩, hcollabs,
    hspending.auditEvents, hrecorded, useIf (fun c => c.collaboratorId = user.id) now,
    uses_useIf _ now, fun c _ hc => usedAt_useIf hc, ?_⟩
  rw [hchallenges]
  exact create_rows hcreate

/-- **What a request does**: nothing, or a challenge is issued. -/
theorem requestForApi_cases {email returnPath : Js.Json} {draw : RequestDraw} {clock : Instant}
    (h : requestForApi rt env s email returnPath draw clock = .ok s') :
    s' = s ∨ ∃ user challenge, Issuing s s' clock user challenge := by
  simp only [requestForApi, bind_ok_iff] at h
  obtain ⟨-, -, email, -, returnPath, -, -, -, h⟩ := h
  rw [requestTransaction] at h
  split at h
  · exact .inl (pure_ok_iff.mp h).symm
  rename_i user huser
  split at h
  · rename_i hguard
    have hknown := (findUnique_eq_some.mp huser).1
    have hnow : clock - (draw.waited : ℤ) ≤ clock := Int.sub_le_self clock (Int.natCast_nonneg _)
    exact .inr ⟨user, _, issueChallenge_issuing hknown hnow hguard.2 h⟩
  · exact .inl (pure_ok_iff.mp h).symm

theorem deliveryUnconfirmed_spending {challengeId : String}
    (h : deliveryUnconfirmed s challengeId now = .ok s') : Spending s s' :=
  (useChallenges_spending s _ now).trans (audit_spending h).1

/-- What lets a token be completed: its challenge is stored, not used and not expired, its
user has an access to recover, and the audit event of the request names the version the
user is at. -/
structure Claimable (rt : Runtime) (s : AccessStore) (token : String) (now : Instant)
    (challenge : LocalRecoveryChallengeRow) (user : CollaboratorRow) : Prop where
  stored : challenge ∈ s.localRecoveryChallenges.rows
  digest : challenge.tokenDigest = rt.sha256 token
  unused : challenge.usedAt = none
  alive : now < challenge.expiresAt
  known : user ∈ s.db.collaborators.rows
  holder : user.id = challenge.collaboratorId
  bound : ∃ event ∈ s.db.auditEvents.rows, event.idempotencyKey = requestAuditKey challenge.id ∧
    BindsVersion event challenge user.authenticationVersion

theorem claimable_ok {token returnPath : String} {challenge : LocalRecoveryChallengeRow}
    (h : claimable rt s token returnPath now = .ok (challenge, user)) :
    Claimable rt s token now challenge user := by
  simp only [claimable, ok_iff] at h
  obtain ⟨challenge, hchallenge, -, ⟨hunused, halive, -⟩, event, hevent, user, huser, -,
    ⟨-, hbinds⟩, rfl, rfl⟩ := h
  obtain ⟨hstored, hdigest⟩ := findUnique_eq_some.mp hchallenge
  obtain ⟨hknown, hid⟩ := findUnique_eq_some.mp huser
  obtain ⟨hrecorded, hkey⟩ := findUnique_eq_some.mp hevent
  refine ⟨hstored, ?_, hunused, halive, hknown, CollaboratorRow.mem_keys_id.mp hid, event,
    hrecorded, (mem_singleton.mp hkey).symm, hbinds⟩
  simpa [LocalRecoveryChallengeRow.keys, eq_comm] using hdigest

/-- What a completion leaves: the user is at the next version, none of its sessions is
active, and none of its challenges is open. -/
structure Recovered (s s' : AccessStore) (user : CollaboratorRow) : Prop where
  version : nextVersion false user ∈ s'.db.collaborators.rows
  others : ∀ u ∈ s.db.collaborators.rows, u.id ≠ user.id → u ∈ s'.db.collaborators.rows
  sessions : ∀ session ∈ s'.localSessions.rows, session.collaboratorId = user.id →
    session.active = false
  challenges : ∀ c ∈ s'.localRecoveryChallenges.rows, c.collaboratorId = user.id →
    c.usedAt ≠ none

theorem inactive_of_revokeSessions {userId : String} {session : LocalSessionRow}
    (hmem : session ∈ (s.revokeSessions (fun x => x.collaboratorId = userId) now).localSessions.rows)
    (huser : session.collaboratorId = userId) : session.active = false := by
  have hmem' := mem_map.mp hmem
  obtain ⟨before, -, rfl⟩ := hmem'
  by_cases hactive : before.collaboratorId = userId ∧ before.active = true
  · rw [if_pos hactive]
    rfl
  · rw [if_neg hactive] at huser ⊢
    exact Bool.eq_false_iff.mpr fun hc => hactive ⟨huser, hc⟩

/-- **What a completion does**: the user is promoted, its sessions are revoked and its
challenges are used, all at once. -/
theorem recover_ok {challenge : LocalRecoveryChallengeRow} {returnPath nextSecret salt : String}
    (hknown : user ∈ s.db.collaborators.rows)
    (h : recover rt deriveSecret s challenge user returnPath nextSecret salt now = .ok s') :
    Spending s s' ∧ Recovered s s' user := by
  simp only [recover, bind_ok_iff] at h
  obtain ⟨-, -, -, -, s₁, hpassword, haudit⟩ := h
  obtain ⟨t, rfl⟩ := updatePassword_frame hpassword
  obtain ⟨hcollabs, hchallenges, hsessions, -⟩ := audit_frame haudit
  constructor
  · have hclaimed := useChallenges_spending s (Claims challenge user returnPath now) now
    have hversioned := countVersion_spending (s.useChallenges (Claims challenge user returnPath now)
      now) user.id false
    have hput := useChallenges_spending ((s.useChallenges (Claims challenge user returnPath now)
      now).countVersion user.id false) (fun c => c.collaboratorId = user.id) now
    have hlast := (audit_spending haudit).1
    refine ((hclaimed.trans hversioned).trans hput).trans (Spending.trans ?_ hlast)
    exact Spending.of_eq rfl rfl
  · refine ⟨?_, fun u hu hne => ?_, fun session hsession huser => ?_, fun c hc hholder => ?_⟩
    · rw [hcollabs]
      exact mem_map.mpr ⟨user, hknown, if_pos rfl⟩
    · rw [hcollabs]
      exact mem_map.mpr ⟨u, hu, if_neg hne⟩
    · rw [hsessions] at hsession
      exact inactive_of_revokeSessions hsession huser
    · rw [hchallenges] at hc
      have hc' := mem_map.mp hc
      obtain ⟨before, -, rfl⟩ := hc'
      have hbefore : before.collaboratorId = user.id := by
        rw [← hholder]
        exact ((uses_useIf (fun c => c.collaboratorId = user.id) now).id_eq before).2.2.1.symm
      exact usedAt_useIf (p := fun c => c.collaboratorId = user.id) hbefore

theorem completeForApi_ok {token returnPath nextSecret : Js.Json} {salt : String}
    (h : completeForApi rt deriveSecret env s token returnPath nextSecret salt now = .ok s') :
    ∃ text challenge user, token = .str text ∧ Claimable rt s text now challenge user ∧
      Spending s s' ∧ Recovered s s' user := by
  simp only [completeForApi, bind_ok_iff] at h
  obtain ⟨-, -, ⟨text, secret⟩, hinput, path, -, ⟨challenge, user⟩, hclaimable, h⟩ := h
  simp only [completionInput, ok_iff] at hinput
  obtain ⟨text', htext, -, -, -, -, rfl, -⟩ := hinput
  have hclaim := claimable_ok hclaimable
  have htoken : token = .str text' := by
    cases token with
    | str value => rw [Option.some.inj htext]
    | null => cases htext
    | bool value => cases htext
    | num value => cases htext
    | arr values => cases htext
    | obj members => cases htext
  exact ⟨text', challenge, user, htoken, hclaim, recover_ok hclaim.known h⟩

/-! ### The other transactions -/

theorem changeForApi_spending {userId currentSecret nextSecret correlationId : String}
    {sessionId salt : String}
    (h : changeForApi deriveSecret s userId currentSecret nextSecret correlationId sessionId salt
      now = .ok s') : Spending s s' := by
  simp only [changeForApi, bind_ok_iff] at h
  obtain ⟨-, -, user, -, credential, -, session, -, -, -, -, -, s₁, hpassword, haudit⟩ := h
  obtain ⟨t, rfl⟩ := updatePassword_frame hpassword
  have hversioned := countVersion_spending s userId false
  refine hversioned.trans (Spending.trans ?_ (audit_spending haudit).1)
  exact Spending.of_eq rfl rfl

theorem issueInvitation_spending {collaboratorId actorId invitationId raw : String} {waited : ℕ}
    {clock : Instant}
    (h : issueInvitation rt s collaboratorId actorId invitationId raw waited clock = .ok s') :
    Spending s s' := by
  simp only [issueInvitation, bind_ok_iff] at h
  obtain ⟨actor, -, user, -, -, -, -, -, t, -, haudit⟩ := h
  refine Spending.trans ?_ (audit_spending haudit).1
  exact Spending.of_eq rfl rfl

theorem completeInvitation_spending {raw nextSecret salt : String}
    (h : completeInvitation rt deriveSecret s raw nextSecret salt now = .ok s') :
    Spending s s' := by
  simp only [completeInvitation, bind_ok_iff] at h
  obtain ⟨-, -, invitation, -, -, -, user, -, -, -, s₁, hpassword, haudit⟩ := h
  obtain ⟨t, rfl⟩ := upsertPassword_frame hpassword
  have hversioned := countVersion_spending s user.id false
  refine hversioned.trans (Spending.trans ?_ (audit_spending haudit).1)
  exact Spending.of_eq rfl rfl

theorem createSession_spending {email password sessionId token correlationId : String}
    (h : createSession rt deriveSecret s email password sessionId token correlationId now = .ok s') :
    Spending s s' := by
  simp only [createSession, bind_ok_iff] at h
  obtain ⟨credential, -, -, -, user, -, -, -, -, -, t, -, haudit⟩ := h
  refine Spending.trans ?_ (audit_spending haudit).1
  exact Spending.of_eq rfl rfl

/-! The memory that is read before a call of an administrator holds the users of the
database, so that the version it counts from is theirs. -/

theorem mem_of_get_start {db : Database} {id : String}
    (h : (UserProcess.start db).users.get id = some user) :
    user ∈ db.collaborators.rows ∧ user.id = id := by
  obtain ⟨row, hrow, heq⟩ := mem_map.mp (Dict.mem_of_get_ofList h)
  obtain ⟨rfl, rfl⟩ := Prod.mk.inj heq
  exact ⟨hrow, rfl⟩

theorem version_of_get_start {db : Database} {id : String} {user u : CollaboratorRow}
    (h : (UserProcess.start db).users.get id = some user) (hu : u ∈ db.collaborators.rows)
    (hid : u.id = id) : u.authenticationVersion < user.authenticationVersion + 1 := by
  obtain ⟨hmem, huser⟩ := mem_of_get_start h
  have heq : u = user := db.collaborators.eq_of_key hu hmem
    (CollaboratorRow.mem_keys_id.mpr (hid.trans huser.symm)) (CollaboratorRow.mem_keys_id.mpr rfl)
  rw [heq]
  omega

theorem issueTemporarySecret_spending {id reason : String} {confirmed : Bool}
    {temporarySecret salt : String}
    (h : issueTemporarySecret rt deriveSecret s id reason confirmed temporarySecret salt now =
      .ok s') : Spending s s' := by
  simp only [issueTemporarySecret, ok_iff] at h
  obtain ⟨user, huser, -, -, -, -, s₁, hpassword, rfl⟩ := h
  obtain ⟨t, rfl⟩ := upsertPassword_frame hpassword
  exact spending_of_promoted (p := fun u => u.id = id)
    (f := withFirstLogin (user.authenticationVersion + 1)) (fun _ => rfl)
    (fun u hu hid => version_of_get_start huser hu hid) rfl (Subset.refl _) rfl

theorem setStatus_spending {id : String} {active : Bool} (h : setStatus s id active now = .ok s') :
    Spending s s' := by
  rw [setStatus] at h
  split at h
  · cases h
  rename_i row process hset
  rw [setActive] at hset
  split at hset
  · cases hset
  rename_i user huser
  split at hset
  · cases hset
  obtain ⟨-, rfl⟩ := Prod.mk.inj hset
  have hversions := fun u hu hid => version_of_get_start (u := u) huser hu hid
  cases active with
  | true =>
    cases h
    exact spending_of_promoted (p := fun u => u.id = id)
      (f := CollaboratorRow.activate true (user.authenticationVersion + 1)) (fun _ => rfl)
      hversions rfl (Subset.refl _) rfl
  | false =>
    cases h
    exact spending_of_promoted (p := fun u => u.id = id)
      (f := CollaboratorRow.activate false (user.authenticationVersion + 1)) (fun _ => rfl)
      hversions rfl (Subset.refl _) rfl

theorem changeAuthorizationForApi_spending {id actorId correlationId : String}
    {input : UpdateAuthorization}
    (h : changeAuthorizationForApi rt s id input actorId correlationId now = .ok s') :
    Spending s s' := by
  simp only [changeAuthorizationForApi, ok_iff] at h
  obtain ⟨⟨row, db⟩, hupdate, rfl⟩ := h
  have hspending : Spending s { s with db } := by
    simp only [updateAuthorizationForApi, bind_ok_iff] at hupdate
    obtain ⟨-, -, user, -, actor, -, -, -, campusId, -, -, -, hupdate⟩ := hupdate
    split at hupdate
    · cases hupdate
      exact Spending.refl s
    · simp only [changeAuthorization, ok_iff, Database.audit_ok_iff] at hupdate
      obtain ⟨_, ⟨t, hcreate, rfl⟩, -, rfl⟩ := hupdate
      refine spending_of_promoted (p := fun u => u.id = user.id)
        (f := CollaboratorRow.authorize (unique input.roles) campusId input.teamId)
        (fun _ => rfl) (fun u _ _ => ?_) rfl (fun e he => ?_) rfl
      · show u.authenticationVersion < u.authenticationVersion + 1
        omega
      · exact (mem_create hcreate).mpr (.inl he)
  split
  · exact hspending
  · refine hspending.trans ?_
    exact Spending.of_eq rfl rfl

end Transactions

end CrmYnov.Recovery
