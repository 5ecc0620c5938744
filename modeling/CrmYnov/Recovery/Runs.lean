import CrmYnov.Base.Machine
import CrmYnov.Recovery.Effects

/-!
# Recoveries in every run

Requests, completions, changes of passwords by a first login, by an invitation and by
an administrator, changes of activity and of authorization, logins and revocations, in
any order, while the clock advances. Return paths, tokens and passwords are whatever a
caller sends.

In every state of every run a user has one live challenge at most and was issued three
at most during any hour, and a completion either changes nothing or is the first one of
its token, before it expires, by a user whose row is the one the token was issued
under; it then leaves the user at the next version, with no active session and no open
challenge (`CrmYnov.Recovery.recovery_throughout`).
-/

namespace CrmYnov.Recovery

open Checked Users Table Machine

/-! ### The machine -/

structure Access where
  store : AccessStore
  clock : Instant

/-- Before the first recovery: whatever collaborators, passwords, sessions and invitations
there are, no challenge was issued. -/
def Access.start (db : Database)
    (localPasswordHashes : Table LocalPasswordHashRow LocalPasswordHashRow.keys)
    (localSessions : Table LocalSessionRow LocalSessionRow.keys)
    (localAccessInvitations : Table LocalAccessInvitationRow LocalAccessInvitationRow.keys)
    (clock : Instant) : Access :=
  ⟨{ db, localPasswordHashes, localSessions, localAccessInvitations }, clock⟩

/-- What is asked of the services, and the clock that advances. -/
inductive AccessCall
  | request (email returnPath : Js.Json) (draw : RequestDraw)
  | deliveryUnconfirmed (challengeId : String)
  | complete (token returnPath nextSecret : Js.Json) (salt : String)
  | changeSecret (userId currentSecret nextSecret correlationId sessionId salt : String)
  | issueInvitation (collaboratorId actorId invitationId raw : String) (waited : ℕ)
  | settleInvitation (invitationId : String) (sent : Bool)
  | completeInvitation (raw nextSecret salt : String)
  | issueTemporarySecret (id reason : String) (confirmed : Bool) (temporarySecret salt : String)
  | setStatus (id : String) (active : Bool)
  | updateAuthorization (id : String) (input : UpdateAuthorization) (actorId correlationId : String)
  | createSession (email password sessionId token correlationId : String)
  | revokeSession (sessionId : String)
  | revokeUser (userId : String)
  | advance (elapsed : ℕ)

variable (rt : Runtime) (deriveSecret : String → String → String) (env : RecoveryEnvironment)

def serve (store : AccessStore) (clock : Instant) : AccessCall → Outcome AccessStore
  | .request email returnPath draw => requestForApi rt env store email returnPath draw clock
  | .deliveryUnconfirmed challengeId => deliveryUnconfirmed store challengeId clock
  | .complete token returnPath nextSecret salt =>
    completeForApi rt deriveSecret env store token returnPath nextSecret salt clock
  | .changeSecret userId currentSecret nextSecret correlationId sessionId salt =>
    changeForApi deriveSecret store userId currentSecret nextSecret correlationId sessionId salt clock
  | .issueInvitation collaboratorId actorId invitationId raw waited =>
    issueInvitation rt store collaboratorId actorId invitationId raw waited clock
  | .settleInvitation invitationId sent => .ok (settleInvitation store invitationId sent clock)
  | .completeInvitation raw nextSecret salt =>
    completeInvitation rt deriveSecret store raw nextSecret salt clock
  | .issueTemporarySecret id reason confirmed temporarySecret salt =>
    issueTemporarySecret rt deriveSecret store id reason confirmed temporarySecret salt clock
  | .setStatus id active => setStatus store id active clock
  | .updateAuthorization id input actorId correlationId =>
    changeAuthorizationForApi rt store id input actorId correlationId clock
  | .createSession email password sessionId token correlationId =>
    createSession rt deriveSecret store email password sessionId token correlationId clock
  | .revokeSession sessionId =>
    .ok (store.revokeSessions (fun s => s.id = sessionId ∧ clock < s.expiresAt) clock)
  | .revokeUser userId => .ok (store.revokeSessions (fun s => s.collaboratorId = userId) clock)
  | .advance _ => .ok store

def AccessCall.elapsed : AccessCall → ℕ
  | .advance elapsed => elapsed
  | _ => 0

/-- The services of access, and the clock. What throws is rolled back. -/
def access : Machine Access AccessCall (Outcome Unit) where
  step s call := match serve rt deriveSecret env s.store s.clock call with
    | .ok store => (.ok (), ⟨store, s.clock + call.elapsed⟩)
    | .error e => (.error e, s)

variable {rt deriveSecret env} {s : Access} {call : AccessCall}

variable {store : AccessStore}

/-- **What a call does**: it is refused and changes nothing, or it spends challenges, or
it issues one. -/
theorem serve_cases (h : serve rt deriveSecret env s.store s.clock call = .ok store) :
    Spending s.store store ∨ ∃ user challenge, Issuing s.store store s.clock user challenge := by
  cases call with
  | request email returnPath draw =>
    rcases requestForApi_cases h with rfl | hissuing
    · exact .inl (Spending.refl _)
    · exact .inr hissuing
  | deliveryUnconfirmed challengeId => exact .inl (deliveryUnconfirmed_spending h)
  | complete token returnPath nextSecret salt =>
    obtain ⟨text, challenge, user, -, -, hspending, -⟩ := completeForApi_ok h
    exact .inl hspending
  | changeSecret userId currentSecret nextSecret correlationId sessionId salt =>
    exact .inl (changeForApi_spending h)
  | issueInvitation collaboratorId actorId invitationId raw waited =>
    exact .inl (issueInvitation_spending h)
  | settleInvitation invitationId sent =>
    cases h
    exact .inl (Spending.of_eq rfl rfl)
  | completeInvitation raw nextSecret salt => exact .inl (completeInvitation_spending h)
  | issueTemporarySecret id reason confirmed temporarySecret salt =>
    exact .inl (issueTemporarySecret_spending h)
  | setStatus id active => exact .inl (setStatus_spending h)
  | updateAuthorization id input actorId correlationId =>
    exact .inl (changeAuthorizationForApi_spending h)
  | createSession email password sessionId token correlationId =>
    exact .inl (createSession_spending h)
  | revokeSession sessionId =>
    cases h
    exact .inl (Spending.of_eq rfl rfl)
  | revokeUser userId =>
    cases h
    exact .inl (Spending.of_eq rfl rfl)
  | advance elapsed =>
    cases h
    exact .inl (Spending.refl _)

theorem access_cases (rt : Runtime) (deriveSecret : String → String → String)
    (env : RecoveryEnvironment) (s : Access) (call : AccessCall) :
    Spending s.store ((access rt deriveSecret env).next s call).store ∨
      ∃ user challenge, Issuing s.store ((access rt deriveSecret env).next s call).store s.clock user
        challenge := by
  simp only [access, next]
  cases h : serve rt deriveSecret env s.store s.clock call with
  | ok store => exact serve_cases h
  | error e => exact .inl (Spending.refl _)

/-! ### What every state keeps -/

/-- A user has one open challenge at most, and was issued three at most during any
hour. -/
structure Sound (store : AccessStore) : Prop where
  oneOpen : Tickets.OneUnspent LocalRecoveryChallengeRow.collaboratorId (fun c => c.usedAt ≠ none)
    store.localRecoveryChallenges.rows
  limited : Tickets.Limited LocalRecoveryChallengeRow.collaboratorId
    LocalRecoveryChallengeRow.createdAt subjectLimitPerHour subjectWindow
    store.localRecoveryChallenges.rows

variable {store' : AccessStore}

theorem Sound.uses (h : Sound store) {f : LocalRecoveryChallengeRow → LocalRecoveryChallengeRow}
    (hf : Uses f)
    (hrows : store'.localRecoveryChallenges.rows = store.localRecoveryChallenges.rows.map f) :
    Sound store' where
  oneOpen := by
    rw [hrows]
    exact h.oneOpen.map (fun c => (hf.id_eq c).2.2.1) fun c hc => hf.usedAt hc
  limited := by
    rw [hrows]
    exact h.limited.map (fun c => (hf.id_eq c).2.2.1) fun c => (hf.id_eq c).2.2.2.1

variable {user : CollaboratorRow} {challenge : LocalRecoveryChallengeRow}

variable {clock : Instant}

theorem Sound.issuing (h : Sound store)
    (hissuing : Issuing store store' clock user challenge) : Sound store' := by
  obtain ⟨f, hf, hspent, hrows⟩ := hissuing.challenges
  obtain ⟨now, hnow, -, hrecent⟩ := hissuing.recent
  have hholder : ∀ c, (f c).collaboratorId = c.collaboratorId := fun c => (hf.id_eq c).2.2.1
  have hcreated : ∀ c, (f c).createdAt = c.createdAt := fun c => (hf.id_eq c).2.2.2.1
  constructor
  · rw [hrows]
    refine (h.oneOpen.map hholder fun c hc => hf.usedAt hc).issue fun c hc heq => ?_
    obtain ⟨before, hbefore, rfl⟩ := List.mem_map.mp hc
    rw [hholder, hissuing.holder] at heq
    exact hspent before hbefore heq
  · rw [hrows]
    refine (h.limited.map hholder hcreated).issue (hissuing.created.symm ▸ hnow) ?_
    rw [recentChallenges, count, findMany, ← List.countP_eq_length_filter] at hrecent
    rw [List.countP_map]
    refine lt_of_le_of_lt (List.countP_mono_left fun c _ hc => ?_) hrecent
    simpa only [Function.comp, hholder, hcreated, hissuing.holder] using hc

/-- **One call** keeps what every state keeps. -/
theorem sound_step (h : Sound s.store) :
    Sound ((access rt deriveSecret env).next s call).store := by
  rcases access_cases rt deriveSecret env s call with hspending | ⟨user, challenge, hissuing⟩
  · obtain ⟨f, hf, hrows⟩ := hspending.challenges
    exact h.uses hf hrows
  · exact h.issuing hissuing

theorem sound_run (h : Sound s.store) (calls : List AccessCall) :
    Sound ((access rt deriveSecret env).run s calls).store :=
  run_of_stable (P := fun s : Access => Sound s.store) (fun _ _ => sound_step) h calls

/-! ### Earlier and later states -/

structure Later (s s' : AccessStore) : Prop where
  collaborators : s.db.collaborators.Grows Promoted s'.db.collaborators
  auditEvents : s.db.auditEvents.rows ⊆ s'.db.auditEvents.rows
  challenges : ∃ f, Uses f ∧ ∀ c ∈ s.localRecoveryChallenges.rows,
    f c ∈ s'.localRecoveryChallenges.rows

theorem Later.refl (s : AccessStore) : Later s s :=
  ⟨Grows.refl _, List.Subset.refl _, id, uses_id, fun _ hc => hc⟩

theorem Later.trans {s s' s'' : AccessStore} (h : Later s s') (h' : Later s' s'') : Later s s'' := by
  obtain ⟨f, hf, hkept⟩ := h.challenges
  obtain ⟨g, hg, hkept'⟩ := h'.challenges
  exact ⟨h.collaborators.trans (fun _ _ _ => Promoted.trans) h'.collaborators,
    List.Subset.trans h.auditEvents h'.auditEvents, g ∘ f, hg.comp hf,
    fun c hc => hkept' _ (hkept c hc)⟩

theorem Spending.later {s s' : AccessStore} (h : Spending s s') : Later s s' := by
  obtain ⟨f, hf, hrows⟩ := h.challenges
  refine ⟨h.collaborators, h.auditEvents, f, hf, fun c hc => ?_⟩
  rw [hrows]
  exact List.mem_map_of_mem hc

theorem Issuing.later {s s' : AccessStore} (h : Issuing s s' clock user challenge) :
    Later s s' := by
  obtain ⟨f, hf, -, hrows⟩ := h.challenges
  refine ⟨?_, h.auditEvents, f, hf, fun c hc => ?_⟩
  · rw [h.collaborators]
    exact Grows.refl _
  · rw [hrows]
    exact List.mem_append_left _ (List.mem_map_of_mem hc)

theorem later_step (rt : Runtime) (deriveSecret : String → String → String)
    (env : RecoveryEnvironment) (s : Access) (call : AccessCall) :
    Later s.store ((access rt deriveSecret env).next s call).store := by
  rcases access_cases rt deriveSecret env s call with hspending | ⟨user, challenge, hissuing⟩
  · exact hspending.later
  · exact hissuing.later

theorem later_run (s : Access) (calls : List AccessCall) :
    Later s.store ((access rt deriveSecret env).run s calls).store :=
  run_of_stable (P := fun s' : Access => Later s.store s'.store)
    (fun s' call h => h.trans (later_step rt deriveSecret env s' call)) (Later.refl s.store) calls

theorem Later.same_user {s s' s'' : AccessStore} {u u' : CollaboratorRow} (h : Later s s')
    (h' : Later s' s'') (hu : u ∈ s.db.collaborators.rows) (hu' : u' ∈ s''.db.collaborators.rows)
    (hid : u'.id = u.id) (hver : u'.authenticationVersion = u.authenticationVersion) :
    u = u' ∧ u ∈ s'.db.collaborators.rows := by
  obtain ⟨mid, hmid, hstep⟩ := h.collaborators u hu
  obtain ⟨last, hlast, hstep'⟩ := h'.collaborators mid hmid
  have hkeys : mid.keys = u.keys := by
    rcases hstep with rfl | hpromoted
    · rfl
    · exact hpromoted.1
  have hkeys' : last.keys = mid.keys := by
    rcases hstep' with rfl | hpromoted
    · rfl
    · exact hpromoted.1
  have hmem : CollaboratorRow.Key.id u.id ∈ last.keys := by
    rw [hkeys', hkeys]
    exact CollaboratorRow.mem_keys_id.mpr rfl
  obtain rfl : last = u' := s''.db.collaborators.eq_of_key hlast hu' hmem
    (CollaboratorRow.mem_keys_id.mpr hid)
  -- a version that counted up would be above the one it was
  rcases hstep with rfl | hpromoted <;> rcases hstep' with rfl | hpromoted'
  · exact ⟨rfl, hmid⟩
  · exact absurd hpromoted'.2 (by omega)
  · exact absurd hpromoted.2 (by omega)
  · exact absurd (hpromoted.2.trans hpromoted'.2) (by omega)

/-! ### Where a challenge comes from -/

variable (rt deriveSecret env) in
/-- The call, taken in a state, issues the challenge to the user. -/
def Issues (s : Access) (call : AccessCall) (user : CollaboratorRow)
    (challenge : LocalRecoveryChallengeRow) : Prop :=
  ∃ issued, issued.id = challenge.id ∧ issued.collaboratorId = challenge.collaboratorId ∧
    issued.expiresAt = challenge.expiresAt ∧
    Issuing s.store ((access rt deriveSecret env).next s call).store s.clock user issued

/-- **A challenge was issued by a call of the run.** -/
theorem issued_of_mem {start : Access} (hstart : start.store.localRecoveryChallenges.rows = [])
    (calls : List AccessCall) (h : challenge ∈
      ((access rt deriveSecret env).run start calls).store.localRecoveryChallenges.rows) :
    ∃ before call after user, calls = before ++ call :: after ∧
      Issues rt deriveSecret env ((access rt deriveSecret env).run start before) call user
        challenge := by
  -- the run is followed from its end: its last call issued the challenge, or found it
  induction calls using List.reverseRecOn generalizing challenge with
  | nil =>
    rw [run_nil, hstart] at h
    cases h
  | append_singleton calls call ih =>
    rw [run_append, run_cons, run_nil] at h
    have hfound : ∀ f, Uses f → ∀ c ∈ ((access rt deriveSecret env).run start
        calls).store.localRecoveryChallenges.rows, f c = challenge → ∃ before call' after user,
        calls ++ [call] = before ++ call' :: after ∧ Issues rt deriveSecret env
          ((access rt deriveSecret env).run start before) call' user challenge := by
      intro f hf c hc heq
      obtain ⟨before, call', after, user, rfl, issued, hid, hholder, hexpires, hissuing⟩ := ih hc
      obtain ⟨hid', -, hholder', -, hexpires'⟩ := hf.id_eq c
      rw [heq] at hid' hholder' hexpires'
      refine ⟨before, call', after ++ [call], user, by simp, issued, ?_, ?_, ?_, hissuing⟩
      · rw [hid, hid']
      · rw [hholder, hholder']
      · rw [hexpires, hexpires']
    rcases access_cases rt deriveSecret env ((access rt deriveSecret env).run start calls) call with
      hspending | ⟨user, issued, hissuing⟩
    · obtain ⟨f, hf, hrows⟩ := hspending.challenges
      rw [hrows] at h
      obtain ⟨c, hc, heq⟩ := List.mem_map.mp h
      exact hfound f hf c hc heq
    · obtain ⟨f, hf, -, hrows⟩ := hissuing.challenges
      rw [hrows] at h
      rcases List.mem_append.mp h with h | h
      · obtain ⟨c, hc, heq⟩ := List.mem_map.mp h
        exact hfound f hf c hc heq
      · obtain rfl := List.mem_singleton.mp h
        exact ⟨calls, call, [], user, rfl, challenge, rfl, rfl, rfl, hissuing⟩

/-- The audit event that binds a challenge to the version of a user is the one that was
recorded when the challenge was issued to this user under this version. -/
theorem bound_of_issuing {s s' s'' : AccessStore} {user issuedTo : CollaboratorRow}
    {challenge issued : LocalRecoveryChallengeRow} {event : AuditEventRow}
    (hissuing : Issuing s s' clock issuedTo issued) (hid : issued.id = challenge.id)
    (hlater : Later s' s'') (hevent : event ∈ s''.db.auditEvents.rows)
    (hkey : event.idempotencyKey = requestAuditKey challenge.id)
    (hbinds : BindsVersion event challenge user.authenticationVersion) :
    issuedTo.id = challenge.collaboratorId ∧
      issuedTo.authenticationVersion = user.authenticationVersion := by
  have hrecorded := hlater.auditEvents hissuing.recorded
  have heq : event = requestedAudit issued.id issuedTo :=
    s''.db.auditEvents.eq_of_key hevent hrecorded
      (k := requestAuditKey challenge.id) (by simp [AuditEventRow.keys, hkey])
      (by simp [AuditEventRow.keys, requestedAudit, hid])
  obtain ⟨-, -, hresource, -, hver, -⟩ := hbinds
  rw [heq] at hresource hver
  have htext : toString issuedTo.authenticationVersion = toString user.authenticationVersion :=
    hver
  exact ⟨hresource, Js.toString_int_inj htext⟩

/-! ### Completions -/

variable (rt deriveSecret env) in
def Completes (s : Access) (call : AccessCall) (token : String) : Prop :=
  ∃ returnPath nextSecret salt, call = .complete (.str token) returnPath nextSecret salt ∧
    (access rt deriveSecret env).answer s call = .ok ()

def Spent (rt : Runtime) (token : String) (store : AccessStore) : Prop :=
  ∃ c ∈ store.localRecoveryChallenges.rows, c.tokenDigest = rt.sha256 token ∧ c.usedAt ≠ none

variable {token : String}

theorem Spent.later (h : Spent rt token store) (hlater : Later store store') :
    Spent rt token store' := by
  obtain ⟨c, hc, hdigest, hused⟩ := h
  obtain ⟨f, hf, hkept⟩ := hlater.challenges
  exact ⟨f c, hkept c hc, (hf.id_eq c).2.1.trans hdigest, hf.usedAt hused⟩

theorem Claimable.not_spent {now : Instant}
    (h : Claimable rt store token now challenge user) : ¬Spent rt token store := by
  rintro ⟨c, hc, hdigest, hused⟩
  have heq : c = challenge := store.localRecoveryChallenges.eq_of_key hc h.stored
    (k := .digest (rt.sha256 token)) (by simp [LocalRecoveryChallengeRow.keys, hdigest])
    (by simp [LocalRecoveryChallengeRow.keys, h.digest])
  rw [heq] at hused
  exact hused h.unused

theorem completes_spec {token returnPath nextSecret : Js.Json} {salt : String}
    (h : (access rt deriveSecret env).answer s (.complete token returnPath nextSecret salt) =
      .ok ()) : ∃ text challenge user, token = .str text ∧
      Claimable rt s.store text s.clock challenge user ∧
      Recovered s.store ((access rt deriveSecret env).next s (.complete token returnPath nextSecret
        salt)).store user ∧
      Spent rt text ((access rt deriveSecret env).next s (.complete token returnPath nextSecret
        salt)).store := by
  simp only [access, answer, next] at h ⊢
  cases hserve : serve rt deriveSecret env s.store s.clock
      (.complete token returnPath nextSecret salt) with
  | error e =>
    rw [hserve] at h
    cases h
  | ok store =>
    obtain ⟨text, challenge, user, htoken, hclaimable, hspending, hrecovered⟩ :=
      completeForApi_ok hserve
    refine ⟨text, challenge, user, htoken, hclaimable, hrecovered, ?_⟩
    obtain ⟨f, hf, hkept⟩ := hspending.later.challenges
    obtain ⟨-, hdigest, hholder, -, -⟩ := hf.id_eq challenge
    exact ⟨f challenge, hkept challenge hclaimable.stored, hdigest.trans hclaimable.digest,
      hrecovered.challenges _ (hkept challenge hclaimable.stored)
        (hholder.trans hclaimable.holder.symm)⟩

/-- What is so of a token when it is completed after a run: its challenge was issued by
the run, to the very row its user has now, which no call wrote to in between; it is
before its expiry; and no call of the run completed the token. -/
structure Rightful (rt : Runtime) (deriveSecret : String → String → String)
    (env : RecoveryEnvironment) (start : Access) (calls : List AccessCall) (token : String)
    (challenge : LocalRecoveryChallengeRow) (user : CollaboratorRow) : Prop where
  digest : challenge.tokenDigest = rt.sha256 token
  holder : challenge.collaboratorId = user.id
  alive : ((access rt deriveSecret env).run start calls).clock < challenge.expiresAt
  first : ∀ before call after, calls = before ++ call :: after →
    ¬Completes rt deriveSecret env ((access rt deriveSecret env).run start before) call token
  issued : ∃ before call after, calls = before ++ call :: after ∧
    Issues rt deriveSecret env ((access rt deriveSecret env).run start before) call user challenge ∧
    ∀ mid, mid <+: after → user ∈ ((access rt deriveSecret env).run start
      (before ++ call :: mid)).store.db.collaborators.rows

theorem rightful_of_claimable {start : Access}
    (hstart : start.store.localRecoveryChallenges.rows = []) {calls : List AccessCall}
    (h : Claimable rt ((access rt deriveSecret env).run start calls).store token
      ((access rt deriveSecret env).run start calls).clock challenge user) :
    Rightful rt deriveSecret env start calls token challenge user := by
  refine ⟨h.digest, h.holder.symm, h.alive, ?_, ?_⟩
  · -- a token that was completed is spent, and stays so
    rintro before call after rfl ⟨returnPath, nextSecret, salt, rfl, hans⟩
    obtain ⟨text, -, -, htoken, -, -, hspent⟩ := completes_spec hans
    obtain rfl := Js.Json.str.inj htoken
    rw [run_append, run_cons] at h
    exact h.not_spent (hspent.later (later_run _ after))
  · obtain ⟨before, call, after, issuedTo, rfl, issued, hid, hholder, hexpires, hissuing⟩ :=
      issued_of_mem hstart calls h.stored
    obtain ⟨event, hevent, hkey, hbinds⟩ := h.bound
    have hlater : ∀ mid rest, after = mid ++ rest →
        Later ((access rt deriveSecret env).run start (before ++ call :: mid)).store
          ((access rt deriveSecret env).run start (before ++ call :: after)).store := by
      rintro mid rest rfl
      rw [← List.cons_append, ← List.append_assoc, run_append _ start (before ++ call :: mid)]
      exact later_run _ rest
    have hnext : ∀ mid, Later ((access rt deriveSecret env).next
        ((access rt deriveSecret env).run start before) call).store
        ((access rt deriveSecret env).run start (before ++ call :: mid)).store := by
      intro mid
      rw [run_append, run_cons]
      exact later_run _ mid
    obtain ⟨hissuedTo, hver⟩ := bound_of_issuing hissuing hid (hnext after) hevent hkey hbinds
    have hknown : issuedTo ∈ ((access rt deriveSecret env).next
        ((access rt deriveSecret env).run start before) call).store.db.collaborators.rows := by
      rw [hissuing.collaborators]
      exact hissuing.known
    have hsame := fun mid rest heq => (hnext mid).same_user (hlater mid rest heq) hknown h.known
      (h.holder.trans hissuedTo.symm) hver.symm
    obtain ⟨rfl, -⟩ := hsame after [] (List.append_nil after).symm
    refine ⟨before, call, after, rfl, ⟨issued, hid, hholder, hexpires, hissuing⟩, ?_⟩
    rintro mid ⟨rest, heq⟩
    exact (hsame mid rest heq.symm).2

/-- The live challenges of a user: those that are neither used nor expired. -/
def liveChallenges (s : Access) (userId : String) : ℕ :=
  s.store.localRecoveryChallenges.count fun c =>
    c.collaboratorId = userId ∧ c.usedAt = none ∧ s.clock < c.expiresAt

def issuedDuring (s : Access) (userId : String) (from' : Instant) : ℕ :=
  s.store.localRecoveryChallenges.count fun c =>
    c.collaboratorId = userId ∧ from' ≤ c.createdAt ∧ c.createdAt < from' + subjectWindow

theorem liveChallenges_le {s : Access} (h : Sound s.store) (userId : String) :
    liveChallenges s userId ≤ 1 := by
  rw [liveChallenges, count, findMany, ← List.countP_eq_length_filter]
  refine le_trans (List.countP_mono_left fun c _ hc => ?_) (h.oneOpen userId)
  simp only [decide_eq_true_eq] at hc ⊢
  exact ⟨hc.1, not_not_intro hc.2.1⟩

theorem issuedDuring_le {s : Access} (h : Sound s.store) (userId : String) (from' : Instant) :
    issuedDuring s userId from' ≤ 3 := by
  rw [issuedDuring, count, findMany, ← List.countP_eq_length_filter]
  exact h.limited userId from'

/-- **Access recovery, in every run**: a user has one live challenge at most and was issued
three at most during any hour; a completion is refused and changes nothing, or it is
rightful, and leaves its user at the next version without a session or a challenge. -/
theorem recovery_throughout (rt : Runtime) (deriveSecret : String → String → String)
    (env : RecoveryEnvironment) (db : Database)
    (localPasswordHashes : Table LocalPasswordHashRow LocalPasswordHashRow.keys)
    (localSessions : Table LocalSessionRow LocalSessionRow.keys)
    (localAccessInvitations : Table LocalAccessInvitationRow LocalAccessInvitationRow.keys)
    (clock : Instant) (calls : List AccessCall) :
    let start := Access.start db localPasswordHashes localSessions localAccessInvitations clock
    let s := (access rt deriveSecret env).run start calls
    (∀ userId, liveChallenges s userId ≤ 1) ∧
      (∀ userId from', issuedDuring s userId from' ≤ 3) ∧
      ∀ token returnPath nextSecret salt,
        let call := AccessCall.complete token returnPath nextSecret salt
        (∃ e, (access rt deriveSecret env).step s call = (.error e, s)) ∨
          ∃ text challenge user, token = .str text ∧
            (access rt deriveSecret env).answer s call = .ok () ∧
            Rightful rt deriveSecret env start calls text challenge user ∧
            Recovered s.store ((access rt deriveSecret env).next s call).store user := by
  intro start s
  have hempty : Sound start.store := ⟨Tickets.oneUnspent_nil, Tickets.limited_nil⟩
  have hsound : Sound s.store := sound_run hempty calls
  refine ⟨liveChallenges_le hsound, issuedDuring_le hsound, fun token returnPath nextSecret salt => ?_⟩
  intro call
  cases hserve : serve rt deriveSecret env s.store s.clock call with
  | error e =>
    refine .inl ⟨e, ?_⟩
    simp only [access, hserve]
  | ok store =>
    have hans : (access rt deriveSecret env).answer s call = .ok () := by
      simp only [access, answer, hserve]
    obtain ⟨text, challenge, user, htoken, hclaimable, hrecovered, -⟩ := completes_spec hans
    exact .inr ⟨text, challenge, user, htoken, hans, rightful_of_claimable rfl hclaimable,
      hrecovered⟩

end CrmYnov.Recovery
