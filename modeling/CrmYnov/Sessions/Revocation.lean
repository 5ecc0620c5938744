import CrmYnov.Sessions.Fence

/-!
# The revocation of a session

A session is revoked when the memory of the process that is asked holds it. What a memory holds are
sessions of the database (`CrmYnov.Sessions.Loaded`), and behind the fence it holds every session
that is active and not expired, whichever process opened it. A session that expired is not read, so
that its revocation writes nothing; its token is refused all the same
(`CrmYnov.Sessions.revocation_effective`).
-/

namespace CrmYnov.Sessions

open Checked Users Recovery Machine List

variable (rt : Runtime) (deriveSecret : String → String → String) (env : RecoveryEnvironment)
  {S : Cluster} {row : LocalSessionRow} {i : ℕ}

/-! ### Sessions that no token opens any more -/

def Dead (S : Cluster) (row : LocalSessionRow) : Prop :=
  ∃ row' ∈ S.store.localSessions.rows, row'.keys = row.keys ∧
    (row'.active = false ∨ row'.expiresAt ≤ S.clock)

theorem clock_next (S : Cluster) (a : ClusterAction) :
    S.clock ≤ (S.next rt deriveSecret env a).clock := by
  cases a with
  | enter i actor call =>
    show S.clock ≤ (S.enter i actor call).clock
    rw [Cluster.enter]
    split <;> exact le_refl _
  | finish committed =>
    show S.clock ≤ (S.finish rt deriveSecret env committed).clock
    rw [Cluster.finish]
    split
    · exact le_refl _
    · split <;> exact le_refl _
  | look i token =>
    show S.clock ≤ (S.look rt i token).clock
    rw [Cluster.look]
    split <;> exact le_refl _
  | identify n =>
    show S.clock ≤ (S.identify n).clock
    rw [Cluster.identify]
    split <;> exact le_refl _
  | restart i => exact le_refl _
  | settle invitationId sent => exact le_refl _
  | advance elapsed =>
    exact Int.le_add_of_nonneg_right (Int.natCast_nonneg elapsed)

theorem Dead.next (hS : Coherent S) (h : Dead S row) (a : ClusterAction) :
    Dead (S.next rt deriveSecret env a) row := by
  obtain ⟨row₁, hrow₁, hkeys₁, hdead⟩ := h
  obtain ⟨row', hrow', rfl | hended⟩ := (next_moves rt deriveSecret env hS a).sessions row₁ hrow₁
  · exact ⟨row', hrow', hkeys₁, hdead.imp id fun h => h.trans (clock_next rt deriveSecret env S a)⟩
  · exact ⟨row', hrow', hended.1.trans hkeys₁, .inl hended.2.2.2⟩

theorem Dead.run (hS : Coherent S) (h : Dead S row) (as : List ClusterAction) :
    Dead ((cluster rt deriveSecret env).run S as) row :=
  (run_of_stable (M := cluster rt deriveSecret env) (P := fun S => Coherent S ∧ Dead S row)
    (fun _ a h =>
      ⟨h.1.next rt deriveSecret env a, h.2.next rt deriveSecret env h.1 a⟩) ⟨hS, h⟩ as).2

theorem clock_run (S : Cluster) (as : List ClusterAction) :
    S.clock ≤ ((cluster rt deriveSecret env).run S as).clock :=
  run_of_stable (M := cluster rt deriveSecret env) (P := fun T => S.clock ≤ T.clock)
    (fun T a h => h.trans (clock_next rt deriveSecret env T a)) (le_refl _) as

/-- **The token of a dead session is refused**, whenever its authentication goes on. -/
theorem Dead.refused (h : Dead S row) {token : String} (htoken : rt.sha256 token = row.tokenDigest)
    (j : ℕ) (post : List ClusterAction) :
    (cluster rt deriveSecret env).answer ((cluster rt deriveSecret env).run
      (S.next rt deriveSecret env (.look j token)) post) (.identify S.flights.length) = none := by
  obtain ⟨row', hrow', hkeys, hdead⟩ := h
  have hfound : S.store.localSessions.findUnique (.digest (rt.sha256 token)) = some row' := by
    refine Table.findUnique_of_mem hrow' ?_
    rw [hkeys, htoken]
    exact mem_cons_of_mem _ mem_cons_self
  have hflight := flight_of_look rt deriveSecret env hfound j post
  refine (congrArg (fun f => Option.bind f _) hflight).trans ?_
  show principalOf _ _ row' = none
  rw [principalOf]
  split
  · rfl
  · refine if_neg fun hacc => ?_
    rcases hdead with hinactive | hexpired
    · rw [hinactive] at hacc
      exact Bool.false_ne_true hacc.1
    · have hclock : S.clock ≤ ((cluster rt deriveSecret env).run
          (S.next rt deriveSecret env (.look j token)) post).clock :=
        (clock_next rt deriveSecret env S _).trans (clock_run rt deriveSecret env _ post)
      exact absurd (hexpired.trans hclock) (not_le.mpr hacc.2.1)

/-! ### What the memories hold -/

theorem row_eq {t : Table LocalSessionRow LocalSessionRow.keys} {x y : LocalSessionRow}
    (hx : x ∈ t.rows) (hy : y ∈ t.rows) (hdigest : x.tokenDigest = y.tokenDigest) : x = y := by
  refine t.eq_of_key hx hy (k := .digest x.tokenDigest) ?_ ?_
  · exact mem_cons_of_mem _ mem_cons_self
  · rw [hdigest]
    exact mem_cons_of_mem _ mem_cons_self

theorem keys_eq {x y : LocalSessionRow} (h : x.keys = y.keys) :
    x.id = y.id ∧ x.tokenDigest = y.tokenDigest := by
  simpa [LocalSessionRow.keys] using h

/-- What an authentication has read is a session of the database. -/
def Known (S : Cluster) : Prop :=
  ∀ f ∈ S.flights, ∃ x ∈ S.store.localSessions.rows, x.keys = f.2.keys

theorem Known.next (hS : Coherent S) (h : Known S) (a : ClusterAction) :
    Known (S.next rt deriveSecret env a) := by
  have hmoves := next_moves rt deriveSecret env hS a
  have hstay : ∀ x ∈ S.store.localSessions.rows, ∃ x' ∈
      (S.next rt deriveSecret env a).store.localSessions.rows, x'.keys = x.keys := by
    intro x hx
    obtain ⟨x', hx', rfl | hended⟩ := hmoves.sessions x hx
    · exact ⟨x', hx', rfl⟩
    · exact ⟨x', hx', hended.1⟩
  have hold : ∀ f ∈ S.flights, ∃ x ∈ (S.next rt deriveSecret env a).store.localSessions.rows,
      x.keys = f.2.keys := by
    intro f hf
    obtain ⟨x, hx, hkeys⟩ := h f hf
    obtain ⟨x', hx', hkeys'⟩ := hstay x hx
    exact ⟨x', hx', hkeys'.trans hkeys⟩
  intro f hf
  by_cases hmem : f ∈ S.flights
  · exact hold f hmem
  · -- only a look adds a reading, of a session of the database
    cases a with
    | look j token =>
      simp only [Cluster.next, Cluster.look] at hf ⊢
      split at hf
      · exact absurd hf hmem
      · rename_i x hfound
        rcases mem_append.mp hf with hf | hf
        · exact absurd hf hmem
        · obtain rfl := mem_singleton.mp hf
          exact ⟨x, (Table.findUnique_eq_some.mp hfound).1, rfl⟩
    | enter j actor call =>
      refine absurd ?_ hmem
      simp only [Cluster.next, Cluster.enter] at hf
      split at hf <;> exact hf
    | finish committed =>
      refine absurd ?_ hmem
      simp only [Cluster.next, Cluster.finish] at hf
      split at hf
      · exact hf
      · split at hf <;> exact hf
    | identify n =>
      refine absurd ?_ hmem
      simp only [Cluster.next, Cluster.identify] at hf
      split at hf <;> exact hf
    | restart j => exact absurd hf hmem
    | settle invitationId sent => exact absurd hf hmem
    | advance elapsed => exact absurd hf hmem

/-- The request that holds the fence is the revocation of a session, which the memory of its
process holds. -/
structure Loaded (S : Cluster) (i : ℕ) (row : LocalSessionRow) : Prop where
  holder : S.holder = some (i, .revokeSession row.id)
  stored : row ∈ S.store.localSessions.rows
  known : Known S
  held : ∃ record, (S.processes i).sessions.get row.tokenDigest = some record ∧
    record.sessionId = row.id

/-- A request goes on behind the fence: it does not end, and its process does not start again. -/
def Pending (i : ℕ) : ClusterAction → Prop
  | .finish _ => False
  | .restart j => j ≠ i
  | _ => True

theorem principalOf_session {store : AccessStore} {now : Instant} {x : LocalSessionRow}
    {principal : Principal} {mustChangeSecret : Bool}
    (h : principalOf store now x = some (principal, mustChangeSecret)) :
    principal.sessionId = x.id := by
  rw [principalOf] at h
  split at h
  · cases h
  · split at h
    · cases h
      rfl
    · cases h

/-- **The memory holds the session until the request is handled**: an authentication that is
accepted meanwhile puts the same session into it. -/
theorem Loaded.next (hS : Coherent S) (h : Loaded S i row) {a : ClusterAction} (ha : Pending i a) :
    Loaded (S.next rt deriveSecret env a) i row := by
  have hknown := h.known.next rt deriveSecret env hS a
  obtain ⟨record, hget, hrecord⟩ := h.held
  cases a with
  | enter j actor call =>
    have hrefused : S.next rt deriveSecret env (.enter j actor call) = S := by
      simp only [Cluster.next, Cluster.enter, h.holder]
    rw [hrefused]
    exact h
  | finish committed => exact absurd ha id
  | look j token =>
    refine ⟨?_, ?_, hknown, ⟨record, ?_, hrecord⟩⟩
    · simp only [Cluster.next, Cluster.look]
      split <;> exact h.holder
    · simp only [Cluster.next, Cluster.look]
      split <;> exact h.stored
    · simp only [Cluster.next, Cluster.look]
      split <;> exact hget
  | identify n =>
    refine ⟨(identify_holder S n).trans h.holder, ?_, hknown, ?_⟩
    · show row ∈ (S.identify n).store.localSessions.rows
      rw [identify_store]
      exact h.stored
    · simp only [Cluster.next, Cluster.identify]
      split
      · rename_i j x principal mustChangeSecret hflight hidentified
        simp only [Cluster.setProcess, Function.update_apply]
        by_cases hj : i = j
        · rw [if_pos hj]
          simp only [Dict.get_set]
          by_cases hdigest : row.tokenDigest = x.tokenDigest
          · obtain ⟨y, hy, hkeys⟩ := h.known _ (mem_of_getElem? hflight)
            obtain ⟨hid, hdigest'⟩ := keys_eq hkeys
            have hsame := row_eq hy h.stored (hdigest'.trans hdigest.symm)
            have hsession : principal.sessionId = x.id := by
              simp only [Cluster.identified, hflight, Option.bind_some] at hidentified
              exact principalOf_session hidentified
            refine ⟨_, if_pos hdigest, ?_⟩
            show principal.sessionId = row.id
            rw [hsession, ← hsame]
            exact hid.symm
          · exact ⟨record, (if_neg hdigest).trans (hj ▸ hget), hrecord⟩
        · rw [if_neg hj]
          exact ⟨record, hget, hrecord⟩
      · exact ⟨record, hget, hrecord⟩
  | restart j =>
    have hne : i ≠ j := fun hij => ha hij.symm
    refine ⟨?_, h.stored, hknown, record, ?_, hrecord⟩
    · simp [Cluster.next, Cluster.restart, h.holder, hne]
    · simp only [Cluster.next, Cluster.restart, Cluster.setProcess, Function.update_of_ne hne]
      exact hget
  | settle invitationId sent => exact ⟨h.holder, h.stored, hknown, record, hget, hrecord⟩
  | advance elapsed => exact ⟨h.holder, h.stored, hknown, record, hget, hrecord⟩

theorem Loaded.run (hS : Coherent S) (h : Loaded S i row) {mid : List ClusterAction}
    (hmid : ∀ a ∈ mid, Pending i a) :
    Loaded ((cluster rt deriveSecret env).run S mid) i row :=
  ((throughout_of_meets (M := cluster rt deriveSecret env)
    (I := fun S => Coherent S ∧ Loaded S i row) (C := fun _ a => Pending i a)
    (fun _ a h ha =>
      ⟨h.1.next rt deriveSecret env a, h.2.next rt deriveSecret env h.1 ha⟩) ⟨hS, h⟩
    (meets_of_forall _ hmid)).last).2

theorem sessionOf_of_get {p : Process} {digest sessionId : String} {record : SessionRecord}
    (hget : p.sessions.get digest = some record) (hid : record.sessionId = sessionId) :
    ∃ e, p.sessionOf sessionId = some e := by
  refine Option.isSome_iff_exists.mp (find?_isSome.mpr ⟨(digest, record), ?_, by simpa using hid⟩)
  exact Dict.get_eq_some.mp hget

/-- **The revocation reaches the database.** -/
theorem Loaded.finish (h : Loaded S i row) :
    Dead (S.next rt deriveSecret env (.finish true)) row ∧
      ∃ row' ∈ (S.next rt deriveSecret env (.finish true)).store.localSessions.rows,
        row'.keys = row.keys ∧ row'.active = false := by
  obtain ⟨record, hget, hrecord⟩ := h.held
  obtain ⟨⟨digest, found⟩, hfound⟩ := sessionOf_of_get hget hrecord
  have hstore : (S.next rt deriveSecret env (.finish true)).store =
      S.store.revokeSessions (fun x => x.id = row.id) S.clock := by
    simp only [Cluster.next, Cluster.finish, h.holder, handle, revokeFrom, hfound]
    rfl
  have hended : ∃ row' ∈ (S.next rt deriveSecret env (.finish true)).store.localSessions.rows,
      row'.keys = row.keys ∧ row'.active = false := by
    rw [hstore]
    refine ⟨_, mem_map.mpr ⟨row, h.stored, rfl⟩, ?_⟩
    by_cases hactive : row.active = true
    · rw [if_pos ⟨rfl, hactive⟩]
      exact ⟨rfl, rfl⟩
    · rw [if_neg fun h => hactive h.2]
      exact ⟨rfl, by simpa using hactive⟩
  obtain ⟨row', hrow', hkeys, hinactive⟩ := hended
  exact ⟨⟨row', hrow', hkeys, .inl hinactive⟩, row', hrow', hkeys, hinactive⟩

/-- **Behind the fence the memory holds every live session.** -/
theorem loaded_of_enter (hknown : Known S) (hfree : S.holder = none) {actor : Actor}
    (hauthorized : authorizeRevocation S.store S.clock actor row.id = .ok ())
    (hrow : row ∈ S.store.localSessions.rows) (hactive : row.active = true)
    (hlive : S.clock < row.expiresAt) :
    Loaded (S.next rt deriveSecret env (.enter i actor (.revokeSession row.id))) i row := by
  have hentered : S.next rt deriveSecret env (.enter i actor (.revokeSession row.id)) =
      { S.setProcess i (refresh (.revokeSession row.id) S.store S.clock (S.processes i)) with
        holder := some (i, .revokeSession row.id) } := by
    simp only [Cluster.next, Cluster.enter, hfree, authorize, hauthorized]
  rw [hentered]
  refine ⟨rfl, hrow, hknown, recordOf S.store row, ?_, rfl⟩
  simp only [Cluster.setProcess, Function.update_self]
  refine (Dict.get_ofList_of_functional ?_).mpr
    (mem_map.mpr ⟨row, Table.mem_findMany.mpr ⟨hrow, hactive, hlive⟩, rfl⟩)
  intro e he e' he' hkey
  obtain ⟨x, hx, rfl⟩ := mem_map.mp he
  obtain ⟨x', hx', rfl⟩ := mem_map.mp he'
  rw [row_eq (Table.mem_findMany.mp hx).1 (Table.mem_findMany.mp hx').1 hkey]

/-! ### Every run -/

theorem known_run (hS : Coherent S) (h : Known S) (as : List ClusterAction) :
    Known ((cluster rt deriveSecret env).run S as) :=
  (run_of_stable (M := cluster rt deriveSecret env) (P := fun S => Coherent S ∧ Known S)
    (fun _ a h =>
      ⟨h.1.next rt deriveSecret env a, h.2.next rt deriveSecret env h.1 a⟩) ⟨hS, h⟩ as).2

theorem stored_run (hS : Coherent S) (hrow : row ∈ S.store.localSessions.rows)
    (as : List ClusterAction) :
    ∃ row' ∈ ((cluster rt deriveSecret env).run S as).store.localSessions.rows,
      row' = row ∨ Ended row row' := by
  induction as using reverseRecOn with
  | nil => exact ⟨row, hrow, .inl rfl⟩
  | append_singleton as a ih =>
    obtain ⟨x, hx, hrel⟩ := ih
    rw [run_append]
    obtain ⟨x', hx', hrel'⟩ := (next_moves rt deriveSecret env
      (coherent_run rt deriveSecret env hS as) a).sessions x hx
    refine ⟨x', hx', ?_⟩
    rcases hrel' with rfl | hended'
    · exact hrel
    · rcases hrel with rfl | hended
      · exact .inr hended'
      · exact .inr (hended.trans _ _ _ hended')

/-- **A revocation is effective.** A request to revoke a session that is active passes the fence,
whichever process receives it and whichever opened the session; it is handled, and its transaction
is committed. For ever after the session is inactive in the database, if it had not expired when
the request passed the fence; and in any case no process accepts its token. -/
theorem revocation_effective (db : Database)
    (localPasswordHashes : Table LocalPasswordHashRow LocalPasswordHashRow.keys)
    (localRecoveryChallenges : Table LocalRecoveryChallengeRow LocalRecoveryChallengeRow.keys)
    (localAccessInvitations : Table LocalAccessInvitationRow LocalAccessInvitationRow.keys)
    (clock : Instant) (pre : List ClusterAction) :
    let M := cluster rt deriveSecret env
    let S := M.run (.start db localPasswordHashes localRecoveryChallenges localAccessInvitations
      clock) pre
    ∀ i actor row, S.holder = none → authorizeRevocation S.store S.clock actor row.id = .ok () →
      row ∈ S.store.localSessions.rows → row.active = true →
      ∀ mid, (∀ a ∈ mid, Pending i a) → ∀ post,
        let T := M.run S (.enter i actor (.revokeSession row.id) :: mid ++ .finish true :: post)
        (S.clock < row.expiresAt → ∃ row' ∈ T.store.localSessions.rows, row'.keys = row.keys ∧
          row'.active = false) ∧
        ∀ token, rt.sha256 token = row.tokenDigest → ∀ j post',
          M.answer (M.run (M.next T (.look j token)) post') (.identify T.flights.length) =
            none := by
  intro M S i actor row hfree hauthorized hrow hactive mid hmid post T
  have hstart := coherent_start db localPasswordHashes localRecoveryChallenges
    localAccessInvitations clock
  have hS : Coherent S := coherent_run rt deriveSecret env hstart pre
  have hknown : Known S := known_run rt deriveSecret env hstart (fun f hf => (by cases hf)) pre
  by_cases hlive : S.clock < row.expiresAt
  · -- the memory holds the session from the fence on, until the request is handled
    let E := M.next S (.enter i actor (.revokeSession row.id))
    have hE : Coherent E := hS.next rt deriveSecret env (.enter i actor (.revokeSession row.id))
    have hloaded : Loaded (M.run E mid) i row :=
      (loaded_of_enter rt deriveSecret env hknown hfree hauthorized hrow hactive hlive).run rt
        deriveSecret env hE hmid
    have hafter : Coherent (M.next (M.run E mid) (.finish true)) :=
      (coherent_run rt deriveSecret env hE mid).next rt deriveSecret env (.finish true)
    have hT : T = M.run (M.next (M.run E mid) (.finish true)) post := by
      show M.run S (.enter i actor (.revokeSession row.id) :: (mid ++ .finish true :: post)) = _
      rw [run_cons, run_append, run_cons]
    obtain ⟨hdead, row₁, hrow₁, hkeys₁, hinactive₁⟩ := hloaded.finish rt deriveSecret env
    refine ⟨fun _ => ?_, fun token htoken j post' => ?_⟩
    · obtain ⟨row', hrow', hrel⟩ := stored_run rt deriveSecret env hafter hrow₁ post
      rw [hT]
      rcases hrel with rfl | hended
      · exact ⟨row', hrow', hkeys₁, hinactive₁⟩
      · exact ⟨row', hrow', hended.1.trans hkeys₁, hended.2.2.2⟩
    · have hlast : Dead T row := by
        rw [hT]
        exact hdead.run rt deriveSecret env hafter post
      exact hlast.refused rt deriveSecret env htoken j post'
  · refine ⟨fun h => absurd h hlive, fun token htoken j post' => ?_⟩
    have hdead : Dead S row := ⟨row, hrow, rfl, .inr (not_lt.mp hlive)⟩
    exact (hdead.run rt deriveSecret env hS _).refused rt deriveSecret env htoken j post'

/-! ### Two sessions of one user -/

namespace Sample

/-- A user that may revoke any session. -/
def admin : CollaboratorRow where
  id := "user-1"
  professionalEmail := "ada@school.example"
  roles := [.SUPER_ADMIN]
  firstLoginRequired := false

def derive (secret salt : String) : String := secret ++ salt

def environment : RecoveryEnvironment := ⟨true, true, some "https://crm.example"⟩

def machine : Machine Cluster ClusterAction (Option (Principal × Bool)) :=
  cluster .plain derive environment

def start : Cluster :=
  .start { collaborators := .ofRows [admin] }
    (.ofRows [⟨"user-1", "ada@school.example", "salt", "passwordsalt", false⟩]) .empty .empty 0

def actor (sessionId : String) : Actor := ⟨"user-1", sessionId, false⟩

def login (process : ℕ) (sessionId token : String) : List ClusterAction :=
  [.enter process (actor sessionId) (.createSession "ada@school.example" "password" sessionId token
    sessionId), .finish true]

def session (id token : String) (expiresAt : Instant) : LocalSessionRow where
  id := id
  collaboratorId := "user-1"
  tokenDigest := token
  roles := [.SUPER_ADMIN]
  authenticationVersion := 1
  expiresAt := expiresAt

end Sample

open Sessions.Sample

/-- A session that was opened at a process is revoked at another, while its token is used at a
third. -/
theorem revocation_effective_elsewhere :
    let S := machine.run start (login 0 "session-1" "token-1")
    let T := machine.run S
      ([.enter 1 (actor "session-1") (.revokeSession "session-1")] ++
        [.look 2 "token-1", .identify 0] ++ [.finish true])
    (∃ row' ∈ T.store.localSessions.rows, row'.keys = [.id "session-1", .digest "token-1"] ∧
      row'.active = false) ∧
    machine.answer (machine.next T (.look 2 "token-1"))
      (.identify T.flights.length) = none := by
  intro S T
  have hrevoked := revocation_effective .plain derive environment
    { collaborators := .ofRows [admin] }
    (.ofRows [⟨"user-1", "ada@school.example", "salt", "passwordsalt", false⟩]) .empty .empty 0
    (login 0 "session-1" "token-1") 1 (actor "session-1")
    (session "session-1" "token-1" 3600000) (by decide +kernel) (by decide +kernel)
    (by decide +kernel) rfl [.look 2 "token-1", .identify 0] (by
      intro a ha
      simp only [mem_cons, not_mem_nil, or_false] at ha
      rcases ha with rfl | rfl <;> trivial) []
  exact ⟨hrevoked.1 (by decide +kernel), hrevoked.2 "token-1" rfl 2 []⟩

/-- **A session that expired stays active in the database**: its user, who has logged in again, has
the revocation authorized, handled and committed. -/
theorem expired_stays_active :
    let S := machine.run start
      (login 0 "session-1" "token-1" ++ [.advance 3600000] ++
        login 0 "session-2" "token-2")
    let T := machine.run S
      [.enter 1 (actor "session-2") (.revokeSession "session-1"), .finish true]
    session "session-1" "token-1" 3600000 ∈ S.store.localSessions.rows ∧ S.holder = none ∧
      authorizeRevocation S.store S.clock (actor "session-2") "session-1" = .ok () ∧
      session "session-1" "token-1" 3600000 ∈ T.store.localSessions.rows ∧
      (session "session-1" "token-1" 3600000).active = true ∧ T.holder = none := by
  decide +kernel

end CrmYnov.Sessions
