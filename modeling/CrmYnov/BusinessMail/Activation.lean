import CrmYnov.BusinessMail.Operator

/-!
# What an enabled configuration rests on

Each operation that is carried out is one of five changes of the configuration
(`CrmYnov.BusinessMail.Carried`). The memberships that are active are those the settings want,
at any time; a preflight is good for the version it made; and an activation that is carried out
finds both this preflight and the accepted fixture.
-/

namespace CrmYnov.BusinessMail

open Checked Machine List Option

variable {rt : Runtime} {S S' : MailControl} {request input : MailOperatorRequest}
  {o : OperatorOccasion} {c : MailConfiguration}

/-! ### The operations that are carried out -/

inductive Carried (rt : Runtime) (S : MailControl) (request : MailOperatorRequest)
    (o : OperatorOccasion) (S' : MailControl) : Prop
  | prepared (settings : BusinessMailSettings) (configuration : MailConfiguration)
      (hmode : request.mode = .PREPARE)
      (hmembers : prepareMemberships S settings = .ok S'.memberships)
      (hconfig : S'.configuration = some configuration)
      (hsettings : configuration.settings = settings) (hpaused : configuration.enabled = false)
      (hfirst : S.configuration = none →
        configuration.preflight = none ∧ configuration.qualificationKey = none)
      (hnext : ∀ c, S.configuration = some c → configuration.version = c.version + 1 ∧
        configuration.preflight = c.preflight ∧ configuration.activatedAt = c.activatedAt ∧
        configuration.qualificationKey = c.qualificationKey)
  | qualified (c : MailConfiguration) (hmode : request.mode = .FIXTURE)
      (hc : S.configuration = some c) (hpaused : c.enabled = false)
      (hmembers : S'.memberships = S.memberships)
      (hconfig : S'.configuration = some { c with
        qualificationKey := some (fixtureKey rt), version := c.version + 1 })
  | preflighted (c c' : MailConfiguration) (settings : BusinessMailSettings)
      (hmode : request.mode = .PREFLIGHT) (hc : S.configuration = some c)
      (hrecord : recordPreflight rt c request settings o = .ok c')
      (hmembers : S'.memberships = S.memberships) (hconfig : S'.configuration = some c')
  | activated (c c' : MailConfiguration) (settings : BusinessMailSettings)
      (hmode : request.mode = .ACTIVATE) (hc : S.configuration = some c)
      (hactivate : activate rt S c request settings o.now = .ok c')
      (hdeliveries : S'.deliveries = S.deliveries)
      (hmembers : S'.memberships = S.memberships) (hconfig : S'.configuration = some c')
  | paused (c : MailConfiguration) (hc : S.configuration = some c)
      (hmembers : S'.memberships = S.memberships)
      (hconfig : S'.configuration = some (pause c))

variable {settings : BusinessMailSettings}

theorem prepare_carried (hmode : request.mode = .PREPARE) (h : prepare S settings = .ok S') :
    Carried rt S request o S' := by
  simp only [prepare, ok_iff] at h
  obtain ⟨-, -, memberships, hmembers, rfl⟩ := h
  cases hc : S.configuration with
  | none =>
    exact .prepared settings { settings } hmode hmembers rfl rfl rfl (fun _ => ⟨rfl, rfl⟩)
      (fun c hc' => by rw [hc] at hc'; cases hc')
  | some c =>
    refine .prepared settings { c with settings, enabled := false, version := c.version + 1 } hmode
      hmembers rfl rfl rfl (fun h => by rw [hc] at h; cases h) fun c' hc' => ?_
    rw [hc] at hc'
    cases hc'
    exact ⟨rfl, rfl, rfl, rfl⟩

theorem operate_carried (h : operate rt S request settings o = .ok S') :
    Carried rt S request o S' ∧ S'.audits = S.audits := by
  have haudits : ∀ {settings : BusinessMailSettings} {S' : MailControl},
      prepare S settings = .ok S' → S'.audits = S.audits := by
    intro settings S' h
    simp only [prepare, ok_iff] at h
    obtain ⟨-, -, memberships, -, rfl⟩ := h
    rfl
  rw [operate.eq_def] at h
  split at h
  · rename_i hmode
    exact ⟨prepare_carried hmode h, haudits h⟩
  · rename_i c hmode hc
    obtain ⟨c', hrecord, h⟩ := bind_ok_iff.mp h
    cases h
    exact ⟨.preflighted c c' settings hmode hc hrecord rfl rfl, rfl⟩
  · rename_i c hmode hc
    obtain ⟨c', hactivate, h⟩ := bind_ok_iff.mp h
    cases h
    exact ⟨.activated c c' settings hmode hc hactivate rfl rfl rfl, rfl⟩
  · rename_i c hmode hc
    cases h
    exact ⟨.paused c hc rfl rfl, rfl⟩
  · cases h

theorem parseMailOperatorRequest_ok (h : parseMailOperatorRequest input = .ok request) :
    request.mode = input.mode ∧ request.operationId = input.operationId ∧
      request.sourceSha = input.sourceSha := by
  simp only [parseMailOperatorRequest, ok_iff] at h
  obtain ⟨-, -, settings, -, rfl⟩ := h
  exact ⟨rfl, rfl, rfl⟩

theorem precheck_ok (h : precheck rt S request o = .ok (some settings)) :
    S.audits.get request.operationId = none := by
  simp only [precheck, bind_ok_iff] at h
  obtain ⟨_, -, _, -, h⟩ := h
  cases haudit : S.audits.get request.operationId with
  | none => rfl
  | some fingerprint =>
    rw [haudit] at h
    obtain ⟨-, -, heq⟩ := bind_ok_iff.mp h
    cases heq

/-- The tables that only operations write to are as they were. -/
def Untouched (S S' : MailControl) : Prop :=
  S'.configuration = S.configuration ∧ S'.memberships = S.memberships ∧ S'.audits = S.audits

theorem Carried.audit (h : Carried rt S request o S') (audits : Dict String String) :
    Carried rt S request o { S' with audits } := by
  cases h with
  | prepared settings configuration hmode hmembers hconfig hsettings hpaused hfirst
      hnext =>
    exact .prepared settings configuration hmode hmembers hconfig hsettings hpaused
      hfirst hnext
  | qualified c hmode hc hpaused hmembers hconfig =>
    exact .qualified c hmode hc hpaused hmembers hconfig
  | preflighted c c' settings hmode hc hrecord hmembers hconfig =>
    exact .preflighted c c' settings hmode hc hrecord hmembers hconfig
  | activated c c' settings hmode hc hactivate hdeliveries hmembers hconfig =>
    exact .activated c c' settings hmode hc hactivate hdeliveries hmembers hconfig
  | paused c hc hmembers hconfig => exact .paused c hc hmembers hconfig

/-- The outcome of an operation: it leaves its tables, or it is carried out and audited. -/
def Executed (rt : Runtime) (S : MailControl) (request : MailOperatorRequest) (o : OperatorOccasion)
    (result : MailControl × Outcome Bool) : Prop :=
  (Untouched S result.1 ∧ result.2 ≠ .ok false) ∨
    (result.2 = .ok false ∧
      result.1.audits = S.audits.set request.operationId (digest rt request.json) ∧
      Carried rt S request o result.1)

theorem record_executed {S₀ : MailControl} (huntouched : Untouched S S₀)
    (haudits : S'.audits = S.audits) (hcarried : Carried rt S request o S') :
    Executed rt S request o (record rt S₀ S' request o) := by
  rw [record]
  split
  · rw [haudits]
    exact .inr ⟨rfl, rfl, hcarried.audit _⟩
  · exact .inl ⟨huntouched, by simp⟩

theorem fixture_key {key : String} (h : (fixture rt S request settings o).2 = .ok key) :
    key = fixtureKey rt := by
  have huncertain : ∀ {deliveries : Deliveries} {code : UncertaintyCode},
      (fixtureUncertain rt deliveries o code).2 ≠ .ok key := by
    intro deliveries code
    rw [fixtureUncertain]
    split <;> simp
  rw [fixture] at h
  repeat' split at h
  all_goals first
    | exact absurd h huncertain
    | cases h
  all_goals rfl

theorem executeFixture_executed (hmode : request.mode = .FIXTURE) (hc : S.configuration = some c)
    (settings : BusinessMailSettings) :
    Executed rt S request o (executeFixture rt S c request settings o) := by
  rw [executeFixture]
  split
  · exact .inl ⟨⟨rfl, rfl, rfl⟩, by simp⟩
  · rename_i hpaused
    have hkey : ∀ key, (fixture rt S request settings o).2 = .ok key → key = fixtureKey rt :=
      fun _ => fixture_key
    generalize fixture rt S request settings o = left at hkey ⊢
    obtain ⟨deliveries, result⟩ := left
    cases result with
    | error e => exact .inl ⟨⟨rfl, rfl, rfl⟩, by simp⟩
    | ok key =>
      obtain rfl := hkey key rfl
      exact record_executed ⟨rfl, rfl, rfl⟩ rfl
        (.qualified c hmode hc (by simpa using hpaused) rfl rfl)

/-- **What an operation does**: nothing to its tables, or it is carried out, for the first time
under its identifier. -/
theorem execute_cases (rt : Runtime) (S : MailControl) (input : MailOperatorRequest)
    (o : OperatorOccasion) :
    (Untouched S (execute rt S input o).1 ∧ (execute rt S input o).2 ≠ .ok false) ∨
      ∃ request, request.mode = input.mode ∧ request.sourceSha = input.sourceSha ∧
        S.audits.get input.operationId = none ∧ (execute rt S input o).2 = .ok false ∧
        (execute rt S input o).1.audits =
          S.audits.set input.operationId (digest rt request.json) ∧
        Carried rt S request o (execute rt S input o).1 := by
  rw [execute.eq_def]
  split
  · exact .inl ⟨⟨rfl, rfl, rfl⟩, by simp⟩
  · exact .inl ⟨⟨rfl, rfl, rfl⟩, by simp⟩
  · rename_i request settings hadmitted
    obtain ⟨request', hparse, hadmitted⟩ := bind_ok_iff.mp hadmitted
    obtain ⟨settings', hadmit, heq⟩ := bind_ok_iff.mp hadmitted
    obtain ⟨rfl, rfl⟩ := Prod.mk.inj (pure_ok_iff.mp heq)
    obtain ⟨hmode, hid, hsource⟩ := parseMailOperatorRequest_ok hparse
    have hnew := precheck_ok hadmit
    have hconclude : ∀ {result : MailControl × Outcome Bool}, Executed rt S request' o result →
        (Untouched S result.1 ∧ result.2 ≠ .ok false) ∨
          ∃ request, request.mode = input.mode ∧ request.sourceSha = input.sourceSha ∧
            S.audits.get input.operationId = none ∧ result.2 = .ok false ∧
            result.1.audits = S.audits.set input.operationId (digest rt request.json) ∧
            Carried rt S request o result.1 := by
      rintro result (huntouched | ⟨hdone, haudits, hcarried⟩)
      · exact .inl huntouched
      · exact .inr ⟨request', hmode, hsource, hid ▸ hnew, hdone, hid ▸ haudits, hcarried⟩
    split
    · rename_i c hfixture hc
      exact hconclude (executeFixture_executed hfixture hc settings)
    · split
      · exact .inl ⟨⟨rfl, rfl, rfl⟩, by simp⟩
      · rename_i S' hoperate
        obtain ⟨hcarried, haudits⟩ := operate_carried hoperate
        exact hconclude (record_executed ⟨rfl, rfl, rfl⟩ haudits hcarried)

/-! ### What every operation keeps -/

/-- The memberships that are active are those the settings want. -/
def MembershipsMatch (S : MailControl) : Prop :=
  ∀ m, S.memberships.get m = some true ↔
    ∃ c ∈ S.configuration, ∃ wanted ∈ c.settings.desired, wanted.stored = m

theorem stored_stored (m : Membership) : m.stored.stored = m.stored := by
  have hid : ∀ text, storedId (storedId text) = storedId text := by
    intro text
    rw [storedId, storedId, String.toList_ofList, List.map_map]
    refine congrArg String.ofList (map_congr_left fun c _ => ?_)
    exact Js.lowerChar_lowerChar c
  simp only [Membership.stored, hid]

theorem get_foldl_set (wanted : List Membership) (d : Dict Membership Bool) (m : Membership) :
    (wanted.foldl (fun d m => d.set m.stored true) d).get m = some true ↔
      d.get m = some true ∨ ∃ w ∈ wanted, w.stored = m := by
  induction wanted generalizing d with
  | nil => simp
  | cons w wanted ih =>
    rw [foldl_cons, ih, Dict.get_set]
    by_cases hm : m = w.stored
    · simp [hm]
    · simp only [if_neg hm, mem_cons, exists_eq_or_imp]
      constructor
      · rintro (h | h)
        · exact .inl h
        · exact .inr (.inr h)
      · rintro (h | h | h)
        · exact .inl h
        · exact absurd h.symm hm
        · exact .inr h

/-- **A preparation makes active what the settings want**, and what was active is wanted. -/
theorem prepareMemberships_ok (hmatch : MembershipsMatch S) {memberships : Dict Membership Bool}
    (h : prepareMemberships S settings = .ok memberships) (m : Membership) :
    memberships.get m = some true ↔ ∃ wanted ∈ settings.desired, wanted.stored = m := by
  simp only [prepareMemberships, ok_iff] at h
  obtain ⟨-, hold, rfl⟩ := h
  rw [get_foldl_set]
  refine ⟨fun hm => hm.elim (fun hactive => ?_) id, .inr⟩
  obtain ⟨c, hc, w, hw, rfl⟩ := (hmatch m).mp hactive
  have hmem := hold (w.stored, true) (Dict.get_eq_some.mp hactive) rfl
  exact ⟨w.stored, hmem, stored_stored w⟩

structure MailControl.Sound (rt : Runtime) (S : MailControl) : Prop where
  memberships : MembershipsMatch S
  key : ∀ c ∈ S.configuration, ∀ key ∈ c.qualificationKey, key = fixtureKey rt
  preflight : ∀ c ∈ S.configuration, ∀ p ∈ c.preflight, p.qualifiedVersion ≤ c.version

theorem MembershipsMatch.of_settings (h : MembershipsMatch S) {c c' : MailConfiguration}
    (hc : S.configuration = some c) (hmembers : S'.memberships = S.memberships)
    (hconfig : S'.configuration = some c') (hsettings : c'.settings = c.settings) :
    MembershipsMatch S' := by
  intro m
  rw [hmembers, h m, hc, hconfig]
  simp [hsettings]

variable {c' : MailConfiguration}

theorem recordPreflight_ok (h : recordPreflight rt c request settings o = .ok c') :
    c.enabled = false ∧ c' = { c with
      preflight := some ⟨o.report, request.sourceSha, digest rt settings.json, c.version + 1⟩
      preflightAt := some o.now
      version := c.version + 1 } := by
  simp only [recordPreflight, ok_iff] at h
  obtain ⟨-, ⟨-, hpaused⟩, rfl⟩ := h
  exact ⟨hpaused, rfl⟩

theorem activate_ok {now : Instant} (h : activate rt S c request settings now = .ok c') :
    S.Qualified c ∧ assertPreflight rt c request settings now = .ok () ∧ c' = { c with
      enabled := true
      activatedAt := some (c.activatedAt.getD now)
      version := c.version + 1 } := by
  simp only [activate, ok_iff] at h
  obtain ⟨-, hqualified, ⟨⟩, hpreflight, rfl⟩ := h
  exact ⟨hqualified, hpreflight, rfl⟩

/-- **The proof of an activation**: the preflight of its version, of its source, made at most five
minutes before. -/
theorem assertPreflight_ok {now : Instant} (h : assertPreflight rt c request settings now = .ok ()) :
    ∃ at' p, c.preflightAt = some at' ∧ c.preflight = some p ∧ now - at' ≤ 300000 ∧ at' ≤ now ∧
      p.qualifiedVersion = c.version ∧ p.sourceSha = request.sourceSha := by
  simp only [assertPreflight, ok_iff] at h
  obtain ⟨at', hat, -, hfresh, p, hp, -, ⟨hver, -, hsource⟩, -⟩ := h
  exact ⟨at', p, hat, hp, hfresh.1, hfresh.2, hver, hsource⟩

theorem Carried.sound (h : Carried rt S request o S') (hsound : S.Sound rt) : S'.Sound rt := by
  -- every operation but the preparation keeps the settings, and its version is the next one
  have hkeep : ∀ {c c' : MailConfiguration}, S.configuration = some c →
      S'.memberships = S.memberships → S'.configuration = some c' → c'.settings = c.settings →
      (∀ key ∈ c'.qualificationKey, key = fixtureKey rt ∨ c.qualificationKey = some key) →
      (∀ p ∈ c'.preflight, p.qualifiedVersion = c'.version ∨
        c.preflight = some p ∧ c'.version = c.version + 1) → S'.Sound rt := by
    intro c c' hc hmembers hconfig hsettings hkey hpreflight
    refine ⟨hsound.memberships.of_settings hc hmembers hconfig hsettings,
      fun c'' hc'' key hk => ?_, fun c'' hc'' p hp => ?_⟩
    all_goals
      rw [hconfig] at hc''
      cases hc''
    · exact (hkey key hk).elim id (hsound.key c hc key)
    · rcases hpreflight p hp with heq | ⟨hold, hver⟩
      · exact heq.le
      · have := hsound.preflight c hc p hold
        omega
  cases h with
  | prepared settings configuration hmode hmembers hconfig hsettings hpaused hfirst
      hnext =>
    refine ⟨fun m => ?_, fun c' hc' key hk => ?_, fun c' hc' p hp => ?_⟩
    · rw [prepareMemberships_ok hsound.memberships hmembers m, hconfig]
      simp [hsettings]
    all_goals
      rw [hconfig] at hc'
      cases hc'
      cases hc : S.configuration with
      | none =>
        obtain ⟨hpreflight, hqualification⟩ := hfirst hc
        simp_all
      | some c =>
        obtain ⟨hver, hpreflight, -, hqualification⟩ := hnext c hc
        first
        | rw [hqualification] at hk
          exact hsound.key c hc key hk
        | rw [hpreflight] at hp
          have := hsound.preflight c hc p hp
          omega
  | qualified c hmode hc hpaused hmembers hconfig =>
    exact hkeep hc hmembers hconfig rfl (fun key hk => .inl (some.inj hk).symm)
      fun p hp => .inr ⟨hp, rfl⟩
  | preflighted c c' settings hmode hc hrecord hmembers hconfig =>
    obtain ⟨-, rfl⟩ := recordPreflight_ok hrecord
    refine hkeep hc hmembers hconfig rfl (fun key hk => .inr hk) fun p hp => .inl ?_
    cases hp
    rfl
  | activated c c' settings hmode hc hactivate hdeliveries hmembers hconfig =>
    obtain ⟨-, -, rfl⟩ := activate_ok hactivate
    exact hkeep hc hmembers hconfig rfl (fun key hk => .inr hk)
      fun p hp => .inr ⟨hp, rfl⟩
  | paused c hc hmembers hconfig =>
    exact hkeep hc hmembers hconfig rfl (fun key hk => .inr hk)
      fun p hp => .inr ⟨hp, rfl⟩

theorem Untouched.sound (h : Untouched S S') (hsound : S.Sound rt) : S'.Sound rt := by
  obtain ⟨hconfig, hmembers, -⟩ := h
  refine ⟨fun m => ?_, ?_, ?_⟩
  · rw [hmembers, hconfig]
    exact hsound.memberships m
  · rw [hconfig]
    exact hsound.key
  · rw [hconfig]
    exact hsound.preflight

theorem untouched_journalled {α : Type} (x : Except String α) (deliveries : α → Deliveries) :
    Untouched S (journalled S x deliveries) := by
  cases x <;> exact ⟨rfl, rfl, rfl⟩

/-- **What a step does**: nothing to the tables of the operator, or one operation is carried
out. -/
theorem next_cases (rt : Runtime) (S : MailControl) (a : OperatorAction) :
    Untouched S (S.next rt a) ∨ ∃ input o request, a = .operate input o ∧
      request.mode = input.mode ∧ request.sourceSha = input.sourceSha ∧
      S.audits.get input.operationId = none ∧ (execute rt S input o).2 = .ok false ∧
      (S.next rt a).audits = S.audits.set input.operationId (digest rt request.json) ∧
      Carried rt S request o (S.next rt a) := by
  cases a with
  | operate input o =>
    rcases execute_cases rt S input o with ⟨huntouched, -⟩ | ⟨request, h⟩
    · exact .inl huntouched
    · exact .inr ⟨input, o, request, rfl, h⟩
  | reserve input token now => exact .inl (untouched_journalled _ _)
  | accept key token providerMessageId now => exact .inl (untouched_journalled _ _)
  | giveUp key token code now => exact .inl (untouched_journalled _ _)
  | recover olderThan limit locked now => exact .inl (untouched_journalled _ _)

theorem MailControl.Sound.next (h : S.Sound rt) (a : OperatorAction) : (S.next rt a).Sound rt := by
  rcases next_cases rt S a with huntouched | ⟨_, _, _, -, -, -, -, -, -, hcarried⟩
  · exact huntouched.sound h
  · exact hcarried.sound h

theorem sound_initial (rt : Runtime) : MailControl.initial.Sound rt := by
  refine ⟨fun m => ?_, (by intro c hc; cases hc), (by intro c hc; cases hc)⟩
  simp [MailControl.initial]

/-! ### Runs -/

/-- The state that a run leaves. -/
def operated (rt : Runtime) (as : List OperatorAction) : MailControl :=
  (operatorMachine rt).run .initial as

theorem operated_concat (as : List OperatorAction) (a : OperatorAction) :
    operated rt (as ++ [a]) = (operated rt as).next rt a := by
  rw [operated, run_append]
  rfl

theorem sound_operated (rt : Runtime) (as : List OperatorAction) : (operated rt as).Sound rt :=
  run_of_stable (M := operatorMachine rt) (fun _ a h => h.next a) (sound_initial rt) as

/-- **The record of a preflight** in a run: it was carried out on a paused configuration, of the
same settings and of the version before. -/
def Recorded (rt : Runtime) (as : List OperatorAction) (c : MailConfiguration)
    (p : MailPreflight) : Prop :=
  ∃ before request o after c₀, as = before ++ .operate request o :: after ∧
    request.mode = .PREFLIGHT ∧ (execute rt (operated rt before) request o).2 = .ok false ∧
    (operated rt before).configuration = some c₀ ∧ c₀.enabled = false ∧
    c₀.settings = c.settings ∧ c.version = c₀.version + 1 ∧ c.preflightAt = some o.now ∧
    p.sourceSha = request.sourceSha

theorem Recorded.concat {as : List OperatorAction} {p : MailPreflight} (h : Recorded rt as c p)
    (a : OperatorAction) : Recorded rt (as ++ [a]) c p := by
  obtain ⟨before, request, o, after, c₀, rfl, h⟩ := h
  exact ⟨before, request, o, after ++ [a], c₀, by simp, h⟩

/-- **The preflight of the present version was recorded at the version before**: every other
operation makes a version that no preflight is good for. -/
theorem recorded_of_current (rt : Runtime) (as : List OperatorAction) :
    ∀ c ∈ (operated rt as).configuration, ∀ p ∈ c.preflight, p.qualifiedVersion = c.version →
      Recorded rt as c p := by
  induction as using reverseRecOn with
  | nil =>
    intro c hc
    cases hc
  | append_singleton as a ih =>
    intro c hc p hp hver
    rw [operated_concat] at hc
    have hsound := sound_operated rt as
    have hstale : ∀ c₀ : MailConfiguration, (operated rt as).configuration = some c₀ →
        c₀.preflight = some p → c.version = c₀.version + 1 → Recorded rt (as ++ [a]) c p := by
      intro c₀ hc₀ hp₀ hnext
      have := hsound.preflight c₀ hc₀ p hp₀
      omega
    rcases next_cases rt (operated rt as) a with
      ⟨hconfig, -, -⟩ | ⟨input, o, request, rfl, hmode, hsource, -, hdone, -, hcarried⟩
    · rw [hconfig] at hc
      exact (ih c hc p hp hver).concat a
    cases hcarried with
    | prepared settings configuration hprepare hmembers hconfig hsettings hpaused hfirst
        hnext =>
      obtain rfl := mem_unique hconfig hc
      cases hc₀ : (operated rt as).configuration with
      | none =>
        rw [(hfirst hc₀).1] at hp
        cases hp
      | some c₀ =>
        obtain ⟨hnext, hpreflight, -⟩ := hnext c₀ hc₀
        exact hstale c₀ hc₀ (hpreflight ▸ hp) hnext
    | qualified c₀ hfixture hc₀ hpaused hmembers hconfig =>
      obtain rfl := mem_unique hconfig hc
      exact hstale c₀ hc₀ hp rfl
    | preflighted c₀ c' settings hpreflight hc₀ hrecord hmembers hconfig =>
      obtain ⟨hpaused, rfl⟩ := recordPreflight_ok hrecord
      obtain rfl := mem_unique hconfig hc
      cases hp
      exact ⟨as, input, o, [], c₀, rfl, hmode ▸ hpreflight, hdone, hc₀, hpaused, rfl, rfl, rfl,
        hsource⟩
    | activated c₀ c' settings hactive hc₀ hactivate hdeliveries hmembers hconfig =>
      obtain ⟨-, -, rfl⟩ := activate_ok hactivate
      obtain rfl := mem_unique hconfig hc
      exact hstale c₀ hc₀ hp rfl
    | paused c₀ hc₀ hmembers hconfig =>
      obtain rfl := mem_unique hconfig hc
      exact hstale c₀ hc₀ hp rfl

/-! ### Replays -/

theorem execute_replay (h : S.audits.get input.operationId ≠ none) :
    (execute rt S input o).1 = S := by
  rw [execute.eq_def]
  split
  · rfl
  · rfl
  · rename_i request settings hadmitted
    obtain ⟨request', hparse, hadmitted⟩ := bind_ok_iff.mp hadmitted
    obtain ⟨settings', hadmit, heq⟩ := bind_ok_iff.mp hadmitted
    cases heq
    have hnew := precheck_ok hadmit
    rw [(parseMailOperatorRequest_ok hparse).2.1] at hnew
    exact absurd hnew h

theorem audits_next {id : String} (a : OperatorAction) (h : S.audits.get id ≠ none) :
    (S.next rt a).audits.get id ≠ none := by
  rcases next_cases rt S a with
    ⟨-, -, haudits⟩ | ⟨input, o, request, -, -, -, -, -, haudits, -⟩
  · rwa [haudits]
  · rw [haudits, Dict.get_set]
    split
    · simp
    · exact h

/-- **A replay does nothing**, at any later time. -/
theorem replay_in_run {before after : List OperatorAction}
    (hdone : (execute rt (operated rt before) input o).2 = .ok false)
    {input' : MailOperatorRequest} (hid : input'.operationId = input.operationId)
    (o' : OperatorOccasion) :
    (operated rt (before ++ .operate input o :: after)).next rt (.operate input' o') =
      operated rt (before ++ .operate input o :: after) := by
  refine execute_replay ?_
  rw [hid, operated, run_append, run_cons]
  refine run_of_stable (M := operatorMachine rt)
    (P := fun S => S.audits.get input.operationId ≠ none) (fun _ a h => audits_next a h) ?_ after
  rcases execute_cases rt (operated rt before) input o with
    ⟨-, hundone⟩ | ⟨request, -, -, -, -, haudits, -⟩
  · exact absurd hdone hundone
  · show (execute rt (operated rt before) input o).1.audits.get input.operationId ≠ none
    rw [haudits, Dict.get_set, if_pos rfl]
    simp

/-! ### Activations -/

/-- **What an activation rests on**: a step of a run makes this configuration an enabled one by an
activation of its settings, its transport fixture is accepted, and the preflight of the version
before was recorded from the same source at most five minutes earlier. -/
def Founded (rt : Runtime) (as : List OperatorAction) (a : OperatorAction)
    (c' : MailConfiguration) : Prop :=
  ∃ request o c p at', a = .operate request o ∧ request.mode = .ACTIVATE ∧
    (operated rt as).configuration = some c ∧ c'.settings = c.settings ∧
    c'.version = c.version + 1 ∧ c'.qualificationKey = some (fixtureKey rt) ∧
    ((operated rt as).next rt a).Qualified c' ∧ Recorded rt as c p ∧
    p.sourceSha = request.sourceSha ∧ c.preflightAt = some at' ∧ at' ≤ o.now ∧
    o.now - at' ≤ 300000

theorem founded_of_enabled (as : List OperatorAction) (a : OperatorAction)
    (hc' : ((operated rt as).next rt a).configuration = some c') (henabled : c'.enabled = true)
    (hbefore : ∀ c ∈ (operated rt as).configuration, c.enabled = false) : Founded rt as a c' := by
  rcases next_cases rt (operated rt as) a with
    ⟨hconfig, -, -⟩ | ⟨input, o, request, rfl, hmode, hsource, -, -, -, hcarried⟩
  · rw [hconfig] at hc'
    rw [hbefore c' hc'] at henabled
    cases henabled
  cases hcarried with
  | prepared settings configuration hprepare hmembers hconfig hsettings hpaused =>
    obtain rfl := mem_unique hconfig hc'
    rw [hpaused] at henabled
    cases henabled
  | qualified c hfixture hc hpaused hmembers hconfig =>
    obtain rfl := mem_unique hconfig hc'
    rw [show c.enabled = true from henabled] at hpaused
    cases hpaused
  | preflighted c c'' settings hpreflight hc hrecord hmembers hconfig =>
    obtain ⟨hpaused, rfl⟩ := recordPreflight_ok hrecord
    obtain rfl := mem_unique hconfig hc'
    rw [show c.enabled = true from henabled] at hpaused
    cases hpaused
  | activated c c'' settings hactive hc hactivate hdeliveries hmembers hconfig =>
    obtain ⟨hqualified, hpreflight, rfl⟩ := activate_ok hactivate
    obtain rfl := mem_unique hconfig hc'
    obtain ⟨at', p, hat, hp, hfresh, hpast, hver, hproof⟩ := assertPreflight_ok hpreflight
    have hrecorded := recorded_of_current rt as c hc p hp hver
    obtain ⟨key, hkey, row, hrow, hacc⟩ := hqualified
    obtain rfl := (sound_operated rt as).key c hc key hkey
    refine ⟨input, o, c, p, at', rfl, hmode ▸ hactive, hc, rfl, rfl, hkey,
      ⟨_, hkey, row, ?_, hacc⟩, hrecorded, hproof.trans hsource, hat, hpast, hfresh⟩
    rw [hdeliveries]
    exact hrow
  | paused c hc hmembers hconfig =>
    obtain rfl := mem_unique hconfig hc'
    cases henabled

theorem activatedAt_next {t : Instant} (hc : S.configuration = some c)
    (ht : c.activatedAt = some t) (a : OperatorAction) :
    ∃ c' ∈ (S.next rt a).configuration, c'.activatedAt = some t := by
  rcases next_cases rt S a with
    ⟨hconfig, -, -⟩ | ⟨input, o, request, rfl, -, -, -, -, -, hcarried⟩
  · exact ⟨c, hconfig.trans hc, ht⟩
  cases hcarried with
  | prepared settings configuration hprepare hmembers hconfig hsettings hpaused hfirst
      hnext =>
    obtain ⟨-, -, hactivated, -⟩ := hnext c hc
    exact ⟨configuration, hconfig, hactivated.trans ht⟩
  | qualified c₀ hfixture hc₀ hpaused hmembers hconfig =>
    obtain rfl := mem_unique hc hc₀
    exact ⟨_, hconfig, ht⟩
  | preflighted c₀ c' settings hpreflight hc₀ hrecord hmembers hconfig =>
    obtain ⟨-, rfl⟩ := recordPreflight_ok hrecord
    obtain rfl := mem_unique hc hc₀
    exact ⟨_, hconfig, ht⟩
  | activated c₀ c' settings hactive hc₀ hactivate hdeliveries hmembers hconfig =>
    obtain ⟨-, -, rfl⟩ := activate_ok hactivate
    obtain rfl := mem_unique hc hc₀
    exact ⟨_, hconfig, by simp [ht]⟩
  | paused c₀ hc₀ hmembers hconfig =>
    obtain rfl := mem_unique hc hc₀
    exact ⟨_, hconfig, ht⟩

/-- **The activation of the business mail**: over every run of the operator, with the workers
writing to the journal between its operations, a configuration that becomes enabled is founded, the
active memberships are those the settings want, the time of the first activation never changes, and
an operation that was carried out has no effect when it is replayed. -/
theorem activation_founded (rt : Runtime) (as : List OperatorAction) (a : OperatorAction) :
    (∀ c' ∈ ((operated rt as).next rt a).configuration, c'.enabled = true →
      (∀ c ∈ (operated rt as).configuration, c.enabled = false) → Founded rt as a c') ∧
    MembershipsMatch ((operated rt as).next rt a) ∧
    (∀ c ∈ (operated rt as).configuration, ∀ t ∈ c.activatedAt,
      ∃ c' ∈ ((operated rt as).next rt a).configuration, c'.activatedAt = some t) ∧
    (∀ before input o after input' o', as = before ++ .operate input o :: after →
      (execute rt (operated rt before) input o).2 = .ok false →
      input'.operationId = input.operationId → a = .operate input' o' →
      (operated rt as).next rt a = operated rt as) := by
  refine ⟨fun c' hc' henabled hbefore => founded_of_enabled as a hc' henabled hbefore,
    ((sound_operated rt as).next a).memberships, fun c hc t ht => activatedAt_next hc ht a, ?_⟩
  rintro before input o after input' o' rfl hdone hid rfl
  exact replay_in_run hdone hid o'

end CrmYnov.BusinessMail
