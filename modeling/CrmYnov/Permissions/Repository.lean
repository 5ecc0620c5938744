import CrmYnov.Permissions.Narrowing
import Mathlib.Algebra.Ring.Nat

/-!
# The repository of the permission configurations

What is decided from the permissions and what changes them run in transactions behind a fence. An
attempt that fails before the action starts may be made again; one whose action has started never
is (`CrmYnov.Permissions.transaction_starts_once`).
-/

namespace CrmYnov.Permissions

open Checked

/-! ### Transactions -/

inductive PermissionTransactionMode
  | read | readAudited | write
deriving DecidableEq

/-- What is read of an error. -/
structure StoreError where
  /-- The `HttpException` it is. -/
  http : Option Failure := none
  /-- It is a `PrismaClientKnownRequestError`. -/
  known : Bool := false
  code : Option String := none
  metaCode : Option String := none

def unavailableStore : StoreError :=
  { http := some (.http .serviceUnavailable "permission_store_unavailable") }

def abortError : StoreError := { code := some "ABORT_ERR" }

def initialFenceLockUnavailable (e : StoreError) : Prop :=
  e.known ∧ e.code = some "P2010" ∧ e.metaCode = some "55P03"
deriving Decidable

/-- The error that is thrown, and none when the attempt is made again. -/
def retryFenceOrThrow (e : StoreError) (handlerStarted : Bool) (attempt : ℕ) : Option StoreError :=
  if e.http.isSome then some e
  else if e.code = some "P2034" ∧ handlerStarted = false ∧ attempt < 4 then none
  else if handlerStarted ∧ e.code ∈ [some "P2034", some "P2002", some "P2025"] then
    some { http := some (.conflict "permission_version_conflict") }
  else some unavailableStore

/-- What an attempt meets as far as it goes: the errors of the store, and whether its signal is
aborted by then. -/
structure Attempt where
  aborted : Bool := false
  opening : Option StoreError := none
  fence : Option StoreError := none
  abortedBehindFence : Bool := false
  commit : Option StoreError := none
  abortedInDelay : Bool := false

inductive StoreEvent
  | opening | started | committed
deriving DecidableEq

/-- An error of an attempt, with how far it had gone. -/
structure Fault where
  error : StoreError
  (acquiring handlerStarted : Bool := false)

variable {α : Type} (recovery : Bool)

/-- `client.$transaction`, of an action that ends in a given way. -/
def runAttempt (a : Attempt) (action : Except StoreError α) : List StoreEvent × Except Fault α :=
  match a.opening with
  | some error => ([.opening], .error { error })
  | none =>
    match a.fence with
    | some error => ([.opening], .error { error, acquiring := true })
    | none =>
      if recovery && a.abortedBehindFence then ([.opening], .error { error := abortError })
      else match action with
        | .error error => ([.opening, .started], .error { error, handlerStarted := true })
        | .ok v =>
          match a.commit with
          | some error => ([.opening, .started], .error { error, handlerStarted := true })
          | none => ([.opening, .started, .committed], .ok v)

/-- The error that ends the call after a fault, and none when there is another attempt. -/
def afterFault (fault : Fault) (attempt : ℕ) : Option StoreError :=
  if recovery then
    if fault.acquiring ∧ fault.handlerStarted = false ∧ attempt < 3 ∧
        (initialFenceLockUnavailable fault.error ∨ fault.error.code = some "P2034") then none
    else retryFenceOrThrow fault.error fault.handlerStarted 4
  else retryFenceOrThrow fault.error fault.handlerStarted attempt

def maxAttempts : ℕ := if recovery then 4 else 5

variable {recovery}

/-- **Another attempt is made only before the action has started**, and a bounded number of
times. -/
theorem afterFault_none {fault : Fault} {attempt : ℕ}
    (h : afterFault recovery fault attempt = none) :
    fault.handlerStarted = false ∧ attempt + 1 < maxAttempts recovery := by
  simp only [afterFault, retryFenceOrThrow, maxAttempts] at h ⊢
  grind

variable (recovery) (world : ℕ → Attempt) (action : ℕ → Except StoreError α)

def attempts (attempt : ℕ) : List StoreEvent × Except StoreError α :=
  if recovery && (world attempt).aborted then ([], .error abortError)
  else match runAttempt recovery (world attempt) (action attempt) with
    | (events, .ok v) => (events, .ok v)
    | (events, .error fault) =>
      match h : afterFault recovery fault attempt with
      | some e => (events, .error e)
      | none =>
        if recovery && (world attempt).abortedInDelay then (events, .error abortError)
        else
          have := (afterFault_none h).2
          (events ++ (attempts (attempt + 1)).1, (attempts (attempt + 1)).2)
termination_by maxAttempts recovery - attempt

/-- `DynamicPermissionRepository.transaction`: a call inside a transaction joins it. -/
def transaction (mode : PermissionTransactionMode) (current : Option PermissionTransactionMode)
    (aborted connected : Bool) : List StoreEvent × Except StoreError α :=
  if recovery ∧ mode = .write then ([], .error unavailableStore)
  else if recovery && aborted then ([], .error abortError)
  else match current with
    | some current =>
      if current ≠ .write ∧ mode ≠ .read ∧ current ≠ mode then ([], .error unavailableStore)
      else ([.started], action 0)
    | none => if connected then attempts recovery world action 0 else ([], .error unavailableStore)

/-- What is known of the events of a call and of how it ends. -/
structure StartsOnce (limit : ℕ) (run : List StoreEvent × Except StoreError α) : Prop where
  started : run.1.count .started ≤ 1
  bounded : run.1.count .opening ≤ limit
  committed : ∀ v, run.2 = .ok v →
    ∃ before, run.1 = before ++ [.opening, .started, .committed] ∧ .started ∉ before

variable {recovery world action}

/-- The events of an attempt: it is committed, or its action has started when the fault says
so. -/
theorem runAttempt_events (a : Attempt) (action : Except StoreError α) :
    (runAttempt recovery a action).1 = match (runAttempt recovery a action).2 with
      | .ok _ => [.opening, .started, .committed]
      | .error fault => .opening :: if fault.handlerStarted then [.started] else [] := by
  simp only [runAttempt]
  grind

theorem startsOnce_of_fault {limit : ℕ} (hlimit : 0 < limit) {a : Attempt}
    {action : Except StoreError α} {events : List StoreEvent} {fault : Fault}
    (h : runAttempt recovery a action = (events, .error fault)) (e : StoreError) :
    StartsOnce limit (events, (.error e : Except StoreError α)) := by
  have hevents : events = .opening :: if fault.handlerStarted then [.started] else [] := by
    simpa only [h] using @runAttempt_events _ recovery a action
  rw [hevents]
  refine ⟨?_, ?_, fun v hv => by cases hv⟩ <;> cases fault.handlerStarted <;> simp
  all_goals omega

theorem attempts_startsOnce (attempt : ℕ) (hattempt : attempt < maxAttempts recovery) :
    StartsOnce (maxAttempts recovery - attempt) (attempts recovery world action attempt) := by
  fun_induction attempts recovery world action attempt with
  | case1 => exact ⟨by simp, by simp, fun v hv => by cases hv⟩
  | case2 attempt _ events v h =>
    obtain rfl : events = [.opening, .started, .committed] := by
      simpa only [h] using @runAttempt_events _ recovery (world attempt) (action attempt)
    refine ⟨Nat.le_refl 1, ?_, fun _ _ => ⟨[], rfl, List.not_mem_nil⟩⟩
    change 1 ≤ _
    omega
  | case3 attempt _ events fault h e _ => exact startsOnce_of_fault (by omega) h e
  | case4 attempt _ events fault h _ _ => exact startsOnce_of_fault (by omega) h _
  | case5 attempt _ events fault h hretry _ _ ih =>
    obtain ⟨hstarted, hnext⟩ := afterFault_none hretry
    obtain rfl : events = [.opening] := by
      simpa only [h, hstarted, Bool.false_eq_true, if_false] using
        @runAttempt_events _ recovery (world attempt) (action attempt)
    have hrest := ih hnext
    refine ⟨?_, ?_, fun v hv => ?_⟩
    · simpa using hrest.started
    · have hbounded := hrest.bounded
      simp only [List.singleton_append, List.count_cons_self]
      omega
    · obtain ⟨before, hevents, hbefore⟩ := hrest.committed v hv
      exact ⟨.opening :: before, by rw [hevents]; rfl, by simpa using hbefore⟩

/-- **The action starts once**: whatever the store does, a call outside a transaction makes a
bounded number of attempts, starts its action at most once, and succeeds only when the transaction
of the action is committed. A call inside a transaction makes no attempt, and succeeds when its
action does. -/
theorem transaction_starts_once (recovery : Bool) (world : ℕ → Attempt)
    (action : ℕ → Except StoreError α) (mode : PermissionTransactionMode)
    (current : Option PermissionTransactionMode) (aborted connected : Bool) :
    let run := transaction recovery world action mode current aborted connected
    (current = none → StartsOnce (maxAttempts recovery) run) ∧
      ∀ outer, current = some outer → run.1.count .started ≤ 1 ∧ run.1.count .opening = 0 := by
  have hrefused : ∀ e : StoreError,
      StartsOnce (maxAttempts recovery) (([], .error e) : List StoreEvent × Except StoreError α) :=
    fun e => ⟨by simp, by simp, fun v hv => by cases hv⟩
  rw [transaction.eq_def]
  dsimp only
  split
  · exact ⟨fun _ => hrefused _, by simp⟩
  · split
    · exact ⟨fun _ => hrefused _, by simp⟩
    · cases current with
      | some outer =>
        refine ⟨(fun h => by cases h), fun _ _ => ?_⟩
        dsimp only
        split <;> simp
      | none =>
        refine ⟨fun _ => ?_, fun _ h => (by cases h)⟩
        dsimp only
        split
        · exact attempts_startsOnce 0 (by cases recovery <;> decide)
        · exact hrefused _

/-- **A call inside a transaction** succeeds before anything is committed. -/
theorem joined_transaction_uncommitted :
    let run := transaction false (fun _ => {}) (fun _ => .ok ()) .read (some .write) false true
    run.2 = .ok () ∧ .committed ∉ run.1 := ⟨rfl, by decide⟩

/-! ### The current catalogue -/

/-- The permissions that a version must have to be of the current catalogue. -/
def addedKeys : List PermissionKey :=
  [.leadQualificationUpdate, .telephonyFreeCallCreate, .reportingPilotageView]

def catalogueScope (target : ConfigurationTarget) : PermissionScope :=
  if target.kind = .CEILING ∨ target.role = some .SUPER_ADMIN then
    if target.campus = GLOBAL_CAMPUS then .GLOBAL else .CAMPUS
  else if target.role = some .ADMIN then .CAMPUS else .NONE

def addDefault (existing : Grants) (target : ConfigurationTarget) (key : PermissionKey)
    (next : Grants) : Grants :=
  if (existing.get key).isSome then next else next.set key (catalogueScope target)

def upgradedGrants (existing : Grants) (target : ConfigurationTarget) : Outcome Grants := do
  let previous ← historicalGrants existing target
  let next := addDefault existing target .leadQualificationUpdate previous
  pure (addDefault existing target .telephonyFreeCallCreate next)

/-- What the loop does with a row, and how many rows are upgraded by it. -/
def upgradeRow (row : RolePermissionConfigurationRow) :
    Outcome (ℕ × RolePermissionConfigurationRow) :=
  match row.latest.filter fun version => version.1 = row.version with
  | none => pure (0, row)
  | some (_, existing) =>
    if ∀ key ∈ addedKeys, (existing.get key).isSome then pure (0, row)
    else do
      validateTarget row.toConfigurationTarget
      let next ← upgradedGrants existing row.toConfigurationTarget
      let versions ← demand (row.versions.entries.create (row.version + 1, next)) .database
      pure (1, row.advance (row.version + 1) ⟨versions⟩)

/-- `upgradeCurrentCatalogue`, of the rows of the table. -/
def upgradeCurrentCatalogue (rows : List RolePermissionConfigurationRow) :
    Outcome (ℕ × List RolePermissionConfigurationRow) := do
  let upgraded ← rows.mapM upgradeRow
  pure ((upgraded.map Prod.fst).sum, upgraded.map Prod.snd)

/-- A stored configuration that can be read, or whose version is not there. -/
def Historical (row : RolePermissionConfigurationRow) : Prop :=
  ∀ existing, row.latest = some (row.version, existing) →
    validateTarget row.toConfigurationTarget = .ok () ∧
      ∃ grants, historicalGrants existing row.toConfigurationTarget = .ok grants

/-- A configuration of the current catalogue, or whose version is not there. -/
def Current (row : RolePermissionConfigurationRow) : Prop :=
  ∀ existing, row.latest = some (row.version, existing) →
    ∀ key ∈ addedKeys, (existing.get key).isSome

/-- A version is added that keeps what was granted, is valid and is read as it is written. -/
def Upgraded (row row' : RolePermissionConfigurationRow) : Prop :=
  ∃ existing next versions, row.latest = some (row.version, existing) ∧
    row.versions.entries.create (row.version + 1, next) = some versions ∧
    row' = row.advance (row.version + 1) ⟨versions⟩ ∧ row'.latest = some (row'.version, next) ∧
    (∀ key scope, existing.get key = some scope → next.get key = some scope) ∧
    validateGrants next row.toConfigurationTarget = .ok () ∧
    ∃ grants, historicalGrants next row.toConfigurationTarget = .ok grants ∧ grants.get = next.get

variable {target : ConfigurationTarget} {existing next previous : Grants}

theorem validateGrants_set {grants : Grants} {key : PermissionKey} {scope : PermissionScope}
    (h : validateGrants grants target = .ok ()) (hscope : ValidGrant target key scope) :
    validateGrants (grants.set key scope) target = .ok () := by
  obtain ⟨hlength, hvalid⟩ := validateGrants_ok_iff.mp h
  obtain ⟨old, hold, -⟩ := exists_scope_of_valid h key
  refine validateGrants_ok_iff.mpr ⟨?_, fun e he => ?_⟩
  · have hvalues := congrArg List.length (Dict.values_set_of_some scope hold)
    simpa [Dict.values, hlength] using hvalues
  · have hget := Dict.get_eq_some.mpr he
    rw [Dict.get_set] at hget
    split at hget
    · rename_i hkey
      obtain rfl := Option.some.inj hget
      exact hkey ▸ hscope
    · exact hvalid e (Dict.get_eq_some.mp hget)

/-- The default scope may be given to a permission that every campus may be granted. -/
theorem validGrant_catalogueScope (h : validateTarget target = .ok ()) {key : PermissionKey}
    (hkey : key ∈ [.leadQualificationUpdate, .telephonyFreeCallCreate]) :
    ValidGrant target key (catalogueScope target) := by
  have hscopes : ∀ scope ∈ [PermissionScope.NONE, .CAMPUS, .GLOBAL],
      scope ∈ (definition key).scopes ∧ (definition key).reserved = false := by
    rw [List.mem_pair] at hkey
    rcases hkey with rfl | rfl <;> decide
  simp only [validateTarget, ok_iff] at h
  obtain ⟨-, -, hkind, -⟩ := h
  have hdefault : catalogueScope target ∈ [PermissionScope.NONE, .CAMPUS, .GLOBAL] := by
    rw [catalogueScope]
    split_ifs <;> simp
  refine ⟨(hscopes _ hdefault).1, ?_, ?_, by simp [(hscopes _ hdefault).2]⟩
  · rintro ⟨hrole, -, hscope⟩
    have hkind' : target.kind ≠ .CEILING := fun h => by simp [hkind h] at hrole
    exact hscope (by simp [catalogueScope, hkind', hrole])
  · rintro ⟨hcampus, hscope⟩
    rw [catalogueScope] at hscope
    split_ifs at hscope

theorem validateGrants_addDefault (htarget : validateTarget target = .ok ())
    (h : validateGrants next target = .ok ()) {key : PermissionKey}
    (hkey : key ∈ [.leadQualificationUpdate, .telephonyFreeCallCreate]) :
    validateGrants (addDefault existing target key next) target = .ok () := by
  rw [addDefault]
  split
  · exact h
  · exact validateGrants_set h (validGrant_catalogueScope htarget hkey)

theorem get_addDefault {key key' : PermissionKey} {scope : PermissionScope}
    (h : existing.get key' = some scope) (hnext : next.get key' = some scope) :
    (addDefault existing target key next).get key' = some scope := by
  rw [addDefault]
  split
  · exact hnext
  · rename_i hnone
    rw [Dict.get_set, if_neg (fun hkey => hnone (by rw [← hkey, h]; rfl))]
    exact hnext

/-- What a version of an older catalogue grants is read as it is. -/
theorem get_historicalGrants {key : PermissionKey} {scope : PermissionScope}
    (h : historicalGrants existing target = .ok previous) (hkey : existing.get key = some scope) :
    previous.get key = some scope := by
  have hcomplete : existing.complete.get key = some scope := by
    rw [get_complete, Grants.scope, hkey]
    rfl
  simp only [historicalGrants, ok_iff] at h
  obtain ⟨-, -, -, -, rfl⟩ := h
  split
  · exact hcomplete
  · rename_i hnone
    rw [Dict.get_set, if_neg (fun heq => hnone (by rw [← heq, hkey]; rfl))]
    exact hcomplete

/-- **The upgrade of a version** keeps its grants, and is valid. -/
theorem upgradedGrants_ok (htarget : validateTarget target = .ok ())
    (h : upgradedGrants existing target = .ok next) :
    (∀ key scope, existing.get key = some scope → next.get key = some scope) ∧
      validateGrants next target = .ok () := by
  simp only [upgradedGrants, ok_iff] at h
  obtain ⟨previous, hprevious, rfl⟩ := h
  exact ⟨fun key scope hkey =>
    get_addDefault hkey (get_addDefault hkey (get_historicalGrants hprevious hkey)),
    validateGrants_addDefault htarget (validateGrants_addDefault htarget
      (historicalGrants_ok hprevious) (by simp)) (by simp)⟩

variable {row row' : RolePermissionConfigurationRow}

theorem latest_of_filter {version : ℤ}
    (h : row.latest.filter (fun version => version.1 = row.version) = some (version, existing)) :
    row.latest = some (row.version, existing) := by
  obtain ⟨hlatest, hversion⟩ := Option.filter_eq_some_iff.mp h
  obtain rfl : version = row.version := by simpa using hversion
  exact hlatest

theorem upgradeRow_of_current (h : Current row) : upgradeRow row = .ok (0, row) := by
  rw [upgradeRow]
  split
  · rfl
  · rename_i hlatest
    exact if_pos (h _ (latest_of_filter hlatest))

/-- **A row is upgraded** when it is not current, and is then. -/
theorem upgradeRow_ok {n : ℕ} (h : upgradeRow row = .ok (n, row')) :
    Current row' ∧ (row' = row ∨ Upgraded row row') := by
  rw [upgradeRow] at h
  split at h
  · rename_i hnone
    cases h
    exact ⟨fun existing hlatest => by simp [hlatest] at hnone, .inl rfl⟩
  · rename_i existing hfilter
    have hlatest := latest_of_filter hfilter
    split at h
    · rename_i hkeys
      cases h
      refine ⟨fun other hother => ?_, .inl rfl⟩
      cases hother.symm.trans hlatest
      exact hkeys
    · simp only [ok_iff] at h
      obtain ⟨⟨⟩, htarget, next, hnext, versions, hcreate, rfl, rfl⟩ := h
      obtain ⟨hkept, hvalid⟩ := upgradedGrants_ok htarget hnext
      have hnew := latest_create hcreate fun last hlast => by
        obtain rfl := Option.mem_unique hlast hlatest
        exact Int.lt_succ _
      obtain ⟨read, hread, hget⟩ := historicalGrants_of_valid hvalid
      refine ⟨fun other hother key _ => ?_, .inr ⟨existing, next, versions, hlatest, hcreate, rfl,
        hnew, hkept, hvalid, read, hread, funext hget⟩⟩
      cases hother.symm.trans hnew
      obtain ⟨scope, hscope, -⟩ := exists_scope_of_valid hvalid key
      rw [hscope]
      rfl

/-- The last version has the greatest number. -/
theorem exists_lastVersion {versions : List (ℤ × Grants)} : ∀ version ∈ versions,
    ∃ last, lastVersion versions = some last ∧ version.1 ≤ last.1 := by
  induction versions using List.reverseRecOn with
  | nil => simp
  | append_singleton versions version ih =>
    have hlast : lastVersion (versions ++ [version]) =
        laterVersion (lastVersion versions) version := by
      rw [lastVersion, List.foldl_append]
      rfl
    intro other hother
    rw [List.mem_append, List.mem_singleton] at hother
    rw [hlast]
    cases hbefore : lastVersion versions <;> grind [laterVersion]

/-- A stored configuration that can be read is upgraded. -/
theorem upgradeRow_of_historical (h : Historical row) : ∃ upgraded, upgradeRow row = .ok upgraded := by
  rw [upgradeRow]
  split
  · exact ⟨_, rfl⟩
  · rename_i existing hfilter
    have hlatest := latest_of_filter hfilter
    obtain ⟨htarget, previous, hprevious⟩ := h existing hlatest
    split
    · exact ⟨_, rfl⟩
    · have hfree : ∀ next, (row.versions.entries.create (row.version + 1, next)).isSome := by
        refine fun next => Table.create_isSome.mpr fun k hk => ?_
        refine Table.findUnique_eq_none.mpr fun e he hke => ?_
        obtain ⟨last, hlast, hle⟩ := exists_lastVersion e he
        obtain rfl := Option.mem_unique hlatest hlast
        simp only [List.mem_singleton] at hk hke
        omega
      obtain ⟨versions, hcreate⟩ := Option.isSome_iff_exists.mp (hfree _)
      rw [htarget, ok_bind, upgradedGrants, hprevious, ok_bind, pure_bind, hcreate]
      exact ⟨_, rfl⟩

/-- **The upgrade of the catalogue** succeeds on every configuration that can be read, keeps what
was granted, makes versions that are valid and read as they are written, and is made once. -/
theorem upgradeCurrentCatalogue_sound (rows : List RolePermissionConfigurationRow) :
    ((∀ row ∈ rows, Historical row) → ∃ result, upgradeCurrentCatalogue rows = .ok result) ∧
      ∀ n rows', upgradeCurrentCatalogue rows = .ok (n, rows') →
        List.Forall₂ (fun row row' => Current row' ∧ (row' = row ∨ Upgraded row row')) rows rows' ∧
        upgradeCurrentCatalogue rows' = .ok (0, rows') := by
  constructor
  · intro h
    have hall : ∃ upgraded, rows.mapM upgradeRow = .ok upgraded := by
      induction rows with
      | nil => exact ⟨[], rfl⟩
      | cons row rows ih =>
        obtain ⟨upgraded, hrow⟩ := upgradeRow_of_historical (h row List.mem_cons_self)
        obtain ⟨rest, hrest⟩ := ih fun r hr => h r (List.mem_cons_of_mem _ hr)
        exact ⟨upgraded :: rest, mapM_ok_iff.mpr (.cons hrow (mapM_ok_iff.mp hrest))⟩
    obtain ⟨upgraded, hupgraded⟩ := hall
    exact ⟨_, by rw [upgradeCurrentCatalogue, hupgraded]; rfl⟩
  · intro n rows' h
    simp only [upgradeCurrentCatalogue, ok_iff] at h
    obtain ⟨upgraded, hupgraded, rfl, rfl⟩ := h
    have hall := (mapM_ok_iff.mp hupgraded).imp fun row r hr => upgradeRow_ok hr
    refine ⟨List.forall₂_map_right_iff.mpr hall, ?_⟩
    have hagain : (upgraded.map Prod.snd).mapM upgradeRow =
        .ok ((upgraded.map Prod.snd).map fun row => (0, row)) := by
      rw [mapM_ok_iff, List.forall₂_map_right_iff, List.forall₂_same]
      intro row' hrow'
      obtain ⟨r, hr, rfl⟩ := List.mem_map.mp hrow'
      obtain ⟨row, -, hcurrent, -⟩ := exists_of_forall₂ hall.flip hr
      exact upgradeRow_of_current hcurrent
    rw [upgradeCurrentCatalogue, hagain, ok_bind]
    simp [Function.comp_def, pure, Except.pure]

end CrmYnov.Permissions
