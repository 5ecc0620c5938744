import CrmYnov.Base.Machine
import CrmYnov.Desktop.Withdrawal

/-!
# The withdrawal of a profile, step by step

A withdrawal goes through stages: the profile is captured and the engine stopped, the request is
published, posted, its receipt is stored, the file of the settings is removed, the withdrawal is
completed. The agent may end, or a step may fail, between any two stages
(`CrmYnov.Desktop.FlowAction.interrupt`), and a file of the directory may be left half written. A
later execution takes up the withdrawal that is pending and consults its receipt; it posts
nothing.

Every event of a run is justified by the earlier ones (`CrmYnov.Desktop.Justified`): a request is
posted once, after it was published; a file is removed once the receipt of its request is stored,
and only when it is the one the request is bound to; a withdrawal is completed after its removal.
-/

namespace CrmYnov.Desktop

open Checked List

/-! ### The flow -/

/-- How far an execution has come. -/
inductive FlowStage
  | idle
  /-- No withdrawal was pending: the profile is captured and the stop is to be attested. -/
  | attesting (original : ProtectedProfileSnapshot) (request : ProfileWithdrawalRequest)
  | comparing (original : ProtectedProfileSnapshot) (request : ProfileWithdrawalRequest)
  | beginning (original : ProtectedProfileSnapshot) (request : ProfileWithdrawalRequest)
  /-- The request is published. -/
  | begun (state : WithdrawalState)
  | posting (settings : AgentSettings) (state : WithdrawalState)
  /-- A withdrawal was pending: the stop is to be attested. -/
  | resuming (state : WithdrawalState)
  | consulting (state : WithdrawalState)
  | lookingUp (settings : AgentSettings) (state : WithdrawalState)
  /-- There is a receipt. -/
  | storing (state : WithdrawalState) (receipt : ProfileWithdrawalReceipt)
  | removing (state : WithdrawalState)
  | completing (state : WithdrawalState)
deriving DecidableEq

/-- What happened, beyond the memory of the agent. -/
inductive Happening
  /-- The request was posted to the server. -/
  | posted (settings : AgentSettings) (request : ProfileWithdrawalRequest)
  /-- The state was published in the directory. -/
  | published (state : WithdrawalState)
  /-- The file of the settings was removed. -/
  | removed (state : WithdrawalState) (snapshot : ProtectedProfileSnapshot)

/-- The device of an agent, with what happened there. -/
structure Station where
  /-- The file of the settings, when there is one. -/
  profile : Option (List UInt8)
  store : StateStore := {}
  stage : FlowStage := .idle
  happened : List Happening := []

/-- How the writing of a state ends. -/
inductive Publishing
  /-- The state is in the directory. -/
  | done
  /-- The file was not moved, and is left. -/
  | left
  /-- Nothing was written. -/
  | failed

structure Circumstance where
  attested : Bool := true
  cancelled : Bool := false
  /-- What the server answers, when its answer arrives. -/
  response : Option ProfileWithdrawalReceipt := none
  publishing : Publishing := .done
  /-- `SetFileInformationByHandle` -/
  disposed : Bool := true

inductive FlowAction
  /-- `ExecuteAsync` is called; a request that is made has an identifier of its own. -/
  | execute (resumeOnly : Bool) (requestId : String)
  /-- The execution goes on. -/
  | proceed (c : Circumstance)
  /-- The execution fails, or the agent ends. -/
  | interrupt
  /-- Settings are saved. -/
  | save (file : List UInt8)

/-- The step of a computation that may throw: the execution ends there. -/
def Station.orIdle {α : Type} (w : Station) (x : Except String α) (next : α → Station) : Station :=
  match x with
  | .ok a => next a
  | .error _ => { w with stage := .idle }

def Station.publish (w : Station) (state : WithdrawalState) (publishing : Publishing)
    (next : FlowStage) : Station :=
  let exists? := w.store.states.any fun s =>
    s.request.requestId = state.request.requestId ∧ s.state = state.state
  match publishing with
  | .done =>
    -- the file is moved over no other one
    if exists? then { w with stage := .idle, store := { w.store with partialWrite := true } }
    else
      { w with
        store := { w.store with states := w.store.states ++ [state] }
        stage := next
        happened := w.happened ++ [.published state] }
  | .left => { w with stage := .idle, store := { w.store with partialWrite := true } }
  | .failed => { w with stage := .idle }

variable (d : Device)

variable (w : Station)

/-- The beginning of `ExecuteAsync`: a withdrawal that is pending is taken up, a new one is
prepared when there is none. -/
def Station.execute (resumeOnly : Bool) (requestId : String) : Station :=
  w.orIdle (readLatest d w.store none) fun found =>
    match found with
    | none =>
      if resumeOnly then { w with stage := .idle }
      else
        w.orIdle (do
          let original ← capture d w.profile
          let request ← createRequest original.settings requestId
          pure (original, request)) fun (original, request) =>
            { w with stage := .attesting original request }
    | some state =>
      if state.state = .ATTEMPTED then
        w.orIdle (do requireBoundProfile d state (← capture d w.profile)) fun _ =>
          { w with stage := .resuming state }
      else { w with stage := .resuming state }

def Station.receive (state : WithdrawalState) (response : Option ProfileWithdrawalReceipt) :
    Station :=
  w.orIdle (do
    let receipt ← demand response "HttpRequestException"
    requireReceipt d receipt state.request
    pure receipt) fun receipt => { w with stage := .storing state receipt }

/-- The next phase of a withdrawal, which is published when it is not in the directory yet. -/
def Station.advance (state : WithdrawalState) (phase : Phase)
    (receipt : Option ProfileWithdrawalReceipt) (publishing : Publishing)
    (next : WithdrawalState → FlowStage) : Station :=
  w.orIdle (Desktop.advance d w.store state phase receipt) fun (state', publish) =>
    if publish then w.publish state' publishing (next state')
    else { w with stage := next state' }

/-- The rest of `ExecuteAsync`, one stage at a time. -/
def Station.proceed (c : Circumstance) : Station :=
  match w.stage with
  | .idle => w
  | .attesting original request =>
    { w with stage := if c.attested then .comparing original request else .idle }
  | .comparing original request =>
    w.orIdle (capture d w.profile) fun current =>
      { w with
        stage := if original = current ∧ c.cancelled = false then .beginning original request
          else .idle }
  | .beginning original request =>
    w.orIdle (do
      let origin ← normalize d original.settings.apiBaseUrl
      begin d w.store request origin original.settingsSha256) fun state =>
        w.publish state c.publishing (.begun state)
  | .begun state =>
    w.orIdle (do
      let current ← capture d w.profile
      requireBoundProfile d state current
      pure current) fun current => { w with stage := .posting current.settings state }
  | .posting settings state =>
    -- a client without a token sends nothing
    if settings.agentToken.toList.all isWhiteSpace then { w with stage := .idle }
    else
      { w with happened := w.happened ++ [Happening.posted settings state.request] }.receive d
        state c.response
  | .resuming state =>
    { w with
      stage := if c.attested then
        match state.state with
        | .ATTEMPTED => .consulting state
        | .RECEIPT_STORED => .removing state
        | .COMPLETED => .idle
      else .idle }
  | .consulting state =>
    w.orIdle (do
      let current ← capture d w.profile
      requireBoundProfile d state current
      pure current) fun current => { w with stage := .lookingUp current.settings state }
  | .lookingUp _ state => w.receive d state c.response
  | .storing state receipt =>
    w.advance d state .RECEIPT_STORED (some receipt) c.publishing .removing
  | .removing state =>
    if c.cancelled then { w with stage := .idle }
    else
      w.orIdle (remove d w.profile state) fun result =>
        match result with
        | .AlreadyAbsent => { w with stage := .completing state }
        | .Removed snapshot =>
          if c.disposed then
            { w with
              profile := none
              stage := .completing state
              happened := w.happened ++ [.removed state snapshot] }
          else { w with stage := .idle }
  | .completing state => w.advance d state .COMPLETED state.receipt c.publishing fun _ => .idle

/-- One step at the station. An execution holds the maintenance lease: no other one is begun. -/
def Station.next (a : FlowAction) : Station :=
  match a with
  | .execute resumeOnly requestId =>
    if w.stage = .idle then w.execute d resumeOnly requestId else w
  | .proceed c => w.proceed d c
  | .interrupt => { w with stage := .idle }
  | .save file => { w with profile := some file }

def withdrawalMachine : Machine Station FlowAction Unit := ⟨fun w a => ((), w.next d a)⟩

/-! ### What justifies what happens -/

section Justified

variable {α : Type*} (P : List α → α → Prop)

def Justified (l : List α) : Prop := ∀ before a after, l = before ++ a :: after → P before a

variable {P} {l : List α} {a : α}

theorem justified_nil : Justified P [] := by
  intro before a after h
  exact absurd h.symm (append_ne_nil_of_right_ne_nil _ (cons_ne_nil _ _))

theorem Justified.snoc (h : Justified P l) (ha : P l a) : Justified P (l ++ [a]) := by
  intro before b after heq
  rcases eq_nil_or_concat after with rfl | ⟨after, c, rfl⟩
  · obtain ⟨rfl, hb⟩ := append_inj' heq rfl
    obtain rfl := singleton_inj.mp hb
    exact ha
  · rw [concat_eq_append, ← cons_append, ← append_assoc] at heq
    exact h before b after (append_inj' heq rfl).1

end Justified

variable (past : List Happening)

def ReceiptStored (state : WithdrawalState) : Prop :=
  Happening.published state ∈ past ∧ state.state = .RECEIPT_STORED ∧
    ∃ receipt, state.receipt = some receipt ∧ requireReceipt d receipt state.request = .ok ()

def RemovedFor (request : ProfileWithdrawalRequest) : Prop :=
  ∃ state snapshot, Happening.removed state snapshot ∈ past ∧ state.request = request

def JustifiedBy : Happening → Prop
  | .posted _ request =>
    (∀ settings' request', Happening.posted settings' request' ∈ past →
      request'.requestId ≠ request.requestId) ∧
    ∃ state, Happening.published state ∈ past ∧ state.state = .ATTEMPTED ∧ state.request = request
  | .published state => state.state = .COMPLETED → RemovedFor past state.request
  | .removed state snapshot =>
    ReceiptStored d past state ∧ requireBoundProfile d state snapshot = .ok ()

def AtMostOnePending (store : StateStore) : Prop :=
  ∀ s ∈ store.states, ∀ t ∈ store.states, store.Pending s.request.requestId →
    store.Pending t.request.requestId → s.request = t.request

/-- The state is in the directory, and its withdrawal is pending. -/
def StateStore.Current (store : StateStore) (state : WithdrawalState) : Prop :=
  state ∈ store.states ∧ store.Pending state.request.requestId

def Unposted (requestId : String) : Prop :=
  ∀ settings request, Happening.posted settings request ∈ past → request.requestId ≠ requestId

/-- What an execution may rely on at a stage. -/
def StageHolds : FlowStage → Prop
  | .idle => True
  | .attesting _ _ => True
  | .comparing _ _ => True
  | .beginning _ _ => w.profile ≠ none
  | .begun state => w.store.Current state ∧ state.state = .ATTEMPTED ∧
      Unposted w.happened state.request.requestId
  | .posting _ state => w.store.Current state ∧ state.state = .ATTEMPTED ∧
      Unposted w.happened state.request.requestId
  | .resuming state => w.store.Current state ∧ validate d state = .ok ()
  | .consulting state => w.store.Current state
  | .lookingUp _ state => w.store.Current state
  | .storing state _ => w.store.Current state
  | .removing state => w.store.Current state ∧ validate d state = .ok ()
  | .completing state => RemovedFor w.happened state.request

structure Station.Safe (w : Station) : Prop where
  justified : Justified (JustifiedBy d) w.happened
  published : ∀ s, Happening.published s ∈ w.happened ↔ s ∈ w.store.states
  posted : ∀ settings request, Happening.posted settings request ∈ w.happened →
    ∃ s ∈ w.store.states, s.request.requestId = request.requestId
  one : AtMostOnePending w.store
  /-- Where the file is missing, it was removed for the withdrawal that is pending. -/
  absent : w.profile = none → ∀ s ∈ w.store.states, w.store.Pending s.request.requestId →
    RemovedFor w.happened s.request
  stage : StageHolds d w w.stage

variable {d} {w : Station}

namespace Station.Safe

theorem goto (h : w.Safe d) {stage : FlowStage} (hstage : StageHolds d w stage) :
    Station.Safe d { w with stage } :=
  ⟨h.justified, h.published, h.posted, h.one, h.absent, by cases stage <;> exact hstage⟩

theorem idle (h : w.Safe d) : Station.Safe d { w with stage := .idle } := h.goto trivial

theorem orIdle (h : w.Safe d) {α : Type} {x : Except String α} {next : α → Station}
    (hnext : ∀ a, x = .ok a → (next a).Safe d) : (w.orIdle x next).Safe d := by
  cases hx : x with
  | error e => exact h.idle
  | ok a => exact hnext a hx

theorem leave (h : w.Safe d) :
    Station.Safe d { w with stage := .idle, store := { w.store with partialWrite := true } } :=
  ⟨h.justified, h.published, h.posted, h.one, h.absent, trivial⟩

theorem removedFor_append {past : List Happening} {request : ProfileWithdrawalRequest}
    (h : RemovedFor past request) (more : List Happening) : RemovedFor (past ++ more) request := by
  obtain ⟨state, snapshot, hmem, hrequest⟩ := h
  exact ⟨state, snapshot, mem_append_left _ hmem, hrequest⟩

variable {state : WithdrawalState}

/-- **A state is published**: the first phase of a new withdrawal while none is pending, or the
next phase of the one that is. -/
theorem publish (h : w.Safe d) (publishing : Publishing) {next : FlowStage}
    (hone : ∀ s ∈ w.store.states, w.store.Pending s.request.requestId → s.request = state.request)
    (hcompleted : state.state = .COMPLETED → RemovedFor w.happened state.request)
    (habsent : w.profile = none → state.state ≠ .COMPLETED → RemovedFor w.happened state.request)
    (hnext : StageHolds d { w with
      store := { w.store with states := w.store.states ++ [state] }
      happened := w.happened ++ [.published state] } next) :
    (w.publish state publishing next).Safe d := by
  rw [Station.publish.eq_def]
  cases publishing with
  | left => exact h.leave
  | failed => exact h.idle
  | done =>
    dsimp only
    split
    · exact h.leave
    · -- the withdrawals that are pending afterwards were pending before, or are the new one
      have hpend : ∀ requestId, ({ w.store with states := w.store.states ++ [state] } :
          StateStore).Pending requestId → w.store.Pending requestId := fun requestId hp s hs =>
        hp s (mem_append_left _ hs)
      refine ⟨h.justified.snoc hcompleted, fun s => ?_, fun settings request hmem => ?_, ?_, ?_, ?_⟩
      · simp only [mem_append, mem_singleton, Happening.published.injEq, h.published s]
      · have hmem' : Happening.posted settings request ∈ w.happened := by simpa using hmem
        obtain ⟨s, hs, hid⟩ := h.posted settings request hmem'
        exact ⟨s, mem_append_left _ hs, hid⟩
      · intro s hs t ht hps hpt
        have hrequest : ∀ u ∈ w.store.states ++ [state],
            w.store.Pending u.request.requestId → u.request = state.request := by
          intro u hu hpu
          rcases mem_append.mp hu with hu | hu
          · exact hone u hu hpu
          · rw [mem_singleton.mp hu]
        rw [hrequest s hs (hpend _ hps), hrequest t ht (hpend _ hpt)]
      · intro hnone s hs hps
        rcases mem_append.mp hs with hs | hs
        · exact removedFor_append (h.absent hnone s hs (hpend _ hps)) _
        · obtain rfl := mem_singleton.mp hs
          exact removedFor_append (habsent hnone (hps s (mem_append_right _
            (mem_singleton_self s)) rfl)) _
      · cases next <;> exact hnext

theorem execute (h : w.Safe d) (resumeOnly : Bool) (requestId : String) :
    (w.execute d resumeOnly requestId).Safe d := by
  refine h.orIdle fun found hfound => ?_
  have hread := (readLatest_none_ok hfound).1
  cases found with
  | none =>
    dsimp only
    split
    · exact h.idle
    · exact h.orIdle fun _ _ => h.goto trivial
  | some state =>
    obtain ⟨hstored, hvalid, hpend, -⟩ := hread state rfl
    have hresume : Station.Safe d { w with stage := .resuming state } :=
      h.goto ⟨⟨hstored, hpend⟩, hvalid⟩
    dsimp only
    split
    · exact h.orIdle fun _ _ => hresume
    · exact hresume

theorem receive (h : w.Safe d) (hstate : w.store.Current state)
    (response : Option ProfileWithdrawalReceipt) : (w.receive d state response).Safe d :=
  h.orIdle fun _ _ => h.goto hstate

theorem current_snoc {store : StateStore} {state state' : WithdrawalState}
    (hid : state'.request = state.request) (hne : state'.state ≠ .COMPLETED)
    (hpend : store.Pending state.request.requestId) :
    ({ store with states := store.states ++ [state'] } : StateStore).Current state' := by
  refine ⟨mem_append_right _ (mem_singleton_self _), fun s hs hs' => ?_⟩
  rcases mem_append.mp hs with hs | hs
  · exact hpend s hs (hid ▸ hs')
  · rwa [mem_singleton.mp hs]

theorem advance (h : w.Safe d) {phase : Phase} {receipt : Option ProfileWithdrawalReceipt}
    (publishing : Publishing) {next : WithdrawalState → FlowStage}
    (hcompleted : phase = .COMPLETED → RemovedFor w.happened state.request)
    (hnext : ∀ state' store happened, validate d state' = .ok () →
      (phase ≠ .COMPLETED → store.Current state') →
      StageHolds d { w with store, happened } (next state')) :
    (w.advance d state phase receipt publishing next).Safe d := by
  refine h.orIdle fun ⟨state', publish⟩ hadvance => ?_
  obtain ⟨rfl, hvalid, hkept, hpublished⟩ := advance_ok hadvance
  cases publish with
  | false =>
    obtain ⟨hstored, hpend⟩ := hkept rfl
    exact h.goto (hnext _ w.store w.happened hvalid fun hne => ⟨hstored, hpend hne⟩)
  | true =>
    obtain ⟨hstored, -, hpend⟩ := hpublished rfl
    refine h.publish publishing (fun s hs hps => h.one s hs state hstored hps hpend)
      hcompleted (fun hnone _ => h.absent hnone state hstored hpend) ?_
    exact hnext _ _ _ hvalid fun hne => current_snoc rfl hne hpend

theorem removed (h : w.Safe d) {snapshot : ProtectedProfileSnapshot}
    (hstate : w.store.Current state) (hvalid : validate d state = .ok ())
    (hstored : state.state = .RECEIPT_STORED)
    (hbound : requireBoundProfile d state snapshot = .ok ()) :
    Station.Safe d { w with
      profile := none
      stage := .completing state
      happened := w.happened ++ [.removed state snapshot] } := by
  have hrec : ReceiptStored d w.happened state :=
    ⟨(h.published state).mpr hstate.1, hstored, receipt_of_validate hvalid (by rw [hstored]; decide)⟩
  have hremoved : RemovedFor (w.happened ++ [.removed state snapshot]) state.request :=
    ⟨state, snapshot, mem_append_right _ (mem_singleton_self _), rfl⟩
  refine ⟨h.justified.snoc ⟨hrec, hbound⟩, fun s => ?_, fun settings request hmem => ?_, h.one,
    fun _ s hs hps => ?_, hremoved⟩
  · simp [h.published s]
  · exact h.posted settings request (by simpa using hmem)
  · exact h.one s hs state hstate.1 hps hstate.2 ▸ hremoved

theorem post (h : w.Safe d) (settings : AgentSettings) (hstate : w.store.Current state)
    (hattempted : state.state = .ATTEMPTED)
    (hunposted : Unposted w.happened state.request.requestId) :
    Station.Safe d { w with
      stage := .idle
      happened := w.happened ++ [.posted settings state.request] } := by
  refine ⟨h.justified.snoc ⟨hunposted, state, (h.published state).mpr hstate.1, hattempted, rfl⟩,
    fun s => ?_, fun settings' request hmem => ?_, h.one,
    fun hnone s hs hps => removedFor_append (h.absent hnone s hs hps) _, trivial⟩
  · simp [h.published s]
  · rcases mem_append.mp hmem with hmem | hmem
    · exact h.posted settings' request hmem
    · obtain ⟨-, rfl⟩ := Happening.posted.inj (mem_singleton.mp hmem)
      exact ⟨state, hstate.1, rfl⟩

/-- **The next stage of an execution.** -/
theorem proceed (h : w.Safe d) (c : Circumstance) : (w.proceed d c).Safe d := by
  have hstage := h.stage
  rw [Station.proceed]
  cases hw : w.stage with
  | idle => exact h
  | attesting original request =>
    dsimp only
    split
    · exact h.goto trivial
    · exact h.idle
  | comparing original request =>
    refine h.orIdle fun current hcur => ?_
    split
    · refine h.goto fun hnone => ?_
      rw [hnone] at hcur
      cases hcur
    · exact h.idle
  | beginning original request =>
    rw [hw] at hstage
    refine h.orIdle fun state hstate => ?_
    obtain ⟨origin, -, hbegin⟩ := bind_ok_iff.mp hstate
    obtain ⟨hattempted, rfl, hnew, hdone⟩ := begin_ok hbegin
    refine h.publish c.publishing (fun s hs hps => absurd hps (hdone s hs))
      (fun hcompleted => by rw [hattempted] at hcompleted; cases hcompleted)
      (fun hnone _ => absurd hnone hstage) ?_
    refine ⟨⟨mem_append_right _ (mem_singleton_self _), fun s hs hid => ?_⟩, hattempted,
      fun settings request hmem hid => ?_⟩
    · rcases mem_append.mp hs with hs | hs
      · exact absurd hid (hnew s hs)
      · rw [mem_singleton.mp hs, hattempted]
        decide
    · obtain ⟨s, hs, hid'⟩ := h.posted settings request (by simpa using hmem)
      exact hnew s hs (hid'.trans hid)
  | begun state =>
    rw [hw] at hstage
    exact h.orIdle fun _ _ => h.goto hstage
  | posting settings state =>
    rw [hw] at hstage
    obtain ⟨hstate, hattempted, hunposted⟩ := hstage
    dsimp only
    split
    · exact h.idle
    · exact (h.post settings hstate hattempted hunposted).receive hstate c.response
  | resuming state =>
    rw [hw] at hstage
    obtain ⟨hstate, hvalid⟩ := hstage
    dsimp only
    split
    · cases state.state with
      | ATTEMPTED => exact h.goto hstate
      | RECEIPT_STORED => exact h.goto ⟨hstate, hvalid⟩
      | COMPLETED => exact h.idle
    · exact h.idle
  | consulting state =>
    rw [hw] at hstage
    exact h.orIdle fun _ _ => h.goto hstage
  | lookingUp settings state =>
    rw [hw] at hstage
    exact h.receive hstage c.response
  | storing state receipt =>
    refine h.advance c.publishing (fun hcompleted => by cases hcompleted) ?_
    exact fun state' store happened hvalid hcur => ⟨hcur (by decide), hvalid⟩
  | removing state =>
    rw [hw] at hstage
    obtain ⟨hstate, hvalid⟩ := hstage
    dsimp only
    split
    · exact h.idle
    · refine h.orIdle fun result hresult => ?_
      obtain ⟨-, hstored, hresult⟩ := remove_ok hresult
      cases result with
      | AlreadyAbsent => exact h.goto (h.absent hresult state hstate.1 hstate.2)
      | Removed snapshot =>
        obtain ⟨file, -, -, hbound⟩ := hresult
        dsimp only
        split
        · exact h.removed hstate hvalid hstored hbound
        · exact h.idle
  | completing state =>
    rw [hw] at hstage
    exact h.advance c.publishing (fun _ => hstage) fun _ _ _ _ _ => trivial

/-- **Every step keeps the station safe.** -/
theorem next (h : w.Safe d) (a : FlowAction) : (w.next d a).Safe d := by
  cases a with
  | execute resumeOnly requestId =>
    rw [Station.next]
    split
    · exact h.execute resumeOnly requestId
    · exact h
  | proceed c => exact h.proceed c
  | interrupt => exact h.idle
  | save file =>
    have hprofile : some file ≠ (none : Option (List UInt8)) := Option.some_ne_none file
    refine ⟨h.justified, h.published, h.posted, h.one, fun hnone => absurd hnone hprofile, ?_⟩
    have hstage := h.stage
    show StageHolds d { w with profile := some file } w.stage
    cases hw : w.stage <;> rw [hw] at hstage
    case beginning => exact hprofile
    all_goals exact hstage

end Station.Safe

/-! ### Every run -/

/-- The file is the profile that a withdrawal is bound to whose receipt is stored. -/
def Removable (d : Device) (past : List Happening) (file : List UInt8) : Prop :=
  ∃ state snapshot, ReceiptStored d past state ∧ decode d file = .ok snapshot ∧
    requireBoundProfile d state snapshot = .ok ()

theorem orIdle_profile {α : Type} {x : Except String α} {next : α → Station}
    (h : ∀ a, x = .ok a → (next a).profile = w.profile) : (w.orIdle x next).profile = w.profile := by
  cases hx : x with
  | error e => rfl
  | ok a => exact h a hx

theorem publish_profile (state : WithdrawalState) (publishing : Publishing) (next : FlowStage) :
    (w.publish state publishing next).profile = w.profile := by
  rw [Station.publish.eq_def]
  cases publishing with
  | done =>
    dsimp only
    split <;> rfl
  | left => rfl
  | failed => rfl

theorem execute_profile (resumeOnly : Bool) (requestId : String) :
    (w.execute d resumeOnly requestId).profile = w.profile := by
  refine orIdle_profile fun found _ => ?_
  cases found with
  | none =>
    dsimp only
    split
    · rfl
    · exact orIdle_profile fun _ _ => rfl
  | some state =>
    dsimp only
    split
    · exact orIdle_profile fun _ _ => rfl
    · rfl

theorem advance_profile (state : WithdrawalState) (phase : Phase)
    (receipt : Option ProfileWithdrawalReceipt) (publishing : Publishing)
    (next : WithdrawalState → FlowStage) :
    (w.advance d state phase receipt publishing next).profile = w.profile := by
  refine orIdle_profile fun ⟨state', publish⟩ _ => ?_
  cases publish with
  | false => rfl
  | true => exact publish_profile _ _ _

theorem proceed_profile (c : Circumstance) (hstage : ∀ state, w.stage ≠ .removing state) :
    (w.proceed d c).profile = w.profile := by
  rw [Station.proceed]
  cases hw : w.stage with
  | idle => rfl
  | attesting original request => rfl
  | comparing original request => exact orIdle_profile fun _ _ => rfl
  | beginning original request => exact orIdle_profile fun _ _ => publish_profile _ _ _
  | begun state => exact orIdle_profile fun _ _ => rfl
  | posting settings state =>
    dsimp only
    split
    · rfl
    · exact orIdle_profile fun _ _ => rfl
  | resuming state => rfl
  | consulting state => exact orIdle_profile fun _ _ => rfl
  | lookingUp settings state => exact orIdle_profile fun _ _ => rfl
  | storing state receipt => exact advance_profile _ _ _ _ _
  | removing state => exact absurd hw (hstage state)
  | completing state => exact advance_profile _ _ _ _ _

/-- **The file of the settings disappears at one stage only.** -/
theorem removable_of_next (h : w.Safe d) {a : FlowAction} {file : List UInt8}
    (hfile : w.profile = some file) (hnone : (w.next d a).profile = none) :
    Removable d w.happened file := by
  have hkept : (w.next d a).profile ≠ w.profile := by simp [hnone, hfile]
  cases a with
  | execute resumeOnly requestId =>
    rw [Station.next] at hkept
    split at hkept
    · exact absurd (execute_profile _ _) hkept
    · exact absurd rfl hkept
  | interrupt => exact absurd rfl hkept
  | save file' => cases hnone
  | proceed c =>
    have hstage := h.stage
    cases hw : w.stage with
    | removing state =>
      rw [hw] at hstage
      obtain ⟨hstate, hvalid⟩ := hstage
      simp only [Station.next, Station.proceed, hw, Station.orIdle] at hkept
      split at hkept
      · exact absurd rfl hkept
      · cases hremove : remove d w.profile state with
        | error e =>
          rw [hremove] at hkept
          exact absurd rfl hkept
        | ok result =>
          obtain ⟨-, hstored, hresult⟩ := remove_ok hremove
          cases result with
          | AlreadyAbsent =>
            have habsent : w.profile = none := hresult
            rw [hfile] at habsent
            cases habsent
          | Removed snapshot =>
            obtain ⟨file', hfile', hdecode, hbound⟩ := hresult
            obtain rfl := Option.mem_unique hfile hfile'
            exact ⟨state, snapshot, ⟨(h.published state).mpr hstate.1, hstored,
              receipt_of_validate hvalid (by rw [hstored]; decide)⟩, hdecode, hbound⟩
    | _ => exact absurd (proceed_profile c fun state => by rw [hw]; exact FlowStage.noConfusion) hkept

/-- **A withdrawal survives any interruption**: whatever the executions, their failures and the
settings that are saved meanwhile, every event is justified by the earlier ones, at most one
withdrawal is pending, and the file of the settings is removed only when it is the profile of a
withdrawal whose receipt is stored. -/
theorem withdrawal_safe (d : Device) (profile : Option (List UInt8)) (as : List FlowAction) :
    let w := (withdrawalMachine d).run ⟨profile, {}, .idle, []⟩ as
    Justified (JustifiedBy d) w.happened ∧
      (∀ s, Happening.published s ∈ w.happened ↔ s ∈ w.store.states) ∧
      AtMostOnePending w.store ∧
      ∀ a file, w.profile = some file → (w.next d a).profile = none →
        Removable d w.happened file := by
  have hinit : Station.Safe d ⟨profile, {}, .idle, []⟩ := by
    refine ⟨justified_nil, fun s => ?_, fun _ _ hmem => ?_, fun s hs => ?_, fun _ s hs => ?_,
      trivial⟩
    · simp
    · cases hmem
    · cases hs
    · cases hs
  have hsafe := Machine.run_of_stable (M := withdrawalMachine d) (P := Station.Safe d)
    (fun w a hw => hw.next a) hinit as
  exact ⟨hsafe.justified, hsafe.published, hsafe.one, fun a file hfile hnone =>
    removable_of_next hsafe hfile hnone⟩

end CrmYnov.Desktop
