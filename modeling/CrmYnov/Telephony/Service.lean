import CrmYnov.Base.Machine
import CrmYnov.Js.Date
import CrmYnov.Telephony.Types

/-!
# What is reported of a call

Three requests add an event to a call: a report of its state, a compensation, and the
confirmation of the lead it is about. The last two leave the state as it is; their event is of the
kind `COMPENSATION`. All the events of all the calls share their idempotency keys, and the order
of the events of a call is that of their times.

A compensation does not look at what it finds under its key
(`CrmYnov.Telephony.compensation_iff`), and a report is judged by the last event of the call,
of whatever kind (`CrmYnov.Telephony.reports_apart`): both are as meant as long as the two kinds
of events do not meet.
-/

namespace CrmYnov.Telephony

open Checked Table List Option

/-! ### The requests -/

/-- The author of a request, and what the leads answer about a lead. -/
structure Caller where
  principal : Principal
  scopedLead : String → Outcome Unit
  leadFingerprint : String → Outcome (Option String)

/-- What the world gives to a request. -/
structure Moment where
  now : Instant
  eventId : String

structure CallEventInput where
  (idempotencyKey state : Option String)
  occurredAt : Option String := none
  reasonCode : Option String := none

structure CompensationInput where
  (idempotencyKey reasonCode : Option String)

def contributorRoles : List Role := [.ADMISSIONS, .MANAGER, .ADMIN, .SUPER_ADMIN]

/-- `/^[A-Za-z0-9_-]{8,160}$/` -/
def isEventKey (text : String) : Bool :=
  Js.fullMatch (fun c => Js.isAlnum c || c == '_' || c == '-') 8 160 text

/-- `/^[A-Z][A-Z0-9_]{2,63}$/` -/
def isReasonCode (text : String) : Bool :=
  Js.headMatch Js.isUpper (fun c => Js.isUpper c || Js.isDigit c || c == '_') 3 64 text

variable (rt : Runtime) (config : Configuration)

/-- The call a request is about, when its author may know of it. -/
def requiredCall (T : Traffic) (caller : Caller) (id : String) : Outcome CallRow := do
  let call ← demand (T.call id) (.notFound "telephony_call_not_found")
  let _ ← (call.leadId.map caller.scopedLead).getD (pure ())
  pure call

/-- `timestamp(value, code)` -/
def timestamp (now : Instant) (value : Option String) (code : String) : Outcome Instant :=
  match value.filter fun text => text != "" with
  | none => pure now
  | some text => demand (rt.parseDate text) (.badRequest code)

/-- An event at this instant would come before the last one, by the texts of their dates. -/
def OutOfOrder (events : List CallEventRow) (occurredAt : Instant) : Prop :=
  ∃ last ∈ events.getLast?, Js.isoString occurredAt < Js.isoString last.occurredAt
deriving Decidable

def readEvent (input : CallEventInput) : Outcome (String × CallState) := do
  let refused : Failure := .badRequest "telephony_event_invalid"
  let key ← demand (input.idempotencyKey.filter isEventKey) refused
  let state ← demand (input.state.bind callStateOf) refused
  pure (key, state)

def CallRow.reported (c : CallRow) (next : CallState) (occurredAt : Instant) : CallRow :=
  let answeredAt := if next = .ANSWERED then some occurredAt else c.answeredAt
  let endedAt := if next.Terminal then some occurredAt else c.endedAt
  let durationSeconds := match answeredAt, endedAt with
    | some answered, some ended => some (max 0 ((ended - answered) / 1000))
    | _, _ => c.durationSeconds
  { c with state := next, answeredAt, endedAt, durationSeconds }

/-- `event(callId, idempotencyKey, eventType, state, occurredAt, actorId, reasonCode)` -/
def callEvent (caller : Caller) (moment : Moment) (callId key : String) (eventType : EventType)
    (state : CallState) (occurredAt : Instant) (reasonCode : Option String) : CallEventRow :=
  ⟨moment.eventId, callId, key, eventType, state, reasonCode, caller.principal.userId, occurredAt⟩

/-- `persistTransition`, of an event whose key is new. -/
def persistTransition (T : Traffic) (previous updated : CallRow) (event : CallEventRow) :
    Outcome Traffic := do
  require (T.calls.count (fun c => c.id = updated.id ∧ c.state = previous.state) = 1)
    (.conflict "telephony_transition_invalid")
  let events ← insert T.events event
  let calls := T.calls.updateMany (fun c => c.id = updated.id ∧ c.state = previous.state) (fun c =>
    { c with
      state := updated.state, answeredAt := updated.answeredAt, endedAt := updated.endedAt
      durationSeconds := updated.durationSeconds })
  pure { T with calls, events }

/-- `receiveEventForApi` -/
def receiveEventForApi (T : Traffic) (caller : Caller) (moment : Moment) (callId : String)
    (input : CallEventInput) : Outcome Traffic := do
  let call ← requiredCall T caller callId
  require (caller.principal.hasSome contributorRoles) (.forbidden "telephony_role_forbidden")
  let (key, next) ← readEvent input
  match T.receipt key with
  | some receipt => do
    require (receipt.callId = callId ∧ receipt.state = next)
      (.conflict "telephony_event_idempotency_conflict")
    pure T
  | none => do
    let occurredAt ← timestamp rt moment.now input.occurredAt "telephony_event_timestamp_invalid"
    require (¬OutOfOrder (T.eventsOf callId) occurredAt) (.conflict "telephony_event_out_of_order")
    require (next ∈ transitions call.state) (.conflict "telephony_transition_invalid")
    let updated := call.reported next occurredAt
    require (updated.durationSeconds.getD 0 ≤ config.maxCallDurationSeconds)
      (.conflict "telephony_duration_threshold_exceeded")
    persistTransition T call updated
      (callEvent caller moment callId key .STATE next occurredAt input.reasonCode)

/-- `compensateForApi`: an event that is found under the key is looked for in the call, whatever
its kind. -/
def compensateForApi (T : Traffic) (caller : Caller) (moment : Moment) (callId : String)
    (input : CompensationInput) : Outcome Traffic := do
  require (caller.principal.hasSome Principal.managers)
    (.forbidden "telephony_compensation_forbidden")
  let call ← requiredCall T caller callId
  let invalid : Failure := .badRequest "telephony_compensation_invalid"
  let key ← demand (input.idempotencyKey.filter isEventKey) invalid
  require (isReasonCode (input.reasonCode.getD "") = true) invalid
  match T.receipt key with
  | some receipt => do
    require (receipt.callId = callId) (.error "telephony_compensation_event_missing")
    pure T
  | none => do
    let events ← insert T.events
      (callEvent caller moment callId key .COMPENSATION call.state moment.now input.reasonCode)
    pure { T with events }

/-- `confirmAssociationForApi` -/
def confirmAssociationForApi (T : Traffic) (caller : Caller) (moment : Moment)
    (callId leadId : String) : Outcome Traffic := do
  let call ← requiredCall T caller callId
  require (caller.principal.hasSome Principal.managers)
    (.forbidden "telephony_association_forbidden")
  require (call.leadId = none ∧ call.matchState ∈ [.UNMATCHED, .AMBIGUOUS])
    (.conflict "telephony_association_already_resolved")
  caller.scopedLead leadId
  let fingerprint ← caller.leadFingerprint leadId
  require (fingerprint = some call.phoneFingerprint)
    (.conflict "telephony_association_phone_mismatch")
  let key := "association:" ++ callId ++ ":" ++ leadId
  if (T.receipt key).isSome then pure T
  else do
    require (T.calls.count (fun c => c.id = callId ∧ c.leadId = none ∧
      c.matchState = call.matchState) = 1) (.conflict "telephony_association_already_resolved")
    let events ← insert T.events (callEvent caller moment callId key .COMPENSATION call.state
      moment.now "ASSOCIATION_CONFIRMED")
    let calls := T.calls.updateMany
      (fun c => c.id = callId ∧ c.leadId = none ∧ c.matchState = call.matchState)
      fun c => { c with leadId := some leadId, matchState := .CONFIRMED }
    pure { T with calls, events }

/-! ### Compensations -/

variable {rt config} {T : Traffic}

def Compensated (T : Traffic) (callId key : String) : Prop :=
  ∃ e ∈ T.events.rows, e.callId = callId ∧ e.idempotencyKey = key ∧ e.eventType = .COMPENSATION

structure MayCompensate (T : Traffic) (caller : Caller) (callId key : String)
    (input : CompensationInput) : Prop where
  role : caller.principal.hasSome Principal.managers
  call : ∃ call, requiredCall T caller callId = .ok call
  key : input.idempotencyKey = some key ∧ isEventKey key
  reason : isReasonCode (input.reasonCode.getD "") = true

/-- What a compensation that succeeds has done. -/
theorem compensate_ok {T' : Traffic} {caller : Caller} {moment : Moment} {callId key : String}
    {input : CompensationInput} (hinput : input.idempotencyKey = some key)
    (h : compensateForApi T caller moment callId input = .ok T') :
    MayCompensate T caller callId key input ∧
      ((∃ r, T.receipt key = some r ∧ r.callId = callId ∧ T' = T) ∨
        ∃ e events, e.callId = callId ∧ e.idempotencyKey = key ∧ e.eventType = .COMPENSATION ∧
          T.events.create e = some events ∧ T' = { T with events }) := by
  simp only [compensateForApi, bind_ok_iff, require_ok_iff, demand_ok_iff, hinput,
    filter_eq_some_iff, some.injEq] at h
  obtain ⟨-, hrole, call, hcall, _, ⟨rfl, hkey⟩, -, hreason, h⟩ := h
  refine ⟨⟨hrole, ⟨call, hcall⟩, ⟨hinput, hkey⟩, hreason⟩, ?_⟩
  split at h
  · rename_i r hrec
    simp only [bind_ok_iff, require_ok_iff, pure_ok_iff] at h
    obtain ⟨-, hr, rfl⟩ := h
    exact .inl ⟨r, hrec, hr, rfl⟩
  · simp only [bind_ok_iff, insert_ok_iff, pure_ok_iff] at h
    obtain ⟨events, hcreate, rfl⟩ := h
    exact .inr ⟨_, events, rfl, rfl, rfl, hcreate, rfl⟩

/-- A compensation whose key is found in its call succeeds, and does nothing. -/
theorem compensate_again {caller : Caller} {moment : Moment} {callId key : String}
    {input : CompensationInput} (hmay : MayCompensate T caller callId key input)
    {e : CallEventRow} (hrec : T.receipt key = some e) (he : e.callId = callId) :
    compensateForApi T caller moment callId input = .ok T := by
  obtain ⟨call, hcall⟩ := hmay.call
  simp only [compensateForApi, require_pos hmay.role, hcall, hmay.key.1, filter_some,
    hmay.key.2, if_true, demand_some, require_pos hmay.reason, ok_bind, hrec, require_pos he]
  rfl

/-- **What a compensation is meant to be**: one that succeeds is on its call under its key, and a
key of another call, or of a report, is refused. -/
def CompensationSound (T : Traffic) (caller : Caller) (moment : Moment) (callId key : String)
    (input : CompensationInput) : Prop :=
  (∀ T', compensateForApi T caller moment callId input = .ok T' → Compensated T' callId key) ∧
    ∀ e ∈ T.events.rows, e.idempotencyKey = key → e.callId ≠ callId ∨ e.eventType = .STATE →
      Refused (compensateForApi T caller moment callId input)

/-- **A compensation is as it is meant** unless its key is that of a report of the same call. -/
theorem compensation_iff {caller : Caller} {moment : Moment} {callId key : String}
    {input : CompensationInput} (hinput : input.idempotencyKey = some key) :
    CompensationSound T caller moment callId key input ↔
      ¬(MayCompensate T caller callId key input ∧ ∃ e ∈ T.events.rows,
        e.callId = callId ∧ e.idempotencyKey = key ∧ e.eventType = .STATE) := by
  constructor
  · rintro ⟨hsound, -⟩ ⟨hmay, e, he, hcall, hkey, htype⟩
    have hrec := Traffic.receipt_eq_some.mpr ⟨he, hkey⟩
    obtain ⟨e', he', -, hkey', htype'⟩ := hsound T (compensate_again hmay hrec hcall)
    rw [Traffic.receipt_eq_some.mpr ⟨he', hkey'⟩, some.injEq] at hrec
    rw [hrec, htype] at htype'
    cases htype'
  · intro hnot
    refine ⟨fun T' hok => ?_, fun e he hkey hother => refused_iff.mpr fun T' hok => ?_⟩
    · obtain ⟨hmay, ⟨r, hrec, hr, rfl⟩ | ⟨e, events, hcall, hkey, htype, hcreate, rfl⟩⟩ :=
        compensate_ok hinput hok
      · obtain ⟨hmem, hkey⟩ := Traffic.receipt_eq_some.mp hrec
        cases htype : r.eventType with
        | STATE => exact absurd ⟨hmay, r, hmem, hr, hkey, htype⟩ hnot
        | COMPENSATION => exact ⟨r, hmem, hr, hkey, htype⟩
      · exact ⟨e, (mem_create hcreate).mpr (.inr rfl), hcall, hkey, htype⟩
    · have hrec := Traffic.receipt_eq_some.mpr ⟨he, hkey⟩
      obtain ⟨hmay, ⟨r, hr, hcall, -⟩ | ⟨e', events, -, hkey', -, hcreate, -⟩⟩ :=
        compensate_ok hinput hok
      · rw [hrec, some.injEq] at hr
        subst hr
        rcases hother with hne | htype
        · exact hne hcall
        · exact hnot ⟨hmay, e, he, hcall, hkey, htype⟩
      · have hfree := findUnique_of_create hcreate (CallEventRow.mem_keys_text.mpr hkey')
        rw [Traffic.receipt, hfree] at hrec
        cases hrec

/-! ### Reports -/

inductive CallAction
  | report (caller : Caller) (moment : Moment) (callId : String) (input : CallEventInput)
  | compensate (caller : Caller) (moment : Moment) (callId : String) (input : CompensationInput)
  | associate (caller : Caller) (moment : Moment) (callId leadId : String)

namespace CallAction

def isReport : CallAction → Bool
  | report _ _ _ _ => true
  | compensate _ _ _ _ => false
  | associate _ _ _ _ => false

/-- What a request makes of the tables. -/
def apply (rt : Runtime) (config : Configuration) (T : Traffic) : CallAction → Outcome Traffic
  | report caller moment callId input => receiveEventForApi rt config T caller moment callId input
  | compensate caller moment callId input => compensateForApi T caller moment callId input
  | associate caller moment callId leadId => confirmAssociationForApi T caller moment callId leadId

end CallAction

/-- The requests, one at a time: what throws is rolled back. -/
def desk (rt : Runtime) (config : Configuration) :
    Machine Traffic CallAction (Outcome Traffic) where
  step T a := (a.apply rt config T, (a.apply rt config T).toOption.getD T)

def CallRow.view (c : CallRow) : CallState × Option Instant × Option Instant × Option ℤ :=
  (c.state, c.answeredAt, c.endedAt, c.durationSeconds)

def Traffic.reportsOf (T : Traffic) (callId : String) : List CallEventRow :=
  (T.events.findMany fun e => e.eventType = .STATE ∧ e.callId = callId).insertionSort Earlier

/-- The two calls differ at most in a lead that was confirmed. -/
structure SameCall (c c₀ : CallRow) : Prop where
  row : c₀ = { c with leadId := c₀.leadId, matchState := c₀.matchState }
  lead : c.leadId = c₀.leadId ∨ c₀.leadId = none ∧ c.matchState = .CONFIRMED

/-- The tables of `T₀` are those of `T` without compensations and confirmations. -/
structure Beside (T T₀ : Traffic) : Prop where
  calls : Forall₂ SameCall T.calls.rows T₀.calls.rows
  events : T.events.rows.filter (fun e => e.eventType = .STATE) = T₀.events.rows

theorem Beside.call {T₀ : Traffic} (h : Beside T T₀) (id : String) :
    Rel SameCall (T.call id) (T₀.call id) := by
  have hcalls := h.calls
  simp only [Traffic.call, findUnique]
  generalize T.calls.rows = rows, T₀.calls.rows = rows₀ at hcalls
  induction hcalls with
  | nil => exact .none
  | @cons c c₀ rows rows₀ hsame _ ih =>
    have hid : c₀.id = c.id := by rw [hsame.row]
    simp only [find?_cons, CallRow.mem_keys_id, hid]
    split
    · exact .some hsame
    · simpa only [CallRow.mem_keys_id] using ih

/-- **A compensation or a confirmation** leaves what is reported. -/
theorem Beside.aside {T₀ T' : Traffic} (h : Beside T T₀) {a : CallAction}
    (ha : a.isReport = false) (hok : a.apply rt config T = .ok T') : Beside T' T₀ := by
  cases a with
  | report caller moment callId input => cases ha
  | compensate caller moment callId input =>
    simp only [CallAction.apply, compensateForApi, bind_ok_iff] at hok
    obtain ⟨-, -, call, -, key, -, -, -, hok⟩ := hok
    split at hok
    · simp only [bind_ok_iff, pure_ok_iff] at hok
      obtain ⟨-, -, rfl⟩ := hok
      exact h
    · simp only [bind_ok_iff, insert_ok_iff, pure_ok_iff] at hok
      obtain ⟨events, hcreate, rfl⟩ := hok
      refine ⟨h.calls, ?_⟩
      rw [create_rows hcreate, filter_append, h.events]
      exact append_nil _
  | associate caller moment callId leadId =>
    simp only [CallAction.apply, confirmAssociationForApi, bind_ok_iff] at hok
    obtain ⟨call, -, -, -, -, -, -, -, -, -, -, -, hok⟩ := hok
    split at hok
    · rw [← pure_ok_iff.mp hok]
      exact h
    · simp only [bind_ok_iff, insert_ok_iff, pure_ok_iff] at hok
      obtain ⟨-, -, events, hcreate, rfl⟩ := hok
      refine ⟨forall₂_map_left_iff.mpr (h.calls.imp fun c c₀ hsame => ?_), ?_⟩
      · split
        · rename_i hopen
          refine ⟨hsame.row, .inr ⟨?_, rfl⟩⟩
          rcases hsame.lead with heq | ⟨hnone, -⟩
          · rw [← heq, hopen.2.1]
          · exact hnone
        · exact hsame
      · rw [create_rows hcreate, filter_append, h.events]
        exact append_nil _

/-- The report is read, and its author may report on the call. -/
structure Admitted (T : Traffic) (caller : Caller) (callId : String) (input : CallEventInput)
    (call : CallRow) (key : String) (next : CallState) : Prop where
  call : requiredCall T caller callId = .ok call
  role : caller.principal.hasSome contributorRoles
  read : readEvent input = .ok (key, next)

/-- The report was made before. -/
def Repeats (T : Traffic) (callId key : String) (next : CallState) : Prop :=
  ∃ r, T.receipt key = some r ∧ r.callId = callId ∧ r.state = next

/-- The report is new, and the call can be as it says. -/
structure Accepts (rt : Runtime) (config : Configuration) (T : Traffic) (moment : Moment)
    (callId : String) (input : CallEventInput) (call : CallRow) (key : String) (next : CallState)
    (occurredAt : Instant) : Prop where
  free : T.receipt key = none
  time : timestamp rt moment.now input.occurredAt "telephony_event_timestamp_invalid" =
    .ok occurredAt
  order : ¬OutOfOrder (T.eventsOf callId) occurredAt
  moves : next ∈ transitions call.state
  duration : (call.reported next occurredAt).durationSeconds.getD 0 ≤ config.maxCallDurationSeconds

/-- The tables, once a report is kept. -/
def Traffic.kept (T : Traffic) (call : CallRow) (next : CallState) (occurredAt : Instant)
    (events : Table CallEventRow CallEventRow.keys) : Traffic :=
  let updated := call.reported next occurredAt
  let calls := T.calls.updateMany (fun c => c.id = call.id ∧ c.state = call.state) fun c =>
    { c with
      state := updated.state, answeredAt := updated.answeredAt, endedAt := updated.endedAt
      durationSeconds := updated.durationSeconds }
  { T with calls, events }

theorem requiredCall_ok_iff {caller : Caller} {id : String} {call : CallRow} :
    requiredCall T caller id = .ok call ↔
      T.call id = some call ∧ (call.leadId.map caller.scopedLead).getD (pure ()) = .ok () := by
  simp only [requiredCall, bind_ok_iff, demand_ok_iff, pure_ok_iff]
  constructor
  · rintro ⟨call', hcall, _, hlead, rfl⟩
    exact ⟨hcall, hlead⟩
  · rintro ⟨hcall, hlead⟩
    exact ⟨call, hcall, (), hlead, rfl⟩

/-- The call that was read is still in its state. -/
theorem count_call {id : String} {call : CallRow} (h : T.call id = some call) :
    T.calls.count (fun c => c.id = call.id ∧ c.state = call.state) = 1 := by
  obtain ⟨-, hid⟩ := Traffic.call_eq_some.mp h
  exact count_eq_one h ⟨rfl, rfl⟩ fun c hc =>
    CallRow.mem_keys_id.mpr (hc.1.trans hid)

/-- **What a report does**: it was made before, or is kept. -/
theorem receive_ok_iff {T' : Traffic} {caller : Caller} {moment : Moment} {callId : String}
    {input : CallEventInput} :
    receiveEventForApi rt config T caller moment callId input = .ok T' ↔
      ∃ call key next, Admitted T caller callId input call key next ∧
        (Repeats T callId key next ∧ T' = T ∨
          ∃ occurredAt events, Accepts rt config T moment callId input call key next occurredAt ∧
            T.events.create (callEvent caller moment callId key .STATE next occurredAt
              input.reasonCode) = some events ∧
            T' = T.kept call next occurredAt events) := by
  constructor
  · intro h
    simp only [receiveEventForApi, bind_ok_iff, require_ok_iff] at h
    obtain ⟨call, hcall, -, hrole, ⟨key, next⟩, hread, h⟩ := h
    refine ⟨call, key, next, ⟨hcall, hrole, hread⟩, ?_⟩
    split at h
    · rename_i r hrec
      simp only [bind_ok_iff, require_ok_iff, pure_ok_iff] at h
      obtain ⟨-, ⟨hr, hstate⟩, rfl⟩ := h
      exact .inl ⟨⟨r, hrec, hr, hstate⟩, rfl⟩
    · rename_i hfree
      simp only [bind_ok_iff, require_ok_iff, persistTransition, insert_ok_iff, pure_ok_iff] at h
      obtain ⟨occurredAt, htime, -, horder, -, hmoves, -, hdur, -, -, events, hcreate, rfl⟩ :=
        h
      exact .inr ⟨occurredAt, events, ⟨hfree, htime, horder, hmoves, hdur⟩, hcreate, rfl⟩
  · rintro ⟨call, key, next, ⟨hcall, hrole, hread⟩, ⟨⟨r, hrec, hr, hstate⟩, rfl⟩ |
      ⟨occurredAt, events, haccepts, hcreate, rfl⟩⟩
    · simp only [receiveEventForApi, hcall, ok_bind, require_pos hrole, hread, hrec,
        require_pos (And.intro hr hstate)]
      rfl
    · have hcount : T.calls.count (fun c => c.id = (call.reported next occurredAt).id ∧
          c.state = call.state) = 1 := count_call (requiredCall_ok_iff.mp hcall).1
      simp only [receiveEventForApi, hcall, ok_bind, require_pos hrole, hread, haccepts.free,
        haccepts.time, require_pos haccepts.order, require_pos haccepts.moves,
        require_pos haccepts.duration, persistTransition, require_pos hcount,
        insert_ok_iff.mpr hcreate]
      rfl

/-- What a report asks so that the other events of its call do not matter: its author may know of
the lead that was confirmed, its key and its identifier are new, and the last event of the call
is no later than what it is compared with. -/
def Apart (rt : Runtime) (T : Traffic) : CallAction → Prop
  | .report caller moment callId input =>
    (∀ call, T.call callId = some call → call.matchState = .CONFIRMED →
      ∀ lead ∈ call.leadId, caller.scopedLead lead = .ok ()) ∧
    (∀ e ∈ T.events.rows, e.id ≠ moment.eventId ∧
      (e.eventType = .COMPENSATION → input.idempotencyKey ≠ some e.idempotencyKey)) ∧
    ∀ occurredAt, timestamp rt moment.now input.occurredAt "telephony_event_timestamp_invalid" =
      .ok occurredAt →
        (OutOfOrder (T.eventsOf callId) occurredAt ↔ OutOfOrder (T.reportsOf callId) occurredAt)
  | .compensate _ _ _ _ => True
  | .associate _ _ _ _ => True

section Beside

variable {T₀ : Traffic} {caller : Caller} {moment : Moment} {callId : String}
  {input : CallEventInput} {call : CallRow} {key : String} {next : CallState}

theorem Beside.eventsOf (h : Beside T T₀) (callId : String) :
    T₀.eventsOf callId = T.reportsOf callId := by
  rw [Traffic.eventsOf, Traffic.reportsOf, findMany, findMany, ← h.events,
    List.filter_filter]
  congr 1
  refine List.filter_congr fun e _ => ?_
  simp only [Bool.decide_and, Bool.and_comm]

theorem SameCall.eq_with {c c₀ : CallRow} (h : SameCall c c₀) :
    ∃ leadId matchState, c₀ = { c with leadId, matchState } := ⟨_, _, h.row⟩

theorem SameCall.copy {c c₀ u u₀ : CallRow} (h : SameCall c c₀) (hu : SameCall u u₀) :
    SameCall { c with
      state := u.state, answeredAt := u.answeredAt, endedAt := u.endedAt
      durationSeconds := u.durationSeconds } { c₀ with
      state := u₀.state, answeredAt := u₀.answeredAt, endedAt := u₀.endedAt
      durationSeconds := u₀.durationSeconds } := by
  have hlead := h.lead
  obtain ⟨leadId, matchState, rfl⟩ := h.eq_with
  obtain ⟨leadId', matchState', rfl⟩ := hu.eq_with
  exact ⟨rfl, hlead⟩

theorem SameCall.reported {c c₀ : CallRow} (h : SameCall c c₀) (next : CallState)
    (occurredAt : Instant) :
    SameCall (c.reported next occurredAt) (c₀.reported next occurredAt) := by
  have hlead := h.lead
  obtain ⟨leadId, matchState, rfl⟩ := h.eq_with
  exact ⟨rfl, hlead⟩

variable {call₀ : CallRow}

/-- The author of a report may know of the two calls alike. -/
theorem Apart.requiredCall (ha : Apart rt T (.report caller moment callId input))
    (hsame : SameCall call call₀) (hcall : T.call callId = some call)
    (hcall₀ : T₀.call callId = some call₀) :
    requiredCall T caller callId = .ok call ↔
      Telephony.requiredCall T₀ caller callId = .ok call₀ := by
  rw [requiredCall_ok_iff, requiredCall_ok_iff, and_iff_right hcall, and_iff_right hcall₀]
  rcases hsame.lead with heq | ⟨hnone, hconf⟩
  · rw [heq]
  · rw [hnone]
    cases hleadId : call.leadId with
    | none => rfl
    | some lead => exact iff_of_true (ha.1 call hcall hconf lead hleadId) rfl

/-- What is found under the key of a report is alike. -/
theorem Beside.receipt (h : Beside T T₀) (ha : Apart rt T (.report caller moment callId input))
    (hkey : input.idempotencyKey = some key) : T.receipt key = T₀.receipt key := by
  refine ext fun e => ?_
  rw [Traffic.receipt_eq_some, Traffic.receipt_eq_some, ← h.events, mem_filter]
  refine ⟨fun ⟨he, hek⟩ => ⟨⟨he, ?_⟩, hek⟩, fun ⟨⟨he, _⟩, hek⟩ => ⟨he, hek⟩⟩
  cases htype : e.eventType with
  | STATE => rfl
  | COMPENSATION => exact absurd (hek ▸ hkey) ((ha.2.1 e he).2 htype)

theorem readEvent_key (hread : readEvent input = .ok (key, next)) :
    input.idempotencyKey = some key := by
  simp only [readEvent, bind_ok_iff, demand_ok_iff, pure_ok_iff, filter_eq_some_iff] at hread
  obtain ⟨key', ⟨hkey, -⟩, next', -, heq⟩ := hread
  cases heq
  exact hkey

/-- The tables are kept alike. -/
theorem Beside.kept (h : Beside T T₀) (hsame : SameCall call call₀) {occurredAt : Instant}
    {event : CallEventRow} {events events₀ : Table CallEventRow CallEventRow.keys}
    (htype : event.eventType = .STATE) (hcreate : T.events.create event = some events)
    (hcreate₀ : T₀.events.create event = some events₀) :
    Beside (T.kept call next occurredAt events) (T₀.kept call₀ next occurredAt events₀) where
  calls := by
    refine forall₂_map_left_iff.mpr (forall₂_map_right_iff.mpr (h.calls.imp ?_))
    intro c c₀ hc
    have hcond : c₀.id = call₀.id ∧ c₀.state = call₀.state ↔
        c.id = call.id ∧ c.state = call.state := by
      obtain ⟨leadId, matchState, rfl⟩ := hc.eq_with
      obtain ⟨leadId', matchState', rfl⟩ := hsame.eq_with
      rfl
    simp only [hcond]
    split
    · exact hc.copy (hsame.reported next occurredAt)
    · exact hc
  events := by
    rw [Traffic.kept, Traffic.kept, create_rows hcreate, create_rows hcreate₀,
      filter_append, h.events, filter_singleton, htype]
    rfl

theorem Apart.admitted (ha : Apart rt T (.report caller moment callId input))
    (hsame : SameCall call call₀) (hcall : T.call callId = some call)
    (hcall₀ : T₀.call callId = some call₀) :
    Admitted T caller callId input call key next ↔ Admitted T₀ caller callId input call₀ key next :=
  have hrequired := ha.requiredCall hsame hcall hcall₀
  ⟨fun ⟨h, hrole, hread⟩ => ⟨hrequired.mp h, hrole, hread⟩,
    fun ⟨h, hrole, hread⟩ => ⟨hrequired.mpr h, hrole, hread⟩⟩

theorem Beside.accepts (h : Beside T T₀) (ha : Apart rt T (.report caller moment callId input))
    (hkey : input.idempotencyKey = some key) (hsame : SameCall call call₀) {occurredAt : Instant} :
    Accepts rt config T moment callId input call key next occurredAt ↔
      Accepts rt config T₀ moment callId input call₀ key next occurredAt := by
  obtain ⟨leadId, matchState, rfl⟩ := hsame.eq_with
  have hrec := h.receipt ha hkey
  have horder := ha.2.2 occurredAt
  rw [← h.eventsOf] at horder
  refine ⟨fun ⟨hfree, htime, hin, hmoves, hdur⟩ => ?_,
    fun ⟨hfree, htime, hin, hmoves, hdur⟩ => ?_⟩
  · exact ⟨hrec ▸ hfree, htime, (horder htime).not.mp hin, hmoves, hdur⟩
  · exact ⟨hrec ▸ hfree, htime, (horder htime).not.mpr hin, hmoves, hdur⟩

/-- The event of a report can be stored alike. -/
theorem Beside.create (h : Beside T T₀) (ha : Apart rt T (.report caller moment callId input))
    (hfree : T.receipt key = none) (next : CallState) (occurredAt : Instant) :
    let event := callEvent caller moment callId key .STATE next occurredAt input.reasonCode
    (T.events.create event).isSome ∧ (T₀.events.create event).isSome := by
  intro event
  have hnone : ∀ k ∈ event.keys, T.events.findUnique k = none := by
    intro k hk
    rw [CallEventRow.keys, mem_pair] at hk
    rcases hk with rfl | rfl
    · refine findUnique_eq_none.mpr fun e he hke => (ha.2.1 e he).1 ?_
      simpa [CallEventRow.keys, eq_comm, event, callEvent] using hke
    · exact hfree
  refine ⟨create_isSome.mpr hnone, create_isSome.mpr fun k hk => ?_⟩
  refine findUnique_eq_none.mpr fun e he => findUnique_eq_none.mp (hnone k hk) e ?_
  rw [← h.events] at he
  exact (mem_filter.mp he).1

/-- **A report is accepted alike**, and what is reported stays the same. -/
theorem Beside.report (h : Beside T T₀) (ha : Apart rt T (.report caller moment callId input)) :
    (∀ T', receiveEventForApi rt config T caller moment callId input = .ok T' →
      ∃ T₀', receiveEventForApi rt config T₀ caller moment callId input = .ok T₀' ∧ Beside T' T₀') ∧
    ∀ T₀', receiveEventForApi rt config T₀ caller moment callId input = .ok T₀' →
      ∃ T', receiveEventForApi rt config T caller moment callId input = .ok T' ∧ Beside T' T₀' := by
  have hrel := h.call callId
  generalize hfound : T.call callId = found, hfound₀ : T₀.call callId = found₀ at hrel
  refine ⟨fun T' hok => ?_, fun T₀' hok => ?_⟩
  · obtain ⟨call, key, next, hadmitted, hdone⟩ := receive_ok_iff.mp hok
    have hcall := (requiredCall_ok_iff.mp hadmitted.call).1
    have hkey := readEvent_key hadmitted.read
    rw [hcall] at hfound
    subst hfound
    cases hrel with
    | @some _ call₀ hsame =>
      have hadmitted₀ := (ha.admitted hsame hcall hfound₀).mp hadmitted
      rcases hdone with ⟨⟨r, hr⟩, rfl⟩ | ⟨occurredAt, events, haccepts, hcreate, rfl⟩
      · rw [h.receipt ha hkey] at hr
        exact ⟨T₀, receive_ok_iff.mpr ⟨call₀, key, next, hadmitted₀, .inl ⟨⟨r, hr⟩, rfl⟩⟩, h⟩
      · have hstored := h.create ha haccepts.free next occurredAt
        obtain ⟨events₀, hcreate₀⟩ := isSome_iff_exists.mp hstored.2
        exact ⟨_, receive_ok_iff.mpr ⟨call₀, key, next, hadmitted₀, .inr ⟨occurredAt, events₀,
          (h.accepts ha hkey hsame).mp haccepts, hcreate₀, rfl⟩⟩,
          h.kept hsame rfl hcreate hcreate₀⟩
  · obtain ⟨call₀, key, next, hadmitted₀, hdone⟩ := receive_ok_iff.mp hok
    have hcall₀ := (requiredCall_ok_iff.mp hadmitted₀.call).1
    have hkey := readEvent_key hadmitted₀.read
    rw [hcall₀] at hfound₀
    subst hfound₀
    cases hrel with
    | @some call _ hsame =>
      have hadmitted := (ha.admitted hsame hfound hcall₀).mpr hadmitted₀
      rcases hdone with ⟨⟨r, hr⟩, rfl⟩ | ⟨occurredAt, events₀, haccepts₀, hcreate₀, rfl⟩
      · rw [← h.receipt ha hkey] at hr
        exact ⟨T, receive_ok_iff.mpr ⟨call, key, next, hadmitted, .inl ⟨⟨r, hr⟩, rfl⟩⟩, h⟩
      · have haccepts := (h.accepts ha hkey hsame).mpr haccepts₀
        have hstored := h.create ha haccepts.free next occurredAt
        obtain ⟨events, hcreate⟩ := isSome_iff_exists.mp hstored.1
        exact ⟨_, receive_ok_iff.mpr ⟨call, key, next, hadmitted, .inr ⟨occurredAt, events,
          haccepts, hcreate, rfl⟩⟩, h.kept hsame rfl hcreate hcreate₀⟩

end Beside

/-- **One step** keeps the two stores beside one another, when the second takes the reports only. -/
theorem Beside.next {T₀ : Traffic} (h : Beside T T₀) {a : CallAction} (ha : Apart rt T a) :
    if a.isReport then
      (Refused ((desk rt config).answer T a) ↔ Refused ((desk rt config).answer T₀ a)) ∧
        Beside ((desk rt config).next T a) ((desk rt config).next T₀ a)
    else Beside ((desk rt config).next T a) T₀ := by
  simp only [Machine.answer, Machine.next, desk]
  split
  · rename_i hreport
    cases a with
    | report caller moment callId input =>
      have hstep := @Beside.report rt config T T₀ caller moment callId input h ha
      simp only [CallAction.apply]
      cases hok : receiveEventForApi rt config T caller moment callId input with
      | ok T' =>
        obtain ⟨T₀', hok₀, hbeside⟩ := hstep.1 T' hok
        rw [hok₀]
        exact ⟨iff_of_false not_refused_ok not_refused_ok, hbeside⟩
      | error e =>
        cases hok₀ : receiveEventForApi rt config T₀ caller moment callId input with
        | ok T₀' =>
          obtain ⟨T', hok', -⟩ := hstep.2 T₀' hok₀
          rw [hok] at hok'
          cases hok'
        | error e₀ => exact ⟨iff_of_true refused_error refused_error, h⟩
    | compensate caller moment callId input => cases hreport
    | associate caller moment callId leadId => cases hreport
  · rename_i hreport
    cases hok : a.apply rt config T with
    | ok T' => exact h.aside (Bool.eq_false_iff.mpr hreport) hok
    | error e => exact h

/-- **A run** keeps them so. -/
theorem Beside.run {T₀ : Traffic} (h : Beside T T₀) {acts : List CallAction}
    (hacts : (desk rt config).Meets (Apart rt) T acts) :
    Beside ((desk rt config).run T acts)
      ((desk rt config).run T₀ (acts.filter CallAction.isReport)) := by
  induction acts generalizing T T₀ with
  | nil => exact h
  | cons a acts ih =>
    have hnext := @Beside.next rt config T T₀ h a hacts.1
    rw [filter_cons]
    split at hnext
    · rename_i hreport
      rw [if_pos hreport]
      exact ih hnext.2 hacts.2
    · rename_i hreport
      rw [if_neg hreport]
      exact ih hnext hacts.2

theorem Beside.view {T₀ : Traffic} (h : Beside T T₀) (id : String) :
    (T.call id).map CallRow.view = (T₀.call id).map CallRow.view := by
  have hrel := h.call id
  generalize T.call id = found, T₀.call id = found₀ at hrel
  cases hrel with
  | none => rfl
  | some hsame =>
    obtain ⟨leadId, matchState, rfl⟩ := hsame.eq_with
    rfl

/-- **Reports are judged, and calls stand, as without compensations and confirmations**: in every
run whose reports are all apart from the other events. -/
theorem reports_apart (hT : ∀ e ∈ T.events.rows, e.eventType = .STATE) {pre post : List CallAction}
    {a : CallAction} (ha : a.isReport)
    (hacts : (desk rt config).Meets (Apart rt) T (pre ++ a :: post)) :
    let run := (desk rt config).run T
    let reports := pre.filter CallAction.isReport
    (Refused ((desk rt config).answer (run pre) a) ↔
      Refused ((desk rt config).answer (run reports) a)) ∧
    ∀ id, ((run (pre ++ [a])).call id).map CallRow.view =
      ((run (reports ++ [a])).call id).map CallRow.view := by
  intro run reports
  have hself : Beside T T := by
    refine ⟨forall₂_same.mpr fun c _ => ⟨rfl, .inl rfl⟩, ?_⟩
    refine filter_eq_self.mpr fun e he => ?_
    simpa using hT e he
  have hpre := hself.run (Machine.meets_append.mp hacts).1
  have hstep := @Beside.next rt config _ _ hpre a hacts.at
  rw [if_pos ha] at hstep
  refine ⟨hstep.1, fun id => ?_⟩
  simp only [run, Machine.run_append]
  exact hstep.2.view id

/-! ### Two examples -/

namespace Sample

/-- A manager, who may know of every lead. -/
def caller : Caller where
  principal := ⟨"manager-1", [.MANAGER], [.GLOBAL], "session-1"⟩
  scopedLead _ := .ok ()
  leadFingerprint _ := .ok none

def call : CallRow where
  id := "call-1"
  provider := .LINPHONE
  externalId := "external-1"
  direction := .OUTBOUND
  state := .REQUESTED
  leadId := none
  phoneFingerprint := "fingerprint-1"
  dispatchState := .ACCEPTED
  dispatchUpdatedAt := some 0
  matchState := .UNMATCHED
  requestedAt := 0
  createdBy := "manager-1"

def requested : CallEventRow :=
  ⟨"event-0", "call-1", "request-0001", .STATE, .REQUESTED, none, "manager-1", 0⟩

def traffic : Traffic where
  calls := .ofRows [call]
  events := .ofRows [requested]

/-- The dates are read at five seconds. -/
def runtime : Runtime := { Runtime.plain with parseDate := fun _ => some 5000 }

/-- A compensation of the call, at ten seconds. -/
def compensation (key : String) : CompensationInput := ⟨key, "WRONG_NUMBER"⟩

def compensated : CallAction :=
  .compensate caller ⟨10000, "event-1"⟩ "call-1" (compensation "compensation-0001")

/-- The call is dialed, twenty seconds after its request. -/
def dialed (occurredAt : Option String) : CallAction :=
  .report caller ⟨20000, "event-2"⟩ "call-1" ⟨"report-0001", "DIALING", occurredAt, none⟩

end Sample

open Telephony.Sample

theorem Sample.mayCompensate :
    MayCompensate traffic caller "call-1" "request-0001"
      (compensation "request-0001") where
  role := by decide
  call := ⟨call, rfl⟩
  key := ⟨rfl, by decide⟩
  reason := by decide

/-- The key of the request of the call: the compensation succeeds, and is nowhere. -/
theorem compensation_lost :
    compensateForApi traffic caller ⟨10000, "event-1"⟩ "call-1"
      (compensation "request-0001") = .ok traffic ∧
    ¬Compensated traffic "call-1" "request-0001" := by
  refine ⟨compensate_again mayCompensate (e := requested) rfl rfl, ?_⟩
  rintro ⟨e, he, -, -, htype⟩
  rw [mem_singleton.mp he] at htype
  cases htype

theorem compensation_iff_request :
    ¬CompensationSound traffic caller ⟨10000, "event-1"⟩ "call-1" "request-0001"
      (compensation "request-0001") := fun hsound =>
  (compensation_iff rfl).mp hsound
    ⟨mayCompensate, requested, mem_singleton_self _, rfl, rfl, rfl⟩

/-- Dated before the compensation, the report is refused; it is accepted without it. -/
theorem report_disturbed :
    let desk := desk runtime {}
    Refused (desk.answer (desk.run traffic [compensated]) (dialed "then")) ∧
    ¬Refused (desk.answer (desk.run traffic []) (dialed "then")) := by
  decide +kernel

theorem reports_apart_now :
    let desk := desk runtime {}
    (Refused (desk.answer (desk.run traffic [compensated]) (dialed none)) ↔
      Refused (desk.answer (desk.run traffic []) (dialed none))) ∧
    ∀ id, ((desk.run traffic [compensated, dialed none]).call id).map
      CallRow.view = ((desk.run traffic [dialed none]).call id).map CallRow.view := by
  have hevents : ((desk runtime {}).next traffic compensated).events.rows =
      [requested, ⟨"event-1", "call-1", "compensation-0001", .COMPENSATION, .REQUESTED,
        "WRONG_NUMBER", "manager-1", 10000⟩] := by decide +kernel
  refine @reports_apart runtime {} _ ?_ [compensated] [] _ rfl
    ⟨trivial, ⟨?_, ?_, ?_⟩, trivial⟩
  · intro e he
    rw [mem_singleton.mp he]
    rfl
  · exact fun _ _ _ _ _ => rfl
  · rw [hevents]
    decide +kernel
  · intro occurredAt htime
    cases htime
    decide +kernel

end CrmYnov.Telephony
