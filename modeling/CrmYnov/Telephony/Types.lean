import CrmYnov.Base.Growth
import CrmYnov.Platform.Database
import Mathlib.Data.List.Sort

/-!
# Calls and the commands that dial them

A call is a record of what the application was told about it: it is requested, and each event
afterwards moves it along `CrmYnov.Telephony.transitions` until a state nothing leaves. A call
that a workstation has to dial has a command, which the workstation takes once, within
forty-five seconds. The state (`CrmYnov.Telephony.Traffic`) is made of calls, their events and
commands.
-/

namespace CrmYnov.Telephony

/-! ### Calls -/

/-- `TelephonyMode` -/
inductive Mode
  | MANUAL_EXTERNAL | COOVOX | LINPHONE | DISABLED

/-- `TelephonyProvider` -/
inductive Provider
  | MANUAL_EXTERNAL | COOVOX | LINPHONE
deriving DecidableEq

inductive CallState
  | REQUESTED | DIALING | RINGING | ANSWERED | MISSED | FAILED | CANCELLED | ENDED
deriving DecidableEq

def CallState.text : CallState → String
  | REQUESTED => "REQUESTED"
  | DIALING => "DIALING"
  | RINGING => "RINGING"
  | ANSWERED => "ANSWERED"
  | MISSED => "MISSED"
  | FAILED => "FAILED"
  | CANCELLED => "CANCELLED"
  | ENDED => "ENDED"

def callStates : List CallState :=
  [.REQUESTED, .DIALING, .RINGING, .ANSWERED, .MISSED, .FAILED, .CANCELLED, .ENDED]

def callStateOf (text : String) : Option CallState := callStates.find? fun state => state.text = text

def terminalStates : List CallState := [.ENDED, .FAILED, .MISSED, .CANCELLED]

/-- Nothing happens to a call in this state any more. -/
def CallState.Terminal (state : CallState) : Prop := state ∈ terminalStates
deriving Decidable

def transitions : CallState → List CallState
  | .REQUESTED => [.DIALING, .RINGING, .ANSWERED, .FAILED, .CANCELLED]
  | .DIALING => [.RINGING, .ANSWERED, .MISSED, .FAILED, .CANCELLED]
  | .RINGING => [.ANSWERED, .MISSED, .FAILED, .CANCELLED]
  | .ANSWERED => [.ENDED, .FAILED]
  | .MISSED => []
  | .FAILED => []
  | .CANCELLED => []
  | .ENDED => []

/-- `CallDirection` -/
inductive Direction
  | INBOUND | OUTBOUND
deriving DecidableEq

inductive MatchState
  | MATCHED | UNMATCHED | AMBIGUOUS | CONFIRMED
deriving DecidableEq

inductive DispatchState
  | PENDING | ACCEPTED | UNCERTAIN | REJECTED
deriving DecidableEq

/-- A row of `telephony_calls`. -/
structure CallRow where
  id : String
  provider : Provider
  externalId : String
  direction : Direction
  state : CallState
  leadId : Option String
  phoneFingerprint : String
  dispatchState : DispatchState
  dispatchErrorCode : Option String := none
  dispatchUpdatedAt : Option Instant
  matchState : MatchState
  requestedAt : Instant
  answeredAt : Option Instant := none
  endedAt : Option Instant := none
  durationSeconds : Option ℤ := none
  createdBy : String
  purposeCode : Option String := none
  purposeComment : Option String := none

/-- The unique indexes of `telephony_calls`. -/
inductive CallKey
  | id (value : String)
  | external (provider : Provider) (externalId : String)
deriving DecidableEq

def CallRow.keys (c : CallRow) : List CallKey := [.id c.id, .external c.provider c.externalId]

/-- `CallEvent["eventType"]` -/
inductive EventType
  | STATE | COMPENSATION
deriving DecidableEq

/-- A row of `telephony_call_events`. -/
structure CallEventRow where
  (id callId idempotencyKey : String)
  eventType : EventType
  state : CallState
  reasonCode : Option String := none
  actorId : Option String
  occurredAt : Instant
deriving DecidableEq

/-- The unique indexes of a row that is found by an identifier and by a second text. -/
inductive RowKey
  | id (value : String)
  | text (value : String)
deriving DecidableEq

def CallEventRow.keys (e : CallEventRow) : List RowKey := [.id e.id, .text e.idempotencyKey]

/-! ### Commands -/

inductive CommandState
  | PENDING | DELIVERED | EXPIRED | UNCERTAIN | TERMINAL
deriving DecidableEq

/-- A row of `telephony_agent_commands`. -/
structure AgentCommandRow where
  (id callId workstationId destination : String)
  state : CommandState := .PENDING
  expiresAt : Instant
  claimedAt : Option Instant := none
  hangupRequestedAt : Option Instant := none
  hangupDeliveredAt : Option Instant := none
  terminalAt : Option Instant := none
  createdAt : Instant
deriving DecidableEq

def AgentCommandRow.keys (c : AgentCommandRow) : List RowKey := [.id c.id, .text c.callId]

/-- A command that is held against its workstation: it is taken or may be, and nothing was heard
of its end. -/
def AgentCommandRow.Live (c : AgentCommandRow) : Prop :=
  (c.state = .PENDING ∨ c.state = .DELIVERED) ∧ c.terminalAt = none
deriving Decidable

/-! ### The state -/

inductive RecordingPolicy
  | DISABLED | METADATA_ONLY

/-- `TelephonyConfiguration` -/
structure Configuration where
  mode : Mode := .DISABLED
  clickToCallEnabled : Bool := false
  inboundEnabled : Bool := false
  outboundEnabled : Bool := false
  recordingPolicy : RecordingPolicy := .DISABLED
  maxCallDurationSeconds : ℤ := 7200
  secretReference : Option String := none
  version : ℕ := 1
  updatedBy : String := "system"

/-- Calls, their events and the commands. -/
structure Traffic where
  calls : Table CallRow CallRow.keys := .empty
  events : Table CallEventRow CallEventRow.keys := .empty
  commands : Table AgentCommandRow AgentCommandRow.keys := .empty

/-! ### What the tables hold -/

@[simp] theorem CallRow.mem_keys_id {c : CallRow} {id : String} : .id id ∈ c.keys ↔ c.id = id := by
  simp [CallRow.keys, eq_comm]

@[simp] theorem CallEventRow.mem_keys_text {e : CallEventRow} {key : String} :
    .text key ∈ e.keys ↔ e.idempotencyKey = key := by
  simp [CallEventRow.keys, eq_comm]

variable {c : AgentCommandRow}

@[simp] theorem AgentCommandRow.mem_keys_id {id : String} : .id id ∈ c.keys ↔ c.id = id := by
  simp [AgentCommandRow.keys, eq_comm]

namespace Traffic

variable (T : Traffic)

def call (id : String) : Option CallRow := T.calls.findUnique (.id id)

def receipt (key : String) : Option CallEventRow := T.events.findUnique (.text key)

def Earlier (e e' : CallEventRow) : Prop :=
  e.occurredAt < e'.occurredAt ∨ e.occurredAt = e'.occurredAt ∧ e.id ≤ e'.id
deriving Decidable

/-- The events of a call, by the time they occurred at and then by identifier. -/
def eventsOf (callId : String) : List CallEventRow :=
  (T.events.findMany fun e => e.callId = callId).insertionSort Earlier

variable {T}

theorem call_eq_some {id : String} {c : CallRow} :
    T.call id = some c ↔ c ∈ T.calls.rows ∧ c.id = id := by
  rw [call, Table.findUnique_eq_some, CallRow.mem_keys_id]

theorem receipt_eq_some {key : String} {e : CallEventRow} :
    T.receipt key = some e ↔ e ∈ T.events.rows ∧ e.idempotencyKey = key := by
  rw [receipt, Table.findUnique_eq_some, CallEventRow.mem_keys_text]

end Traffic

end CrmYnov.Telephony
