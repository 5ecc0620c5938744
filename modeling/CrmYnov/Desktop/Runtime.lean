import CrmYnov.Base.Machine
import CrmYnov.Desktop.Journal

/-!
# The desktop agent, step by step

The agent takes commands, by polling and by the activation of a protocol, and dials each of them
unless its journal has seen it. It observes the events of its calls, records them and sends them
to the server one at a time; an event that could not be sent goes back to the end of the queue.
When the agent is started again its queue is made of the events of the journal, in the order in
which the dictionary gives them.

The process may end between two steps, and it may end while a record is written
(`CrmYnov.Desktop.Workstation.append`): what is left of the record is then in the file. The state
keeps, beside the file and the memory of the process, what happened outside: which commands the
engine was told to dial, which events were observed and which of them the server has accepted.
-/

namespace CrmYnov.Desktop

/-! ### The records that are written -/

def commandRecord (commandId now : Word) : JournalRecord :=
  ⟨.COMMAND, commandId, none, none, none, now, none, none⟩

def eventRecord (item : AgentEvent) : JournalRecord :=
  ⟨.EVENT, item.commandId, some item.eventId, some item.callId, some item.state, item.occurredAt,
    some false, item.reasonCode⟩

def acknowledgementRecord (item : AgentEvent) (now : Word) : JournalRecord :=
  ⟨.ACK, item.commandId, some item.eventId, some item.callId, some item.state, now, some true,
    item.reasonCode⟩

/-- The record of a free call that is begun. -/
def intentRecord (key now : Word) : JournalRecord :=
  ⟨.FREE_CALL_INTENT, key, none, none, none, now, some false, none⟩

/-- The record of a free call whose result is known. -/
def resolutionRecord (key now : Word) : JournalRecord :=
  ⟨.FREE_CALL_RESOLVED, key, none, none, none, now, some true, none⟩

variable (m : Memory)

@[simp] theorem apply_commandRecord (commandId now : Word) :
    m.apply (commandRecord commandId now) = m.addCommand commandId := rfl

@[simp] theorem apply_eventRecord (item : AgentEvent) :
    m.apply (eventRecord item) = m.setEvent item := rfl

/-! ### The state -/

/-- `AgentCommand` -/
structure Command where
  (commandId callId : Word)
  hangupRequested : Bool := false

def rejection (command : Command) (eventId now : Word) (reason : Option Word) : AgentEvent :=
  ⟨command.commandId, command.callId, eventId, Word.of "FAILED", now, reason⟩

/-- The memory of a process that runs: its journal and its queue. -/
structure Process where
  journal : Memory
  queue : List AgentEvent

/-- The workstation: the file, the process that runs, and what happened outside of it. -/
structure Workstation where
  file : List Char := []
  process : Option Process := none
  /-- The events that were observed: their records are in the file. -/
  observed : List AgentEvent := []
  /-- The events the server has accepted. -/
  acknowledged : List Word := []
  /-- The commands whose `MarkCommand` returned. -/
  marked : List Word := []
  /-- The commands the engine was told to dial. -/
  dialled : List Word := []

inductive Sending
  /-- The server accepted it. -/
  | accepted
  /-- The server accepted it, and its answer was lost. -/
  | unanswered
  /-- The server did not receive it, or refused it. -/
  | failed

/-- The record is in the file to its last character. -/
def written (r : JournalRecord) (cut : Option ℕ) : Bool :=
  cut.all fun k => (serialize r).length ≤ k

namespace Workstation

variable (s : Workstation)

variable (p : Process)

/-- `Append`, by a process whose memory is then `p`. The process may end after some of the
characters. -/
def append (r : JournalRecord) (cut : Option ℕ) : Workstation :=
  match cut with
  | none => { s with file := s.file ++ (serialize r ++ newLine), process := some p }
  | some k => { s with file := s.file ++ (serialize r ++ newLine).take k, process := none }

/-- `journal.Add(item)` and `pending.Enqueue(item)`. An event has an identifier of its own. -/
def addEvent (item : AgentEvent) (cut : Option ℕ) : Workstation :=
  if item.eventId ∈ s.observed.map AgentEvent.eventId then s
  else
    let s' := s.append ⟨p.journal.setEvent item, p.queue ++ [item]⟩ (eventRecord item) cut
    if written (eventRecord item) cut then { s' with observed := s.observed ++ [item] } else s'

/-- The engine is told to dial; when it refuses, the command is rejected. -/
def dial (command : Command) (rejected : AgentEvent) (started : Bool) (cut : Option ℕ) :
    Workstation :=
  let s' := { s with dialled := s.dialled ++ [command.commandId] }
  if started then s' else s'.addEvent p rejected cut

/-- `MarkCommand`, and what is done once it has returned. -/
def mark (commandId now : Word) (cut : Option ℕ) (next : Workstation → Process → Workstation) :
    Workstation :=
  let p' : Process := { p with journal := p.journal.addCommand commandId }
  let s' := s.append p' (commandRecord commandId now) cut
  match cut with
  | some _ => s'
  | none => next { s' with marked := s.marked ++ [commandId] } p'

/-- `ExecuteCommandAsync` -/
def execute (command : Command) (rejected : AgentEvent) (maintenance expired started : Bool)
    (now : Word) (cut cut' : Option ℕ) : Workstation :=
  if command.hangupRequested then s
  else if command.commandId ∈ p.journal.seenCommands then s
  else if maintenance then
    s.mark p command.commandId now cut fun s' p' => s'.addEvent p' rejected cut'
  else if expired then s.addEvent p rejected cut'
  else s.mark p command.commandId now cut fun s' p' => s'.dial p' command rejected started cut'

/-- `journal.Acknowledge(item)` -/
def acknowledge (item : AgentEvent) (now : Word) (cut : Option ℕ) : Workstation :=
  if item.eventId ∈ p.journal.pending.map AgentEvent.eventId then
    s.append { p with journal := p.journal.removeEvent item.eventId }
      (acknowledgementRecord item now) cut
  else { s with process := some p }

/-- `SendPendingEventAsync` -/
def send (sending : Sending) (now : Word) (cut : Option ℕ) : Workstation :=
  match p.queue with
  | [] => s
  | item :: rest =>
    match sending with
    | .accepted =>
      { s with acknowledged := s.acknowledged ++ [item.eventId] }.acknowledge
        { p with queue := rest } item now cut
    | .unanswered =>
      { s with
        acknowledged := s.acknowledged ++ [item.eventId]
        process := some { p with queue := rest ++ [item] } }
    | .failed => { s with process := some { p with queue := rest ++ [item] } }

/-- `StartAsync`: the queue is made of the events of the journal, in the order of the
dictionary. -/
def start (order : List AgentEvent) : Workstation :=
  if s.process = none ∧ order.Perm (load s.file).pending then
    { s with process := some ⟨load s.file, order⟩ }
  else s

end Workstation

/-! ### The machine -/

inductive Action
  | start (order : List AgentEvent)
  /-- The agent is stopped, or ends by itself. -/
  | stop
  /-- A command is received. -/
  | execute (command : Command) (eventId : Word) (reason : Option Word)
      (maintenance expired started : Bool) (now : Word) (cut cut' : Option ℕ)
  /-- The engine reports an event. -/
  | observe (item : AgentEvent) (cut : Option ℕ)
  | send (sending : Sending) (now : Word) (cut : Option ℕ)
  | beginFreeCall (key now : Word) (cut : Option ℕ)
  | resolveFreeCall (key now : Word) (cut : Option ℕ)

variable (s : Workstation)

def Workstation.next (a : Action) : Workstation :=
  match a, s.process with
  | .start order, _ => s.start order
  | .stop, _ => { s with process := none }
  | _, none => s
  | .execute command eventId reason maintenance expired started now cut cut', some p =>
    s.execute p command (rejection command eventId now reason) maintenance expired started now
      cut cut'
  | .observe item cut, some p => s.addEvent p item cut
  | .send sending now cut, some p => s.send p sending now cut
  | .beginFreeCall key now cut, some p =>
    s.append { p with journal := p.journal.addFreeCall key } (intentRecord key now) cut
  | .resolveFreeCall key now cut, some p =>
    s.append { p with journal := p.journal.removeFreeCall key } (resolutionRecord key now) cut

def desktopMachine : Machine Workstation Action Unit := ⟨fun s a => ((), s.next a)⟩

def Workstation.writes (a : Action) : Bool :=
  match a, s.process with
  | .execute command .., some p =>
    !command.hangupRequested && command.commandId ∉ p.journal.seenCommands
  | .observe .., some _ => true
  | .send .accepted .., some p =>
    p.queue.head?.any fun item => item.eventId ∈ p.journal.pending.map AgentEvent.eventId
  | .beginFreeCall .., some _ => true
  | .resolveFreeCall .., some _ => true
  | _, _ => false

/-- What is written is written to a whole journal: not behind a record that was cut short. -/
def Workstation.OnWhole (a : Action) : Prop := s.writes a = true → Whole s.file

/-! ### What is read again -/

namespace Workstation

variable {s : Workstation} {p : Process}

def Read (s : Workstation) : Prop := ∀ p, s.process = some p → p.journal = load s.file

theorem read_append {r : JournalRecord} (hwhole : Whole s.file)
    (hp : p.journal = (load s.file).apply r) (cut : Option ℕ) : (s.append p r cut).Read := by
  intro p' hp'
  cases cut with
  | none =>
    cases hp'
    rw [hp]
    exact (load_record hwhole r).symm
  | some k => cases hp'

theorem load_append_file {r : JournalRecord} (hwhole : Whole s.file) (cut : Option ℕ) :
    load (s.append p r cut).file =
      if written r cut then (load s.file).apply r else load s.file := by
  cases cut with
  | none => exact load_record hwhole r
  | some k =>
    refine (load_take hwhole r k).trans ?_
    simp [written]

variable (r : JournalRecord)

@[simp] theorem append_observed (cut : Option ℕ) :
    (s.append p r cut).observed = s.observed := by cases cut <;> rfl

@[simp] theorem append_acknowledged (cut : Option ℕ) :
    (s.append p r cut).acknowledged = s.acknowledged := by cases cut <;> rfl

@[simp] theorem append_marked (cut : Option ℕ) :
    (s.append p r cut).marked = s.marked := by cases cut <;> rfl

@[simp] theorem append_dialled (cut : Option ℕ) :
    (s.append p r cut).dialled = s.dialled := by cases cut <;> rfl

theorem whole_append : Whole (s.append p r none).file := by
  rw [append, ← List.append_assoc]
  exact whole_append_newLine _

theorem process_append {r : JournalRecord} {cut : Option ℕ} {p' : Process}
    (h : (s.append p r cut).process = some p') : p' = p ∧ cut = none := by
  cases cut with
  | none => exact ⟨(Option.some.inj h).symm, rfl⟩
  | some k => cases h

end Workstation

end CrmYnov.Desktop
