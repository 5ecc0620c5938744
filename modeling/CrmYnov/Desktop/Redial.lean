import CrmYnov.Desktop.Runtime

/-!
# No command is dialled twice

A command is recorded in the journal before the engine is told to dial it, and a command that the
journal has seen is passed over. As long as what is written is written to a whole journal, what
the journal says is what the process knows (`CrmYnov.Desktop.Workstation.Guarded`): a command that
was recorded is seen after every reload, and no command is dialled twice.

A record that is written behind one that was cut short is on the line of that one, and neither is
read: the command is seen by the process that recorded it and by no later one.
-/

namespace CrmYnov.Desktop

open List

namespace Workstation

variable {s : Workstation} {p : Process}

/-- The process knows what the journal says, every recorded command is in it, and the commands
that were dialled are recorded and distinct. -/
structure Guarded (s : Workstation) : Prop where
  read : s.Read
  marked : ∀ id ∈ s.marked, id ∈ (load s.file).seenCommands
  dialled : ∀ id ∈ s.dialled, id ∈ s.marked
  once : s.dialled.Nodup

namespace Guarded

theorem append (h : s.Guarded) {r : JournalRecord} (hwhole : Whole s.file)
    (hp : p.journal = (load s.file).apply r) (cut : Option ℕ) : (s.append p r cut).Guarded where
  read := read_append hwhole hp cut
  marked := by
    intro id hid
    rw [append_marked] at hid
    rw [load_append_file hwhole]
    split
    · exact seenCommands_apply _ r (h.marked id hid)
    · exact h.marked id hid
  dialled := by simpa using h.dialled
  once := by simpa using h.once

theorem addEvent (h : s.Guarded) (hp : s.process = some p) (hwhole : Whole s.file)
    (item : AgentEvent) (cut : Option ℕ) : (s.addEvent p item cut).Guarded := by
  rw [Workstation.addEvent]
  split
  · exact h
  · have hnext : (s.append ⟨p.journal.setEvent item, p.queue ++ [item]⟩ (eventRecord item)
        cut).Guarded := h.append hwhole (by rw [h.read p hp]; rfl) cut
    dsimp only
    split
    · exact ⟨hnext.read, hnext.marked, hnext.dialled, hnext.once⟩
    · exact hnext

theorem mark (h : s.Guarded) (hp : s.process = some p) (hwhole : Whole s.file) {id : Word}
    (hnew : id ∉ p.journal.seenCommands) (now : Word) (cut : Option ℕ)
    {next : Workstation → Process → Workstation}
    (hnext : ∀ s' p', s'.Guarded → s'.process = some p' → Whole s'.file → id ∈ s'.marked →
      id ∉ s'.dialled → (next s' p').Guarded) : (s.mark p id now cut next).Guarded := by
  have hjournal : (p.journal.addCommand id) = (load s.file).apply (commandRecord id now) := by
    rw [h.read p hp, apply_commandRecord]
  rw [Workstation.mark.eq_def]
  cases cut with
  | some k => exact h.append hwhole hjournal (some k)
  | none =>
    have happend := h.append (p := { p with journal := p.journal.addCommand id }) hwhole hjournal
      none
    refine hnext _ _ ⟨happend.read, ?_, ?_, happend.once⟩ rfl (whole_append (p := p) _)
      (mem_append_right _ (mem_singleton_self id)) ?_
    · intro id' hid'
      rcases mem_append.mp hid' with hid' | hid'
      · exact happend.marked id' (by simpa using hid')
      · obtain rfl := mem_singleton.mp hid'
        have hseen : id' ∈ ((load s.file).addCommand id').seenCommands := by
          rw [Memory.addCommand]
          split
          · assumption
          · simp
        have hload := load_record hwhole (commandRecord id' now)
        rw [apply_commandRecord] at hload
        exact hload ▸ hseen
    · intro id' hid'
      exact mem_append_left _ (by simpa using happend.dialled id' hid')
    · intro hdialled
      have hmem : id ∈ (load s.file).seenCommands :=
        h.marked id (h.dialled id (by simpa using hdialled))
      rw [← h.read p hp] at hmem
      exact hnew hmem

theorem dial (h : s.Guarded) (hp : s.process = some p) (hwhole : Whole s.file) {command : Command}
    (hmarked : command.commandId ∈ s.marked) (hnew : command.commandId ∉ s.dialled)
    (rejected : AgentEvent) (started : Bool) (cut : Option ℕ) :
    (s.dial p command rejected started cut).Guarded := by
  have hdial : ({ s with dialled := s.dialled ++ [command.commandId] } : Workstation).Guarded := by
    refine ⟨h.read, h.marked, ?_, ?_⟩
    · intro id hid
      rcases mem_append.mp hid with hid | hid
      · exact h.dialled id hid
      · obtain rfl := mem_singleton.mp hid
        exact hmarked
    · exact nodup_append.mpr ⟨h.once, nodup_singleton _, fun a ha b hb hab => by
        obtain rfl := mem_singleton.mp hb
        exact hnew (hab ▸ ha)⟩
  rw [Workstation.dial]
  split
  · exact hdial
  · exact hdial.addEvent hp hwhole rejected cut

theorem execute (h : s.Guarded) (hp : s.process = some p) {command : Command}
    (hwhole : command.hangupRequested = false → command.commandId ∉ p.journal.seenCommands →
      Whole s.file) (rejected : AgentEvent) (maintenance expired started : Bool) (now : Word)
    (cut cut' : Option ℕ) :
    (s.execute p command rejected maintenance expired started now cut cut').Guarded := by
  rw [Workstation.execute]
  split
  · exact h
  · rename_i hhangup
    split
    · exact h
    · rename_i hnew
      have hfile : Whole s.file := hwhole (by simpa using hhangup) hnew
      split
      · exact h.mark hp hfile hnew now cut fun s' p' h' hp' hwhole' _ _ =>
          h'.addEvent hp' hwhole' rejected cut'
      · split
        · exact h.addEvent hp hfile rejected cut'
        · exact h.mark hp hfile hnew now cut fun s' p' h' hp' hwhole' hmarked hdialled =>
            h'.dial hp' hwhole' hmarked hdialled rejected started cut'

theorem send (h : s.Guarded) (hp : s.process = some p) (sending : Sending) (now : Word)
    (cut : Option ℕ) (hwhole : ∀ item ∈ p.queue.head?, sending = .accepted →
      item.eventId ∈ p.journal.pending.map AgentEvent.eventId → Whole s.file) :
    (s.send p sending now cut).Guarded := by
  have hread : p.journal = load s.file := h.read p hp
  have hqueue : ∀ queue, ({ s with process := some { p with queue } } : Workstation).Guarded :=
    fun queue => ⟨fun p' hp' => by rw [← Option.some.inj hp', hread], h.marked, h.dialled, h.once⟩
  rw [Workstation.send]
  split
  · exact h
  · rename_i item rest hitem
    cases sending with
    | unanswered =>
      have := hqueue (rest ++ [item])
      exact ⟨this.read, this.marked, this.dialled, this.once⟩
    | failed => exact hqueue (rest ++ [item])
    | accepted =>
      have hrest := hqueue rest
      dsimp only
      rw [acknowledge]
      split
      · rename_i hpend
        have hfile : Whole s.file := hwhole item (by rw [hitem]; rfl) rfl hpend
        refine append (s := { s with acknowledged := s.acknowledged ++ [item.eventId] })
          ⟨h.read, h.marked, h.dialled, h.once⟩ hfile ?_ cut
        show p.journal.removeEvent item.eventId = _
        rw [hread]
        rfl
      · exact ⟨hrest.read, hrest.marked, hrest.dialled, hrest.once⟩

theorem start (h : s.Guarded) (order : List AgentEvent) : (s.start order).Guarded := by
  rw [Workstation.start]
  split
  · exact ⟨fun p' hp' => by rw [← Option.some.inj hp'], h.marked, h.dialled, h.once⟩
  · exact h

theorem stop (h : s.Guarded) : ({ s with process := none } : Workstation).Guarded :=
  { h with read := by intro p' hp'; cases hp' }

/-- **A step that writes to a whole journal only keeps the guard.** -/
theorem next (h : s.Guarded) (a : Action) (hwhole : s.OnWhole a) : (s.next a).Guarded := by
  cases hp : s.process with
  | none =>
    cases a with
    | start order => exact h.start order
    | stop => exact h.stop
    | execute | observe | send | beginFreeCall | resolveFreeCall =>
      simpa only [Workstation.next, hp] using h
  | some p =>
    cases a with
    | start order => exact h.start order
    | stop => exact h.stop
    | execute command eventId reason maintenance expired started now cut cut' =>
      simp only [Workstation.next, hp]
      refine h.execute hp (fun hhangup hnew => hwhole ?_) _ _ _ _ _ _ _
      simp [writes, hp, hhangup, hnew]
    | observe item cut =>
      simp only [Workstation.next, hp]
      exact h.addEvent hp (hwhole (by simp [writes, hp])) item cut
    | send sending now cut =>
      simp only [Workstation.next, hp]
      refine h.send hp sending now cut fun item hitem hacc hpend => hwhole ?_
      subst hacc
      obtain ⟨e, he, heq⟩ := mem_map.mp hpend
      have hhead : p.queue.head? = some item := hitem
      simp only [writes, hp, hhead, Option.any_some, decide_eq_true_eq]
      exact hpend
    | beginFreeCall key now cut | resolveFreeCall key now cut =>
      simp only [Workstation.next, hp]
      exact h.append (hwhole (by simp [writes, hp])) (by rw [h.read p hp]; rfl) cut

end Guarded

end Workstation

/-- No command was dialled twice, and a reload reports every recorded command as seen. -/
def NoRedial (s : Workstation) : Prop :=
  s.dialled.Nodup ∧ ∀ id ∈ s.marked, id ∈ (load s.file).seenCommands
deriving Decidable

/-- **No redial**: in a run that writes to a whole journal only, no command is dialled twice and,
at any time, a reload reports as seen every command whose `MarkCommand` returned. -/
theorem no_redial_on_whole (as : List Action) (h : desktopMachine.Meets Workstation.OnWhole {} as) :
    desktopMachine.Throughout NoRedial {} as := by
  have hinit : Workstation.Guarded {} :=
    ⟨(by intro p hp; cases hp), (by intro id hid; cases hid), (by intro id hid; cases hid),
      nodup_nil⟩
  have hguarded := Machine.throughout_of_meets (M := desktopMachine) (I := Workstation.Guarded)
    (fun s a hs hC => hs.next a hC) hinit h
  exact fun pre hpre => ⟨(hguarded pre hpre).once, (hguarded pre hpre).marked⟩

namespace Sample

def command (id : Word) : Command := ⟨id, Word.of "call-1", false⟩

def received (id : Word) (cut : Option ℕ) : Action :=
  .execute (command id) (Word.of "agent-1") none false false true (Word.of "2026-09-17T10:30:00Z")
    cut none

/-- The agent ends while it records a first command, is started again, dials a second one, ends,
is started again and receives this one once more. -/
def redialled : List Action :=
  [.start [], received (Word.of "command-1") (some 40), .start [],
    received (Word.of "command-2") none, .stop, .start [], received (Word.of "command-2") none]

end Sample

/-- **A command is dialled twice** when its record was written behind one that was cut short. -/
theorem redialled_behind_cut :
    (desktopMachine.run {} Sample.redialled).dialled = [Word.of "command-2", Word.of "command-2"] ∧
      ¬∀ as, desktopMachine.Throughout NoRedial {} as := by
  have hrun : (desktopMachine.run {} Sample.redialled).dialled =
      [Word.of "command-2", Word.of "command-2"] := by decide +kernel
  refine ⟨hrun, fun hall => ?_⟩
  have hlast := (hall Sample.redialled).last.1
  rw [hrun] at hlast
  simp at hlast

/-- A run that writes to a whole journal: a command is recorded and dialled. -/
theorem no_redial_single : desktopMachine.Throughout NoRedial {}
    [.start [], Sample.received (Word.of "command-1") none] :=
  no_redial_on_whole _ ⟨fun h => absurd h (by decide), fun _ => by decide, trivial⟩

end CrmYnov.Desktop
