import CrmYnov.Desktop.Runtime
import CrmYnov.Telephony.Types

/-!
# The events of a call are sent in order

The server takes the events of a call in the order in which they happened, and refuses one that
comes after a later one. The agent sends them one at a time from a queue. As long as the queue
holds the events of each call in the order in which they were observed, those the server has
accepted are the first ones (`CrmYnov.Desktop.Workstation.Orderly`).

An event that could not be sent goes to the end of the queue, behind the later events of its
call, and the queue of an agent that is started is in the order of a dictionary. Either of them
may let a later event of a call pass before an earlier one.
-/

namespace CrmYnov.Desktop

/-! ### The events of a call, those that were accepted and the others -/

def ofCall (callId : Word) (events : List AgentEvent) : List AgentEvent :=
  events.filter fun e => e.callId = callId

def sent (acknowledged : List Word) (events : List AgentEvent) : List AgentEvent :=
  events.filter fun e => e.eventId ∈ acknowledged

def unsent (acknowledged : List Word) (events : List AgentEvent) : List AgentEvent :=
  events.filter fun e => e.eventId ∉ acknowledged

section Lists

variable {acknowledged : List Word} {events queue rest : List AgentEvent} {item e : AgentEvent}
  {id callId : Word}

@[simp] theorem mem_ofCall : e ∈ ofCall callId events ↔ e ∈ events ∧ e.callId = callId := by
  simp [ofCall]

@[simp] theorem mem_unsent :
    e ∈ unsent acknowledged events ↔ e ∈ events ∧ e.eventId ∉ acknowledged := by
  simp [unsent]

@[simp] theorem ofCall_append :
    ofCall callId (events ++ rest) = ofCall callId events ++ ofCall callId rest :=
  List.filter_append ..

@[simp] theorem unsent_append :
    unsent acknowledged (events ++ rest) = unsent acknowledged events ++ unsent acknowledged rest :=
  List.filter_append ..

@[simp] theorem sent_append :
    sent acknowledged (events ++ rest) = sent acknowledged events ++ sent acknowledged rest :=
  List.filter_append ..

theorem ofCall_singleton_of_ne (h : item.callId ≠ callId) : ofCall callId [item] = [] := by
  simp [ofCall, h]

theorem unsent_snoc : unsent (acknowledged ++ [id]) events =
    (unsent acknowledged events).filter fun e => e.eventId ≠ id := by
  rw [unsent, unsent, List.filter_filter]
  refine List.filter_congr fun e _ => ?_
  simp [not_or, and_comm]

/-- The accepted events are the first ones. -/
def Split (acknowledged : List Word) (events : List AgentEvent) : Prop :=
  events = sent acknowledged events ++ unsent acknowledged events

theorem Split.isPrefix (h : Split acknowledged events) : sent acknowledged events <+: events :=
  ⟨_, h.symm⟩

theorem sent_eq_self (h : ∀ e ∈ events, e.eventId ∈ acknowledged) :
    sent acknowledged events = events := by
  rw [sent, List.filter_eq_self]
  intro e he
  simpa using h e he

theorem sent_eq_nil (h : ∀ e ∈ events, e.eventId ∉ acknowledged) :
    sent acknowledged events = [] := by
  rw [sent, List.filter_eq_nil_iff]
  intro e he
  simpa using h e he

theorem Split.snoc (h : Split acknowledged events) (hnew : item.eventId ∉ acknowledged) :
    Split acknowledged (events ++ [item]) := by
  have hsent : sent acknowledged [item] = [] := sent_eq_nil fun e he => by
    obtain rfl := List.mem_singleton.mp he
    exact hnew
  have hunsent : unsent acknowledged [item] = [item] := by simp [unsent, hnew]
  rw [Split, sent_append, unsent_append, hsent, hunsent, List.append_nil, ← List.append_assoc, ← h]

theorem Split.accept_of_notMem (h : Split acknowledged events)
    (hid : ∀ e ∈ unsent acknowledged events, e.eventId ≠ id) :
    Split (acknowledged ++ [id]) events := by
  have hunsent : unsent (acknowledged ++ [id]) events = unsent acknowledged events := by
    rw [unsent_snoc, List.filter_eq_self]
    intro e he
    simpa using hid e he
  have hsent : sent (acknowledged ++ [id]) events = sent acknowledged events := by
    refine List.filter_congr fun e he => ?_
    by_cases hack : e.eventId ∈ acknowledged
    · simp [hack]
    · simp [hack, hid e (mem_unsent.mpr ⟨he, hack⟩)]
  rw [Split, hsent, hunsent, ← h]

theorem Split.accept_of_head (h : Split acknowledged events)
    (hhead : unsent acknowledged events = item :: rest)
    (honce : (events.map AgentEvent.eventId).Nodup) :
    Split (acknowledged ++ [item.eventId]) events := by
  have hsplit : events = sent acknowledged events ++ item :: rest := hhead ▸ h
  have hrest : ∀ e ∈ rest, e.eventId ∉ acknowledged ++ [item.eventId] := by
    intro e he
    have hmem : e ∈ unsent acknowledged events := hhead ▸ List.mem_cons_of_mem _ he
    rw [hsplit, List.map_append, List.map_cons] at honce
    have hne : item.eventId ≠ e.eventId := fun heq =>
      (List.nodup_cons.mp (List.nodup_append.mp honce).2.1).1 (heq ▸ List.mem_map_of_mem he)
    simp [(mem_unsent.mp hmem).2, hne.symm]
  have hfirst : ∀ e ∈ sent acknowledged events ++ [item],
      e.eventId ∈ acknowledged ++ [item.eventId] := by
    intro e he
    rcases List.mem_append.mp he with he | he
    · exact List.mem_append_left _ (by simpa using (List.mem_filter.mp he).2)
    · obtain rfl := List.mem_singleton.mp he
      exact List.mem_append_right _ (List.mem_singleton_self _)
  have hevents : events = (sent acknowledged events ++ [item]) ++ rest := by
    rw [List.append_assoc, List.singleton_append, ← hsplit]
  have hsent : sent (acknowledged ++ [item.eventId]) events =
      sent acknowledged events ++ [item] := by
    conv_lhs => rw [hevents]
    rw [sent_append, sent_eq_self hfirst, sent_eq_nil hrest, List.append_nil]
  have hunsent : unsent (acknowledged ++ [item.eventId]) events = rest := by
    rw [unsent_snoc, hhead, List.filter_cons_of_neg (by simp), List.filter_eq_self]
    intro e he
    have := hrest e he
    simp only [List.mem_append, List.mem_singleton, not_or] at this
    simpa using this.2
  rw [Split, hsent, hunsent]
  exact hevents

theorem eq_of_sublist_of_mem_iff {α : Type*} {l₁ l₂ l : List α} (h₁ : l₁.Sublist l) (h₂ : l₂.Sublist l)
    (hl : l.Nodup) (h : ∀ a, a ∈ l₁ ↔ a ∈ l₂) : l₁ = l₂ := by
  induction l generalizing l₁ l₂ with
  | nil => rw [List.sublist_nil.mp h₁, List.sublist_nil.mp h₂]
  | cons a l ih =>
    obtain ⟨ha, hl⟩ := List.nodup_cons.mp hl
    rcases List.sublist_cons_iff.mp h₁ with hr₁ | ⟨r₁, rfl, hr₁⟩
    · rcases List.sublist_cons_iff.mp h₂ with hr₂ | ⟨r₂, rfl, hr₂⟩
      · exact ih hr₁ hr₂ hl h
      · exact absurd (hr₁.subset ((h a).mpr List.mem_cons_self)) ha
    · rcases List.sublist_cons_iff.mp h₂ with hr₂ | ⟨r₂, rfl, hr₂⟩
      · exact absurd (hr₂.subset ((h a).mp List.mem_cons_self)) ha
      · refine congrArg (a :: ·) (ih hr₁ hr₂ hl fun b => ?_)
        have hb := h b
        simp only [List.mem_cons] at hb
        constructor
        · intro hmem
          rcases hb.mp (.inr hmem) with rfl | hmem'
          · exact absurd (hr₁.subset hmem) ha
          · exact hmem'
        · intro hmem
          rcases hb.mpr (.inr hmem) with rfl | hmem'
          · exact absurd (hr₂.subset hmem) ha
          · exact hmem'

end Lists

namespace Workstation

variable {s : Workstation} {p : Process}

/-- The process knows what the journal says, the events that were not accepted are in it, its
queue holds those of each call in the order of observation, and the accepted ones are the
first. -/
structure Orderly (s : Workstation) : Prop where
  read : s.Read
  once : (s.observed.map AgentEvent.eventId).Nodup
  known : ∀ id ∈ s.acknowledged, id ∈ s.observed.map AgentEvent.eventId
  journalled : ∀ e ∈ (load s.file).pending, e ∈ s.observed
  pending : ∀ e ∈ unsent s.acknowledged s.observed, e ∈ (load s.file).pending
  queued : ∀ p, s.process = some p → ∀ e ∈ p.queue, e ∈ s.observed
  queue : ∀ p, s.process = some p → ∀ c,
    unsent s.acknowledged (ofCall c p.queue) = unsent s.acknowledged (ofCall c s.observed)
  split : ∀ c, Split s.acknowledged (ofCall c s.observed)

/-- The step keeps the order of the events of each call: the queue of a process that is started
is in the order of observation, and a sending that fails passes no other event of its call. -/
def InStep (s : Workstation) (a : Action) : Prop :=
  s.OnWhole a ∧
    match a, s.process with
    | .start order, _ => ∀ c, (ofCall c order).Sublist s.observed
    | .send .failed _ _, some p => ∀ item rest, p.queue = item :: rest →
        item.eventId ∈ s.acknowledged ∨ unsent s.acknowledged (ofCall item.callId rest) = []
    | _, _ => True

namespace Orderly

theorem idle (h : s.Orderly) : Orderly { s with process := none } where
  read := by
    intro p hp
    cases hp
  once := h.once
  known := h.known
  journalled := h.journalled
  pending := h.pending
  queued := by
    intro p hp
    cases hp
  queue := by
    intro p hp
    cases hp
  split := h.split

theorem append (h : s.Orderly) (hp : s.process = some p) (hwhole : Whole s.file)
    {m : Memory} {r : JournalRecord} (hm : m = (load s.file).apply r)
    (hpend : ((load s.file).apply r).pending = (load s.file).pending) (cut : Option ℕ) :
    (s.append { p with journal := m } r cut).Orderly := by
  have hload : (load (s.append { p with journal := m } r cut).file).pending =
      (load s.file).pending := by
    rw [load_append_file hwhole]
    split
    · exact hpend
    · rfl
  refine ⟨read_append hwhole hm cut, by simpa using h.once, by simpa using h.known, ?_, ?_, ?_, ?_,
    by simpa using h.split⟩
  · rw [hload]
    simpa using h.journalled
  · rw [hload]
    simpa using h.pending
  · intro p' hp'
    obtain ⟨rfl, -⟩ := process_append hp'
    simpa using h.queued p hp
  · intro p' hp'
    obtain ⟨rfl, -⟩ := process_append hp'
    simpa using h.queue p hp

theorem addEvent (h : s.Orderly) (hp : s.process = some p) (hwhole : Whole s.file)
    (item : AgentEvent) (cut : Option ℕ) : (s.addEvent p item cut).Orderly := by
  rw [Workstation.addEvent]
  split
  · exact h
  · rename_i hnew
    have hunknown : item.eventId ∉ s.acknowledged := fun hid => hnew (h.known _ hid)
    have hread : (s.append ⟨p.journal.setEvent item, p.queue ++ [item]⟩ (eventRecord item)
        cut).Read := read_append hwhole (by rw [h.read p hp]; rfl) cut
    have hload := load_append_file (p := ⟨p.journal.setEvent item, p.queue ++ [item]⟩)
      (r := eventRecord item) hwhole cut
    dsimp only
    split
    · rename_i hwritten
      rw [if_pos hwritten, apply_eventRecord] at hload
      refine ⟨hread, ?_, ?_, ?_, ?_, ?_, ?_, ?_⟩
      · show ((s.observed ++ [item]).map AgentEvent.eventId).Nodup
        rw [List.map_append, List.nodup_append]
        refine ⟨h.once, List.nodup_singleton _, fun a ha b hb hab => ?_⟩
        obtain rfl := List.mem_singleton.mp hb
        exact hnew (hab ▸ ha)
      · intro id hid
        rw [append_acknowledged] at hid
        show id ∈ (s.observed ++ [item]).map AgentEvent.eventId
        rw [List.map_append]
        exact List.mem_append_left _ (h.known id hid)
      · intro e he
        have he' : e ∈ ((load s.file).setEvent item).pending := hload ▸ he
        rcases List.mem_append.mp he' with he' | he'
        · exact List.mem_append_left _ (h.journalled e (List.mem_of_mem_filter he'))
        · exact List.mem_append_right _ he'
      · intro e he
        rw [append_acknowledged] at he
        have hpend : e ∈ ((load s.file).setEvent item).pending := by
          obtain ⟨hmem, hack⟩ := mem_unsent.mp he
          rcases List.mem_append.mp hmem with hmem | hmem
          · refine List.mem_append_left _ (List.mem_filter.mpr
              ⟨h.pending e (mem_unsent.mpr ⟨hmem, hack⟩), ?_⟩)
            have hne : e.eventId ≠ item.eventId := fun heq =>
              hnew (heq ▸ List.mem_map_of_mem hmem)
            simpa using hne
          · exact List.mem_append_right _ hmem
        exact hload ▸ hpend
      · intro p' hp' e he
        obtain ⟨rfl, -⟩ := process_append hp'
        rcases List.mem_append.mp he with he | he
        · exact List.mem_append_left _ (h.queued p hp e he)
        · exact List.mem_append_right _ he
      · intro p' hp' c
        obtain ⟨rfl, -⟩ := process_append hp'
        simp only [append_acknowledged, ofCall_append, unsent_append, h.queue p hp c]
      · intro c
        show Split (s.append _ _ _).acknowledged (ofCall c (s.observed ++ [item]))
        rw [append_acknowledged, ofCall_append]
        by_cases hc : item.callId = c
        · have hone : ofCall c [item] = [item] := by simp [ofCall, hc]
          rw [hone]
          exact (h.split c).snoc hunknown
        · rw [ofCall_singleton_of_ne hc, List.append_nil]
          exact h.split c
    · rename_i hwritten
      -- the process has ended, and nothing of the event can be read
      rw [if_neg hwritten] at hload
      cases cut with
      | none => exact absurd rfl hwritten
      | some k =>
        refine ⟨hread, h.once, h.known, ?_, ?_, ?_, ?_, h.split⟩
        · rw [hload]
          exact h.journalled
        · rw [hload]
          exact h.pending
        · intro p' hp'
          cases hp'
        · intro p' hp'
          cases hp'

theorem mark (h : s.Orderly) (hp : s.process = some p) (hwhole : Whole s.file) (id now : Word)
    (cut : Option ℕ) {next : Workstation → Process → Workstation}
    (hnext : ∀ s' p', s'.Orderly → s'.process = some p' → Whole s'.file → (next s' p').Orderly) :
    (s.mark p id now cut next).Orderly := by
  have happend := h.append hp hwhole (m := p.journal.addCommand id) (r := commandRecord id now)
    (by rw [h.read p hp]; rfl) rfl cut
  rw [Workstation.mark.eq_def]
  cases cut with
  | some k => exact happend
  | none =>
    refine hnext _ _ ?_ rfl (whole_append (p := p) _)
    exact ⟨happend.read, happend.once, happend.known, happend.journalled, happend.pending,
      happend.queued, happend.queue, happend.split⟩

theorem dial (h : s.Orderly) (hp : s.process = some p) (hwhole : Whole s.file) (command : Command)
    (rejected : AgentEvent) (started : Bool) (cut : Option ℕ) :
    (s.dial p command rejected started cut).Orderly := by
  have hdial : ({ s with dialled := s.dialled ++ [command.commandId] } : Workstation).Orderly :=
    ⟨h.read, h.once, h.known, h.journalled, h.pending, h.queued, h.queue, h.split⟩
  rw [Workstation.dial]
  split
  · exact hdial
  · exact hdial.addEvent hp hwhole rejected cut

theorem execute (h : s.Orderly) (hp : s.process = some p) {command : Command}
    (hwhole : command.hangupRequested = false → command.commandId ∉ p.journal.seenCommands →
      Whole s.file) (rejected : AgentEvent) (maintenance expired started : Bool) (now : Word)
    (cut cut' : Option ℕ) :
    (s.execute p command rejected maintenance expired started now cut cut').Orderly := by
  rw [Workstation.execute]
  split
  · exact h
  · rename_i hhangup
    split
    · exact h
    · rename_i hnew
      have hfile : Whole s.file := hwhole (by simpa using hhangup) hnew
      split
      · exact h.mark hp hfile _ now cut fun s' p' h' hp' hwhole' =>
          h'.addEvent hp' hwhole' rejected cut'
      · split
        · exact h.addEvent hp hfile rejected cut'
        · exact h.mark hp hfile _ now cut fun s' p' h' hp' hwhole' =>
            h'.dial hp' hwhole' command rejected started cut'

/-- **The first event of the queue is accepted**: it is the first of its call that waits, or was
accepted before. -/
theorem accept (h : s.Orderly) (hp : s.process = some p) {item : AgentEvent}
    {rest : List AgentEvent} (hqueue : p.queue = item :: rest) :
    let acknowledged := s.acknowledged ++ [item.eventId]
    (∀ c, Split acknowledged (ofCall c s.observed)) ∧
      ∀ c, unsent acknowledged (ofCall c rest) = unsent acknowledged (ofCall c s.observed) := by
  have hitem : item ∈ s.observed := h.queued p hp item (hqueue ▸ List.mem_cons_self)
  have hc : ∀ c, unsent s.acknowledged (ofCall c [item]) ++ unsent s.acknowledged (ofCall c rest) =
      unsent s.acknowledged (ofCall c s.observed) := by
    intro c
    rw [← h.queue p hp c, hqueue, ← unsent_append, ← ofCall_append, List.singleton_append]
  refine ⟨fun c => ?_, fun c => ?_⟩
  · by_cases hwaits : item ∈ unsent s.acknowledged (ofCall c s.observed)
    · obtain ⟨hmem, hack⟩ := mem_unsent.mp hwaits
      have hcall : item.callId = c := (mem_ofCall.mp hmem).2
      have hone : unsent s.acknowledged (ofCall c [item]) = [item] := by
        simp [unsent, ofCall, hcall, hack]
      have honce : ((ofCall c s.observed).map AgentEvent.eventId).Nodup :=
        h.once.sublist (List.filter_sublist.map _)
      exact (h.split c).accept_of_head (by rw [← hc c, hone]; rfl) honce
    · refine (h.split c).accept_of_notMem fun e he heq => hwaits ?_
      have hobserved : e ∈ s.observed := (mem_ofCall.mp (mem_unsent.mp he).1).1
      obtain rfl : e = item := List.inj_on_of_nodup_map h.once hobserved hitem heq
      exact he
  · rw [unsent_snoc, unsent_snoc, ← hc c, List.filter_append]
    have hnil : (unsent s.acknowledged (ofCall c [item])).filter
        (fun e => e.eventId ≠ item.eventId) = [] := by
      rw [List.filter_eq_nil_iff]
      intro e he
      obtain rfl := List.mem_singleton.mp (mem_ofCall.mp (mem_unsent.mp he).1).1
      simp
    rw [hnil, List.nil_append]

theorem accepted (h : s.Orderly) (hp : s.process = some p) {item : AgentEvent}
    {rest queue : List AgentEvent} (hqueue : p.queue = item :: rest)
    (hafter : queue = rest ∨ queue = rest ++ [item]) :
    Orderly { s with
      acknowledged := s.acknowledged ++ [item.eventId]
      process := some { p with queue } } := by
  obtain ⟨hsplit, hrest⟩ := h.accept hp hqueue
  have hitem : item ∈ s.observed := h.queued p hp item (hqueue ▸ List.mem_cons_self)
  refine ⟨?_, h.once, ?_, h.journalled, ?_, ?_, ?_, hsplit⟩
  · intro p' hp'
    cases hp'
    exact h.read p hp
  · intro id hid
    rcases List.mem_append.mp hid with hid | hid
    · exact h.known id hid
    · obtain rfl := List.mem_singleton.mp hid
      exact List.mem_map_of_mem hitem
  · intro e he
    obtain ⟨hmem, hack⟩ := mem_unsent.mp he
    exact h.pending e (mem_unsent.mpr ⟨hmem, fun hid => hack (List.mem_append_left _ hid)⟩)
  · intro p' hp' e he
    cases hp'
    have hmem : e ∈ item :: rest := by
      rcases hafter with rfl | rfl
      · exact List.mem_cons_of_mem _ he
      · exact (List.perm_append_singleton item rest).mem_iff.mp he
    exact h.queued p hp e (hqueue ▸ hmem)
  · intro p' hp' c
    cases hp'
    refine Eq.trans ?_ (hrest c)
    rcases hafter with rfl | rfl
    · rfl
    · have hnil : unsent (s.acknowledged ++ [item.eventId]) (ofCall c [item]) = [] := by
        rw [unsent, List.filter_eq_nil_iff]
        intro e he
        obtain rfl := List.mem_singleton.mp (mem_ofCall.mp he).1
        simp
      rw [ofCall_append, unsent_append, hnil, List.append_nil]

theorem send (h : s.Orderly) (hp : s.process = some p) (sending : Sending) (now : Word)
    (cut : Option ℕ)
    (hwhole : ∀ item ∈ p.queue.head?, sending = .accepted →
      item.eventId ∈ p.journal.pending.map AgentEvent.eventId → Whole s.file)
    (hfailed : sending = .failed → ∀ item rest, p.queue = item :: rest →
      item.eventId ∈ s.acknowledged ∨ unsent s.acknowledged (ofCall item.callId rest) = []) :
    (s.send p sending now cut).Orderly := by
  rw [Workstation.send]
  split
  · exact h
  · rename_i item rest hitem
    cases sending with
    | unanswered => exact h.accepted hp hitem (.inr rfl)
    | failed =>
      refine ⟨?_, h.once, h.known, h.journalled, h.pending, ?_, ?_, h.split⟩
      · intro p' hp'
        cases hp'
        exact h.read p hp
      · intro p' hp' e he
        cases hp'
        exact h.queued p hp e (hitem ▸ (List.perm_append_singleton item rest).mem_iff.mp he)
      · intro p' hp' c
        cases hp'
        show unsent s.acknowledged (ofCall c (rest ++ [item])) =
          unsent s.acknowledged (ofCall c s.observed)
        have hcons : item :: rest = [item] ++ rest := rfl
        rw [← h.queue p hp c, hitem, hcons, ofCall_append, ofCall_append, unsent_append,
          unsent_append]
        rcases hfailed rfl item rest hitem with hack | halone
        · have hnil : unsent s.acknowledged (ofCall c [item]) = [] := by
            rw [unsent, List.filter_eq_nil_iff]
            intro e he
            obtain rfl := List.mem_singleton.mp (mem_ofCall.mp he).1
            simpa using hack
          rw [hnil, List.append_nil, List.nil_append]
        · by_cases hc : item.callId = c
          · rw [← hc, halone, List.append_nil, List.nil_append]
          · have hnil : unsent s.acknowledged (ofCall c [item]) = [] := by
              rw [ofCall_singleton_of_ne hc]
              rfl
            rw [hnil, List.append_nil, List.nil_append]
    | accepted =>
      have hacc := h.accepted hp hitem (.inl rfl)
      show Orderly (Workstation.acknowledge _ _ item now cut)
      rw [Workstation.acknowledge]
      split
      · rename_i hpend
        have hfile : Whole s.file := hwhole item (by rw [hitem]; rfl) rfl hpend
        have hread := h.read p hp
        set s' : Workstation := { s with acknowledged := s.acknowledged ++ [item.eventId] } with hs'
        have hload : ∀ e, e ∈ (load (s'.append ⟨p.journal.removeEvent item.eventId, rest⟩
            (acknowledgementRecord item now) cut).file).pending →
            e ∈ (load s.file).pending := by
          intro e he
          rw [load_append_file (s := s') hfile] at he
          split at he
          · exact List.mem_of_mem_filter he
          · exact he
        refine ⟨read_append (s := s') hfile (by rw [hread]; rfl) cut, by simpa using h.once,
          by simpa only [append_acknowledged, append_observed] using hacc.known, ?_, ?_, ?_,
          ?_, by simpa only [append_acknowledged, append_observed] using hacc.split⟩
        · intro e he
          rw [append_observed]
          exact h.journalled e (hload e he)
        · intro e he
          rw [append_observed, append_acknowledged] at he
          have hmem : e ∈ (load s.file).pending := hacc.pending e he
          rw [load_append_file (s := s') hfile]
          split
          · refine List.mem_filter.mpr ⟨hmem, ?_⟩
            have hne : e.eventId ≠ item.eventId := fun heq =>
              (mem_unsent.mp he).2 (heq ▸ List.mem_append_right _ (List.mem_singleton_self _))
            simpa using hne
          · exact hmem
        · intro p' hp'
          obtain ⟨rfl, -⟩ := process_append hp'
          simpa using hacc.queued _ rfl
        · intro p' hp'
          obtain ⟨rfl, -⟩ := process_append hp'
          simpa using hacc.queue _ rfl
      · exact hacc

theorem start (h : s.Orderly) {order : List AgentEvent}
    (horder : ∀ c, (ofCall c order).Sublist s.observed) : (s.start order).Orderly := by
  rw [Workstation.start]
  split
  · rename_i hstart
    obtain ⟨-, hperm⟩ := hstart
    have hobserved : s.observed.Nodup := h.once.of_map _
    refine ⟨?_, h.once, h.known, h.journalled, h.pending, ?_, ?_, h.split⟩
    · intro p' hp'
      cases hp'
      rfl
    · intro p' hp' e he
      cases hp'
      exact h.journalled e (hperm.mem_iff.mp he)
    · intro p' hp' c
      cases hp'
      refine eq_of_sublist_of_mem_iff (List.filter_sublist.trans (horder c))
        (List.filter_sublist.trans List.filter_sublist) hobserved fun e => ?_
      rw [mem_unsent, mem_ofCall, mem_unsent, mem_ofCall, hperm.mem_iff]
      constructor
      · rintro ⟨⟨hmem, hcall⟩, hack⟩
        exact ⟨⟨h.journalled e hmem, hcall⟩, hack⟩
      · rintro ⟨⟨hmem, hcall⟩, hack⟩
        exact ⟨⟨h.pending e (mem_unsent.mpr ⟨hmem, hack⟩), hcall⟩, hack⟩
  · exact h

/-- **A step in order keeps the order.** -/
theorem next (h : s.Orderly) (a : Action) (hstep : s.InStep a) : (s.next a).Orderly := by
  obtain ⟨hwhole, horder⟩ := hstep
  cases hp : s.process with
  | none =>
    cases a with
    | start order => exact h.start horder
    | stop => exact h.idle
    | execute | observe | send | beginFreeCall | resolveFreeCall =>
      simpa only [Workstation.next, hp] using h
  | some p =>
    cases a with
    | start order => exact h.start horder
    | stop => exact h.idle
    | execute command eventId reason maintenance expired started now cut cut' =>
      simp only [Workstation.next, hp]
      refine h.execute hp (fun hhangup hnew => hwhole ?_) _ _ _ _ _ _ _
      simp [writes, hp, hhangup, hnew]
    | observe item cut =>
      simp only [Workstation.next, hp]
      exact h.addEvent hp (hwhole (by simp [writes, hp])) item cut
    | send sending now cut =>
      simp only [Workstation.next, hp]
      refine h.send hp sending now cut (fun item hitem hacc hpend => hwhole ?_) ?_
      · subst hacc
        have hhead : p.queue.head? = some item := hitem
        simp only [writes, hp, hhead, Option.any_some, decide_eq_true_eq]
        exact hpend
      · rintro rfl
        simp only [hp] at horder
        exact horder
    | beginFreeCall key now cut | resolveFreeCall key now cut =>
      simp only [Workstation.next, hp]
      exact h.append hp (hwhole (by simp [writes, hp])) (by rw [h.read p hp]; rfl) rfl cut

end Orderly

end Workstation

/-- The accepted events of a call are the first that were observed. -/
def InOrder (s : Workstation) (callId : Word) : Prop :=
  sent s.acknowledged (ofCall callId s.observed) <+: ofCall callId s.observed
deriving Decidable

namespace Sample

def event (eventId state : Word) : AgentEvent :=
  ⟨Word.of "command-1" (.refl true), Word.of "call-1" (.refl true), eventId, state,
    Word.of "2026-09-17T10:30:00Z" (.refl true), none⟩

def ringing : List Action :=
  [.start [], .observe (event (Word.of "event-1") (Word.of "DIALING")) none,
    .observe (event (Word.of "event-2") (Word.of "RINGING")) none]

def sending (result : Sending) : Action := .send result (Word.of "2026-09-17T10:30:01Z") none

end Sample

open Desktop.Sample

end CrmYnov.Desktop
