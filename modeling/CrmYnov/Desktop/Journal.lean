import CrmYnov.Js.Text
import Mathlib.Data.List.Dedup

/-!
# The journal of the desktop agent

The agent of a workstation keeps a journal: a file to which a line is appended for each command
it takes, each event of a call it observes and each acknowledgement of an event. The file is
never rewritten. It is read line by line when the agent starts
(`CrmYnov.Desktop.load`), and a line that is not the text of a record is passed over.

A process may end while it writes: the file then ends with a part of a line, and what is written
next continues that line. A journal is *whole* (`CrmYnov.Desktop.Whole`) when it ends with a line
break. What is appended to a whole journal is read after what there was
(`CrmYnov.Desktop.load_append`), and a record that is appended to it is read back
(`CrmYnov.Desktop.load_record`).
-/

namespace CrmYnov.Desktop

open List Option

/-! ### Texts -/

/-- A character of an identifier or of a date: the serializer writes it as it is. -/
def isPlain (c : Char) : Bool := Js.isAlnum c || c ∈ ['-', '_', ':', '.', '+']

/-- The text of an identifier or of a date. -/
structure Word where
  chars : List Char
  plain : chars.all isPlain = true
deriving DecidableEq

def Word.of (text : String) (h : text.toList.all isPlain = true := by decide) : Word :=
  ⟨text.toList, h⟩

inductive RecordKind
  | COMMAND | EVENT | ACK | FREE_CALL_INTENT | FREE_CALL_RESOLVED
deriving DecidableEq

def RecordKind.text : RecordKind → String
  | COMMAND => "COMMAND"
  | EVENT => "EVENT"
  | ACK => "ACK"
  | FREE_CALL_INTENT => "FREE_CALL_INTENT"
  | FREE_CALL_RESOLVED => "FREE_CALL_RESOLVED"

structure JournalRecord where
  kind : RecordKind
  commandId : Word
  eventId : Option Word := none
  callId : Option Word := none
  state : Option Word := none
  writtenAt : Word
  acknowledged : Option Bool
  reasonCode : Option Word := none

structure AgentEvent where
  (commandId callId eventId state occurredAt : Word)
  reasonCode : Option Word
deriving DecidableEq

/-! ### The text of a record -/

/-- A value, as `JsonSerializer` writes it. -/
def quoted (text : List Char) : List Char := '"' :: text ++ ['"']

/-- A value that may be missing. -/
def quoted? : Option Word → List Char
  | some word => quoted word.chars
  | none => "null".toList

/-- A truth value that may be missing. -/
def truth? : Option Bool → List Char
  | some true => "true".toList
  | some false => "false".toList
  | none => "null".toList

/-- What the text of a record begins with. -/
def opening : List Char := "\x7b\"kind\":".toList

/-- What stands before the value of a property that is not the first one. -/
def label (name : String) : List Char := (",\"" ++ name ++ "\":").toList

variable (r : JournalRecord)

/-- `JsonSerializer.Serialize(record)` -/
def serialize : List Char :=
  opening ++ (quoted r.kind.text.toList ++
    (label "commandId" ++ (quoted r.commandId.chars ++
    (label "eventId" ++ (quoted? r.eventId ++
    (label "callId" ++ (quoted? r.callId ++
    (label "state" ++ (quoted? r.state ++
    (label "at" ++ (quoted r.writtenAt.chars ++
    (label "acknowledged" ++ (truth? r.acknowledged ++
    (label "reasonCode" ++ (quoted? r.reasonCode ++ ['}'])))))))))))))))

/-! ### Reading it -/

def expect (text cs : List Char) : Option (List Char) :=
  if text.isPrefixOf cs then some (cs.drop text.length) else none

variable (cs : List Char)

def readQuoted : Option (Word × List Char) := do
  let cs ← expect ['"'] cs
  let rest ← expect ['"'] (cs.dropWhile isPlain)
  pure (⟨cs.takeWhile isPlain, by
    rw [List.all_eq_true]
    exact fun _ hc => List.mem_takeWhile_imp hc⟩, rest)

def readQuoted? : Option (Option Word × List Char) :=
  match expect "null".toList cs with
  | some rest => some (none, rest)
  | none => (readQuoted cs).map fun read => (some read.1, read.2)

/-- A truth value or nothing, and what follows it. -/
def readTruth? : Option (Option Bool × List Char) :=
  match expect "null".toList cs with
  | some rest => some (none, rest)
  | none =>
    match expect "true".toList cs with
    | some rest => some (some true, rest)
    | none => (expect "false".toList cs).map fun rest => (some false, rest)

def kindOf (text : List Char) : Option RecordKind :=
  [.COMMAND, .EVENT, .ACK, .FREE_CALL_INTENT, .FREE_CALL_RESOLVED].find? fun kind : RecordKind =>
    kind.text.toList = text

/-- `JsonSerializer.Deserialize(line)`: the record whose text the line is. A line of the journal
is made of texts of records, some of them cut short; one that is not the text of a record is no
JSON object. -/
def deserialize (line : List Char) : Option JournalRecord := do
  let cs ← expect opening line
  let (kind, cs) ← readQuoted cs
  let kind ← kindOf kind.chars
  let (commandId, cs) ← readQuoted (← expect (label "commandId") cs)
  let (eventId, cs) ← readQuoted? (← expect (label "eventId") cs)
  let (callId, cs) ← readQuoted? (← expect (label "callId") cs)
  let (state, cs) ← readQuoted? (← expect (label "state") cs)
  let (writtenAt, cs) ← readQuoted (← expect (label "at") cs)
  let (acknowledged, cs) ← readTruth? (← expect (label "acknowledged") cs)
  let (reasonCode, cs) ← readQuoted? (← expect (label "reasonCode") cs)
  if cs = ['}'] then
    some ⟨kind, commandId, eventId, callId, state, writtenAt, acknowledged, reasonCode⟩
  else none

theorem some_bind {α β : Type} (a : α) (f : α → Option β) : (some a >>= f) = f a := rfl

theorem bind_some_iff {α β : Type} {x : Option α} {f : α → Option β} {b : β} :
    (x >>= f) = some b ↔ ∃ a, x = some a ∧ f a = some b := bind_eq_some_iff

theorem expect_append (text cs : List Char) : expect text (text ++ cs) = some cs := by
  simp [expect]

theorem eq_of_expect {text cs rest : List Char} (h : expect text cs = some rest) :
    cs = text ++ rest := by
  rw [expect] at h
  split at h
  · rename_i hprefix
    obtain ⟨tail, rfl⟩ := isPrefixOf_iff_prefix.mp hprefix
    cases h
    simp
  · cases h

theorem readQuoted_append (word : Word) (cs : List Char) :
    readQuoted (quoted word.chars ++ cs) = some (word, cs) := by
  have hplain : ∀ c ∈ word.chars, isPlain c = true := all_eq_true.mp word.plain
  have hmark : isPlain '"' = false := by decide
  have htake : (word.chars ++ '"' :: cs).takeWhile isPlain = word.chars := by
    rw [takeWhile_append_of_pos hplain, takeWhile_cons_of_neg (by simp [hmark]),
      append_nil]
  have hdrop : (word.chars ++ '"' :: cs).dropWhile isPlain = '"' :: cs := by
    rw [dropWhile_append_of_pos hplain, dropWhile_cons_of_neg (by simp [hmark])]
  have hbegin : expect ['"'] (quoted word.chars ++ cs) = some (word.chars ++ '"' :: cs) := by
    simpa [quoted] using expect_append ['"'] (word.chars ++ '"' :: cs)
  have hend : expect ['"'] ('"' :: cs) = some cs := expect_append ['"'] cs
  simp only [readQuoted, hbegin, bind_eq_bind, bind_some, hdrop, hend, htake]
  rfl

theorem eq_of_readQuoted {cs rest : List Char} {word : Word} (h : readQuoted cs = some (word, rest)) :
    cs = quoted word.chars ++ rest := by
  simp only [readQuoted, Option.bind_eq_bind, Option.bind_eq_some_iff, Option.pure_def,
    some.injEq, Prod.mk.injEq] at h
  obtain ⟨inner, hinner, tail, htail, rfl, rfl⟩ := h
  rw [eq_of_expect hinner]
  conv_lhs => rw [← takeWhile_append_dropWhile (p := isPlain) (l := inner),
    eq_of_expect htail]
  simp [quoted]

theorem readQuoted?_append (word : Option Word) (cs : List Char) :
    readQuoted? (quoted? word ++ cs) = some (word, cs) := by
  cases word with
  | none => rw [readQuoted?, quoted?, expect_append]
  | some word =>
    have hnull : expect "null".toList (quoted? (some word) ++ cs) = none := rfl
    rw [readQuoted?, hnull]
    simp only [quoted?, readQuoted_append, map_some]

theorem eq_of_readQuoted? {cs rest : List Char} {word : Option Word}
    (h : readQuoted? cs = some (word, rest)) : cs = quoted? word ++ rest := by
  rw [readQuoted?] at h
  split at h
  · rename_i hnull
    cases h
    exact eq_of_expect hnull
  · obtain ⟨read, hread, heq⟩ := map_eq_some_iff.mp h
    obtain ⟨rfl, rfl⟩ := Prod.mk.inj heq
    exact eq_of_readQuoted hread

theorem readTruth?_append (value : Option Bool) (cs : List Char) :
    readTruth? (truth? value ++ cs) = some (value, cs) := by
  match value with
  | none =>
    delta truth?
    rw [readTruth?, expect_append]
  | some true => rfl
  | some false => rfl

theorem eq_of_readTruth? {cs rest : List Char} {value : Option Bool}
    (h : readTruth? cs = some (value, rest)) : cs = truth? value ++ rest := by
  rw [readTruth?] at h
  split at h
  · rename_i hnull
    cases h
    exact eq_of_expect hnull
  · split at h
    · rename_i htrue
      cases h
      exact eq_of_expect htrue
    · obtain ⟨tail, hfalse, heq⟩ := map_eq_some_iff.mp h
      obtain ⟨rfl, rfl⟩ := Prod.mk.inj heq
      exact eq_of_expect hfalse

theorem kindOf_text (kind : RecordKind) : kindOf kind.text.toList = some kind := by
  cases kind <;> decide

theorem text_of_kindOf {text : List Char} {kind : RecordKind} (h : kindOf text = some kind) :
    kind.text.toList = text := by
  simpa using find?_some h

theorem plain_kind (kind : RecordKind) : kind.text.toList.all isPlain = true := by
  cases kind <;> decide

/-- **A record is read back from its text.** -/
theorem deserialize_serialize : deserialize (serialize r) = some r := by
  obtain ⟨kind, commandId, eventId, callId, state, writtenAt, acknowledged, reasonCode⟩ := r
  have hkind : ∀ cs, readQuoted (quoted kind.text.toList ++ cs) =
      some (⟨kind.text.toList, plain_kind kind⟩, cs) := fun cs => readQuoted_append ⟨_, _⟩ cs
  rw [deserialize, serialize]
  simp only [expect_append, hkind, kindOf_text, readQuoted_append, readQuoted?_append,
    readTruth?_append, some_bind, if_true]

/-- **Only the text of a record is read as the record.** -/
theorem serialize_of_deserialize {line : List Char} {r : JournalRecord}
    (h : deserialize line = some r) : serialize r = line := by
  simp only [deserialize, bind_some_iff] at h
  obtain ⟨cs₀, h₀, ⟨kindText, cs₁⟩, h₁, kind, hkind, cs₂, h₂, ⟨commandId, cs₃⟩, h₃, cs₄, h₄,
    ⟨eventId, cs₅⟩, h₅, cs₆, h₆, ⟨callId, cs₇⟩, h₇, cs₈, h₈, ⟨state, cs₉⟩, h₉, cs₁₀, h₁₀,
    ⟨writtenAt, cs₁₁⟩, h₁₁, cs₁₂, h₁₂, ⟨acknowledged, cs₁₃⟩, h₁₃, cs₁₄, h₁₄,
    ⟨reasonCode, cs₁₅⟩, h₁₅, hend⟩ := h
  dsimp only at hkind h₂ h₄ h₆ h₈ h₁₀ h₁₂ h₁₄ hend
  split at hend
  · rename_i hlast
    cases hend
    rw [eq_of_expect h₀, eq_of_readQuoted h₁, ← text_of_kindOf hkind, eq_of_expect h₂,
      eq_of_readQuoted h₃, eq_of_expect h₄, eq_of_readQuoted? h₅, eq_of_expect h₆,
      eq_of_readQuoted? h₇, eq_of_expect h₈, eq_of_readQuoted? h₉, eq_of_expect h₁₀,
      eq_of_readQuoted h₁₁, eq_of_expect h₁₂, eq_of_readTruth? h₁₃, eq_of_expect h₁₄,
      eq_of_readQuoted? h₁₅, hlast]
    rfl
  · cases hend

/-! ### Where the text of a record ends -/

/-- A character that stands neither for the end of a record nor for the end of a line. -/
def isInner (c : Char) : Bool := c ∉ ['}', '\r', '\n']

theorem isInner_of_isPlain {c : Char} (h : isPlain c = true) : isInner c = true := by
  rw [isInner, decide_eq_true_eq]
  intro hc
  simp only [mem_cons, not_mem_nil, or_false] at hc
  rcases hc with rfl | rfl | rfl <;> cases h

theorem all_isInner_quoted {text : List Char} (h : text.all isPlain = true) :
    (quoted text).all isInner = true := by
  have htext : text.all isInner = true := by
    rw [List.all_eq_true] at h ⊢
    exact fun c hc => isInner_of_isPlain (h c hc)
  have hmark : isInner '"' = true := by decide
  simp [quoted, hmark, htext]

theorem all_isInner_quoted? (word : Option Word) : (quoted? word).all isInner = true := by
  cases word with
  | none => decide
  | some word => exact all_isInner_quoted word.plain

theorem all_isInner_truth? (value : Option Bool) : (truth? value).all isInner = true := by
  match value with
  | none => decide
  | some true => decide
  | some false => decide

/-- **The text of a record ends with its only closing brace**, and has no line break. -/
theorem serialize_eq : ∃ inner, serialize r = inner ++ ['}'] ∧ inner.all isInner = true := by
  refine ⟨opening ++ (quoted r.kind.text.toList ++
    (label "commandId" ++ (quoted r.commandId.chars ++
    (label "eventId" ++ (quoted? r.eventId ++
    (label "callId" ++ (quoted? r.callId ++
    (label "state" ++ (quoted? r.state ++
    (label "at" ++ (quoted r.writtenAt.chars ++
    (label "acknowledged" ++ (truth? r.acknowledged ++
    (label "reasonCode" ++ quoted? r.reasonCode)))))))))))))), ?_, ?_⟩
  · simp only [serialize, append_assoc]
  · have hopening : opening.all isInner = true := by decide
    have h₁ : (label "commandId").all isInner = true := by decide
    have h₂ : (label "eventId").all isInner = true := by decide
    have h₃ : (label "callId").all isInner = true := by decide
    have h₄ : (label "state").all isInner = true := by decide
    have h₅ : (label "at").all isInner = true := by decide
    have h₆ : (label "acknowledged").all isInner = true := by decide
    have h₇ : (label "reasonCode").all isInner = true := by decide
    simp only [all_append, hopening, h₁, h₂, h₃, h₄, h₅, h₆, h₇,
      all_isInner_quoted (plain_kind r.kind), all_isInner_quoted r.commandId.plain,
      all_isInner_quoted r.writtenAt.plain, all_isInner_quoted?, all_isInner_truth?, Bool.and_self]

/-- **A part of the text of a record is the text of no record.** -/
theorem deserialize_take {r : JournalRecord} {k : ℕ} (h : k < (serialize r).length) :
    deserialize ((serialize r).take k) = none := by
  cases hread : deserialize ((serialize r).take k) with
  | none => rfl
  | some r' =>
    -- the part would end with a closing brace, which is the last character of the whole
    obtain ⟨inner, heq, hinner⟩ := serialize_eq r
    obtain ⟨inner', heq', -⟩ := serialize_eq r'
    have hk : k ≤ inner.length := by
      rw [heq, length_append, length_singleton] at h
      omega
    have htake := serialize_of_deserialize hread
    rw [heq, take_append_of_le_length hk, heq'] at htake
    have hmem : '}' ∈ inner := mem_of_mem_take (i := k) (by rw [← htake]; simp)
    exact absurd (all_eq_true.mp hinner _ hmem) (by decide)

/-! ### Lines -/

def isBreak (c : Char) : Bool := c == '\r' || c == '\n'

/-- `Environment.NewLine` -/
def newLine : List Char := ['\r', '\n']

variable (file : List Char)

/-- `File.ReadLines(path)`: the empty line between the two characters of a line break is passed
over like any other text that is no record. -/
def readLines : List (List Char) := file.splitOnP isBreak

/-- The journal ends with a line break, or is empty. -/
def Whole : Prop := ∀ c ∈ file.getLast?, isBreak c = true
deriving Decidable

theorem whole_append_newLine : Whole (file ++ newLine) := by
  intro c hc
  obtain rfl : '\n' = c := by simpa [newLine] using hc
  decide

theorem not_isBreak_serialize : ∀ c ∈ serialize r, isBreak c = false := by
  obtain ⟨inner, heq, hinner⟩ := serialize_eq r
  intro c hc
  rw [heq, mem_append, mem_singleton] at hc
  rcases hc with hc | rfl
  · have h := all_eq_true.mp hinner c hc
    rw [isInner, decide_eq_true_eq] at h
    simp only [mem_cons, not_mem_nil, or_false, not_or] at h
    simp [isBreak, h.2.1, h.2.2]
  · decide

theorem readLines_record : readLines (serialize r ++ newLine) = [serialize r, [], []] := by
  rw [readLines, newLine,
    splitOnP_append_cons_of_forall_mem (not_isBreak_serialize r) '\r' (by decide)]
  rfl

theorem readLines_take (k : ℕ) :
    ∃ rest, readLines ((serialize r ++ newLine).take k) = (serialize r).take k :: rest ∧
      ∀ line ∈ rest, line = [] := by
  by_cases hk : k ≤ (serialize r).length
  · rw [take_append_of_le_length hk, readLines,
      splitOnP_eq_singleton fun c hc => not_isBreak_serialize r c (mem_of_mem_take hc)]
    exact ⟨[], rfl, fun _ h => nomatch h⟩
  · have hbreak : newLine.take (k - (serialize r).length) = '\r' :: (['\n'].take
        (k - (serialize r).length - 1)) := by
      obtain ⟨n, hn⟩ := Nat.exists_eq_succ_of_ne_zero
        (Nat.sub_ne_zero_of_lt (Nat.lt_of_not_le hk))
      rw [hn]
      rfl
    rw [take_append, take_of_length_le (by omega), hbreak, readLines,
      splitOnP_append_cons_of_forall_mem (not_isBreak_serialize r) '\r' (by decide)]
    refine ⟨_, rfl, fun line hline => ?_⟩
    match n : k - (serialize r).length - 1 with
    | 0 =>
      rw [n] at hline
      simpa [splitOnP_nil] using hline
    | m + 1 =>
      rw [n] at hline
      have htwo : (['\n'].take (m + 1)).splitOnP isBreak = [[], []] := by
        rw [take_succ_cons, take_nil]
        rfl
      rw [htwo] at hline
      simpa using hline

/-! ### What the journal says -/

/-- What an `EventJournal` holds: the commands it has seen, the events that are not acknowledged
and the free calls whose result is not known. The order of the events is that of the dictionary,
which is no order of the journal. -/
structure Memory where
  seenCommands : List Word := []
  pending : List AgentEvent := []
  unresolvedFreeCalls : List Word := []

namespace Memory

variable (m : Memory)

/-- `seenCommands.Add(commandId)` -/
def addCommand (commandId : Word) : Memory :=
  { m with seenCommands := if commandId ∈ m.seenCommands then m.seenCommands
      else m.seenCommands ++ [commandId] }

/-- `pending[item.EventId] = item` -/
def setEvent (item : AgentEvent) : Memory :=
  { m with pending := m.pending.filter (fun e => e.eventId ≠ item.eventId) ++ [item] }

/-- `pending.Remove(eventId)` -/
def removeEvent (eventId : Word) : Memory :=
  { m with pending := m.pending.filter fun e => e.eventId ≠ eventId }

/-- `unresolvedFreeCalls.Add(key)` -/
def addFreeCall (key : Word) : Memory :=
  { m with unresolvedFreeCalls := if key ∈ m.unresolvedFreeCalls then m.unresolvedFreeCalls
      else m.unresolvedFreeCalls ++ [key] }

/-- `unresolvedFreeCalls.Remove(key)` -/
def removeFreeCall (key : Word) : Memory :=
  { m with unresolvedFreeCalls := m.unresolvedFreeCalls.filter fun k => k ≠ key }

/-- What a record says, added to what the earlier ones say. -/
def apply (r : JournalRecord) : Memory :=
  match r.kind with
  | .COMMAND => m.addCommand r.commandId
  | .FREE_CALL_INTENT => m.addFreeCall r.commandId
  | .FREE_CALL_RESOLVED => m.removeFreeCall r.commandId
  | .EVENT =>
    match r.eventId, r.callId, r.state with
    | some eventId, some callId, some state =>
      m.setEvent ⟨r.commandId, callId, eventId, state, r.writtenAt, r.reasonCode⟩
    | _, _, _ => m
  | .ACK =>
    match r.eventId with
    | some eventId => m.removeEvent eventId
    | none => m

/-- A line of the journal is read: one that is no record is ignored. -/
def read (line : List Char) : Memory :=
  match deserialize line with
  | some r => m.apply r
  | none => m

end Memory

def load : Memory := (readLines file).foldl Memory.read {}

theorem read_serialize (m : Memory) (r : JournalRecord) : m.read (serialize r) = m.apply r := by
  rw [Memory.read, deserialize_serialize]

theorem foldl_read_nil {lines : List (List Char)} (h : ∀ line ∈ lines, line = []) (m : Memory) :
    lines.foldl Memory.read m = m := by
  induction lines with
  | nil => rfl
  | cons line lines ih =>
    obtain rfl := h line mem_cons_self
    exact ih fun line hline => h line (mem_cons_of_mem _ hline)

/-- **What is appended to a whole journal is read after what there was.** -/
theorem load_append {file : List Char} (h : Whole file) (text : List Char) :
    load (file ++ text) = (readLines text).foldl Memory.read (load file) := by
  induction file using reverseRecOn with
  | nil => rfl
  | append_singleton file c =>
    have hc : isBreak c = true := h c (by simp)
    rw [load, load, readLines, append_assoc, singleton_append,
      splitOnP_append_cons file text hc, foldl_append, readLines,
      splitOnP_append_cons file [] hc, foldl_append, splitOnP_nil]
    rfl

/-- **A record that is appended to a whole journal is read back.** -/
theorem load_record {file : List Char} (h : Whole file) (r : JournalRecord) :
    load (file ++ (serialize r ++ newLine)) = (load file).apply r := by
  rw [load_append h, readLines_record, foldl_cons, read_serialize]
  rfl

theorem load_take {file : List Char} (h : Whole file) (r : JournalRecord) (k : ℕ) :
    load (file ++ (serialize r ++ newLine).take k) =
      if (serialize r).length ≤ k then (load file).apply r else load file := by
  obtain ⟨rest, hlines, hrest⟩ := readLines_take r k
  rw [load_append h, hlines, foldl_cons, foldl_read_nil hrest]
  split
  · rename_i hk
    rw [take_of_length_le hk, read_serialize]
  · rename_i hk
    rw [Memory.read, deserialize_take (Nat.lt_of_not_le hk)]

theorem seenCommands_apply (m : Memory) (r : JournalRecord) :
    m.seenCommands ⊆ (m.apply r).seenCommands := by
  intro id hid
  rw [Memory.apply]
  split
  · rw [Memory.addCommand]
    dsimp only
    split
    · exact hid
    · exact mem_append_left _ hid
  · exact hid
  · exact hid
  · split <;> exact hid
  · split <;> exact hid

end CrmYnov.Desktop
