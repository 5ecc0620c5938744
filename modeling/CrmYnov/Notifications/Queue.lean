import CrmYnov.Base.Machine
import CrmYnov.Base.Waiting
import CrmYnov.Platform.Notifications

/-!
# Notifications and their writes

The service of an instance keeps its notifications in memory, under their keys, and answers from
there. What it creates it also writes to the store that the instances share: the writes are done
one after the other, in the order of the calls, and a write that fails leaves its error behind.
Whoever flushes waits for the writes asked for so far and is thrown the last error since the flush
before.

A notification that the memory knows under the key of a call is the answer to it, and nothing is
written. So when the write of a key has failed and the failure has been reported, the key stays
known: the next call under it succeeds, the next flush has nothing to report, and nothing is
stored (`Notifications.Sample.flush_loses`). `Notifications.flush_keeps` says that this, and a key
that comes back with another notification, is all that can go wrong.
-/

namespace CrmYnov.Notifications

open Checked Table Js Function List

/-- `NotificationRecord`, with its identifier and its times. -/
structure Notification extends NotificationRecord where
  id : String
  createdAt : Instant
  readAt : Option Instant := none

def notificationTypes : List String :=
  ["ASSIGNMENT", "REASSIGNMENT_DECISION", "CLOSURE_REQUEST", "COLLABORATOR_REQUEST",
    "FOLLOW_UP_DUE", "IMPORT_REVIEW", "CHAT_MENTION", "BROADCAST", "BROADCAST_CORRECTION",
    "DOCUMENT_RECEIVED", "DOCUMENT_VALIDATED", "DOCUMENT_REFUSED", "APPOINTMENT"]

/-- `/^[\p{L}\p{N}:._-]{3,160}$/u`; the letters and numbers are those of the Unicode tables. -/
def isDeduplicationKey (isWord : Char → Bool) : String → Bool :=
  fullMatch (fun c => isWord c || c == ':' || c == '.' || c == '_' || c == '-') 3 160

/-- `[a-zA-Z0-9-]+(?:\/[^?#\s]*)?$` -/
def isPath (cs : List Char) : Bool :=
  let segment := fun c => isAlnum c || c == '-'
  cs.takeWhile segment != [] &&
    match cs.dropWhile segment with
    | [] => true
    | c :: rest => c == '/' && rest.all fun c => !(c == '?' || c == '#' || isSpace c)

/-- `/^\/(leads|imports|chat|broadcasts|appointments)\/[a-zA-Z0-9-]+(?:\/[^?#\s]*)?$/` -/
def isHref (href : String) : Bool :=
  ["/leads/", "/imports/", "/chat/", "/broadcasts/", "/appointments/"].any fun head =>
    startsWith head href && isPath (href.toList.drop head.toList.length)

/-- What `validate` asks of a notification and its key. -/
def Valid (isWord : Char → Bool) (input : NotificationRecord) (deduplicationKey : String) : Prop :=
  input.type ∈ notificationTypes ∧ input.recipientId ≠ "" ∧ input.resourceId ≠ "" ∧
    isDeduplicationKey isWord deduplicationKey ∧ isHref input.href
deriving Decidable

/-- What the service of an instance remembers. -/
structure Memory where
  notifications : Dict String Notification := Dict.empty
  deduplication : Dict String String := Dict.empty
  lastCreatedAtMs : Instant := 0

/-- A notification is kept under its identifier, and this one under the key. -/
def Memory.keep (m : Memory) (n : Notification) (deduplicationKey : String) : Memory :=
  { m with
    notifications := m.notifications.set n.id n
    deduplication := m.deduplication.set deduplicationKey n.id }

/-- The notification that `create` makes: no two are created at one instant. -/
def Memory.made (m : Memory) (input : NotificationRecord) (randomUUID : String) (now : Instant) :
    Notification :=
  { input with id := randomUUID, createdAt := max now (m.lastCreatedAtMs + 1) }

/-- `create`, without its write: the answer, and the memory it leaves. -/
def Memory.create (isWord : Char → Bool) (m : Memory) (input : NotificationRecord)
    (deduplicationKey randomUUID : String) (now : Instant) : Outcome (Notification × Memory) := do
  require (Valid isWord input deduplicationKey) (.badRequest "notification_invalid")
  match m.deduplication.get deduplicationKey with
  | some known => do
    let n ← demand (m.notifications.get known) (.error "notification missing")
    pure (n, m)
  | none =>
    let n := m.made input randomUUID now
    pure (n, { m with lastCreatedAtMs := n.createdAt }.keep n deduplicationKey)

/-! ### Notifications that are accepted -/

theorem chars_of_uuid {text : String} (h : isUuidText text = true) :
    (∀ c ∈ text.toList, isAlnum c || c == '-') ∧ text.toList.length = 36 := by
  constructor
  · refine forall_of_hasShape h fun cls hcls c hc => ?_
    simp only [mem_append, mem_replicate, mem_singleton] at hcls
    have hcases : cls = isHexDigitAnyCase ∨ cls = fun c => c == '-' := by tauto
    rcases hcases with rfl | rfl
    · have hf : 'f' ≤ 'z' := by decide
      have hF : 'F' ≤ 'Z' := by decide
      simp only [isHexDigitAnyCase, isHexDigit, Bool.or_eq_true, Bool.and_eq_true,
        decide_eq_true_eq] at hc
      simp only [isAlnum, isLower, isUpper, Bool.or_eq_true, Bool.and_eq_true,
        decide_eq_true_eq]
      rcases hc with (hdigit | hlower) | hupper
      · exact .inl (.inr hdigit)
      · exact .inl (.inl (.inl ⟨hlower.1, Char.le_trans hlower.2 hf⟩))
      · exact .inl (.inl (.inr ⟨hupper.1, Char.le_trans hupper.2 hF⟩))
    · have hdash : (c == '-') = true := hc
      rw [hdash, Bool.or_true]
  · rw [isUuidText, hasShape, Bool.and_eq_true, beq_iff_eq] at h
    rw [h.1]
    rfl

theorem colon_notMem_uuid {text : String} (h : isUuidText text = true) : ':' ∉ text.toList :=
  fun hmem => absurd ((chars_of_uuid h).1 ':' hmem) (by decide)

variable {key : String}

theorem isDeduplicationKey_of_chars {isWord : Char → Bool} (hword : ∀ c, isAlnum c → isWord c)
    (hchars : ∀ c ∈ key.toList, isAlnum c || c == '-' || c == ':' || isWord c)
    (hlo : 3 ≤ key.toList.length) (hhi : key.toList.length ≤ 160) :
    isDeduplicationKey isWord key = true := by
  have hall : ∀ c ∈ key.toList,
      (isWord c || c == ':' || c == '.' || c == '_' || c == '-') = true := by
    intro c hc
    have hchar := hchars c hc
    simp only [Bool.or_eq_true] at hchar ⊢
    rcases hchar with ((halnum | hdash) | hcolon) | hother
    · exact .inl (.inl (.inl (.inl (hword c halnum))))
    · exact .inr hdash
    · exact .inl (.inl (.inl (.inr hcolon)))
    · exact .inl (.inl (.inl (.inl hother)))
  rw [isDeduplicationKey, fullMatch, all_eq_true.mpr hall]
  simp [hlo, hhi]

theorem isPath_of_uuid {id : String} (hid : isUuidText id = true) {rest : List Char}
    (hrest : rest = [] ∨ ∃ cs, rest = '/' :: cs ∧
      ∀ c ∈ cs, (c == '?' || c == '#' || isSpace c) = false) :
    isPath (id.toList ++ rest) = true := by
  obtain ⟨hchars, hlen⟩ := chars_of_uuid hid
  have hhead : ∀ c ∈ rest.head?, (isAlnum c || c == '-') = false := by
    rintro c hc
    rcases hrest with rfl | ⟨cs, rfl, -⟩
    · cases hc
    · cases hc
      decide
  have htake : (id.toList ++ rest).takeWhile (fun c => isAlnum c || c == '-') = id.toList := by
    rw [takeWhile_append_of_pos hchars]
    cases rest with
    | nil => rw [takeWhile_nil, append_nil]
    | cons c cs =>
      rw [takeWhile_cons_of_neg (by rw [hhead c rfl]; exact Bool.false_ne_true),
        append_nil]
  have hdrop : (id.toList ++ rest).dropWhile (fun c => isAlnum c || c == '-') = rest := by
    rw [dropWhile_append_of_pos hchars]
    cases rest with
    | nil => rfl
    | cons c cs =>
      rw [dropWhile_cons_of_neg (by rw [hhead c rfl]; exact Bool.false_ne_true)]
  have hnil : id.toList ≠ [] := by
    intro hnil
    rw [hnil] at hlen
    cases hlen
  rw [isPath, htake, hdrop, Bool.and_eq_true, bne_iff_ne]
  refine ⟨hnil, ?_⟩
  rcases hrest with rfl | ⟨cs, rfl, hcs⟩
  · rfl
  · simp only [beq_self_eq_true, Bool.true_and, all_eq_true, Bool.not_eq_true']
    exact hcs

theorem isHref_of_path {head href : String} {rest : List Char}
    (hhead : head ∈ ["/leads/", "/imports/", "/chat/", "/broadcasts/", "/appointments/"])
    (hhref : href.toList = head.toList ++ rest) (hpath : isPath rest = true) :
    isHref href = true := by
  rw [isHref, any_eq_true]
  refine ⟨head, hhead, ?_⟩
  rw [startsWith, hhref, drop_left, hpath, Bool.and_true]
  exact isPrefixOf_iff_prefix.mpr (prefix_append _ _)

def Settled (m : Memory) : Prop :=
  ∀ key i, m.deduplication.get key = some i → ∃ n, m.notifications.get i = some n

/-- **A valid notification is accepted.** -/
theorem Settled.create {isWord : Char → Bool} {m : Memory} (hm : Settled m)
    {input : NotificationRecord} (hvalid : Valid isWord input key) (randomUUID : String)
    (now : Instant) :
    ∃ n m', m.create isWord input key randomUUID now = .ok (n, m') ∧ Settled m' := by
  cases hknown : m.deduplication.get key with
  | some i =>
    obtain ⟨n, hn⟩ := hm key i hknown
    refine ⟨n, m, ?_, hm⟩
    simp only [Memory.create, require_pos hvalid, ok_bind, hknown, hn, demand_some]
    rfl
  | none =>
    let n := m.made input randomUUID now
    refine ⟨n, { m with lastCreatedAtMs := n.createdAt }.keep n key, ?_, fun key' i hi => ?_⟩
    · simp only [Memory.create, require_pos hvalid, ok_bind, hknown]
      rfl
    · simp only [Memory.keep, Dict.get_set] at hi ⊢
      split at hi
      · cases hi
        exact ⟨n, if_pos rfl⟩
      · obtain ⟨n', hn'⟩ := hm key' i hi
        split
        · exact ⟨n, rfl⟩
        · exact ⟨n', hn'⟩

/-! ### The text that is digested -/

/-- The text of a notification of which the fingerprint is the digest. -/
def digested (n : NotificationRecord) : String :=
  Json.stringify (.obj [("recipientId", .str n.recipientId), ("type", .str n.type),
    ("priority", .str n.priority), ("resourceType", .str n.resourceType),
    ("resourceId", .str n.resourceId), ("href", .str n.href)])

theorem digested_inj {n n' : NotificationRecord} (h : digested n = digested n') : n = n' := by
  have hchars := String.ofList_injective h
  simp only [Json.chars, Json.charsMembers, cons_append, append_assoc,
    cons.injEq, true_and] at hchars
  obtain ⟨-, hchars⟩ := Json.quote_append_inj hchars
  obtain ⟨hrecipient, hchars⟩ := Json.quote_append_inj (tail_eq_of_cons_eq hchars)
  obtain ⟨-, hchars⟩ := Json.quote_append_inj (tail_eq_of_cons_eq hchars)
  obtain ⟨htype, hchars⟩ := Json.quote_append_inj (tail_eq_of_cons_eq hchars)
  obtain ⟨-, hchars⟩ := Json.quote_append_inj (tail_eq_of_cons_eq hchars)
  obtain ⟨hpriority, hchars⟩ := Json.quote_append_inj (tail_eq_of_cons_eq hchars)
  obtain ⟨-, hchars⟩ := Json.quote_append_inj (tail_eq_of_cons_eq hchars)
  obtain ⟨hresourceType, hchars⟩ := Json.quote_append_inj (tail_eq_of_cons_eq hchars)
  obtain ⟨-, hchars⟩ := Json.quote_append_inj (tail_eq_of_cons_eq hchars)
  obtain ⟨hresourceId, hchars⟩ := Json.quote_append_inj (tail_eq_of_cons_eq hchars)
  obtain ⟨-, hchars⟩ := Json.quote_append_inj (tail_eq_of_cons_eq hchars)
  obtain ⟨hhref, -⟩ := Json.quote_append_inj (tail_eq_of_cons_eq hchars)
  obtain ⟨_, _, _, _, _, _⟩ := n
  obtain ⟨_, _, _, _, _, _⟩ := n'
  simp only [NotificationRecord.mk.injEq]
  exact ⟨hrecipient, htype, hpriority, hresourceType, hresourceId, hhref⟩

/-! ### Instances that share a store -/

/-- A call of `create`: what it notifies, and under which key. -/
structure Asked where
  input : NotificationRecord
  deduplicationKey : String

structure Write where
  record : Notification
  deduplicationKey : String

/-- The service of an instance: its memory, the writes to be done with the flushes that wait for
them, and the failure that no flush has reported. With a flush stand the calls of `create` since
the flush before; the last field holds the calls since the last one. -/
structure Instance where
  memory : Memory := {}
  persistenceQueue : List (Waiting Write Asked) := []
  persistenceFailure : Option Failure := none
  asked : List Asked := []

/-- The identifier and the times of a row of the store. -/
structure Stamp where
  id : String
  createdAt : Instant
  readAt : Option Instant

def Stamp.notification (stamp : Stamp) (row : InternalNotificationRow) : Notification :=
  { row.record with id := stamp.id, createdAt := stamp.createdAt, readAt := stamp.readAt }

inductive Fate
  /-- Its transaction runs; if it finds a notification, this is its stamp. -/
  | done (found : Stamp)
  /-- Nothing is committed. -/
  | lost
  /-- Its transaction has run, and the answer is lost. -/
  | unanswered

structure Cluster where
  instances : ℕ → Instance
  db : Database

inductive Action
  /-- `create` is called on an instance. -/
  | create (i : ℕ) (call : Asked) (randomUUID : String) (now : Instant)
  /-- `flush` is called on an instance. -/
  | flush (i : ℕ)
  /-- The first write of an instance is done. -/
  | write (i : ℕ) (fate : Fate)
  /-- The first flush of an instance has no write before it any more. -/
  | resume (i : ℕ)
  /-- An instance starts, and reads the store. -/
  | start (i : ℕ) (stamp : String → Stamp)
  /-- Another transaction notifies somebody. -/
  | notify (input : NotificationRecord) (deduplicationKey : String)

inductive Reply
  | created (answer : Outcome Notification)
  | flushed (answer : Outcome Unit)
  | nothing

def Cluster.set (s : Cluster) (i : ℕ) (inst : Instance) : Cluster :=
  { s with instances := update s.instances i inst }

/-- The memory of an instance that has read the store. -/
def snapshot (db : Database) (stamp : String → Stamp) : Memory :=
  db.internalNotifications.rows.foldl
    (fun m row =>
      let n := (stamp row.deduplicationKey).notification row
      { m with lastCreatedAtMs := max m.lastCreatedAtMs n.createdAt }.keep n row.deduplicationKey)
    {}

/-- The instance after `create` has answered. -/
def Instance.created (inst : Instance) (call : Asked) (n : Notification) (memory : Memory) :
    Instance :=
  { inst with
    memory
    persistenceQueue :=
      if (inst.memory.deduplication.get call.deduplicationKey).isSome then inst.persistenceQueue
      else inst.persistenceQueue ++ [.job ⟨n, call.deduplicationKey⟩]
    asked := inst.asked ++ [call] }

/-- The notification that a write answers: the one it finds, or its own. -/
def Write.stored (w : Write) (db : Database) (found : Stamp) : Notification :=
  match db.internalNotifications.findUnique w.deduplicationKey with
  | some existing => found.notification existing
  | none => w.record

variable (rt : Runtime)

/-- A write ends: what it leaves of the instance and of the store. -/
def Instance.written (inst : Instance) (db : Database) (w : Write) (fate : Fate) :
    Instance × Database :=
  match fate, createNotificationInTransaction rt db w.record.toNotificationRecord
      w.deduplicationKey with
  | .lost, _ => ({ inst with persistenceFailure := some .database }, db)
  | _, .error e => ({ inst with persistenceFailure := some e }, db)
  | .unanswered, .ok (_, db') => ({ inst with persistenceFailure := some .database }, db')
  | .done found, .ok (_, db') =>
    ({ inst with memory := inst.memory.keep (w.stored db found) w.deduplicationKey }, db')

def step (isWord : Char → Bool) (s : Cluster) : Action → Reply × Cluster
  | .create i call randomUUID now =>
    match (s.instances i).memory.create isWord call.input call.deduplicationKey randomUUID now with
    | .error e => (.created (.error e), s)
    | .ok (n, memory) => (.created (.ok n), s.set i ((s.instances i).created call n memory))
  | .flush i =>
    let inst := s.instances i
    (.nothing, s.set i
      { inst with persistenceQueue := inst.persistenceQueue ++ [.wait inst.asked], asked := [] })
  | .write i fate =>
    let inst := s.instances i
    match inst.persistenceQueue with
    | .job w :: queue =>
      let (inst', db) := { inst with persistenceQueue := queue }.written rt s.db w fate
      (.nothing, { s.set i inst' with db })
    | _ => (.nothing, s)
  | .resume i =>
    let inst := s.instances i
    match inst.persistenceQueue with
    | .wait _ :: queue =>
      (.flushed (match inst.persistenceFailure with | some e => .error e | none => .ok ()),
        s.set i { inst with persistenceQueue := queue, persistenceFailure := none })
    | _ => (.nothing, s)
  | .start i stamp => (.nothing, s.set i { memory := snapshot s.db stamp })
  | .notify input deduplicationKey =>
    match createNotificationInTransaction rt s.db input deduplicationKey with
    | .ok (_, db) => (.nothing, { s with db })
    | .error _ => (.nothing, s)

def cluster (isWord : Char → Bool) : Machine Cluster Action Reply where
  step s a := step rt isWord s a

/-! ### Notifications that are not lost -/

/-- Two notifications say the same to the same user. -/
def Same (a b : NotificationRecord) : Prop :=
  a.recipientId = b.recipientId ∧ a.type = b.type ∧ a.resourceType = b.resourceType ∧
    a.resourceId = b.resourceId

variable (db : Database)

/-- The store holds exactly one notification under the key of a call, and it is the one the call
asked for. -/
def Kept (call : Asked) : Prop :=
  (db.internalNotifications.count fun row => row.deduplicationKey = call.deduplicationKey) = 1 ∧
    ∃ row, db.internalNotifications.findUnique call.deduplicationKey = some row ∧
      Same row.record call.input

def Writes (w : Write) (call : Asked) : Prop :=
  w.deduplicationKey = call.deduplicationKey ∧ Same w.record.toNotificationRecord call.input

/-- **A flush that keeps what was asked**: when it answers without an error, the store holds the
notification of each call of `create` since the flush before. -/
def FlushKeeps (isWord : Char → Bool) (s : Cluster) (a : Action) : Prop :=
  ∀ i due queue, a = .resume i → (s.instances i).persistenceQueue = .wait due :: queue →
    (cluster rt isWord).answer s a = .flushed (.ok ()) → ∀ call ∈ due, Kept s.db call

/-- The store holds another notification under the key of a write. -/
def Conflicts (w : Write) : Prop :=
  ∃ row, db.internalNotifications.findUnique w.deduplicationKey = some row ∧
    ¬(row.fingerprint = w.record.fingerprint rt ∧ row.record.fingerprint rt = w.record.fingerprint rt)

/-- **What keeps a notification from being lost.** A call of `create` under a key the instance
remembers is backed by the store, by a write of the same notification that is still to be done, or
by a failure that the next flush reports. And when a write is lost or conflicts, no call under its
key waits behind the next flush, unless the store holds its notification. -/
def Backed (isWord : Char → Bool) (s : Cluster) : Action → Prop
  | .create i call _ _ =>
    Valid isWord call.input call.deduplicationKey →
    ((s.instances i).memory.deduplication.get call.deduplicationKey).isSome →
      Kept s.db call ∨ (∃ w, .job w ∈ (s.instances i).persistenceQueue ∧ Writes w call) ∨
        (s.instances i).persistenceFailure.isSome ∧
          ∀ due, .wait due ∉ (s.instances i).persistenceQueue
  | .write i fate => ∀ w queue, (s.instances i).persistenceQueue = .job w :: queue →
      fate = .lost ∨ Conflicts rt s.db w →
        ∀ call ∈ Waiting.later queue (s.instances i).asked,
          call.deduplicationKey = w.deduplicationKey → Kept s.db call
  | _ => True

def Action.input : Action → Option NotificationRecord
  | create _ call _ _ => some call.input
  | notify input _ => some input
  | _ => none

section

variable {rt : Runtime} {isWord : Char → Bool} {db db' : Database}

theorem kept_iff {call : Asked} :
    Kept db call ↔ ∃ row, db.internalNotifications.findUnique call.deduplicationKey = some row ∧
      Same row.record call.input := by
  refine ⟨And.right, fun ⟨row, hrow, hsame⟩ => ⟨?_, row, hrow, hsame⟩⟩
  have hkey : row.deduplicationKey = call.deduplicationKey := by
    have hmem := (findUnique_eq_some.mp hrow).2
    simpa [InternalNotificationRow.keys, eq_comm] using hmem
  exact count_eq_one hrow hkey fun x hx => by simp [InternalNotificationRow.keys, hx]

variable {n : NotificationRecord}

variable {created : Bool}

/-- **What a transaction leaves under its key** is the notification it was given, or one with the
same fingerprint; the other keys are as they were. -/
theorem createNotification_find
    (h : createNotificationInTransaction rt db n key = .ok (created, db')) :
    (∃ row, db'.internalNotifications.findUnique key = some row ∧
      row.record.fingerprint rt = n.fingerprint rt ∧
        (row ∈ db.internalNotifications.rows ∨ row.record = n)) ∧
      ∀ key' row, db.internalNotifications.findUnique key' = some row →
        db'.internalNotifications.findUnique key' = some row := by
  rw [createNotificationInTransaction] at h
  split at h
  · rename_i existing hexisting
    simp only [ok_iff] at h
    obtain ⟨_, ⟨-, hsame⟩, -, rfl⟩ := h
    exact ⟨⟨existing, hexisting, hsame, .inl (findUnique_eq_some.mp hexisting).1⟩,
      fun _ _ hrow => hrow⟩
  · rename_i hfree
    simp only [ok_iff, insert_ok_iff] at h
    obtain ⟨t, hcreate, -, rfl⟩ := h
    refine ⟨⟨n.row rt key, ?_, rfl, .inr rfl⟩, fun key' row hrow => ?_⟩
    · rw [findUnique_create hcreate, if_pos]
      simp [InternalNotificationRow.keys, NotificationRecord.row]
    · rw [findUnique_create hcreate, if_neg]
      · exact hrow
      · intro hmem
        obtain rfl : key' = key := by
          simpa [InternalNotificationRow.keys, NotificationRecord.row] using hmem
        rw [hfree] at hrow
        cases hrow

theorem record_of_createNotification
    (h : createNotificationInTransaction rt db n key = .ok (created, db'))
    {row : InternalNotificationRow} (hrow : row ∈ db'.internalNotifications.rows) :
    row ∈ db.internalNotifications.rows ∨ row.record = n := by
  rcases createNotification_ok h with ⟨-, -, rfl⟩ | ⟨-, -, t, hcreate, rfl⟩
  · exact .inl hrow
  · rcases (mem_create hcreate).mp hrow with hrow | rfl
    · exact .inl hrow
    · exact .inr rfl

theorem Kept.of_createNotification
    (h : createNotificationInTransaction rt db n key = .ok (created, db')) {call : Asked}
    (hkept : Kept db call) : Kept db' call := by
  obtain ⟨row, hrow, hsame⟩ := kept_iff.mp hkept
  exact kept_iff.mpr ⟨row, (createNotification_find h).2 _ row hrow, hsame⟩

theorem conflicts_of_error {w : Write} {e : Failure}
    (h : createNotificationInTransaction rt db w.record.toNotificationRecord w.deduplicationKey =
      .error e) : Conflicts rt db w := by
  rw [createNotificationInTransaction] at h
  split at h
  · rename_i existing hexisting
    refine ⟨existing, hexisting, fun hsame => ?_⟩
    rw [require_pos hsame] at h
    cases h
  · rename_i hfree
    have hcreate : (db.internalNotifications.create
        (w.record.toNotificationRecord.row rt w.deduplicationKey)).isSome := by
      rw [create_isSome]
      intro key hkey
      obtain rfl : key = w.deduplicationKey := by
        simpa [InternalNotificationRow.keys, NotificationRecord.row] using hkey
      exact hfree
    obtain ⟨t, ht⟩ := Option.isSome_iff_exists.mp hcreate
    rw [insert, ht] at h
    cases h

end

/-- **What every reachable cluster keeps**: what is stored and what is to be written was asked for,
and every call is covered at its flush. -/
structure Sound (Said : NotificationRecord → Prop) (s : Cluster) : Prop where
  rows : ∀ row ∈ s.db.internalNotifications.rows, Said row.record
  writes : ∀ i w, .job w ∈ (s.instances i).persistenceQueue → Said w.record.toNotificationRecord
  covered : ∀ i, Waiting.Covered Writes
    (fun call => Kept s.db call ∨ (s.instances i).persistenceFailure.isSome) (Kept s.db)
    (s.instances i).persistenceQueue (s.instances i).asked

section

variable {rt : Runtime} {isWord : Char → Bool} {Said : NotificationRecord → Prop} {s : Cluster}

theorem Sound.set (hs : Sound Said s) (i : ℕ) {inst : Instance} {db : Database}
    (hkept : ∀ call, Kept s.db call → Kept db call)
    (hrows : ∀ row ∈ db.internalNotifications.rows, Said row.record)
    (hwrites : ∀ w, .job w ∈ inst.persistenceQueue → Said w.record.toNotificationRecord)
    (hcovered : Waiting.Covered Writes
      (fun call => Kept db call ∨ inst.persistenceFailure.isSome) (Kept db)
      inst.persistenceQueue inst.asked) : Sound Said { s.set i inst with db } where
  rows := hrows
  writes := by
    intro j w hw
    rcases eq_or_ne j i with rfl | hj
    · simp only [Cluster.set, update_self] at hw
      exact hwrites w hw
    · simp only [Cluster.set, update_of_ne hj] at hw
      exact hs.writes j w hw
  covered := by
    intro j
    rcases eq_or_ne j i with rfl | hj
    · simp only [Cluster.set, update_self]
      exact hcovered
    · simp only [Cluster.set, update_of_ne hj]
      exact (hs.covered j).imp (fun call _ h => h.imp_left (hkept call))
        fun call _ h => hkept call h

/-- **What the end of a write leaves**: its notification is in the store, or its failure is there
to be reported. -/
theorem written_cases (hsaid : ∀ n n', Said n → Said n' →
      n.fingerprint rt = n'.fingerprint rt → n = n')
    {inst : Instance} {db : Database} {w : Write} {fate : Fate}
    (hrows : ∀ row ∈ db.internalNotifications.rows, Said row.record)
    (hw : Said w.record.toNotificationRecord) :
    let r := inst.written rt db w fate
    (r.1.persistenceQueue = inst.persistenceQueue ∧ r.1.asked = inst.asked) ∧
      (∀ call, Kept db call → Kept r.2 call) ∧
      (∀ row ∈ r.2.internalNotifications.rows, Said row.record) ∧
      ((r.1.persistenceFailure = inst.persistenceFailure ∧ ∀ call, Writes w call → Kept r.2 call) ∨
        r.1.persistenceFailure.isSome ∧
          ((∀ call, Writes w call → Kept r.2 call) ∨ fate = .lost ∨ Conflicts rt db w)) := by
  intro r
  have hdone : ∀ {created : Bool} {db' : Database},
      createNotificationInTransaction rt db w.record.toNotificationRecord w.deduplicationKey =
        .ok (created, db') →
      (∀ call, Kept db call → Kept db' call) ∧
        (∀ row ∈ db'.internalNotifications.rows, Said row.record) ∧
          ∀ call, Writes w call → Kept db' call := by
    intro created db' h
    refine ⟨fun call => Kept.of_createNotification h, fun row hrow => ?_, fun call hcall => ?_⟩
    · rcases record_of_createNotification h hrow with hrow | heq
      · exact hrows row hrow
      · rw [heq]
        exact hw
    · obtain ⟨⟨row, hrow, hprint, hknown⟩, -⟩ := createNotification_find h
      have hrecord : row.record = w.record.toNotificationRecord := by
        rcases hknown with hmem | heq
        · exact hsaid _ _ (hrows row hmem) hw hprint
        · exact heq
      refine kept_iff.mpr ⟨row, ?_, ?_⟩
      · rw [← hcall.1]
        exact hrow
      · rw [hrecord]
        exact hcall.2
  cases fate with
  | lost => exact ⟨⟨rfl, rfl⟩, fun _ h => h, hrows, .inr ⟨rfl, .inr (.inl rfl)⟩⟩
  | unanswered =>
    rcases h : createNotificationInTransaction rt db w.record.toNotificationRecord
        w.deduplicationKey with e | ⟨created, db'⟩
    · have hr : r = ({ inst with persistenceFailure := some e }, db) := by
        simp only [r, Instance.written, h]
      rw [hr]
      exact ⟨⟨rfl, rfl⟩, fun _ h => h, hrows, .inr ⟨rfl, .inr (.inr (conflicts_of_error h))⟩⟩
    · have hr : r = ({ inst with persistenceFailure := some .database }, db') := by
        simp only [r, Instance.written, h]
      rw [hr]
      obtain ⟨hmono, hrows', hwrites⟩ := hdone h
      exact ⟨⟨rfl, rfl⟩, hmono, hrows', .inr ⟨rfl, .inl hwrites⟩⟩
  | done found =>
    rcases h : createNotificationInTransaction rt db w.record.toNotificationRecord
        w.deduplicationKey with e | ⟨created, db'⟩
    · have hr : r = ({ inst with persistenceFailure := some e }, db) := by
        simp only [r, Instance.written, h]
      rw [hr]
      exact ⟨⟨rfl, rfl⟩, fun _ h => h, hrows, .inr ⟨rfl, .inr (.inr (conflicts_of_error h))⟩⟩
    · have hr : r = ({ inst with
          memory := inst.memory.keep (w.stored db found) w.deduplicationKey }, db') := by
        simp only [r, Instance.written, h]
      rw [hr]
      obtain ⟨hmono, hrows', hwrites⟩ := hdone h
      exact ⟨⟨rfl, rfl⟩, hmono, hrows', .inl ⟨rfl, hwrites⟩⟩

theorem create_new {m m' : Memory} {call : Asked} {randomUUID : String} {now : Instant}
    {n : Notification}
    (h : m.create isWord call.input call.deduplicationKey randomUUID now = .ok (n, m')) :
    Valid isWord call.input call.deduplicationKey ∧
      (m.deduplication.get call.deduplicationKey = none → n.toNotificationRecord = call.input) := by
  simp only [Memory.create, ok_iff] at h
  obtain ⟨_, hvalid, h⟩ := h
  refine ⟨hvalid, fun hnone => ?_⟩
  rw [hnone] at h
  simp only [pure_ok_iff, Prod.mk.injEq] at h
  obtain ⟨rfl, -⟩ := h
  rfl

/-- **One step keeps the promises**, when it is backed. -/
theorem Sound.next (hsaid : ∀ n n', Said n → Said n' →
      n.fingerprint rt = n'.fingerprint rt → n = n')
    (hs : Sound Said s) {a : Action} (hinput : ∀ n ∈ a.input, Said n)
    (hbacked : Backed rt isWord s a) : Sound Said ((cluster rt isWord).next s a) := by
  cases a with
  | create i call randomUUID now =>
    rcases h : (s.instances i).memory.create isWord call.input call.deduplicationKey randomUUID
        now with e | ⟨n, memory⟩
    · simpa only [Machine.next, cluster, step, h] using hs
    · simp only [Machine.next, cluster, step, h]
      obtain ⟨hvalid, hnew⟩ := create_new h
      by_cases hknown : ((s.instances i).memory.deduplication.get call.deduplicationKey).isSome
      · refine hs.set i (fun _ h => h) hs.rows ?_ ?_
        · simp only [Instance.created, if_pos hknown]
          exact hs.writes i
        · simp only [Instance.created, if_pos hknown]
          refine (hs.covered i).promise ?_
          rcases hbacked hvalid hknown with hkept | ⟨w, hw, hwrites⟩ | ⟨hfailure, hnobody⟩
          · exact Waiting.coveredLast_of_late (.inl hkept) hkept
          · exact Waiting.coveredLast_of_job hw hwrites
          · exact Waiting.coveredLast_of_soon hnobody (.inr hfailure)
      · have hrecord := hnew (Option.not_isSome_iff_eq_none.mp hknown)
        refine hs.set i (fun _ h => h) hs.rows ?_ ?_
        · simp only [Instance.created, if_neg hknown]
          intro w hw
          rcases mem_append.mp hw with hw | hw
          · exact hs.writes i w hw
          · obtain rfl := Waiting.job.inj (mem_singleton.mp hw)
            rw [hrecord]
            exact hinput _ rfl
        · simp only [Instance.created, if_neg hknown]
          refine ((hs.covered i).job _).promise ?_
          refine Waiting.coveredLast_of_job (mem_append_right _ mem_cons_self)
            ⟨rfl, ?_⟩
          rw [hrecord]
          exact ⟨rfl, rfl, rfl, rfl⟩
  | flush i =>
    refine hs.set i (fun _ h => h) hs.rows (fun w hw => ?_) (hs.covered i).wait
    rcases mem_append.mp hw with hw | hw
    · exact hs.writes i w hw
    · cases mem_singleton.mp hw
  | write i fate =>
    rcases hq : (s.instances i).persistenceQueue with _ | ⟨w | due, queue⟩
    · simpa only [Machine.next, cluster, step, hq] using hs
    · simp only [Machine.next, cluster, step, hq]
      have hcovered : Waiting.Covered Writes
          (fun call => (Kept s.db call ∨ (s.instances i).persistenceFailure.isSome) ∨ Writes w call)
          (fun call => Kept s.db call ∨ Writes w call) queue (s.instances i).asked := by
        have hall := hs.covered i
        rw [hq] at hall
        exact hall
      have hw : Said w.record.toNotificationRecord :=
        hs.writes i w (by rw [hq]; exact mem_cons_self)
      obtain ⟨⟨hqueue, hasked⟩, hmono, hrows, hcases⟩ := @written_cases rt Said hsaid
        { s.instances i with persistenceQueue := queue } s.db w fate hs.rows hw
      refine hs.set i hmono hrows ?_ ?_
      · rw [hqueue]
        intro w' hw'
        exact hs.writes i w' (by rw [hq]; exact mem_cons_of_mem _ hw')
      · rw [hqueue, hasked]
        rcases hcases with ⟨hsame, hkept⟩ | ⟨hfailure, hreason⟩
        · rw [hsame]
          refine hcovered.imp (fun call _ h => ?_) fun call _ h => h.elim (hmono call) (hkept call)
          rcases h with (h | h) | h
          · exact .inl (hmono call h)
          · exact .inr h
          · exact .inl (hkept call h)
        · refine hcovered.imp (fun _ _ _ => .inr hfailure) fun call hcall h => ?_
          rcases h with h | h
          · exact hmono call h
          · rcases hreason with hkept | hreason
            · exact hkept call h
            · exact hmono call (hbacked w queue hq hreason call hcall h.1.symm)
    · simpa only [Machine.next, cluster, step, hq] using hs
  | resume i =>
    rcases hq : (s.instances i).persistenceQueue with _ | ⟨w | due, queue⟩
    · simpa only [Machine.next, cluster, step, hq] using hs
    · simpa only [Machine.next, cluster, step, hq] using hs
    · simp only [Machine.next, cluster, step, hq]
      have hcovered := hs.covered i
      rw [hq] at hcovered
      refine hs.set i (fun _ h => h) hs.rows (fun w hw => ?_) ?_
      · exact hs.writes i w (by rw [hq]; exact mem_cons_of_mem _ hw)
      · exact hcovered.2.imp (fun _ _ h => .inl h) fun _ _ h => h
  | start i stamp =>
    exact hs.set i (fun _ h => h) hs.rows (fun w hw => absurd hw not_mem_nil)
      fun call hcall => absurd hcall not_mem_nil
  | notify input key =>
    rcases h : createNotificationInTransaction rt s.db input key with e | ⟨created, db⟩
    · simpa only [Machine.next, cluster, step, h] using hs
    · simp only [Machine.next, cluster, step, h]
      refine ⟨fun row hrow => ?_, hs.writes, fun j => ?_⟩
      · rcases record_of_createNotification h hrow with hrow | heq
        · exact hs.rows row hrow
        · rw [heq]
          exact hinput _ rfl
      · exact (hs.covered j).imp (fun call _ hor => hor.imp_left (Kept.of_createNotification h))
          fun call _ hkept => Kept.of_createNotification h hkept

/-- **A flush that answers well has kept what was asked.** -/
theorem Sound.flushKeeps (hs : Sound Said s) (a : Action) : FlushKeeps rt isWord s a := by
  rintro i due queue rfl hq hans call hcall
  have hcovered := hs.covered i
  rw [hq] at hcovered
  rcases hcovered.1 call hcall with hkept | hfailure
  · exact hkept
  · obtain ⟨e, he⟩ := Option.isSome_iff_exists.mp hfailure
    simp only [Machine.answer, cluster, step, hq, he] at hans
    cases hans

end

/-- The instances have just been made, over a store. -/
def Cluster.begin : Cluster := ⟨fun _ => {}, db⟩

/-- What is stored at first, and what is notified along a run. -/
def said (as : List Action) : List NotificationRecord :=
  db.internalNotifications.rows.map InternalNotificationRow.record ++ as.filterMap Action.input

/-- **Notifications are not lost** in the runs whose steps are all backed: whenever a flush answers
without an error, the store holds exactly one notification under the key of each call of `create`
since the flush before, and it is the one the call asked for. -/
theorem flush_keeps {rt : Runtime} {isWord : Char → Bool} {db : Database} {as : List Action}
    (hsha : ∀ n ∈ said db as, ∀ n' ∈ said db as,
      rt.sha256 (digested n) = rt.sha256 (digested n') → digested n = digested n')
    (hbacked : (cluster rt isWord).Meets (Backed rt isWord) (.begin db) as) :
    (cluster rt isWord).Meets (FlushKeeps rt isWord) (.begin db) as := by
  have hinput : (cluster rt isWord).Meets (fun _ a => ∀ n ∈ a.input, n ∈ said db as) (.begin db)
      as := Machine.meets_of_forall _ fun a ha n hn =>
    mem_append_right _ (mem_filterMap.mpr ⟨a, ha, hn⟩)
  have hsound : Sound (· ∈ said db as) (.begin db) :=
    ⟨fun row hrow => mem_append_left _ (mem_map_of_mem hrow),
      fun _ _ hw => absurd hw not_mem_nil, fun _ _ hcall => absurd hcall not_mem_nil⟩
  have hiff := Machine.meets_congr (P := FlushKeeps rt isWord) (C := fun _ _ => True)
    (H := fun s a => (∀ n ∈ a.input, n ∈ said db as) ∧ Backed rt isWord s a)
    (fun s a (hs : Sound (· ∈ said db as) s) h =>
      hs.next (fun n n' hn hn' hsame => digested_inj (hsha n hn n' hn' hsame)) h.1 h.2)
    (fun s a hs _ => iff_of_true (hs.flushKeeps a) trivial) hsound (hinput.and hbacked)
  exact hiff.mpr (Machine.meets_of_forall _ fun _ _ => trivial)

/-! ### One instance, one follow-up -/

namespace Sample

/-- A follow-up of a lead is due. -/
def call : Asked :=
  ⟨⟨"00000000-0000-4000-8000-000000000084", "FOLLOW_UP_DUE", "HIGH", "LEAD", "lead-synthetic",
    "/leads/lead-synthetic"⟩, "due:lead-synthetic"⟩

/-- The service is asked to notify it. -/
def create (randomUUID : String) : Action := .create 0 call randomUUID 0

/-- The cluster over an empty store. -/
def machine : Machine Cluster Action Reply := cluster Runtime.plain isAlnum

/-- The write is lost and the flush reports it; the caller asks again and flushes again. -/
def run : List Action :=
  [create "n1", .flush 0, .write 0 .lost, .resume 0, create "n2", .flush 0, .resume 0]

/-- **A flush answers without an error and nothing is stored.** -/
theorem flush_loses :
    ¬machine.Meets (FlushKeeps Runtime.plain isAlnum) (.begin {}) run := by
  intro h
  have hlast := @Machine.Meets.at _ _ _ _ _ _ [create "n1", .flush 0, .write 0 .lost, .resume 0,
    create "n2", .flush 0] _ [] h
  obtain ⟨row, hrow, -⟩ := (hlast 0 [call] [] rfl (by rfl) (by rfl) call mem_cons_self).2
  cases hrow

/-- The write is done; asking again finds the notification. -/
def regular : List Action :=
  [create "n1", .flush 0, .write 0 (.done ⟨"n1", 0, none⟩), .resume 0, create "n2", .flush 0,
    .resume 0]

theorem flush_keeps_regular :
    machine.Meets (FlushKeeps Runtime.plain isAlnum) (.begin {}) regular := by
  refine @flush_keeps Runtime.plain _ _ _ (fun _ _ _ _ h => h) ⟨?_, trivial, ?_, trivial, ?_,
    trivial, trivial, trivial⟩
  · intro _ hknown
    cases hknown
  · intro w queue hq hcases
    obtain ⟨rfl, rfl⟩ : w = _ ∧ queue = _ := by
      have hqueue := (cons.inj hq)
      exact ⟨(Waiting.job.inj hqueue.1).symm, hqueue.2.symm⟩
    intro asked hasked
    exact absurd hasked not_mem_nil
  · intro _ _
    exact .inl (kept_iff.mpr ⟨_, rfl, rfl, rfl, rfl, rfl⟩)

end Sample

end CrmYnov.Notifications
