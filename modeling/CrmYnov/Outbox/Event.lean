import CrmYnov.Base.Table
import CrmYnov.Platform.Failure
import CrmYnov.Platform.Runtime

/-!
# The transactional outbox: its rows and what may enter it

An outbox event is written in the transaction of the business change it
announces, and stays in the table until a worker has delivered it. This file
holds the rows of the table `local_outbox_events`, the screening of what is
enqueued – the shape of its identifiers and the payload that may carry no
identity, no free text and no secret – and the enqueuing itself, which is
idempotent in its key.

The database stores a payload as `jsonb`, which keeps the value but not the
order of its members: what a reading gives back is the payload under a
normal form, the parameter `jsonb` below.
-/

namespace CrmYnov.Outbox

open Js Checked

inductive OutboxStatus
  | PENDING | PROCESSING | DELIVERED | FAILED
deriving DecidableEq

/-- A row of `local_outbox_events`. -/
structure OutboxEvent where
  (id topic aggregateType aggregateId idempotencyKey : String)
  payload : Json
  status : OutboxStatus
  (attempts maxAttempts : ℕ)
  availableAt : Instant
  lockedAt : Option Instant
  lockedBy : Option String
  deliveredAt : Option Instant
  lastErrorCode : Option String
  createdAt : Instant

/-- The unique indexes of the table. -/
inductive OutboxKey
  | id (value : String) : OutboxKey
  | idempotencyKey (value : String) : OutboxKey
deriving DecidableEq

def OutboxEvent.keys (e : OutboxEvent) : List OutboxKey :=
  [.id e.id, .idempotencyKey e.idempotencyKey]

abbrev Store := Table OutboxEvent OutboxEvent.keys

variable {e : OutboxEvent}

theorem mem_keys_id {id : String} : OutboxKey.id id ∈ e.keys ↔ e.id = id := by
  simp [OutboxEvent.keys, eq_comm]

def find (s : Store) (id : String) : Option OutboxEvent := s.findUnique (.id id)

theorem find_eq_some {s : Store} {id : String} :
    find s id = some e ↔ e ∈ s.rows ∧ e.id = id := by
  rw [find, Table.findUnique_eq_some, mem_keys_id]

theorem find_updateMany {s : Store} {p : OutboxEvent → Prop} [DecidablePred p]
    {f : OutboxEvent → OutboxEvent} {hf : ∀ e, (f e).keys = e.keys} (id : String) :
    find (s.updateMany p f hf) id = (find s id).map fun e => if p e then f e else e :=
  Table.findUnique_updateMany _

theorem eq_of_id {s : Store} {e e' : OutboxEvent} (he : e ∈ s.rows) (he' : e' ∈ s.rows)
    (h : e.id = e'.id) : e = e' :=
  s.eq_of_key he he' (mem_keys_id.mpr rfl) (mem_keys_id.mpr h.symm)

/-! ### What may be enqueued -/

structure OutboxInput where
  (topic aggregateType aggregateId idempotencyKey : String)
  payload : Json
  maxAttempts : Option ℤ := none

/-- `[A-Za-z0-9._:-]` -/
def isReference (c : Char) : Bool := isAlnum c || c == '.' || c == '_' || c == ':' || c == '-'

/-- `LocalOutboxRepository.validate` -/
def validate (input : OutboxInput) : Outcome Unit :=
  require
    (headMatch isUpper (fun c => isUpper c || isDigit c || c == '_' || c == '.' || c == '-') 2 79
        input.topic ∧
      headMatch isUpper (fun c => isUpper c || isDigit c || c == '_') 2 47 input.aggregateType ∧
      fullMatch isReference 1 80 input.aggregateId ∧
      fullMatch isReference 8 160 input.idempotencyKey ∧
      input.maxAttempts.all fun n => 1 ≤ n ∧ n ≤ 10)
    (.error "outbox_input_invalid")

/-- The members a payload may not have, whatever their letter case. -/
def withheldMembers : List String :=
  ["email", "phone", "name", "content", "comment", "password", "token", "secret", "authorization"]

/-- `/^"(?:email|…|authorization)"\s*:/i` -/
def namesWithheld (cs : List Char) : Bool :=
  match cs with
  | '"' :: rest => withheldMembers.any fun word =>
    let named := word.toList ++ ['"']
    ((rest.take named.length).map lowerChar == named) &&
      ((rest.drop named.length).dropWhile isSpace).head? == some ':'
  | _ => false

/-- `LocalOutboxRepository.safePayload`: the payload, read back from its own text. -/
def safePayload (value : Json) : Outcome Json := do
  let encoded := value.chars
  require (Js.utf16Length encoded ≤ 8000 ∧ ¬encoded.tails.any namesWithheld)
    (.error "outbox_payload_not_minimized")
  pure value

/-! ### Enqueuing -/

variable (jsonb : Json → Json)

/-- A row created by the table's defaults, at the identifier and the instant the
database gives it. -/
def OutboxInput.toEvent (input : OutboxInput) (id : String) (at_ : Instant) : OutboxEvent where
  id := id
  topic := input.topic
  aggregateType := input.aggregateType
  aggregateId := input.aggregateId
  idempotencyKey := input.idempotencyKey
  payload := jsonb input.payload
  status := .PENDING
  attempts := 0
  maxAttempts := (input.maxAttempts.getD 5).toNat
  availableAt := at_
  lockedAt := none
  lockedBy := none
  deliveredAt := none
  lastErrorCode := none
  createdAt := at_

/-- `LocalOutboxRepository.enqueueInTransaction` -/
def enqueueInTransaction (input : OutboxInput) (id : String) (at_ : Instant) (s : Store) :
    Outcome (OutboxEvent × Store) := do
  validate input
  let payload ← safePayload input.payload
  match s.findUnique (.idempotencyKey input.idempotencyKey) with
  | some existing =>
    require (existing.topic = input.topic ∧ existing.aggregateType = input.aggregateType ∧
        existing.aggregateId = input.aggregateId ∧
        existing.payload.stringify = payload.stringify)
      (.conflict "outbox_idempotency_conflict")
    pure (existing, s)
  | none =>
    let event := { input with payload }.toEvent jsonb id at_
    let s' ← demand (s.create event) .database
    pure (event, s')

/-- **What enqueuing can do**: give back the event already stored under the key,
or store a new one. -/
theorem enqueue_cases {input : OutboxInput} {id : String} {at_ : Instant} {s s' : Store}
    (h : enqueueInTransaction jsonb input id at_ s = .ok (e, s')) :
    (s' = s ∧ e ∈ s.rows) ∨ (e = input.toEvent jsonb id at_ ∧ s.create e = some s') := by
  simp only [enqueueInTransaction, safePayload, bind_assoc, pure_bind, ok_iff, exists_const] at h
  obtain ⟨_, -, -, h⟩ := h
  split at h
  · rename_i existing hfind
    simp only [ok_iff] at h
    obtain ⟨-, -, rfl, rfl⟩ := h
    exact .inl ⟨rfl, (Table.findUnique_eq_some.mp hfind).1⟩
  · simp only [ok_iff] at h
    obtain ⟨s'', hcreate, rfl, rfl⟩ := h
    exact .inr ⟨rfl, hcreate⟩

/-! ### The same event twice -/

/-- Equal up to the order of the members of the objects in it. -/
inductive Reordered : Json → Json → Prop
  | refl (v : Json) : Reordered v v
  | trans {u v w : Json} : Reordered u v → Reordered v w → Reordered u w
  | members {ms ms' : List (String × Json)} : ms.Perm ms' → Reordered (.obj ms) (.obj ms')
  | member {v v' : Json} (before after : List (String × Json)) (name : String) :
      Reordered v v' → Reordered (.obj (before ++ (name, v) :: after))
        (.obj (before ++ (name, v') :: after))
  | item {v v' : Json} (before after : List Json) :
      Reordered v v' → Reordered (.arr (before ++ v :: after)) (.arr (before ++ v' :: after))

/-- No order of its members makes the text of one payload that of the other. -/
def Differs (payload payload' : Json) : Prop :=
  ∀ v, Reordered v payload → v.stringify ≠ payload'.stringify

/-- The input may be enqueued. -/
def Enqueueable (input : OutboxInput) : Prop :=
  validate input = .ok () ∧ safePayload input.payload = .ok input.payload

/-- An input whose key is known is compared with the event that has it. -/
theorem enqueue_known {input : OutboxInput} {id : String} {at_ : Instant} {s : Store}
    {existing : OutboxEvent} (hinput : Enqueueable input) (hmem : existing ∈ s.rows)
    (hkey : existing.idempotencyKey = input.idempotencyKey) :
    enqueueInTransaction jsonb input id at_ s =
      if existing.topic = input.topic ∧ existing.aggregateType = input.aggregateType ∧
        existing.aggregateId = input.aggregateId ∧
        existing.payload.stringify = input.payload.stringify
      then .ok (existing, s) else .error (.conflict "outbox_idempotency_conflict") := by
  have hfind : s.findUnique (.idempotencyKey input.idempotencyKey) = some existing :=
    Table.findUnique_eq_some.mpr ⟨hmem, by simp [OutboxEvent.keys, hkey]⟩
  rw [enqueueInTransaction, hinput.1, ok_bind, hinput.2, ok_bind]
  dsimp only
  rw [hfind]
  dsimp only
  split
  · rename_i hsame
    rw [require_pos hsame]
    rfl
  · rename_i hdiffers
    rw [require_neg hdiffers]
    rfl

/-- What is enqueued is in the store as it was given, but for how the database keeps its
payload. -/
theorem enqueue_ok {input : OutboxInput} {id : String} {at_ : Instant} {s s' : Store}
    {e : OutboxEvent} (h : enqueueInTransaction jsonb input id at_ s = .ok (e, s')) :
    Enqueueable input ∧ e ∈ s'.rows ∧ e.idempotencyKey = input.idempotencyKey ∧
      e.topic = input.topic ∧ e.aggregateType = input.aggregateType ∧
      e.aggregateId = input.aggregateId ∧
      (e.payload.stringify = input.payload.stringify ∨ e.payload = jsonb input.payload) := by
  simp only [enqueueInTransaction, ok_iff] at h
  obtain ⟨⟨⟩, hvalid, payload, hpayload, h⟩ := h
  obtain rfl : input.payload = payload := by
    simp only [safePayload, ok_iff] at hpayload
    obtain ⟨-, -, hpayload⟩ := hpayload
    exact hpayload
  refine ⟨⟨hvalid, hpayload⟩, ?_⟩
  split at h
  · rename_i existing hfind
    simp only [ok_iff] at h
    obtain ⟨-, ⟨htopic, htype, hid, hsame⟩, rfl, rfl⟩ := h
    obtain ⟨hmem, hkey⟩ := Table.findUnique_eq_some.mp hfind
    exact ⟨hmem, by simpa [OutboxEvent.keys, eq_comm] using hkey, htopic, htype, hid, .inl hsame⟩
  · simp only [ok_iff] at h
    obtain ⟨s'', hcreate, rfl, rfl⟩ := h
    exact ⟨(Table.mem_create hcreate).mpr (.inr rfl), rfl, rfl, rfl, rfl, .inr rfl⟩

/-- **Enqueuing twice**: an input finds its own event, and another payload under its key is refused,
exactly when the database gives back the payload in its order. -/
theorem enqueue_idempotent_iff (input : OutboxInput) :
    (∀ id at_ s e s', enqueueInTransaction jsonb input id at_ s = .ok (e, s') →
      (∀ id' at', enqueueInTransaction jsonb input id' at' s' = .ok (e, s')) ∧
      ∀ other, Enqueueable other → other.idempotencyKey = input.idempotencyKey →
        Differs input.payload other.payload → ∀ id' at',
          enqueueInTransaction jsonb other id' at' s' =
            .error (.conflict "outbox_idempotency_conflict")) ↔
      (Enqueueable input → (jsonb input.payload).stringify = input.payload.stringify) := by
  constructor
  · intro h hinput
    -- the event is new to an empty store
    obtain ⟨s', hcreate⟩ := Option.isSome_iff_exists.mp (Table.create_isSome.mpr
      fun k (_ : k ∈ (input.toEvent jsonb "" 0).keys) => Table.findUnique_empty)
    have hfirst : enqueueInTransaction jsonb input "" 0 Table.empty =
        .ok (input.toEvent jsonb "" 0, s') := by
      rw [enqueueInTransaction, hinput.1, ok_bind, hinput.2, ok_bind]
      dsimp only
      rw [Table.findUnique_empty]
      dsimp only
      rw [hcreate]
      rfl
    have hagain := (h "" 0 _ _ _ hfirst).1 "" 0
    rw [enqueue_known jsonb hinput ((Table.mem_create hcreate).mpr (.inr rfl)) rfl] at hagain
    split at hagain
    · rename_i hsame
      exact hsame.2.2.2
    · cases hagain
  · intro horder id at_ s e s' h
    obtain ⟨hinput, hmem, hkey, htopic, htype, hid, hpayload⟩ := enqueue_ok jsonb h
    have hsame : e.payload.stringify = input.payload.stringify := by
      rcases hpayload with hpayload | hpayload
      · exact hpayload
      · rw [hpayload, horder hinput]
    constructor
    · intro id' at'
      rw [enqueue_known jsonb hinput hmem hkey, if_pos ⟨htopic, htype, hid, hsame⟩]
    · intro other hother hotherkey hdiffers id' at'
      rw [enqueue_known jsonb hother hmem (hkey.trans hotherkey.symm), if_neg]
      rintro ⟨-, -, -, htext⟩
      exact hdiffers input.payload (.refl _) (hsame.symm.trans htext)

namespace Sample

/-- Two members, the shorter name first. -/
def byLength : Json → Json
  | .obj [a, b] => if b.1.length < a.1.length then .obj [b, a] else .obj [a, b]
  | v => v

def input : OutboxInput where
  topic := "LEAD.CREATED"
  aggregateType := "LEAD"
  aggregateId := "lead-1"
  idempotencyKey := "lead-created:1"
  payload := .obj [("bb", .nat 1), ("a", .nat 2)]

end Sample

/-- **A payload whose members come back in another order conflicts with itself.** -/
theorem enqueue_conflicts_with_itself :
    ((enqueueInTransaction Sample.byLength Sample.input "a" 0 Table.empty).toOption.map fun first =>
      (enqueueInTransaction Sample.byLength Sample.input "b" 0 first.2).map fun _ => ()) =
        some (.error (.conflict "outbox_idempotency_conflict")) := by
  decide +kernel

end CrmYnov.Outbox
