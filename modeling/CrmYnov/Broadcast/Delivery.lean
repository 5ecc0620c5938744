import CrmYnov.Notifications.Queue
import Mathlib.Data.List.Sort

/-!
# Broadcasts and whom they notify

An author prepares a broadcast for an audience. Confirming it freezes the audience in a snapshot
and notifies each of its members; a correction is another broadcast, confirmed from the start,
with the snapshot of the one it corrects. A draft may be cancelled instead.

The requests of the three kinds are remembered in one map, each under a key of its kind. The key
of a draft names its author and that of a correction names the broadcast it corrects; the key of
a confirmation names nothing. So the confirmation of a broadcast takes the key of another one
away, which is then told that it has already been confirmed (`Broadcast.Sample.repeat_refused`).
What is delivered does not suffer: `Broadcast.delivery`.
-/

namespace CrmYnov.Broadcast

open Checked Notifications Js Dict List Option

inductive BroadcastState
  | DRAFT | CANCELLED | CONFIRMED
deriving DecidableEq

structure BroadcastAudience where
  campusIds : List String := []
  teamIds : List String := []
  roles : List String := []
  explicitRecipientIds : List String := []

structure CreateBroadcast where
  title : Option String := none
  content : Option String := none
  internalLink : Option String := none
  audience : BroadcastAudience := {}
  clientRequestId : Option String := none

structure ConfirmBroadcast where
  confirmed : Option Bool := none
  expectedVersion : Option ℤ := none
  expectedRecipientCount : Option ℤ := none
  idempotencyKey : Option String := none

structure CancelBroadcast where
  reason : Option String := none
  expectedVersion : Option ℤ := none

structure CorrectBroadcast where
  title : Option String := none
  content : Option String := none
  reason : Option String := none
  clientRequestId : Option String := none

structure BroadcastView where
  (id title content : String)
  internalLink : Option String := none
  authorId : String
  state : BroadcastState
  (version recipientCount : ℕ)
  createdAt : Instant
  confirmedAt : Option Instant := none
  cancelledAt : Option Instant := none
  correctionOf : Option String := none

structure StoredBroadcast extends BroadcastView where
  audience : BroadcastAudience
  recipientIds : List String

/-- `Collaborator`, as an audience looks at one. -/
structure Collaborator where
  id : String
  campusId : Option String := none
  teamId : Option String := none
  roles : List Role := []

/-- What the world gives to a call. -/
structure Circumstances where
  /-- `users.list({ active: true })` -/
  users : List Collaborator
  now : Instant
  /-- The identifier that the call draws for a broadcast. -/
  randomUUID : String
  /-- The identifier that the notification of a recipient draws. -/
  notificationId : String → String

/-- The memory of the service, with that of the notifications. -/
structure BroadcastService where
  broadcasts : Dict String StoredBroadcast := empty
  requests : Dict String String := empty
  notifications : Memory := {}

/-- `IDENTIFIER`: `/^[a-zA-Z0-9_-]{2,64}$/` -/
def isIdentifier : String → Bool :=
  fullMatch (fun c => isAlnum c || c == '_' || c == '-') 2 64

/-- `REQUEST_ID`: `/^[a-zA-Z0-9:_-]{8,128}$/` -/
def isRequestId : String → Bool :=
  fullMatch (fun c => isAlnum c || c == ':' || c == '_' || c == '-') 8 128

/-- `(?:\/[a-zA-Z0-9-]+)*$` -/
def isLinkPath (cs : List Char) : Bool :=
  match cs.splitOn '/' with
  | [] => true
  | head :: segments => head == [] && segments.all fun segment =>
      segment != [] && segment.all fun c => isAlnum c || c == '-'

/-- `INTERNAL_LINK`: `/^\/(?:leads|chat|notifications)(?:\/[a-zA-Z0-9-]+)*$/` -/
def isInternalLink (link : String) : Bool :=
  ["/leads", "/chat", "/notifications"].any fun head =>
    startsWith head link && isLinkPath (link.toList.drop head.toList.length)

def createKey (userId requestId : String) : String := userId ++ ":" ++ requestId

def confirmKey (idempotencyKey : String) : String := "confirm:" ++ idempotencyKey

def correctionKey (id requestId : String) : String := "correction:" ++ id ++ ":" ++ requestId

def recipientKey (broadcastId recipientId : String) : String :=
  "broadcast:" ++ broadcastId ++ ":recipient:" ++ recipientId

namespace BroadcastService

def isAdmin (principal : Principal) : Prop := principal.hasSome [.ADMIN, .SUPER_ADMIN]
deriving Decidable

def assertAuthor (principal : Principal) : Outcome Unit :=
  require (principal.hasSome Principal.managers) (.forbidden "broadcast_author_forbidden")

def criteriaCount (audience : BroadcastAudience) : ℕ :=
  audience.campusIds.length + audience.teamIds.length + audience.roles.length +
    audience.explicitRecipientIds.length

def isRole (value : String) : Bool :=
  [Role.SUPER_ADMIN, .ADMIN, .MANAGER, .ADMISSIONS, .AUDITOR].any fun role => role.text == value

variable (collate : String → String → Bool)

/-- `[...new Set(values)].sort(compare)` -/
def sorted (values : List String) : List String :=
  (unique values).insertionSort fun a b => collate a b

def normalizeAudience (input : BroadcastAudience) : Outcome BroadcastAudience := do
  let audience : BroadcastAudience :=
    ⟨sorted collate input.campusIds, sorted collate input.teamIds, sorted collate input.roles,
      sorted collate input.explicitRecipientIds⟩
  require (criteriaCount audience ≠ 0) (.badRequest "broadcast_audience_empty")
  require ((∀ value ∈ audience.campusIds ++ audience.teamIds ++ audience.explicitRecipientIds,
      isIdentifier value) ∧ ∀ role ∈ audience.roles, isRole role)
    (.badRequest "broadcast_audience_invalid")
  pure audience

def assertAudienceScope (principal : Principal) (audience : BroadcastAudience) : Outcome Unit := do
  require (isAdmin principal ∨ .MANAGER ∈ principal.roles ∧
      ∀ role ∈ audience.roles, role ≠ "ADMIN" ∧ role ≠ "SUPER_ADMIN")
    (.forbidden "broadcast_audience_out_of_scope")
  require (isAdmin principal ∨ .GLOBAL ∈ principal.scopes ∨
      (∀ id ∈ audience.campusIds, .CAMPUS id ∈ principal.scopes) ∧
        ∀ id ∈ audience.teamIds, .TEAM id ∈ principal.scopes)
    (.forbidden "broadcast_audience_out_of_scope")

def userInScope (principal : Principal) (user : Collaborator) : Prop :=
  isAdmin principal ∨ .GLOBAL ∈ principal.scopes ∨
    (∃ id ∈ user.campusId, .CAMPUS id ∈ principal.scopes) ∨
      ∃ id ∈ user.teamId, .TEAM id ∈ principal.scopes
deriving Decidable

def addressed (principal : Principal) (audience : BroadcastAudience) (user : Collaborator) :
    Prop :=
  (audience.campusIds = [] ∨ ∃ id ∈ user.campusId, id ∈ audience.campusIds) ∧
    (audience.teamIds = [] ∨ ∃ id ∈ user.teamId, id ∈ audience.teamIds) ∧
    (audience.roles = [] ∨ ∃ role ∈ user.roles, role.text ∈ audience.roles) ∧
    (audience.explicitRecipientIds = [] ∨ user.id ∈ audience.explicitRecipientIds) ∧
    userInScope principal user
deriving Decidable

def resolveAudience (principal : Principal) (audience : BroadcastAudience)
    (users : List Collaborator) : Outcome (List Collaborator) := do
  assertAudienceScope principal audience
  let users := users.filter fun user => addressed principal audience user
  require (users ≠ []) (.badRequest "broadcast_audience_empty")
  require (∀ id ∈ audience.explicitRecipientIds, ∃ user ∈ users, user.id = id)
    (.forbidden "broadcast_audience_out_of_scope")
  pure users

/-- The text of a field, without the blanks around it. -/
def trimmed (value : Option String) : String := (value.map trim).getD ""

/-- What `create` asks before it looks for an earlier request: the audience it settles. -/
def precheckCreate (principal : Principal) (input : CreateBroadcast) (users : List Collaborator) :
    Outcome BroadcastAudience := do
  assertAuthor principal
  let title := trimmed input.title
  let content := trimmed input.content
  require (3 ≤ length title ∧ length title ≤ 120 ∧ 3 ≤ length content ∧
      length content ≤ 4000 ∧ isRequestId (trimmed input.clientRequestId))
    (.badRequest "broadcast_content_invalid")
  require (∀ link ∈ input.internalLink.filter fun link => link ≠ "", isInternalLink link)
    (.badRequest "broadcast_link_invalid")
  let audience ← normalizeAudience collate input.audience
  let _ ← resolveAudience principal audience users
  pure audience

/-- The draft that `create` makes. -/
def drafted (principal : Principal) (input : CreateBroadcast) (audience : BroadcastAudience)
    (c : Circumstances) : StoredBroadcast where
  id := c.randomUUID
  title := trimmed input.title
  content := trimmed input.content
  internalLink := input.internalLink.filter fun link => link ≠ ""
  authorId := principal.userId
  state := .DRAFT
  version := 1
  recipientCount := 0
  createdAt := c.now
  audience := audience
  recipientIds := []

variable (s : BroadcastService)

/-- A broadcast is stored, and the request that has led to it. -/
def store (record : StoredBroadcast) (key : String) : BroadcastService :=
  { s with
    broadcasts := s.broadcasts.set record.id record, requests := s.requests.set key record.id }

/-- The broadcast an earlier request has led to. -/
def known (id : String) : Outcome BroadcastView := do
  let record ← demand (s.broadcasts.get id) (.error "broadcast missing")
  pure record.toBroadcastView

def create (principal : Principal) (input : CreateBroadcast) (c : Circumstances) :
    Outcome (BroadcastView × BroadcastService) := do
  let audience ← precheckCreate collate principal input c.users
  let key := createKey principal.userId (trimmed input.clientRequestId)
  match s.requests.get key with
  | some id => do
    let view ← s.known id
    pure (view, s)
  | none =>
    let record := drafted principal input audience c
    pure (record.toBroadcastView, s.store record key)

def notification (broadcastId : String) (correctionOf : Option String) (recipientId : String) :
    NotificationRecord where
  recipientId := recipientId
  type := if correctionOf.isSome then "BROADCAST_CORRECTION" else "BROADCAST"
  priority := "NORMAL"
  resourceType := "BROADCAST"
  resourceId := broadcastId
  href := "/broadcasts/" ++ broadcastId

/-- `publish`: the notifications one after the other, until one of them throws. -/
def publish (isWord : Char → Bool) (broadcastId : String) (correctionOf : Option String)
    (c : Circumstances) : Memory → List String → Outcome Unit × Memory
  | m, [] => (.ok (), m)
  | m, recipientId :: recipientIds =>
    match m.create isWord (notification broadcastId correctionOf recipientId)
        (recipientKey broadcastId recipientId) (c.notificationId recipientId) c.now with
    | .error e => (.error e, m)
    | .ok (_, m') => publish isWord broadcastId correctionOf c m' recipientIds

/-- A confirmed broadcast is stored, then published: the answer, and the memory left. -/
def emit (isWord : Char → Bool) (s : BroadcastService) (record : StoredBroadcast)
    (correctionOf : Option String) (key : String) (c : Circumstances) :
    Outcome BroadcastView × BroadcastService :=
  let published := publish isWord record.id correctionOf c s.notifications record.recipientIds
  (published.1.map fun _ => record.toBroadcastView,
    { s.store record key with notifications := published.2 })

variable (current : StoredBroadcast)

def confirmed (recipientIds : List String) (now : Instant) : StoredBroadcast :=
  { current with
    state := .CONFIRMED, version := current.version + 1, recipientCount := recipientIds.length,
    recipientIds, confirmedAt := some now }

/-- The recipients of a broadcast that is confirmed now. -/
def recipients (users : List Collaborator) : List String :=
  (users.map Collaborator.id).insertionSort fun a b => collate a b

/-- What `confirm` asks of a broadcast that is not confirmed yet: the recipients it settles. -/
def precheckConfirm (principal : Principal) (input : ConfirmBroadcast) (users : List Collaborator) :
    Outcome (List String) := do
  require (current.state = .DRAFT ∧ input.confirmed = some true ∧
      input.expectedVersion = some (current.version : ℤ) ∧
      isRequestId (input.idempotencyKey.getD "")) (.conflict "broadcast_confirmation_invalid")
  let users ← resolveAudience principal current.audience users
  let recipientIds := recipients collate users
  require (input.expectedRecipientCount = some (recipientIds.length : ℤ))
    (.conflict "broadcast_audience_changed")
  pure recipientIds

/-- `confirm`, for a broadcast that is not confirmed yet. -/
def confirmDraft (isWord : Char → Bool) (s : BroadcastService) (current : StoredBroadcast)
    (principal : Principal) (input : ConfirmBroadcast) (c : Circumstances) :
    Outcome (Outcome BroadcastView × BroadcastService) := do
  let recipientIds ← precheckConfirm collate current principal input c.users
  pure (s.emit isWord (confirmed current recipientIds c.now) none
    (confirmKey (input.idempotencyKey.getD "")) c)

def confirm (isWord : Char → Bool) (s : BroadcastService) (id : String) (principal : Principal)
    (input : ConfirmBroadcast) (c : Circumstances) :
    Outcome (Outcome BroadcastView × BroadcastService) := do
  assertAuthor principal
  let current ← demand (s.broadcasts.get id) (.notFound "broadcast_not_found")
  require (current.authorId = principal.userId) (.notFound "broadcast_not_found")
  if current.state = .CONFIRMED then do
    require (∃ key ∈ input.idempotencyKey, key ≠ "" ∧ s.requests.get (confirmKey key) = some id)
      (.conflict "broadcast_already_confirmed")
    pure (.ok current.toBroadcastView, s)
  else s.confirmDraft collate isWord current principal input c

def cancelled (now : Instant) : StoredBroadcast :=
  { current with state := .CANCELLED, version := current.version + 1, cancelledAt := some now }

def ownedDraft (id : String) (principal : Principal) : Outcome StoredBroadcast := do
  assertAuthor principal
  let record ← demand (s.broadcasts.get id) (.notFound "broadcast_not_found")
  require (record.authorId = principal.userId) (.notFound "broadcast_not_found")
  require (record.state = .DRAFT) (.conflict "broadcast_immutable")
  pure record

def cancel (id : String) (principal : Principal) (input : CancelBroadcast) (c : Circumstances) :
    Outcome (BroadcastView × BroadcastService) := do
  let current ← s.ownedDraft id principal
  let reason := trimmed input.reason
  require (3 ≤ length reason ∧ length reason ≤ 500 ∧
      input.expectedVersion = some (current.version : ℤ))
    (.badRequest "broadcast_cancellation_invalid")
  let record := cancelled current c.now
  pure (record.toBroadcastView, { s with broadcasts := s.broadcasts.set id record })

/-- What `correct` asks of its input. -/
def Correctable (input : CorrectBroadcast) : Prop :=
  3 ≤ length (trimmed input.reason) ∧ length (trimmed input.reason) ≤ 500 ∧
    3 ≤ length (trimmed input.title) ∧ length (trimmed input.title) ≤ 120 ∧
    3 ≤ length (trimmed input.content) ∧ length (trimmed input.content) ≤ 4000 ∧
    isRequestId (trimmed input.clientRequestId)
deriving Decidable

/-- The correction that `correct` makes. -/
def correction (original : StoredBroadcast) (id : String) (principal : Principal)
    (input : CorrectBroadcast) (c : Circumstances) : StoredBroadcast where
  id := c.randomUUID
  title := trimmed input.title
  content := trimmed input.content
  authorId := principal.userId
  state := .CONFIRMED
  version := 1
  recipientCount := original.recipientCount
  createdAt := c.now
  confirmedAt := some c.now
  correctionOf := some id
  audience := original.audience
  recipientIds := original.recipientIds

def correct (isWord : Char → Bool) (s : BroadcastService) (id : String) (principal : Principal)
    (input : CorrectBroadcast) (c : Circumstances) :
    Outcome (Outcome BroadcastView × BroadcastService) := do
  assertAuthor principal
  let original ← demand (s.broadcasts.get id) (.notFound "broadcast_not_found")
  require (original.state = .CONFIRMED ∧
      (isAdmin principal ∨ original.authorId = principal.userId)) (.notFound "broadcast_not_found")
  require (Correctable input) (.badRequest "broadcast_correction_invalid")
  let key := correctionKey id (trimmed input.clientRequestId)
  match s.requests.get key with
  | some known => do
    let view ← s.known known
    pure (.ok view, s)
  | none => pure (s.emit isWord (correction original id principal input c) (some id) key c)

end BroadcastService

open BroadcastService

inductive Call
  | create (principal : Principal) (input : CreateBroadcast)
  | confirm (id : String) (principal : Principal) (input : ConfirmBroadcast)
  | cancel (id : String) (principal : Principal) (input : CancelBroadcast)
  | correct (id : String) (principal : Principal) (input : CorrectBroadcast)

def Call.principal : Call → Principal
  | create principal _ => principal
  | confirm _ principal _ => principal
  | cancel _ principal _ => principal
  | correct _ principal _ => principal

variable (collate : String → String → Bool)

/-- What a call does, when it gets past its checks: its answer and the memory it leaves. -/
def Call.handle (isWord : Char → Bool) (s : BroadcastService) (c : Circumstances) :
    Call → Outcome (Outcome BroadcastView × BroadcastService)
  | create principal input => (fun r => (.ok r.1, r.2)) <$> s.create collate principal input c
  | confirm id principal input => s.confirm collate isWord id principal input c
  | cancel id principal input => (fun r => (.ok r.1, r.2)) <$> s.cancel id principal input c
  | correct id principal input => s.correct isWord id principal input c

/-- The service, as a machine; a call that its checks refuse leaves the memory as it was. -/
def service (isWord : Char → Bool) :
    Machine BroadcastService (Call × Circumstances) (Outcome BroadcastView) where
  step s a :=
    match a.1.handle collate isWord s a.2 with
    | .ok r => r
    | .error e => (.error e, s)

section

variable {collate : String → String → Bool} {isWord : Char → Bool} {s s' : BroadcastService}
  {call : Call} {c : Circumstances} {answer : Outcome BroadcastView}

theorem service_ok (h : call.handle collate isWord s c = .ok (answer, s')) :
    (service collate isWord).answer s (call, c) = answer ∧
      (service collate isWord).next s (call, c) = s' := by
  simp only [Machine.answer, Machine.next, service, h, and_self]

theorem service_error {e : Failure} (h : call.handle collate isWord s c = .error e) :
    (service collate isWord).answer s (call, c) = .error e ∧
      (service collate isWord).next s (call, c) = s := by
  simp only [Machine.answer, Machine.next, service, h, and_self]

end

/-! ### Keys -/

theorem createKey_ne_confirmKey {userId : String} (h : isUuidText userId = true)
    (requestId key : String) : createKey userId requestId ≠ confirmKey key := by
  intro heq
  have hlist : userId.toList ++ ':' :: requestId.toList = "confirm".toList ++ ':' :: key.toList := by
    have htext := congrArg String.toList heq
    simpa [createKey, confirmKey, String.toList_append] using htext
  have hhead := (parts_eq_of_first (colon_notMem_uuid h) (by decide) hlist).1
  have hlen := (chars_of_uuid h).2
  rw [hhead] at hlen
  cases hlen

theorem correctionKey_ne_confirmKey (id requestId key : String) :
    correctionKey id requestId ≠ confirmKey key := by
  intro heq
  delta correctionKey at heq
  have htext := congrArg String.toList heq
  simp [confirmKey, String.toList_append] at htext

theorem toList_recipientKey (broadcastId recipientId : String) :
    (recipientKey broadcastId recipientId).toList =
      "broadcast:".toList ++ (broadcastId.toList ++ (":recipient:".toList ++ recipientId.toList)) := by
  delta recipientKey
  simp only [String.toList_append, append_assoc]

theorem recipientKey_inj {id id' r r' : String} (h : isUuidText id = true)
    (h' : isUuidText id' = true) (heq : recipientKey id r = recipientKey id' r') :
    id = id' ∧ r = r' := by
  have htext := congrArg String.toList heq
  rw [toList_recipientKey, toList_recipientKey, append_cancel_left_eq] at htext
  have hlen : id.toList.length = id'.toList.length :=
    (chars_of_uuid h).2.trans (chars_of_uuid h').2.symm
  obtain ⟨hid, hrest⟩ := append_inj htext hlen
  exact ⟨String.ext hid, String.ext (append_cancel_left hrest)⟩

/-- **What is published is valid**: identifiers make a key and an address. -/
theorem valid_notification {isWord : Char → Bool} (hword : ∀ c, isAlnum c → isWord c)
    {id r : String} (hid : isUuidText id = true) (hr : isUuidText r = true)
    (correctionOf : Option String) :
    Valid isWord (notification id correctionOf r) (recipientKey id r) := by
  obtain ⟨hchars, hlen⟩ := chars_of_uuid hid
  obtain ⟨hchars', hlen'⟩ := chars_of_uuid hr
  have hne : ∀ {text : String}, text.toList.length = 36 → text ≠ "" := by
    rintro _ htext rfl
    cases htext
  refine ⟨?_, hne hlen', hne hlen, ?_, ?_⟩
  · change (if correctionOf.isSome then "BROADCAST_CORRECTION" else "BROADCAST") ∈ _
    split <;> decide
  · refine isDeduplicationKey_of_chars hword (fun c hc => ?_) ?_ ?_
    · rw [toList_recipientKey] at hc
      have hliteral : ∀ c ∈ "broadcast:".toList ++ ":recipient:".toList,
          isAlnum c || c == '-' || c == ':' := by decide
      simp only [mem_append] at hc
      rcases hc with hc | hc | hc | hc
      · rw [hliteral c (mem_append_left _ hc), Bool.true_or]
      · rw [hchars c hc, Bool.true_or, Bool.true_or]
      · rw [hliteral c (mem_append_right _ hc), Bool.true_or]
      · rw [hchars' c hc, Bool.true_or, Bool.true_or]
    · rw [toList_recipientKey]
      simp only [length_append, hlen, hlen']
      decide
    · rw [toList_recipientKey]
      simp only [length_append, hlen, hlen']
      decide
  · have hpath := isPath_of_uuid hid (.inl rfl)
    rw [append_nil] at hpath
    refine @isHref_of_path "/broadcasts/" _ _ (by decide) ?_ hpath
    simp only [notification, String.toList_append]

/-! ### What a publication does to the notifications -/

/-- The memory of the notifications, when broadcasts are all it has heard of: every one is known
under the key of its broadcast and of its recipient. -/
structure Indexed (m : Memory) : Prop where
  keyed : ∀ i n, m.notifications.get i = some n →
    m.deduplication.get (recipientKey n.resourceId n.recipientId) = some i ∧
      isUuidText n.resourceId = true
  known : ∀ key i, m.deduplication.get key = some i →
    ∃ n, m.notifications.get i = some n ∧ key = recipientKey n.resourceId n.recipientId

section

variable {isWord : Char → Bool} {m m' : Memory} {c : Circumstances} {id r : String}
  {correctionOf : Option String}

/-- **One notification of a publication**: it is there afterwards, and nothing else is new. -/
theorem Indexed.create (hword : ∀ c, isAlnum c → isWord c) (hm : Indexed m)
    (hid : isUuidText id = true) (hr : isUuidText r = true)
    (hfresh : m.notifications.get (c.notificationId r) = none ∨
      (m.deduplication.get (recipientKey id r)).isSome) :
    ∃ n m', m.create isWord (notification id correctionOf r) (recipientKey id r)
        (c.notificationId r) c.now = .ok (n, m') ∧ Indexed m' ∧
      (∀ i n, m.notifications.get i = some n → m'.notifications.get i = some n) ∧
      (∀ i n, m'.notifications.get i = some n → m.notifications.get i = some n ∨
        i = c.notificationId r ∧ n.resourceId = id ∧ n.recipientId = r) ∧
      (∃ i n, m'.notifications.get i = some n ∧ n.resourceId = id ∧ n.recipientId = r) ∧
      ∀ key, (m.deduplication.get key).isSome ∨ key = recipientKey id r →
        (m'.deduplication.get key).isSome := by
  have hvalid := valid_notification hword hid hr correctionOf
  cases hknown : m.deduplication.get (recipientKey id r) with
  | some i =>
    obtain ⟨n, hn, hkey⟩ := hm.known _ i hknown
    obtain ⟨rfl, rfl⟩ := recipientKey_inj hid (hm.keyed i n hn).2 hkey
    refine ⟨n, m, ?_, hm, fun _ _ h => h, fun _ _ h => .inl h, ⟨i, n, hn, rfl, rfl⟩, ?_⟩
    · simp only [Memory.create, require_pos hvalid, ok_bind, hknown, hn, demand_some]
      rfl
    · rintro key (hkey | rfl)
      · exact hkey
      · rw [hknown]
        rfl
  | none =>
    have hnew : m.notifications.get (c.notificationId r) = none :=
      hfresh.resolve_right (by rw [hknown]; simp)
    let n := m.made (notification id correctionOf r) (c.notificationId r) c.now
    refine ⟨n, { m with lastCreatedAtMs := n.createdAt }.keep n (recipientKey id r), ?_, ⟨?_, ?_⟩,
      ?_, ?_, ⟨c.notificationId r, n, get_set_self _ _ _, rfl, rfl⟩, ?_⟩
    · simp only [Memory.create, require_pos hvalid, ok_bind, hknown]
      rfl
    · intro i n' hn'
      simp only [Memory.keep, get_set] at hn' ⊢
      split at hn'
      · rename_i hi
        cases hn'
        refine ⟨?_, hid⟩
        rw [hi]
        exact if_pos rfl
      · obtain ⟨hkey, huuid⟩ := hm.keyed i n' hn'
        refine ⟨?_, huuid⟩
        rw [if_neg]
        · exact hkey
        · intro heq
          rw [heq, hknown] at hkey
          cases hkey
    · intro key i hi
      simp only [Memory.keep, get_set] at hi ⊢
      split at hi
      · rename_i hkey
        cases hi
        exact ⟨n, if_pos rfl, hkey⟩
      · obtain ⟨n', hn', hkey⟩ := hm.known key i hi
        refine ⟨n', ?_, hkey⟩
        rw [if_neg]
        · exact hn'
        · rintro rfl
          rw [show n.id = c.notificationId r from rfl, hnew] at hn'
          cases hn'
    · intro i n' hn'
      rw [Memory.keep, get_set_of_ne]
      · exact hn'
      · rintro rfl
        rw [show n.id = c.notificationId r from rfl, hnew] at hn'
        cases hn'
    · intro i n' hn'
      rw [Memory.keep, get_set] at hn'
      split at hn'
      · rename_i hi
        cases hn'
        exact .inr ⟨hi, rfl, rfl⟩
      · exact .inl hn'
    · intro key hkey
      simp only [Memory.keep, get_set]
      split
      · rfl
      · rename_i hne
        exact hkey.resolve_right hne

/-- **A publication notifies the recipients it is given, and nobody else.** -/
theorem publish_spec (hword : ∀ c, isAlnum c → isWord c) (hid : isUuidText id = true)
    (hinj : Function.Injective c.notificationId) {recipientIds : List String}
    (hids : ∀ r ∈ recipientIds, isUuidText r = true) {m : Memory} (hm : Indexed m)
    (hfresh : ∀ r, m.notifications.get (c.notificationId r) = none ∨
      (m.deduplication.get (recipientKey id r)).isSome) :
    let p := publish isWord id correctionOf c m recipientIds
    p.1 = .ok () ∧ Indexed p.2 ∧
      (∀ i n, m.notifications.get i = some n → p.2.notifications.get i = some n) ∧
      (∀ i n, p.2.notifications.get i = some n → m.notifications.get i = some n ∨
        n.resourceId = id ∧ n.recipientId ∈ recipientIds) ∧
      ∀ r ∈ recipientIds, ∃ i n, p.2.notifications.get i = some n ∧ n.resourceId = id ∧
        n.recipientId = r := by
  induction recipientIds generalizing m with
  | nil =>
    exact ⟨rfl, hm, fun _ _ h => h, fun _ _ h => .inl h, fun r hr => absurd hr not_mem_nil⟩
  | cons r recipientIds ih =>
    obtain ⟨n, m', hcreate, hm', hkept, hnew, ⟨i, n', hn', hresource, hrecipient⟩, hkeys⟩ :=
      @Indexed.create isWord m c id r correctionOf hword hm hid (hids r mem_cons_self)
        (hfresh r)
    have hfresh' : ∀ r', m'.notifications.get (c.notificationId r') = none ∨
        (m'.deduplication.get (recipientKey id r')).isSome := by
      intro r'
      by_cases hr' : r' = r
      · exact .inr (hkeys _ (.inr (by rw [hr'])))
      · rcases hfresh r' with hnone | hknown
        · refine .inl (eq_none_iff_forall_ne_some.mpr fun x hx => ?_)
          rcases hnew _ x hx with hx | ⟨heq, -⟩
          · rw [hnone] at hx
            cases hx
          · exact hr' (hinj heq)
        · exact .inr (hkeys _ (.inl hknown))
    obtain ⟨hok, hindexed, hkept', hnew', hall⟩ :=
      ih (fun r' hr' => hids r' (mem_cons_of_mem r hr')) hm' hfresh'
    simp only [publish, hcreate]
    refine ⟨hok, hindexed, fun i n h => hkept' i n (hkept i n h), fun i n h => ?_, fun r' hr' => ?_⟩
    · rcases hnew' i n h with h | ⟨h1, h2⟩
      · rcases hnew i n h with h | ⟨-, h1, h2⟩
        · exact .inl h
        · exact .inr ⟨h1, by rw [h2]; exact mem_cons_self⟩
      · exact .inr ⟨h1, mem_cons_of_mem r h2⟩
    · rcases mem_cons.mp hr' with rfl | hr'
      · exact ⟨i, n', hkept' i n' hn', hresource, hrecipient⟩
      · exact hall r' hr'

end

/-! ### What a call does -/

/-- What the world promises: identifiers that are drawn are new, and users and broadcasts have
identifiers. -/
structure Promised (s : BroadcastService) (a : Call × Circumstances) : Prop where
  fresh : s.broadcasts.get a.2.randomUUID = none
  drawn : isUuidText a.2.randomUUID = true
  author : isUuidText a.1.principal.userId = true
  users : ∀ user ∈ a.2.users, isUuidText user.id = true
  apart : Function.Injective a.2.notificationId
  unused : ∀ r, s.notifications.notifications.get (a.2.notificationId r) = none

/-- **What every reachable memory keeps.** -/
structure Sound (s : BroadcastService) : Prop where
  identified : ∀ id b, s.broadcasts.get id = some b → b.id = id ∧ isUuidText id = true
  addressed : ∀ id b, s.broadcasts.get id = some b → ∀ r ∈ b.recipientIds, isUuidText r = true
  requested : ∀ key id, s.requests.get key = some id → ∃ b, s.broadcasts.get id = some b
  indexed : Indexed s.notifications
  /-- Nobody else is notified. -/
  meant : ∀ i n, s.notifications.notifications.get i = some n →
    ∃ b, s.broadcasts.get n.resourceId = some b ∧ b.state = .CONFIRMED ∧
      n.recipientId ∈ b.recipientIds
  /-- Every recipient is notified. -/
  reached : ∀ id b, s.broadcasts.get id = some b → b.state = .CONFIRMED →
    ∀ r ∈ b.recipientIds, ∃ i n, s.notifications.notifications.get i = some n ∧
      n.resourceId = id ∧ n.recipientId = r

/-- **What a call may do to the memory.** -/
inductive Move (s : BroadcastService) : BroadcastService → Prop
  | same : Move s s
  /-- A draft is stored, under a key that led nowhere. -/
  | drafted (record : StoredBroadcast) (key : String)
    (hfresh : s.broadcasts.get record.id = none) (hid : isUuidText record.id = true)
    (hstate : record.state = .DRAFT) (hnobody : record.recipientIds = [])
    (hkey : s.requests.get key = none) : Move s (s.store record key)
  /-- A draft is cancelled. -/
  | cancelled (id : String) (current record : StoredBroadcast)
    (hcur : s.broadcasts.get id = some current) (hdraft : current.state ≠ .CONFIRMED)
    (hid : record.id = current.id) (hstate : record.state = .CANCELLED)
    (hsame : record.recipientIds = current.recipientIds) :
    Move s { s with broadcasts := s.broadcasts.set id record }
  /-- A broadcast is confirmed, or a correction is stored, and published: the key is that of a
  confirmation, or led nowhere. -/
  | emitted (record : StoredBroadcast) (key : String) (m : Memory)
    (hcur : ∀ current, s.broadcasts.get record.id = some current →
      current.state ≠ .CONFIRMED)
    (hid : isUuidText record.id = true) (hstate : record.state = .CONFIRMED)
    (hids : ∀ r ∈ record.recipientIds, isUuidText r = true)
    (hkey : s.requests.get key = none ∨ ∃ k, key = confirmKey k ∧
      ∀ other, s.requests.get key = some other → other = record.id)
    (hindexed : Indexed m)
    (hkept : ∀ i n, s.notifications.notifications.get i = some n → m.notifications.get i = some n)
    (hnew : ∀ i n, m.notifications.get i = some n →
      s.notifications.notifications.get i = some n ∨
        n.resourceId = record.id ∧ n.recipientId ∈ record.recipientIds)
    (hall : ∀ r ∈ record.recipientIds, ∃ i n, m.notifications.get i = some n ∧
      n.resourceId = record.id ∧ n.recipientId = r) :
    Move s { s.store record key with notifications := m }

variable {record : StoredBroadcast}

section

variable {collate : String → String → Bool} {isWord : Char → Bool} {s s' : BroadcastService}

theorem sound_empty : Sound {} where
  identified := fun _ _ h => by cases h
  addressed := fun _ _ h => by cases h
  requested := fun _ _ h => by cases h
  indexed := ⟨fun _ _ h => (by cases h), fun _ _ h => (by cases h)⟩
  meant := fun _ _ h => by cases h
  reached := fun _ _ h => by cases h

variable {b : StoredBroadcast}

/-- **A confirmed broadcast stays as it is.** -/
theorem Move.frozen (h : Move s s') {id : String} (hb : s.broadcasts.get id = some b)
    (hstate : b.state = .CONFIRMED) : s'.broadcasts.get id = some b := by
  cases h with
  | same => exact hb
  | drafted record key hfresh =>
    refine (get_set_of_ne _ _ ?_).trans hb
    rintro rfl
    rw [hfresh] at hb
    cases hb
  | cancelled id' current record hcur hdraft =>
    refine (get_set_of_ne _ _ ?_).trans hb
    rintro rfl
    obtain rfl := mem_unique hb hcur
    exact hdraft hstate
  | emitted record key m hcur =>
    refine (get_set_of_ne _ _ ?_).trans hb
    rintro rfl
    exact hcur b hb hstate

theorem Move.requests_kept (h : Move s s') {key id : String} (hkey : s.requests.get key = some id)
    (hkind : ∀ k, key ≠ confirmKey k) : s'.requests.get key = some id := by
  have hset : ∀ key' id', s.requests.get key' = none ∨ (∃ k, key' = confirmKey k) →
      (s.requests.set key' id').get key = some id := by
    intro key' id' hkey'
    refine (get_set_of_ne _ _ ?_).trans hkey
    rintro rfl
    rcases hkey' with hnone | ⟨k, hk⟩
    · rw [hnone] at hkey
      cases hkey
    · exact hkind k hk
  cases h with
  | same => exact hkey
  | drafted record key' hfresh hid hstate hnobody hnone => exact hset key' _ (.inl hnone)
  | cancelled => exact hkey
  | emitted record key' m hcur hid hstate hids hkey' =>
    exact hset key' _ (hkey'.imp_right fun ⟨k, hk, _⟩ => ⟨k, hk⟩)

theorem Move.confirmation_kept (h : Move s s') {key id : String}
    (hkey : s.requests.get (confirmKey key) = some id) (hb : s.broadcasts.get id = some b)
    (hstate : b.state = .CONFIRMED) : s'.requests.get (confirmKey key) = some id := by
  cases h with
  | same => exact hkey
  | drafted record key' hfresh hid hdraft hnobody hnone =>
    refine (get_set_of_ne _ _ ?_).trans hkey
    rintro rfl
    rw [hnone] at hkey
    cases hkey
  | cancelled => exact hkey
  | emitted record key' m hcur hid hconf hids hkey' =>
    refine (get_set_of_ne _ _ ?_).trans hkey
    rintro rfl
    rcases hkey' with hnone | ⟨_, -, hown⟩
    · rw [hnone] at hkey
      cases hkey
    · obtain rfl := hown id hkey
      exact hcur b hb hstate

theorem get_store {id : String} (h : (s.broadcasts.set record.id record).get id = some b) :
    (id = record.id ∧ b = record) ∨ id ≠ record.id ∧ s.broadcasts.get id = some b := by
  rw [get_set] at h
  split at h
  · rename_i hid
    exact .inl ⟨hid, (some.inj h).symm⟩
  · rename_i hid
    exact .inr ⟨hid, h⟩

theorem requested_store (hs : Sound s) {key key' id : String}
    (h : (s.store record key).requests.get key' = some id) :
    ∃ b, (s.store record key).broadcasts.get id = some b := by
  simp only [store, get_set] at h ⊢
  split
  · exact ⟨record, rfl⟩
  · rename_i hid
    split at h
    · exact absurd (some.inj h).symm hid
    · exact hs.requested key' id h

/-- **A call keeps what every reachable memory keeps.** -/
theorem Sound.move (hs : Sound s) (h : Move s s') : Sound s' := by
  have hfrozen := fun id b => @Move.frozen s s' b h id
  cases h with
  | same => exact hs
  | drafted record key hfresh hid hstate hnobody hkey =>
    refine ⟨fun id b hb => ?_, fun id b hb => ?_, fun key' id h => requested_store hs h, hs.indexed,
      fun i n hn => ?_, fun id b hb hconf => ?_⟩
    · rcases get_store hb with ⟨rfl, rfl⟩ | ⟨-, hb⟩
      · exact ⟨rfl, hid⟩
      · exact hs.identified id b hb
    · rcases get_store hb with ⟨rfl, rfl⟩ | ⟨-, hb⟩
      · rw [hnobody]
        exact fun r hr => absurd hr not_mem_nil
      · exact hs.addressed id b hb
    · obtain ⟨b, hb, hconf, hmem⟩ := hs.meant i n hn
      exact ⟨b, hfrozen _ b hb hconf, hconf, hmem⟩
    · rcases get_store hb with ⟨rfl, rfl⟩ | ⟨-, hb⟩
      · rw [hstate] at hconf
        cases hconf
      · exact hs.reached id b hb hconf
  | cancelled id' current record hcur hdraft hid hstate hsame =>
    have hget : ∀ id b, (s.broadcasts.set id' record).get id = some b →
        (id = id' ∧ b = record) ∨ s.broadcasts.get id = some b := by
      intro id b hb
      rw [get_set] at hb
      split at hb
      · rename_i heq
        exact .inl ⟨heq, (some.inj hb).symm⟩
      · exact .inr hb
    refine ⟨fun id b hb => ?_, fun id b hb => ?_, fun key id h => ?_, hs.indexed,
      fun i n hn => ?_, fun id b hb hconf => ?_⟩
    · rcases hget id b hb with ⟨rfl, rfl⟩ | hb
      · rw [hid]
        exact hs.identified _ current hcur
      · exact hs.identified id b hb
    · rcases hget id b hb with ⟨rfl, rfl⟩ | hb
      · rw [hsame]
        exact hs.addressed _ current hcur
      · exact hs.addressed id b hb
    · obtain ⟨b, hb⟩ := hs.requested key id h
      simp only [get_set]
      split
      · exact ⟨record, rfl⟩
      · exact ⟨b, hb⟩
    · obtain ⟨b, hb, hconf, hmem⟩ := hs.meant i n hn
      exact ⟨b, hfrozen _ b hb hconf, hconf, hmem⟩
    · rcases hget id b hb with ⟨rfl, rfl⟩ | hb
      · rw [hstate] at hconf
        cases hconf
      · exact hs.reached id b hb hconf
  | emitted record key m hcur hid hstate hids hkey hindexed hkept hnew hall =>
    refine ⟨fun id b hb => ?_, fun id b hb => ?_, fun key' id h => requested_store hs h, hindexed,
      fun i n hn => ?_, fun id b hb hconf => ?_⟩
    · rcases get_store hb with ⟨rfl, rfl⟩ | ⟨-, hb⟩
      · exact ⟨rfl, hid⟩
      · exact hs.identified id b hb
    · rcases get_store hb with ⟨rfl, rfl⟩ | ⟨-, hb⟩
      · exact hids
      · exact hs.addressed id b hb
    · rcases hnew i n hn with hn | ⟨hresource, hmem⟩
      · obtain ⟨b, hb, hconf, hmem⟩ := hs.meant i n hn
        exact ⟨b, hfrozen _ b hb hconf, hconf, hmem⟩
      · refine ⟨record, ?_, hstate, hmem⟩
        rw [hresource]
        exact get_set_self _ _ _
    · rcases get_store hb with ⟨rfl, rfl⟩ | ⟨-, hb⟩
      · exact hall
      · intro r hr
        obtain ⟨i, n, hn, h1, h2⟩ := hs.reached id b hb hconf r hr
        exact ⟨i, n, hkept i n hn, h1, h2⟩

end

/-! ### Delivery along a run -/

def notified (s : BroadcastService) (id r : String) : ℕ :=
  s.notifications.notifications.entries.count fun e => e.2.resourceId = id ∧ e.2.recipientId = r

/-- **A confirmed broadcast has notified each recipient of its snapshot once, and nobody else; one
that is a draft or is cancelled has notified nobody.** -/
def Delivered (s : BroadcastService) : Prop :=
  ∀ id b, s.broadcasts.get id = some b →
    ∀ r, notified s id r = if b.state = .CONFIRMED ∧ r ∈ b.recipientIds then 1 else 0

variable (collate : String → String → Bool)

/-- The call leaves the confirmed broadcasts, and their snapshots, as they are. -/
def Freezes (isWord : Char → Bool) (s : BroadcastService) (a : Call × Circumstances) : Prop :=
  ∀ id b, s.broadcasts.get id = some b → b.state = .CONFIRMED →
    ((service collate isWord).next s a).broadcasts.get id = some b

/-- The second call repeats the first one, which is no cancellation; a draft is asked for again
while the users are the same. -/
def Repeats (a a' : Call × Circumstances) : Prop :=
  a'.1 = a.1 ∧ (∀ principal input, a.1 = .create principal input → a'.2.users = a.2.users) ∧
    ∀ id principal input, a.1 ≠ .cancel id principal input

/-- **Repeating a call that has succeeded** answers the same broadcast and does nothing, whatever
other calls came in between. -/
def Repeatable (isWord : Char → Bool) (s : BroadcastService) (as : List (Call × Circumstances)) :
    Prop :=
  ∀ pre a mid a' post, as = pre ++ a :: (mid ++ a' :: post) → Repeats a a' →
    ∀ view, (service collate isWord).answer ((service collate isWord).run s pre) a = .ok view →
      let s' := (service collate isWord).run s (pre ++ a :: mid)
      ∃ view', (service collate isWord).answer s' a' = .ok view' ∧ view'.id = view.id ∧
        (service collate isWord).next s' a' = s'

/-- **What keeps a confirmation repeatable**: when it gets past its checks, no other broadcast has
been confirmed under its key. -/
def OwnConfirmation (s : BroadcastService) :
    Call → Circumstances → Prop
  | .confirm id principal input, c =>
    assertAuthor principal = .ok () →
      ∀ current, s.broadcasts.get id = some current → current.authorId = principal.userId →
        current.state ≠ .CONFIRMED → ∀ recipientIds,
          precheckConfirm collate current principal input c.users =
              .ok recipientIds →
            ∀ other, s.requests.get (confirmKey (input.idempotencyKey.getD "")) = some other →
              other = id
  | _, _ => True

section

variable {collate : String → String → Bool} {isWord : Char → Bool} {s s' : BroadcastService}
  {c : Circumstances}

variable {principal : Principal}

theorem precheckConfirm_ok {current : StoredBroadcast}
    {input : ConfirmBroadcast} {users : List Collaborator} {recipientIds : List String}
    (h : precheckConfirm collate current principal input users = .ok recipientIds) :
    isRequestId (input.idempotencyKey.getD "") = true ∧
      ∀ r ∈ recipientIds, ∃ user ∈ users, user.id = r := by
  simp only [precheckConfirm, ok_iff] at h
  obtain ⟨_, ⟨-, -, -, hkey⟩, audience, haudience, _, -, rfl⟩ := h
  simp only [resolveAudience, ok_iff] at haudience
  obtain ⟨_, -, _, -, _, -, rfl⟩ := haudience
  refine ⟨hkey, fun r hr => ?_⟩
  rw [recipients, mem_insertionSort] at hr
  obtain ⟨user, huser, rfl⟩ := mem_map.mp hr
  exact ⟨user, (mem_filter.mp huser).1, rfl⟩

/-- **What a confirmation does**: its key answers it, or it confirms a draft. -/
theorem confirm_ok {id : String} {input : ConfirmBroadcast}
    {answer : Outcome BroadcastView}
    (h : s.confirm collate isWord id principal input c = .ok (answer, s')) :
    assertAuthor principal = .ok () ∧
      ∃ current, s.broadcasts.get id = some current ∧ current.authorId = principal.userId ∧
        ((current.state = .CONFIRMED ∧ (∃ key ∈ input.idempotencyKey, key ≠ "" ∧
              s.requests.get (confirmKey key) = some id) ∧
            answer = .ok current.toBroadcastView ∧ s' = s) ∨
          current.state ≠ .CONFIRMED ∧ ∃ recipientIds,
            precheckConfirm collate current principal input c.users = .ok recipientIds ∧
              s.emit isWord (confirmed current recipientIds c.now) none
                (confirmKey (input.idempotencyKey.getD "")) c = (answer, s')) := by
  simp only [confirm, ok_iff] at h
  obtain ⟨_, hauthor, current, hcur, _, hown, h⟩ := h
  refine ⟨hauthor, current, hcur, hown, ?_⟩
  split at h
  · rename_i hstate
    simp only [ok_iff] at h
    obtain ⟨_, hkey, rfl, rfl⟩ := h
    exact .inl ⟨hstate, hkey, rfl, rfl⟩
  · rename_i hstate
    simp only [confirmDraft, ok_iff] at h
    obtain ⟨recipientIds, hprecheck, h⟩ := h
    exact .inr ⟨hstate, recipientIds, hprecheck, h⟩

/-- **What a correction does**: its key answers it, or it emits a correction. -/
theorem correct_ok {id : String} {input : CorrectBroadcast}
    {answer : Outcome BroadcastView}
    (h : s.correct isWord id principal input c = .ok (answer, s')) :
    assertAuthor principal = .ok () ∧
      ∃ original, s.broadcasts.get id = some original ∧ original.state = .CONFIRMED ∧
        (isAdmin principal ∨ original.authorId = principal.userId) ∧
        Correctable input ∧
        let key := correctionKey id (trimmed input.clientRequestId)
        ((∃ known view, s.requests.get key = some known ∧ s.known known = .ok view ∧
            answer = .ok view ∧ s' = s) ∨
          s.requests.get key = none ∧
            s.emit isWord (correction original id principal input c) (some id)
              key c = (answer, s')) := by
  simp only [correct, ok_iff] at h
  obtain ⟨_, hauthor, original, horiginal, _, ⟨hstate, hown⟩, _, hinput, h⟩ := h
  refine ⟨hauthor, original, horiginal, hstate, hown, hinput, ?_⟩
  split at h
  · rename_i known hknown
    simp only [ok_iff] at h
    obtain ⟨view, hview, rfl, rfl⟩ := h
    exact .inl ⟨known, view, hknown, hview, rfl, rfl⟩
  · rename_i hnone
    exact .inr ⟨hnone, pure_ok_iff.mp h⟩

variable {view : BroadcastView}

/-- **What `create` does**: its key answers it, or it stores a draft. -/
theorem create_ok {input : CreateBroadcast}
    (h : s.create collate principal input c = .ok (view, s')) :
    ∃ audience, precheckCreate collate principal input c.users = .ok audience ∧
      let key := createKey principal.userId (trimmed input.clientRequestId)
      ((∃ id, s.requests.get key = some id ∧ s.known id = .ok view ∧ s' = s) ∨
        s.requests.get key = none ∧
          let record := drafted principal input audience c
          view = record.toBroadcastView ∧ s' = s.store record key) := by
  simp only [create, bind_ok_iff] at h
  obtain ⟨audience, haudience, h⟩ := h
  refine ⟨audience, haudience, ?_⟩
  split at h
  · rename_i id hid
    simp only [ok_iff] at h
    obtain ⟨view, hview, rfl, rfl⟩ := h
    exact .inl ⟨id, hid, hview, rfl⟩
  · rename_i hnone
    rw [pure_ok_iff, Prod.mk.injEq] at h
    exact .inr ⟨hnone, h.1.symm, h.2.symm⟩

theorem known_ok (hs : Sound s) {id : String} (h : s.known id = .ok view) : view.id = id := by
  simp only [known, ok_iff] at h
  obtain ⟨b, hb, rfl⟩ := h
  exact (hs.identified id b hb).1

/-- **What is emitted is delivered.** -/
theorem move_of_emit (hword : ∀ c, isAlnum c → isWord c) (hs : Sound s)
    (hinj : Function.Injective c.notificationId)
    (hunused : ∀ r, s.notifications.notifications.get (c.notificationId r) = none)
    (correctionOf : Option String) {key : String}
    (hcur : ∀ current, s.broadcasts.get record.id = some current → current.state ≠ .CONFIRMED)
    (hid : isUuidText record.id = true) (hstate : record.state = .CONFIRMED)
    (hids : ∀ r ∈ record.recipientIds, isUuidText r = true)
    (hkey : s.requests.get key = none ∨ ∃ k, key = confirmKey k ∧
      ∀ other, s.requests.get key = some other → other = record.id) :
    (s.emit isWord record correctionOf key c).1 = .ok record.toBroadcastView ∧
      Move s (s.emit isWord record correctionOf key c).2 := by
  obtain ⟨hok, hindexed, hkept, hnew, hall⟩ := @publish_spec isWord c record.id correctionOf hword
    hid hinj record.recipientIds hids s.notifications hs.indexed fun r => .inl (hunused r)
  refine ⟨?_, ?_⟩
  · simp only [emit, hok]
    rfl
  · exact .emitted record key _ hcur hid hstate hids hkey hindexed hkept hnew hall

variable {a : Call × Circumstances}

/-- **Every call is a move**, when the confirmations keep their keys apart. -/
theorem move_next (hword : ∀ c, isAlnum c → isWord c) (hs : Sound s) (hp : Promised s a)
    (hown : OwnConfirmation collate s a.1 a.2) : Move s ((service collate isWord).next s a) := by
  obtain ⟨call, c⟩ := a
  rcases h : call.handle collate isWord s c with e | ⟨answer, s'⟩
  · rw [(service_error h).2]
    exact .same
  rw [(service_ok h).2]
  cases call with
  | create principal input =>
    obtain ⟨r, hr, he⟩ := map_ok_iff.mp h
    obtain ⟨-, rfl⟩ := Prod.mk.inj he
    obtain ⟨audience, -, ⟨_, -, -, heq⟩ | ⟨hnone, -, heq⟩⟩ := create_ok hr
    · rw [heq]
      exact .same
    · rw [heq]
      exact .drafted _ _ hp.fresh hp.drawn rfl rfl hnone
  | confirm id principal input =>
    obtain ⟨hauthor, current, hcur, howner, hcases⟩ := confirm_ok h
    rcases hcases with ⟨-, -, -, rfl⟩ | ⟨hstate, recipientIds, hprecheck, hemit⟩
    · exact .same
    · have hid := hs.identified id current hcur
      have hids : ∀ r ∈ recipientIds, isUuidText r = true := by
        intro r hr
        obtain ⟨user, huser, rfl⟩ := (precheckConfirm_ok hprecheck).2 r hr
        exact hp.users user huser
      have hmove := (@move_of_emit (confirmed current recipientIds c.now) isWord s c
        hword hs hp.apart hp.unused none
        (confirmKey (input.idempotencyKey.getD "")) (fun b hb => by
          rw [show (confirmed current recipientIds c.now).id = current.id from rfl,
            hid.1, hcur] at hb
          rwa [← some.inj hb]) (by exact hid.1 ▸ hid.2) rfl hids
        (.inr ⟨_, rfl, fun other hother =>
          (hown hauthor current hcur howner hstate recipientIds hprecheck other hother).trans
            hid.1.symm⟩)).2
      rwa [hemit] at hmove
  | cancel id principal input =>
    obtain ⟨r, hr, he⟩ := map_ok_iff.mp h
    obtain ⟨-, rfl⟩ := Prod.mk.inj he
    simp only [cancel, ownedDraft, ok_iff] at hr
    obtain ⟨_, ⟨_, -, current, hcur, _, -, _, hdraft, rfl⟩, _, -, rfl⟩ := hr
    exact .cancelled id _ _ hcur (by rw [hdraft]; decide) rfl rfl rfl
  | correct id principal input =>
    obtain ⟨-, original, horiginal, -, -, -, hcases⟩ := correct_ok h
    rcases hcases with ⟨_, _, -, -, -, rfl⟩ | ⟨hnone, hemit⟩
    · exact .same
    · have hmove := (@move_of_emit (correction original id principal input c) isWord s c
        hword hs hp.apart hp.unused (some id)
        (correctionKey id (trimmed input.clientRequestId))
        (fun b hb => absurd (hp.fresh.symm.trans hb) (by simp)) hp.drawn rfl
        (hs.addressed id original horiginal) (.inl hnone)).2
      rwa [hemit] at hmove

/-- **Every recipient is notified once, and nobody else.** -/
theorem Sound.delivered (hs : Sound s) : Delivered s := by
  intro id b hb r
  split
  · rename_i hmem
    obtain ⟨i, n, hn, rfl, rfl⟩ := hs.reached id b hb hmem.1 r hmem.2
    have hfind : s.notifications.notifications.entries.findUnique i = some (i, n) :=
      Table.findUnique_of_mem (get_eq_some.mp hn) (by simp)
    refine Table.count_eq_one_of_rows hfind ⟨rfl, rfl⟩ fun e he hsame => ?_
    have hget : s.notifications.notifications.get e.1 = some e.2 := get_eq_some.mpr he
    have hkey := (hs.indexed.keyed e.1 e.2 hget).1
    rw [hsame.1, hsame.2, (hs.indexed.keyed i n hn).1] at hkey
    simp [some.inj hkey]
  · rename_i hnot
    refine length_eq_zero_iff.mpr (eq_nil_iff_forall_not_mem.mpr fun e he => ?_)
    obtain ⟨he, hresource, hrecipient⟩ := Table.mem_findMany.mp he
    obtain ⟨b', hb', hstate, hmem⟩ := hs.meant e.1 e.2 (get_eq_some.mpr he)
    rw [hresource, hb] at hb'
    cases hb'
    exact hnot ⟨hstate, hrecipient ▸ hmem⟩

/-! ### Repeating a call -/

/-- What the success of a call has left in the memory. -/
def Recorded (collate : String → String → Bool) (s : BroadcastService) (a : Call × Circumstances)
    (view : BroadcastView) : Prop :=
  match a.1 with
  | .create principal input =>
    isUuidText principal.userId = true ∧
      (∃ audience, precheckCreate collate principal input a.2.users =
        .ok audience) ∧
      s.requests.get (createKey principal.userId
        (trimmed input.clientRequestId)) = some view.id
  | .confirm id principal input =>
    assertAuthor principal = .ok () ∧ view.id = id ∧
      ∃ b, s.broadcasts.get id = some b ∧ b.state = .CONFIRMED ∧ b.authorId = principal.userId ∧
        ∃ key ∈ input.idempotencyKey, key ≠ "" ∧ s.requests.get (confirmKey key) = some id
  | .cancel .. => True
  | .correct id principal input =>
    assertAuthor principal = .ok () ∧ Correctable input ∧
      (∃ b, s.broadcasts.get id = some b ∧ b.state = .CONFIRMED ∧
        (isAdmin principal ∨ b.authorId = principal.userId)) ∧
      s.requests.get (correctionKey id (trimmed input.clientRequestId)) =
        some view.id

theorem Recorded.move (h : Recorded collate s a view) (hmove : Move s s') :
    Recorded collate s' a view := by
  obtain ⟨call, c⟩ := a
  cases call with
  | create principal input =>
    obtain ⟨huuid, haudience, hkey⟩ := h
    exact ⟨huuid, haudience, hmove.requests_kept hkey fun k => createKey_ne_confirmKey huuid _ k⟩
  | confirm id principal input =>
    obtain ⟨hauthor, hid, b, hb, hstate, howner, key, hkey, hne, hget⟩ := h
    exact ⟨hauthor, hid, b, hmove.frozen hb hstate, hstate, howner, key, hkey, hne,
      hmove.confirmation_kept hget hb hstate⟩
  | cancel => trivial
  | correct id principal input =>
    obtain ⟨hauthor, hinput, ⟨b, hb, hstate, howner⟩, hkey⟩ := h
    exact ⟨hauthor, hinput, ⟨b, hmove.frozen hb hstate, hstate, howner⟩,
      hmove.requests_kept hkey fun k => correctionKey_ne_confirmKey _ _ k⟩

/-- **A success is recorded.** -/
theorem recorded_of_answer (hword : ∀ c, isAlnum c → isWord c) (hs : Sound s) (hp : Promised s a)
    (hown : OwnConfirmation collate s a.1 a.2)
    (hans : (service collate isWord).answer s a = .ok view) :
    Recorded collate ((service collate isWord).next s a) a view := by
  have hmove := move_next hword hs hp hown
  obtain ⟨call, c⟩ := a
  rcases h : call.handle collate isWord s c with e | ⟨answer, s'⟩
  · rw [(service_error h).1] at hans
    cases hans
  rw [(service_ok h).1] at hans
  subst hans
  rw [(service_ok h).2] at hmove ⊢
  cases call with
  | create principal input =>
    obtain ⟨r, hr, he⟩ := map_ok_iff.mp h
    obtain ⟨hview, rfl⟩ := Prod.mk.inj he
    cases hview
    obtain ⟨audience, haudience, hcases⟩ := create_ok hr
    refine ⟨hp.author, ⟨audience, haudience⟩, ?_⟩
    rcases hcases with ⟨id, hid, hknown, heq⟩ | ⟨-, hview, heq⟩
    · rw [heq, known_ok hs hknown]
      exact hid
    · rw [heq, hview]
      exact get_set_self _ _ _
  | confirm id principal input =>
    obtain ⟨hauthor, current, hcur, howner, hcases⟩ := confirm_ok h
    have hid := (hs.identified id current hcur).1
    rcases hcases with ⟨hstate, hkey, hview, rfl⟩ | ⟨hstate, recipientIds, hprecheck, hemit⟩
    · cases hview
      exact ⟨hauthor, hid, current, hcur, hstate, howner, hkey⟩
    · obtain ⟨hview, hs'⟩ := Prod.mk.inj hemit
      have hrecord : view = (confirmed current recipientIds c.now).toBroadcastView := by
        obtain ⟨_, -, hrecord⟩ := map_ok_iff.mp hview
        exact hrecord.symm
      have hrequest := (precheckConfirm_ok hprecheck).1
      have hsome : ∃ key ∈ input.idempotencyKey, key ≠ "" ∧ input.idempotencyKey.getD "" = key := by
        cases hkey : input.idempotencyKey with
        | none =>
          rw [hkey] at hrequest
          cases hrequest
        | some key =>
          refine ⟨key, rfl, ?_, rfl⟩
          rintro rfl
          rw [hkey] at hrequest
          cases hrequest
      obtain ⟨key, hmem, hne, hkey⟩ := hsome
      refine ⟨hauthor, by rw [hrecord]; exact hid,
        confirmed current recipientIds c.now, ?_, rfl, howner, key, hmem, hne, ?_⟩
      · rw [← hs']
        exact hid ▸ get_set_self _ _ _
      · rw [← hs', ← hkey, ← hid]
        exact get_set_self _ _ _
  | cancel => trivial
  | correct id principal input =>
    obtain ⟨hauthor, original, horiginal, hstate, howner, hinput, hcases⟩ := correct_ok h
    refine ⟨hauthor, hinput, ⟨original, hmove.frozen horiginal hstate, hstate, howner⟩, ?_⟩
    rcases hcases with ⟨known, view', hkey, hknown, hview, rfl⟩ | ⟨-, hemit⟩
    · cases hview
      rw [known_ok hs hknown]
      exact hkey
    · obtain ⟨hview, hs'⟩ := Prod.mk.inj hemit
      obtain ⟨_, -, rfl⟩ := map_ok_iff.mp hview
      rw [← hs']
      exact get_set_self _ _ _

/-- **What is recorded answers a repetition**, and nothing is done. -/
theorem Recorded.repeat (hs : Sound s) {a a' : Call × Circumstances} (h : Recorded collate s a view)
    (hrepeats : Repeats a a') :
    ∃ view', (service collate isWord).answer s a' = .ok view' ∧ view'.id = view.id ∧
      (service collate isWord).next s a' = s := by
  obtain ⟨_, c⟩ := a
  obtain ⟨call, c'⟩ := a'
  obtain ⟨rfl, husers, hcancel⟩ := hrepeats
  have hdone : ∀ view', call.handle collate isWord s c' = .ok (.ok view', s) →
      view'.id = view.id →
      ∃ view', (service collate isWord).answer s (call, c') = .ok view' ∧ view'.id = view.id ∧
        (service collate isWord).next s (call, c') = s := fun view' hhandle hid =>
    ⟨view', (service_ok hhandle).1, hid, (service_ok hhandle).2⟩
  cases call with
  | create principal input =>
    obtain ⟨-, ⟨audience, haudience⟩, hkey⟩ := h
    obtain ⟨b, hb⟩ := hs.requested _ _ hkey
    refine hdone b.toBroadcastView (map_ok_iff.mpr ⟨(b.toBroadcastView, s), ?_, rfl⟩)
      (hs.identified _ b hb).1
    have hsame : c'.users = c.users := husers principal input rfl
    have hprecheck : precheckCreate collate principal input c'.users =
        .ok audience := by rw [hsame]; exact haudience
    simp only [create, hprecheck, ok_bind, hkey, known, hb,
      demand_some]
    rfl
  | confirm id principal input =>
    obtain ⟨hauthor, hid, b, hb, hstate, howner, hkey⟩ := h
    refine hdone b.toBroadcastView ?_ (by rw [hid]; exact (hs.identified id b hb).1)
    simp only [Call.handle, confirm, hauthor, ok_bind, hb, demand_some,
      require_pos howner, if_pos hstate, require_pos hkey]
    rfl
  | cancel id principal input => exact absurd rfl (hcancel id principal input)
  | correct id principal input =>
    obtain ⟨hauthor, hinput, ⟨b, hb, hstate, howner⟩, hkey⟩ := h
    obtain ⟨correction, hcorrection⟩ := hs.requested _ _ hkey
    refine hdone correction.toBroadcastView ?_ (hs.identified _ correction hcorrection).1
    simp only [Call.handle, correct, hauthor, ok_bind, hb, demand_some,
      require_pos (And.intro hstate howner), require_pos hinput, hkey, known,
      hcorrection]
    rfl

/-- **Broadcasts are delivered** along every run whose confirmations keep their keys apart: each
confirmed broadcast has notified its snapshot and nobody else, the snapshot is frozen, and a call
that has succeeded may be repeated. -/
theorem delivery (hword : ∀ c, isAlnum c → isWord c) {as : List (Call × Circumstances)}
    (hp : (service collate isWord).Meets Promised {} as)
    (hown : (service collate isWord).Meets (fun s a => OwnConfirmation collate s a.1 a.2) {} as) :
    (service collate isWord).Throughout Delivered {} as ∧
      (service collate isWord).Meets (Freezes collate isWord) {} as ∧
        Repeatable collate isWord {} as := by
  have hboth := hp.and hown
  have hstep : ∀ s a, Sound s → Promised s a ∧ OwnConfirmation collate s a.1 a.2 →
      Sound ((service collate isWord).next s a) := fun s a hs h =>
    hs.move (move_next hword hs h.1 h.2)
  have hsound := Machine.throughout_of_meets hstep sound_empty hboth
  refine ⟨fun pre hpre => (hsound pre hpre).delivered, ?_, ?_⟩
  · refine (Machine.meets_congr (C := fun _ _ => True) hstep (fun s a hs h => ?_) sound_empty
      hboth).mpr (Machine.meets_of_forall _ fun _ _ => trivial)
    exact iff_of_true (fun id b hb hstate => (move_next hword hs h.1 h.2).frozen hb hstate) trivial
  · rintro pre a mid a' post rfl hrepeats view hview
    obtain ⟨hpre, ha, hrest⟩ := Machine.meets_append.mp hboth
    obtain ⟨hmid, -⟩ := Machine.meets_append.mp hrest
    have hs := hsound pre (prefix_append _ _)
    have hrecorded := recorded_of_answer hword hs ha.1 ha.2 hview
    -- what the first call has recorded stays while the others are made
    have hkept := (Machine.throughout_of_meets
      (I := fun s => Sound s ∧ Recorded collate s a view)
      (fun s b h hb => ⟨hstep s b h.1 hb, h.2.move (move_next hword h.1 hb.1 hb.2)⟩)
      ⟨hstep _ a hs ha, hrecorded⟩ hmid).last
    rw [← Machine.run_cons, ← Machine.run_append] at hkept
    exact hkept.2.repeat hkept.1 hrepeats

end

/-! ### Two broadcasts, one confirmation key -/

namespace Sample

def manager : Principal :=
  ⟨"10000000-0000-4000-8000-000000000001", [.MANAGER], [.GLOBAL], "session"⟩

def adviser : Collaborator :=
  { id := "10000000-0000-4000-8000-000000000002", roles := [.ADMISSIONS] }

/-- What the world gives to a call; its notifications draw identifiers that begin alike. -/
def during (randomUUID tag : String) : Circumstances where
  users := [adviser]
  now := 0
  randomUUID := randomUUID
  notificationId := fun r => tag ++ r

def first : String := "20000000-0000-4000-8000-000000000001"

def second : String := "20000000-0000-4000-8000-000000000002"

def spare : String := "20000000-0000-4000-8000-000000000003"

def draft (randomUUID requestId : String) : Call × Circumstances :=
  (.create manager
    { title := some "Information", content := some "Contenu", clientRequestId := some requestId,
      audience := { roles := ["ADMISSIONS"] } }, during randomUUID "a")

/-- A broadcast is confirmed, always under the same key. -/
def confirm (id tag : String) : Call × Circumstances :=
  (.confirm id manager ⟨some true, some 1, some 1, some "confirm-01"⟩, during spare tag)

/-- The service, which takes the recipients in the order given. -/
def machine : Machine BroadcastService (Call × Circumstances) (Outcome BroadcastView) :=
  service (fun _ _ => true) isAlnum

/-- Both broadcasts are confirmed under one key, then the first confirmation is repeated. -/
def run : List (Call × Circumstances) :=
  [draft first "request-01", draft second "request-02", confirm first "b", confirm second "c",
    confirm first "d"]

/-- **The repetition of a confirmation is refused**: another broadcast has taken its key. -/
theorem repeat_refused :
    ¬(machine.Throughout Delivered {} run ∧ machine.Meets (Freezes (fun _ _ => true) isAlnum) {}
        run ∧ Repeatable (fun _ _ => true) isAlnum {} run) := by
  rintro ⟨-, -, hrepeatable⟩
  have hrepeats : Repeats (confirm first "b") (confirm first "d") :=
    ⟨rfl, fun _ _ h => (by cases h), fun _ _ _ h => (by cases h)⟩
  obtain ⟨view, hview⟩ : ∃ view, machine.answer
      (machine.run {} [draft first "request-01", draft second "request-02"]) (confirm first "b") =
      .ok view := Checked.exists_ok_of_not_refused (by decide +kernel)
  obtain ⟨view', hview', -⟩ := hrepeatable [draft first "request-01", draft second "request-02"]
    (confirm first "b") [confirm second "c"] (confirm first "d") [] rfl hrepeats view hview
  have hrefused : Checked.Refused (machine.answer (machine.run {} [draft first "request-01",
      draft second "request-02", confirm first "b", confirm second "c"]) (confirm first "d")) := by
    decide +kernel
  obtain ⟨e, he⟩ := hrefused
  exact absurd (he.symm.trans hview') (by simp)

theorem promised {s : BroadcastService} {call : Call} {randomUUID tag : String}
    (hcall : call.principal = manager) (hfresh : s.broadcasts.get randomUUID = none)
    (hid : isUuidText randomUUID = true) (htag : ∀ e ∈ s.notifications.notifications.entries.rows,
      tag.toList.isPrefixOf e.1.toList = false) : Promised s (call, during randomUUID tag) where
  fresh := hfresh
  drawn := hid
  author := by
    change isUuidText call.principal.userId = true
    rw [hcall]
    decide
  users := by
    intro user huser
    obtain rfl := mem_singleton.mp huser
    decide
  apart := fun r r' h => (String.append_right_inj tag).mp h
  unused := by
    intro r
    refine eq_none_iff_forall_ne_some.mpr fun n hn => ?_
    have hprefix := htag _ (get_eq_some.mp hn)
    change tag.toList.isPrefixOf (tag ++ r).toList = false at hprefix
    rw [String.toList_append, isPrefixOf_iff_prefix.mpr (prefix_append _ _)] at hprefix
    cases hprefix

/-- A draft, its confirmation, and the same confirmation again. -/
def regular : List (Call × Circumstances) :=
  [draft first "request-01", confirm first "b", confirm first "c"]

theorem delivery_regular :
    machine.Throughout Delivered {} regular ∧
      machine.Meets (Freezes (fun _ _ => true) isAlnum) {} regular ∧
        Repeatable (fun _ _ => true) isAlnum {} regular := by
  refine delivery (fun _ h => h) ⟨?_, ?_, ?_, trivial⟩ ⟨trivial, ?_, ?_, trivial⟩
  · exact promised rfl rfl (by decide) (by decide)
  · exact promised rfl (by decide +kernel) (by decide) (by decide +kernel)
  · exact promised rfl (by decide +kernel) (by decide) (by decide +kernel)
  · intro _ current _ _ _ recipientIds _ other hother
    have hnone : (machine.run {} [draft first "request-01"]).requests.get
        (confirmKey "confirm-01") = none := by decide +kernel
    exact absurd (hnone.symm.trans hother) (by simp)
  · intro _ current hcur _ hstate
    have hconf : ((machine.run {} [draft first "request-01", confirm first "b"]).broadcasts.get
        first).map (fun b => b.state) = some .CONFIRMED := by decide +kernel
    have hget : (machine.run {} [draft first "request-01", confirm first "b"]).broadcasts.get first =
        some current := hcur
    rw [hget] at hconf
    exact absurd (some.inj hconf) hstate

end Sample

end CrmYnov.Broadcast
