import CrmYnov.Auth.Principal
import CrmYnov.Base.Machine
import CrmYnov.Base.Table
import CrmYnov.Platform.Runtime
import Mathlib.Data.List.Sort

/-!
# Conversations and their messages

Collaborators talk in conversations that they open, two of them directly or more as a team. A
message is posted under an identifier that its client has chosen, so that a client that heard no
answer may post again; it may be edited or deleted, and every change leaves the version it
replaces in a list.

The history that this leaves is faithful in all but one respect. A message that is already known
under the client's identifier is the answer to whoever presents this identifier in the
conversation, whoever they are and whatever they say (`Chat.Sample.history_not_faithful`);
`Chat.history_faithful_iff` says which runs stay clear of it.
-/

namespace CrmYnov.Chat

open Checked Js Dict

inductive ChatConversationType
  | DIRECT | TEAM
deriving DecidableEq

def ChatConversationType.read : String → Option ChatConversationType
  | "DIRECT" => some DIRECT
  | "TEAM" => some TEAM
  | _ => none

structure StoredConversation where
  id : String
  type : ChatConversationType
  (title leadId leadCode : Option String)
  participantIds : List String
  createdById : String
  (createdAt updatedAt : Instant)

inductive MessageState
  | ACTIVE | EDITED | DELETED
deriving DecidableEq

structure ChatMessage where
  (id conversationId authorId : String)
  content : Option String
  version : ℕ
  state : MessageState
  createdAt : Instant
  editedAt : Option Instant := none
  deletedAt : Option Instant := none
  mentionUserIds : List String
deriving DecidableEq

inductive MessageChange
  | EDIT | DELETE

structure MessageVersion where
  version : ℕ
  content : Option String
  changedBy : String
  change : MessageChange
  reason : Option String
  createdAt : Instant

structure LinkedLead where
  (id leadCode : String)

/-- What the other services and the world answer during a call. -/
structure Circumstances where
  /-- `users.list({ active: true })` has a user of this identifier. -/
  active : String → Bool
  /-- The lead of a code, if the caller may see it. -/
  lead : String → Outcome LinkedLead := fun _ => .error (.notFound "lead_not_found")
  /-- `Date.now()` -/
  now : Instant
  /-- The identifier that the call draws. -/
  randomUUID : String
  /-- What the notifications of the mentions answer. -/
  notified : Outcome Unit := .ok ()

/-- The input of `createConversation`. -/
structure ConversationInput where
  type : Option String
  title : Option String := none
  participantIds : Option (List String) := none
  leadCode : Option String := none
  attachments : ℕ := 0

/-- The input of `postMessage`. -/
structure PostInput where
  (content clientMessageId : Option String)
  mentionUserIds : Option (List String) := none
  attachments : ℕ := 0

/-- The input of `editMessage`. -/
structure EditInput where
  content : Option String
  expectedVersion : Option ℤ

/-- The input of `deleteMessage`. -/
structure DeleteInput where
  reason : Option String
  expectedVersion : Option ℤ

structure ChatService where
  conversations : Dict String StoredConversation := empty
  messages : Dict String ChatMessage := empty
  directConversations : Dict String String := empty
  messageVersions : Dict String (List MessageVersion) := empty
  messageIdempotency : Dict String String := empty

def CHAT_EDIT_WINDOW_MS : ℤ := 60 * 60 * 1000

/-- `/^LD-\d{4}-[A-Z0-9]{4,32}$/` -/
def isLeadCode (text : String) : Bool :=
  hasShape [(· == 'L'), (· == 'D'), (· == '-'), isDigit, isDigit, isDigit, isDigit,
      (· == '-')] (String.ofList (text.toList.take 8)) &&
    fullMatch (fun c => isUpper c || isDigit c) 4 32 (String.ofList (text.toList.drop 8))

/-- `/^[a-zA-Z0-9_-]{8,80}$/` -/
def isClientMessageId : String → Bool :=
  fullMatch (fun c => isAlnum c || c == '_' || c == '-') 8 80

/-- The key under which a pair that talks about a lead, or about none, is remembered. -/
def directKey (participantIds : List String) (leadId : Option String) : String :=
  String.intercalate ":" participantIds ++ ":" ++ leadId.getD "unlinked"

namespace ChatService

def assertActiveCollaborator (c : Circumstances) (userId : String) : Outcome Unit :=
  require (c.active userId) (.forbidden "chat_collaborator_required")

def resolveLead (rt : Runtime) (c : Circumstances) (leadCode : String) : Outcome LinkedLead := do
  require (isLeadCode (rt.unicode.toUpperCase (trim leadCode)))
    (.badRequest "chat_lead_code_invalid")
  c.lead leadCode

def validateContent (value : Option String) : Outcome String := do
  let content := (value.map trim).getD ""
  require (content ≠ "" ∧ length content ≤ 2000 ∧ '\x00' ∉ content.toList)
    (.badRequest "chat_content_invalid")
  pure content

variable (s : ChatService)

variable (conversationId : String)

/-- The caller takes part in the conversation. -/
def Member (principal : Principal) (conversation : StoredConversation) : Prop :=
  s.conversations.get conversationId = some conversation ∧
    principal.userId ∈ conversation.participantIds

def assertMember (principal : Principal) (c : Circumstances) : Outcome StoredConversation := do
  let conversation ← demand (s.conversations.get conversationId)
    (.notFound "chat_conversation_not_found")
  require (principal.userId ∈ conversation.participantIds)
    (.notFound "chat_conversation_not_found")
  assertActiveCollaborator c principal.userId
  pure conversation

variable (messageId : String)

def assertMessageMember (principal : Principal) (c : Circumstances) : Outcome ChatMessage := do
  let message ← demand (s.messages.get messageId) (.notFound "chat_message_not_found")
  let _ ← s.assertMember message.conversationId principal c
  pure message

def assertExpectedVersion (message : ChatMessage) (expectedVersion : Option ℤ) : Outcome Unit :=
  require (expectedVersion = some (message.version : ℤ)) (.conflict "chat_message_version_conflict")

def assertWithinEditWindow (message : ChatMessage) (now : Instant) : Outcome Unit :=
  require (now - message.createdAt ≤ CHAT_EDIT_WINDOW_MS) (.conflict "chat_edit_window_expired")

/-- The participants of a new conversation, sorted by `localeCompare`. -/
def participants (lexical : String → String → Bool) (principal : Principal)
    (input : ConversationInput) : List String :=
  (unique (principal.userId :: input.participantIds.getD [])).insertionSort fun a b => lexical a b

/-- `createConversation`, past its checks, for a pair or team that has no conversation yet. -/
def addConversation (type : ChatConversationType) (title : Option String)
    (linkedLead : Option LinkedLead) (participantIds : List String) (principal : Principal)
    (c : Circumstances) : StoredConversation × ChatService :=
  let record : StoredConversation :=
    { id := c.randomUUID
      type
      title := if type = .TEAM then title else none
      leadId := linkedLead.map LinkedLead.id
      leadCode := linkedLead.map LinkedLead.leadCode
      participantIds
      createdById := principal.userId
      createdAt := c.now
      updatedAt := c.now }
  (record,
    { s with
      conversations := s.conversations.set record.id record
      directConversations :=
        if type = .DIRECT then
          s.directConversations.set (directKey participantIds record.leadId) record.id
        else s.directConversations })

def linkedLead? (rt : Runtime) (input : ConversationInput) (c : Circumstances) :
    Outcome (Option LinkedLead) :=
  match input.leadCode.filter fun code => code ≠ "" with
  | some leadCode => some <$> resolveLead rt c leadCode
  | none => pure none

def createConversation (rt : Runtime) (lexical : String → String → Bool) (s : ChatService)
    (principal : Principal) (input : ConversationInput) (c : Circumstances) :
    Outcome (StoredConversation × ChatService) := do
  assertActiveCollaborator c principal.userId
  require (input.attachments = 0) (.badRequest "chat_attachments_deferred")
  let type ← demand (input.type.bind ChatConversationType.read) (.badRequest "chat_type_invalid")
  let participantIds := participants lexical principal input
  require (2 ≤ participantIds.length ∧ participantIds.length ≤ 50)
    (.badRequest "chat_participants_invalid")
  require (∀ userId ∈ participantIds, c.active userId) (.forbidden "chat_collaborator_required")
  let title := input.title.map trim
  require (type = .DIRECT → participantIds.length = 2)
    (.badRequest "chat_direct_participants_invalid")
  require (type = .TEAM → ∃ t ∈ title, 2 ≤ length t ∧ length t ≤ 120)
    (.badRequest "chat_title_invalid")
  let linkedLead ← linkedLead? rt input c
  let existingId := if type = .DIRECT then
    s.directConversations.get (directKey participantIds (linkedLead.map LinkedLead.id)) else none
  match existingId with
  | some id => do
    let conversation ← demand (s.conversations.get id) (.error "conversation missing")
    pure (conversation, s)
  | none => pure (s.addConversation type title linkedLead participantIds principal c)

def postKey (conversationId clientMessageId : String) : String :=
  conversationId ++ ":" ++ clientMessageId

/-- What `postMessage` asks of a call before it looks for an earlier one. -/
def Postable (principal : Principal) (input : PostInput) (c : Circumstances) : Prop :=
  (∃ conversation, s.Member conversationId principal conversation) ∧ c.active principal.userId ∧
    input.attachments = 0 ∧ (∃ content, validateContent input.content = .ok content) ∧
    isClientMessageId (input.clientMessageId.getD "")

def mentions (lexical : String → String → Bool) (conversation : StoredConversation)
    (principal : Principal) (input : PostInput) (c : Circumstances) : Outcome (List String) := do
  let mentionUserIds := (unique (input.mentionUserIds.getD [])).insertionSort fun a b =>
    lexical a b
  mentionUserIds.forM fun userId => do
    require (userId ≠ principal.userId ∧ userId ∈ conversation.participantIds)
      (.badRequest "chat_mention_invalid")
    assertActiveCollaborator c userId
  pure mentionUserIds

def posted (principal : Principal) (content : String) (mentionUserIds : List String)
    (c : Circumstances) : ChatMessage where
  id := c.randomUUID
  conversationId := conversationId
  authorId := principal.userId
  content := some content
  version := 1
  state := .ACTIVE
  createdAt := c.now
  mentionUserIds := mentionUserIds

/-- A new message is kept under its identifier and under the client's one. -/
def addMessage (conversation : StoredConversation) (conversationId key : String)
    (message : ChatMessage) : ChatService :=
  { s with
    messages := s.messages.set message.id message
    messageIdempotency := s.messageIdempotency.set key message.id
    conversations := s.conversations.set conversationId
      { conversation with updatedAt := message.createdAt } }

/-- `postMessage`: its answer, and the memory it leaves. The notifications come last; when one of
them throws, the message is there. -/
def postMessage (lexical : String → String → Bool) (s : ChatService) (conversationId : String)
    (principal : Principal) (input : PostInput) (c : Circumstances) :
    Outcome (Outcome ChatMessage × ChatService) := do
  let conversation ← s.assertMember conversationId principal c
  require (input.attachments = 0) (.badRequest "chat_attachments_deferred")
  let content ← validateContent input.content
  let clientMessageId := input.clientMessageId.getD ""
  require (isClientMessageId clientMessageId) (.badRequest "chat_message_idempotency_invalid")
  let key := postKey conversationId clientMessageId
  match s.messageIdempotency.get key with
  | some existing => do
    let message ← demand (s.messages.get existing) (.error "message missing")
    pure (.ok message, s)
  | none => do
    let mentionUserIds ← mentions lexical conversation principal input c
    let message := posted conversationId principal content mentionUserIds c
    pure (c.notified.map fun _ => message, s.addMessage conversation conversationId key message)

/-- `appendVersion`, and the version that replaces the message. -/
def replace (current updated : ChatMessage) (changedBy : String) (change : MessageChange)
    (reason : Option String) (now : Instant) : ChatService :=
  { s with
    messages := s.messages.set messageId updated
    messageVersions := s.messageVersions.set current.id
      ((s.messageVersions.get current.id).getD [] ++
        [⟨current.version, current.content, changedBy, change, reason, now⟩]) }

variable (current : ChatMessage)

def edited (content : String) (now : Instant) : ChatMessage :=
  { current with
    content := some content, version := current.version + 1, state := .EDITED, editedAt := some now }

def editMessage (principal : Principal) (input : EditInput) (c : Circumstances) :
    Outcome (ChatMessage × ChatService) := do
  let current ← s.assertMessageMember messageId principal c
  require (current.authorId = principal.userId) (.notFound "chat_message_not_found")
  assertExpectedVersion current input.expectedVersion
  assertWithinEditWindow current c.now
  require (current.state ≠ .DELETED) (.conflict "chat_message_deleted")
  let content ← validateContent input.content
  let updated := edited current content c.now
  pure (updated, s.replace messageId current updated principal.userId .EDIT none c.now)

def deleted (now : Instant) : ChatMessage :=
  { current with
    content := none, version := current.version + 1, state := .DELETED, deletedAt := some now }

/-- Who moderates is not held to the edit window. -/
def assertErasable (message : ChatMessage) (principal : Principal) (now : Instant) : Outcome Unit :=
  if principal.hasSome Principal.managers then pure () else assertWithinEditWindow message now

/-- `deleteMessage`, for a message that is not deleted yet. -/
def erase (principal : Principal) (input : DeleteInput) (c : Circumstances) :
    Outcome (ChatMessage × ChatService) := do
  require (principal.hasSome Principal.managers ∨ current.authorId = principal.userId)
    (.notFound "chat_message_not_found")
  assertErasable current principal c.now
  let reason := (input.reason.map trim).getD ""
  require (3 ≤ length reason ∧ length reason ≤ 240)
    (.badRequest "chat_deletion_reason_invalid")
  let updated := deleted current c.now
  pure (updated,
    s.replace messageId current updated principal.userId .DELETE (some reason) c.now)

def deleteMessage (principal : Principal) (input : DeleteInput) (c : Circumstances) :
    Outcome (ChatMessage × ChatService) := do
  let current ← s.assertMessageMember messageId principal c
  assertExpectedVersion current input.expectedVersion
  if current.state = .DELETED then pure (current, s) else s.erase messageId current principal input c

end ChatService

open ChatService

inductive Call
  | createConversation (principal : Principal) (input : ConversationInput)
  | postMessage (conversationId : String) (principal : Principal) (input : PostInput)
  | editMessage (messageId : String) (principal : Principal) (input : EditInput)
  | deleteMessage (messageId : String) (principal : Principal) (input : DeleteInput)

inductive Answer
  | conversation (c : StoredConversation)
  | message (m : ChatMessage)

/-- What a call does, when it gets past its checks: its answer and the memory it leaves. -/
def Call.handle (rt : Runtime) (lexical : String → String → Bool) (s : ChatService)
    (c : Circumstances) : Call → Outcome (Outcome Answer × ChatService)
  | createConversation principal input =>
    (fun e => (.ok (.conversation e.1), e.2)) <$>
      s.createConversation rt lexical principal input c
  | postMessage conversationId principal input =>
    (fun e => (e.1.map .message, e.2)) <$> s.postMessage lexical conversationId principal input c
  | editMessage messageId principal input =>
    (fun e => (.ok (.message e.1), e.2)) <$> s.editMessage messageId principal input c
  | deleteMessage messageId principal input =>
    (fun e => (.ok (.message e.1), e.2)) <$> s.deleteMessage messageId principal input c

/-- The service, as a machine; a call that its checks refuse leaves the memory as it was. -/
def service (rt : Runtime) (lexical : String → String → Bool) :
    Machine ChatService (Call × Circumstances) (Outcome Answer) where
  step s a :=
    match a.1.handle rt lexical s a.2 with
    | .ok r => r
    | .error e => (.error e, s)

section

variable {rt : Runtime} {lexical : String → String → Bool} {s s' : ChatService} {call : Call}
  {c : Circumstances} {answer : Outcome Answer}

theorem service_ok (h : call.handle rt lexical s c = .ok (answer, s')) :
    (service rt lexical).answer s (call, c) = answer ∧
      (service rt lexical).next s (call, c) = s' := by
  simp only [Machine.answer, Machine.next, service, h, and_self]

theorem service_error {e : Failure} (h : call.handle rt lexical s c = .error e) :
    (service rt lexical).answer s (call, c) = .error e ∧
      (service rt lexical).next s (call, c) = s := by
  simp only [Machine.answer, Machine.next, service, h, and_self]

end

/-! ### What a call does to the memory -/

/-- The comparison of texts tells the identifiers of users apart and compares any two of them. -/
structure Compares (lexical : String → String → Bool) : Prop where
  total : ∀ a b, isUuidText a → isUuidText b → lexical a b = true ∨ lexical b a = true
  antisymm : ∀ a b, isUuidText a → isUuidText b → lexical a b = true → lexical b a = true → a = b

def OrderedPair (lexical : String → String → Bool) (participantIds : List String) : Prop :=
  ∃ a b, participantIds = [a, b] ∧ isUuidText a ∧ isUuidText b ∧ lexical a b = true

/-- What the world promises: what is drawn is new, and users have identifiers. -/
def Promised (s : ChatService) (a : Call × Circumstances) : Prop :=
  (s.messages.get a.2.randomUUID = none ∧ s.conversations.get a.2.randomUUID = none) ∧
    ∀ user, a.2.active user = true → isUuidText user = true

/-- **What a call may do to the memory.** -/
inductive Move (lexical : String → String → Bool) (s : ChatService) : ChatService → Prop
  | same : Move lexical s s
  /-- A conversation is opened; if it is a direct one, its pair had none about this lead. -/
  | opened (record : StoredConversation) (hfresh : s.conversations.get record.id = none)
    (hdirect : record.type = .DIRECT → OrderedPair lexical record.participantIds ∧
      s.directConversations.get (directKey record.participantIds record.leadId) = none) :
    Move lexical s
      { s with
        conversations := s.conversations.set record.id record
        directConversations :=
          if record.type = .DIRECT then
            s.directConversations.set (directKey record.participantIds record.leadId) record.id
          else s.directConversations }
  /-- A message is posted. -/
  | posted (conversation : StoredConversation) (conversationId key : String)
    (message : ChatMessage) (hmember : s.conversations.get conversationId = some conversation)
    (hfresh : s.messages.get message.id = none) (hver : message.version = 1) :
    Move lexical s (s.addMessage conversation conversationId key message)
  /-- A message is replaced by its next version. -/
  | replaced (messageId : String) (current updated : ChatMessage) (changedBy : String)
    (change : MessageChange) (reason : Option String) (now : Instant)
    (hcur : s.messages.get messageId = some current) (hstate : current.state ≠ .DELETED)
    (hid : updated.id = current.id) (hver : updated.version = current.version + 1) :
    Move lexical s (s.replace messageId current updated changedBy change reason now)

theorem insertionSort_pair {α : Type*} (le : α → α → Bool) (x y : α) :
    ([x, y].insertionSort fun a b => le a b) = if le x y then [x, y] else [y, x] := by
  simp [List.insertionSort, List.orderedInsert]

variable {conversationId messageId : String} {message : ChatMessage}

section

variable {rt : Runtime} {lexical : String → String → Bool} {s s' : ChatService}
  {c : Circumstances}

variable {principal : Principal}

theorem orderedPair_participants (hle : Compares lexical) {input : ConversationInput}
    (hids : ∀ user ∈ participants lexical principal input, isUuidText user = true)
    (hlen : (participants lexical principal input).length = 2) :
    OrderedPair lexical (participants lexical principal input) := by
  rw [participants] at hids hlen ⊢
  rw [List.length_insertionSort] at hlen
  obtain ⟨x, y, hxy⟩ := List.length_eq_two.mp hlen
  rw [hxy, insertionSort_pair] at hids ⊢
  split
  · rename_i hlt
    rw [if_pos hlt] at hids
    exact ⟨x, y, rfl, hids x (by simp), hids y (by simp), hlt⟩
  · rename_i hlt
    rw [if_neg hlt] at hids
    have hx := hids x (by simp)
    have hy := hids y (by simp)
    exact ⟨y, x, rfl, hy, hx, (hle.total x y hx hy).resolve_left hlt⟩

theorem move_of_createConversation (hle : Compares lexical) {input : ConversationInput}
    {record : StoredConversation} (hfresh : s.conversations.get c.randomUUID = none)
    (hids : ∀ user, c.active user = true → isUuidText user = true)
    (h : s.createConversation rt lexical principal input c = .ok (record, s')) :
    Move lexical s s' := by
  simp only [createConversation, ok_iff] at h
  obtain ⟨_, -, _, -, type, -, _, -, _, hactive, _, hpair, _, -, lead, -, h⟩ := h
  split at h
  · simp only [ok_iff] at h
    obtain ⟨_, -, -, rfl⟩ := h
    exact .same
  · rename_i hnone
    simp only [pure_ok_iff, addConversation, Prod.mk.injEq] at h
    obtain ⟨rfl, rfl⟩ := h
    refine .opened { id := c.randomUUID, .. } hfresh fun hdirect => ?_
    change type = .DIRECT at hdirect
    rw [if_pos hdirect] at hnone
    exact ⟨orderedPair_participants hle (fun user hu => hids user (hactive user hu))
      (hpair hdirect), hnone⟩

theorem assertMember_ok {conversation : StoredConversation} :
    s.assertMember conversationId principal c = .ok conversation ↔
      s.Member conversationId principal conversation ∧ c.active principal.userId = true := by
  simp only [assertMember, assertActiveCollaborator, Member,
    ok_iff]
  constructor
  · rintro ⟨_, hget, _, hmem, _, hactive, rfl⟩
    exact ⟨⟨hget, hmem⟩, hactive⟩
  · rintro ⟨⟨hget, hmem⟩, hactive⟩
    exact ⟨conversation, hget, (), hmem, (), hactive, rfl⟩

/-- **What `postMessage` does**: it answers the message that its key leads to, or posts one. -/
theorem postMessage_ok {input : PostInput} {answer : Outcome ChatMessage}
    (h : s.postMessage lexical conversationId principal input c = .ok (answer, s')) :
    s.Postable conversationId principal input c ∧ ∃ conversation content,
      s.Member conversationId principal conversation ∧
      validateContent input.content = .ok content ∧
      let key := postKey conversationId (input.clientMessageId.getD "")
      ((∃ id message, s.messageIdempotency.get key = some id ∧ s.messages.get id = some message ∧
          answer = .ok message ∧ s' = s) ∨
        s.messageIdempotency.get key = none ∧ ∃ mentionUserIds,
          let message := posted conversationId principal content mentionUserIds c
          answer = c.notified.map (fun _ => message) ∧
            s' = s.addMessage conversation conversationId key message) := by
  simp only [postMessage, ok_iff, assertMember_ok] at h
  obtain ⟨conversation, ⟨hmember, hactive⟩, _, hattachments, content, hcontent, _, hclient, h⟩ := h
  refine ⟨⟨⟨conversation, hmember⟩, hactive, hattachments, ⟨content, hcontent⟩, hclient⟩,
    conversation, content, hmember, hcontent, ?_⟩
  split at h
  · rename_i id hid
    simp only [ok_iff] at h
    obtain ⟨message, hmessage, rfl, rfl⟩ := h
    exact .inl ⟨id, message, hid, hmessage, rfl, rfl⟩
  · rename_i hnone
    simp only [ok_iff] at h
    obtain ⟨mentionUserIds, -, rfl, rfl⟩ := h
    exact .inr ⟨hnone, mentionUserIds, rfl, rfl⟩

theorem postMessage_known {input : PostInput} {id : String}
    (hpost : s.Postable conversationId principal input c)
    (hid : s.messageIdempotency.get
      (postKey conversationId (input.clientMessageId.getD "")) = some id)
    (hmessage : s.messages.get id = some message) :
    s.postMessage lexical conversationId principal input c = .ok (.ok message, s) := by
  obtain ⟨⟨conversation, hmember⟩, hactive, hattachments, ⟨content, hcontent⟩, hclient⟩ := hpost
  have hassert := assertMember_ok.mpr ⟨hmember, hactive⟩
  simp only [postMessage, hassert, ok_bind, require_pos hattachments, hcontent,
    require_pos hclient, hid, hmessage, demand_some]
  rfl

theorem assertMessageMember_ok (h : s.assertMessageMember messageId principal c = .ok message) :
    s.messages.get messageId = some message := by
  simp only [assertMessageMember, ok_iff] at h
  obtain ⟨_, hget, _, -, rfl⟩ := h
  exact hget

theorem move_of_editMessage {input : EditInput}
    (h : s.editMessage messageId principal input c = .ok (message, s')) : Move lexical s s' := by
  simp only [editMessage, ok_iff] at h
  obtain ⟨current, hmember, _, -, _, -, _, -, _, hstate, content, -, rfl, rfl⟩ := h
  exact .replaced messageId current _ _ _ _ _ (assertMessageMember_ok hmember) hstate rfl rfl

theorem move_of_deleteMessage {input : DeleteInput}
    (h : s.deleteMessage messageId principal input c = .ok (message, s')) : Move lexical s s' := by
  simp only [deleteMessage, bind_ok_iff] at h
  obtain ⟨current, hmember, _, -, h⟩ := h
  split at h
  · rw [pure_ok_iff, Prod.mk.injEq] at h
    obtain ⟨-, rfl⟩ := h
    exact .same
  · rename_i hstate
    simp only [erase, ok_iff] at h
    obtain ⟨_, -, _, -, _, -, rfl, rfl⟩ := h
    exact .replaced messageId current _ _ _ _ _ (assertMessageMember_ok hmember) hstate rfl rfl

/-- **Every call is a move.** -/
theorem move_next (hle : Compares lexical) {a : Call × Circumstances} (hp : Promised s a) :
    Move lexical s ((service rt lexical).next s a) := by
  obtain ⟨call, c⟩ := a
  rcases h : call.handle rt lexical s c with e | ⟨answer, s'⟩
  · rw [(service_error h).2]
    exact .same
  rw [(service_ok h).2]
  cases call with
  | createConversation principal input =>
    obtain ⟨r, hr, he⟩ := map_ok_iff.mp h
    obtain ⟨-, rfl⟩ := Prod.mk.inj he
    exact move_of_createConversation hle hp.1.2 hp.2 hr
  | postMessage conversationId principal input =>
    obtain ⟨r, hr, he⟩ := map_ok_iff.mp h
    obtain ⟨-, rfl⟩ := Prod.mk.inj he
    obtain ⟨-, conversation, content, hmember, -, hcases⟩ := postMessage_ok hr
    rcases hcases with ⟨_, _, -, -, -, heq⟩ | ⟨-, mentionUserIds, -, heq⟩
    · rw [heq]
      exact .same
    · rw [heq]
      exact .posted conversation conversationId _ _ hmember.1 hp.1.1 rfl
  | editMessage messageId principal input =>
    obtain ⟨r, hr, he⟩ := map_ok_iff.mp h
    obtain ⟨-, rfl⟩ := Prod.mk.inj he
    exact move_of_editMessage hr
  | deleteMessage messageId principal input =>
    obtain ⟨r, hr, he⟩ := map_ok_iff.mp h
    obtain ⟨-, rfl⟩ := Prod.mk.inj he
    exact move_of_deleteMessage hr

end

/-! ### The history of a message -/

/-- **What every reachable memory keeps.** -/
structure Sound (lexical : String → String → Bool) (s : ChatService) : Prop where
  keyed : ∀ id m, s.messages.get id = some m → m.id = id
  known : ∀ key id, s.messageIdempotency.get key = some id → ∃ m, s.messages.get id = some m
  unwritten : ∀ id, s.messages.get id = none → s.messageVersions.get id = none
  positive : ∀ id m, s.messages.get id = some m → 1 ≤ m.version
  numbered : ∀ id m, s.messages.get id = some m →
    ((s.messageVersions.get id).getD []).map MessageVersion.version = List.range' 1 (m.version - 1)
  direct : ∀ id record, s.conversations.get id = some record → record.type = .DIRECT →
    OrderedPair lexical record.participantIds ∧
      s.directConversations.get (directKey record.participantIds record.leadId) = some id

variable (s : ChatService)

/-- The versions recorded of a message of version `n` are `1` to `n - 1`, in order. -/
def VersionsRecorded : Prop :=
  ∀ id m, s.messages.get id = some m →
    ((s.messageVersions.get id).getD []).map MessageVersion.version = List.range' 1 (m.version - 1)

/-- Two participants have at most one direct conversation about a lead. -/
def OneDirect : Prop :=
  ∀ id id' r r', s.conversations.get id = some r → s.conversations.get id' = some r' →
    r.type = .DIRECT → r'.type = .DIRECT → (∀ user, user ∈ r.participantIds ↔ user ∈ r'.participantIds) →
    r.leadId = r'.leadId → id = id'

def firstContent (m : ChatMessage) : Option String :=
  match (s.messageVersions.get m.id).getD [] with
  | [] => m.content
  | first :: _ => first.content

/-- **A call that keeps the history**: a deleted message stays as it is, and a post answers a
message of its author, with its content or first posted so under the same key. -/
def FaithfulStep (rt : Runtime) (lexical : String → String → Bool) (s : ChatService)
    (a : Call × Circumstances) : Prop :=
  let s' := (service rt lexical).next s a
  (∀ id m, s.messages.get id = some m → m.state = .DELETED →
      s'.messages.get id = some m ∧ s'.messageVersions.get id = s.messageVersions.get id) ∧
    ∀ conversationId principal input, a.1 = .postMessage conversationId principal input →
      ∀ m, (service rt lexical).answer s a = .ok (.message m) →
        m.authorId = principal.userId ∧
          ∃ content, validateContent input.content = .ok content ∧
            (m.content = some content ∨
              s.messageIdempotency.get
                  (postKey conversationId (input.clientMessageId.getD "")) = some m.id ∧
                firstContent s m = some content)

/-- **What keeps a post faithful**: the client's identifier is new in the conversation, or the
message it leads to is the caller's, and has or had at first the content of the call. -/
def OwnKey : Call → Circumstances → Prop
  | .postMessage conversationId principal input, c =>
    s.Postable conversationId principal input c →
      ∀ id m content, validateContent input.content = .ok content →
        s.messageIdempotency.get
          (postKey conversationId (input.clientMessageId.getD "")) = some id →
        s.messages.get id = some m →
        m.authorId = principal.userId ∧ (m.content = some content ∨ firstContent s m = some content)
  | _, _ => True

section

variable {rt : Runtime} {lexical : String → String → Bool} {s s' : ChatService}

theorem sound_empty : Sound lexical {} where
  keyed := fun _ _ h => by cases h
  known := fun _ _ h => by cases h
  unwritten := fun _ _ => rfl
  positive := fun _ _ h => by cases h
  numbered := fun _ _ h => by cases h
  direct := fun _ _ h => by cases h

theorem Sound.opened (hs : Sound lexical s) (record : StoredConversation)
    (hdirect : record.type = .DIRECT → OrderedPair lexical record.participantIds ∧
      s.directConversations.get (directKey record.participantIds record.leadId) = none) :
    Sound lexical
      { s with
        conversations := s.conversations.set record.id record
        directConversations :=
          if record.type = .DIRECT then
            s.directConversations.set (directKey record.participantIds record.leadId) record.id
          else s.directConversations } where
  keyed := hs.keyed
  known := hs.known
  unwritten := hs.unwritten
  positive := hs.positive
  numbered := hs.numbered
  direct := by
    intro id r hr htype
    rw [get_set] at hr
    split at hr
    · rename_i hid
      cases hr
      obtain ⟨hpair, -⟩ := hdirect htype
      refine ⟨hpair, ?_⟩
      rw [if_pos htype, get_set_self, hid]
    · obtain ⟨hpair, hkey⟩ := hs.direct id r hr htype
      refine ⟨hpair, ?_⟩
      split
      · rename_i hnew
        have hne : directKey r.participantIds r.leadId ≠
            directKey record.participantIds record.leadId := by
          intro heq
          rw [heq, (hdirect hnew).2] at hkey
          cases hkey
        rwa [get_set_of_ne _ _ hne]
      · exact hkey

theorem Sound.posted (hs : Sound lexical s) {conversation : StoredConversation} (key : String)
    (hmember : s.conversations.get conversationId = some conversation)
    (hfresh : s.messages.get message.id = none) (hver : message.version = 1) :
    Sound lexical (s.addMessage conversation conversationId key message) where
  keyed := by
    intro id m hm
    rw [addMessage, get_set] at hm
    split at hm
    · rename_i hid
      cases hm
      exact hid.symm
    · exact hs.keyed id m hm
  known := by
    intro k id hid
    simp only [addMessage, get_set] at hid ⊢
    split at hid
    · cases hid
      exact ⟨message, by rw [if_pos rfl]⟩
    · obtain ⟨m, hm⟩ := hs.known k id hid
      split
      · exact ⟨message, rfl⟩
      · exact ⟨m, hm⟩
  unwritten := by
    intro id hid
    rw [addMessage, get_set] at hid
    split at hid
    · cases hid
    · exact hs.unwritten id hid
  positive := by
    intro id m hm
    rw [addMessage, get_set] at hm
    split at hm
    · cases hm
      omega
    · exact hs.positive id m hm
  numbered := by
    intro id m hm
    rw [addMessage, get_set] at hm
    split at hm
    · rename_i hid
      cases hm
      have hnone : s.messageVersions.get id = none := hs.unwritten id (by rw [hid]; exact hfresh)
      simp [addMessage, hnone, hver]
    · exact hs.numbered id m hm
  direct := by
    intro id r hr htype
    rw [addMessage, get_set] at hr
    split at hr
    · rename_i hid
      cases hr
      rw [hid]
      exact hs.direct conversationId conversation hmember htype
    · exact hs.direct id r hr htype

theorem Sound.replaced (hs : Sound lexical s) {current updated : ChatMessage} (changedBy : String)
    (change : MessageChange) (reason : Option String) (now : Instant)
    (hcur : s.messages.get messageId = some current) (hid : updated.id = current.id)
    (hver : updated.version = current.version + 1) :
    Sound lexical (s.replace messageId current updated changedBy change reason now) := by
  have hkey := hs.keyed messageId current hcur
  constructor
  · intro id m hm
    rw [replace, get_set] at hm
    split at hm
    · rename_i heq
      cases hm
      rw [hid, hkey, heq]
    · exact hs.keyed id m hm
  · intro k id h
    obtain ⟨m, hm⟩ := hs.known k id h
    simp only [replace, get_set]
    split
    · exact ⟨updated, rfl⟩
    · exact ⟨m, hm⟩
  · intro id h
    simp only [replace, get_set] at h ⊢
    split at h
    · cases h
    · rename_i hne
      rw [if_neg (by rwa [hkey])]
      exact hs.unwritten id h
  · intro id m hm
    rw [replace, get_set] at hm
    split at hm
    · cases hm
      omega
    · exact hs.positive id m hm
  · intro id m hm
    simp only [replace, get_set] at hm ⊢
    split at hm
    · rename_i heq
      cases hm
      have hpos := hs.positive messageId current hcur
      have hnum := hs.numbered messageId current hcur
      rw [heq, if_pos hkey.symm, Option.getD_some, List.map_append, hkey, hnum, hver]
      have hrange : current.version + 1 - 1 = current.version - 1 + 1 := by omega
      rw [hrange, List.range'_concat]
      simp only [List.map_cons, List.map_nil]
      congr 2
      omega
    · rename_i hne
      rw [if_neg (by rwa [hkey])]
      exact hs.numbered id m hm
  · exact hs.direct

theorem Sound.move (hs : Sound lexical s) (h : Move lexical s s') : Sound lexical s' := by
  cases h with
  | same => exact hs
  | opened record hfresh hdirect => exact hs.opened record hdirect
  | posted conversation conversationId key message hmember hfresh hver =>
    exact hs.posted key hmember hfresh hver
  | replaced messageId current updated changedBy change reason now hcur hstate hid hver =>
    exact hs.replaced changedBy change reason now hcur hid hver

/-- **A deleted message is not touched any more.** -/
theorem Sound.deleted_kept (hs : Sound lexical s) (h : Move lexical s s') {id : String}
    {m : ChatMessage} (hm : s.messages.get id = some m) (hstate : m.state = .DELETED) :
    s'.messages.get id = some m ∧ s'.messageVersions.get id = s.messageVersions.get id := by
  cases h with
  | same => exact ⟨hm, rfl⟩
  | opened => exact ⟨hm, rfl⟩
  | posted conversation conversationId key message hmember hfresh hver =>
    have hne : id ≠ message.id := by
      rintro rfl
      rw [hfresh] at hm
      cases hm
    exact ⟨(get_set_of_ne _ _ hne).trans hm, rfl⟩
  | replaced messageId current updated changedBy change reason now hcur hactive hid hver =>
    have hne : id ≠ messageId := by
      rintro rfl
      obtain rfl := Option.mem_unique hm hcur
      exact hactive hstate
    have hkey := hs.keyed messageId current hcur
    exact ⟨(get_set_of_ne _ _ hne).trans hm, get_set_of_ne _ _ (by rwa [hkey])⟩

/-- **Two participants have at most one direct conversation about a lead.** -/
theorem Sound.oneDirect (hle : Compares lexical) (hs : Sound lexical s) : OneDirect s := by
  intro id id' r r' hr hr' htype htype' hsame hlead
  obtain ⟨⟨a, b, hab, ha, hb, hle_ab⟩, hkey⟩ := hs.direct id r hr htype
  obtain ⟨⟨a', b', hab', ha', hb', hle_ab'⟩, hkey'⟩ := hs.direct id' r' hr' htype'
  have heq : r.participantIds = r'.participantIds := by
    have hall : ∀ user, user = a ∨ user = b ↔ user = a' ∨ user = b' := by
      simpa [hab, hab'] using hsame
    rw [hab, hab']
    rcases (hall a).mp (.inl rfl) with h | h
    · have hb' := (hall b').mpr (.inr rfl)
      have hb := (hall b).mp (.inr rfl)
      grind
    · -- the other way round, each is before the other
      rcases (hall b).mp (.inr rfl) with h' | h'
      · have hsymm : lexical b a = true := by rw [h, h']; exact hle_ab'
        have hone := hle.antisymm a b ha hb hle_ab hsymm
        grind
      · have ha' := (hall a').mpr (.inl rfl)
        grind
  rw [heq, hlead, hkey'] at hkey
  exact (Option.some.inj hkey).symm

/-- **The exact condition of one call.** -/
theorem faithfulStep_iff (hle : Compares lexical) (hs : Sound lexical s)
    {a : Call × Circumstances} (hp : Promised s a) :
    FaithfulStep rt lexical s a ↔ OwnKey s a.1 a.2 := by
  have hkept : ∀ id m, s.messages.get id = some m → m.state = .DELETED →
      ((service rt lexical).next s a).messages.get id = some m ∧
        ((service rt lexical).next s a).messageVersions.get id = s.messageVersions.get id :=
    fun id m hm hstate => hs.deleted_kept (move_next hle hp) hm hstate
  obtain ⟨call, c⟩ := a
  cases call with
  | createConversation | editMessage | deleteMessage =>
    refine iff_of_true ⟨hkept, fun _ _ _ h => ?_⟩ trivial
    cases h
  | postMessage conversationId principal input =>
    constructor
    · intro hfaithful hpost id m content hcontent hid hm
      have hans : s.postMessage lexical conversationId principal input c = .ok (.ok m, s) :=
        postMessage_known hpost hid hm
      have h : (Call.postMessage conversationId principal input).handle rt lexical s c =
          .ok (.ok (.message m), s) := map_ok_iff.mpr ⟨_, hans, rfl⟩
      obtain ⟨hauthor, content', hcontent', hcases⟩ :=
        hfaithful.2 conversationId principal input rfl m (service_ok h).1
      obtain rfl := Except.ok.inj (hcontent.symm.trans hcontent')
      exact ⟨hauthor, hcases.imp_right And.right⟩
    · intro hown
      refine ⟨hkept, ?_⟩
      intro conversationId' principal' input' hcall m hm
      cases hcall
      rcases h : (Call.postMessage conversationId principal input).handle rt lexical s c with
        e | ⟨answer, s'⟩
      · rw [(service_error h).1] at hm
        cases hm
      · rw [(service_ok h).1] at hm
        subst hm
        obtain ⟨r, hr, he⟩ := map_ok_iff.mp h
        obtain ⟨hans, -⟩ := Prod.mk.inj he
        obtain ⟨message, hmessage, hinj⟩ := map_ok_iff.mp hans
        cases hinj
        obtain ⟨hpost, conversation, content, -, hcontent, hcases⟩ := postMessage_ok hr
        rcases hcases with ⟨id, known, hid, hknown, heq, -⟩ | ⟨-, mentionUserIds, heq, -⟩
        · obtain rfl := Except.ok.inj (hmessage.symm.trans heq)
          obtain ⟨hauthor, hown⟩ := hown hpost id m content hcontent hid hknown
          refine ⟨hauthor, content, hcontent, hown.imp_right fun hfirst => ⟨?_, hfirst⟩⟩
          rw [hs.keyed id m hknown]
          exact hid
        · rw [heq] at hmessage
          obtain ⟨_, -, rfl⟩ := map_ok_iff.mp hmessage
          exact ⟨rfl, content, hcontent, .inl rfl⟩

/-- **The history is faithful** along the runs, and only along the runs, whose posts present an
identifier that is new in its conversation or repeat a message of their own; what was recorded of
the versions, and that a pair has one conversation, holds whatever the posts are. -/
theorem history_faithful_iff (hle : Compares lexical) {as : List (Call × Circumstances)}
    (hp : (service rt lexical).Meets Promised {} as) :
    ((service rt lexical).Meets (FaithfulStep rt lexical) {} as ∧
        (service rt lexical).Throughout (fun s => VersionsRecorded s ∧ OneDirect s) {} as) ↔
      (service rt lexical).Meets (fun s a => OwnKey s a.1 a.2) {} as := by
  have hstep : ∀ s a, Sound lexical s → Promised s a →
      Sound lexical ((service rt lexical).next s a) := fun s a hs hp => hs.move (move_next hle hp)
  have hsound := Machine.throughout_of_meets hstep sound_empty hp
  have hiff := Machine.meets_congr hstep (fun s a hs hp => @faithfulStep_iff rt lexical s hle hs a hp)
    sound_empty hp
  refine ⟨fun h => hiff.mp h.1, fun h => ⟨hiff.mpr h, fun pre hpre => ?_⟩⟩
  exact ⟨(hsound pre hpre).numbered, (hsound pre hpre).oneDirect hle⟩

end

/-! ### Two collaborators in one conversation -/

namespace Sample

def collaborator (userId : String) : Principal := ⟨userId, [.ADMISSIONS], [.GLOBAL], "session"⟩

def amina : String := "10000000-0000-4000-8000-00000000000a"

def bilal : String := "10000000-0000-4000-8000-00000000000b"

/-- A call at which both are active. -/
def during (randomUUID : String) : Circumstances where
  active := fun user => user == amina || user == bilal
  now := 0
  randomUUID := randomUUID

/-- The order of texts by their characters. -/
def lexical (a b : String) : Bool := decide (a ≤ b)

theorem compares_lexical : Compares lexical where
  total := fun a b _ _ => by simpa [lexical] using String.le_total a b
  antisymm := fun a b _ _ h h' =>
    String.le_antisymm (of_decide_eq_true h) (of_decide_eq_true h')

def talk : String := "20000000-0000-4000-8000-000000000001"

def opening : Call × Circumstances :=
  (.createConversation (collaborator amina) { type := some "DIRECT", participantIds := some [bilal] },
    during talk)

/-- A post under the identifier that both clients choose. -/
def post (userId content randomUUID : String) : Call × Circumstances :=
  (.postMessage talk (collaborator userId)
    { content := some content, clientMessageId := some "client-001" }, during randomUUID)

/-- The second collaborator presents the identifier under which the first one has posted. -/
def run : List (Call × Circumstances) :=
  [opening, post amina "Bonjour" "m1", post bilal "Au revoir" "m2"]

theorem promised (s : ChatService) (call : Call) (id : String) (hm : s.messages.get id = none)
    (hc : s.conversations.get id = none) : Promised s (call, during id) := by
  refine ⟨⟨hm, hc⟩, fun user huser => ?_⟩
  simp only [during, Bool.or_eq_true, beq_iff_eq] at huser
  rcases huser with rfl | rfl <;> decide

/-- The service, with texts compared by their characters. -/
def service : Machine ChatService (Call × Circumstances) (Outcome Answer) :=
  Chat.service Runtime.plain lexical

theorem promised_run : service.Meets Promised {} run :=
  ⟨promised _ _ _ rfl rfl, promised _ _ _ (by decide +kernel) (by decide +kernel),
    promised _ _ _ (by decide +kernel) (by decide +kernel), trivial⟩

/-- **A post is answered with the message of somebody else.** -/
theorem history_not_faithful :
    service.Meets Promised {} run ∧
      ¬(service.Meets (FaithfulStep Runtime.plain lexical) {} run ∧
        service.Throughout (fun s => VersionsRecorded s ∧ OneDirect s) {} run) := by
  refine ⟨promised_run, fun h => ?_⟩
  have hlast := @Machine.Meets.at _ _ _ _ _ _ [opening, post amina "Bonjour" "m1"] _ [] h.1
  have hans : ∃ m, service.answer (service.run {} [opening, post amina "Bonjour" "m1"])
      (post bilal "Au revoir" "m2") = .ok (.message m) ∧ m.authorId = amina :=
    ⟨⟨"m1", talk, amina, some "Bonjour", 1, .ACTIVE, 0, none, none, []⟩, by rfl, rfl⟩
  obtain ⟨m, hm, hauthor⟩ := hans
  have hbilal := (hlast.2 talk (collaborator bilal) _ rfl m hm).1
  rw [hauthor] at hbilal
  exact absurd hbilal (by decide)

/-- A message posted, and posted again. -/
def regular : List (Call × Circumstances) :=
  [opening, post amina "Bonjour" "m1", post amina "Bonjour" "m2"]

theorem history_faithful_regular :
    service.Meets (FaithfulStep Runtime.plain lexical) {} regular ∧
      service.Throughout (fun s => VersionsRecorded s ∧ OneDirect s) {} regular := by
  have hp : service.Meets Promised {} regular :=
    ⟨promised _ _ _ rfl rfl, promised _ _ _ (by decide +kernel) (by decide +kernel),
      promised _ _ _ (by decide +kernel) (by decide +kernel), trivial⟩
  refine (history_faithful_iff compares_lexical hp).mpr ⟨trivial, ?_, ?_, trivial⟩
  · intro _ id m content _ hid _
    have hnone : (service.run {} [opening]).messageIdempotency.get
        (postKey talk "client-001") = none := by decide +kernel
    exact absurd (hnone.symm.trans hid) (by simp)
  · intro _ id m content hcontent hid hm
    have hknown : (service.run {} [opening, post amina "Bonjour" "m1"]).messageIdempotency.get
        (postKey talk "client-001") = some "m1" := by decide +kernel
    have hmessage : (service.run {} [opening, post amina "Bonjour" "m1"]).messages.get "m1" =
        some ⟨"m1", talk, amina, some "Bonjour", 1, .ACTIVE, 0, none, none, []⟩ := by decide +kernel
    obtain rfl := Option.mem_unique hknown hid
    obtain rfl := Option.mem_unique hmessage hm
    have hread : validateContent (some "Bonjour") = .ok "Bonjour" := by rfl
    obtain rfl := Except.ok.inj (hread.symm.trans hcontent)
    exact ⟨rfl, .inl rfl⟩

end Sample

end CrmYnov.Chat
