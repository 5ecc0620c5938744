import CrmYnov.Base.Checked
import CrmYnov.Js.Date
import CrmYnov.Js.Text
import Mathlib.Data.List.Dedup
import Mathlib.Data.List.Sort

/-!
# What the agent keeps of a withdrawal

The agent withdraws the profile of its workstation with a request of its own and removes the
file of its settings when it has the receipt. What it has done is kept in a directory of its own,
one file a phase: the request was attempted, its receipt is stored, it is completed. A file is
written under another name first and then moved, and one that was not moved blocks every later
reading (`CrmYnov.Desktop.readHistory`).

The functions of the system – the digest of a file, its decryption, the reading of an address or
of a date – are those of a device (`CrmYnov.Desktop.Device`).
-/

namespace CrmYnov.Telephony

/-! ### The texts of a withdrawal -/

open List

/-- `uuid`: `/^[0-9a-f]{8}-[0-9a-f]{4}-[1-8][0-9a-f]{3}-[89ab][0-9a-f]{3}-[0-9a-f]{12}$/iu` -/
def isWithdrawalUuid (text : String) : Bool :=
  let hex (n : ℕ) : List (Char → Bool) := replicate n Js.isHexDigitAnyCase
  let dash (c : Char) : Bool := c == '-'
  let version (c : Char) : Bool := '1' ≤ c && c ≤ '8'
  let variant (c : Char) : Bool := c ∈ ['8', '9', 'a', 'b', 'A', 'B']
  Js.hasShape (hex 8 ++ dash :: hex 4 ++ dash :: version :: hex 3 ++ dash :: variant :: hex 3 ++
    dash :: hex 12) text

/-- The letters of an identifier in lower case: as the database compares it. -/
def rowId (text : String) : String := String.ofList (text.toList.map Js.lowerChar)

/-- The time of day in the text of a date: `\d{2}:\d{2}:\d{2}\.\d{3}Z` -/
def timeShape : List (Char → Bool) :=
  replicate 2 Js.isDigit ++ (fun c => c == ':') :: (replicate 2 Js.isDigit ++
    (fun c => c == ':') :: (replicate 2 Js.isDigit ++ (fun c => c == '.') ::
    (replicate 3 Js.isDigit ++ [fun c => c == 'Z'])))

/-- The day and the time in the text of a date: `-\d{2}-\d{2}T` and the time -/
def dayShape : List (Char → Bool) :=
  (fun c => c == '-') :: (replicate 2 Js.isDigit ++ (fun c => c == '-') ::
    (replicate 2 Js.isDigit ++ (fun c => c == 'T') :: timeShape))

/-- `/^\d{4}-\d{2}-\d{2}T\d{2}:\d{2}:\d{2}\.\d{3}Z$/u` -/
def isDateText (text : String) : Bool :=
  Js.hasShape (replicate 4 Js.isDigit ++ dayShape) text

end CrmYnov.Telephony

namespace CrmYnov.Desktop

open Checked List

/-! ### Settings, requests, receipts -/

structure AgentSettings where
  (apiBaseUrl agentToken workstationId profileId sipAddress : String)
  authUsername : Option String
  sipDomain : String
  proxyUri : Option String
  (transport sipPassword : String)
  (inputDeviceId outputDeviceId : Option String)
  crmDisplayName : Option String := none
  crmEmail : Option String := none
  workstationDisplayName : Option String := none
  associationId : Option String := none
deriving DecidableEq

structure ProfileWithdrawalRequest where
  (requestId associationId workstationId profileId : String)
deriving DecidableEq

structure ProfileWithdrawalReceipt where
  schemaVersion : ℤ
  request : ProfileWithdrawalRequest
  (outcome withdrawnAt : String)
  (workstationVersion profileVersion : ℤ)
deriving DecidableEq

structure ProtectedProfileSnapshot where
  settings : AgentSettings
  settingsSha256 : String
deriving DecidableEq

inductive Phase
  | ATTEMPTED | RECEIPT_STORED | COMPLETED
deriving DecidableEq

/-- `Phase` -/
def Phase.number : Phase → ℕ
  | ATTEMPTED => 1
  | RECEIPT_STORED => 2
  | COMPLETED => 3

structure WithdrawalState where
  schemaVersion : ℤ := 1
  state : Phase
  request : ProfileWithdrawalRequest
  (origin settingsSha256 : String)
  receipt : Option ProfileWithdrawalReceipt
deriving DecidableEq

/-! ### The device -/

/-- What `System.Uri` says of an address. -/
structure Uri where
  (scheme userInfo host : String)
  port : ℤ
  (absolutePath query fragment : String)
  isLoopback : Bool
  /-- `GetLeftPart(UriPartial.Path)` -/
  leftPath : String

structure Device where
  /-- `Uri.TryCreate(value, UriKind.Absolute)` -/
  tryCreate : String → Option Uri
  /-- `string.Equals(a, b, StringComparison.OrdinalIgnoreCase)` -/
  equalsIgnoreCase : String → String → Bool
  /-- `SHA256.HashData`, as a text in lower case. -/
  sha256 : List UInt8 → String
  /-- `DpapiStore.Unprotect`, and the settings that are read of what it gives. -/
  unprotect : List UInt8 → Option AgentSettings
  /-- `DateTimeOffset.TryParseExact`, in milliseconds. -/
  tryParseExact : String → Option ℤ

/-- `char.IsWhiteSpace` -/
def isWhiteSpace (c : Char) : Bool :=
  (0x9 ≤ c.toNat && c.toNat ≤ 0xD) || (0x2000 ≤ c.toNat && c.toNat ≤ 0x200A) ||
    c.toNat ∈ [0x20, 0x85, 0xA0, 0x1680, 0x2028, 0x2029, 0x202F, 0x205F, 0x3000]

/-- `text.TrimEnd`, of the characters of a kind. -/
def trimEnd (kind : Char → Bool) (text : List Char) : List Char :=
  (text.reverse.dropWhile kind).reverse

/-- `text.Trim()` -/
def trim (text : String) : String :=
  String.ofList (trimEnd isWhiteSpace (text.toList.dropWhile isWhiteSpace))

variable (d : Device)

/-- `AgentEndpointPolicy.Normalize` -/
def normalize (value : String) : Except String String := do
  let endpoint ← demand ((d.tryCreate (trim value)).filter fun endpoint =>
    endpoint.userInfo = "" ∧ endpoint.query = "" ∧ endpoint.fragment = "") "CRM_ADDRESS_INVALID"
  require (endpoint.scheme = "https" ∨ endpoint.scheme = "http" ∧
    (endpoint.isLoopback ∨ endpoint.host = "host.docker.internal")) "API_TLS_REQUIRED"
  pure (String.ofList (trimEnd (fun c => c == '/') endpoint.leftPath.toList ++ ['/']))

/-- `AgentEndpointPolicy.SameEndpoint` -/
def sameEndpoint (previous next : String) : Except String Bool := do
  let left ← demand (d.tryCreate (← normalize d previous)) "UriFormatException"
  let right ← demand (d.tryCreate (← normalize d next)) "UriFormatException"
  pure (d.equalsIgnoreCase left.scheme right.scheme && d.equalsIgnoreCase left.host right.host &&
    left.port == right.port && left.absolutePath == right.absolutePath)

/-! ### The policy -/

/-- `RequireUuid`: the text of an identifier, in lower case. -/
def isIdentity (value : String) : Bool :=
  Telephony.isWithdrawalUuid value && Telephony.rowId value == value

def requireRequest (request : ProfileWithdrawalRequest) : Except String Unit :=
  require (isIdentity request.requestId ∧ isIdentity request.associationId ∧
    isIdentity request.workstationId ∧ isIdentity request.profileId)
    "PROFILE_WITHDRAWAL_IDENTITY_INVALID"

def createRequest (settings : AgentSettings) (requestId : String) :
    Except String ProfileWithdrawalRequest := do
  let associationId ← demand settings.associationId "PROFILE_WITHDRAWAL_LEGACY_ASSOCIATION"
  let request : ProfileWithdrawalRequest :=
    ⟨requestId, associationId, settings.workstationId, settings.profileId⟩
  requireRequest request
  pure request

def requireReceipt (receipt : ProfileWithdrawalReceipt) (request : ProfileWithdrawalRequest) :
    Except String Unit := do
  requireRequest request
  require (receipt.schemaVersion = 1 ∧ receipt.outcome = "WITHDRAWN" ∧ receipt.request = request ∧
    2 ≤ receipt.workstationVersion ∧ 2 ≤ receipt.profileVersion ∧
    Telephony.isDateText receipt.withdrawnAt ∧
    (d.tryParseExact receipt.withdrawnAt).map Js.isoString = some receipt.withdrawnAt)
    "PROFILE_WITHDRAWAL_RECEIPT_MISMATCH"

def requireBoundProfile (state : WithdrawalState) (current : ProtectedProfileSnapshot) :
    Except String Unit := do
  require (current.settingsSha256 = state.settingsSha256 ∧
    current.settings.associationId = some state.request.associationId ∧
    current.settings.workstationId = state.request.workstationId ∧
    current.settings.profileId = state.request.profileId) "WITHDRAWAL_PROFILE_CHANGED"
  let same ← sameEndpoint d current.settings.apiBaseUrl state.origin
  require (same = true) "WITHDRAWAL_PROFILE_CHANGED"

/-! ### The file of the settings -/

def maximumProfileBytes : ℕ := 65536

/-- An identifier as `Guid.NewGuid` makes them. -/
def sampleGuid : String := "00000000-0000-4000-8000-000000000000"

def decode (file : List UInt8) : Except String ProtectedProfileSnapshot := do
  require (0 < file.length ∧ file.length ≤ maximumProfileBytes) "WITHDRAWAL_PROFILE_SIZE_INVALID"
  let settings ← demand (d.unprotect file) "WITHDRAWAL_PROFILE_INVALID"
  let _ ← createRequest settings sampleGuid
  pure ⟨settings, d.sha256 file⟩

def capture (profile : Option (List UInt8)) : Except String ProtectedProfileSnapshot := do
  decode d (← demand profile "Win32Exception")

/-! ### The directory of the states -/

def SameOperation (a b : WithdrawalState) : Prop :=
  a.request = b.request ∧ a.origin = b.origin ∧ a.settingsSha256 = b.settingsSha256
deriving Decidable

def validate (state : WithdrawalState) : Except String Unit := do
  requireRequest state.request
  let origin ← normalize d state.origin
  require (state.schemaVersion = 1 ∧ origin = state.origin ∧
    state.settingsSha256.toList.length = 64 ∧
    state.settingsSha256.toList.all (fun c => c ∈ "0123456789abcdef".toList) = true)
    "WITHDRAWAL_STATE_INVALID"
  match state.state with
  | .ATTEMPTED => require (state.receipt = none) "WITHDRAWAL_STATE_INVALID"
  | _ =>
    let receipt ← demand state.receipt "WITHDRAWAL_RECEIPT_REQUIRED"
    requireReceipt d receipt state.request

/-- The files of the directory: the states, in the order in which they were published, and
whether a file is left that was not moved. -/
structure StateStore where
  states : List WithdrawalState := []
  partialWrite : Bool := false

/-- The last phase of a withdrawal, when its phases follow one another. -/
def latestOf (phases : List WithdrawalState) : Except String WithdrawalState :=
  match phases with
  | [a] => do
    require (a.state = .ATTEMPTED) "WITHDRAWAL_HISTORY_INVALID"
    pure a
  | [a, r] => do
    require (a.state = .ATTEMPTED ∧ r.state = .RECEIPT_STORED ∧ SameOperation a r)
      "WITHDRAWAL_HISTORY_INVALID"
    pure r
  | [a, r, c] => do
    require (a.state = .ATTEMPTED ∧ r.state = .RECEIPT_STORED ∧ c.state = .COMPLETED ∧
      SameOperation a r ∧ SameOperation a c ∧ c.receipt = r.receipt) "WITHDRAWAL_HISTORY_INVALID"
    pure c
  | _ => throw "WITHDRAWAL_HISTORY_INVALID"

def phasesOf (states : List WithdrawalState) (requestId : String) : List WithdrawalState :=
  (states.filter fun s => s.request.requestId = requestId).insertionSort fun a b =>
    a.state.number ≤ b.state.number

def readHistory (store : StateStore) : Except String (List WithdrawalState) := do
  require (store.partialWrite = false) "WITHDRAWAL_PARTIAL_WRITE"
  let _ ← store.states.mapM (validate d)
  (store.states.map fun s => s.request.requestId).dedup.mapM fun requestId =>
    latestOf (phasesOf store.states requestId)

def readLatest (store : StateStore) (requestId : Option String) :
    Except String (Option WithdrawalState) := do
  let latest ← readHistory d store
  let pending := latest.filter fun s => s.state ≠ .COMPLETED
  require (pending.length ≤ 1) "WITHDRAWAL_HISTORY_AMBIGUOUS"
  match requestId with
  | none => pure pending.head?
  | some id => pure (latest.find? fun s => s.request.requestId = id)

/-- `Begin`, to the state that it publishes. -/
def begin (store : StateStore) (request : ProfileWithdrawalRequest)
    (origin settingsSha256 : String) : Except String WithdrawalState := do
  let origin ← normalize d origin
  let attempted : WithdrawalState :=
    { state := .ATTEMPTED, request, origin, settingsSha256, receipt := none }
  validate d attempted
  let historical ← readLatest d store (some request.requestId)
  match historical with
  | some historical =>
    require (SameOperation historical attempted) "WITHDRAWAL_STATE_CHANGED"
    throw "WITHDRAWAL_ALREADY_ATTEMPTED"
  | none =>
    let previous ← readLatest d store none
    require (∀ state ∈ previous, state.state = .COMPLETED) "WITHDRAWAL_ALREADY_PENDING"
    require (∀ state ∈ store.states, state.request.requestId ≠ request.requestId)
      "WITHDRAWAL_REQUEST_ALREADY_EXISTS"
    pure attempted

/-- `Advance`, to the state that it returns, and whether this one is published. -/
def advance (store : StateStore) (expected : WithdrawalState) (state : Phase)
    (receipt : Option ProfileWithdrawalReceipt) : Except String (WithdrawalState × Bool) := do
  validate d expected
  let current ← demand (← readLatest d store (some expected.request.requestId))
    "WITHDRAWAL_STATE_MISSING"
  require (SameOperation current expected) "WITHDRAWAL_STATE_CHANGED"
  let next := { expected with state, receipt }
  validate d next
  if current = next then pure (current, false)
  else do
    require (current = expected ∧ state.number = current.state.number + 1)
      "WITHDRAWAL_STATE_TRANSITION_REFUSED"
    pure (next, true)

/-! ### What a removal finds -/

inductive ProfileRemovalResult
  | Removed (snapshot : ProtectedProfileSnapshot)
  | AlreadyAbsent

def remove (profile : Option (List UInt8)) (state : WithdrawalState) :
    Except String ProfileRemovalResult := do
  validate d state
  require (state.state = .RECEIPT_STORED) "WITHDRAWAL_RECEIPT_REQUIRED"
  match profile with
  | none => pure .AlreadyAbsent
  | some file =>
    let snapshot ← decode d file
    requireBoundProfile d state snapshot
    pure (.Removed snapshot)

/-! ### What is read of the directory -/

variable {d} {store : StateStore} {state next expected : WithdrawalState}

def StateStore.Pending (store : StateStore) (requestId : String) : Prop :=
  ∀ s ∈ store.states, s.request.requestId = requestId → s.state ≠ .COMPLETED

theorem mem_phasesOf {states : List WithdrawalState} {requestId : String} :
    state ∈ phasesOf states requestId ↔ state ∈ states ∧ state.request.requestId = requestId := by
  simp [phasesOf, mem_insertionSort]

/-- **The last phase is one of them**, and when it is not the third one there is no third one. -/
theorem latestOf_ok {phases : List WithdrawalState} (h : latestOf phases = .ok state) :
    state ∈ phases ∧ (state.state ≠ .COMPLETED → ∀ s ∈ phases, s.state ≠ .COMPLETED) := by
  rw [latestOf.eq_def] at h
  split at h
  · simp only [ok_iff] at h
    obtain ⟨-, ha, rfl⟩ := h
    refine ⟨mem_singleton_self _, fun hne s hs => ?_⟩
    obtain rfl := mem_singleton.mp hs
    exact hne
  · rename_i a r
    simp only [ok_iff] at h
    obtain ⟨-, ⟨ha, hr, -⟩, rfl⟩ := h
    refine ⟨by simp, fun hne s hs => ?_⟩
    rcases mem_cons.mp hs with rfl | hs
    · rw [ha]
      decide
    · obtain rfl := mem_singleton.mp hs
      exact hne
  · simp only [ok_iff] at h
    obtain ⟨-, ⟨-, -, hc, -⟩, rfl⟩ := h
    exact ⟨by simp, fun hne => absurd hc hne⟩
  · cases h

/-- **What is read of the directory**: valid states of it, one for every withdrawal, each of them
the last of its withdrawal. -/
theorem readHistory_ok {latest : List WithdrawalState} (h : readHistory d store = .ok latest) :
    (∀ s ∈ latest, s ∈ store.states ∧ validate d s = .ok () ∧
      (s.state ≠ .COMPLETED → store.Pending s.request.requestId)) ∧
    ∀ s ∈ store.states, ∃ l ∈ latest, l.request.requestId = s.request.requestId := by
  simp only [readHistory, ok_iff] at h
  obtain ⟨-, -, valid, hvalid, hlatest⟩ := h
  have hmem : ∀ {requestId : String} {l : WithdrawalState},
      latestOf (phasesOf store.states requestId) = .ok l →
      l ∈ store.states ∧ l.request.requestId = requestId := fun hl =>
    mem_phasesOf.mp (latestOf_ok hl).1
  constructor
  · intro s hs
    obtain ⟨requestId, -, hl⟩ := exists_of_forall₂ (mapM_ok_iff.mp hlatest).flip hs
    obtain ⟨hstored, rfl⟩ := hmem hl
    obtain ⟨u, -, hu⟩ := exists_of_mapM hvalid hstored
    refine ⟨hstored, hu, fun hne t ht hid => ?_⟩
    exact (latestOf_ok hl).2 hne t (mem_phasesOf.mpr ⟨ht, hid⟩)
  · intro s hs
    obtain ⟨l, hl, hok⟩ := exists_of_mapM hlatest
      (mem_dedup.mpr (mem_map_of_mem (f := fun s => s.request.requestId) hs))
    exact ⟨l, hl, (hmem hok).2⟩

/-- **The withdrawal that is not completed**, when there is one. -/
theorem readLatest_none_ok {found : Option WithdrawalState}
    (h : readLatest d store none = .ok found) :
    (∀ s ∈ found, s ∈ store.states ∧ validate d s = .ok () ∧ store.Pending s.request.requestId ∧
      s.state ≠ .COMPLETED) ∧
    (found = none → ∀ s ∈ store.states, ¬store.Pending s.request.requestId) := by
  simp only [readLatest, ok_iff] at h
  obtain ⟨latest, hlatest, -, -, rfl⟩ := h
  obtain ⟨hread, hall⟩ := readHistory_ok hlatest
  constructor
  · intro s hs
    have hmem := mem_of_mem_head? hs
    rw [mem_filter, decide_eq_true_eq] at hmem
    obtain ⟨hstored, hvalid, hpend⟩ := hread s hmem.1
    exact ⟨hstored, hvalid, hpend hmem.2, hmem.2⟩
  · intro hnone s hs hpend
    obtain ⟨l, hl, hid⟩ := hall s hs
    have hdone : l.state = .COMPLETED := by
      by_contra hne
      have hmem : l ∈ latest.filter fun s => s.state ≠ .COMPLETED :=
        mem_filter.mpr ⟨hl, by simpa using hne⟩
      rw [head?_eq_none_iff.mp hnone] at hmem
      cases hmem
    exact hpend l (hread l hl).1 hid hdone

/-- **The last phase of a withdrawal.** -/
theorem readLatest_some_ok {requestId : String} {found : Option WithdrawalState}
    (h : readLatest d store (some requestId) = .ok found) :
    ∀ s ∈ found, s ∈ store.states ∧ s.request.requestId = requestId ∧
      (s.state ≠ .COMPLETED → store.Pending requestId) := by
  simp only [readLatest, ok_iff] at h
  obtain ⟨latest, hlatest, -, -, rfl⟩ := h
  intro s hs
  have hid : s.request.requestId = requestId := by simpa using find?_some hs
  obtain ⟨hstored, -, hpend⟩ := (readHistory_ok hlatest).1 s (mem_of_find?_eq_some hs)
  exact ⟨hstored, hid, hid ▸ hpend⟩

/-- **What a beginning publishes**: a request that no file names, while no other one is
pending. -/
theorem begin_ok {request : ProfileWithdrawalRequest} {origin settingsSha256 : String}
    (h : begin d store request origin settingsSha256 = .ok state) :
    state.state = .ATTEMPTED ∧ state.request = request ∧
      (∀ s ∈ store.states, s.request.requestId ≠ request.requestId) ∧
      ∀ s ∈ store.states, ¬store.Pending s.request.requestId := by
  simp only [begin, bind_ok_iff] at h
  obtain ⟨origin', -, -, -, historical, -, h⟩ := h
  cases historical with
  | some historical =>
    simp only [bind_ok_iff] at h
    obtain ⟨-, -, h⟩ := h
    cases h
  | none =>
    simp only [ok_iff] at h
    obtain ⟨previous, hprev, -, hdone, -, hnew, rfl⟩ := h
    obtain ⟨hfound, hnone⟩ := readLatest_none_ok hprev
    refine ⟨rfl, rfl, hnew, hnone ?_⟩
    cases previous with
    | none => rfl
    | some s => exact absurd (hdone s rfl) (hfound s rfl).2.2.2

/-- **What an advance returns**: the next phase, which is in the directory already or follows the
one that is its last. -/
theorem advance_ok {phase : Phase} {receipt : Option ProfileWithdrawalReceipt} {publish : Bool}
    (h : advance d store expected phase receipt = .ok (next, publish)) :
    next = { expected with state := phase, receipt } ∧ validate d next = .ok () ∧
      (publish = false → next ∈ store.states ∧
        (phase ≠ .COMPLETED → store.Pending expected.request.requestId)) ∧
      (publish = true → expected ∈ store.states ∧ phase.number = expected.state.number + 1 ∧
        store.Pending expected.request.requestId) := by
  simp only [advance, ok_iff] at h
  obtain ⟨-, -, found, hfound, current, rfl, -, -, ⟨⟩, hvalid, h⟩ := h
  obtain ⟨hstored, -, hpend⟩ := readLatest_some_ok hfound current rfl
  split at h
  · rename_i hnext
    cases h
    refine ⟨hnext, hnext ▸ hvalid, fun _ => ⟨hstored, fun hne => hpend ?_⟩,
      (by intro h; cases h)⟩
    rw [hnext]
    exact hne
  · simp only [ok_iff] at h
    obtain ⟨-, ⟨rfl, hnumber⟩, rfl, rfl⟩ := h
    refine ⟨rfl, hvalid, (by intro h; cases h), fun _ => ⟨hstored, hnumber, hpend ?_⟩⟩
    intro hdone
    rw [hdone] at hnumber
    cases phase <;> cases hnumber

theorem receipt_of_validate (h : validate d state = .ok ()) (hne : state.state ≠ .ATTEMPTED) :
    ∃ receipt, state.receipt = some receipt ∧ requireReceipt d receipt state.request = .ok () := by
  simp only [validate, bind_ok_iff] at h
  obtain ⟨-, -, -, -, -, -, h⟩ := h
  cases hstate : state.state with
  | ATTEMPTED => exact absurd hstate hne
  | RECEIPT_STORED =>
    obtain ⟨receipt, hrec, h⟩ := h
    exact ⟨receipt, demand_ok_iff.mp hrec, h⟩
  | COMPLETED =>
    obtain ⟨receipt, hrec, h⟩ := h
    exact ⟨receipt, demand_ok_iff.mp hrec, h⟩

/-- **A file is removed when it is the one the withdrawal is bound to.** -/
theorem remove_ok {profile : Option (List UInt8)} {result : ProfileRemovalResult}
    (h : remove d profile state = .ok result) :
    validate d state = .ok () ∧ state.state = .RECEIPT_STORED ∧
      match result with
      | .AlreadyAbsent => profile = none
      | .Removed snapshot => ∃ file, profile = some file ∧ decode d file = .ok snapshot ∧
          requireBoundProfile d state snapshot = .ok () := by
  simp only [remove, ok_iff] at h
  obtain ⟨⟨⟩, hvalid, -, hstate, h⟩ := h
  refine ⟨hvalid, hstate, ?_⟩
  cases profile with
  | none =>
    cases h
    rfl
  | some file =>
    simp only [ok_iff] at h
    obtain ⟨snapshot, hdecode, ⟨⟩, hbound, rfl⟩ := h
    exact ⟨file, rfl, hdecode, hbound⟩

end CrmYnov.Desktop
