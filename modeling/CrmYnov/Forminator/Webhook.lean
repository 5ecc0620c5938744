import CrmYnov.Base.Machine
import CrmYnov.Bootstrap.Contract

/-!
# The webhook of the forms

A form sends a lead with the instant of the request and an idempotency key. The signature covers
the instant and the payload, not the key; the service keeps, under each key, the digest of the
payload it has accepted.

What is accepted is signed, and a key stays with its payload for good
(`CrmYnov.Forminator.webhook_never_twice`): whatever comes in between, it is accepted as new at
most once. A request that is refused is counted in its minute at most. The same signed request
under another key is another event.
-/

namespace CrmYnov.Forminator

open Checked Js Machine Option

/-! ### The service -/

/-- The functions of the runtime, with the digests under a secret. -/
structure WebhookRuntime extends Bootstrap.ImportRuntime where
  /-- `createHmac("sha256", secret).update(text).digest("hex")` -/
  hmac : String → String → String

/-- What the service is given: `FORMINATOR_WEBHOOK_SECRET` and `FORMINATOR_WEBHOOK_ENABLED`. -/
structure WebhookConfiguration where
  secret : String
  enabled : Bool

structure ForminatorWebhookHeaders where
  (timestamp signature idempotencyKey : String)

structure WebhookRequest where
  headers : ForminatorWebhookHeaders
  payload : Json
  now : Instant

structure ForminatorWebhookResult where
  accepted : Bool := true
  replayed : Bool
  eventDigest : String
  mutated : Bool := false

structure WebhookState where
  receipts : Dict String String := .empty
  rateBuckets : Dict ℤ ℕ := .empty

mutual

/-- `String(value)`: a member in the place of `toString` cannot be called. -/
def coerced : Json → Outcome String
  | .null => pure "null"
  | .bool value => pure (if value then "true" else "false")
  | .num digits => pure digits
  | .str text => pure text
  | .arr items => do pure (",".intercalate (← coercedItems items))
  | .obj members => do
    require ((members.all fun m => m.1 != "toString") = true)
      (.error "Cannot convert object to primitive value")
    pure "[object Object]"

def coercedItems : List Json → Outcome (List String)
  | [] => pure []
  | .null :: items => do pure ("" :: (← coercedItems items))
  | item :: items => do
    let text ← coerced item
    pure (text :: (← coercedItems items))

end

/-- `String(payload[name])` -/
def coercedMember (payload : Json) (name : String) : Outcome String :=
  (payload.member name).elim (pure "undefined") coerced

/-- `/^[A-Za-z0-9_-]{8,128}$/` -/
def isEventKey (text : String) : Bool :=
  fullMatch (fun c => isAlnum c || c == '_' || c == '-') 8 128 text

/-- `/^sha256=[a-f0-9]{64}$/` -/
def isSignature (text : String) : Bool :=
  startsWith "sha256=" text &&
    fullMatch isHexDigit 64 64 (String.ofList (text.toList.drop 7))

/-- The instant of a header, in seconds or in milliseconds. -/
def headerInstant (timestamp : String) : Instant :=
  Nat.ofDigitChars 10 timestamp.toList 0 * if timestamp.toList.length = 10 then 1000 else 1

def validateHeaders (headers : ForminatorWebhookHeaders) (now : Instant) : Outcome Unit := do
  require (fullMatch isDigit 10 13 headers.timestamp ∧ isSignature headers.signature ∧
      isEventKey headers.idempotencyKey)
    (.badRequest "forminator_headers_invalid")
  require ((now - headerInstant headers.timestamp).natAbs ≤ 300000)
    (.http .unauthorized "forminator_timestamp_expired")

/-- `text(value, max)` -/
def isText (value : Option Json) (max : ℕ) : Bool :=
  (value.bind Json.text?).any fun text =>
    present text && length text ≤ max && text.toList.all fun c => c.toNat ∉ [0, 10, 13]

def leadFields : List String :=
  ["firstName", "lastName", "email", "phone", "educationLevel", "program", "source", "campaign"]

/-- `Object.keys(lead)` -/
def fieldNames : Option Json → List String
  | some (.obj members) => members.map Prod.fst
  | _ => []

variable (rt : WebhookRuntime) (config : WebhookConfiguration)

def validatePayload (payload : Json) : Outcome Unit := do
  let invalid : Failure := .badRequest "forminator_payload_invalid"
  require ((payload.member "schemaVersion").bind Json.text? = some "1") invalid
  let eventId ← coercedMember payload "eventId"
  require (isEventKey eventId = true) invalid
  let occurredAt ← coercedMember payload "occurredAt"
  require ((rt.parseDate occurredAt).isSome = true) invalid
  let lead := payload.member "lead"
  let field := fun name => lead.bind (Json.member name)
  require (isText (field "firstName") 100 ∧ isText (field "lastName") 100 ∧
      isText (field "educationLevel") 100 ∧ isText (field "program") 160) invalid
  let email := (field "email").filter Json.truthy
  let phone := (field "phone").filter Json.truthy
  require ((email.isSome ∨ phone.isSome) ∧ (email.isSome → isText email 254) ∧
      (phone.isSome → isText phone 32))
    (.badRequest "forminator_identity_invalid")
  require (∀ name ∈ fieldNames lead, name ∈ leadFields) (.badRequest "forminator_unknown_field")

/-- `enforceRateLimit`, with the minutes it leaves. -/
def enforceRateLimit (buckets : Dict ℤ ℕ) (now : Instant) : Outcome Unit × Dict ℤ ℕ :=
  let bucket := now / 60000
  let count := (buckets.get bucket).getD 0 + 1
  let kept := Dict.ofList (buckets.entries.rows.filter fun e => bucket - 1 ≤ e.1)
  if 60 < count then (.error (.http .tooManyRequests "forminator_rate_limited"), kept)
  else (.ok (), kept.set bucket count)

/-- `canonical(payload)`: what the payload is signed and kept by. -/
def canonicalizeForminatorPayload (payload : Json) : String :=
  Json.stringify (Bootstrap.canonical rt.collate payload)

/-- The request is signed under the secret of the service. -/
def Authentic (request : WebhookRequest) : Prop :=
  request.headers.signature = "sha256=" ++ rt.hmac config.secret
    (request.headers.timestamp ++ "." ++ canonicalizeForminatorPayload rt request.payload)
deriving Decidable

/-- What is asked of a request before it is counted. -/
def screen (request : WebhookRequest) : Outcome Unit := do
  require (config.enabled ∧ 32 ≤ length config.secret)
    (.http .serviceUnavailable "forminator_webhook_disabled")
  validateHeaders request.headers request.now
  validatePayload rt request.payload

/-- The signature and the receipts: the answer to a request that has been counted, and the
receipts it leaves. -/
def verify (receipts : Dict String String) (request : WebhookRequest) :
    Outcome (ForminatorWebhookResult × Dict String String) := do
  require (Authentic rt config request) (.http .unauthorized "forminator_signature_invalid")
  let digest := rt.sha256 (canonicalizeForminatorPayload rt request.payload)
  let existing := receipts.get request.headers.idempotencyKey
  let held := existing.filter fun text => text != ""
  require (∀ text ∈ held, text = digest) (.conflict "forminator_idempotency_conflict")
  pure ({ replayed := existing = some digest, eventDigest := slice 24 digest },
    if held.isSome then receipts else receipts.set request.headers.idempotencyKey digest)

/-- `receive`: the minute is counted before the signature is verified. -/
def receive (s : WebhookState) (request : WebhookRequest) :
    Outcome ForminatorWebhookResult × WebhookState :=
  match screen rt config request with
  | .error e => (.error e, s)
  | .ok () =>
    let (limited, rateBuckets) := enforceRateLimit s.rateBuckets request.now
    match limited with
    | .error e => (.error e, { s with rateBuckets })
    | .ok () =>
      match verify rt config s.receipts request with
      | .error e => (.error e, { s with rateBuckets })
      | .ok (result, receipts) => (.ok result, { receipts, rateBuckets })

def webhook : Machine WebhookState WebhookRequest (Outcome ForminatorWebhookResult) where
  step := receive rt config

/-! ### Receipts -/

variable {rt config} {s : WebhookState} {request : WebhookRequest}

/-- **A request** is refused and leaves the receipts as they are, or is verified. -/
theorem receive_cases :
    (∃ e, (webhook rt config).answer s request = .error e ∧
      ((webhook rt config).next s request).receipts = s.receipts) ∨
    ∃ result receipts, verify rt config s.receipts request = .ok (result, receipts) ∧
      (webhook rt config).answer s request = .ok result ∧
      ((webhook rt config).next s request).receipts = receipts := by
  simp only [answer, next, webhook, receive]
  split
  · exact .inl ⟨_, rfl, rfl⟩
  · split
    · exact .inl ⟨_, rfl, rfl⟩
    · split
      · exact .inl ⟨_, rfl, rfl⟩
      · rename_i result receipts hverify
        exact .inr ⟨result, receipts, hverify, rfl, rfl⟩

theorem receipts_of_refused {e : Failure} (h : (webhook rt config).answer s request = .error e) :
    ((webhook rt config).next s request).receipts = s.receipts := by
  rcases @receive_cases rt config s request with ⟨-, -, hkept⟩ | ⟨result, -, -, hok, -⟩
  · exact hkept
  · rw [hok] at h
    cases h

def WebhookRequest.digest (rt : WebhookRuntime) (request : WebhookRequest) : String :=
  rt.sha256 (canonicalizeForminatorPayload rt request.payload)

/-- **What is verified** is signed, and its key holds its payload from then on, as it did before
if it held one. -/
theorem verify_ok {receipts receipts' : Dict String String} {result : ForminatorWebhookResult}
    (h : verify rt config receipts request = .ok (result, receipts')) :
    Authentic rt config request ∧
      receipts'.get request.headers.idempotencyKey = some (request.digest rt) ∧
      (∀ key text, receipts.get key = some text → text ≠ "" → receipts'.get key = some text) ∧
      ∀ text, receipts.get request.headers.idempotencyKey = some text → text ≠ "" →
        text = request.digest rt ∧ result.replayed = true := by
  simp only [verify, ok_iff] at h
  obtain ⟨-, hsigned, -, hheld, rfl, rfl⟩ := h
  refine ⟨hsigned, ?_, fun key text hkey htext => ?_, fun text hkey htext => ?_⟩
  · split
    · rename_i hsome
      obtain ⟨text, htext⟩ := isSome_iff_exists.mp hsome
      rw [WebhookRequest.digest, ← hheld text htext]
      exact (filter_eq_some_iff.mp htext).1
    · exact Dict.get_set_self _ _ _
  · split
    · exact hkey
    · rename_i hnone
      rw [Dict.get_set_of_ne, hkey]
      rintro rfl
      exact hnone (by rw [hkey, filter_some, if_pos (bne_iff_ne.mpr htext)]; rfl)
  · have hdigest : text = request.digest rt :=
      hheld text (by rw [hkey, filter_some, if_pos (bne_iff_ne.mpr htext)]; rfl)
    exact ⟨hdigest, decide_eq_true (by rw [hkey, hdigest, WebhookRequest.digest])⟩

theorem held_next {key text : String} (htext : text ≠ "") (request : WebhookRequest)
    (h : s.receipts.get key = some text) :
    ((webhook rt config).next s request).receipts.get key = some text := by
  rcases @receive_cases rt config s request with
    ⟨e, -, hkept⟩ | ⟨result, receipts, hverify, -, hrecs⟩
  · rw [hkept, h]
  · rw [hrecs]
    obtain ⟨-, -, hother, -⟩ := verify_ok hverify
    exact hother key text h htext

theorem verify_of_answer {result : ForminatorWebhookResult}
    (h : (webhook rt config).answer s request = .ok result) :
    ∃ receipts, verify rt config s.receipts request = .ok (result, receipts) ∧
      ((webhook rt config).next s request).receipts = receipts := by
  rcases @receive_cases rt config s request with
    ⟨e, herror, -⟩ | ⟨result', receipts, hverify, hok, hrecs⟩
  · rw [herror] at h
    cases h
  · rw [hok] at h
    cases h
    exact ⟨receipts, hverify, hrecs⟩

/-- **A key is accepted as new once**: in every run, a request that is refused leaves the receipts
as they are; one that is accepted is signed, and whatever comes in between, another that is
accepted under its key has its payload and is answered as a replay. -/
theorem webhook_never_twice (hdigest : Function.Injective rt.sha256)
    (hpresent : ∀ text, rt.sha256 text ≠ "") (s₀ : WebhookState)
    (before between : List WebhookRequest) (a b : WebhookRequest) :
    (∀ e, (webhook rt config).answer ((webhook rt config).run s₀ before) a = .error e →
      ((webhook rt config).run s₀ (before ++ [a])).receipts =
        ((webhook rt config).run s₀ before).receipts) ∧
    ∀ result, (webhook rt config).answer ((webhook rt config).run s₀ before) a = .ok result →
      Authentic rt config a ∧ ∀ result', (webhook rt config).answer
          ((webhook rt config).run s₀ (before ++ a :: between)) b = .ok result' →
        b.headers.idempotencyKey = a.headers.idempotencyKey →
          canonicalizeForminatorPayload rt b.payload = canonicalizeForminatorPayload rt a.payload ∧
          result'.replayed = true := by
  refine ⟨fun e he => ?_, fun result hresult => ?_⟩
  · rw [run_append]
    exact receipts_of_refused he
  · obtain ⟨receipts, hverify, hrecs⟩ := verify_of_answer hresult
    obtain ⟨hsigned, hheld, -⟩ := verify_ok hverify
    refine ⟨hsigned, fun result' hresult' hkey => ?_⟩
    rw [run_append, run_cons] at hresult'
    have hstill := run_of_stable (M := webhook rt config)
      (fun s request (hs : s.receipts.get a.headers.idempotencyKey = some (a.digest rt)) =>
        held_next (hpresent _) request hs) (hrecs ▸ hheld) between
    obtain ⟨receipts', hverify', -⟩ := verify_of_answer hresult'
    obtain ⟨-, -, -, hsame⟩ := verify_ok hverify'
    obtain ⟨hequal, hreplayed⟩ := hsame _ (by rw [hkey]; exact hstill) (hpresent _)
    exact ⟨(hdigest hequal).symm, hreplayed⟩

namespace Sample

/-- A runtime that tells texts apart. -/
def runtime : WebhookRuntime where
  toImportRuntime := { Bootstrap.ImportRuntime.plain with
    sha256 := fun text => "x" ++ text
    parseDate := fun _ => some 0 }
  hmac _ _ := "aaaaaaaaaaaaaaaaaaaaaaaaaaaaaaaaaaaaaaaaaaaaaaaaaaaaaaaaaaaaaaaa"

def configuration : WebhookConfiguration := ⟨"synthetic-only-webhook-secret-0001", true⟩

def lead : Json := .obj [("schemaVersion", .str "1"), ("eventId", .str "synthetic-event-0001"),
  ("occurredAt", .str "2026-08-23T11:59:00Z"), ("lead", .obj [("firstName", .str "Ada"),
    ("lastName", .str "Lovelace"), ("email", .str "lead@example.invalid"),
    ("educationLevel", .str "BAC"), ("program", .str "info")])]

def sent (idempotencyKey : String) : WebhookRequest where
  headers := ⟨"1787486400", "sha256=" ++ runtime.hmac "" "", idempotencyKey⟩
  payload := lead
  now := 1787486400000

end Sample

open Sample

/-- The same signed request under two keys is new twice. -/
theorem twice_under_two_keys :
    Authentic runtime configuration (sent "synthetic-event-0001") ∧
    Authentic runtime configuration (sent "synthetic-event-0002") ∧
    ((webhook runtime configuration).trace {}
      [sent "synthetic-event-0001", sent "synthetic-event-0002"]).map
        (fun answer => answer.toOption.map ForminatorWebhookResult.replayed) =
          [some false, some false] := by
  decide +kernel

/-- The same request under the same key is a replay. -/
theorem webhook_never_twice_again :
    ((webhook runtime configuration).answer
      ((webhook runtime configuration).run {} [sent "synthetic-event-0001"])
      (sent "synthetic-event-0001")).toOption.map ForminatorWebhookResult.replayed = some true := by
  have hchars : ∀ text, (runtime.sha256 text).toList = 'x' :: text.toList := fun text =>
    String.toList_append
  have hinjective : Function.Injective runtime.sha256 := fun text text' h =>
    String.toList_inj.mp (List.cons.inj (hchars text ▸ hchars text' ▸ congrArg String.toList h)).2
  have hpresent : ∀ text, runtime.sha256 text ≠ "" := fun text h => by
    have hempty := hchars text
    rw [h] at hempty
    cases hempty
  have hrun : ((webhook runtime configuration).trace {}
      [sent "synthetic-event-0001", sent "synthetic-event-0001"]).all
        (fun answer => answer.toOption.isSome) = true := by decide +kernel
  have haccepts : ∀ {x : Outcome ForminatorWebhookResult}, x.toOption.isSome = true →
      ∃ result, x = .ok result := fun {x} h => by
    cases x with
    | error e => cases h
    | ok result => exact ⟨result, rfl⟩
  simp only [trace, List.all_cons, Bool.and_eq_true] at hrun
  obtain ⟨hfirst, hsecond, -⟩ := hrun
  obtain ⟨result, hresult⟩ := haccepts hfirst
  obtain ⟨result', hresult'⟩ := haccepts hsecond
  obtain ⟨-, hagain⟩ := (webhook_never_twice hinjective hpresent {} [] []
    (sent "synthetic-event-0001") (sent "synthetic-event-0001")).2 result hresult
  rw [run_cons, run_nil, hresult']
  exact congrArg some (hagain result' hresult' rfl).2

end CrmYnov.Forminator
