import CrmYnov.Base.Checked
import CrmYnov.Base.Growth
import CrmYnov.Js.Json
import Mathlib.Data.List.Sort
import Mathlib.Algebra.Order.Ring.Int

/-!
# The journal of the business mail

A mail is sent once its delivery is reserved. Reservations are made one at a time, under a lock of
the database, each in a transaction of its own that is committed before anything is sent
(`CrmYnov.BusinessMail.reserveSending`). The delivery is under the key of what is announced: a key
that is taken is not reserved again. A reservation is refused when one of the budgets is spent,
and when it warns of a follow-up too soon after an earlier mail.

A delivery is *sending* until its emission is confirmed or known to be uncertain; then it does not
change any more (`CrmYnov.BusinessMail.Settles`). Times are in microseconds.
-/

namespace CrmYnov.BusinessMail

open Checked Js

/-! ### Recipients -/

/-- `BusinessMailType` -/
inductive MailType
  | FOLLOW_UP_DUE | FOLLOW_UP_OVERDUE | FIRST_TREATMENT_OVERDUE | CONFIRMATION_EXPECTED
  | RETURN_EXPECTED
deriving DecidableEq

def MailType.text : MailType → String
  | FOLLOW_UP_DUE => "FOLLOW_UP_DUE"
  | FOLLOW_UP_OVERDUE => "FOLLOW_UP_OVERDUE"
  | FIRST_TREATMENT_OVERDUE => "FIRST_TREATMENT_OVERDUE"
  | CONFIRMATION_EXPECTED => "CONFIRMATION_EXPECTED"
  | RETURN_EXPECTED => "RETURN_EXPECTED"

/-- `startsWith("FOLLOW_UP_")` -/
def MailType.OfFollowUp (type : MailType) : Prop :=
  type = .FOLLOW_UP_DUE ∨ type = .FOLLOW_UP_OVERDUE
deriving Decidable

/-- `/^[a-zA-Z0-9_-]{1,hi}$/` -/
def isIdentifier (hi : ℕ) (text : String) : Bool :=
  fullMatch (fun c => isAlnum c || c == '_' || c == '-') 1 hi text

/-- `/^[a-f0-9]{64}$/` -/
def isDigest (text : String) : Bool := fullMatch isHexDigit 64 64 text

/-- `[a-zA-Z0-9.!#$%&'*+/=?^_…~-]`, with the backquote, the bar and the braces. -/
def isLocalChar (c : Char) : Bool := isAlnum c || c ∈ ".!#$%&'*+/=?^_`\x7b|\x7d~-".toList

/-- `email`: a local part, then at least two labels. -/
def isMailAddress (text : String) : Bool :=
  let local' := text.toList.takeWhile fun c => c != '@'
  let labels := (text.toList.dropWhile fun c => c != '@').tail.splitOn '.'
  text.toList.length ≤ 254 && !local'.isEmpty && local'.all isLocalChar && 2 ≤ labels.length &&
    labels.all fun label => !label.isEmpty && label.all fun c => isAlnum c || c == '-'

def lowerAddress (text : String) : String := String.ofList (text.toList.map lowerChar)

inductive RecipientRole
  | TO | CC
deriving DecidableEq

def RecipientRole.text : RecipientRole → String
  | TO => "TO"
  | CC => "CC"

structure MailRecipientSnapshot where
  version : ℕ
  (userId address : String)
  role : RecipientRole
  campusId : String
  campaignId : Option String

def MailRecipientSnapshot.json (row : MailRecipientSnapshot) : Json :=
  .arr [.num (toString row.version), .str row.userId, .str row.address, .str row.role.text,
    .str row.campusId, (row.campaignId.map Json.str).getD .null]

/-- A row of `canonicalMailRecipients`, at its place. -/
def MailRecipientSnapshot.Valid (first row : MailRecipientSnapshot) (index : ℕ) : Prop :=
  row.version = 1 ∧ isIdentifier 100 row.userId ∧ isMailAddress row.address ∧
    row.role = (if index = 0 then .TO else .CC) ∧ isIdentifier 100 row.campusId ∧
    (∀ id ∈ row.campaignId, isIdentifier 100 id) ∧ row.campusId = first.campusId ∧
    row.campaignId = first.campaignId
deriving Decidable

def canonicalMailRecipients (rows : List MailRecipientSnapshot) : Except String String := do
  require (1 ≤ rows.length ∧ rows.length ≤ 100 ∧
    (∀ first ∈ rows.head?, ∀ e ∈ rows.zipIdx, first.Valid e.1 e.2) ∧
    (rows.map MailRecipientSnapshot.userId).Nodup ∧
    (rows.map fun row => lowerAddress row.address).Nodup)
    "business_mail_recipient_evidence_invalid"
  pure (Json.stringify (.arr (rows.map MailRecipientSnapshot.json)))

/-! ### Deliveries -/

structure MailSendingLimits where
  (messagesPerHour messagesPerDay recipientsPerHour recipientsPerDay warningIntervalHours : ℤ)

structure MailJournalInput where
  key : String
  eventType : MailType
  (resourceId templateVersion fingerprint : String)
  recipientSnapshots : List MailRecipientSnapshot
  limits : MailSendingLimits

/-- `MailJournalState` -/
inductive DeliveryStatus
  | SENDING | ACCEPTED | UNCERTAIN
deriving DecidableEq

/-- `MailUncertaintyCode` -/
inductive UncertaintyCode
  | TRANSPORT_UNCONFIRMED | PROCESS_INTERRUPTED | ACCEPTANCE_COMMIT_UNCONFIRMED

/-- A row of `business_mail_deliveries`. -/
structure DeliveryRow where
  key : String
  eventType : MailType
  (resourceId templateVersion fingerprint : String)
  recipients : List MailRecipientSnapshot
  status : DeliveryStatus := .SENDING
  sendingToken : String
  sendingAt : ℤ
  acceptedAt : Option ℤ := none
  uncertainAt : Option ℤ := none
  providerMessageId : Option String := none
  uncertaintyCode : Option UncertaintyCode := none

/-- What is unique in `business_mail_deliveries`. -/
inductive DeliveryKey
  | key (key : String)
  | sendingToken (token : String)
deriving DecidableEq

def DeliveryRow.keys (row : DeliveryRow) : List DeliveryKey :=
  [.key row.key, .sendingToken row.sendingToken]

/-- `business_mail_deliveries` -/
abbrev Deliveries := Table DeliveryRow DeliveryRow.keys

/-- The columns the guard of the table keeps. -/
def DeliveryRow.identity (row : DeliveryRow) :=
  (row.key, row.eventType, row.resourceId, row.templateVersion, row.fingerprint, row.recipients,
    row.sendingToken, row.sendingAt)

/-! ### Budgets -/

def hour : ℤ := 3600000000

def day : ℤ := 24 * hour

/-- `to_timestamp(floor(extract(epoch FROM now)/span)*span)` -/
def windowStart (span now : ℤ) : ℤ := now / span * span

def recipientCount (rows : List DeliveryRow) : ℕ :=
  (rows.map fun row => row.recipients.length).sum

/-- The deliveries whose sending time is a given one or later. -/
def sentSince (start : ℤ) (rows : List DeliveryRow) : List DeliveryRow :=
  rows.filter fun row => start ≤ row.sendingAt

/-- Why a reservation is held. -/
inductive HoldReason
  | GLOBAL_BUDGET_REACHED | WARNING_CADENCE_HELD

def BudgetReached (limits : MailSendingLimits) (rows : List DeliveryRow) (recipients : ℕ) (now : ℤ) :
    Prop :=
  let ofHour := sentSince (windowStart hour now) (sentSince (windowStart day now) rows)
  let ofDay := sentSince (windowStart day now) rows
  limits.messagesPerHour ≤ ofHour.length ∨ limits.messagesPerDay ≤ ofDay.length ∨
    limits.recipientsPerHour < recipientCount ofHour + recipients ∨
    limits.recipientsPerDay < recipientCount ofDay + recipients
deriving Decidable

/-- A mail was sent of the follow-up since the interval began. -/
def WarnedRecently (limits : MailSendingLimits) (rows : List DeliveryRow) (resourceId : String)
    (now : ℤ) : Prop :=
  ∃ row ∈ rows, row.resourceId = resourceId ∧ row.eventType.OfFollowUp ∧
    now - limits.warningIntervalHours * hour < row.sendingAt
deriving Decidable

variable (t : Deliveries)

def quotaHold (input : MailJournalInput) (now : ℤ) : Option HoldReason :=
  if BudgetReached input.limits t.rows input.recipientSnapshots.length now then
    some .GLOBAL_BUDGET_REACHED
  else if input.eventType = .FOLLOW_UP_OVERDUE ∧
      WarnedRecently input.limits t.rows input.resourceId now then some .WARNING_CADENCE_HELD
  else none

/-! ### The statements -/

inductive MailSendingReservation
  | reserved (token : String)
  | retained (state : DeliveryStatus)
  | held (reason : HoldReason)

def MailSendingLimits.Valid (limits : MailSendingLimits) : Prop :=
  1 ≤ limits.messagesPerHour ∧ 1 ≤ limits.messagesPerDay ∧ 1 ≤ limits.recipientsPerHour ∧
    1 ≤ limits.recipientsPerDay ∧ 1 ≤ limits.warningIntervalHours ∧
    limits.messagesPerHour ≤ 1000 ∧ limits.messagesPerDay ≤ 24000 ∧
    limits.recipientsPerHour ≤ 10000 ∧ limits.recipientsPerDay ≤ 240000 ∧
    limits.messagesPerHour ≤ limits.messagesPerDay ∧
    limits.recipientsPerHour ≤ limits.recipientsPerDay ∧ limits.warningIntervalHours ≤ 720
deriving Decidable

def replay (row : DeliveryRow) (input : MailJournalInput) (recipients : String) :
    Except String DeliveryStatus := do
  require (row.fingerprint = input.fingerprint ∧ row.eventType = input.eventType ∧
    row.resourceId = input.resourceId ∧ row.templateVersion = input.templateVersion)
    "business_mail_journal_key_conflict"
  let retained ← canonicalMailRecipients row.recipients
  require (retained = recipients) "business_mail_journal_key_conflict"
  pure row.status

def deliveryOf (input : MailJournalInput) (token : String) (now : ℤ) : DeliveryRow where
  key := input.key
  eventType := input.eventType
  resourceId := input.resourceId
  templateVersion := input.templateVersion
  fingerprint := input.fingerprint
  recipients := input.recipientSnapshots
  sendingToken := token
  sendingAt := now

/-- `reserveSending`, under the lock of the reservations: `now` is when the transaction began,
before it waited for the lock. -/
def reserveSending (input : MailJournalInput) (token : String) (now : ℤ) :
    Except String (MailSendingReservation × Deliveries) := do
  require (isDigest input.key ∧ isDigest input.fingerprint ∧ isIdentifier 100 input.resourceId ∧
    isIdentifier 24 input.templateVersion) "business_mail_journal_input_invalid"
  let recipients ← canonicalMailRecipients input.recipientSnapshots
  require input.limits.Valid "business_mail_budget_invalid"
  match t.findUnique (.key input.key) with
  | some row => do
    let state ← replay row input recipients
    pure (.retained state, t)
  | none =>
    match quotaHold t input now with
    | some reason => pure (.held reason, t)
    | none => do
      let t' ← demand (t.create (deliveryOf input token now)) "unique_violation"
      pure (.reserved token, t')

/-- `/^[0-9a-f]{8}-[0-9a-f]{4}-4[0-9a-f]{3}-[89ab][0-9a-f]{3}-[0-9a-f]{12}$/` -/
def isToken (text : String) : Bool :=
  let hex (n : ℕ) : List (Char → Bool) := List.replicate n isHexDigit
  let dash (c : Char) : Bool := c == '-'
  let version (c : Char) : Bool := c == '4'
  let variant (c : Char) : Bool := c ∈ ['8', '9', 'a', 'b']
  hasShape (hex 8 ++ dash :: hex 4 ++ dash :: version :: hex 3 ++ dash :: variant :: hex 3 ++
    dash :: hex 12) text

def validateIdentity (key token : String) : Except String Unit :=
  require (isDigest key ∧ isToken token) "business_mail_journal_identity_invalid"

def DeliveryRow.HeldBy (row : DeliveryRow) (key token : String) : Prop :=
  row.key = key ∧ row.sendingToken = token ∧ row.status = .SENDING
deriving Decidable

def DeliveryRow.accept (providerMessageId : String) (now : ℤ) (row : DeliveryRow) : DeliveryRow :=
  { row with
    status := .ACCEPTED, acceptedAt := some now, providerMessageId := some providerMessageId }

def DeliveryRow.giveUp (code : UncertaintyCode) (now : ℤ) (row : DeliveryRow) : DeliveryRow :=
  { row with status := .UNCERTAIN, uncertainAt := some now, uncertaintyCode := some code }

def accepted (key token providerMessageId : String) (now : ℤ) :
    Except String (Bool × Deliveries) := do
  validateIdentity key token
  require (isIdentifier 128 providerMessageId) "business_mail_provider_id_invalid"
  pure (decide (t.count (fun row => row.HeldBy key token) = 1),
    t.updateMany (fun row => row.HeldBy key token) (DeliveryRow.accept providerMessageId now))

def uncertain (key token : String) (code : UncertaintyCode) (now : ℤ) :
    Except String (Bool × Deliveries) := do
  validateIdentity key token
  pure (decide (t.count (fun row => row.HeldBy key token) = 1),
    t.updateMany (fun row => row.HeldBy key token) (DeliveryRow.giveUp code now))

/-- `ORDER BY sending_at,key` -/
def DeliveryRow.Before (a b : DeliveryRow) : Prop :=
  a.sendingAt < b.sendingAt ∨ a.sendingAt = b.sendingAt ∧ a.key ≤ b.key
deriving Decidable

/-- The deliveries `retainInterrupted` takes; those another statement has locked are passed
over. -/
def interrupted (olderThan : ℤ) (limit : ℕ) (locked : List String) : List String :=
  (((t.rows.filter fun row => row.status = .SENDING ∧ row.sendingAt < olderThan ∧
    row.key ∉ locked).insertionSort DeliveryRow.Before).take limit).map DeliveryRow.key

def retainInterrupted (olderThan : ℤ) (limit : ℕ) (locked : List String) (now : ℤ) :
    Except String Deliveries := do
  require (olderThan ≤ now ∧ 1 ≤ limit ∧ limit ≤ 100) "business_mail_recovery_invalid"
  pure (t.updateMany (fun row => row.key ∈ interrupted t olderThan limit locked ∧
    row.status = .SENDING) (DeliveryRow.giveUp .PROCESS_INTERRUPTED now))

/-! ### What the statements do -/

/-- A sending delivery is confirmed or given up. -/
def Settles (row row' : DeliveryRow) : Prop :=
  row.status = .SENDING ∧ row'.status ≠ .SENDING ∧ row'.identity = row.identity

/-- What a statement does to the deliveries: nothing, or it settles some of them, or it reserves
one that nothing holds back. -/
inductive Step (P : MailJournalInput → Prop) (t : Deliveries) : Deliveries → Prop
  | same : Step P t t
  | settled {p : DeliveryRow → Prop} [DecidablePred p] {f : DeliveryRow → DeliveryRow}
      (hf : ∀ row, (f row).keys = row.keys) (h : ∀ row, p row → Settles row (f row)) :
      Step P t (t.updateMany p f hf)
  | reserved {t' : Deliveries} (input : MailJournalInput) (token : String) (now : ℤ)
      (hinput : P input) (hquota : quotaHold t input now = none)
      (hcreate : t.create (deliveryOf input token now) = some t') : Step P t t'

variable {t t' : Deliveries} {input : MailJournalInput} {key token : String} {now : ℤ}

/-- **A reservation stores a delivery**, under a key that was free, when nothing holds it back. -/
theorem reserveSending_ok {reservation : MailSendingReservation}
    (h : reserveSending t input token now = .ok (reservation, t')) :
    match reservation with
    | .reserved token' => token' = token ∧ t.findUnique (.key input.key) = none ∧
        quotaHold t input now = none ∧ t.create (deliveryOf input token now) = some t'
    | _ => t' = t := by
  simp only [reserveSending, ok_iff] at h
  obtain ⟨-, -, recipients, -, -, -, h⟩ := h
  split at h
  · simp only [ok_iff] at h
    obtain ⟨state, -, rfl, rfl⟩ := h
    rfl
  · rename_i hfree
    split at h
    · cases h
      rfl
    · rename_i hquota
      simp only [ok_iff] at h
      obtain ⟨t'', hcreate, rfl, rfl⟩ := h
      exact ⟨rfl, hfree, hquota, hcreate⟩

variable {P : MailJournalInput → Prop}

theorem Step.grows (h : Step P t t') : t.Grows Settles t' := by
  cases h with
  | same => exact .refl t
  | settled hf h => exact .of_updateMany hf fun row _ hp => h row hp
  | reserved input token now hinput hquota hcreate => exact .of_create hcreate

theorem reserveSending_step {reservation : MailSendingReservation} (hinput : P input)
    (h : reserveSending t input token now = .ok (reservation, t')) : Step P t t' := by
  have hok := reserveSending_ok h
  cases reservation with
  | reserved token' => exact .reserved input token now hinput hok.2.2.1 hok.2.2.2
  | retained state =>
    rw [show t' = t from hok]
    exact .same
  | held reason =>
    rw [show t' = t from hok]
    exact .same

theorem settles_accept {row : DeliveryRow} (h : row.status = .SENDING) (providerMessageId : String) :
    Settles row (row.accept providerMessageId now) := ⟨h, by simp [DeliveryRow.accept], rfl⟩

theorem settles_giveUp {row : DeliveryRow} (h : row.status = .SENDING) (code : UncertaintyCode) :
    Settles row (row.giveUp code now) := ⟨h, by simp [DeliveryRow.giveUp], rfl⟩

theorem accepted_step {providerMessageId : String} {updated : Bool}
    (h : accepted t key token providerMessageId now = .ok (updated, t')) : Step P t t' := by
  simp only [accepted, ok_iff] at h
  obtain ⟨-, -, -, -, -, rfl⟩ := h
  exact .settled _ fun row hheld => settles_accept hheld.2.2 providerMessageId

theorem uncertain_step {code : UncertaintyCode} {updated : Bool}
    (h : uncertain t key token code now = .ok (updated, t')) : Step P t t' := by
  simp only [uncertain, ok_iff] at h
  obtain ⟨-, -, -, rfl⟩ := h
  exact .settled _ fun row hheld => settles_giveUp hheld.2.2 code

theorem retainInterrupted_step {olderThan : ℤ} {limit : ℕ} {locked : List String}
    (h : retainInterrupted t olderThan limit locked now = .ok t') : Step P t t' := by
  simp only [retainInterrupted, ok_iff] at h
  obtain ⟨-, -, rfl⟩ := h
  exact .settled _ fun row hheld => settles_giveUp hheld.2 _

end CrmYnov.BusinessMail
