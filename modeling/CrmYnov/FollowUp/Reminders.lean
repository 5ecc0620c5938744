import CrmYnov.FollowUp.Repository
import CrmYnov.Leads.Progression

/-!
# Reminders

A worker looks for follow-ups whose date has come: it marks them due, audits this
and notifies their owner, all in one transaction. It takes a bounded number of them
in the order of their dates, and leaves out those another transaction holds.

The candidates are selected in the state the statement sees, and each is looked at
again, as it has become, when it is locked; what was delivered is read in the state
of the statement both times. The rows that are locked stay as they are until the
transaction commits, so that the rest of it acts on one state.

An occurrence – a follow-up that became due, at its version – is known by its key,
under which it is audited and notified. Keys without a version are those of an
earlier format.
-/

namespace CrmYnov.FollowUp

open Checked Leads Js

/-! ### Keys -/

/-- The key of an occurrence in the earlier format. -/
def legacyKey (id : String) : String := "follow-up-due:" ++ id

def occurrenceKey (id : String) (version : ℕ) : String :=
  legacyKey id ++ ":v" ++ toString version

/-- The number of a value that is one, as it is written. -/
def num? : Json → Option String
  | .num digits => some digits
  | _ => none

variable (rt : Runtime)

/-! ### What is written of an occurrence -/

def dueNotification (ownerId leadId : String) : NotificationRecord where
  recipientId := ownerId
  type := "FOLLOW_UP_DUE"
  priority := "HIGH"
  resourceType := "LEAD"
  resourceId := leadId
  href := "/leads/" ++ leadId ++ "/follow-ups"

def dueAudit (current : LeadFollowUpRow) (key : String) : AuditEventRow where
  eventType := "FOLLOW_UP_DUE"
  resourceId := current.leadId
  campusId := none
  actorId := "system:follow-up-scheduler"
  actorRoles := []
  sessionId := none
  correlationId := "follow-up-due:" ++ current.id
  idempotencyKey := key
  before := .null
  after := .obj [("followUpId", .str current.id), ("ownerId", .str current.ownerId),
    ("state", .str current.state.text), ("dueAt", .str (isoString current.dueAt)),
    ("version", .nat current.version)]

variable (a : AuditEventRow)

/-- The audit event says that a follow-up of a lead became due. -/
def SaysDue (id leadId : String) : Prop :=
  a.eventType = "FOLLOW_UP_DUE" ∧ a.result = "SUCCESS" ∧ a.resourceType = "LEAD" ∧
    a.resourceId = leadId ∧ (a.after.member "followUpId").bind Json.text? = some id ∧
    (a.after.member "state").bind Json.text? = some "DUE"
deriving Decidable

variable (f : LeadFollowUpRow)

/-- It says so of this version and this date. -/
def SaysOccurrence : Prop :=
  SaysDue a f.id f.leadId ∧ (a.after.member "version").bind num? = some (toString f.version) ∧
    (a.after.member "dueAt").bind Json.text? = some (isoString f.dueAt)
deriving Decidable

def NamesOwner : Prop :=
  (a.after.member "ownerId").bind Json.text? = some f.ownerId
deriving Decidable

/-! ### What is to be reminded of -/

variable (db : Database)

/-- The notification and the audit event of an occurrence are there, under one of
its two keys. -/
def Delivered (f : LeadFollowUpRow) : Prop :=
  ∃ n ∈ db.internalNotifications.rows,
    (n.deduplicationKey = occurrenceKey f.id f.version ∨ n.deduplicationKey = legacyKey f.id) ∧
    n.record = dueNotification f.ownerId f.leadId ∧
    n.fingerprint = (dueNotification f.ownerId f.leadId).fingerprint rt ∧
    ∃ a ∈ db.auditEvents.rows, a.idempotencyKey = n.deduplicationKey ∧ SaysOccurrence a f ∧
      (n.deduplicationKey = legacyKey f.id ∨ NamesOwner a f)
deriving Decidable

/-- The follow-up is to be reminded of: its lead is not closed, its date has come,
and it is scheduled, or due and not delivered. -/
def Reminding (leads deliveries : Database) (now : Instant) (f : LeadFollowUpRow) : Prop :=
  (∃ l ∈ leads.lead f.leadId, ¬l.status.Closed) ∧ f.dueAt ≤ now ∧
    (f.state = .SCHEDULED ∨ f.state = .DUE ∧ ¬Delivered rt deliveries f)
deriving Decidable

/-- A candidate is still one when it is locked, as it has become. -/
def StillReminding (snapshot db : Database) (now : Instant) (locked : List String)
    (f : LeadFollowUpRow) : Prop :=
  f.id ∉ locked ∧ ∃ f' ∈ db.leadFollowUps.findUnique (.id f.id), Reminding rt db snapshot now f'
deriving Decidable

/-- The candidates the statement sees, in the order of their dates. -/
def sighted (snapshot : Database) (now : Instant) : List LeadFollowUpRow :=
  sortByInstant LeadFollowUpRow.dueAt LeadFollowUpRow.id
    (snapshot.leadFollowUps.findMany (Reminding rt snapshot snapshot now))

def candidates (snapshot db : Database) (now : Instant) (limit : ℕ) (locked : List String) :
    List String :=
  (((sighted rt snapshot now).filter (StillReminding rt snapshot db now locked)).take limit).map
    LeadFollowUpRow.id

/-! ### The key of an occurrence -/

def legacyVersion (item : LeadFollowUpRow) : Option ℕ :=
  if SaysDue a item.id item.leadId ∧
      ((a.after.member "dueAt").bind Json.text?).any (fun t => (rt.parseDate t).isSome) then
    (((a.after.member "version").bind num?).bind String.toNat?).filter fun v =>
      0 < v ∧ v ≤ item.version
  else none

def dueNotificationKey (item : LeadFollowUpRow) : Outcome String := do
  let legacyAudit := db.auditEvents.findUnique (legacyKey item.id)
  let version := legacyAudit.bind fun a => legacyVersion rt a item
  require (db.internalNotifications.findUnique (legacyKey item.id) ≠ none → version ≠ none)
    (.error "follow_up_due_legacy_inconsistent")
  if item.state = .SCHEDULED then pure (occurrenceKey item.id (item.version + 1))
  else if version = some item.version ∧ ∃ a ∈ legacyAudit,
      (a.after.member "dueAt").bind Json.text? = some (isoString item.dueAt) then
    pure (legacyKey item.id)
  else do
    require (∃ a ∈ db.auditEvents.findUnique (occurrenceKey item.id item.version),
        SaysOccurrence a item ∧ NamesOwner a item)
      (.error "follow_up_due_audit_inconsistent")
    pure (occurrenceKey item.id item.version)

/-! ### Marking -/

/-- What a run has done: the follow-ups it has marked, and the notifications it has
created. -/
structure Marked where
  (due notifications : ℕ)

/-- The follow-up is scheduled, at the version that was read. -/
def Waiting (previous f : LeadFollowUpRow) : Prop :=
  f.id = previous.id ∧ f.state = .SCHEDULED ∧ f.version = previous.version
deriving Decidable

def markRow : LeadFollowUpRow :=
  { f with state := .DUE, version := f.version + 1 }

theorem keys_markRow : (markRow f).keys = f.keys := rfl

def notifyDue (current : LeadFollowUpRow) (key : String) (due : ℕ) :
    Outcome (Marked × Database) := do
  let (created, db) ← createNotificationInTransaction rt db
    (dueNotification current.ownerId current.leadId) key
  pure (⟨due, if created then 1 else 0⟩, db)

/-- One turn of the loop of `markDue`. -/
def remind (id : String) : Outcome (Marked × Database) := do
  let previous ← demand (db.leadFollowUps.findUnique (.id id)) .database
  let key ← dueNotificationKey rt db previous
  if previous.state = .SCHEDULED then
    if db.leadFollowUps.count (Waiting previous) = 1 then
      let db := { db with
        leadFollowUps := db.leadFollowUps.updateMany (Waiting previous) markRow keys_markRow }
      let current ← demand (db.leadFollowUps.findUnique (.id id)) .database
      let db ← db.audit (dueAudit current key)
      notifyDue rt db current key 1
    else pure (⟨0, 0⟩, db)
  else notifyDue rt db previous key 0

/-- The loop of `markDue`. -/
def remindAll (db : Database) : List String → Outcome (Marked × Database)
  | [] => pure (⟨0, 0⟩, db)
  | id :: ids => do
    let (marked, db) ← remind rt db id
    let (rest, db) ← remindAll db ids
    pure (⟨marked.due + rest.due, marked.notifications + rest.notifications⟩, db)

/-- `markDue`: the statement sees a snapshot, and finds some rows locked. -/
def markDue (snapshot db : Database) (now : Instant) (limit : ℤ) (locked : List String) :
    Outcome (Marked × Database) := do
  require (1 ≤ limit ∧ limit ≤ 50) (.error "follow_up_due_limit_invalid")
  remindAll rt db (candidates rt snapshot db now limit.toNat locked)

end CrmYnov.FollowUp
