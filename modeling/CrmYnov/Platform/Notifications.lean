import CrmYnov.Platform.Database

/-!
# Notifications inside a transaction

A transaction that notifies a user does so under a key. The first call under a key
creates the notification; a later one finds it, and fails when it says something
else.
-/

namespace CrmYnov

open Checked

structure NotificationRecord where
  (recipientId type priority resourceType resourceId href : String)
deriving DecidableEq

variable (rt : Runtime)

/-- `notificationFingerprint(record)` -/
def NotificationRecord.fingerprint (n : NotificationRecord) : String :=
  notificationFingerprint rt n.recipientId n.type n.priority n.resourceType n.resourceId n.href

/-- `mapNotification` -/
def InternalNotificationRow.record (row : InternalNotificationRow) : NotificationRecord where
  recipientId := row.recipientId
  type := row.type
  priority := row.priority
  resourceType := row.resourceType
  resourceId := row.resourceId
  href := row.href

def NotificationRecord.row (n : NotificationRecord) (deduplicationKey : String) :
    InternalNotificationRow where
  recipientId := n.recipientId
  type := n.type
  priority := n.priority
  resourceType := n.resourceType
  resourceId := n.resourceId
  href := n.href
  deduplicationKey := deduplicationKey
  fingerprint := n.fingerprint rt

/-- `createNotificationInTransaction`, and whether it has created one. -/
def createNotificationInTransaction (db : Database) (n : NotificationRecord)
    (deduplicationKey : String) : Outcome (Bool × Database) :=
  match db.internalNotifications.findUnique deduplicationKey with
  | some existing => do
    require (existing.fingerprint = n.fingerprint rt ∧
        existing.record.fingerprint rt = n.fingerprint rt)
      (.conflict "notification_idempotency_conflict")
    pure (false, db)
  | none => do
    let internalNotifications ← insert db.internalNotifications (n.row rt deduplicationKey)
    pure (true, { db with internalNotifications })

variable {rt} {db db' : Database} {n : NotificationRecord} {key : String} {created : Bool}

/-- **A notification is found or created**: nothing changes when its key is known,
and otherwise it is there under its key. -/
theorem createNotification_ok
    (h : createNotificationInTransaction rt db n key = .ok (created, db')) :
    (created = false ∧ (db.internalNotifications.findUnique key).isSome ∧ db' = db) ∨
      created = true ∧ db.internalNotifications.findUnique key = none ∧
        ∃ t, db.internalNotifications.create (n.row rt key) = some t ∧
          { db with internalNotifications := t } = db' := by
  rw [createNotificationInTransaction] at h
  split at h
  · rename_i existing hexisting
    simp only [ok_iff] at h
    obtain ⟨-, -, rfl, rfl⟩ := h
    exact .inl ⟨rfl, by rw [hexisting]; rfl, rfl⟩
  · rename_i hfree
    simp only [ok_iff, insert_ok_iff] at h
    obtain ⟨t, hcreate, rfl, rfl⟩ := h
    exact .inr ⟨rfl, hfree, t, hcreate, rfl⟩

end CrmYnov
