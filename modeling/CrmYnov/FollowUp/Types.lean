import CrmYnov.Platform.Runtime

/-!
# Follow-ups

A follow-up is the next action planned on a lead. It is open while it is
scheduled or due.
-/

namespace CrmYnov.FollowUp

inductive FollowUpState
  | SCHEDULED | DUE | COMPLETED | CANCELLED
deriving DecidableEq

def FollowUpState.text : FollowUpState → String
  | SCHEDULED => "SCHEDULED"
  | DUE => "DUE"
  | COMPLETED => "COMPLETED"
  | CANCELLED => "CANCELLED"

/-- `["SCHEDULED", "DUE"].includes(state)` -/
def FollowUpState.Open (s : FollowUpState) : Prop := s = SCHEDULED ∨ s = DUE
deriving Decidable

/-- A row of `lead_follow_ups`. -/
structure LeadFollowUpRow where
  (id leadId ownerId : String)
  dueAt : Instant
  state : FollowUpState
  reason : String
  version : ℕ := 1
  idempotencyKey : String
deriving DecidableEq

/-- The unique indexes of `lead_follow_ups`. -/
inductive LeadFollowUpRow.Key
  | id (value : String)
  | idempotencyKey (value : String)
deriving DecidableEq

def LeadFollowUpRow.keys (f : LeadFollowUpRow) : List LeadFollowUpRow.Key :=
  [.id f.id, .idempotencyKey f.idempotencyKey]

theorem LeadFollowUpRow.mem_keys_id {f : LeadFollowUpRow} {id : String} :
    LeadFollowUpRow.Key.id id ∈ f.keys ↔ f.id = id := by
  simp [LeadFollowUpRow.keys, eq_comm]

/-- `FollowUpRecord`: what a caller sees of a follow-up. -/
structure FollowUpRecord where
  (id leadId ownerId : String)
  dueAt : Instant
  state : FollowUpState
  reason : String
  version : ℕ
deriving DecidableEq

/-- `map` -/
def LeadFollowUpRow.record (f : LeadFollowUpRow) : FollowUpRecord where
  id := f.id
  leadId := f.leadId
  ownerId := f.ownerId
  dueAt := f.dueAt
  state := f.state
  reason := f.reason
  version := f.version

/-- A row of `lead_follow_up_mutation_receipts`. -/
structure LeadFollowUpMutationReceipt where
  (idempotencyKey followUpId fingerprint : String)
  result : FollowUpRecord

def LeadFollowUpMutationReceipt.keys (r : LeadFollowUpMutationReceipt) : List String :=
  [r.idempotencyKey]

end CrmYnov.FollowUp
