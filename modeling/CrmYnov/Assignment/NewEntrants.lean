import CrmYnov.Platform.Database
import Mathlib.Algebra.Order.Ring.Int
import Mathlib.Data.List.Sort

/-!
# Balanced new entrants

A new lead is given to one of the collaborators of a campus who were given the
fewest, drawn at random. The count of a collaborator is kept by campus, version and
rule, beside one receipt for each lead that was counted. A choice is *reserved*
first, with the count it was made at, and *committed* with the lead it was made for:
the commit counts it if the count has not moved.
-/

namespace CrmYnov.Assignment

open Checked

structure AssignmentCandidate where
  userId : String
  active : Bool
  suspended : Bool := false
  excluded : Bool := false
  (capacity activeLeadCount : ℤ)

def AssignmentCandidate.Eligible (c : AssignmentCandidate) : Prop :=
  c.active ∧ ¬c.suspended ∧ ¬c.excluded ∧ c.activeLeadCount < c.capacity
deriving Decidable

/-- The leads that are counted together: of a campus, under a version of its rules,
by one rule. -/
structure Cohort where
  campusId : String
  version : ℤ
  ruleId : String
deriving DecidableEq

structure NewEntrantReservation extends Cohort where
  userId : String
  previousCount : ℕ
  eventHash : String

/-! ### The ledger -/

/-- A row of `campus_new_assignment_counters`. -/
structure CampusNewAssignmentCounterRow extends Cohort where
  userId : String
  assignedCount : ℕ

def CampusNewAssignmentCounterRow.keys (r : CampusNewAssignmentCounterRow) :
    List (Cohort × String) := [(r.toCohort, r.userId)]

/-- A row of `campus_new_assignment_receipts`. -/
structure CampusNewAssignmentReceiptRow extends Cohort where
  (eventHash leadId userId : String)
  countAfter : ℕ

/-- The unique indexes of `campus_new_assignment_receipts`. -/
inductive CampusNewAssignmentReceiptRow.Key
  | eventHash (value : String)
  | leadId (value : String)
deriving DecidableEq

def CampusNewAssignmentReceiptRow.keys (r : CampusNewAssignmentReceiptRow) :
    List CampusNewAssignmentReceiptRow.Key := [.eventHash r.eventHash, .leadId r.leadId]

/-- A row of `campus_assignment_cursors`. -/
structure CampusAssignmentCursorRow extends Cohort where
  cursor : ℕ

def CampusAssignmentCursorRow.keys (r : CampusAssignmentCursorRow) : List Cohort := [r.toCohort]

structure Ledger where
  counters : Table CampusNewAssignmentCounterRow CampusNewAssignmentCounterRow.keys := .empty
  receipts : Table CampusNewAssignmentReceiptRow CampusNewAssignmentReceiptRow.keys := .empty
  cursors : Table CampusAssignmentCursorRow CampusAssignmentCursorRow.keys := .empty

namespace Ledger

/-- `counter?.assignedCount ?? 0` -/
def count (s : Ledger) (cohort : Cohort) (userId : String) : ℕ :=
  ((s.counters.findUnique (cohort, userId)).map CampusNewAssignmentCounterRow.assignedCount).getD 0

end Ledger

/-! ### Choosing -/

/-- What `balancedNewEntrant` chooses. -/
structure Choice where
  userId : String
  previousCount : ℕ

def leastOf (first : ℕ) (counts : List ℕ) : ℕ := counts.foldl min first

/-- `balancedNewEntrant`: `collate` compares two identifiers as `localeCompare` does,
and `pick` draws an index, or something that is no integer. -/
def balancedNewEntrant (collate : String → String → Bool) (candidates : List AssignmentCandidate)
    (counts : Dict String ℕ) (pick : ℕ → Option ℤ) : Outcome (Option Choice) :=
  let served := fun c : AssignmentCandidate => (counts.get c.userId).getD 0
  match (candidates.filter AssignmentCandidate.Eligible).insertionSort
      fun a b => collate a.userId b.userId with
  | [] => pure none
  | first :: rest => do
    require (∀ count ∈ counts.values, count < 2147483647) (.conflict "assignment_balance_capacity")
    let minimum := leastOf (served first) (rest.map served)
    let peers := (first :: rest).filter fun c => served c = minimum
    let index ← demand ((pick peers.length).filter fun i : ℤ => 0 ≤ i ∧ i < (peers.length : ℤ))
      (.conflict "assignment_balance_random_invalid")
    let chosen ← demand peers[index.toNat]? .database
    pure (some { userId := chosen.userId, previousCount := minimum })

variable (rt : Runtime)

/-- The digest of the event a choice is made for. -/
def eventHashOf (campusId eventKey : String) : String :=
  rt.sha256 (Js.Json.stringify
    (.arr [.str "new-entrant-balance-v1", .str campusId, .str eventKey]))

def reserveNewEntrant (collate : String → String → Bool) (s : Ledger) (cohort : Cohort)
    (eventKey : String) (candidates : List AssignmentCandidate) (pick : ℕ → Option ℤ) :
    Outcome (Option NewEntrantReservation) := do
  let rows := s.counters.findMany fun r => r.toCohort = cohort
  require (rows.length ≤ 100) (.conflict "assignment_balance_capacity")
  let selected ← balancedNewEntrant collate candidates
    (.ofList (rows.map fun r => (r.userId, r.assignedCount))) pick
  pure (selected.map fun choice => { cohort with
    userId := choice.userId, previousCount := choice.previousCount
    eventHash := eventHashOf rt cohort.campusId eventKey })

/-! ### Counting -/

variable (r : CampusNewAssignmentCounterRow)

/-- The counter, after one more lead. -/
def CampusNewAssignmentCounterRow.increment :
    CampusNewAssignmentCounterRow := { r with assignedCount := r.assignedCount + 1 }

theorem CampusNewAssignmentCounterRow.keys_increment : r.increment.keys = r.keys := rfl

/-- `tx.campusNewAssignmentCounter.upsert` -/
def upsertCounter (counters : Table CampusNewAssignmentCounterRow CampusNewAssignmentCounterRow.keys)
    (cohort : Cohort) (userId : String) :
    Outcome (Table CampusNewAssignmentCounterRow CampusNewAssignmentCounterRow.keys) :=
  match counters.findUnique (cohort, userId) with
  | none => insert counters { cohort with userId, assignedCount := 1 }
  | some _ => pure (counters.updateMany (fun r => r.toCohort = cohort ∧ r.userId = userId)
      CampusNewAssignmentCounterRow.increment CampusNewAssignmentCounterRow.keys_increment)

def CampusNewAssignmentReceiptRow.Matches (r : CampusNewAssignmentReceiptRow)
    (reservation : NewEntrantReservation) (leadId : String) : Prop :=
  r.leadId = leadId ∧ r.toCohort = reservation.toCohort ∧ r.userId = reservation.userId
deriving Decidable

/-- The lead is a new one of the campus, and is given to the user of the
reservation. -/
def assertNewLead (db : Database) (reservation : NewEntrantReservation) (leadId : String) :
    Outcome Unit := do
  let required := Failure.conflict "assignment_balance_new_lead_required"
  let lead ← demand (db.lead leadId) required
  require (lead.acquisitionKind = .NEW ∧ lead.assignedToId = some reservation.userId) required
  let campus ← References.canonicalCampus rt db.references lead.campus
  require (campus.id = reservation.campusId) required

def commitNewEntrant (db : Database) (s : Ledger) (reservation : NewEntrantReservation)
    (leadId : String) : Outcome Ledger :=
  match s.receipts.findUnique (.eventHash reservation.eventHash) with
  | some previous => do
    require (previous.Matches reservation leadId) (.conflict "assignment_balance_replay_conflict")
    pure s
  | none => do
    assertNewLead rt db reservation leadId
    require (s.count reservation.toCohort reservation.userId = reservation.previousCount)
      (.conflict "assignment_balance_reservation_stale")
    let counters ← upsertCounter s.counters reservation.toCohort reservation.userId
    let receipts ← insert s.receipts { reservation.toCohort with
      eventHash := reservation.eventHash, leadId, userId := reservation.userId
      countAfter := reservation.previousCount + 1 }
    pure { s with counters, receipts }

/-! ### Assignments of sheets -/

inductive AssignmentStrategy
  | ROUND_ROBIN | CONTROLLED_RANDOM
deriving DecidableEq

structure AssignmentSelection where
  ruleId : String
  strategy : AssignmentStrategy

structure SheetAssignment where
  targetUserId : Option String := none
  selection : Option AssignmentSelection := none
  campusId : Option String := none
  configurationVersion : Option ℤ := none
  newEntrantReservation : Option NewEntrantReservation := none

def CampusAssignmentCursorRow.increment (r : CampusAssignmentCursorRow) :
    CampusAssignmentCursorRow := { r with cursor := r.cursor + 1 }

theorem CampusAssignmentCursorRow.keys_increment (r : CampusAssignmentCursorRow) :
    r.increment.keys = r.keys := rfl

/-- `tx.campusAssignmentCursor.upsert` -/
def moveCursor (s : Ledger) (cohort : Cohort) : Outcome Ledger :=
  match s.cursors.findUnique cohort with
  | none => do
    let cursors ← insert s.cursors { cohort with cursor := 1 }
    pure { s with cursors }
  | some _ => pure { s with
      cursors := s.cursors.updateMany (fun r => r.toCohort = cohort)
        CampusAssignmentCursorRow.increment CampusAssignmentCursorRow.keys_increment }

def commitSheetAssignment (db : Database) (s : Ledger) (assignment : SheetAssignment)
    (leadId : String) : Outcome Ledger :=
  match assignment.newEntrantReservation with
  | some reservation => do
    require (assignment.targetUserId = some reservation.userId)
      (.conflict "assignment_balance_evidence_invalid")
    commitNewEntrant rt db s reservation leadId
  | none =>
    match assignment.selection with
    | none => pure s
    | some selection => do
      let missing := Failure.conflict "assignment_evidence_missing"
      let campusId ← demand (Leads.nonEmpty assignment.campusId) missing
      let version ← demand (assignment.configurationVersion.filter fun v => v ≠ 0) missing
      require (leadId ≠ "") missing
      if selection.strategy = .ROUND_ROBIN then
        moveCursor s ⟨campusId, version, selection.ruleId⟩
      else pure s

end CrmYnov.Assignment
