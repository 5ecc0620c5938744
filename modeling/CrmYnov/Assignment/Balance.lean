import CrmYnov.Assignment.NewEntrants
import CrmYnov.Base.LeastServed
import CrmYnov.Base.Machine
import Mathlib.Data.List.Range

/-!
# The balance of new entrants

Who is chosen is eligible and was given the fewest among the eligible
(`CrmYnov.Assignment.balancedNewEntrant_spec`), whatever is drawn. Reservations are
committed late, in any order, or not at all: the counts of two collaborators who are
eligible whenever something is reserved never differ by more than one
(`CrmYnov.Assignment.spread_throughout`).

The counters and the receipts say the same: the receipts of a collaborator in a
cohort are numbered from one to the count (`CrmYnov.Assignment.tallied_throughout`).
-/

namespace CrmYnov.Assignment

open Checked LeastServed Table Machine List Option

variable {rt : Runtime} {collate : String → String → Bool} {db : Database} {s s' : Ledger}

/-! ### Choosing -/

theorem leastOf_le {first : ℕ} {counts : List ℕ} {n : ℕ} (h : n ∈ first :: counts) :
    leastOf first counts ≤ n := by
  rw [leastOf]
  induction counts generalizing first n with
  | nil => exact (mem_singleton.mp h).ge
  | cons m counts ih =>
    rw [foldl_cons]
    rcases mem_cons.mp h with rfl | h
    · exact (ih mem_cons_self).trans (min_le_left _ m)
    · rcases mem_cons.mp h with rfl | h
      · exact (ih mem_cons_self).trans (min_le_right first _)
      · exact ih (mem_cons_of_mem _ h)

/-- The choice is of an eligible candidate, at its count, which is the least of the
eligible. -/
structure Choice.Least (choice : Choice) (candidates : List AssignmentCandidate)
    (served : String → ℕ) : Prop where
  eligible : ∃ c ∈ candidates, c.Eligible ∧ c.userId = choice.userId
  count : served choice.userId = choice.previousCount
  least : ∀ c ∈ candidates, c.Eligible → choice.previousCount ≤ served c.userId

/-- **Who is chosen is eligible and was served the least among the eligible**, whatever
is drawn. -/
theorem balancedNewEntrant_spec {candidates : List AssignmentCandidate} {counts : Dict String ℕ}
    {pick : ℕ → Option ℤ} {choice : Choice}
    (h : balancedNewEntrant collate candidates counts pick = .ok (some choice)) :
    choice.Least candidates fun userId => (counts.get userId).getD 0 := by
  simp only [balancedNewEntrant] at h
  split at h
  · cases pure_ok_iff.mp h
  · rename_i first rest hsort
    simp only [bind_ok_iff, require_ok_iff, demand_ok_iff, pure_ok_iff, some.injEq] at h
    obtain ⟨-, -, index, -, chosen, hchosen, rfl⟩ := h
    have hmem : ∀ c, c ∈ first :: rest ↔ c ∈ candidates ∧ c.Eligible := by
      intro c
      rw [← hsort, mem_insertionSort, mem_filter, decide_eq_true_eq]
    obtain ⟨hpeer, hcount⟩ := mem_filter.mp (mem_of_getElem? hchosen)
    obtain ⟨hcandidate, heligible⟩ := (hmem chosen).mp hpeer
    refine ⟨⟨chosen, hcandidate, heligible, rfl⟩, of_decide_eq_true hcount, fun c hc hce => ?_⟩
    have hin := mem_map_of_mem (f := fun c : AssignmentCandidate => (counts.get c.userId).getD 0)
      ((hmem c).mpr ⟨hc, hce⟩)
    exact leastOf_le hin

theorem get_counts (s : Ledger) (cohort : Cohort) (userId : String) :
    ((Dict.ofList ((s.counters.findMany fun r => r.toCohort = cohort).map fun r =>
      (r.userId, r.assignedCount))).get userId).getD 0 = s.count cohort userId := by
  rw [Ledger.count]
  congr 1
  refine Option.ext fun n => ?_
  have hsame : ∀ r ∈ s.counters.rows, ∀ r' ∈ s.counters.rows, r.toCohort = cohort →
      r'.toCohort = cohort → r.userId = r'.userId → r = r' := by
    intro r hr r' hr' hcohort hcohort' huser
    refine s.counters.eq_of_key hr hr' (k := (cohort, r.userId)) ?_ ?_
    · simp [CampusNewAssignmentCounterRow.keys, hcohort]
    · simp [CampusNewAssignmentCounterRow.keys, hcohort', huser]
  rw [Dict.get_ofList_of_functional, List.mem_map, Option.map_eq_some_iff]
  · constructor
    · rintro ⟨r, hr, hpair⟩
      obtain ⟨huser, hcount⟩ := Prod.mk.inj hpair
      obtain ⟨hmem, hcohort⟩ := mem_findMany.mp hr
      refine ⟨r, findUnique_of_mem hmem ?_, hcount⟩
      simp [CampusNewAssignmentCounterRow.keys, hcohort, huser]
    · rintro ⟨r, hr, hcount⟩
      obtain ⟨hmem, hkey⟩ := findUnique_eq_some.mp hr
      obtain ⟨hcohort, huser⟩ := Prod.mk.inj (List.mem_singleton.mp hkey)
      exact ⟨r, mem_findMany.mpr ⟨hmem, hcohort.symm⟩, by rw [← huser, hcount]⟩
  · intro e he e' he' huser
    obtain ⟨r, hr, rfl⟩ := List.mem_map.mp he
    obtain ⟨r', hr', rfl⟩ := List.mem_map.mp he'
    obtain ⟨hmem, hcohort⟩ := mem_findMany.mp hr
    obtain ⟨hmem', hcohort'⟩ := mem_findMany.mp hr'
    rw [hsame r hmem r' hmem' hcohort hcohort' huser]

variable {r : NewEntrantReservation}

/-- **What is reserved is least**, in the ledger it was reserved in. -/
theorem reserveNewEntrant_spec {cohort : Cohort} {eventKey : String}
    {candidates : List AssignmentCandidate} {pick : ℕ → Option ℤ}
    (h : reserveNewEntrant rt collate s cohort eventKey candidates pick = .ok (some r)) :
    r.toCohort = cohort ∧ Choice.Least ⟨r.userId, r.previousCount⟩ candidates (s.count cohort) := by
  simp only [reserveNewEntrant, bind_ok_iff, require_ok_iff, pure_ok_iff,
    map_eq_some_iff] at h
  obtain ⟨-, -, selected, hselected, choice, rfl, rfl⟩ := h
  obtain ⟨heligible, hcount, hleast⟩ := balancedNewEntrant_spec hselected
  simp only [get_counts] at hcount hleast
  exact ⟨rfl, heligible, hcount, hleast⟩

/-! ### Counting -/

def receiptOf (r : NewEntrantReservation) (leadId : String) : CampusNewAssignmentReceiptRow :=
  { r.toCohort with
    eventHash := r.eventHash, leadId, userId := r.userId, countAfter := r.previousCount + 1 }

theorem upsertCounter_ok {cohort : Cohort} {userId : String}
    {counters : Table CampusNewAssignmentCounterRow CampusNewAssignmentCounterRow.keys}
    (h : upsertCounter s.counters cohort userId = .ok counters) (cohort' : Cohort) (u : String) :
    Ledger.count { s with counters } cohort' u =
      if cohort' = cohort ∧ u = userId then s.count cohort' u + 1 else s.count cohort' u := by
  rw [upsertCounter] at h
  split at h
  · rename_i hnone
    have hcreate := insert_ok_iff.mp h
    rw [Ledger.count, findUnique_create hcreate, Ledger.count]
    by_cases hkey : cohort' = cohort ∧ u = userId
    · obtain ⟨rfl, rfl⟩ := hkey
      simp [CampusNewAssignmentCounterRow.keys, hnone]
    · have hne : (cohort', u) ∉ CampusNewAssignmentCounterRow.keys
          { cohort with userId, assignedCount := 1 } := by
        rw [CampusNewAssignmentCounterRow.keys, mem_singleton, Prod.mk.injEq]
        exact hkey
      rw [if_neg hne, if_neg hkey]
  · rename_i row hrow
    cases h
    rw [Ledger.count, findUnique_updateMany, Ledger.count]
    cases hfound : s.counters.findUnique (cohort', u) with
    | none =>
      have hkey : ¬(cohort' = cohort ∧ u = userId) := by
        rintro ⟨rfl, rfl⟩
        rw [hfound] at hrow
        cases hrow
      simp [hkey]
    | some found =>
      obtain ⟨-, hkey⟩ := findUnique_eq_some.mp hfound
      obtain ⟨hcohort, huser⟩ := Prod.mk.inj (mem_singleton.mp hkey)
      by_cases hsame : cohort' = cohort ∧ u = userId
      · obtain ⟨rfl, rfl⟩ := hsame
        simp [hcohort.symm, huser.symm, CampusNewAssignmentCounterRow.increment]
      · have hother : ¬(found.toCohort = cohort ∧ found.userId = userId) := by
          rwa [← hcohort, ← huser]
        simp [hsame, hother]

variable {leadId : String}

/-- **A commit is a replay, or counts one lead more**: the reservation is fresh, and a
receipt with its number is added. -/
theorem commitNewEntrant_cases (h : commitNewEntrant rt db s r leadId = .ok s') :
    s' = s ∨ s.count r.toCohort r.userId = r.previousCount ∧
      (∀ cohort u, s'.count cohort u =
        if cohort = r.toCohort ∧ u = r.userId then s.count cohort u + 1 else s.count cohort u) ∧
      s'.receipts.rows = s.receipts.rows ++ [receiptOf r leadId] := by
  rw [commitNewEntrant] at h
  split at h
  · simp only [bind_ok_iff, pure_ok_iff] at h
    obtain ⟨-, -, rfl⟩ := h
    exact .inl rfl
  · simp only [bind_ok_iff, require_ok_iff, insert_ok_iff, pure_ok_iff] at h
    obtain ⟨-, -, -, hfresh, counters, hcounters, receipts, hcreate, rfl⟩ := h
    exact .inr ⟨hfresh, upsertCounter_ok hcounters, create_rows hcreate⟩

theorem count_serve {cohort : Cohort}
    (h : ∀ cohort u, s'.count cohort u =
      if cohort = r.toCohort ∧ u = r.userId then s.count cohort u + 1 else s.count cohort u) :
    s'.count cohort = if cohort = r.toCohort then serve (s.count cohort) r.userId
      else s.count cohort := by
  funext u
  rw [h]
  by_cases hcohort : cohort = r.toCohort
  · by_cases huser : u = r.userId
    · simp [hcohort, huser, serve]
    · simp [hcohort, huser, serve]
  · simp [hcohort]

/-! ### Receipts are numbered -/

def Ledger.receiptsOf (s : Ledger) (cohort : Cohort) (userId : String) :
    List CampusNewAssignmentReceiptRow :=
  s.receipts.rows.filter fun r => r.toCohort = cohort ∧ r.userId = userId

/-- The receipts of a user in a cohort are numbered from one to the count. -/
def Ledger.Tallied (s : Ledger) : Prop :=
  ∀ cohort userId, (s.receiptsOf cohort userId).map CampusNewAssignmentReceiptRow.countAfter =
    range' 1 (s.count cohort userId)

theorem tallied_empty : Ledger.Tallied {} := fun _ _ => rfl

/-- **A commit keeps the receipts numbered**: the one it adds has the next number. -/
theorem commitNewEntrant_tallied (hs : s.Tallied) (h : commitNewEntrant rt db s r leadId = .ok s') :
    s'.Tallied := by
  rcases commitNewEntrant_cases h with rfl | ⟨hfresh, hcount, hrows⟩
  · exact hs
  · intro cohort userId
    rw [Ledger.receiptsOf, hrows, filter_append, map_append, hcount]
    have hbefore := hs cohort userId
    rw [Ledger.receiptsOf] at hbefore
    rw [hbefore]
    by_cases hkey : cohort = r.toCohort ∧ userId = r.userId
    · obtain ⟨rfl, rfl⟩ := hkey
      rw [if_pos ⟨rfl, rfl⟩, range'_concat, hfresh]
      simp [receiptOf, Nat.add_comm]
    · rw [if_neg hkey]
      have hother : ¬((receiptOf r leadId).toCohort = cohort ∧ (receiptOf r leadId).userId = userId) :=
        fun hsame => hkey ⟨hsame.1.symm, hsame.2.symm⟩
      simp [hother]

theorem moveCursor_ok {cohort : Cohort} (h : moveCursor s cohort = .ok s') :
    s'.counters = s.counters ∧ s'.receipts = s.receipts := by
  rw [moveCursor] at h
  split at h
  · simp only [bind_ok_iff, pure_ok_iff] at h
    obtain ⟨_, -, rfl⟩ := h
    exact ⟨rfl, rfl⟩
  · cases h
    exact ⟨rfl, rfl⟩

theorem commitSheetAssignment_tallied {assignment : SheetAssignment} (hs : s.Tallied)
    (h : commitSheetAssignment rt db s assignment leadId = .ok s') : s'.Tallied := by
  rw [commitSheetAssignment] at h
  split at h
  · simp only [bind_ok_iff] at h
    obtain ⟨-, -, h⟩ := h
    exact commitNewEntrant_tallied hs h
  · split at h
    · cases h
      exact hs
    · simp only [bind_ok_iff] at h
      obtain ⟨_, -, _, -, -, -, h⟩ := h
      split at h
      · obtain ⟨hcounters, hrecs⟩ := moveCursor_ok h
        intro cohort userId
        rw [Ledger.receiptsOf, hrecs, Ledger.count, hcounters]
        exact hs cohort userId
      · cases h
        exact hs

/-- A call on the ledger: a reservation, or a commit of any reservation whatever. -/
inductive LedgerCall
  | reserve (cohort : Cohort) (eventKey : String) (candidates : List AssignmentCandidate)
    (pick : ℕ → Option ℤ)
  | commit (db : Database) (reservation : NewEntrantReservation) (leadId : String)
  | commitSheet (db : Database) (assignment : SheetAssignment) (leadId : String)

variable (rt collate)

def LedgerCall.perform (s : Ledger) :
    LedgerCall → Outcome (Option NewEntrantReservation × Ledger)
  | reserve cohort eventKey candidates pick => do
    let reservation ← reserveNewEntrant rt collate s cohort eventKey candidates pick
    pure (reservation, s)
  | commit db reservation leadId => do
    let s ← commitNewEntrant rt db s reservation leadId
    pure (none, s)
  | commitSheet db assignment leadId => do
    let s ← commitSheetAssignment rt db s assignment leadId
    pure (none, s)

/-- The ledger: a call that throws is rolled back. -/
def ledgerMachine : Machine Ledger LedgerCall (Outcome (Option NewEntrantReservation)) where
  step s call := match call.perform rt collate s with
    | .ok (reservation, s') => (.ok reservation, s')
    | .error e => (.error e, s)

variable {rt collate}

theorem perform_tallied {call : LedgerCall} {reservation : Option NewEntrantReservation}
    (hs : s.Tallied) (h : call.perform rt collate s = .ok (reservation, s')) : s'.Tallied := by
  cases call with
  | reserve cohort eventKey candidates pick =>
    simp only [LedgerCall.perform, bind_ok_iff, pure_ok_iff, Prod.mk.injEq] at h
    obtain ⟨_, -, -, rfl⟩ := h
    exact hs
  | commit db reservation leadId =>
    simp only [LedgerCall.perform, bind_ok_iff, pure_ok_iff, Prod.mk.injEq] at h
    obtain ⟨_, hcommit, -, rfl⟩ := h
    exact commitNewEntrant_tallied hs hcommit
  | commitSheet db assignment leadId =>
    simp only [LedgerCall.perform, bind_ok_iff, pure_ok_iff, Prod.mk.injEq] at h
    obtain ⟨_, hcommit, -, rfl⟩ := h
    exact commitSheetAssignment_tallied hs hcommit

theorem ledgerMachine_tallied (s : Ledger) (call : LedgerCall) (hs : s.Tallied) :
    ((ledgerMachine rt collate).next s call).Tallied := by
  simp only [Machine.next, ledgerMachine]
  split
  · rename_i hperform
    exact perform_tallied hs hperform
  · exact hs

/-- A commit of an event that has a receipt answers alike and changes nothing, when the
receipt is of the same assignment. -/
theorem step_replay {p : CampusNewAssignmentReceiptRow}
    (hp : s.receipts.findUnique (.eventHash r.eventHash) = some p) (hmatches : p.Matches r leadId) :
    (ledgerMachine rt collate).step s (.commit db r leadId) = (.ok none, s) := by
  simp only [ledgerMachine, LedgerCall.perform, commitNewEntrant, hp, require_pos hmatches, ok_bind]
  rfl

theorem step_mismatch {p : CampusNewAssignmentReceiptRow}
    (hp : s.receipts.findUnique (.eventHash r.eventHash) = some p) (hmatches : ¬p.Matches r leadId) :
    (ledgerMachine rt collate).step s (.commit db r leadId) =
      (.error (.conflict "assignment_balance_replay_conflict"), s) := by
  simp only [ledgerMachine, LedgerCall.perform, commitNewEntrant, hp, require_neg hmatches,
    error_bind]

theorem step_stale (hnew : s.receipts.findUnique (.eventHash r.eventHash) = none)
    (hstale : s.count r.toCohort r.userId ≠ r.previousCount) :
    ∃ e, (ledgerMachine rt collate).step s (.commit db r leadId) = (.error e, s) := by
  simp only [ledgerMachine, LedgerCall.perform, commitNewEntrant, hnew]
  cases assertNewLead rt db r leadId with
  | error e => exact ⟨e, rfl⟩
  | ok u => exact ⟨.conflict "assignment_balance_reservation_stale", by simp [hstale]⟩

/-- **In every ledger that is reached, the counters and the receipts agree**: the
receipts of a user are as many as its counter, numbered from one without gap or
repetition, and no event has two. An event that was committed is replayed without
effect, and a mismatched replay or a stale reservation throws and changes nothing. -/
theorem tallied_throughout (calls : List LedgerCall) :
    (ledgerMachine rt collate).Throughout (fun s =>
      (∀ cohort userId, s.count cohort userId = (s.receiptsOf cohort userId).length ∧
        (s.receiptsOf cohort userId).map CampusNewAssignmentReceiptRow.countAfter =
          range' 1 (s.count cohort userId)) ∧
      (∀ p ∈ s.receipts.rows, ∀ p' ∈ s.receipts.rows, p.eventHash = p'.eventHash → p = p') ∧
      ∀ db r leadId, (∀ p, s.receipts.findUnique (.eventHash r.eventHash) = some p →
          (p.Matches r leadId →
            (ledgerMachine rt collate).step s (.commit db r leadId) = (.ok none, s)) ∧
          (¬p.Matches r leadId →
            ∃ e, (ledgerMachine rt collate).step s (.commit db r leadId) = (.error e, s))) ∧
        (s.receipts.findUnique (.eventHash r.eventHash) = none →
          s.count r.toCohort r.userId ≠ r.previousCount →
            ∃ e, (ledgerMachine rt collate).step s (.commit db r leadId) = (.error e, s)))
      {} calls := by
  intro pre hpre
  have htallied := throughout_of_step
    (M := ledgerMachine rt collate) ledgerMachine_tallied tallied_empty calls pre hpre
  refine ⟨fun cohort userId => ⟨?_, htallied cohort userId⟩, fun p hp p' hp' hhash => ?_,
    fun db r leadId => ⟨fun p hp => ⟨fun hmatches => step_replay hp hmatches,
      fun hmatches => ⟨_, step_mismatch hp hmatches⟩⟩, fun hnew hstale => step_stale hnew hstale⟩⟩
  · have hlen := congrArg length (htallied cohort userId)
    rw [length_map, length_range'] at hlen
    exact hlen.symm
  · refine eq_of_key _ hp hp' (k := .eventHash p.eventHash) ?_ ?_
    · simp [CampusNewAssignmentReceiptRow.keys]
    · simp [CampusNewAssignmentReceiptRow.keys, hhash]

/-! ### Nobody is served twice more than another -/

structure Desk where
  ledger : Ledger
  issued : List NewEntrantReservation := []

/-- A reservation, or the commit of one that was issued. -/
inductive DeskCall
  | reserve (cohort : Cohort) (eventKey : String) (candidates : List AssignmentCandidate)
    (pick : ℕ → Option ℤ)
  | commit (db : Database) (index : ℕ) (leadId : String)

variable (rt collate)

def DeskCall.perform (d : Desk) : DeskCall → Outcome Desk
  | reserve cohort eventKey candidates pick => do
    let reservation ← reserveNewEntrant rt collate d.ledger cohort eventKey candidates pick
    pure { d with issued := d.issued ++ reservation.toList }
  | commit db index leadId => do
    let reservation ← demand d.issued[index]? .database
    let ledger ← commitNewEntrant rt db d.ledger reservation leadId
    pure { d with ledger }

/-- Reservations and their commits, in any order: a call that throws is rolled back. -/
def deskMachine : Machine Desk DeskCall (Outcome Unit) where
  step d call := match call.perform rt collate d with
    | .ok d' => (.ok (), d')
    | .error e => (.error e, d)

variable {rt collate}

/-- What is reserved for a cohort considers the user: it is eligible. -/
def DeskCall.Considers (call : DeskCall) (cohort : Cohort) (userId : String) : Prop :=
  match call with
  | reserve c _ candidates _ => c = cohort → ∃ k ∈ candidates, k.Eligible ∧ k.userId = userId
  | commit _ _ _ => True

/-- Nobody of a group was served more than once more than another, and nobody of it is
below the count of a reservation. -/
structure Desk.Fair (d : Desk) (cohort : Cohort) (W : Set String) : Prop where
  spread : Spread W (d.ledger.count cohort)
  promised : ∀ r ∈ d.issued, r.toCohort = cohort →
    Promised W (d.ledger.count cohort) r.previousCount

/-- **A reservation promises the least count, and a commit keeps a promise.** -/
theorem perform_fair {d d' : Desk} {call : DeskCall} {cohort : Cohort} {W : Set String}
    (hd : d.Fair cohort W) (hconsiders : ∀ w ∈ W, call.Considers cohort w)
    (h : call.perform rt collate d = .ok d') : d'.Fair cohort W := by
  cases call with
  | reserve c eventKey candidates pick =>
    simp only [DeskCall.perform, bind_ok_iff, pure_ok_iff] at h
    obtain ⟨reservation, hreserve, rfl⟩ := h
    refine ⟨hd.spread, fun r hr hcohort => ?_⟩
    rcases mem_append.mp hr with hr | hr
    · exact hd.promised r hr hcohort
    · obtain rfl := mem_toList.mp hr
      obtain ⟨hsame, -, -, hleast⟩ := reserveNewEntrant_spec hreserve
      obtain rfl : c = cohort := hsame.symm.trans hcohort
      -- everybody of the group was eligible when this was reserved
      intro w hw
      obtain ⟨k, hk, heligible, rfl⟩ := hconsiders w hw rfl
      exact hleast k hk heligible
  | commit db index leadId =>
    simp only [DeskCall.perform, bind_ok_iff, demand_ok_iff, pure_ok_iff] at h
    obtain ⟨r, hissued, ledger, hcommit, rfl⟩ := h
    rcases commitNewEntrant_cases hcommit with rfl | ⟨hfresh, hcount, -⟩
    · exact hd
    · have hserve := @count_serve d.ledger ledger r cohort hcount
      by_cases hcohort : cohort = r.toCohort
      · rw [if_pos hcohort] at hserve
        have hpromised := hd.promised r (mem_of_getElem? hissued) hcohort.symm
        rw [hcohort] at hpromised hserve
        rw [← hfresh] at hpromised
        refine ⟨?_, fun r' hr' hcohort' => ?_⟩
        · rw [hcohort, hserve]
          exact (hcohort ▸ hd.spread).serve hpromised
        · rw [hcohort, hserve]
          exact (hcohort ▸ hd.promised r' hr' hcohort').mono fun w => le_serve r.userId w
      · rw [if_neg hcohort] at hserve
        exact ⟨hserve ▸ hd.spread, fun r' hr' hcohort' => hserve ▸ hd.promised r' hr' hcohort'⟩

/-- **The counts of two collaborators who are eligible whenever something is reserved
never differ by more than one**, in any run of reservations and commits from zero
counts, and who is chosen is eligible and has the least count of the eligible. -/
theorem spread_throughout {start : Ledger} {cohort : Cohort} {u v : String}
    (hzero : ∀ w, start.count cohort w = 0) {calls : List DeskCall}
    (heligible : ∀ call ∈ calls, call.Considers cohort u ∧ call.Considers cohort v) :
    (deskMachine rt collate).Throughout (fun d =>
      (d.ledger.count cohort u ≤ d.ledger.count cohort v + 1 ∧
        d.ledger.count cohort v ≤ d.ledger.count cohort u + 1) ∧ ∀ eventKey candidates pick r,
        reserveNewEntrant rt collate d.ledger cohort eventKey candidates pick = .ok (some r) →
          (∃ c ∈ candidates, c.Eligible ∧ c.userId = r.userId) ∧
            d.ledger.count cohort r.userId = r.previousCount ∧ ∀ c ∈ candidates, c.Eligible →
              d.ledger.count cohort r.userId ≤ d.ledger.count cohort c.userId)
      ⟨start, []⟩ calls := by
  have hstart : Desk.Fair ⟨start, []⟩ cohort {u, v} := by
    refine ⟨?_, fun r hr => absurd hr not_mem_nil⟩
    rw [show Ledger.count start cohort = fun _ => 0 from funext hzero]
    exact spread_zero
  have hmeets := meets_of_forall (M := deskMachine rt collate) ⟨start, []⟩ heligible
  intro pre hpre
  have hfair : ((deskMachine rt collate).run ⟨start, []⟩ pre).Fair cohort {u, v} := by
    refine throughout_of_meets (I := fun d => Desk.Fair d cohort {u, v})
      (fun d call hd hconsiders => ?_) hstart hmeets pre hpre
    simp only [Machine.next, deskMachine]
    split
    · rename_i d' hperform
      refine perform_fair hd (fun w hw => ?_) hperform
      rcases hw with rfl | rfl
      · exact hconsiders.1
      · exact hconsiders.2
    · exact hd
  refine ⟨⟨hfair.spread u (.inl rfl) v (.inr rfl), hfair.spread v (.inr rfl) u (.inl rfl)⟩,
    fun eventKey candidates pick r hreserve => ?_⟩
  obtain ⟨-, heligible, hcount, hleast⟩ := reserveNewEntrant_spec hreserve
  exact ⟨heligible, hcount, fun c hc hce => hcount ▸ hleast c hc hce⟩

namespace Sample

def collaborators : List AssignmentCandidate :=
  [{ userId := "ada", active := true, capacity := 10, activeLeadCount := 0 },
    { userId := "blaise", active := true, capacity := 10, activeLeadCount := 3 }]

def cohort : Cohort := ⟨"99999999-0000-4000-8000-000000000000", 1, "rule"⟩

def entered : Database where
  references := {
    references := .ofRows [⟨cohort.campusId, .CAMPUS, "rabat", "Rabat", "GLOBAL", .ACTIVE⟩]
    keys := .ofRows [⟨cohort.campusId, .CAMPUS, "GLOBAL", "RABAT"⟩]
    availability := .empty }
  leads := .ofRows (["ada", "blaise"].map fun user => {
    id := "lead-" ++ user, leadCode := "L-" ++ user, firstName := "Lina", lastName := "B"
    campus := "rabat", campaign := "salon", educationLevel := "BAC", program := "INFO"
    source := "SALON", assignedToId := some user, createdAt := 0 })

/-- A reservation that draws the first of the least served. -/
def reserve (event : String) : DeskCall := .reserve cohort event collaborators fun _ => some 0

/-- Two leads enter, and the first commit is sent twice. -/
def entries : List DeskCall :=
  [reserve "1", .commit entered 0 "lead-ada", reserve "2", .commit entered 0 "lead-ada",
    .commit entered 1 "lead-blaise"]

end Sample

open Sample

theorem spread_throughout_of_entries :
    (deskMachine .plain fun a b => a ≤ b).Throughout (fun d =>
      (d.ledger.count cohort "ada" ≤ d.ledger.count cohort "blaise" + 1 ∧
        d.ledger.count cohort "blaise" ≤ d.ledger.count cohort "ada" + 1) ∧
      ∀ eventKey candidates pick r,
        reserveNewEntrant .plain (fun a b => a ≤ b) d.ledger cohort eventKey candidates
            pick = .ok (some r) → (∃ c ∈ candidates, c.Eligible ∧ c.userId = r.userId) ∧
            d.ledger.count cohort r.userId = r.previousCount ∧ ∀ c ∈ candidates, c.Eligible →
              d.ledger.count cohort r.userId ≤ d.ledger.count cohort c.userId)
      ⟨{}, []⟩ entries := by
  have hboth : ∀ w ∈ ["ada", "blaise"], ∃ k ∈ collaborators, k.Eligible ∧ k.userId = w := by
    decide
  refine spread_throughout (fun _ => rfl) fun call hcall => ?_
  simp only [entries, reserve, mem_cons, not_mem_nil, or_false] at hcall
  rcases hcall with rfl | rfl | rfl | rfl | rfl
  · exact ⟨fun _ => hboth "ada" (by simp), fun _ => hboth "blaise" (by simp)⟩
  · exact ⟨trivial, trivial⟩
  · exact ⟨fun _ => hboth "ada" (by simp), fun _ => hboth "blaise" (by simp)⟩
  · exact ⟨trivial, trivial⟩
  · exact ⟨trivial, trivial⟩

end CrmYnov.Assignment
