import CrmYnov.Auth.Principal
import CrmYnov.Base.Machine
import CrmYnov.Base.Table
import CrmYnov.Js.Date
import CrmYnov.Platform.Runtime

/-!
# Decisions of import reviews

An import that cannot be settled by itself is queued for review, and a manager decides it:
create a lead, attach the line to one of the candidates, or ignore it. The service keeps the
items and, under the idempotency key of each decision, a receipt.

Two things a decision does not look at make the difference between what it is for and what it
does. A receipt answers whoever presents its key, whatever item and decision the new call is
about; and an item that is resolved is decided again by whoever presents its new version and a
new key. `ImportReview.decisions_final_iff` says exactly which runs stay clear of both.
-/

namespace CrmYnov.ImportReview

open Checked Machine Dict Option

/-- `REVIEW_REASONS` -/
inductive ReviewReason
  | IDENTITY_COLLISION | NAME_AMBIGUOUS | STATUS_UNKNOWN | PROGRAM_UNKNOWN | OWNER_UNKNOWN
  | SOURCE_UNKNOWN | LOW_CONFIDENCE_MAPPING

def ReviewReason.read : String → Option ReviewReason
  | "IDENTITY_COLLISION" => some IDENTITY_COLLISION
  | "NAME_AMBIGUOUS" => some NAME_AMBIGUOUS
  | "STATUS_UNKNOWN" => some STATUS_UNKNOWN
  | "PROGRAM_UNKNOWN" => some PROGRAM_UNKNOWN
  | "OWNER_UNKNOWN" => some OWNER_UNKNOWN
  | "SOURCE_UNKNOWN" => some SOURCE_UNKNOWN
  | "LOW_CONFIDENCE_MAPPING" => some LOW_CONFIDENCE_MAPPING
  | _ => none

inductive ReviewDecision
  | CREATE | ATTACH | IGNORE
deriving DecidableEq

def ReviewDecision.read : String → Option ReviewDecision
  | "CREATE" => some CREATE
  | "ATTACH" => some ATTACH
  | "IGNORE" => some IGNORE
  | _ => none

inductive ReviewStatus
  | PENDING | RESOLVED
deriving DecidableEq

structure ReviewItem where
  (id batchId : String)
  lineNumber : ℤ
  (reasons candidateLeadIds : List String)
  status : ReviewStatus
  version : ℤ
  decision : Option ReviewDecision := none
  targetLeadId : Option String := none
  decidedBy : Option String := none
  decidedAt : Option String := none
deriving DecidableEq

structure EnqueueReviewInput where
  batchId : String
  lineNumber : ℤ
  reasons : List String
  candidateLeadIds : Option (List String) := none

structure DecideReviewInput where
  decision : String
  expectedVersion : ℤ
  idempotencyKey : String
  targetLeadId : Option String := none

/-- The target of a decision; an empty text names none. -/
def DecideReviewInput.target (input : DecideReviewInput) : Option String :=
  input.targetLeadId.filter fun id => id ≠ ""

/-- `ID`: `/^[a-z0-9][a-z0-9_-]{2,79}$/i` -/
def isId : String → Bool :=
  Js.headMatch Js.isAlnum (fun c => Js.isAlnum c || c == '_' || c == '-') 2 79

/-- `UUID`: `/^[0-9a-f-]{36}$/i` -/
def isUuid : String → Bool := Js.fullMatch (fun c => Js.isHexDigitAnyCase c || c == '-') 36 36

structure ImportReviewService where
  items : Dict String ReviewItem := empty
  receipts : Dict String ReviewItem := empty

namespace ImportReviewService

def assertManager (principal : Principal) : Outcome Unit :=
  require (principal.hasSome Principal.managers) (.forbidden "import_review_forbidden")

/-- What `enqueue` asks of its input. -/
def Enqueueable (input : EnqueueReviewInput) : Prop :=
  isId input.batchId ∧ 1 ≤ input.lineNumber ∧ input.reasons ≠ [] ∧
    (∀ reason ∈ input.reasons, (ReviewReason.read reason).isSome) ∧ input.reasons.Nodup ∧
    (∀ id ∈ input.candidateLeadIds.getD [], isUuid id) ∧ (input.candidateLeadIds.getD []).Nodup
deriving Decidable

variable (collate : String → String → Bool)

/-- The item that `enqueue` makes of its input; texts are sorted by `localeCompare`. -/
def queued (input : EnqueueReviewInput) (randomUUID : String) :
    ReviewItem where
  id := randomUUID
  batchId := input.batchId
  lineNumber := input.lineNumber
  reasons := input.reasons.mergeSort collate
  candidateLeadIds := (input.candidateLeadIds.getD []).mergeSort collate
  status := .PENDING
  version := 1

variable (s : ImportReviewService)

def enqueue (input : EnqueueReviewInput) (principal : Principal) (randomUUID : String) :
    Outcome (ReviewItem × ImportReviewService) := do
  assertManager principal
  require (Enqueueable input) (.badRequest "import_review_item_invalid")
  let item := queued collate input randomUUID
  pure (item, { s with items := s.items.set item.id item })

/-- The key, the decision and the version of a call are those of a decision of this item. -/
def Current (item : ReviewItem) (input : DecideReviewInput) : Prop :=
  isId input.idempotencyKey ∧ (ReviewDecision.read input.decision).isSome ∧
    input.expectedVersion = item.version
deriving Decidable

/-- An attachment names one of the candidates. -/
def TargetAllowed (item : ReviewItem) (input : DecideReviewInput) : Prop :=
  input.decision = "ATTACH" → ∃ target ∈ input.target, target ∈ item.candidateLeadIds
deriving Decidable

/-- Only an attachment names a target. -/
def TargetExpected (input : DecideReviewInput) : Prop :=
  input.decision ≠ "ATTACH" → input.target = none
deriving Decidable

def resolved (item : ReviewItem) (input : DecideReviewInput) (principal : Principal)
    (now : Instant) : ReviewItem :=
  { item with
    status := .RESOLVED
    version := item.version + 1
    decision := ReviewDecision.read input.decision
    targetLeadId := input.target.or item.targetLeadId
    decidedBy := some principal.userId
    decidedAt := some (Js.isoString now) }

/-- `decide`, past the lookup of the receipt. -/
def resolve (id : String) (input : DecideReviewInput) (principal : Principal) (now : Instant) :
    Outcome (ReviewItem × ImportReviewService) := do
  let item ← demand (s.items.get id) (.notFound "import_review_not_found")
  require (Current item input) (.conflict "import_review_decision_conflict")
  require (TargetAllowed item input) (.forbidden "import_review_target_forbidden")
  require (TargetExpected input) (.badRequest "import_review_target_unexpected")
  let decided := resolved item input principal now
  pure (decided,
    { items := s.items.set id decided, receipts := s.receipts.set input.idempotencyKey decided })

def decide (id : String) (input : DecideReviewInput) (principal : Principal) (now : Instant) :
    Outcome (ReviewItem × ImportReviewService) := do
  assertManager principal
  match s.receipts.get input.idempotencyKey with
  | some receipt => pure (receipt, s)
  | none => s.resolve id input principal now

end ImportReviewService

open ImportReviewService

/-- The calls of the service, with the identifier or the clock the world gives to them. -/
inductive Call
  | enqueue (input : EnqueueReviewInput) (principal : Principal) (randomUUID : String)
  | decide (id : String) (input : DecideReviewInput) (principal : Principal) (now : Instant)

variable (collate : String → String → Bool)

def Call.handle (s : ImportReviewService) :
    Call → Outcome (ReviewItem × ImportReviewService)
  | enqueue input principal randomUUID =>
    ImportReviewService.enqueue collate s input principal randomUUID
  | decide id input principal now => s.decide id input principal now

/-- The service, as a machine; a call that throws leaves the memory as it was. -/
def service :
    Machine ImportReviewService Call (Outcome ReviewItem) where
  step s call :=
    match call.handle collate s with
    | .ok (item, s') => (.ok item, s')
    | .error e => (.error e, s)

variable {principal : Principal}

section

variable {collate : String → String → Bool} {s s' : ImportReviewService} {call : Call}
  {item : ReviewItem}

theorem service_ok (h : call.handle collate s = .ok (item, s')) :
    (service collate).answer s call = .ok item ∧ (service collate).next s call = s' := by
  simp only [answer, next, service, h, and_self]

theorem service_error {e : Failure} (h : call.handle collate s = .error e) :
    (service collate).answer s call = .error e ∧ (service collate).next s call = s := by
  simp only [answer, next, service, h, and_self]

theorem enqueue_ok {input : EnqueueReviewInput} {randomUUID : String}
    (h : ImportReviewService.enqueue collate s input principal randomUUID = .ok (item, s')) :
    item = queued collate input randomUUID ∧
      s' = { s with items := s.items.set randomUUID (queued collate input randomUUID) } := by
  simp only [ImportReviewService.enqueue, ok_iff] at h
  obtain ⟨_, -, _, -, rfl, rfl⟩ := h
  exact ⟨rfl, rfl⟩

end

/-! ### Decisions that are final and addressed -/

/-- The item is resolved as the call asks. -/
def DecidedAs (item : ReviewItem) (input : DecideReviewInput) : Prop :=
  item.status = .RESOLVED ∧ item.decision = ReviewDecision.read input.decision ∧
    item.targetLeadId = input.target
deriving Decidable

variable (collate : String → String → Bool)

variable (s : ImportReviewService)

/-- **A call that keeps decisions final and addressed**: no resolved item changes, and a decision
that succeeds is the decision of its item. -/
def FinalStep (call : Call) : Prop :=
  (∀ id item, s.items.get id = some item → item.status = .RESOLVED →
      ((service collate).next s call).items.get id = some item) ∧
    ∀ id input principal now, call = .decide id input principal now →
      ∀ answer, (service collate).answer s call = .ok answer →
        ∃ item, ((service collate).next s call).items.get id = some item ∧ DecidedAs item input

/-- The call is a decision of this item that takes effect. -/
def decides (id : String) : Call → Bool
  | .enqueue .. => false
  | .decide id' input principal now =>
    id' == id &&
      ((service collate).next s (.decide id' input principal now)).items.get id != s.items.get id

/-- How often an item is decided along a run. -/
def decisions (id : String) : ImportReviewService → List Call → ℕ
  | _, [] => 0
  | s, call :: calls =>
    (decides collate s id call).toNat + decisions id ((service collate).next s call) calls

/-- The identifiers that the world draws are new. -/
def Fresh : Call → Prop
  | .enqueue _ _ randomUUID => s.items.get randomUUID = none
  | .decide .. => True

instance (s : ImportReviewService) (call : Call) : Decidable (Fresh s call) :=
  match call with
  | .enqueue _ _ randomUUID => inferInstanceAs (Decidable (s.items.get randomUUID = none))
  | .decide .. => isTrue trivial

/-- **What keeps a decision final and addressed**: if its key has a receipt, the item is already
resolved as the call asks; otherwise a resolved item is presented another version, or what is no
decision of it. -/
def Addressed : Call → Prop
  | .enqueue .. => True
  | .decide id input principal _ =>
    principal.hasSome Principal.managers →
      if (s.receipts.get input.idempotencyKey).isSome then
        ∃ item, s.items.get id = some item ∧ DecidedAs item input
      else
        ∀ item, s.items.get id = some item → item.status = .RESOLVED →
          ¬(Current item input ∧ TargetAllowed item input ∧ TargetExpected input)

/-- An item that waits has no target yet. -/
def Waiting : Prop :=
  ∀ id item, s.items.get id = some item → item.status = .PENDING → item.targetLeadId = none

variable {collate} {s : ImportReviewService}

variable {input : DecideReviewInput}

variable {id : String} {now : Instant}

theorem resolve_ok {decided : ReviewItem} {s' : ImportReviewService} :
    s.resolve id input principal now = .ok (decided, s') ↔
      ∃ item, s.items.get id = some item ∧
        (Current item input ∧ TargetAllowed item input ∧ TargetExpected input) ∧
        decided = resolved item input principal now ∧
        s' = { items := s.items.set id decided,
               receipts := s.receipts.set input.idempotencyKey decided } := by
  simp only [resolve, ok_iff]
  constructor
  · rintro ⟨item, hitem, _, hcur, _, hallow, _, hexpected, rfl, rfl⟩
    exact ⟨item, hitem, ⟨hcur, hallow, hexpected⟩, rfl, rfl⟩
  · rintro ⟨item, hitem, ⟨hcur, hallow, hexpected⟩, rfl, rfl⟩
    exact ⟨item, hitem, (), hcur, (), hallow, (), hexpected, rfl, rfl⟩

/-- **What a decision does**: a receipt answers it, or it resolves its item. -/
theorem decide_ok {answer : ReviewItem} {s' : ImportReviewService} :
    s.decide id input principal now = .ok (answer, s') ↔
      principal.hasSome Principal.managers ∧
        (s.receipts.get input.idempotencyKey = some answer ∧ s' = s ∨
          s.receipts.get input.idempotencyKey = none ∧
            s.resolve id input principal now = .ok (answer, s')) := by
  simp only [ImportReviewService.decide, ok_iff, assertManager]
  cases hrec : s.receipts.get input.idempotencyKey with
  | some receipt =>
    simp only [pure_ok_iff, Prod.mk.injEq, some.injEq, reduceCtorEq, false_and, or_false]
    constructor
    · rintro ⟨_, hmanager, rfl, rfl⟩
      exact ⟨hmanager, rfl, rfl⟩
    · rintro ⟨hmanager, rfl, rfl⟩
      exact ⟨(), hmanager, rfl, rfl⟩
  | none =>
    simp only [reduceCtorEq, false_and, false_or, true_and]
    constructor
    · rintro ⟨_, hmanager, h⟩
      exact ⟨hmanager, h⟩
    · rintro ⟨hmanager, h⟩
      exact ⟨(), hmanager, h⟩

theorem decidedAs_resolved {item : ReviewItem} (htarget : item.targetLeadId = none) :
    DecidedAs (resolved item input principal now) input :=
  ⟨rfl, rfl, by rw [resolved, htarget, or_none]⟩

theorem resolved_ne (item : ReviewItem) (input : DecideReviewInput) (principal : Principal)
    (now : Instant) : resolved item input principal now ≠ item := by
  intro h
  have hver : item.version + 1 = item.version := congrArg ReviewItem.version h
  omega

theorem waiting_next (hw : Waiting s) (call : Call) :
    Waiting ((service collate).next s call) := by
  rcases h : call.handle collate s with e | ⟨answer, s'⟩
  · rwa [(service_error h).2]
  rw [(service_ok h).2]
  intro id item hitem hpend
  cases call with
  | enqueue input principal randomUUID =>
    obtain ⟨-, rfl⟩ := enqueue_ok h
    rw [get_set] at hitem
    split at hitem
    · cases hitem
      rfl
    · exact hw id item hitem hpend
  | decide id' input principal now =>
    obtain ⟨-, ⟨-, rfl⟩ | ⟨-, hresolve⟩⟩ := decide_ok.mp h
    · exact hw id item hitem hpend
    · obtain ⟨old, -, -, rfl, rfl⟩ := resolve_ok.mp hresolve
      rw [get_set] at hitem
      split at hitem
      · cases hitem
        cases hpend
      · exact hw id item hitem hpend

theorem finalStep_enqueue {input : EnqueueReviewInput} {randomUUID : String}
    (hfresh : s.items.get randomUUID = none) :
    FinalStep collate s (.enqueue input principal randomUUID) := by
  refine ⟨fun id item hitem _ => ?_, fun id input principal now hcall => by cases hcall⟩
  rcases h : (Call.enqueue input principal randomUUID).handle collate s with e | ⟨answer, s'⟩
  · rwa [(service_error h).2]
  · rw [(service_ok h).2]
    obtain ⟨-, rfl⟩ := enqueue_ok h
    have hne : id ≠ randomUUID := by
      rintro rfl
      rw [hfresh] at hitem
      cases hitem
    rwa [get_set_of_ne _ _ hne]

/-- **The exact condition of one step.** -/
theorem finalStep_iff {call : Call} (hw : Waiting s) (hfresh : Fresh s call) :
    FinalStep collate s call ↔ Addressed s call := by
  cases call with
  | enqueue input principal randomUUID => exact iff_of_true (finalStep_enqueue hfresh) trivial
  | decide id input principal now =>
    constructor
    · intro hfinal hmanager
      split
      · -- the receipt answers, and leaves the items as they are
        rename_i hrec
        obtain ⟨receipt, hrec⟩ := isSome_iff_exists.mp hrec
        have h : (Call.decide id input principal now).handle collate s = .ok (receipt, s) :=
          decide_ok.mpr ⟨hmanager, .inl ⟨hrec, rfl⟩⟩
        have hdecided := hfinal.2 id input principal now rfl receipt (service_ok h).1
        rwa [(service_ok h).2] at hdecided
      · -- a resolved item would be resolved again
        rename_i hrec
        intro item hitem hstatus hchecks
        have hnone : s.receipts.get input.idempotencyKey = none :=
          not_isSome_iff_eq_none.mp hrec
        have h : (Call.decide id input principal now).handle collate s = .ok (_, _) :=
          decide_ok.mpr ⟨hmanager, .inr ⟨hnone, resolve_ok.mpr ⟨item, hitem, hchecks, rfl, rfl⟩⟩⟩
        have hkept := hfinal.1 id item hitem hstatus
        rw [(service_ok h).2] at hkept
        have hnew : some (resolved item input principal now) = some item := by
          rw [← hkept]
          exact (get_set_self _ _ _).symm
        exact resolved_ne item input principal now (some.inj hnew)
    · intro haddressed
      rcases h : (Call.decide id input principal now).handle collate s with e | ⟨answer, s'⟩
      · refine ⟨fun id' item hitem _ => by rwa [(service_error h).2], ?_⟩
        intro id' input' principal' now' _ answer hans
        rw [(service_error h).1] at hans
        cases hans
      · have hs' := (service_ok h).2
        obtain ⟨hmanager, ⟨hrec, rfl⟩ | ⟨hrec, hresolve⟩⟩ := decide_ok.mp h
        · have hdecided := haddressed hmanager
          rw [if_pos (by rw [hrec]; rfl)] at hdecided
          refine ⟨fun id' item hitem _ => by rwa [hs'], ?_⟩
          intro id' input' principal' now' hcall _ _
          cases hcall
          rwa [hs']
        · have hnot := haddressed hmanager
          rw [if_neg (by rw [hrec]; simp)] at hnot
          obtain ⟨old, hold, hchecks, rfl, rfl⟩ := resolve_ok.mp hresolve
          have hpend : old.status = .PENDING := by
            cases hstatus : old.status with
            | PENDING => rfl
            | RESOLVED => exact absurd hchecks (hnot old hold hstatus)
          constructor
          · intro id' item hitem hstatus
            have hne : id' ≠ id := by
              rintro rfl
              obtain rfl := mem_unique hold hitem
              rw [hpend] at hstatus
              cases hstatus
            rw [hs']
            exact (get_set_of_ne _ _ hne).trans hitem
          · intro id' input' principal' now' hcall _ _
            cases hcall
            refine ⟨resolved old input principal now, ?_,
              decidedAs_resolved (hw id old hold hpend)⟩
            rw [hs']
            exact get_set_self _ _ _

theorem resolved_of_decides {call : Call} (h : decides collate s id call = true) :
    ∃ item, ((service collate).next s call).items.get id = some item ∧
      item.status = .RESOLVED := by
  cases call with
  | enqueue input principal randomUUID => cases h
  | decide id' input principal now =>
    simp only [decides, Bool.and_eq_true, beq_iff_eq, bne_iff_ne] at h
    obtain ⟨rfl, hchanged⟩ := h
    rcases hcall : (Call.decide id' input principal now).handle collate s with e | ⟨answer, s'⟩
    · exact absurd (by rw [(service_error hcall).2]) hchanged
    · rw [(service_ok hcall).2] at hchanged ⊢
      obtain ⟨-, ⟨-, rfl⟩ | ⟨-, hresolve⟩⟩ := decide_ok.mp hcall
      · exact absurd rfl hchanged
      · obtain ⟨old, -, -, rfl, rfl⟩ := resolve_ok.mp hresolve
        exact ⟨_, get_set_self _ _ _, rfl⟩

theorem decisions_eq_zero {item : ReviewItem} (hitem : s.items.get id = some item)
    (hstatus : item.status = .RESOLVED) {calls : List Call}
    (h : (service collate).Meets (FinalStep collate) s calls) :
    decisions collate id s calls = 0 := by
  induction calls generalizing s with
  | nil => rfl
  | cons call calls ih =>
    have hkept := h.1.1 id item hitem hstatus
    have hnot : decides collate s id call = false := by
      cases call with
      | enqueue => rfl
      | decide id' input principal now =>
        rw [decides]
        simp only [hkept, hitem, bne_self_eq_false, Bool.and_false]
    rw [decisions, hnot, ih hkept h.2]
    rfl

/-- **An item is decided at most once** along a run whose steps are final. -/
theorem decisions_le_one (id : String) {calls : List Call}
    (h : (service collate).Meets (FinalStep collate) s calls) :
    decisions collate id s calls ≤ 1 := by
  induction calls generalizing s with
  | nil => exact Nat.zero_le 1
  | cons call calls ih =>
    rw [decisions]
    cases hdecides : decides collate s id call with
    | false =>
      have := ih h.2
      simpa using this
    | true =>
      obtain ⟨item, hitem, hstatus⟩ := resolved_of_decides hdecides
      rw [decisions_eq_zero hitem hstatus h.2]
      rfl

/-- **Decisions are final and addressed** along the runs, and only along the runs, whose
decisions present a key that has no receipt and an item that still waits – or repeat what their
item has already been decided to, or are refused. -/
theorem decisions_final_iff {calls : List Call} (hfresh : (service collate).Meets Fresh {} calls) :
    ((service collate).Meets (FinalStep collate) {} calls ∧
        ∀ id, decisions collate id {} calls ≤ 1) ↔
      (service collate).Meets Addressed {} calls := by
  have hwaiting : Waiting {} := fun id item hitem => by cases hitem
  have hiff := meets_congr (fun s a (hw : Waiting s) _ => waiting_next hw a)
    (fun s a (hw : Waiting s) hf => @finalStep_iff collate s a hw hf) hwaiting hfresh
  exact ⟨fun h => hiff.mp h.1, fun h => ⟨hiff.mpr h, fun id => decisions_le_one id (hiff.mpr h)⟩⟩

/-! ### A queue of two lines -/

namespace Sample

def manager : Principal :=
  ⟨"10000000-0000-4000-8000-000000000061", [.MANAGER], [.GLOBAL],
    "20000000-0000-4000-8000-000000000061"⟩

def first : String := "40000000-0000-4000-8000-000000000001"

def second : String := "40000000-0000-4000-8000-000000000002"

def enqueue (lineNumber : ℤ) (randomUUID : String) : Call :=
  .enqueue ⟨"batch-synthetic", lineNumber, ["SOURCE_UNKNOWN"], none⟩ manager randomUUID

def decide (id decision : String) (expectedVersion : ℤ) (idempotencyKey : String) : Call :=
  .decide id ⟨decision, expectedVersion, idempotencyKey, none⟩ manager 0

/-- The first item is decided, then decided again at its new version; its first key is then
presented for the second one. -/
def run : List Call :=
  [enqueue 1 first, enqueue 2 second, decide first "CREATE" 1 "decision-001",
    decide first "IGNORE" 2 "decision-002", decide second "IGNORE" 1 "decision-001"]

def service : Machine ImportReviewService Call (Outcome ReviewItem) :=
  ImportReview.service fun _ _ => true

/-- **Decisions are not final**: an item that is resolved is decided a second time, and the second
item of the queue is left waiting by a decision that succeeds. -/
theorem decisions_not_final :
    service.Meets Fresh {} run ∧
      ¬(service.Meets (FinalStep fun _ _ => true) {} run ∧
        ∀ id, decisions (fun _ _ => true) id {} run ≤ 1) := by
  refine ⟨⟨by decide +kernel, by decide +kernel, trivial, trivial, trivial, trivial⟩, fun h => ?_⟩
  have htwice : decisions (fun _ _ => true) first {} run = 2 := by decide +kernel
  have hone := h.2 first
  omega

/-- Each item decided once, and the first decision repeated. -/
def regular : List Call :=
  [enqueue 1 first, enqueue 2 second, decide first "CREATE" 1 "decision-001",
    decide second "IGNORE" 1 "decision-002", decide first "CREATE" 1 "decision-001"]

theorem regular_addressed : service.Meets Addressed {} regular := by
  refine ⟨trivial, trivial, ?_, ?_, ?_, trivial⟩
  · intro _
    rw [if_neg (by decide +kernel)]
    intro item hitem hstatus
    have hpend : (service.run {} [enqueue 1 first, enqueue 2 second]).items.get first =
        some (queued (fun _ _ => true) ⟨"batch-synthetic", 1, ["SOURCE_UNKNOWN"], none⟩ first) := by
      decide +kernel
    obtain rfl := mem_unique hpend hitem
    cases hstatus
  · intro _
    rw [if_neg (by decide +kernel)]
    intro item hitem hstatus
    have hpend : (service.run {} [enqueue 1 first, enqueue 2 second,
        decide first "CREATE" 1 "decision-001"]).items.get second =
        some (queued (fun _ _ => true) ⟨"batch-synthetic", 2, ["SOURCE_UNKNOWN"], none⟩ second) := by
      decide +kernel
    obtain rfl := mem_unique hpend hitem
    cases hstatus
  · intro _
    rw [if_pos (by decide +kernel)]
    exact ⟨resolved (queued (fun _ _ => true) ⟨"batch-synthetic", 1, ["SOURCE_UNKNOWN"], none⟩ first)
      ⟨"CREATE", 1, "decision-001", none⟩ manager 0, by decide +kernel, by decide +kernel⟩

theorem decisions_final_regular :
    service.Meets (FinalStep fun _ _ => true) {} regular ∧
      ∀ id, decisions (fun _ _ => true) id {} regular ≤ 1 :=
  (decisions_final_iff (by exact ⟨by decide +kernel, by decide +kernel, trivial, trivial, trivial,
    trivial⟩)).mpr regular_addressed

end Sample

end CrmYnov.ImportReview
