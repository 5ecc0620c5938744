import CrmYnov.Commercial.Closures

/-!
# Closing a lead, change by change

What is done to the leads, to the requests to close them and to the receipts of
mutations is made of a few changes (`CrmYnov.Closing.Change`): a lead is written without
being closed; a lead enters, open; a receipt is kept; a request is made on a lead that has
none pending; a pending request is cancelled; a pending request is decided, and its lead
is written with it.

Only the last of them can close a lead, and it does so with the status the request asks
for. From this it follows, by cases on a change, that a closed lead has a request which
someone else than its author approved (`CrmYnov.Closing.Change.approved`), that a lead has
one pending request at most (`CrmYnov.Closing.Change.onePending`), and that neither a
closed lead nor a settled request changes again (`CrmYnov.Closing.Changes.ahead`).
-/

namespace CrmYnov.Closing

open Checked Leads Closure Commercial Table Relation List

/-- The leads, the requests to close them, and the receipts of mutations. -/
structure Dossier where
  leads : Table LeadRow LeadRow.keys
  requests : Table LeadClosureRequestRow LeadClosureRequestRow.keys
  receipts : Table LeadMutationReceipt LeadMutationReceipt.keys

def dossier (db : Database) : Dossier :=
  ⟨db.leads, db.leadClosureRequests, db.leadMutationReceipts⟩

/-! ### What a change leaves -/

/-- A lead is left closed if it was, and is not closed if it was not. -/
structure Steady (l l' : LeadRow) : Prop where
  kept : l.status.Closed → l'.status = l.status
  closed : l'.status.Closed → l.status.Closed

variable {l l' : LeadRow}

theorem Steady.of_status (h : l'.status = l.status) : Steady l l' :=
  ⟨fun _ => h, fun hc => h ▸ hc⟩

theorem Steady.of_open (h : ¬l.status.Closed) (h' : ¬l'.status.Closed) :
    Steady l l' := ⟨fun hc => absurd hc h, fun hc => absurd hc h'⟩

/-- A pending request, and the same request once it is settled. -/
structure Settled (r r' : LeadClosureRequestRow) : Prop where
  pending : r.state = .PENDING
  settled : r'.state ≠ .PENDING
  version : r.version < r'.version
  id_eq : r'.id = r.id
  leadId : r'.leadId = r.leadId
  target : r'.target = r.target
  reason : r'.reason = r.reason
  comment : r'.comment = r.comment
  evidence : r'.evidence = r.evidence
  requesterId : r'.requesterId = r.requesterId

theorem Settled.keys {r r' : LeadClosureRequestRow} (h : Settled r r') : r'.keys = r.keys := by
  rw [LeadClosureRequestRow.keys, LeadClosureRequestRow.keys, h.id_eq]

theorem Settled.trans {a b c : LeadClosureRequestRow} (h : Settled a b) (h' : Settled b c) :
    Settled a c := absurd h'.pending h.settled

variable {item r : LeadClosureRequestRow}

theorem settled_settleRequest (hr : r.state = .PENDING) (hitem : item.state ≠ .PENDING) :
    Settled r (settleRequest item r) :=
  ⟨hr, hitem, Nat.lt_succ_self _, rfl, rfl, rfl, rfl, rfl, rfl, rfl⟩

/-- A decision on a request: an approval or a rejection, by someone else than its
author. -/
structure Decision (current item : LeadClosureRequestRow) : Prop where
  state : item.state = .APPROVED ∨ item.state = .REJECTED
  decidedBy : ∃ userId ∈ item.decidedBy, userId ≠ current.requesterId

/-- The head of the keys under which decisions have their receipts. -/
def decisionHead : String := "closure-decision:"

def decisionKey (id : String) (version : ℤ) : String :=
  decisionHead ++ id ++ ":" ++ toString version

def IsDecision (key : String) : Prop := ∃ rest, key = decisionHead ++ rest

theorem isDecision_decisionKey (id : String) (version : ℤ) : IsDecision (decisionKey id version) :=
  ⟨id ++ ":" ++ toString version, by simp [decisionKey, String.append_assoc]⟩

/-- **A key names its request and its version.** -/
theorem decisionKey_inj {id id' : String} {version version' : ℕ}
    (h : decisionKey id version = decisionKey id' version') : id = id' ∧ version = version' := by
  obtain ⟨hid, hver⟩ := Js.numbered_inj h
  exact ⟨(String.append_right_inj _).mp hid, hver⟩

theorem not_isDecision {head rest : String} (hhead : ¬decisionHead.toList <+: head.toList)
    (hhead' : ¬head.toList <+: decisionHead.toList) : ¬IsDecision (head ++ rest) := by
  rintro ⟨rest', h⟩
  have hlist : head.toList ++ rest.toList = decisionHead.toList ++ rest'.toList := by
    rw [← String.toList_append, ← String.toList_append, h]
  have hstart : decisionHead.toList <+: head.toList ++ rest.toList :=
    hlist ▸ prefix_append _ _
  rcases prefix_or_prefix_of_prefix hstart (prefix_append _ _) with hle | hle
  · exact hhead hle
  · exact hhead' hle

/-! ### Changes -/

inductive Change : Dossier → Dossier → Prop
  /-- A lead is written, and none is closed that was not. -/
  | write {c : Dossier} (p : LeadRow → Prop) [DecidablePred p] {f : LeadRow → LeadRow}
      (hf : ∀ l, (f l).keys = l.keys) (hlater : ∀ l ∈ c.leads.rows, p l → Later l (f l))
      (hsteady : ∀ l ∈ c.leads.rows, p l → Steady l (f l)) :
      Change c { c with leads := c.leads.updateMany p f hf }
  /-- A lead enters, and is not closed. -/
  | enter {c : Dossier} {l : LeadRow} {t : Table LeadRow LeadRow.keys}
      (hcreate : c.leads.create l = some t) (hopen : ¬l.status.Closed) :
      Change c { c with leads := t }
  /-- A receipt is kept, of something else than a decision. -/
  | receive {c : Dossier} {r : LeadMutationReceipt}
      {t : Table LeadMutationReceipt LeadMutationReceipt.keys}
      (hcreate : c.receipts.create r = some t) (hkey : ¬IsDecision r.idempotencyKey) :
      Change c { c with receipts := t }
  /-- A request is made on a lead that has none pending. -/
  | ask {c : Dossier} {r : LeadClosureRequestRow}
      {t : Table LeadClosureRequestRow LeadClosureRequestRow.keys}
      (hcreate : c.requests.create r = some t)
      (hfree : ∀ r' ∈ c.requests.rows, ¬PendingFor r.leadId r') :
      Change c { c with requests := t }
  /-- A pending request is cancelled. -/
  | cancel {c : Dossier} {current item : LeadClosureRequestRow}
      (hcur : current ∈ c.requests.rows) (hpend : current.state = .PENDING)
      (hitem : item.state = .CANCELLED) :
      Change c { c with
        requests := c.requests.updateMany (StillPending current.id current.version)
          (settleRequest item) (keys_settleRequest item) }
  /-- A pending request is decided, and its lead is written with it. -/
  | decide {c : Dossier} {current item : LeadClosureRequestRow} {receipt : LeadMutationReceipt}
      {t : Table LeadMutationReceipt LeadMutationReceipt.keys} (p : LeadRow → Prop)
      [DecidablePred p] {f : LeadRow → LeadRow} (hf : ∀ l, (f l).keys = l.keys)
      (hcur : current ∈ c.requests.rows) (hpend : current.state = .PENDING)
      (hitem : Decision current item) (hlater : ∀ l ∈ c.leads.rows, p l → Later l (f l))
      (hclosed : ∀ l ∈ c.leads.rows, p l → (f l).status.Closed → l.status.Closed ∨
        item.state = .APPROVED ∧ l.id = current.leadId ∧ (f l).status = current.target)
      (hcreate : c.receipts.create receipt = some t)
      (hkey : receipt.idempotencyKey = decisionKey current.id current.version) :
      Change c {
        leads := c.leads.updateMany p f hf
        requests := c.requests.updateMany (StillPending current.id current.version)
          (settleRequest item) (keys_settleRequest item)
        receipts := t }

def Changes : Dossier → Dossier → Prop := ReflTransGen Change

theorem Changes.refl (c : Dossier) : Changes c c := ReflTransGen.refl

theorem Changes.trans {c c' c'' : Dossier} (h : Changes c c') (h' : Changes c' c'') :
    Changes c c'' := ReflTransGen.trans h h'

variable {c c' : Dossier}

theorem Change.changes (h : Change c c') : Changes c c' :=
  ReflTransGen.single h

theorem Changes.preserve {P : Dossier → Prop} (hchange : ∀ c c', Change c c' → P c → P c')
    (h : Changes c c') (hc : P c) : P c' := by
  induction h with
  | refl => exact hc
  | tail _ hlast ih => exact hchange _ _ hlast ih

/-! ### What is closed or settled stays so -/

variable {current : LeadClosureRequestRow}

theorem decision_settles (h : Decision current item) : item.state ≠ .PENDING := by
  rcases h.state with hstate | hstate <;> rw [hstate] <;> decide

theorem cancelled_settles (h : item.state = .CANCELLED) : item.state ≠ .PENDING := by
  rw [h]
  decide

variable {t : Table LeadClosureRequestRow LeadClosureRequestRow.keys}

theorem requests_grow_settle (hitem : item.state ≠ .PENDING) :
    t.Grows Settled (t.updateMany (StillPending current.id current.version) (settleRequest item)
      (keys_settleRequest item)) :=
  Grows.of_updateMany (keys_settleRequest item) fun _ _ hr =>
    settled_settleRequest hr.2.1 hitem

theorem mem_settled (hcur : current ∈ t.rows) (hpend : current.state = .PENDING) :
    settleRequest item current ∈ (t.updateMany (StillPending current.id current.version)
      (settleRequest item) (keys_settleRequest item)).rows := by
  rw [mem_updateMany]
  exact ⟨current, hcur, if_pos ⟨rfl, hpend, rfl⟩⟩

structure Ahead (c c' : Dossier) : Prop where
  leads : c.leads.Grows Later c'.leads
  requests : c.requests.Grows Settled c'.requests

theorem Ahead.refl (c : Dossier) : Ahead c c := ⟨Grows.refl _, Grows.refl _⟩

theorem Ahead.trans {c c' c'' : Dossier} (h : Ahead c c') (h' : Ahead c' c'') : Ahead c c'' :=
  ⟨leadsGrow_trans h.leads h'.leads, h.requests.trans (fun _ _ _ => Settled.trans) h'.requests⟩

theorem Change.ahead (h : Change c c') : Ahead c c' := by
  cases h with
  | write _ hf hlater _ => exact ⟨Grows.of_updateMany hf hlater, Grows.refl _⟩
  | enter hcreate _ => exact ⟨Grows.of_create hcreate, Grows.refl _⟩
  | receive _ _ => exact ⟨Grows.refl _, Grows.refl _⟩
  | ask hcreate _ => exact ⟨Grows.refl _, Grows.of_create hcreate⟩
  | cancel _ _ hitem =>
    exact ⟨Grows.refl _, requests_grow_settle (cancelled_settles hitem)⟩
  | decide _ hf _ _ hitem hlater _ _ _ =>
    exact ⟨Grows.of_updateMany hf hlater, requests_grow_settle (decision_settles hitem)⟩

/-- **Neither a closed lead nor a settled request changes again.** -/
theorem Changes.ahead (h : Changes c c') : Ahead c c' := by
  induction h with
  | refl => exact Ahead.refl c
  | tail _ hlast ih => exact ih.trans hlast.ahead

variable {t' : Table LeadClosureRequestRow LeadClosureRequestRow.keys}

theorem request_eq_of_version (h : t.Grows Settled t') {r r' : LeadClosureRequestRow}
    (hr : r ∈ t.rows) (hr' : r' ∈ t'.rows) (hid : r'.id = r.id) (hver : r'.version = r.version) :
    r' = r :=
  h.eq_of_version (fun _ _ h => h.keys) (fun _ _ h => h.version) hr hr'
    (LeadClosureRequestRow.mem_keys.mpr rfl) (LeadClosureRequestRow.mem_keys.mpr hid) hver

/-! ### One pending request for a lead -/

/-- A lead has one pending request at most. -/
def OnePending (c : Dossier) : Prop :=
  ∀ r ∈ c.requests.rows, ∀ r' ∈ c.requests.rows,
    r.leadId = r'.leadId → r.state = .PENDING → r'.state = .PENDING → r = r'

theorem pending_of_settle (hitem : item.state ≠ .PENDING)
    (hr : r ∈ (t.updateMany (StillPending current.id current.version) (settleRequest item)
      (keys_settleRequest item)).rows) (hpend : r.state = .PENDING) : r ∈ t.rows := by
  obtain ⟨r₀, hr₀, rfl⟩ := mem_updateMany.mp hr
  split at hpend
  · exact absurd hpend hitem
  · rename_i hother
    rwa [if_neg hother]

theorem Change.onePending (h : Change c c') (hc : OnePending c) : OnePending c' := by
  cases h with
  | write | enter | receive => exact hc
  | ask hcreate hfree =>
    intro r hr r' hr' hlead hpend hpend'
    rcases (mem_create hcreate).mp hr with hr | rfl
    · rcases (mem_create hcreate).mp hr' with hr' | rfl
      · exact hc r hr r' hr' hlead hpend hpend'
      · exact absurd ⟨hlead, hpend⟩ (hfree r hr)
    · rcases (mem_create hcreate).mp hr' with hr' | rfl
      · exact absurd ⟨hlead.symm, hpend'⟩ (hfree r' hr')
      · rfl
  | cancel _ _ hitem =>
    have hsettles := cancelled_settles hitem
    intro r hr r' hr' hlead hpend hpend'
    exact hc r (pending_of_settle hsettles hr hpend) r' (pending_of_settle hsettles hr' hpend')
      hlead hpend hpend'
  | decide _ _ _ _ hitem _ _ _ _ =>
    have hsettles := decision_settles hitem
    intro r hr r' hr' hlead hpend hpend'
    exact hc r (pending_of_settle hsettles hr hpend) r' (pending_of_settle hsettles hr' hpend')
      hlead hpend hpend'

/-! ### A closed lead has an approved request -/

/-- A request that someone else than its author approved. -/
def ApprovedByAnother (r : LeadClosureRequestRow) : Prop :=
  r.state = .APPROVED ∧ ∃ userId ∈ r.decidedBy, userId ≠ r.requesterId

/-- A closed lead is exempt, or has an approved request for its very status. -/
def Approved (exempt : String → Prop) (c : Dossier) : Prop :=
  ∀ l ∈ c.leads.rows, l.status.Closed → exempt l.id ∨
    ∃ r ∈ c.requests.rows, r.leadId = l.id ∧ r.target = l.status ∧ ApprovedByAnother r

theorem approved_kept (h : t.Grows Settled t') (hr : r ∈ t.rows) (happroved : ApprovedByAnother r) :
    r ∈ t'.rows := by
  obtain ⟨r', hr', rfl | hsettled⟩ := h r hr
  · exact hr'
  · exact absurd hsettled.pending (by rw [happroved.1]; decide)

theorem approved_of_later {exempt : String → Prop} (hc : Approved exempt c)
    (hrequests : c.requests.Grows Settled c'.requests) (hl : l ∈ c.leads.rows)
    (hclosed : l.status.Closed) (hid : l'.id = l.id) (hstatus : l'.status = l.status) :
    exempt l'.id ∨
      ∃ r ∈ c'.requests.rows, r.leadId = l'.id ∧ r.target = l'.status ∧ ApprovedByAnother r := by
  rw [hid, hstatus]
  rcases hc l hl hclosed with hexempt | ⟨r, hr, hlead, htarget, happroved⟩
  · exact .inl hexempt
  · exact .inr ⟨r, approved_kept hrequests hr happroved, hlead, htarget, happroved⟩

/-- **Only an approval closes a lead.** -/
theorem Change.approved {exempt : String → Prop} (h : Change c c') (hc : Approved exempt c) :
    Approved exempt c' := by
  have hahead := h.ahead
  cases h with
  | write p hf hlater hsteady =>
    intro l' hl' hclosed
    obtain ⟨l, hl, rfl⟩ := mem_map.mp hl'
    by_cases hp : p l
    · rw [if_pos hp] at hclosed ⊢
      have hwas := (hsteady l hl hp).closed hclosed
      exact approved_of_later hc hahead.requests hl hwas (hlater l hl hp).id_eq
        ((hsteady l hl hp).kept hwas)
    · rw [if_neg hp] at hclosed ⊢
      exact hc l hl hclosed
  | enter hcreate hopen =>
    intro l hl hclosed
    rcases (mem_create hcreate).mp hl with hl | rfl
    · exact hc l hl hclosed
    · exact absurd hclosed hopen
  | receive => exact hc
  | ask hcreate hfree =>
    intro l hl hclosed
    exact approved_of_later hc hahead.requests hl hclosed rfl rfl
  | cancel _ _ _ =>
    intro l hl hclosed
    exact approved_of_later hc hahead.requests hl hclosed rfl rfl
  | @decide current item _ _ p _ f hf hcur hpend hitem hlater hclosing _ _ =>
    intro l' hl' hclosed
    obtain ⟨l, hl, rfl⟩ := mem_map.mp hl'
    by_cases hp : p l
    · rw [if_pos hp] at hclosed ⊢
      have hid := (hlater l hl hp).id_eq
      rcases hclosing l hl hp hclosed with hwas | ⟨happroved, hlead, hstatus⟩
      · exact approved_of_later hc hahead.requests hl hwas hid ((hlater l hl hp).closed hwas)
      · -- the request that was approved is the one of the lead
        refine .inr ⟨settleRequest item current, mem_settled hcur hpend, ?_, hstatus.symm,
          happroved, hitem.decidedBy⟩
        rw [hid, hlead]
        rfl
    · rw [if_neg hp] at hclosed ⊢
      exact approved_of_later hc hahead.requests hl hclosed rfl rfl

/-! ### A receipt of a decision is of a request that is decided -/

/-- A request that has the receipt of a decision is beyond its version. -/
def Receipted (c : Dossier) : Prop :=
  ∀ receipt ∈ c.receipts.rows, ∀ (id : String) (version : ℕ),
    receipt.idempotencyKey = decisionKey id version →
      ∃ r ∈ c.requests.rows, r.id = id ∧ version < r.version

theorem beyond_kept (h : t.Grows Settled t') {id : String} {version : ℕ}
    (hr : ∃ r ∈ t.rows, r.id = id ∧ version < r.version) :
    ∃ r ∈ t'.rows, r.id = id ∧ version < r.version := by
  obtain ⟨r, hr, hid, hver⟩ := hr
  obtain ⟨r', hr', rfl | hsettled⟩ := h r hr
  · exact ⟨r', hr', hid, hver⟩
  · exact ⟨r', hr', hsettled.id_eq.trans hid, hver.trans hsettled.version⟩

theorem Change.receipted (h : Change c c') (hc : Receipted c) : Receipted c' := by
  have hahead := h.ahead
  cases h with
  | write | enter => exact hc
  | receive hcreate hkey =>
    intro receipt hrec id version hver
    rcases (mem_create hcreate).mp hrec with hrec | rfl
    · exact hc receipt hrec id version hver
    · exact absurd (hver ▸ isDecision_decisionKey id version) hkey
  | ask _ _ =>
    intro receipt hrec id version hver
    exact beyond_kept hahead.requests (hc receipt hrec id version hver)
  | cancel _ _ _ =>
    intro receipt hrec id version hver
    exact beyond_kept hahead.requests (hc receipt hrec id version hver)
  | @decide current item _ _ p _ f hf hcur hpend hitem _ _ hcreate hkey =>
    intro receipt hrec id version hver
    rcases (mem_create hcreate).mp hrec with hrec | rfl
    · exact beyond_kept hahead.requests (hc receipt hrec id version hver)
    · -- the request that was decided has counted a version
      obtain ⟨rfl, rfl⟩ := decisionKey_inj (hkey.symm.trans hver)
      exact ⟨settleRequest item current, mem_settled hcur hpend, rfl, Nat.lt_succ_self _⟩

end CrmYnov.Closing
