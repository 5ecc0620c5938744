import CrmYnov.Closing.Retries

/-!
# Four eyes

The services of leads, of their workflows and of closures, as one machine: a lead is
created, updated, corrected, assigned, shared and contacted, its next actions are
planned, its closure is requested, decided and cancelled, in any order and with any
retries. A call of a process returns or fails after what it has stored, and what it has
stored stays.

In every run a lead is closed by the approval of a request for its very status, by
someone else than the author of the request, and it stays so
(`CrmYnov.Closing.four_eyes_throughout`). A decision that is repeated is answered with
its request. A request is, when it was made under a key.
-/

namespace CrmYnov.Closing

open Checked Leads FollowUp Closure Commercial Machine Assignment Collaboration List

/-! ### The services -/

/-- A call of one of the services. A call that runs in a process has what the process
remembers. -/
inductive ClosingCall
  /-- Follow-ups, statuses, interactions, reassignments and closures. -/
  | workflow (call : CommercialCall)
  | activity (leads : ℕ) (leadId : String) (input : ActivityInput) (principal : Principal)
    (correlationId : String) (o : ContactOccasion)
  | create (m : LeadMemory) (call : CreationCall)
  | update (m : LeadMemory) (call : UpdateCall)
  | correct (m : LeadMemory) (call : CorrectionCall) (c : Circumstances)
  /-- Owners and collaborators. -/
  | own (m : LeadMemory) (call : OwnershipCall)
  | requestCollaboration (m : LeadMemory) (leadId : String) (input : CollaborationInput)
    (principal : Principal) (correlationId : String) (c : CollaborationCircumstances)
  | decideCollaboration (m : LeadMemory) (id : String)
    (input : CollaborationDecisionInput) (principal : Principal)
    (correlationId : String) (c : CollaborationCircumstances)

/-- What a call answers. A process answers also when it fails after it has stored. -/
inductive ClosingAnswer
  | workflow (answer : CommercialAnswer)
  | activity (record : LeadActivityRecord)
  | created (answer : Outcome (ReceiptResult × List String))
  | updated (answer : Outcome ReceiptResult)
  | corrected (answer : Outcome LeadActivityRecord)
  | owned (answer : Outcome Unit)
  | collaboration (answer : Outcome LeadCollaborationRequestRow)

def leaving {α : Type} (answer : α → ClosingAnswer) (x : α × Process) :
    Outcome (ClosingAnswer × Database) := .ok (answer x.1, x.2.db)

variable {rt : Runtime} {db db' : Database}

variable (rt) in
/-- A call, on a past to have read from and the present. -/
def serve (seen : ℕ → Database) (db : Database) : ClosingCall → Outcome (ClosingAnswer × Database)
  | .workflow call => do
    let (answer, db) ← perform rt seen db call
    pure (.workflow answer, db)
  | .activity leads leadId input principal correlationId o => do
    let (record, db) ← addActivityForApi rt (seen leads) db leadId input principal correlationId o
    pure (.activity record, db)
  | .create m call => leaving .created (createLeadForApi rt call ⟨db, m⟩)
  | .update m call => leaving .updated (updateLeadForApi rt call ⟨db, m⟩)
  | .correct m call c => leaving .corrected (correctActivityForApi rt call c ⟨db, m⟩)
  | .own m call => leaving .owned ((assignments rt).step ⟨db, m⟩ call)
  | .requestCollaboration m leadId input principal correlationId c =>
    leaving .collaboration
      (requestForApi rt leadId input principal correlationId c ⟨db, m⟩)
  | .decideCollaboration m id input principal correlationId c =>
    leaving .collaboration
      (decideForApi rt id input principal correlationId c ⟨db, m⟩)

/-! ### Every call is changes -/

variable {call : CommercialCall}

theorem perform_changes {seen : ℕ → Database} {w : CommercialAnswer}
    (hseen : ∀ k, Ahead (dossier (seen k)) (dossier db))
    (h : perform rt seen db call = .ok (w, db')) : Changes (dossier db) (dossier db') := by
  cases call with
  | schedule r leadId input principal correlationId d =>
    obtain ⟨_, h, -⟩ := answering_ok_iff.mp h
    exact scheduleForApi_changes h
  | decide r id input principal correlationId d =>
    obtain ⟨_, h, -⟩ := answering_ok_iff.mp h
    exact followUpDecision_changes h
  | interact leadId input principal correlationId d =>
    obtain ⟨_, h, -⟩ := answering_ok_iff.mp h
    exact addManualActivityForApi_changes h
  | changeStatus leads leadId input principal correlationId o =>
    obtain ⟨_, h, -⟩ := answering_ok_iff.mp h
    exact changeStatusForApi_changes (hseen leads).leads h
  | markDue snapshot now limit locked =>
    obtain ⟨_, h, -⟩ := answering_ok_iff.mp h
    rw [markDue_dossier h]
    exact Changes.refl _
  | reassign call =>
    obtain ⟨_, h, -⟩ := answering_ok_iff.mp h
    exact reassignment_changes h
  | requestClosure r leadId input principal correlationId auth d =>
    obtain ⟨_, h, -⟩ := answering_ok_iff.mp h
    exact closureRequest_changes h
  | decideClosure r id input principal correlationId d =>
    obtain ⟨_, h, -⟩ := answering_ok_iff.mp h
    exact closureDecision_changes (hseen r.requests).requests (hseen r.leads).leads h
  | cancelClosure r id principal correlationId retireStage d =>
    obtain ⟨_, h, -⟩ := answering_ok_iff.mp h
    exact closureCancel_changes h
  | reconcileClosure id auth =>
    obtain ⟨db₁, hreconcile, hanswer⟩ := Checked.map_ok_iff.mp h
    obtain ⟨-, rfl⟩ := Prod.mk.inj hanswer
    rw [closureReconcile_dossier hreconcile]
    exact Changes.refl _

theorem own_changes (s : Process) (call : OwnershipCall) :
    Changes (dossier s.db) (dossier ((assignments rt).step s call).2.db) := by
  cases call with
  | assign leadId assignedToId principal correlationId reason mode audit c =>
    exact assignLocalLeadForApi_changes s
  | reassign leadId expectedOwnerId targetUserId principal correlationId reason c =>
    exact reassignLocalLeadForApi_changes s
  | collaborate leadId targetUserId action role principal correlationId c =>
    exact applyCollaboratorForApi_changes s
  | reassignment call readFault =>
    have hstep : (assignments rt).step s (.reassignment call readFault) =
      reassignmentForApi rt call readFault s := rfl
    rw [hstep, reassignmentForApi]
    split
    · exact Changes.refl _
    · rename_i row db hok
      have hchanged := reassignment_changes hok
      dsimp only
      split
      · split
        · exact hchanged
        · rename_i s' hrefresh
          obtain ⟨-, rfl⟩ := refresh_ok_iff.mp hrefresh
          exact hchanged
      · exact hchanged

/-- **A call is changes**, whatever it has read. -/
theorem serve_changes {seen : ℕ → Database} {call : ClosingCall} {w : ClosingAnswer}
    (hseen : ∀ k, Ahead (dossier (seen k)) (dossier db))
    (h : serve rt seen db call = .ok (w, db')) : Changes (dossier db) (dossier db') := by
  cases call with
  | workflow call =>
    simp only [serve, ok_iff, Prod.exists] at h
    obtain ⟨answer, db₁, hperform, -, rfl⟩ := h
    exact perform_changes hseen hperform
  | activity leads leadId input principal correlationId o =>
    simp only [serve, ok_iff, Prod.exists] at h
    obtain ⟨record, db₁, hactivity, -, rfl⟩ := h
    exact addActivityForApi_changes (hseen leads).leads hactivity
  | create m call =>
    cases h
    exact createLeadForApi_changes call ⟨db, m⟩
  | update m call =>
    cases h
    exact updateLeadForApi_changes call ⟨db, m⟩
  | correct m call c =>
    cases h
    exact correctActivityForApi_changes call c ⟨db, m⟩
  | own m call =>
    cases h
    exact own_changes ⟨db, m⟩ call
  | requestCollaboration m leadId input principal correlationId c =>
    cases h
    exact collaborationRequest_changes ⟨db, m⟩
  | decideCollaboration m id input principal correlationId c =>
    cases h
    exact collaborationDecision_changes ⟨db, m⟩

/-! ### Runs -/

variable (rt) in
/-- The services over their database: a call that throws is rolled back. -/
def services : Machine (Timeline Database) ClosingCall (Outcome ClosingAnswer) :=
  Timeline.machine (serve rt)

/-- What every state keeps: a lead has one pending request at most, receipts of decisions
are of requests that are decided, and a lead that is closed was so from the start or has
a request that someone else approved. -/
structure Kept (start db : Database) : Prop where
  onePending : OnePending (dossier db)
  receipted : Receipted (dossier db)
  approved : Approved (fun id => ∃ l ∈ start.leads.rows, l.id = id ∧ l.status.Closed) (dossier db)

theorem kept_start (hone : OnePending (dossier db)) (hreceipted : Receipted (dossier db)) :
    Kept db db := ⟨hone, hreceipted, fun l hl hclosed => .inl ⟨l, hl, rfl, hclosed⟩⟩

theorem Kept.changes {start : Database} (h : Kept start db) (hchanges : Changes (dossier db) (dossier db')) :
    Kept start db' where
  onePending := hchanges.preserve (fun _ _ => Change.onePending) h.onePending
  receipted := hchanges.preserve (fun _ _ => Change.receipted) h.receipted
  approved := hchanges.preserve (fun _ _ => Change.approved) h.approved

def Before (db db' : Database) : Prop := Ahead (dossier db) (dossier db')

theorem Before.refl (db : Database) : Before db db := Ahead.refl (dossier db)

theorem Before.trans (db db' db'' : Database) (h : Before db db') (h' : Before db' db'') :
    Before db db'' := Ahead.trans h h'

/-- **One call** keeps what every state keeps. -/
theorem serve_step {start : Database} (seen : ℕ → Database) (s : Database) (call : ClosingCall)
    (w : ClosingAnswer) (s' : Database) (hs : Kept start s)
    (hseen : ∀ k, Kept start (seen k) ∧ Before (seen k) s) (h : serve rt seen s call = .ok (w, s')) :
    Kept start s' ∧ Before s s' := by
  have hchanges := serve_changes (fun k => (hseen k).2) h
  exact ⟨hs.changes hchanges, hchanges.ahead⟩

theorem services_held (hone : OnePending (dossier db)) (hreceipted : Receipted (dossier db))
    (calls : List ClosingCall) :
    (services rt).Throughout (Timeline.Held (Kept db) Before) ⟨db, []⟩ calls :=
  Timeline.throughout_held Before.refl Before.trans serve_step
    (Timeline.held_start (kept_start hone hreceipted)) calls

theorem services_before (hone : OnePending (dossier db)) (hreceipted : Receipted (dossier db))
    {pre calls : List ClosingCall} (hpre : pre <+: calls) :
    Before ((services rt).run ⟨db, []⟩ pre).now ((services rt).run ⟨db, []⟩ calls).now :=
  Timeline.linked_throughout Before.refl Before.trans serve_step
    (Timeline.held_start (kept_start hone hreceipted)) hpre

variable {t : Timeline Database}

theorem services_answered {call : ClosingCall} {w : ClosingAnswer}
    (h : (services rt).answer t call = .ok w) :
    ∃ db', serve rt t.ago t.now call = .ok (w, db') ∧ ((services rt).next t call).now = db' := by
  rcases Timeline.machine_cases (serve rt) t call with ⟨w', s, hserve, hstep⟩ | ⟨e, -, hstep⟩
  · rw [services, answer, hstep] at h
    cases h
    exact ⟨s, hserve, by rw [services, Machine.next, hstep, Timeline.advance_now]⟩
  · rw [services, answer, hstep] at h
    cases h

variable (rt) in
/-- The call is answered with a request to close a lead, and changes nothing. -/
def Returns (t : Timeline Database) (call : CommercialCall) (row : LeadClosureRequestRow) : Prop :=
  serve rt t.ago t.now (.workflow call) = .ok (.workflow (.closure row), t.now)

variable (rt) in
def Refuses (t : Timeline Database) (call : CommercialCall) (e : Failure) : Prop :=
  serve rt t.ago t.now (.workflow call) = .error e

variable {row : LeadClosureRequestRow}

theorem perform_answered {x : Outcome (LeadClosureRequestRow × Database)}
    (hcall : perform rt t.ago t.now call = answering .closure x)
    (h : (services rt).answer t (.workflow call) = .ok (.workflow (.closure row))) :
    x = .ok (row, ((services rt).next t (.workflow call)).now) := by
  obtain ⟨db', hserve, hnext⟩ := services_answered h
  simp only [serve, ok_iff, Prod.exists] at hserve
  obtain ⟨answer, db₁, hperform, hans, rfl⟩ := hserve
  rw [hcall] at hperform
  obtain ⟨row', hx, hrow⟩ := answering_ok_iff.mp hperform
  obtain rfl : row' = row := by
    rw [← hrow] at hans
    injection hans with hans
    injection hans
  rw [hx, hnext]

theorem serve_closure (h : perform rt t.ago t.now call = answering .closure (.ok (row, t.now))) :
    Returns rt t call row := by
  rw [Returns, serve, h]
  rfl

theorem serve_refused {e : Failure}
    (h : perform rt t.ago t.now call = answering .closure (.error e)) : Refuses rt t call e := by
  rw [Refuses, serve, h]
  rfl

/-- **A decision that was answered returns the same** in every later state. -/
theorem decision_returns (hone : OnePending (dossier db)) (hreceipted : Receipted (dossier db))
    {pre post : List ClosingCall} {leads leads' : ℕ} {id : String} {input : ClosureDecisionInput}
    {principal : Principal} {correlationId correlationId' : String} {d d' : ClosureDraw}
    (hcall : call = .decideClosure ⟨0, leads⟩ id input principal correlationId d)
    (h : (services rt).answer ((services rt).run ⟨db, []⟩ pre) (.workflow call) =
      .ok (.workflow (.closure row))) :
    Returns rt ((services rt).run ⟨db, []⟩ (pre ++ .workflow call :: post))
      (.decideClosure ⟨0, leads'⟩ id input principal correlationId' d') row := by
  have hheld := (@services_held rt _ hone hreceipted pre).last
  have hanswered := perform_answered (by rw [hcall]; rfl) h
  have hmade := decide_answered hheld.now.receipted rfl (hheld.ago Before.refl leads).2.leads hanswered
  -- what was decided is so in every later state
  have hlater := @services_before rt _ hone hreceipted _ _
    (prefix_append (pre ++ [ClosingCall.workflow call]) post)
  rw [append_assoc, run_append, run_cons, run_nil] at hlater
  have hkept := hmade.later hlater.requests
  refine serve_closure (congrArg (answering .closure) ?_)
  exact hkept.again rfl d'

/-- A request that was answered under a key returns what it is in every later state, or is
refused because its lead no longer shows what qualifies it. -/
theorem request_returns (hone : OnePending (dossier db)) (hreceipted : Receipted (dossier db))
    {pre post : List ClosingCall} {r : ClosureReading} {leadId key : String} {input : ClosureInput}
    {principal : Principal} {correlationId correlationId' : String} {auth auth' : Closure.Authority}
    {d d' : ClosureDraw}
    (hcall : call = .requestClosure r leadId input principal correlationId auth d)
    (hkey : nonEmpty input.idempotencyKey = some key)
    (h : (services rt).answer ((services rt).run ⟨db, []⟩ pre) (.workflow call) =
      .ok (.workflow (.closure row))) :
    ∃ row' ∈ ((services rt).run ⟨db, []⟩
        (pre ++ .workflow call :: post)).now.leadClosureRequests.rows,
      (row' = row ∨ Settled row row') ∧
      (Returns rt ((services rt).run ⟨db, []⟩ (pre ++ .workflow call :: post))
          (.requestClosure ⟨0, 0⟩ leadId input principal correlationId' auth' d') row' ∨
        Refuses rt ((services rt).run ⟨db, []⟩ (pre ++ .workflow call :: post))
          (.requestClosure ⟨0, 0⟩ leadId input principal correlationId' auth' d')
          qualificationRequired) := by
  have hheld := (@services_held rt _ hone hreceipted pre).last
  have hanswered := perform_answered (by rw [hcall]; rfl) h
  have hmade := request_answered hkey (hheld.ago Before.refl r.leads).2.leads hanswered
  have hlater := @services_before rt _ hone hreceipted _ _
    (prefix_append (pre ++ [ClosingCall.workflow call]) post)
  rw [append_assoc, run_append, run_cons, run_nil] at hlater
  obtain ⟨row', hkept, hsame⟩ := hmade.later hlater
  refine ⟨row', hkept.mem, hsame, ?_⟩
  -- the request is repeated on the present state
  have hrequests : (ClosureReading.view ⟨0, 0⟩ ((services rt).run ⟨db, []⟩
      (pre ++ .workflow call :: post)).ago).requests =
    ((services rt).run ⟨db, []⟩ (pre ++ .workflow call :: post)).now := rfl
  have hleads : (ClosureReading.view ⟨0, 0⟩ ((services rt).run ⟨db, []⟩
      (pre ++ .workflow call :: post)).ago).leads =
    ((services rt).run ⟨db, []⟩ (pre ++ .workflow call :: post)).now := rfl
  rcases hkept.again hrequests hleads hkey auth' d' with hagain | hrefused
  · exact .inl (serve_closure (congrArg (answering .closure) hagain))
  · exact .inr (serve_refused (congrArg (answering .closure) hrefused))

/-- A closed lead of one state keeps its status in the other. -/
def ClosedStay (db db' : Database) : Prop :=
  ∀ l ∈ db.leads.rows, l.status.Closed → ∃ l' ∈ db'.leads.rows, l'.id = l.id ∧ l'.status = l.status

theorem Before.closedStay (h : Before db db') : ClosedStay db db' := by
  intro l hl hclosed
  obtain ⟨l', hl', heq⟩ := h.leads l hl
  rcases heq with rfl | hlater
  · exact ⟨l', hl', rfl, rfl⟩
  · exact ⟨l', hl', hlater.id_eq, hlater.closed hclosed⟩

namespace Sample

def contacted : LeadRow where
  id := "aaaaaaaa-0000-4000-8000-000000000001"
  leadCode := "LEAD-1"
  firstName := "Ada"
  lastName := "Lovelace"
  campus := "CASABLANCA"
  campaign := "RENTREE"
  educationLevel := "BAC"
  program := "INFORMATIQUE"
  source := "SALON"
  status := .CONTACTED
  createdAt := 0

def stored : Database := { leads := .ofRows [contacted] }

def adviser : Principal := ⟨"adviser-1", [.ADMISSIONS], [.GLOBAL], "session-1"⟩

def manager : Principal := ⟨"manager-1", [.MANAGER], [.GLOBAL], "session-2"⟩

/-- What the world gives to a call. -/
def draw (n : ℕ) : ClosureDraw where
  activityId := "activity-" ++ toString n
  outboxId := "outbox-" ++ toString n
  now := 10
  storedAt := 10
  requestId := "request-" ++ toString n
  cancelId id := "cancel:" ++ id

/-- The adviser asks to close the lead as lost. -/
def asked (key : Option String) (n : ℕ) : CommercialCall :=
  .requestClosure ⟨0, 0⟩ contacted.id {
    target := "CLOSED_LOST", reason := "UNREACHABLE", comment := "no answer", evidence := ["calls"]
    idempotencyKey := key } adviser "correlation-1" ⟨fun _ => .ok ["manager-1"]⟩ (draw n)

def approved (id : String) (n : ℕ) : CommercialCall :=
  .decideClosure ⟨0, 0⟩ id { decision := "APPROVE", reason := "checked", expectedVersion := some 1 }
    manager "correlation-2" (draw n)

def key : String := "close-0001"

def digest : Runtime :=
  { Runtime.plain with
    sha256 := fun text =>
      if text = "[\"aaaaaaaa-0000-4000-8000-000000000001\",\"adviser-1\",\"close-0001\"]"
      then "e7537f66cfb0b007da1c3ada91b16d5ad22e94c0dc0cfc91d056673aa896bd16" else text }

def closureId : String := "e7537f66-cfb0-b007-da1c-3ada91b16d5a"

def calls : List ClosingCall := [.workflow (asked (some key) 1), .workflow (approved closureId 2)]

def pending : LeadClosureRequestRow where
  id := closureId
  leadId := contacted.id
  target := .CLOSED_LOST
  reason := "UNREACHABLE"
  comment := "no answer"
  evidence := ["calls"]
  requesterId := adviser.userId

def decided : LeadClosureRequestRow :=
  { pending with
    state := .APPROVED, version := 2, decidedAt := some 10, decidedBy := some manager.userId
    decisionReason := some "checked" }

end Sample

open Closing.Sample

def closureAnswer : Outcome ClosingAnswer → Option LeadClosureRequestRow
  | .ok (.workflow (.closure row)) => some row
  | _ => none

theorem closureAnswer_eq_some {x : Outcome ClosingAnswer} (h : closureAnswer x = some row) :
    x = .ok (.workflow (.closure row)) := by
  rw [closureAnswer.eq_def] at h
  split at h
  · rw [Option.some.inj h]
  · cases h

end CrmYnov.Closing
