import CrmYnov.Bootstrap.Rows

/-!
# The operator of a block of decisions

An operator decides up to twenty-five rows of a package from a plan. It asks the server for the
package and reads all rows of it, a page at a time; a decision is written in a journal before it is
sent, and what the server has answered after it. When a response is lost, or a file cannot be
written, the operator stops, and the same plan is resumed from the last state of the journal
(`CrmYnov.Bootstrap.decideOperatorBlock`).

The server gives at most fifty rows in a page and refuses a request for more. The operator asks for
a hundred: it never sees a row of a package (`CrmYnov.Bootstrap.operator_reads_iff`).
-/

namespace CrmYnov.Bootstrap

open Checked

/-! ### Plans -/

structure OperatorDecision where
  action : DecisionAction
  reason : String
  overrides : Option (Dict String String) := none
  cycle : Option HistoricalCycle := none
  annotations : Option (List HistoricalAnnotationDecision) := none
  confirmed : Option Bool := none

structure OperatorRow where
  (id fingerprint : String)
  version : ℕ
  decision : OperatorDecision

structure OperatorPlan where
  schemaVersion : ℕ := 1
  (packageId campusId excelSha256 : String)
  packageVersion : ℕ
  rows : List OperatorRow

/-- `{ ...item.decision, expectedVersion: item.version, idempotencyKey }` -/
def OperatorRow.body (item : OperatorRow) (idempotencyKey : String) : HistoricalDecisionInput :=
  { item.decision with expectedVersion := item.version, idempotencyKey }

def OperatorRow.json (item : OperatorRow) : Js.Json :=
  .obj [("id", .str item.id), ("fingerprint", .str item.fingerprint), ("version", .nat item.version),
    ("decision", .present (item.body "").members.tail)]

def OperatorPlan.json (plan : OperatorPlan) : Js.Json :=
  .obj [("schemaVersion", .nat plan.schemaVersion), ("packageId", .str plan.packageId),
    ("campusId", .str plan.campusId), ("excelSha256", .str plan.excelSha256),
    ("packageVersion", .nat plan.packageVersion), ("rows", .arr (plan.rows.map OperatorRow.json))]

def validateOperatorRow (row : OperatorRow) : Except String Unit := do
  let decision := row.decision
  require (isUuidText row.id ∧ isSha row.fingerprint ∧ 1 ≤ row.version ∧
      (decision.action = .CREATE_DOSSIER ∨ decision.action = .DEFER) ∧
      8 ≤ Js.length (Js.trim decision.reason) ∧ Js.length decision.reason ≤ 1000)
    "operator_decision_invalid"
  require (decision.action = .DEFER → decision.confirmed = some true ∧ decision.overrides.isNone ∧
      decision.cycle = none ∧ decision.annotations = none)
    "operator_deferral_invalid"
  require (decision.action = .CREATE_DOSSIER → decision.confirmed = none) "operator_create_invalid"

def validateOperatorPlan (rt : ImportRuntime) (plan : OperatorPlan) : Except String String := do
  require (plan.schemaVersion = 1 ∧ isUuidText plan.packageId ∧ isSha plan.excelSha256 ∧
      isUuidText plan.campusId ∧ 1 ≤ plan.packageVersion ∧ 1 ≤ plan.rows.length ∧
      plan.rows.length ≤ 25 ∧ (plan.rows.map OperatorRow.id).Nodup)
    "operator_plan_invalid"
  plan.rows.forM validateOperatorRow
  pure (hash rt plan.json)

/-! ### What the server answers -/

section Server

variable (rt : ImportRuntime) (auth : Authority)

structure PackageView where
  (id sha256 campusId : String)
  version : ℕ
  state : PackageState
  total : ℕ

structure RowsPage where
  items : List BootstrapImportRow
  nextAfter : Option String

variable (s : ImportStore)

/-- `get`: the package, and how many rows it has. -/
def getPackage (id : String) : Outcome PackageView := do
  let p ← package rt s auth id ["import.view"]
  pure ⟨p.id.val, p.sha256.val, p.campusId, p.version, p.state,
    (s.rows.rows.filter fun r => r.packageId = p.id).length⟩

/-- The rows of a package from a cursor on, one more than a page has. -/
def rowsAfter (packageId : Uuid) (after : Option Uuid) (take : ℕ) : List BootstrapImportRow :=
  let ordered := (s.rows.rows.filter fun r => r.packageId = packageId).insertionSort
    fun r r' => r.id.val ≤ r'.id.val
  let kept := after.elim ordered fun id => (ordered.dropWhile fun r => r.id ≠ id).tail
  kept.take take

def rows (id : String) (after : Option String) (limit : ℕ) : Outcome RowsPage := do
  let after := after.filter (· ≠ "")
  require (1 ≤ limit ∧ limit ≤ 50 ∧ ∀ cursor ∈ after, isUuidText cursor)
    (refuse "bootstrap_page_invalid")
  let p ← package rt s auth id ["import.view"]
  let cursor := after.bind Uuid.read
  require (∀ key ∈ cursor, (s.row p.id key).isSome) (refuse "bootstrap_cursor_invalid")
  let found := rowsAfter s p.id cursor (limit + 1)
  let items := found.take limit
  pure ⟨items, if limit < found.length then items.getLast?.map fun r => r.id.val else none⟩

/-- `decide`, and the row it has changed. -/
def decideRow (id rowId : String) (body : HistoricalDecisionInput) :
    Outcome (ImportStore × BootstrapImportRow) := do
  let s' ← decide rt s auth id rowId body
  let row ← demand ((Uuid.read id).bind fun packageId => s'.rowNamed packageId rowId) packageNotFound
  pure (s', row)

end Server

/-! ### The operator -/

inductive OperatorRequest
  | package (id : String)
  | rows (id : String) (after : Option String) (limit : ℕ)
  | decision (id rowId : String) (body : HistoricalDecisionInput)

/-- What the operator knows of a row. -/
inductive Phase
  | PRESERVED_TERMINAL (state : RowState)
  | INTENT (body : HistoricalDecisionInput)
  | PERSISTED (body : HistoricalDecisionInput) (state : RowState) (version : ℕ)
  | REFUSED (body : HistoricalDecisionInput) (code : String)

/-- `previous?.body` -/
def Phase.body? : Phase → Option HistoricalDecisionInput
  | PRESERVED_TERMINAL _ => none
  | INTENT body | PERSISTED body _ _ | REFUSED body _ => some body

structure OperatorState where
  planHash : String
  decisions : Dict String Phase := .empty
  complete : Bool := false

/-- A request or a file gets lost on its way, or what comes back of it does. -/
inductive Loss
  | sent | answered

inductive Stop
  | error (code : String)
  | refused (failure : Failure)
  | lost

/-- A request that was made, and whether the server accepts it. -/
structure Exchange where
  request : OperatorRequest
  accepted : Bool

/-- The server, the files of the journal, what the next requests and files meet with, and the
requests that were made. -/
structure World where
  server : ImportStore
  journal : List OperatorState := []
  losses : List (Option Loss) := []
  log : List Exchange := []

/-- A part of an attempt: what it has done stays when it stops. -/
abbrev Attempt := ExceptT Stop (StateM World)

def raise {α : Type} (code : String) : Attempt α := throw (.error code)

/-- `if (!condition) throw Error(code)` -/
def expect (condition : Prop) [Decidable condition] (code : String) : Attempt Unit :=
  if condition then pure () else raise code

/-- `request(path, init)` -/
def send {α : Type} (request : OperatorRequest) (serve : ImportStore → Outcome (ImportStore × α)) :
    Attempt α :=
  ExceptT.mk fun w =>
    let answer := serve w.server
    let w' := { w with losses := w.losses.tail, log := w.log ++ [⟨request, answer.isOk⟩] }
    match w.losses.head?.join, answer with
    | some .sent, _ => (.error .lost, w')
    | some .answered, .ok (s, _) => (.error .lost, { w' with server := s })
    | some .answered, .error _ => (.error .lost, w')
    | none, .ok (s, a) => (.ok a, { w' with server := s })
    | none, .error e => (.error (.refused e), w')

def ask {α : Type} (request : OperatorRequest) (read : ImportStore → Outcome α) : Attempt α :=
  send request fun s => (read s).map fun a => (s, a)

/-- `persist(state)`: a file is written whole, or not at all. -/
def persist (state : OperatorState) : Attempt Unit :=
  ExceptT.mk fun w =>
    let w' := { w with losses := w.losses.tail }
    match w.losses.head?.join with
    | some .sent => (.error .lost, w')
    | some .answered => (.error .lost, { w' with journal := w.journal ++ [state] })
    | none => (.ok (), { w' with journal := w.journal ++ [state] })

section Operator

variable (rt : ImportRuntime) (auth : Authority) (plan : OperatorPlan)

/-- `after && …`: the pages after a cursor. A page that is followed by another has a row, so that
there are no more than one page for every row that is allowed, and a last one. -/
def readPages (packageId : String) :
    ℕ → List BootstrapImportRow → Option String → Attempt (List BootstrapImportRow)
  | 0, _, _ => raise "operator_inventory_invalid"
  | pages + 1, found, after => do
    let page ← ask (.rows packageId after 100) fun s => rows rt auth s packageId after 100
    expect (page.items.length ≤ 100 ∧ found.length + page.items.length ≤ 10000)
      "operator_inventory_invalid"
    let found' := found ++ page.items
    expect ((found'.map fun r => r.id).Nodup) "operator_inventory_collision"
    match page.nextAfter with
    | none => pure found'
    | some cursor => do
      expect (isUuidText cursor ∧ (page.items.getLast?.map fun r => r.id.val) = some cursor ∧
        after ≠ some cursor) "operator_cursor_invalid"
      readPages packageId pages found' cursor

def readOperatorRows (packageId : String) : Attempt (List BootstrapImportRow) :=
  readPages rt auth packageId (10000 + 1) [] none

def bodyJson (body : HistoricalDecisionInput) : Js.Json :=
  .present (body.members ++ [("expectedVersion", some (.int body.expectedVersion))])

/-- The key under which the decision of a plan about a row is sent. -/
def operatorKey (planHash rowId : String) : String :=
  "op-" ++ hash rt (.arr [.str planHash, .str rowId])

def OperatorState.note (state : OperatorState) (rowId : String) (phase : Phase) : OperatorState :=
  { state with decisions := state.decisions.set rowId phase }

/-- The code of a refusal the operator records: a code that has another form is not kept. -/
def refusalCode (code : String) : String :=
  if Js.fullMatch (fun c => Js.isAlnum c || c == '_' || c == ':' || c == '-') 1 120 code then code
  else "operator_api_refused"

/-- The decision is sent, and what comes of it is written. Only what the server finds invalid is
recorded as a refusal. -/
def sendDecision (state : OperatorState) (item : OperatorRow) (body : HistoricalDecisionInput) :
    Attempt OperatorState := do
  let attempt : Attempt OperatorState := do
    expect ((Js.Json.stringify (bodyJson body)).utf8ByteSize ≤ 65536) "operator_endpoint_refused"
    let result ← send (.decision plan.packageId item.id body) fun s =>
      decideRow rt auth s plan.packageId item.id body
    let expected := if item.decision.action = .DEFER then RowState.DEFERRED else .READY
    expect (result.id.val = item.id ∧ result.fingerprint = item.fingerprint ∧
      result.state = expected ∧ result.version = item.version + 1) "operator_decision_readback_invalid"
    let state := state.note item.id (.PERSISTED body result.state result.version)
    persist state
    pure state
  let recorded (code : String) : Attempt OperatorState := do
    let state := state.note item.id (.REFUSED body (refusalCode code))
    persist state
    pure state
  tryCatch attempt fun
    | .refused (.http .badRequest code _) => recorded code
    | .refused (.http .unprocessableEntity code _) => recorded code
    | stop => throw stop

/-- One turn of the loop over the rows of a plan. -/
def decidePlanRow (planHash : String) (found : List BootstrapImportRow) (state : OperatorState)
    (item : OperatorRow) : Attempt OperatorState := do
  match found.find? fun r => r.id.val = item.id ∧ r.fingerprint = item.fingerprint with
  | none => raise "operator_source_changed"
  | some row =>
    if row.state.Settled then do
      let state := state.note item.id (.PRESERVED_TERMINAL row.state)
      persist state
      pure state
    else
      let body := item.body (operatorKey rt planHash item.id)
      match state.decisions.get item.id with
      | some (.REFUSED _ _) => pure state
      | previous => do
        expect (∀ sent ∈ previous.bind Phase.body?, hash rt (bodyJson sent) = hash rt (bodyJson body))
          "operator_intent_changed"
        expect (previous.isNone → row.state = .REVIEW ∧ row.version = item.version ∧
          row.decision.isNone) "operator_row_changed"
        let state := state.note item.id (.INTENT body)
        persist state
        sendDecision rt auth plan state item body

/-- The package is the one of the plan, in the state the plan was made for. -/
def OperatorPlan.Describes (current : PackageView) : Prop :=
  current.id = plan.packageId ∧ current.sha256 = plan.excelSha256 ∧
    current.campusId = plan.campusId ∧ current.version = plan.packageVersion ∧
    (current.state = .MAPPED ∨ current.state = .PARTIAL)
deriving Decidable

/-- The state an attempt begins with: the last one of the journal. -/
def resumeState (planHash : String) : Attempt OperatorState := do
  let w ← get
  let state := w.journal.getLast?.getD { planHash }
  expect (state.planHash = planHash) "operator_journal_mismatch"
  pure state

/-- The rows of the plan, once all rows of the package are read. -/
def decidePlanRows (planHash : String) (state : OperatorState) (current : PackageView)
    (found : List BootstrapImportRow) : Attempt OperatorState := do
  expect (found.length = current.total) "operator_inventory_incomplete"
  let state ← plan.rows.foldlM (decidePlanRow rt auth plan planHash found) state
  let state := { state with complete := true }
  persist state
  pure state

def decideOperatorBlock : Attempt OperatorState := do
  match validateOperatorPlan rt plan with
  | .error code => raise code
  | .ok planHash => do
    let state ← resumeState planHash
    let current ← ask (.package plan.packageId) fun s => getPackage rt auth s plan.packageId
    expect (plan.Describes current) "operator_package_changed"
    let found ← readOperatorRows rt auth plan.packageId
    decidePlanRows rt auth plan planHash state current found

/-! ### Runs -/

/-- The attempts of an operator with a plan, one after the other, and what each of them meets
with. -/
def attempts (w : World) : List (List (Option Loss)) → World
  | [] => w
  | losses :: rest => attempts (decideOperatorBlock rt auth plan { w with losses }).2 rest

def Agrees (s : ImportStore) (item : OperatorRow) : Phase → Prop
  | .PRESERVED_TERMINAL state => ∃ row ∈ s.rows.rows, row.id.val = item.id ∧ row.state = state
  | .INTENT _ => False
  | .PERSISTED body state version => ∃ row ∈ s.rows.rows, row.id.val = item.id ∧
      row.state = state ∧ row.version = version ∧ row.decisionKey = some body.idempotencyKey
  | .REFUSED body _ => ∀ row ∈ s.rows.rows, row.decisionKey ≠ some body.idempotencyKey

structure Faithful (w : World) : Prop where
  /-- The server accepts the requests for a page. -/
  pages : ∀ id after limit accepted, ⟨.rows id after limit, accepted⟩ ∈ w.log → accepted = true
  /-- A row is sent one decision. -/
  single : ∀ id id' rowId body body' b b', ⟨.decision id rowId body, b⟩ ∈ w.log →
    ⟨.decision id' rowId body', b'⟩ ∈ w.log → body = body'
  /-- The plan can be resumed, unless the server refuses a request or no longer has its package. -/
  resumes : (∃ state, (decideOperatorBlock rt auth plan { w with losses := [] }).1 = .ok state) ∨
    (decideOperatorBlock rt auth plan { w with losses := [] }).1 =
      .error (.error "operator_package_changed") ∨
    ∃ failure, (decideOperatorBlock rt auth plan { w with losses := [] }).1 =
      .error (.refused failure)
  /-- A block that is complete agrees with the server. -/
  complete : ∀ state ∈ w.journal.getLast?, state.complete = true → ∀ item ∈ plan.rows,
    ∃ phase ∈ state.decisions.get item.id, Agrees w.server item phase

/-- The server answers with the package of the plan. -/
def Awaited (s : ImportStore) : Prop :=
  ∃ current, getPackage rt auth s plan.packageId = .ok current ∧ plan.Describes current

variable {rt auth plan}

@[simp] theorem bind_apply {α β : Type} (x : Attempt α) (f : α → Attempt β) (w : World) :
    (x >>= f) w = match x w with
      | (.ok a, w') => f a w'
      | (.error e, w') => (.error e, w') := by
  change (ExceptT.bindCont f (x w).1) (x w).2 = _
  rcases x w with ⟨_ | _, _⟩ <;> rfl

theorem expect_apply {condition : Prop} [Decidable condition] {code : String} (w : World) :
    expect condition code w = (if condition then .ok () else .error (.error code), w) := by
  rw [expect]
  split <;> rfl

/-- **A page of a hundred rows is refused**, whatever the package and the cursor are. -/
theorem rows_refused {s : ImportStore} {id : String} {after : Option String} :
    rows rt auth s id after 100 = .error (refuse "bootstrap_page_invalid") := by
  rw [rows, require_neg fun h => absurd h.2.1 (by decide)]
  rfl

theorem readOperatorRows_refused {id : String} {w : World} (hlosses : w.losses = []) :
    readOperatorRows rt auth id w = (.error (.refused (refuse "bootstrap_page_invalid")), { w with
      log := w.log ++ [⟨.rows id none 100, false⟩] }) := by
  rw [readOperatorRows, readPages, bind_apply]
  simp [ask, send, ExceptT.mk, hlosses, rows_refused, Except.map, Except.isOk, Except.toBool]

/-- An operator without a journal asks for the package first. -/
theorem block_begins {planHash : String} {w : World}
    (hplan : validateOperatorPlan rt plan = .ok planHash) (hjournal : w.journal = []) :
    decideOperatorBlock rt auth plan w =
      (ask (.package plan.packageId) (fun s => getPackage rt auth s plan.packageId) >>= fun current =>
        expect (plan.Describes current) "operator_package_changed" >>= fun _ =>
          readOperatorRows rt auth plan.packageId >>=
            decidePlanRows rt auth plan planHash { planHash } current) w := by
  have hresume : resumeState planHash w = (.ok { planHash }, w) := by
    rw [resumeState, bind_apply]
    change (expect _ _ >>= _) w = _
    rw [bind_apply, expect_apply]
    simp only [hjournal, List.getLast?_nil, Option.getD_none, if_true]
    rfl
  rw [decideOperatorBlock, hplan]
  change (resumeState planHash >>= _) w = _
  rw [bind_apply, hresume]

/-- **The operator stops before the first page** when the server does not answer with the package of
the plan: only the request for the package is made, and nothing is written. -/
theorem block_stops {planHash : String} {w : World}
    (hplan : validateOperatorPlan rt plan = .ok planHash) (hjournal : w.journal = [])
    (hs : ¬Awaited rt auth plan w.server) :
    ∃ stop accepted, decideOperatorBlock rt auth plan w = (.error stop, { w with
        losses := w.losses.tail
        log := w.log ++ [⟨.package plan.packageId, accepted⟩] }) ∧
      (w.losses = [] → stop = .error "operator_package_changed" ∨ ∃ failure, stop = .refused failure) := by
  rw [block_begins hplan hjournal, bind_apply]
  rcases hans : getPackage rt auth w.server plan.packageId with failure | current
  · refine ⟨match w.losses.head?.join with | none => .refused failure | some _ => .lost, false, ?_, ?_⟩
    · rcases hloss : w.losses.head?.join with _ | _ | _ <;>
        simp [ask, send, ExceptT.mk, hans, hloss, Except.map, Except.isOk, Except.toBool]
    · intro hlosses
      exact .inr ⟨failure, by rw [hlosses]; rfl⟩
  · have hchanged : ¬plan.Describes current := fun h => hs ⟨current, hans, h⟩
    refine ⟨match w.losses.head?.join with
      | none => .error "operator_package_changed"
      | some _ => .lost, true, ?_, ?_⟩
    · rcases hloss : w.losses.head?.join with _ | _ | _ <;>
        simp [ask, send, ExceptT.mk, hans, hloss, Except.map, Except.isOk, Except.toBool,
          expect_apply, hchanged]
    · intro hlosses
      exact .inl (by rw [hlosses]; rfl)

/-- **The first page is refused** when nothing is lost and the server answers with the package. -/
theorem block_refused {planHash : String} {w : World}
    (hplan : validateOperatorPlan rt plan = .ok planHash) (hjournal : w.journal = [])
    (hlosses : w.losses = []) (hs : Awaited rt auth plan w.server) :
    (decideOperatorBlock rt auth plan w).2.log =
      w.log ++ [⟨.package plan.packageId, true⟩, ⟨.rows plan.packageId none 100, false⟩] := by
  obtain ⟨current, hans, hcur⟩ := hs
  rw [block_begins hplan hjournal]
  simp [ask, send, ExceptT.mk, hans, hlosses, hcur, Except.map, Except.isOk, Except.toBool,
    expect_apply, readOperatorRows_refused]

/-- An operator that never gets past the package has only asked for it. -/
theorem attempts_idle {planHash : String} (hplan : validateOperatorPlan rt plan = .ok planHash)
    {s : ImportStore} (hs : ¬Awaited rt auth plan s) (runs : List (List (Option Loss))) {w : World}
    (hserver : w.server = s) (hjournal : w.journal = [])
    (hlog : ∀ e ∈ w.log, e.request = .package plan.packageId) :
    (attempts rt auth plan w runs).server = s ∧ (attempts rt auth plan w runs).journal = [] ∧
      ∀ e ∈ (attempts rt auth plan w runs).log, e.request = .package plan.packageId := by
  induction runs generalizing w with
  | nil => exact ⟨hserver, hjournal, hlog⟩
  | cons losses rest ih =>
    obtain ⟨stop, accepted, hstop, -⟩ := @block_stops rt auth plan _ { w with losses } hplan hjournal
      (hserver ▸ hs)
    rw [attempts, hstop]
    refine ih hserver hjournal fun e he => ?_
    rcases List.mem_append.mp he with he | he
    · exact hlog e he
    · rw [List.mem_singleton.mp he]

/-- **When an operator does its work**: whatever is lost in whatever attempts, it is faithful to its
plan exactly when the server does not answer with the package of the plan, that is when no page is
ever asked for. -/
theorem operator_reads_iff {planHash : String} (hplan : validateOperatorPlan rt plan = .ok planHash)
    (s : ImportStore) :
    (∀ runs, Faithful rt auth plan (attempts rt auth plan { server := s } runs)) ↔
      ¬Awaited rt auth plan s := by
  refine ⟨fun h hs => ?_, fun hs runs => ?_⟩
  · have hlog := @block_refused rt auth plan _ { server := s } hplan rfl rfl hs
    have hpage := (h [[]]).pages plan.packageId none 100 false
      (by rw [attempts, attempts, hlog]; simp)
    cases hpage
  · obtain ⟨hserver, hjournal, hlog⟩ :=
      attempts_idle hplan hs runs (w := { server := s }) rfl rfl (by simp)
    set w := attempts rt auth plan { server := s } runs
    refine ⟨fun id after limit accepted he => ?_, fun id id' rowId body body' b b' he => ?_, ?_, ?_⟩
    · cases hlog _ he
    · cases hlog _ he
    · obtain ⟨stop, accepted, hstop, hwhy⟩ :=
        @block_stops rt auth plan _ { w with losses := [] } hplan hjournal (hserver ▸ hs)
      rw [hstop]
      rcases hwhy rfl with rfl | ⟨failure, rfl⟩
      · exact .inr (.inl rfl)
      · exact .inr (.inr ⟨failure, rfl⟩)
    · rw [hjournal]
      intro state hstate
      cases hstate

end Operator

namespace Sample

/-- The visitor of the first workbook is to become a dossier. -/
def blockPlan : OperatorPlan where
  packageId := workbook.id.val
  campusId := campusId
  excelSha256 := workbook.sha256.val
  packageVersion := 3
  rows := [⟨"44444444-0000-4000-8000-000000000000", workbook.sha256.val, 1,
    { action := .CREATE_DOSSIER, reason := "a new visitor" }⟩]

def mappedStore : ImportStore := (importer .plain).run store [mapped]

theorem validate_blockPlan :
    validateOperatorPlan .plain blockPlan = .ok (hash .plain blockPlan.json) := by
  have hrows : blockPlan.rows.forM validateOperatorRow = .ok () := by decide +kernel
  rw [validateOperatorPlan, require_pos (by decide +kernel), ok_bind, hrows]
  rfl

theorem awaited_mappedStore : Awaited .plain author blockPlan mappedStore := by
  have hview : (getPackage .plain author mappedStore blockPlan.packageId).map
      (fun current => Decidable.decide (blockPlan.Describes current)) = .ok true := by
    decide +kernel
  obtain ⟨current, hcurrent, hdescribes⟩ := map_ok_iff.mp hview
  exact ⟨current, hcurrent, of_decide_eq_true hdescribes⟩

end Sample

open Bootstrap.Sample

/-- **The operator of a mapped workbook cannot read it**: its first request for a page is refused. -/
theorem operator_blind :
    ¬Faithful .plain author blockPlan
      (attempts .plain author blockPlan { server := mappedStore } [[]]) := by
  intro h
  have hlog := @block_refused .plain author blockPlan _ { server := mappedStore }
    validate_blockPlan rfl rfl awaited_mappedStore
  have hpage := h.pages blockPlan.packageId none 100 false
    (by rw [attempts, attempts, hlog]; simp)
  cases hpage

/-- The mapped workbook, and a store without it. -/
theorem operator_reads_iff_sample :
    ((∀ runs, Faithful .plain author blockPlan
        (attempts .plain author blockPlan { server := mappedStore } runs)) ↔
      ¬Awaited .plain author blockPlan mappedStore) ∧
    ∀ runs, Faithful .plain author blockPlan
      (attempts .plain author blockPlan { server := {} } runs) :=
  ⟨operator_reads_iff validate_blockPlan _,
    (operator_reads_iff validate_blockPlan {}).mpr fun ⟨_, h, _⟩ => by cases h⟩

end CrmYnov.Bootstrap
