import CrmYnov.Bootstrap.Guards
import CrmYnov.Bootstrap.Reconciliation
import CrmYnov.Js.Date

/-!
# The service of the historical import

A sealed package is mapped once. A row of its ledger is then decided, deferred or reopened;
a confirmation carries out the decisions of its author, row by row, and a block decides some
rows and confirms them in one transaction, which is given up when the reconciler finds fault
with what it would leave.

Every call is one transaction under the fence of the permissions: it reads the state it
writes, and what it throws leaves nothing behind. A call that is repeated under its key
answers as it did, and writes nothing.
-/

namespace CrmYnov.Bootstrap

open Checked References Js Leads BootstrapImportPackage

/-- What the world gives to a call: the instant, and identifiers for a batch, a plan, the
rows of a ledger and the dossiers of these rows. -/
structure Draw where
  now : Instant
  (batchId planId : Uuid)
  rowId : ℕ → Uuid
  leadId : Uuid → Uuid

variable (rt : ImportRuntime)

/-- `notFound()` -/
def packageNotFound : Failure := .notFound "bootstrap_package_not_found"

variable (s : ImportStore) (auth : Authority) (id : String)

/-- `package(tx, id, actor, keys)` -/
def package (keys : List String) : Outcome BootstrapImportPackage := do
  let p ← demand ((Uuid.read id).bind s.package) packageNotFound
  let _ ← authorize rt s auth p.campusId keys
  pure p

namespace ImportStore

variable (s : ImportStore)

/-- `tx.bootstrapImportPackage.update({ where: { id, version } })` -/
def updatePackage (p : BootstrapImportPackage)
    (f : BootstrapImportPackage → BootstrapImportPackage)
    (hf : ∀ q, (f q).keys = q.keys := by intro _; rfl) : Outcome ImportStore := do
  let current ← demand (s.package p.id) .database
  require (current.version = p.version) .database
  pure { s with packages := s.packages.updateMany (fun q => q.id = p.id) f hf }

/-- `tx.bootstrapImportRow.update({ where: { id, version } })`: a decision has one row under
its key. -/
def updateRow (row : BootstrapImportRow) (f : BootstrapImportRow → BootstrapImportRow)
    (hf : ∀ r, (f r).keys = r.keys := by intro _; rfl) : Outcome ImportStore := do
  let current ← demand (s.row row.packageId row.id) .database
  require (current.version = row.version) .database
  require (∀ r ∈ s.rows.rows, r.packageId = row.packageId → r.id ≠ row.id →
      (f current).decisionKey = none ∨ r.decisionKey ≠ (f current).decisionKey)
    .database
  pure { s with rows := s.rows.updateMany (fun r => r.id = row.id) f hf }

/-- `tx.bootstrapImportReceipt.create({ data })` -/
def addReceipt (receipt : BootstrapImportReceipt) : Outcome ImportStore := do
  let receipts ← insert s.receipts receipt
  pure { s with receipts }

def rowNamed (packageId : Uuid) (rowId : String) : Option BootstrapImportRow :=
  (Uuid.read rowId).bind (s.row packageId)

def Superseded (packageId : Uuid) (key : String) : Prop :=
  ∃ c ∈ s.receiptsOf packageId .REOPEN_ROW, c.response.previousDecisionKey? = some key
deriving Decidable

end ImportStore

/-! ### Mapping -/

variable (p : BootstrapImportPackage)

def newBatch (auth : Authority) (fingerprint : String) (draw : Draw) :
    Ingestion.IngestionBatchRow where
  id := draw.batchId.val
  idempotencyKey := "bootstrap:" ++ p.id.val
  fingerprint := fingerprint
  profile := "LEGACY_CRM_R8"
  assignmentMode := "HISTORICAL_EXPLICIT"
  actorId := auth.actorId.val
  totalCount := 0

def BootstrapImportPackage.map (batchId : String) (p : BootstrapImportPackage) :
    BootstrapImportPackage :=
  { p with state := .MAPPED, batchId := some batchId, version := p.version + 1 }

def plannedRows (draw : Draw) (pending : List PendingRow) : List BootstrapImportRow :=
  pending.mapIdx fun i row => row.row rt p.sha256 p.id draw.planId (draw.rowId i)

def mapPackage (input : HistoricalMappingInput) (draw : Draw) : Outcome ImportStore := do
  let snapshot ← demand p.snapshot (.conflict "bootstrap_snapshot_missing")
  let fingerprint := input.fingerprint rt
  let ingestionBatches ← insert s.db.ingestionBatches (newBatch p auth fingerprint draw)
  let sourceCoverage ← snapshot.sheets.mapM (sheetCoverage rt input.sheets)
  let quarantine ← snapshot.sheets.mapM (historicalMetadataQuarantine rt p.sha256)
  let plans ← insert s.plans ⟨draw.planId, p.id, 1, input.mappingVersion, fingerprint, input,
    sourceCoverage, quarantine.flatten⟩
  let sheets ← snapshot.sheets.mapM (sheetRows rt s p.campusId snapshot.date1904 input.sheets)
  require (sheets.flatten.length ≤ 10000) (refuse "bootstrap_row_limit_exceeded")
  let rows ← (plannedRows rt p draw sheets.flatten).foldlM insert s.rows
  { s with db := { s.db with ingestionBatches }, plans, rows }.updatePackage p
    (map draw.batchId.val)

def mapping (input : HistoricalMappingInput) (draw : Draw) : Outcome ImportStore := do
  assertMapping input
  let p ← package rt s auth id ["import.execute", "import.view"]
  let previous := s.plans.findFirst fun plan => plan.packageId = p.id
  if previous.map BootstrapImportPlan.fingerprint = some (input.fingerprint rt) then pure s
  else do
    require (p.state = .SEALED ∧ (p.version : ℤ) = input.expectedVersion ∧ previous.isNone)
      (.conflict "bootstrap_mapping_conflict")
    mapPackage rt s auth p input draw

/-! ### Deciding -/

def BootstrapImportRow.decide (state : RowState) (decision : Decision) (fingerprint : String)
    (row : BootstrapImportRow) : BootstrapImportRow :=
  { row with
    state
    version := row.version + 1
    decision := some decision
    decisionKey := some decision.idempotencyKey
    decisionFingerprint := some fingerprint }

/-- The decision a request makes of a row. -/
def deferral (sha256 : Sha) (auth : Authority) (row : BootstrapImportRow)
    (input : HistoricalDecisionInput) : Decision :=
  { input with actorId := auth.actorId.val, deferral := some (deferralBinding rt sha256 row) }

def deferralReceipt (auth : Authority) (row : BootstrapImportRow) (input : HistoricalDecisionInput) :
    BootstrapImportReceipt :=
  let fingerprint := (deferral rt p.sha256 auth row input).fingerprint rt
  { packageId := p.id, operation := .DEFER_ROW, key := input.idempotencyKey, fingerprint
    actorId := auth.actorId.val
    response := .deferred row.id.val fingerprint (deferralBinding rt p.sha256 row) }

def replayDeferral (row : BootstrapImportRow) (input : HistoricalDecisionInput)
    (existing : BootstrapImportReceipt) : Outcome ImportStore := do
  let saved ← demand row.decision (.conflict "bootstrap_deferral_key_conflict")
  let repeated : Decision := { input with actorId := auth.actorId.val, deferral := saved.deferral }
  require (row.decisionKey = some input.idempotencyKey ∧ existing.actorId = auth.actorId.val ∧
      existing.fingerprint = repeated.fingerprint rt ∧ ValidDeferral rt p.sha256 row [existing])
    (.conflict "bootstrap_deferral_key_conflict")
  pure s

def deferRow (row : BootstrapImportRow) (input : HistoricalDecisionInput) :
    Outcome ImportStore := do
  require (SourceIntact rt p.sha256 row) (.conflict "bootstrap_source_integrity_conflict")
  require (row.leadId = none ∧ (s.receipt p.id .COMMIT_ROW row.id.val).isNone)
    (.conflict "bootstrap_committed_row_cannot_defer")
  match s.receipt p.id .DEFER_ROW input.idempotencyKey with
  | some existing => replayDeferral rt s auth p row input existing
  | none => do
    require (row.state = .REVIEW ∧ (row.version : ℤ) = input.expectedVersion ∧
        row.decision.isNone ∧ p.sealedAt.isSome)
      (.conflict "bootstrap_deferral_conflict")
    let decision := deferral rt p.sha256 auth row input
    let s ← s.updateRow row (BootstrapImportRow.decide .DEFERRED decision (decision.fingerprint rt))
    s.addReceipt (deferralReceipt rt p auth row input)

def requireNoComputedComment (mapped : MappedRow) : Outcome Unit :=
  require (∀ reason ∈ mapped.reasons, ¬startsWith "FORMULA_REVIEW:comment:" reason)
    (unprocessable "bootstrap_formula_comment_review_required")

def validateLink (row : BootstrapImportRow) (decision : HistoricalDecisionInput) :
    Outcome LeadRow := do
  validateSourceCoverage row.mapped decision row.payload
  let lead ← authorizeLinkedLead rt s auth p (decision.targetLeadId.getD "")
  requireNoComputedComment row.mapped
  pure lead

/-- What a decision says may be done. -/
def validateDecision (row : BootstrapImportRow) (decision : Decision) : Outcome Unit :=
  match decision.action with
  | .CREATE_DOSSIER => validateCreate rt s auth p row decision.resolved decision.toHistoricalDecisionInput
  | .LINK_EXISTING => do
    let _ ← validateLink rt s auth p row decision.toHistoricalDecisionInput
    pure ()
  | _ => pure ()

def resolution (row : BootstrapImportRow) (input : HistoricalDecisionInput) : Decision :=
  { input with
    actorId := auth.actorId.val
    values := some (row.mapped.values.override input.overrides) }

/-- A decision that was taken already may still be carried out. -/
def replayDecision (row : BootstrapImportRow) (fingerprint : String) : Outcome ImportStore := do
  require (row.decisionFingerprint = some fingerprint)
    (.conflict "bootstrap_decision_key_conflict")
  let saved ← demand row.decision .database
  match saved.action with
  | .CREATE_DOSSIER => do
    validateCreate rt s auth p row saved.resolved saved.toHistoricalDecisionInput
    pure s
  | .LINK_EXISTING => do
    let _ ← authorizeLinkedLead rt s auth p (saved.targetLeadId.getD "")
    pure s
  | _ => pure s

def resolveRow (row : BootstrapImportRow) (input : HistoricalDecisionInput) :
    Outcome ImportStore := do
  validateCycle input.cycle row.payload
  validateAnnotations input row.payload
  let decision := resolution auth row input
  let fingerprint := decision.fingerprint rt
  if row.decisionKey = some input.idempotencyKey then replayDecision rt s auth p row fingerprint
  else do
    require (row.state = .REVIEW ∧ (row.version : ℤ) = input.expectedVersion ∧
        row.decision.isNone)
      (.conflict "bootstrap_decision_conflict")
    validateDecision rt s auth p row decision
    s.updateRow row (BootstrapImportRow.decide .READY decision fingerprint)

def decide (id rowId : String) (input : HistoricalDecisionInput) : Outcome ImportStore := do
  require (isUuidText rowId ∧ input.Wellformed) (refuse "bootstrap_decision_invalid")
  let p ← package rt s auth id ["import.review.resolve", "import.view"]
  let row ← demand (s.rowNamed p.id rowId) packageNotFound
  require (¬s.Superseded p.id input.idempotencyKey)
    (.conflict "bootstrap_superseded_decision_key")
  if input.action = .DEFER then deferRow rt s auth p row input
  else resolveRow rt s auth p row input

/-! ### Reopening -/

def BootstrapImportRow.reopen (row : BootstrapImportRow) : BootstrapImportRow :=
  { row with
    state := .REVIEW
    version := row.version + 1
    decision := none
    decisionKey := none
    decisionFingerprint := none }

def reopenReceipt (auth : Authority) (row : BootstrapImportRow) (decision : Decision)
    (rowId key fingerprint : String) (input : BootstrapReopenInput) :
    BootstrapImportReceipt where
  packageId := p.id
  operation := .REOPEN_ROW
  key := input.idempotencyKey
  fingerprint := input.fingerprint rt rowId auth.actorId.val
  actorId := auth.actorId.val
  response := .reopened rowId decision key fingerprint (row.version + 1) input.reason

def replayReopen (row : BootstrapImportRow) (rowId : String) (input : BootstrapReopenInput)
    (receipt : BootstrapImportReceipt) : Outcome ImportStore :=
  match receipt.response with
  | .reopened savedRowId previousDecision _ _ _ _ => do
    require (receipt.actorId = auth.actorId.val ∧ previousDecision.actorId = auth.actorId.val ∧
        (row.decision.all fun d => d.actorId = auth.actorId.val) = true)
      permissionDenied
    require (receipt.fingerprint = input.fingerprint rt rowId auth.actorId.val ∧
        savedRowId = rowId)
      (.conflict "bootstrap_reopen_key_conflict")
    pure s
  | _ => .error permissionDenied

def requireValidDeferral (row : BootstrapImportRow) (key : String) : Outcome Unit :=
  require (row.state = .DEFERRED →
      ((s.receipt p.id .DEFER_ROW key).any fun receipt =>
        ValidDeferral rt p.sha256 row [receipt]) = true)
    (.conflict "bootstrap_deferral_integrity_conflict")

def reopen (id rowId : String) (input : BootstrapReopenInput) : Outcome ImportStore := do
  require (isUuidText rowId) (refuse "bootstrap_reopen_invalid")
  input.check
  let p ← package rt s auth id ["import.review.resolve", "import.view"]
  let row ← demand (s.rowNamed p.id rowId) packageNotFound
  require (row.fingerprint = hash rt row.payload.json)
    (.conflict "bootstrap_source_integrity_conflict")
  require (row.leadId = none ∧ ¬row.state.Settled ∧ (s.receipt p.id .COMMIT_ROW rowId).isNone)
    (.conflict "bootstrap_committed_row_cannot_reopen")
  match s.receipt p.id .REOPEN_ROW input.idempotencyKey with
  | some receipt => replayReopen rt s auth row rowId input receipt
  | none => do
    let decision ← demand row.decision permissionDenied
    require (decision.actorId = auth.actorId.val) permissionDenied
    let key ← demand row.decisionKey (.conflict "bootstrap_reopen_conflict")
    let fingerprint ← demand row.decisionFingerprint (.conflict "bootstrap_reopen_conflict")
    require ((row.state = .READY ∨ row.state = .DEFERRED) ∧
        (row.version : ℤ) = input.expectedVersion ∧ input.idempotencyKey ≠ key)
      (.conflict "bootstrap_reopen_conflict")
    require (fingerprint = decision.fingerprint rt)
      (.conflict "bootstrap_decision_integrity_conflict")
    requireValidDeferral rt s p row key
    let s ← s.updateRow row BootstrapImportRow.reopen
    s.addReceipt (reopenReceipt rt p auth row decision rowId key fingerprint input)

/-! ### Carrying a decision out -/

/-- How the owner of a dossier was settled. -/
def assignmentText (decision : Decision) : String :=
  if decision.action = .CREATE_DOSSIER then
    if decision.resolved.textD "ownerId" = "" then "OWNER_EXPLICIT_UNASSIGNED"
    else "OWNER_EXPLICIT_ASSIGNED"
  else "EXISTING_OWNER_PRESERVED"

def commitReceipt (row : BootstrapImportRow) (decision : Decision) (fingerprint actorId : String)
    (leadId : Option String) : BootstrapImportReceipt where
  packageId := row.packageId
  operation := .COMMIT_ROW
  key := row.id.val
  fingerprint := fingerprint
  actorId := actorId
  response := .committed row.id.val leadId (assignmentText decision)

def rowReceipt (row : BootstrapImportRow) (decision : Decision) (leadId : Option String) :
    Outcome ImportStore := do
  let fingerprint ← demand row.decisionFingerprint .database
  s.addReceipt (commitReceipt row decision fingerprint auth.actorId.val leadId)

def BootstrapImportRow.settle (state : RowState) (leadId : Option String)
    (row : BootstrapImportRow) : BootstrapImportRow :=
  { row with state, leadId, version := row.version + 1 }

def commentNote (sha256 : Sha) (row : BootstrapImportRow) (leadId : String)
    (comment : MappedComment) : ImportedHistoricalNote where
  rowId := row.id
  leadId := leadId
  cellKey := commentKey rt sha256 row comment.column
  fingerprint := hash rt (SourceValue.cell (row.payload.cells.get comment.column)).json
  sourceSheet := row.sheet
  sourceRow := row.rowNumber
  sourceColumn := comment.column
  text := comment.text
  sourceValue := .cell (row.payload.cells.get comment.column)

def annotationNote (sha256 : Sha) (row : BootstrapImportRow) (leadId : String)
    (native : HistoricalAnnotation) : ImportedHistoricalNote where
  rowId := row.id
  leadId := leadId
  cellKey := annotationKey rt sha256 row native
  fingerprint := hash rt native.json
  sourceSheet := row.sheet
  sourceRow := row.rowNumber
  sourceColumn := native.column
  text := native.text
  sourceValue := SourceValue.annotation native
  author := native.author

/-- The annotation is to be preserved, and says something. -/
def preserved (row : BootstrapImportRow) (native : HistoricalAnnotation) : Bool :=
  (Tally.disposition row native).any (fun item => item.action = .PRESERVE_NOTE) &&
    present native.text

/-- The notes a row gives to its dossier: its comments, then its annotations. -/
def rowNotes (sha256 : Sha) (row : BootstrapImportRow) (leadId : String) :
    List ImportedHistoricalNote :=
  (row.mapped.comments.filter fun comment => present comment.text).map
      (commentNote rt sha256 row leadId) ++
    (row.payload.annotations.filter (preserved row)).map (annotationNote rt sha256 row leadId)

def rowProvenance (batchId : String) (row : BootstrapImportRow) (leadId : String) :
    Ingestion.LeadProvenanceRow :=
  let source := slice 120 ((nonEmpty row.mapped.originalSource).getD row.sheet)
  { leadId, batchId, sourceType := "LEGACY_CRM", technicalSystem := "EXCEL_BOOTSTRAP_R8"
    originalSource := source, recentSource := source
    campaign := row.mapped.values.text "campaign", externalId := some row.sourceKey
    rawStatus := row.mapped.rawStatus.map (slice 120)
    submissionFingerprint := some row.fingerprint, occurredAt := none }

/-- The effects of a row on a dossier, and its receipt. The dossier is named there as the
decision names it. -/
def importRow (row : BootstrapImportRow) (decision : Decision) (leadId named : String) :
    Outcome ImportStore := do
  let batchId ← demand p.batchId .database
  let leadProvenances ← insert s.db.leadProvenances (rowProvenance batchId row leadId)
  require (∀ native ∈ row.payload.annotations, (Tally.disposition row native).isSome)
    (.error "Cannot read properties of undefined")
  let notes ← (rowNotes rt p.sha256 row leadId).foldlM insert s.notes
  let s ← { s with db := { s.db with leadProvenances }, notes }.updateRow row
    (BootstrapImportRow.settle .ACCEPTED (some leadId))
  rowReceipt s auth row decision (some named)

def newDossier (values : Values) (reference : LeadReferenceValues) (status : LeadStatus)
    (p : BootstrapImportPackage) (draw : Draw) (id : Uuid) : LeadRow where
  id := id.val
  leadCode := "LD-" ++ toString (yearOf (draw.now / 86400000)) ++ "-" ++
    rt.unicode.toUpperCase (slice 8 id.val)
  firstName := trim (values.textD "firstName")
  lastName := trim (values.textD "lastName")
  email := normalizeHistoricalEmail rt (values.text "email")
  phone := normalizeHistoricalPhone (values.text "phone")
  campus := reference.campus
  campaign := reference.campaign
  educationLevel := trim (values.textD "educationLevel")
  program := reference.program
  source := trim (values.textD "source")
  status := status
  acquisitionKind := .BASELINE
  assignedToId := nonEmpty (values.text "ownerId")
  assignmentMode := some "HISTORICAL_EXPLICIT"
  importBatchId := p.batchId
  createdAt := draw.now

def createDossier (row : BootstrapImportRow) (decision : Decision) (draw : Draw) :
    Outcome (String × ImportStore) := do
  let values ← baselineOptionalValues decision.resolved row.mapped.values row.mapped.reasons
  validateCreate rt s auth p row values decision.toHistoricalDecisionInput
  let campus ← canonicalCampus rt.toRuntime s.db.references p.campusId
  let reference ← validateLeadReferences rt.toRuntime s.db.references
    ⟨(campus.keys[1]?).getD "", values.textD "program", values.textD "campaign"⟩ none true
  let status ← demand (LeadStatus.ofText? (values.textD "status")) .database
  let lead := newDossier rt values reference status p draw (draw.leadId row.id)
  let leads ← insert s.db.leads lead
  let temperatures ← insert s.temperatures ⟨lead.id, nonEmpty (values.text "temperature")⟩
  pure (lead.id, { s with db := { s.db with leads }, temperatures })

def commitRow (draw : Draw) (s : ImportStore) (row : BootstrapImportRow) : Outcome ImportStore := do
  let decision ← demand row.decision (.conflict "bootstrap_source_integrity_conflict")
  require (decision.actorId = auth.actorId.val ∧ row.fingerprint = hash rt row.payload.json)
    (.conflict "bootstrap_source_integrity_conflict")
  match decision.action with
  | .IGNORE => do
    let s ← s.updateRow row (BootstrapImportRow.settle .IGNORED row.leadId)
    rowReceipt s auth row decision none
  | .CREATE_DOSSIER => do
    let (leadId, s) ← createDossier rt s auth p row decision draw
    importRow rt s auth p row decision leadId leadId
  | .LINK_EXISTING => do
    let named ← demand decision.targetLeadId (.conflict "bootstrap_decision_missing")
    let lead ← validateLink rt s auth p row decision.toHistoricalDecisionInput
    importRow rt s auth p row decision lead.id named
  | .DEFER => .error (.conflict "bootstrap_decision_missing")

def revalidateDecision (row : BootstrapImportRow) : Outcome Unit := do
  let decision ← demand row.decision (.conflict "bootstrap_source_integrity_conflict")
  require (decision.actorId = auth.actorId.val ∧ row.fingerprint = hash rt row.payload.json)
    (.conflict "bootstrap_source_integrity_conflict")
  validateAnnotations decision.toHistoricalDecisionInput row.payload
  match decision.action with
  | .CREATE_DOSSIER => do
    validateCreate rt s auth p row decision.resolved decision.toHistoricalDecisionInput
    let leadId ← demand row.leadId (.conflict "bootstrap_receipt_integrity_invalid")
    let lead ← demand (s.lead leadId) permissionDenied
    require (auth.mayOnLead lead ["lead.view"] = true) permissionDenied
  | .LINK_EXISTING => do
    let _ ← authorizeLinkedLead rt s auth p (decision.targetLeadId.getD "")
    pure ()
  | _ => pure ()

/-! ### Confirming -/

def confirmPermissions : List String :=
  ["import.execute", "import.confirm", "import.review.resolve", "import.view"]

def BootstrapImportPackage.advance (state : PackageState) (p : BootstrapImportPackage) :
    BootstrapImportPackage := { p with state, version := p.version + 1 }

/-- The rows a confirmation is about: those its author has decided, in the order of their
identifiers. -/
def readyRows (input : BootstrapConfirmInput) : List BootstrapImportRow :=
  (((s.rowsOf p.id).filter fun r => r.state = .READY ∧
      (r.decision.any fun d => d.actorId = auth.actorId.val) = true ∧
      ∀ ids ∈ input.rowIds, r.id ∈ ids.filterMap Uuid.read).insertionSort
    fun a b => a.id.val ≤ b.id.val).take input.take.toNat

def replayConfirm (input : BootstrapConfirmInput) (receipt : BootstrapImportReceipt) :
    Outcome ImportStore := do
  require (receipt.fingerprint = input.fingerprint rt ∧ receipt.actorId = auth.actorId.val)
    (.conflict "bootstrap_confirmation_key_conflict")
  let rowIds ← demand receipt.response.rowIds? (.conflict "bootstrap_receipt_integrity_invalid")
  let committed := (s.rowsOf p.id).filter fun r => r.id.val ∈ rowIds
  require (committed.length = rowIds.length) (.conflict "bootstrap_receipt_integrity_invalid")
  committed.forM (revalidateDecision rt s auth p)
  pure s

/-- A confirmation that is made for the first time. -/
def confirmReady (input : BootstrapConfirmInput) (draw : Draw) : Outcome ImportStore := do
  require (p.batchId.isSome ∧ (p.state = .MAPPED ∨ p.state = .PARTIAL) ∧
      (p.version : ℤ) = input.expectedVersion)
    (.conflict "bootstrap_confirmation_conflict")
  let ready := readyRows s auth p input
  require (∀ ids ∈ input.rowIds, ready.length = ids.length)
    (.conflict "bootstrap_confirmation_rows_changed")
  require (ready ≠ []) (.conflict "bootstrap_no_owned_decided_rows")
  let s ← ready.foldlM (commitRow rt auth p draw) s
  let state := if ∀ r ∈ s.rowsOf p.id, r.state.Settled then PackageState.COMPLETED else .PARTIAL
  let s ← s.updatePackage p (advance state)
  s.addReceipt {
    packageId := p.id, operation := .CONFIRM, key := input.idempotencyKey
    fingerprint := input.fingerprint rt, actorId := auth.actorId.val
    response := .confirmed (ready.map fun r => r.id.val) }

def confirm (input : BootstrapConfirmInput) (draw : Draw) : Outcome ImportStore := do
  input.check
  let p ← package rt s auth id confirmPermissions
  match s.receipt p.id .CONFIRM input.idempotencyKey with
  | some receipt => replayConfirm rt s auth p input receipt
  | none => confirmReady rt s auth p input draw

/-! ### Blocks -/

/-- A row of a block that was executed already. -/
def replayItem (item : BootstrapBlockItem) : Outcome Unit := do
  let row ← demand (s.rowNamed p.id item.rowId) (.conflict "bootstrap_block_receipt_changed")
  require (row.fingerprint = item.fingerprint ∧
      row.decisionKey = some item.decision.idempotencyKey)
    (.conflict "bootstrap_block_receipt_changed")
  if row.state = .DEFERRED then
    require (ValidDeferral rt p.sha256 row ((s.receiptsOf p.id .DEFER_ROW).filter fun c =>
        some c.key = row.decisionKey))
      (.conflict "bootstrap_deferral_integrity_conflict")
  else do
    require row.state.Settled (.conflict "bootstrap_block_receipt_changed")
    revalidateDecision rt s auth p row

def decideItem (packageId : Uuid) (s : ImportStore) (item : BootstrapBlockItem) :
    Outcome ImportStore := do
  let row ← demand (s.rowNamed packageId item.rowId) (.conflict "bootstrap_block_row_changed")
  require (row.fingerprint = item.fingerprint ∧
      (row.version : ℤ) = item.decision.expectedVersion ∧ row.state = .REVIEW ∧
      row.decision.isNone)
    (.conflict "bootstrap_block_row_changed")
  decide rt s auth id item.rowId item.decision

def BootstrapBlockInput.rowIds (input : BootstrapBlockInput) (deferred : Bool) : List String :=
  (input.items.filter fun item => (item.decision.action == .DEFER) == deferred).map
    BootstrapBlockItem.rowId

def confirmBlock (input : BootstrapBlockInput) (draw : Draw) : Outcome ImportStore :=
  let ready := input.rowIds false
  if ready = [] then s.updatePackage p (advance .PARTIAL)
  else confirm rt s auth id {
    expectedVersion := p.version
    idempotencyKey := "block-confirm-" ++
      hash rt (.arr [.str input.idempotencyKey, .str (input.fingerprint rt)])
    confirmed := true
    limit := some ready.length
    rowIds := some ready } draw

def executeItems (input : BootstrapBlockInput) (draw : Draw) : Outcome ImportStore := do
  require ((p.version : ℤ) = input.expectedVersion ∧ (p.state = .MAPPED ∨ p.state = .PARTIAL))
    (.conflict "bootstrap_block_version_changed")
  let s ← input.items.foldlM (decideItem rt auth id p.id) s
  let s ← confirmBlock rt s auth id p input draw
  let reported ← package rt s auth id ["import.view"]
  let report := s.reconciliation rt reported
  require (report.truncated = false ∧ report.discrepancies = [])
    (.conflict "bootstrap_block_reconciliation_failed")
  s.addReceipt {
    packageId := p.id, operation := .EXECUTE_BLOCK, key := input.idempotencyKey
    fingerprint := input.fingerprint rt, actorId := auth.actorId.val
    response := .block (input.rowIds false) (input.rowIds true) input.expectedVersion
      (input.expectedVersion + 1) }

def executeBlock (input : BootstrapBlockInput) (draw : Draw) : Outcome ImportStore := do
  input.check
  let p ← package rt s auth id confirmPermissions
  require (p.sha256.val = input.sha256) (.conflict "bootstrap_block_source_changed")
  match s.receipt p.id .EXECUTE_BLOCK input.idempotencyKey with
  | some previous => do
    require (previous.actorId = auth.actorId.val ∧ previous.fingerprint = input.fingerprint rt)
      (.conflict "bootstrap_block_key_conflict")
    input.items.forM (replayItem rt s auth p)
    pure s
  | none => executeItems rt s auth id p input draw

end CrmYnov.Bootstrap
