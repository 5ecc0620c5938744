import CrmYnov.Bootstrap.Types
import Mathlib.Algebra.Order.Ring.Int

/-!
# Reconciling the ledger with its effects

A deferral is valid when everything it was bound to is still so, and its one receipt says
the same (`CrmYnov.Bootstrap.ValidDeferral`). The reconciler reads a package over again: of
every row that was carried out it recomputes the digests, the receipt, the dossier, the
provenance and the notes, and it tallies a code for whatever does not agree
(`CrmYnov.Bootstrap.historicalReconciliation`).

The reconciler works on what was read of the package, which is bounded; a reading that was
cut off is a discrepancy of its own.
-/

namespace CrmYnov.Bootstrap

variable (rt : ImportRuntime)

/-! ### Deferrals -/

def deferralBinding (sha256 : Sha) (row : BootstrapImportRow) : DeferralBinding where
  policy := boundedBootstrapPolicy
  excelSha256 := sha256.val
  planId := row.planId.val
  sourceKey := row.sourceKey
  sourceFingerprint := row.fingerprint
  mappedFingerprint := hash rt row.mapped.json
  reasons := row.reasons
  previousState := row.state
  previousVersion := row.version

/-- `same(a, b)` -/
def same (a b : Js.Json) : Prop := hash rt a = hash rt b
deriving Decidable

def SourceIntact (sha256 : Sha) (row : BootstrapImportRow) : Prop :=
  row.fingerprint = hash rt row.payload.json ∧
    row.sourceKey = sourceKey rt sha256 row.relationId row.rowNumber
deriving Decidable

/-- `matches[0]`: the receipt of a deferral says what the row says. -/
def MatchesDeferral (row : BootstrapImportRow) (decision : Decision) (binding : DeferralBinding)
    (receipt : BootstrapImportReceipt) : Prop :=
  receipt.actorId = decision.actorId ∧ some receipt.fingerprint = row.decisionFingerprint ∧
    receipt.response.deferralJson?.any (fun response => same rt response
      (deferralResponseJson row.id.val (row.decisionFingerprint.getD "") binding)) = true
deriving Decidable

def BoundDeferral (sha256 : Sha) (row : BootstrapImportRow) (decision : Decision)
    (binding : DeferralBinding) : Prop :=
  decision.action = .DEFER ∧ decision.confirmed = some true ∧
    decision.expectedVersion = binding.previousVersion ∧
    8 ≤ Js.length (Js.trim decision.reason) ∧ Js.length decision.reason ≤ 1000 ∧
    isUuidText decision.actorId ∧ some decision.idempotencyKey = row.decisionKey ∧
    decision.targetLeadId = none ∧ decision.cycle = none ∧ decision.annotations = none ∧
    decision.overrides.isNone ∧ decision.values.isNone ∧
    same rt binding.json
      (deferralBinding rt sha256 { row with state := .REVIEW, version := row.version - 1 }).json ∧
    row.decisionFingerprint = some (decision.fingerprint rt)
deriving Decidable

def ValidDeferral (sha256 : Sha) (row : BootstrapImportRow)
    (receipts : List BootstrapImportReceipt) : Prop :=
  row.state = .DEFERRED ∧ row.leadId = none ∧ isSha sha256.val ∧ isUuidText row.planId.val ∧
    1 < row.version ∧ SourceIntact rt sha256 row ∧
    ∃ decision ∈ row.decision, ∃ binding ∈ decision.deferral,
      BoundDeferral rt sha256 row decision binding ∧
      (receipts.filter fun receipt => some receipt.key = row.decisionKey).length = 1 ∧
      ∀ receipt ∈ receipts.filter fun receipt => some receipt.key = row.decisionKey,
        MatchesDeferral rt row decision binding receipt
deriving Decidable

/-! ### What is reconciled -/

structure ReconciliationLead where
  id : String
  acquisitionKind : Leads.AcquisitionKind
  baselineTemperature : Option String

structure ReconciliationInput where
  sha256 : Sha
  rows : List BootstrapImportRow
  notes : List ImportedHistoricalNote
  receipts : List BootstrapImportReceipt
  provenance : List Ingestion.LeadProvenanceRow
  leads : List ReconciliationLead
  truncated : Bool

structure ExpectedNote where
  rowId : Uuid
  (leadId sheet : String)
  row : ℕ
  (column text : String)
  value : SourceValue
  author : Option String

/-- What the reconciler has counted so far, with the codes of what does not agree. -/
structure Tally where
  failures : List String := []
  expectedNotes : Dict String ExpectedNote := .empty
  blankSourceRecords : Dict String ExpectedNote := .empty
  targets : List String := []
  created : ℕ := 0
  linked : ℕ := 0
  ignored : ℕ := 0
  expectedReceipts : ℕ := 0
  exactReceipts : ℕ := 0
  expectedProvenance : ℕ := 0
  exactProvenance : ℕ := 0
  unresolved : ℕ := 0

namespace Tally

variable (t : Tally)

/-- `fail(code)` unless a condition holds. -/
def check (p : Prop) [Decidable p] (code : String) : Tally :=
  if p then t else { t with failures := t.failures ++ [code] }

/-- `addNote`: a blank note is kept apart. -/
def addNote (key : String) (note : ExpectedNote) : Tally :=
  let t := t.check ((t.expectedNotes.get key).isNone ∧ (t.blankSourceRecords.get key).isNone)
    "EXPECTED_NOTE_KEY_COLLISION"
  if Js.present note.text then { t with expectedNotes := t.expectedNotes.set key note }
  else { t with blankSourceRecords := t.blankSourceRecords.set key note }

def readComment (sha256 : Sha) (row : BootstrapImportRow) (leadId : String) (t : Tally)
    (comment : MappedComment) : Tally :=
  match row.payload.cells.get comment.column with
  | none => t.check False "COMMENT_SOURCE_INVALID"
  | some cell => t.addNote (commentKey rt sha256 row comment.column)
      ⟨row.id, leadId, row.sheet, row.rowNumber, comment.column, comment.text, .cell (some cell), none⟩

def disposition (row : BootstrapImportRow) (native : HistoricalAnnotation) :
    Option HistoricalAnnotationDecision :=
  ((row.decision.bind fun d => d.annotations).getD []).find? fun item => item.triple = native.triple

def readAnnotation (sha256 : Sha) (row : BootstrapImportRow) (leadId : String) (t : Tally)
    (native : HistoricalAnnotation) : Tally :=
  match disposition row native with
  | none => t.check False "ANNOTATION_DISPOSITION_MISSING"
  | some item =>
    match item.action with
    | .EXCLUDE => t
    | .PRESERVE_NOTE => t.addNote (annotationKey rt sha256 row native)
        ⟨row.id, leadId, row.sheet, row.rowNumber, native.column, native.text,
          SourceValue.annotation native, native.author⟩

def readDecision (row : BootstrapImportRow) : Tally :=
  let t := t.check (∃ d ∈ row.decision, 8 ≤ Js.length (Js.trim d.reason) ∧
      row.decisionFingerprint = some (d.fingerprint rt))
    "DECISION_INTEGRITY_MISMATCH"
  t.check ((row.state = .IGNORED → row.decision.any (fun d => d.action = .IGNORE) = true) ∧
      (row.state = .ACCEPTED → row.decision.any (fun d =>
        d.action = .CREATE_DOSSIER ∨ d.action = .LINK_EXISTING) = true))
    "STATE_DECISION_MISMATCH"

def MatchesRow (row : BootstrapImportRow) (receipt : BootstrapImportReceipt) : Prop :=
  some receipt.fingerprint = row.decisionFingerprint ∧
    some receipt.actorId = row.decision.map Decision.actorId ∧
    receipt.response.rowId? = some row.id.val ∧ receipt.response.leadId? = row.leadId
deriving Decidable

def readReceipts (input : ReconciliationInput) (row : BootstrapImportRow) : Tally :=
  let receipts := input.receipts.filter fun receipt => receipt.key = row.id.val
  let t := { t with expectedReceipts := t.expectedReceipts + 1 }
  if receipts.length = 1 ∧ ∀ receipt ∈ receipts, MatchesRow row receipt then
    { t with exactReceipts := t.exactReceipts + 1 }
  else t.check False "ROW_RECEIPT_MISMATCH"

def MatchesProvenance (row : BootstrapImportRow) (leadId : String)
    (provenance : Ingestion.LeadProvenanceRow) : Prop :=
  provenance.leadId = leadId ∧ provenance.submissionFingerprint = some row.fingerprint ∧
    provenance.sourceType = "LEGACY_CRM" ∧ provenance.technicalSystem = "EXCEL_BOOTSTRAP_R8"
deriving Decidable

def readProvenance (input : ReconciliationInput) (row : BootstrapImportRow) (leadId : String) :
    Tally :=
  let provenance := input.provenance.filter fun v => v.externalId.getD "" = row.sourceKey
  let t := { t with expectedProvenance := t.expectedProvenance + 1 }
  if provenance.length = 1 ∧ ∀ v ∈ provenance, MatchesProvenance row leadId v then
    { t with exactProvenance := t.exactProvenance + 1 }
  else t.check False "PROVENANCE_MISMATCH"

/-- The action of a row that went to a dossier. -/
def countAction : Option DecisionAction → Tally
  | some .CREATE_DOSSIER => { t with created := t.created + 1 }
  | some .LINK_EXISTING => { t with linked := t.linked + 1 }
  | _ => t

/-- The dossier of a row is what its decision made it, or the one it named. -/
def readTarget (row : BootstrapImportRow) (lead : ReconciliationLead) : Tally :=
  let action := row.decision.map fun d => d.action
  let t := t.check (action = some .CREATE_DOSSIER → lead.acquisitionKind = .BASELINE)
    "BASELINE_KIND_MISMATCH"
  let t := t.check (action = some .CREATE_DOSSIER → lead.baselineTemperature =
      Leads.nonEmpty (row.decision.bind fun d => d.resolved.text "temperature"))
    "BASELINE_TEMPERATURE_MISMATCH"
  let t := t.check (action = some .LINK_EXISTING →
      (row.decision.bind fun d => d.targetLeadId) = some lead.id)
    "LINK_TARGET_MISMATCH"
  { t with targets := if lead.id ∈ t.targets then t.targets else t.targets ++ [lead.id] }

def readAccepted (input : ReconciliationInput) (t : Tally) (row : BootstrapImportRow) : Tally :=
  let t := t.countAction (row.decision.map fun d => d.action)
  match row.leadId.bind fun id => input.leads.find? fun l => l.id = id with
  | none => t.check False "TARGET_DOSSIER_MISSING"
  | some lead =>
    let t := (t.readTarget row lead).readProvenance input row lead.id
    let t := row.mapped.comments.foldl (readComment rt input.sha256 row lead.id) t
    row.payload.annotations.foldl ( readAnnotation rt input.sha256 row lead.id) t

/-- One row: `for (const row of input.rows)` -/
def readRow (input : ReconciliationInput) (t : Tally) (row : BootstrapImportRow) : Tally :=
  let t := t.check (SourceIntact rt input.sha256 row) "SOURCE_INTEGRITY_MISMATCH"
  if ¬row.state.Settled then { t with unresolved := t.unresolved + 1 }
  else
    let t := (t.readDecision rt row).readReceipts input row
    if row.state = .IGNORED then
      { t with ignored := t.ignored + 1 }.check (row.leadId = none) "IGNORED_ROW_TARGET_PRESENT"
    else readAccepted rt input t row

end Tally

structure NoteTally where
  failures : List String := []
  seen : List String := []
  exactNotes : ℕ := 0
  preservedNonInteractionBlankRecords : ℕ := 0

def MatchesNote (expected : ExpectedNote) (note : ImportedHistoricalNote) : Prop :=
  note.rowId = expected.rowId ∧ note.leadId = expected.leadId ∧
    note.sourceSheet = expected.sheet ∧ note.sourceRow = expected.row ∧
    note.sourceColumn = expected.column ∧ note.text = expected.text ∧
    note.author = expected.author ∧ note.occurredAt = none ∧
    note.fingerprint = hash rt expected.value.json ∧ same rt note.sourceValue.json expected.value.json
deriving Decidable

/-- One note: `for (const note of input.notes)` -/
def NoteTally.readNote (rows : Tally) (t : NoteTally) (note : ImportedHistoricalNote) : NoteTally :=
  match (rows.expectedNotes.get note.cellKey).or (rows.blankSourceRecords.get note.cellKey) with
  | none => { t with failures := t.failures ++ ["UNEXPECTED_OR_DUPLICATE_NOTE"] }
  | some expected =>
    if note.cellKey ∈ t.seen then
      { t with failures := t.failures ++ ["UNEXPECTED_OR_DUPLICATE_NOTE"] }
    else
      let t := { t with seen := t.seen ++ [note.cellKey] }
      if MatchesNote rt expected note then
        if Js.present expected.text then { t with exactNotes := t.exactNotes + 1 }
        else { t with
          preservedNonInteractionBlankRecords := t.preservedNonInteractionBlankRecords + 1 }
      else { t with failures := t.failures ++ ["NOTE_EXACT_CONTENT_MISMATCH"] }

structure ReconciliationEffects where
  (createdOccurrences linkedOccurrences ignoredOccurrences distinctTargetDossiers expectedNotes : ℕ)
  (persistedNotes exactNotes preservedNonInteractionBlankRecords expectedRowReceipts : ℕ)
  (persistedRowReceipts exactRowReceipts expectedProvenance persistedProvenance exactProvenance : ℕ)

structure Reconciliation where
  (complete truncated : Bool)
  (totalOccurrences unresolvedOccurrences : ℕ)
  effects : ReconciliationEffects
  discrepancies : List (String × ℕ)

/-- Every code with how often it was found, in the order of the codes. -/
def tallied (failures : List String) : List (String × ℕ) :=
  ((unique failures).insertionSort fun a b => rt.collate a b).map fun code =>
    (code, failures.count code)

def readRows (input : ReconciliationInput) : Tally := input.rows.foldl (Tally.readRow rt input) {}

def readNotes (input : ReconciliationInput) : NoteTally :=
  input.notes.foldl (NoteTally.readNote rt (readRows rt input)) {}

/-- The codes of everything that does not agree. -/
def failures (input : ReconciliationInput) : List String :=
  let rows := readRows rt input
  let notes := readNotes rt input
  rows.failures ++ notes.failures ++
    ((rows.expectedNotes.entries.rows.filter fun e => e.1 ∉ notes.seen).map fun _ =>
      "EXPECTED_NOTE_MISSING") ++
    (if input.receipts.length = rows.expectedReceipts then [] else ["ROW_RECEIPT_TOTAL_MISMATCH"]) ++
    (if input.provenance.length = rows.expectedProvenance then [] else
      ["PROVENANCE_TOTAL_MISMATCH"]) ++
    if input.truncated then ["RECONCILIATION_READ_TRUNCATED"] else []

def historicalReconciliation (input : ReconciliationInput) : Reconciliation :=
  let rows := readRows rt input
  let notes := readNotes rt input
  { complete := !input.truncated && rows.unresolved == 0 && (failures rt input).isEmpty
    truncated := input.truncated
    totalOccurrences := input.rows.length
    unresolvedOccurrences := rows.unresolved
    effects := {
      createdOccurrences := rows.created
      linkedOccurrences := rows.linked
      ignoredOccurrences := rows.ignored
      distinctTargetDossiers := rows.targets.length
      expectedNotes := rows.expectedNotes.entries.rows.length
      persistedNotes := input.notes.length - notes.preservedNonInteractionBlankRecords
      exactNotes := notes.exactNotes
      preservedNonInteractionBlankRecords := notes.preservedNonInteractionBlankRecords
      expectedRowReceipts := rows.expectedReceipts
      persistedRowReceipts := input.receipts.length
      exactRowReceipts := rows.exactReceipts
      expectedProvenance := rows.expectedProvenance
      persistedProvenance := input.provenance.length
      exactProvenance := rows.exactProvenance }
    discrepancies := tallied rt (failures rt input) }

/-! ### What is read of a package -/

/-- How many rows, receipts and provenances are read at most. -/
def readLimit : ℕ := 10000

/-- How many notes are read at most. -/
def noteLimit : ℕ := 100000

namespace ImportStore

variable (s : ImportStore)

variable (packageId : Uuid)

def rowsOf : List BootstrapImportRow :=
  s.rows.findMany fun r => r.packageId = packageId

def notesOf : List ImportedHistoricalNote :=
  s.notes.findMany fun n => ∃ r ∈ s.rowsOf packageId, r.id = n.rowId

def receiptsOf (operation : ReceiptOperation) : List BootstrapImportReceipt :=
  s.receipts.findMany fun c => c.packageId = packageId ∧ c.operation = operation

variable (p : BootstrapImportPackage)

def provenanceOf : List Ingestion.LeadProvenanceRow :=
  p.batchId.elim [] fun batchId =>
    s.db.leadProvenances.findMany fun v => v.batchId = batchId ∧ v.sourceType = "LEGACY_CRM"

/-- The dossiers the rows of a package went to. -/
def leadsOf : List ReconciliationLead :=
  let targetIds := ((s.rowsOf packageId).take readLimit).filterMap BootstrapImportRow.leadId
  (s.db.leads.findMany fun l => l.id ∈ targetIds).map fun l =>
    ⟨l.id, l.acquisitionKind, s.temperature l.id⟩

def reconciliationInput : ReconciliationInput where
  sha256 := p.sha256
  rows := (s.rowsOf p.id).take readLimit
  notes := (s.notesOf p.id).take noteLimit
  receipts := (s.receiptsOf p.id .COMMIT_ROW).take readLimit
  provenance := (s.provenanceOf p).take readLimit
  leads := (s.leadsOf p.id).take readLimit
  truncated := readLimit < (s.rowsOf p.id).length || noteLimit < (s.notesOf p.id).length ||
    readLimit < (s.receiptsOf p.id .COMMIT_ROW).length ||
    readLimit < (s.receiptsOf p.id .DEFER_ROW).length || readLimit < (s.provenanceOf p).length ||
    readLimit < (s.leadsOf p.id).length

def reconciliation : Reconciliation :=
  historicalReconciliation rt (s.reconciliationInput p)

end ImportStore

end CrmYnov.Bootstrap
