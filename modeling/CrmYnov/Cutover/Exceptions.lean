import CrmYnov.Cutover.Ledger

/-!
# The exceptions of a cutover

An entry whose source has changed or disappeared is an exception, and so is an effect that
waits for a review. The evidence of an exception is what was actually read of its source
(`CrmYnov.Cutover.expectedEvidence`); a case stores one evidence, and an observation names the
case of each exception. While the evidence stays the same the case does; another evidence
opens another case, in the next generation (`CrmYnov.Cutover.journal`), so that what was
disposed of a case is never said of another evidence.

The state of the exceptions is read from the observation as a whole
(`CrmYnov.Cutover.cutoverExceptionState`): it covers the exceptions when each of them has its
case, valid for its evidence, and nothing is said of a part of them.
-/

namespace CrmYnov.Cutover

open Checked CutoverExceptionCase

variable (rt : Runtime)

/-! ### What was read -/

/-- The rows of a reading that was accepted, as they are. -/
def trueRows (contract : CutoverContract) :
    List String → List Payload → Outcome (List SourceRow)
  | _, [] => pure []
  | present, payload :: payloads =>
    if payload.isBlank then trueRows contract present payloads
    else do
      let externalId ← cutoverText (payload.cell contract.externalIdColumn)
      let key := sourceKey rt contract externalId
      require (key ∉ present) (cutoverInvalid "cutover_source_identity_ambiguous")
      let originalArrivedAt ← cutoverInstant rt (payload.cell contract.originalArrivalColumn)
      let rows ← trueRows contract (key :: present) payloads
      pure (⟨key, externalId, cutoverHash rt payload.json, originalArrivedAt, payload⟩ :: rows)

def SourceRow.observed (row : SourceRow) : CutoverObservedSource :=
  ⟨row.key, true, some row.fingerprint, some row.originalArrivedAt⟩

def CutoverObservedSource.absent (key : String) : CutoverObservedSource := ⟨key, false, none, none⟩

def observedSource (rows : List SourceRow) (entry : CutoverEntry) : CutoverObservedSource :=
  ((rows.find? fun row => row.key = entry.key).map SourceRow.observed).getD (.absent entry.key)

def sortSources (sources : List CutoverObservedSource) : List CutoverObservedSource :=
  sources.insertionSort fun a b => a.sourceKey ≤ b.sourceKey

/-- `cutoverTrueObservation`: what was read of each entry, and the rows it was read from. -/
def cutoverTrueObservation (contract : CutoverContract) (values : SheetValues)
    (inventory : List CutoverEntry) : Outcome (List CutoverObservedSource × List SourceRow) := do
  let rows ← trueRows rt contract [] values.rows
  let sources := inventory.map (observedSource rows)
  require (rows.length = sources.countP CutoverObservedSource.present ∧
      (sources.map CutoverObservedSource.sourceKey).Nodup)
    (cutoverInvalid "cutover_exception_source_coverage_invalid")
  pure (sortSources sources, rows)

def CutoverObservedSource.json (s : CutoverObservedSource) : Js.Json :=
  .obj [("sourceKey", .str s.sourceKey), ("present", .bool s.present),
    ("fingerprint", text? s.fingerprint), ("originalArrivedAt", text? s.originalArrivedAt)]

def cutoverTrueObservationHash (bindingSha256 headerSha256 : String)
    (sources : List CutoverObservedSource) : String :=
  cutoverHash rt (.obj [("schemaVersion", .nat 1), ("bindingSha256", .str bindingSha256),
    ("headerSha256", .str headerSha256),
    ("sources", .arr (sources.map CutoverObservedSource.json))])

def CutoverReview.json (r : CutoverReview) : Js.Json :=
  .obj [("effectId", .str r.effectId), ("batchId", text? r.batchId),
    ("fingerprint", .str r.fingerprint), ("reason", text? r.reason)]

def CutoverExceptionEvidence.json (e : CutoverExceptionEvidence) : Js.Json :=
  .obj [("schemaVersion", .nat 1), ("bindingSha256", .str e.bindingSha256),
    ("headerSha256", .str e.headerSha256), ("sourceKey", .str e.sourceKey),
    ("originalFingerprint", .str e.originalFingerprint),
    ("originalArrivedAt", .str e.originalArrivedAt), ("source", e.source.json),
    ("kind", .str e.kind.text), ("review", (e.review.map CutoverReview.json).getD .null)]

def cutoverExceptionEvidenceHash (e : CutoverExceptionEvidence) : String := cutoverHash rt e.json

def cutoverExceptionBindingHash (row : StoredCutover) : String :=
  cutoverHash rt (.obj [("contract", row.contract.json), ("headerSha256", text? row.headerSha256)])

/-! ### What is expected -/

def CutoverOutcome.text : CutoverOutcome → String
  | CREATED => "CREATED"
  | LINKED_BASELINE => "LINKED_BASELINE"
  | REVIEW => "REVIEW"

def CompensationStatus.text : CompensationStatus → String
  | REQUESTED => "REQUESTED"
  | BLOCKED_DOWNSTREAM => "BLOCKED_DOWNSTREAM"

def CutoverEffect.json (e : CutoverEffect) : Js.Json :=
  .obj [("id", .str e.id), ("sourceKey", .str e.sourceKey), ("outcome", .str e.outcome.text),
    ("batchId", text? e.batchId), ("leadId", text? e.leadId), ("reason", text? e.reason),
    ("downstreamSha256", text? e.downstreamSha256),
    ("compensationStatus", text? (e.compensationStatus.map CompensationStatus.text)),
    ("compensationReason", text? e.compensationReason)]

/-- `` `${key}:${kind}` `` -/
def pair (key : String) (kind : CutoverExceptionKind) : String := key ++ ":" ++ kind.text

variable (L : Ledger)

def reviewEffects : List CutoverEffect :=
  L.effects.findMany fun effect => effect.outcome = .REVIEW

def ingestedOf (batchIds : List String) : List IngestedRecord :=
  L.ingested.findMany fun record => record.batchId ∈ batchIds

def issueEvidence (row : StoredCutover) (entry : CutoverEntry) (source : CutoverObservedSource)
    (kind : CutoverExceptionKind) (review : Option CutoverReview) : CutoverExceptionEvidence where
  bindingSha256 := cutoverExceptionBindingHash rt row
  headerSha256 := row.headerSha256.getD ""
  sourceKey := entry.key
  kind
  originalFingerprint := entry.fingerprint
  originalArrivedAt := entry.originalArrivedAt
  source
  review

def reviewFingerprint (effect : CutoverEffect) (record : IngestedRecord) : String :=
  cutoverHash rt (.obj [("effect", effect.json), ("batch", record.batch),
    ("report", record.report), ("reviewItems", .arr record.reviewItem.toList)])

variable (sources : List CutoverObservedSource)

/-- The evidences of an entry: of its issue, and of the review of its effect. -/
def entryEvidence (entry : CutoverEntry) : Outcome (List CutoverExceptionEvidence) := do
  let source ← demand (sources.find? fun source => source.sourceKey = entry.key)
    (conflict "cutover_exception_observation_required")
  let issue := entry.issue.toList.map fun issue =>
    issueEvidence rt L.manifest entry source issue.kind none
  match (reviewEffects L).find? fun effect => effect.sourceKey = entry.key with
  | none => pure issue
  | some effect => do
    let record ← demand (effect.batchId.bind L.ingested.findUnique)
      (conflict "cutover_exception_evidence_invalid")
    pure (issue ++ [issueEvidence rt L.manifest entry source .EFFECT_REVIEW
      (some ⟨effect.id, effect.batchId, reviewFingerprint rt effect record, effect.reason⟩)])

/-- Evidences in the order of their keys and kinds. -/
def sortEvidence (evidences : List CutoverExceptionEvidence) : List CutoverExceptionEvidence :=
  evidences.insertionSort fun a b => pair a.sourceKey a.kind ≤ pair b.sourceKey b.kind

def expectedEvidence : Outcome (List CutoverExceptionEvidence) := do
  let batchIds := (reviewEffects L).filterMap CutoverEffect.batchId
  let records := ingestedOf L batchIds
  require ((records.filterMap IngestedRecord.reviewItem).length ≤ CUTOVER_ROW_LIMIT ∧
      records.length = (unique batchIds).length)
    (conflict "cutover_exception_evidence_invalid")
  let evidences ← L.manifest.inventory.mapM (entryEvidence rt L sources)
  require (∀ effect ∈ reviewEffects L, ∃ entry ∈ L.manifest.inventory, entry.key = effect.sourceKey)
    (conflict "cutover_exception_evidence_invalid")
  pure (sortEvidence evidences.flatten)

/-! ### What an observation covers -/

def validSources (row : StoredCutover) (sources : List CutoverObservedSource) : Bool :=
  sources.length = row.inventory.length ∧ (sources.map CutoverObservedSource.sourceKey).Nodup ∧
    ∀ source ∈ sources, (∃ entry ∈ row.inventory, entry.key = source.sourceKey) ∧
      if source.present then source.fingerprint.isSome ∧ source.originalArrivedAt.isSome
      else source.fingerprint = none ∧ source.originalArrivedAt = none

def validObservation (row : StoredCutover) : Bool :=
  row.exceptionObservation.any fun o =>
    row.observedAt = some o.observedAt ∧ o.observedManifestVersion ≤ row.version ∧
      o.bindingSha256 = cutoverExceptionBindingHash rt row ∧
      row.headerSha256 = some o.headerSha256 ∧ validSources row o.sources ∧
      o.sourceEvidenceSha256 =
        cutoverTrueObservationHash rt o.bindingSha256 o.headerSha256 o.sources

def validCase (item : CutoverExceptionCase) (evidence : CutoverExceptionEvidence) : Bool :=
  item.sourceKey = evidence.sourceKey ∧ item.kind = evidence.kind ∧
    item.evidenceSha256 = cutoverExceptionEvidenceHash rt evidence ∧
    cutoverExceptionEvidenceHash rt item.evidence = item.evidenceSha256 ∧
    if evidence.source.present then
      item.observedPayload.any fun payload =>
        evidence.source.fingerprint = some (cutoverHash rt payload.json)
    else item.observedPayload.isNone

/-- A current exception: its case, what was disposed of it, and whether the source has been
read since. -/
structure CurrentException where
  item : CutoverExceptionCase
  disposition : Option CutoverExceptionDisposition
  requiresReobservation : Bool

structure CutoverExceptionState where
  coverageValid : Bool
  expectedCases : ℕ
  cases : List CurrentException

namespace CutoverExceptionState

variable (state : CutoverExceptionState)

/-- `unresolvedCases`: without a valid coverage nothing is resolved. -/
def unresolvedCases : ℕ :=
  if state.coverageValid then state.cases.countP fun c => c.disposition = none
  else state.expectedCases

def requiresReobservation : Bool :=
  !state.coverageValid || state.cases.any CurrentException.requiresReobservation

/-- `quarantinedKeys`: the sources whose exceptions are all disposed of. -/
def quarantinedKeys : List String :=
  (unique (state.cases.map fun c => c.item.sourceKey)).filter fun key =>
    ∀ c ∈ state.cases, c.item.sourceKey = key → c.disposition ≠ none

end CutoverExceptionState

/-- The current exception of an evidence, when its case is valid and what was disposed of it
is about this evidence. -/
def currentException (o : CutoverExceptionObservation) (evidence : CutoverExceptionEvidence) :
    Option CurrentException := do
  let reference ← o.cases.find? fun r => r.sourceKey = evidence.sourceKey ∧ r.kind = evidence.kind
  let item ← L.cases.findUnique (.id reference.caseId)
  guard (reference.evidenceSha256 = cutoverExceptionEvidenceHash rt evidence ∧
    validCase rt item evidence)
  let disposition := L.dispositions.findUnique (.caseId item.id)
  guard (∀ d ∈ disposition, d.evidenceSha256 = item.evidenceSha256)
  pure ⟨item, disposition,
    disposition.any fun d => o.observedManifestVersion ≤ d.decidedManifestVersion⟩

def rawExpectedCount : ℕ :=
  (L.manifest.inventory.countP fun entry => entry.issue.isSome) + (reviewEffects L).length

/-- `cutoverExceptionState`: exact coverage, or none. -/
def cutoverExceptionState : Outcome CutoverExceptionState :=
  let empty : CutoverExceptionState := ⟨false, rawExpectedCount L, []⟩
  match L.manifest.exceptionObservation with
  | none => pure empty
  | some o =>
    if ¬validObservation rt L.manifest then pure empty
    else do
      let expected ← expectedEvidence rt L o.sources
      if expected.length ≠ rawExpectedCount L ∨ o.cases.length ≠ expected.length ∨
          (unique (o.cases.map fun r => pair r.sourceKey r.kind)).length ≠ expected.length then
        pure empty
      else
        match expected.mapM (currentException rt L o) with
        | none => pure empty
        | some cases => pure ⟨true, rawExpectedCount L, cases⟩

def assertCutoverExceptions : Outcome CutoverExceptionState := do
  let state ← cutoverExceptionState rt L
  require (state.coverageValid ∧ state.requiresReobservation = false)
    (conflict "cutover_exception_observation_required")
  require (state.unresolvedCases = 0) (conflict "cutover_exception_disposition_required")
  pure state

/-! ### The journal -/

def orderedCases : List CutoverExceptionCase :=
  L.cases.rows.insertionSort fun a b =>
    pair a.sourceKey a.kind < pair b.sourceKey b.kind ∨
      pair a.sourceKey a.kind = pair b.sourceKey b.kind ∧ a.generation ≤ b.generation

/-- The payload a case of an evidence keeps: as it was just read, as an earlier case kept it, or
as the inventory did. -/
def payloadOf (inventory : List CutoverEntry) (existing : List CutoverExceptionCase)
    (rows : List SourceRow) (evidence : CutoverExceptionEvidence) : Option Payload :=
  ((rows.find? fun row => row.key = evidence.sourceKey).map SourceRow.payload).or
    (((existing.find? fun item => item.sourceKey = evidence.sourceKey ∧
        item.evidence.source.fingerprint = evidence.source.fingerprint).bind
        observedPayload).or
      ((inventory.find? fun entry => entry.key = evidence.sourceKey).bind fun entry =>
        if some entry.fingerprint = evidence.source.fingerprint then some entry.payload else none))

def casePayload (inventory : List CutoverEntry) (existing : List CutoverExceptionCase)
    (rows : List SourceRow) (evidence : CutoverExceptionEvidence) : Outcome (Option Payload) :=
  if evidence.source.present then do
    let payload ← demand (payloadOf inventory existing rows evidence)
      (conflict "cutover_exception_observation_required")
    require (evidence.source.fingerprint = some (cutoverHash rt payload.json))
      (conflict "cutover_exception_observation_required")
    pure (some payload)
  else pure none

def nextGeneration (existing : List CutoverExceptionCase) (evidence : CutoverExceptionEvidence) :
    ℕ :=
  1 + ((existing.filter fun item => item.sourceKey = evidence.sourceKey ∧
    item.kind = evidence.kind).map generation).foldl max 0

/-- The case the last observation named for an evidence, as long as it is valid. -/
def keptCase (previous : List CutoverExceptionReference) (existing : List CutoverExceptionCase)
    (evidence : CutoverExceptionEvidence) : Option CutoverExceptionCase := do
  let old ← previous.find? fun r => r.sourceKey = evidence.sourceKey ∧ r.kind = evidence.kind
  let item ← existing.find? fun item => item.id = old.caseId
  guard (validCase rt item evidence)
  pure item

def CutoverExceptionCase.reference (item : CutoverExceptionCase) : CutoverExceptionReference :=
  ⟨item.id, item.sourceKey, item.kind, item.evidenceSha256⟩

/-- The loop of `journal`: the case of each evidence, the one there is or a new one. -/
def journalCases (inventory : List CutoverEntry) (previous : List CutoverExceptionReference)
    (rows : List SourceRow) (caseId : ℕ → String) :
    List CutoverExceptionEvidence → List CutoverExceptionCase →
      Table CutoverExceptionCase keys →
      Outcome (List CutoverExceptionReference × Table CutoverExceptionCase keys)
  | [], _, stored => pure ([], stored)
  | evidence :: evidences, existing, stored =>
    match keptCase rt previous existing evidence with
    | some item => do
      let (references, stored) ← journalCases inventory previous rows caseId evidences existing
        stored
      pure (item.reference :: references, stored)
    | none => do
      let observedPayload ← casePayload rt inventory existing rows evidence
      let item : CutoverExceptionCase := {
        id := caseId stored.rows.length, sourceKey := evidence.sourceKey, kind := evidence.kind
        generation := nextGeneration existing evidence
        evidenceSha256 := cutoverExceptionEvidenceHash rt evidence, evidence, observedPayload }
      let stored ← insert stored item
      let (references, stored) ← journalCases inventory previous rows caseId evidences
        (existing ++ [item]) stored
      pure (item.reference :: references, stored)

variable (bytes : Ledger → ℕ)

def journal (L : Ledger) (observation : CutoverExceptionObservation) (rows : List SourceRow)
    (caseId : ℕ → String) : Outcome Ledger := do
  let expected ← expectedEvidence rt L observation.sources
  let previous := (L.manifest.exceptionObservation.map CutoverExceptionObservation.cases).getD []
  let (references, cases) ← journalCases rt L.manifest.inventory previous rows caseId expected
    (orderedCases L) L.cases
  let exceptionObservation := some { observation with cases := references }
  let L := { L with manifest := { L.manifest with exceptionObservation }, cases }
  assertCutoverJournalBounds bytes L
  pure L

def observeCutoverExceptions (L : Ledger) (values : SheetValues) (caseId : ℕ → String) :
    Outcome Ledger := do
  let headerSha256 ← demand L.manifest.headerSha256
    (conflict "cutover_exception_observation_required")
  let observedAt ← demand L.manifest.observedAt (conflict "cutover_exception_observation_required")
  let (sources, rows) ← cutoverTrueObservation rt L.manifest.contract values L.manifest.inventory
  let bindingSha256 := cutoverExceptionBindingHash rt L.manifest
  journal rt bytes L {
    bindingSha256, headerSha256
    sourceEvidenceSha256 := cutoverTrueObservationHash rt bindingSha256 headerSha256 sources
    observedAt, observedManifestVersion := L.manifest.version, sources, cases := [] } rows caseId

/-- `refreshCutoverExceptions`: the effects that wait for a review join the journal, on the
last reading of the source. -/
def refreshCutoverExceptions (L : Ledger) (caseId : ℕ → String) : Outcome Ledger :=
  match L.manifest.exceptionObservation with
  | none => .error (conflict "cutover_exception_observation_required")
  | some observation => do
    require (validObservation rt L.manifest) (conflict "cutover_exception_observation_required")
    journal rt bytes L observation [] caseId

end CrmYnov.Cutover
