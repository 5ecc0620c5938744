import CrmYnov.Base.Table
import CrmYnov.Platform.Runtime

/-!
# What imports store

The tables of confirmed imports: their batches and reports, the provenances of
the leads, and the lines that wait for a manual review.
-/

namespace CrmYnov.Ingestion

/-- A row of `ingestion_batches`. -/
structure IngestionBatchRow where
  (id idempotencyKey fingerprint profile assignmentMode actorId : String)
  totalCount : ℕ
  createdCount : ℕ := 0
  attachedCount : ℕ := 0
  reviewCount : ℕ := 0
  invalidCount : ℕ := 0

/-- The unique indexes of `ingestion_batches`. -/
inductive IngestionBatchRow.Key
  | id (value : String)
  | idempotencyKey (value : String)
deriving DecidableEq

def IngestionBatchRow.keys (b : IngestionBatchRow) : List IngestionBatchRow.Key :=
  [.id b.id, .idempotencyKey b.idempotencyKey]

/-- A line that an import did not take. -/
structure ImportRejection where
  lineNumber : ℤ
  (category reasonCode : String)

/-- A row of `import_reports`, with its rejections. -/
structure ImportReportRow where
  (id jobId batchId mappingId : String)
  mappingVersion : ℤ
  sourceFileSha256 : String
  (totalCount createdCount updatedCount ignoredCount duplicateCount errorCount : ℕ)
  rejections : List ImportRejection

/-- The unique indexes of `import_reports`. -/
inductive ImportReportRow.Key
  | id (value : String)
  | jobId (value : String)
  | batchId (value : String)
deriving DecidableEq

def ImportReportRow.keys (r : ImportReportRow) : List ImportReportRow.Key :=
  [.id r.id, .jobId r.jobId, .batchId r.batchId]

/-- A row of `lead_provenances`. -/
structure LeadProvenanceRow where
  (leadId batchId sourceType technicalSystem originalSource recentSource : String)
  (campaign externalId rawStatus submissionFingerprint : Option String)
  occurredAt : Option Instant

/-- An external identifier has one provenance in its system; a provenance without
one occupies no key. -/
def LeadProvenanceRow.keys (p : LeadProvenanceRow) : List (String × String) :=
  p.externalId.toList.map fun externalId => (p.technicalSystem, externalId)

/-- A row of `ingestion_review_items`. -/
structure IngestionReviewItemRow where
  batchId : String
  lineNumber : ℤ
  reasonCode : String
  leadId : Option String

def IngestionReviewItemRow.keys (i : IngestionReviewItemRow) : List (String × ℤ) :=
  [(i.batchId, i.lineNumber)]

end CrmYnov.Ingestion
