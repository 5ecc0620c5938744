import CrmYnov.Ingestion.Persistent
import CrmYnov.Ingestion.Service
import Mathlib.Data.List.Perm.Basic

/-!
# What an ingestion counts

The result of a batch gives a number for each outcome, and these numbers add up to
the lines of the batch: every line has one outcome, whatever branch it left the
loop by. In the memory of a process the result is kept under the key of the batch
(`CrmYnov.Ingestion.Ingested`); in the database it is the row of the batch that is
kept, with a report, and it is read back from them (`CrmYnov.Ingestion.Confirmed`).

The two services part where a key comes back with another content. An import that
is confirmed compares the fingerprint of what comes back with the stored one, and refuses
it. The memory keeps no fingerprint: it answers with the result of the batch it
knows, so that its accounts are right exactly for the calls that do not bring
another content under a known key
(`CrmYnov.Ingestion.accounting_iff`).
-/

namespace CrmYnov.Ingestion

open Checked Leads References Table IngestionRecordInput CrmYnov.Runtime List

/-! ### Every line has one outcome -/

theorem length_eq_countOutcome (lines : List IngestionLineResult) :
    lines.length = countOutcome lines .CREATED + countOutcome lines .PROVENANCE_ATTACHED +
      countOutcome lines .MANUAL_REVIEW + countOutcome lines .INVALID := by
  induction lines with
  | nil => rfl
  | cons line lines ih =>
    simp only [countOutcome, countP_cons, length_cons, decide_eq_true_eq] at ih ⊢
    cases line.outcome <;> simp <;> omega

theorem length_eq_countLines (lines : List Line) :
    lines.length = countLines lines .CREATED + countLines lines .ATTACHED +
      countLines lines .MANUAL_REVIEW + countLines lines .INVALID + countLines lines .IGNORED := by
  induction lines with
  | nil => rfl
  | cons line lines ih =>
    simp only [countLines, countP_cons, length_cons, decide_eq_true_eq] at ih ⊢
    cases line.outcome <;> simp <;> omega

/-! ### In the memory of a process -/

variable {leadId : String}

section Memory

variable {rt : Runtime} {s s' : Store} {record : IngestionRecordInput}
  {input : IngestionBatchInput} {principal : Principal} {correlationId batchId : String}

/-- **The accounts of a batch**: its lines are those of its records, each number
counts the lines of one outcome, and the numbers add up. -/
structure IngestionBatchResult.Balanced (result : IngestionBatchResult)
    (input : IngestionBatchInput) : Prop where
  numbers : result.lines.map IngestionLineResult.lineNumber =
    input.records.map lineNumber
  counts : result.total = result.lines.length ∧
    result.created = countOutcome result.lines .CREATED ∧
    result.attached = countOutcome result.lines .PROVENANCE_ATTACHED ∧
    result.manualReview = countOutcome result.lines .MANUAL_REVIEW ∧
    result.invalid = countOutcome result.lines .INVALID
  total : result.total =
    result.created + result.attached + result.manualReview + result.invalid
  assigned : result.assigned + result.unassigned = result.created

theorem attachProvenance_batches {externalKey : Option String} {o : LineOccasion}
    (h : attachProvenance rt s leadId record batchId externalKey principal correlationId o =
      .ok s') : s'.batches = s.batches := by
  unfold attachProvenance at h
  split at h
  · rw [← pure_ok_iff.mp h]
  · simp only [ok_iff] at h
    obtain ⟨_, -, _, -, rfl⟩ := h
    rfl

theorem ingestOne_line {o : LineOccasion} {line : IngestionLineResult}
    (h : ingestOne rt s record batchId principal correlationId o = .ok (line, s')) :
    line.lineNumber = record.lineNumber ∧ s'.batches = s.batches := by
  have hrefused : ∀ {outcome : IngestionOutcome} {reason leadId : Option String},
      (pure (⟨record.lineNumber, outcome, reason, leadId⟩, s) :
        Outcome (IngestionLineResult × Store)) = .ok (line, s') →
      line.lineNumber = record.lineNumber ∧ s'.batches = s.batches := by
    intro outcome reason leadId hpure
    cases hpure
    exact ⟨rfl, rfl⟩
  unfold ingestOne at h
  split at h
  · exact hrefused h
  · dsimp only at h
    split at h
    · exact hrefused h
    split at h
    · exact hrefused h
    split at h
    · exact hrefused h
    split at h
    · -- a record that leads to a lead is attached to it
      simp only [ok_iff] at h
      obtain ⟨s₁, hattach, rfl, rfl⟩ := h
      exact ⟨rfl, attachProvenance_batches hattach⟩
    · split at h
      · exact hrefused h
      · simp only [ok_iff] at h
        obtain ⟨s₁, hattach, rfl, rfl⟩ := h
        have hbatches := attachProvenance_batches hattach
        exact ⟨rfl, hbatches⟩

theorem assignCreated_batches {o : LineOccasion} :
    (assignCreated s leadId record input principal correlationId o).2.batches = s.batches := by
  unfold assignCreated
  split
  · rfl
  · dsimp only
    split <;> rfl

theorem ingestRecord_line {o : BatchOccasion} {line : IngestionLineResult × Bool}
    (h : ingestRecord rt s input record principal correlationId o = .ok (line, s')) :
    line.1.lineNumber = record.lineNumber ∧ s'.batches = s.batches ∧
      (line.2 = true → line.1.outcome = .CREATED) := by
  simp only [ingestRecord, bind_ok_iff] at h
  obtain ⟨⟨result, s₁⟩, hone, h⟩ := h
  obtain ⟨hnumber, hbatches⟩ := ingestOne_line hone
  split at h
  · rename_i leadId hcreated
    cases h
    refine ⟨hnumber, assignCreated_batches.trans hbatches, fun _ => ?_⟩
    by_contra hother
    rw [if_neg fun hc => hother hc.1] at hcreated
    cases hcreated
  · cases h
    exact ⟨hnumber, hbatches, fun ha => by cases ha⟩

theorem ingestRecords_lines {o : BatchOccasion} {records : List IngestionRecordInput}
    {lines : List (IngestionLineResult × Bool)}
    (h : ingestRecords rt input principal correlationId o s records = .ok (lines, s')) :
    (lines.map Prod.fst).map IngestionLineResult.lineNumber = records.map lineNumber ∧
      s'.batches = s.batches ∧ ∀ line ∈ lines, line.2 = true → line.1.outcome = .CREATED := by
  induction records generalizing s lines with
  | nil =>
    cases h
    exact ⟨rfl, rfl, by simp⟩
  | cons record records ih =>
    simp only [ingestRecords, ok_iff] at h
    obtain ⟨⟨line, s₁⟩, hrecord, ⟨rest, s₂⟩, hrest, rfl, rfl⟩ := h
    obtain ⟨hnumber, hbatches, hassigned⟩ := ingestRecord_line hrecord
    obtain ⟨hnumbers, hbatches', hassigned'⟩ := ih hrest
    refine ⟨?_, hbatches'.trans hbatches, ?_⟩
    · simp only [map_cons, hnumber, hnumbers]
    · intro l hl
      rcases mem_cons.mp hl with rfl | hl
      · exact hassigned
      · exact hassigned' l hl

/-- **The accounts of a new batch are balanced.** -/
theorem balanced_batchResult {o : BatchOccasion} {lines : List (IngestionLineResult × Bool)}
    (h : ingestRecords rt input principal correlationId o s input.records = .ok (lines, s')) :
    (batchResult input o.batchId lines).Balanced input := by
  obtain ⟨hnumbers, -, hassigned⟩ := ingestRecords_lines h
  have hle : lines.countP Prod.snd ≤ countOutcome (lines.map Prod.fst) .CREATED := by
    rw [countOutcome, countP_map]
    refine countP_mono_left fun line hline htrue => ?_
    simpa using hassigned line hline htrue
  refine ⟨hnumbers, ⟨rfl, rfl, rfl, rfl, rfl⟩, length_eq_countOutcome _, ?_⟩
  simp only [batchResult]
  omega

/-- The states the memory reaches, with the calls it took. What else works on the
leads, a call that failed included, leaves the batches alone. -/
inductive Ingested (rt : Runtime) :
    List (IngestionBatchInput × IngestionBatchResult) → Store → Prop
  | start {s : Store} (h : s.batches = .empty) : Ingested rt [] s
  | elsewhere {calls : List (IngestionBatchInput × IngestionBatchResult)} {s s' : Store}
      (h : Ingested rt calls s) (hbatches : s'.batches = s.batches) : Ingested rt calls s'
  | ingest {calls : List (IngestionBatchInput × IngestionBatchResult)} {s s' : Store}
      {input : IngestionBatchInput} {principal : Principal} {correlationId : String}
      {o : BatchOccasion} {result : IngestionBatchResult} (h : Ingested rt calls s)
      (hcall : ingest rt s input principal correlationId o = .ok (result, s')) :
      Ingested rt (calls ++ [(input, result)]) s'

theorem ingest_ok_iff {o : BatchOccasion} {result : IngestionBatchResult} :
    ingest rt s input principal correlationId o = .ok (result, s') ↔
      assertRole principal = .ok () ∧ validateBatch input = .ok () ∧
        ((s.batches.get input.idempotencyKey = some result ∧ s = s') ∨
          (s.batches.get input.idempotencyKey = none ∧ ∃ lines s₁,
            ingestRecords rt input principal correlationId o s input.records = .ok (lines, s₁) ∧
            result = batchResult input o.batchId lines ∧
            s' = { s₁ with batches := s₁.batches.set input.idempotencyKey result })) := by
  simp only [ingest, bind_ok_iff]
  constructor
  · rintro ⟨⟨⟩, hrole, ⟨⟩, hvalid, h⟩
    refine ⟨hrole, hvalid, ?_⟩
    split at h
    · rename_i previous hprev
      cases h
      exact .inl ⟨hprev, rfl⟩
    · rename_i hnone
      simp only [ok_iff] at h
      obtain ⟨⟨lines, s₁⟩, hlines, rfl, rfl⟩ := h
      exact .inr ⟨hnone, lines, s₁, hlines, rfl, rfl⟩
  · rintro ⟨hrole, hvalid, h⟩
    refine ⟨(), hrole, (), hvalid, ?_⟩
    rcases h with ⟨hprev, rfl⟩ | ⟨hnone, lines, s₁, hlines, rfl, rfl⟩
    · rw [hprev]
      rfl
    · rw [hnone]
      simp only [hlines, ok_bind]
      rfl

/-- What is kept of the calls: a key leads to the result all its calls were given,
and this result is the balance of the first of them. -/
structure Kept (calls : List (IngestionBatchInput × IngestionBatchResult)) (s : Store) :
    Prop where
  known : ∀ call ∈ calls, s.batches.get call.1.idempotencyKey = some call.2 ∧
    validateBatch call.1 = .ok ()
  first : ∀ key result, s.batches.get key = some result →
    ∃ call ∈ calls, call.1.idempotencyKey = key ∧ call.2 = result ∧ result.Balanced call.1

theorem kept_of_ingested {calls : List (IngestionBatchInput × IngestionBatchResult)}
    (h : Ingested rt calls s) : Kept calls s := by
  induction h with
  | start h => exact ⟨by simp, fun key result hr => by rw [h] at hr; simp at hr⟩
  | elsewhere _ hbatches ih =>
    refine ⟨fun call hc => ?_, fun key result hr => ih.first key result (hbatches ▸ hr)⟩
    rw [hbatches]
    exact ih.known call hc
  | @ingest calls s s' input principal correlationId o result _ hcall ih =>
    obtain ⟨-, hvalid, ⟨hprev, rfl⟩ | ⟨hnone, lines, s₁, hlines, rfl, rfl⟩⟩ :=
      ingest_ok_iff.mp hcall
    · refine ⟨fun call hc => ?_, fun key result hr => ?_⟩
      · rcases mem_append.mp hc with hc | hc
        · exact ih.known call hc
        · obtain rfl := mem_singleton.mp hc
          exact ⟨hprev, hvalid⟩
      · obtain ⟨call, hc, hrest⟩ := ih.first key result hr
        exact ⟨call, mem_append_left _ hc, hrest⟩
    · obtain ⟨-, hbatches, -⟩ := ingestRecords_lines hlines
      refine ⟨fun call hc => ?_, fun key result hr => ?_⟩
      · rcases mem_append.mp hc with hc | hc
        · obtain ⟨hget, hv⟩ := ih.known call hc
          -- the key of the new batch was not known, so it is another one
          have hne : call.1.idempotencyKey ≠ input.idempotencyKey := by
            intro heq
            rw [heq, hnone] at hget
            cases hget
          exact ⟨(Dict.get_set_of_ne _ _ hne).trans ((congrArg (Dict.get · _) hbatches).trans hget),
            hv⟩
        · obtain rfl := mem_singleton.mp hc
          exact ⟨Dict.get_set_self _ _ _, hvalid⟩
      · by_cases heq : key = input.idempotencyKey
        · subst heq
          obtain rfl := Option.some.inj ((Dict.get_set_self _ _ _).symm.trans hr)
          exact ⟨_, mem_append_right _ (mem_singleton_self _), rfl, rfl,
            balanced_batchResult hlines⟩
        · have hget : s.batches.get key = some result := by
            rw [← hbatches]
            exact (Dict.get_set_of_ne _ _ heq).symm.trans hr
          obtain ⟨call, hc, hrest⟩ := ih.first key result hget
          exact ⟨call, mem_append_left _ hc, hrest⟩

/-- **A call whose accounts are right**: what it returns is balanced; it is given
the result of a call with its key and its content, and nothing happens; and it is
refused when its key comes with another content. -/
structure Faithful (rt : Runtime) (calls : List (IngestionBatchInput × IngestionBatchResult))
    (s : Store) (input : IngestionBatchInput) (principal : Principal) (correlationId : String)
    (o : BatchOccasion) : Prop where
  counted : ∀ result s', ingest rt s input principal correlationId o = .ok (result, s') →
    result.Balanced input
  replayed : ∀ call ∈ calls, call.1 = input → assertRole principal = .ok () →
    ingest rt s input principal correlationId o = .ok (call.2, s)
  refused : ∀ call ∈ calls, call.1.idempotencyKey = input.idempotencyKey → call.1 ≠ input →
    Refused (ingest rt s input principal correlationId o)

/-- The call is not one that the service takes with a key it knows under another
content. -/
def KeepsContent (calls : List (IngestionBatchInput × IngestionBatchResult))
    (input : IngestionBatchInput) (principal : Principal) : Prop :=
  assertRole principal = .ok () → validateBatch input = .ok () →
    ∀ call ∈ calls, call.1.idempotencyKey = input.idempotencyKey → call.1 = input

/-- **The memory keeps right accounts exactly of the calls that keep their
content.** -/
theorem faithful_iff {calls : List (IngestionBatchInput × IngestionBatchResult)}
    {o : BatchOccasion} (h : Ingested rt calls s) :
    Faithful rt calls s input principal correlationId o ↔ KeepsContent calls input principal := by
  have hkept := kept_of_ingested h
  have hreplay : ∀ call ∈ calls, call.1.idempotencyKey = input.idempotencyKey →
      assertRole principal = .ok () → validateBatch input = .ok () →
      ingest rt s input principal correlationId o = .ok (call.2, s) := by
    intro call hc heq hrole hvalid
    refine ingest_ok_iff.mpr ⟨hrole, hvalid, .inl ⟨?_, rfl⟩⟩
    rw [← heq]
    exact (hkept.known call hc).1
  constructor
  · intro hfaithful hrole hvalid call hc heq
    by_contra hne
    refine absurd (hfaithful.refused call hc heq hne) ?_
    rw [hreplay call hc heq hrole hvalid]
    exact not_refused_ok
  · intro hkeeps
    refine ⟨fun result s' hok => ?_, fun call hc heq hrole => ?_, fun call hc heq hne => ?_⟩
    · obtain ⟨hrole, hvalid, ⟨hprev, rfl⟩ | ⟨hnone, lines, s₁, hlines, rfl, rfl⟩⟩ :=
        ingest_ok_iff.mp hok
      · obtain ⟨call, hc, hkey, -, hbalanced⟩ := hkept.first _ _ hprev
        rwa [hkeeps hrole hvalid call hc hkey] at hbalanced
      · exact balanced_batchResult hlines
    · subst heq
      exact hreplay call hc rfl hrole (hkept.known call hc).2
    · refine refused_iff.mpr fun r hok => hne ?_
      obtain ⟨hrole, hvalid, -⟩ := ingest_ok_iff.mp hok
      exact hkeeps hrole hvalid call hc heq

end Memory

/-! ### In the database -/

section Confirmations

variable {rt : Runtime} {db db' : Database} {record : IngestionRecordInput}
  {input : ConfirmPersistentImportInput} {principal : Principal} {correlationId batchId : String}

/-- The tables of the batches and of the reports are the same. -/
structure SameBatches (db db' : Database) : Prop where
  batches : db'.ingestionBatches = db.ingestionBatches
  reports : db'.importReports = db.importReports

theorem SameBatches.refl (db : Database) : SameBatches db db := ⟨rfl, rfl⟩

theorem SameBatches.trans {db'' : Database} (h : SameBatches db db') (h' : SameBatches db' db'') :
    SameBatches db db'' := ⟨h'.batches.trans h.batches, h'.reports.trans h.reports⟩

theorem addImportActivity_batches {leadId result authorId id : String} {type : ActivityType}
    {occurredAt : Instant}
    (h : addImportActivity db leadId type result authorId correlationId id occurredAt = .ok db') :
    SameBatches db db' := by
  obtain ⟨_, -, rfl⟩ := Database.addActivity_ok_iff.mp h
  exact ⟨rfl, rfl⟩

theorem addProvenance_batches (h : addProvenance rt db batchId leadId record = .ok db') :
    SameBatches db db' := by
  simp only [addProvenance, ok_iff] at h
  obtain ⟨_, -, rfl⟩ := h
  exact ⟨rfl, rfl⟩

variable {o : PersistentLineOccasion}

theorem appendHistoricalActivities_batches
    (h : appendHistoricalActivities rt db leadId record correlationId o = .ok db') :
    SameBatches db db' := by
  refine foldlM_keeps (I := SameBatches db) (fun e _ db₁ db₂ hsame hstep => ?_) (.refl db) h
  simp only [bind_ok_iff] at hstep
  obtain ⟨_, -, hactivity⟩ := hstep
  exact hsame.trans (addImportActivity_batches hactivity)

/-- A line has the number of its record, and the batches and reports are left as
they are. -/
def KeepsLine (db : Database) (record : IngestionRecordInput) (line : Line)
    (db' : Database) : Prop :=
  line.lineNumber = record.lineNumber ∧ SameBatches db db'

variable {line : Line}

theorem review_keeps {reason : ReviewReason} {leadId : Option String}
    (h : review db batchId record.lineNumber reason leadId = .ok (line, db')) :
    KeepsLine db record line db' := by
  simp only [review, ok_iff] at h
  obtain ⟨_, -, rfl, rfl⟩ := h
  exact ⟨rfl, rfl, rfl⟩

theorem replayCanonicalSubmission_keeps {external : LeadProvenanceRow}
    (h : replayCanonicalSubmission rt db batchId record external = .ok (line, db')) :
    KeepsLine db record line db' := by
  unfold replayCanonicalSubmission at h
  split at h
  · exact review_keeps h
  · cases h
    exact ⟨rfl, .refl db⟩

theorem attachMatch_keeps {leadId actorId : String} {ignored provenanceExists : Bool}
    (h : attachMatch rt db batchId leadId record ignored provenanceExists actorId correlationId o =
      .ok (line, db')) : KeepsLine db record line db' := by
  cases provenanceExists with
  | true =>
    simp only [attachMatch, if_true, ok_iff] at h
    obtain ⟨_, rfl, db₁, hactivity, rfl, rfl⟩ := h
    exact ⟨rfl, addImportActivity_batches hactivity⟩
  | false =>
    simp only [attachMatch, Bool.false_eq_true, if_false, ok_iff] at h
    obtain ⟨db₁, hprov, db₂, hactivity, rfl, rfl⟩ := h
    exact ⟨rfl, (addProvenance_batches hprov).trans (addImportActivity_batches hactivity)⟩

theorem createLead_keeps {status : LeadStatus}
    (h : createLead rt db batchId record input status principal correlationId o = .ok (line, db')) :
    KeepsLine db record line db' := by
  simp only [createLead, bind_ok_iff] at h
  obtain ⟨campus, -, selection, -, h⟩ := h
  split at h
  · cases h
    exact ⟨rfl, .refl db⟩
  · simp only [ok_iff, Database.audit_ok_iff] at h
    obtain ⟨leads, -, db₁, hactivity, db₂, hprov, db₃, hhistorical, db₄, ⟨_, -, rfl⟩, rfl,
      rfl⟩ := h
    have hlead : SameBatches db { db with leads } := ⟨rfl, rfl⟩
    have hsame := ((hlead.trans (addImportActivity_batches hactivity)).trans
      (addProvenance_batches hprov)).trans (appendHistoricalActivities_batches hhistorical)
    exact ⟨rfl, hsame.batches, hsame.reports⟩

theorem persistNewLead_keeps {status : LeadStatus}
    (h : persistNewLead rt db batchId record input status principal correlationId o =
      .ok (line, db')) : KeepsLine db record line db' := by
  unfold persistNewLead at h
  dsimp only at h
  split at h
  · exact review_keeps h
  · simp only [bind_ok_iff] at h
    obtain ⟨references, -, h⟩ := h
    -- the codes of the references leave the number of the record alone
    have hkeeps := createLead_keeps h
    exact hkeeps

theorem persistLine_keeps
    (h : persistLine rt db batchId record input principal correlationId o = .ok (line, db')) :
    KeepsLine db record line db' := by
  unfold persistLine at h
  split at h
  · cases h
    exact ⟨rfl, .refl db⟩
  · dsimp only at h
    split at h
    · exact review_keeps h
    split at h
    · exact replayCanonicalSubmission_keeps h
    · split at h
      · exact review_keeps h
      · exact review_keeps h
      · split at h
        · exact review_keeps h
        split at h
        · exact attachMatch_keeps h
        · split at h
          · exact review_keeps h
          · exact persistNewLead_keeps h
        · exact review_keeps h

/-- The loop has one line for each record, and leaves the batches and the reports
alone. -/
theorem persistLines_keeps {o : ConfirmOccasion} {records : List IngestionRecordInput}
    {lines : List Line}
    (h : persistLines rt input principal correlationId o db records = .ok (lines, db')) :
    lines.map Line.lineNumber = records.map lineNumber ∧ SameBatches db db' := by
  induction records generalizing db lines with
  | nil =>
    obtain ⟨rfl, rfl⟩ := Prod.mk.inj (pure_ok_iff.mp h)
    exact ⟨rfl, .refl db⟩
  | cons record records ih =>
    simp only [persistLines, ok_iff] at h
    obtain ⟨_, -, ⟨line, db₁⟩, hline, ⟨rest, db₂⟩, hrest, rfl, rfl⟩ := h
    obtain ⟨hnumber, hsame⟩ := persistLine_keeps hline
    obtain ⟨hnumbers, hsame'⟩ := ih hrest
    refine ⟨?_, hsame.trans hsame'⟩
    rw [map_cons, map_cons, hnumber, hnumbers]

/-! ### Confirmed imports and their replays -/

/-- **The accounts of a confirmed import**: a line for each record, numbers that
count the lines of one outcome in the result as in the report, and a report that
names the lines it did not take. -/
structure Accounts (input : ConfirmPersistentImportInput) (lines : List Line)
    (result : PersistentImportResult) (report : ImportReportRow) : Prop where
  numbers : (lines.map Line.lineNumber).Perm
    (input.records.map lineNumber)
  counts : result.total = lines.length ∧ result.created = countLines lines .CREATED ∧
    result.attached = countLines lines .ATTACHED ∧
    result.manualReview = countLines lines .MANUAL_REVIEW ∧
    result.invalid = countLines lines .INVALID
  total : result.total = result.created + result.attached + result.manualReview +
    result.invalid + report.ignoredCount
  totals : report.totalCount = lines.length ∧ report.createdCount = countLines lines .CREATED ∧
    report.duplicateCount = countLines lines .ATTACHED ∧
    report.ignoredCount = countLines lines .IGNORED ∧
    report.errorCount = countLines lines .MANUAL_REVIEW + countLines lines .INVALID
  rejections : report.rejections.map ImportRejection.lineNumber =
    (lines.filter fun line => line.outcome = .MANUAL_REVIEW ∨ line.outcome = .INVALID).map
      Line.lineNumber

def readBack (batch : IngestionBatchRow) (report : ImportReportRow) : PersistentImportResult where
  batchId := batch.id
  reportId := report.id
  idempotencyKey := batch.idempotencyKey
  total := batch.totalCount
  created := batch.createdCount
  attached := batch.attachedCount
  manualReview := batch.reviewCount
  invalid := batch.invalidCount
  replayed := true

/-- The result of a first confirmation, and the one a later call is given. -/
def PersistentImportResult.again (result : PersistentImportResult) : PersistentImportResult :=
  { result with replayed := true }

/-- The canonical text of an import, whose digest is its fingerprint. -/
def importText (input : ConfirmPersistentImportInput) : String :=
  importFingerprint plain input

theorem importFingerprint_eq : importFingerprint rt input = rt.sha256 (importText input) := rfl

theorem ImportReportRow.mem_keys_batchId {report : ImportReportRow} {id : String} :
    .batchId id ∈ report.keys ↔ report.batchId = id := by
  simp [ImportReportRow.keys, eq_comm]

variable {batch : IngestionBatchRow}

theorem IngestionBatchRow.mem_keys_idempotencyKey {key : String} :
    .idempotencyKey key ∈ batch.keys ↔ batch.idempotencyKey = key := by
  simp [IngestionBatchRow.keys, eq_comm]

theorem IngestionBatchRow.mem_keys_id {id : String} :
    .id id ∈ batch.keys ↔ batch.id = id := by
  simp [IngestionBatchRow.keys, eq_comm]

variable {result : PersistentImportResult}

theorem replay_ok_iff {fingerprint : String} :
    replay db batch fingerprint = .ok result ↔ batch.fingerprint = fingerprint ∧
      ∃ report ∈ db.importReports.rows, report.batchId = batch.id ∧
        readBack batch report = result := by
  simp only [replay, ok_iff, findUnique_eq_some, ImportReportRow.mem_keys_batchId]
  constructor
  · rintro ⟨_, hprint, report, ⟨hmem, hbatch⟩, rfl⟩
    exact ⟨hprint, report, hmem, hbatch, rfl⟩
  · rintro ⟨hprint, report, hmem, hbatch, rfl⟩
    exact ⟨(), hprint, report, ⟨hmem, hbatch⟩, rfl⟩

theorem confirm_ok_iff {o : ConfirmOccasion} :
    confirm rt db input principal correlationId o = .ok (result, db') ↔
      assertAllowed input principal = .ok () ∧
        ((∃ batch ∈ db.ingestionBatches.rows, batch.idempotencyKey = input.idempotencyKey ∧
            replay db batch (importFingerprint rt input) = .ok result ∧ db = db') ∨
          (db.ingestionBatches.findUnique (.idempotencyKey input.idempotencyKey) = none ∧
            ∃ lines, execute rt db input principal correlationId o =
              .ok ((result, lines), db'))) := by
  simp only [confirm, bind_ok_iff]
  constructor
  · rintro ⟨⟨⟩, hallow, h⟩
    refine ⟨hallow, ?_⟩
    split at h
    · rename_i batch hbatch
      obtain ⟨hmem, hkey⟩ := findUnique_eq_some.mp hbatch
      simp only [ok_iff] at h
      obtain ⟨_, hreplay, rfl, rfl⟩ := h
      exact .inl ⟨batch, hmem, IngestionBatchRow.mem_keys_idempotencyKey.mp hkey, hreplay, rfl⟩
    · rename_i hnone
      simp only [ok_iff] at h
      obtain ⟨⟨⟨_, lines⟩, _⟩, hexecute, rfl, rfl⟩ := h
      exact .inr ⟨hnone, lines, hexecute⟩
  · rintro ⟨hallow, h⟩
    refine ⟨(), hallow, ?_⟩
    rcases h with ⟨batch, hmem, hkey, hreplay, rfl⟩ | ⟨hnone, lines, hexecute⟩
    · rw [findUnique_of_mem hmem (IngestionBatchRow.mem_keys_idempotencyKey.mpr hkey)]
      simp only [hreplay, ok_bind]
      rfl
    · rw [hnone]
      simp only [hexecute, ok_bind]
      rfl

theorem execute_ok {o : ConfirmOccasion} {lines : List Line}
    (h : execute rt db input principal correlationId o = .ok ((result, lines), db')) :
    Accounts input lines result (importReport input o lines) ∧
      (∀ batch, batch ∈ db'.ingestionBatches.rows ↔ (batch ∈ db.ingestionBatches.rows ∨
          batch = (newBatch rt input principal o.batchId).withCounts lines)) ∧
      (∀ report, report ∈ db'.importReports.rows ↔
        (report ∈ db.importReports.rows ∨ report = importReport input o lines)) ∧ result.again =
        readBack ((newBatch rt input principal o.batchId).withCounts lines)
          (importReport input o lines) := by
  simp only [execute, ok_iff, insert_ok_iff] at h
  obtain ⟨batches, hcreate, ⟨lines', db₁⟩, hlines, reports, hreport, ⟨rfl, rfl⟩, rfl⟩ := h
  obtain ⟨hnumbers, hsame⟩ := persistLines_keeps hlines
  have hperm : (lines'.map Line.lineNumber).Perm
      (input.records.map lineNumber) := by
    rw [hnumbers]
    exact (perm_insertionSort _ _).map _
  refine ⟨⟨hperm, ⟨rfl, rfl, rfl, rfl, rfl⟩, ?_, ⟨rfl, rfl, rfl, rfl, rfl⟩, ?_⟩, fun batch => ?_,
    fun report => ?_, ?_⟩
  · exact length_eq_countLines lines'
  · exact map_map
  · have hrows : db₁.ingestionBatches = batches := hsame.batches
    -- the identifier of the batch is new, so that no other batch is given the counts
    have hother : ∀ b ∈ db.ingestionBatches.rows, b.id ≠ o.batchId := by
      intro b hb hid
      have hfree := findUnique_of_create hcreate (k := .id o.batchId)
        (by simp [IngestionBatchRow.keys, newBatch])
      exact findUnique_eq_none.mp hfree b hb (IngestionBatchRow.mem_keys_id.mpr hid)
    rw [mem_updateMany, hrows]
    constructor
    · rintro ⟨b, hb, rfl⟩
      rcases (mem_create hcreate).mp hb with hb | rfl
      · exact .inl (by rwa [if_neg (hother b hb)])
      · exact .inr (if_pos rfl)
    · rintro (hb | rfl)
      · exact ⟨batch, (mem_create hcreate).mpr (.inl hb), if_neg (hother batch hb)⟩
      · exact ⟨_, (mem_create hcreate).mpr (.inr rfl), if_pos rfl⟩
  · rw [mem_create hreport, hsame.reports]
  · -- the batch was given the number of its records before it had lines
    have hlen : lines'.length = input.records.length := by
      simpa using hperm.length_eq
    simp only [PersistentImportResult.again, readBack, IngestionBatchRow.withCounts, newBatch,
      importReport, hlen]

/-- The states the database reaches, with the imports that were confirmed. What
else is written leaves the batches and the reports alone. -/
inductive Confirmed (rt : Runtime) :
    List (ConfirmPersistentImportInput × PersistentImportResult) → Database → Prop
  | start {db : Database} (hbatches : db.ingestionBatches = .empty)
      (hreports : db.importReports = .empty) : Confirmed rt [] db
  | elsewhere {calls : List (ConfirmPersistentImportInput × PersistentImportResult)}
      {db db' : Database} (h : Confirmed rt calls db) (hsame : SameBatches db db') :
      Confirmed rt calls db'
  | confirm {calls : List (ConfirmPersistentImportInput × PersistentImportResult)}
      {db db' : Database} {input : ConfirmPersistentImportInput} {principal : Principal}
      {correlationId : String} {o : ConfirmOccasion} {result : PersistentImportResult}
      (h : Confirmed rt calls db)
      (hcall : confirm rt db input principal correlationId o = .ok (result, db')) :
      Confirmed rt (calls ++ [(input, result)]) db'

structure Records (rt : Runtime) (db : Database) (batch : IngestionBatchRow)
    (report : ImportReportRow) (call : ConfirmPersistentImportInput × PersistentImportResult) :
    Prop where
  stored : batch ∈ db.ingestionBatches.rows
  reported : report ∈ db.importReports.rows
  ofBatch : report.batchId = batch.id
  key : batch.idempotencyKey = call.1.idempotencyKey
  fingerprint : batch.fingerprint = importFingerprint rt call.1
  result : call.2.again = readBack batch report

theorem Records.mono {report : ImportReportRow}
    {call : ConfirmPersistentImportInput × PersistentImportResult}
    (hbatches : ∀ b ∈ db.ingestionBatches.rows, b ∈ db'.ingestionBatches.rows)
    (hreports : ∀ r ∈ db.importReports.rows, r ∈ db'.importReports.rows)
    (h : Records rt db batch report call) : Records rt db' batch report call :=
  { h with stored := hbatches _ h.stored, reported := hreports _ h.reported }

/-- What is kept of the calls: each has its batch and its report, and each batch is
that of a call whose accounts it gives. -/
structure Recorded (rt : Runtime)
    (calls : List (ConfirmPersistentImportInput × PersistentImportResult)) (db : Database) :
    Prop where
  known : ∀ call ∈ calls, ∃ batch report, Records rt db batch report call
  first : ∀ batch ∈ db.ingestionBatches.rows, ∃ call ∈ calls, ∃ report lines,
    Records rt db batch report call ∧ Accounts call.1 lines (readBack batch report) report

theorem recorded_of_confirmed {calls : List (ConfirmPersistentImportInput × PersistentImportResult)}
    (h : Confirmed rt calls db) : Recorded rt calls db := by
  induction h with
  | start hbatches _ =>
    exact ⟨by simp, fun batch hb => absurd (hbatches ▸ hb) not_mem_nil⟩
  | @elsewhere calls db db' _ hsame ih =>
    have hmono : ∀ {batch report call}, Records rt db batch report call →
        Records rt db' batch report call := fun h =>
      h.mono (by rw [hsame.batches]; exact fun _ h => h) (by rw [hsame.reports]; exact fun _ h => h)
    refine ⟨fun call hc => ?_, fun batch hb => ?_⟩
    · obtain ⟨batch, report, hrecords⟩ := ih.known call hc
      exact ⟨batch, report, hmono hrecords⟩
    · rw [hsame.batches] at hb
      obtain ⟨call, hc, report, lines, hrecords, haccounts⟩ := ih.first batch hb
      exact ⟨call, hc, report, lines, hmono hrecords, haccounts⟩
  | @confirm calls db db' input principal correlationId o result _ hcall ih =>
    obtain ⟨-, ⟨batch, hmem, hkey, hreplay, rfl⟩ | ⟨-, lines, hexecute⟩⟩ :=
      confirm_ok_iff.mp hcall
    · -- a replay: the batch that is there is also that of the new call
      obtain ⟨hprint, report, hreport, hof, rfl⟩ := replay_ok_iff.mp hreplay
      refine ⟨fun call hc => ?_, fun b hb => ?_⟩
      · rcases mem_append.mp hc with hc | hc
        · exact ih.known call hc
        · obtain rfl := mem_singleton.mp hc
          exact ⟨batch, report, hmem, hreport, hof, hkey, hprint, rfl⟩
      · obtain ⟨call, hc, hrest⟩ := ih.first b hb
        exact ⟨call, mem_append_left _ hc, hrest⟩
    · obtain ⟨haccounts, hbatches, hreports, hagain⟩ := execute_ok hexecute
      have hmono : ∀ {batch report call}, Records rt db batch report call →
          Records rt db' batch report call := fun h =>
        h.mono (fun b hb => (hbatches b).mpr (.inl hb)) fun r hr => (hreports r).mpr (.inl hr)
      have hnew : Records rt db' ((newBatch rt input principal o.batchId).withCounts lines)
          (importReport input o lines) (input, result) :=
        ⟨(hbatches _).mpr (.inr rfl), (hreports _).mpr (.inr rfl), rfl, rfl, rfl, hagain⟩
      refine ⟨fun call hc => ?_, fun b hb => ?_⟩
      · rcases mem_append.mp hc with hc | hc
        · obtain ⟨batch, report, hrecords⟩ := ih.known call hc
          exact ⟨batch, report, hmono hrecords⟩
        · obtain rfl := mem_singleton.mp hc
          exact ⟨_, _, hnew⟩
      · rcases (hbatches b).mp hb with hb | rfl
        · obtain ⟨call, hc, report, lines', hrecords, haccounts'⟩ := ih.first b hb
          exact ⟨call, mem_append_left _ hc, report, lines', hmono hrecords, haccounts'⟩
        · refine ⟨_, mem_append_right _ (mem_singleton_self _), _, lines, hnew, ?_⟩
          -- the accounts do not depend on whether the result is read back
          rw [← hagain]
          exact { haccounts with }

/-- **A confirmation whose accounts are right**: what it returns has the accounts of
an import with its content, which is this very one when it is not a replay; it is
given the result of a call with its key and its content, and nothing is written;
and it is refused when its key comes with another content. -/
structure FaithfulConfirm (rt : Runtime)
    (calls : List (ConfirmPersistentImportInput × PersistentImportResult)) (db : Database)
    (input : ConfirmPersistentImportInput) (principal : Principal) (correlationId : String)
    (o : ConfirmOccasion) : Prop where
  counted : ∀ result db', confirm rt db input principal correlationId o = .ok (result, db') →
    ∃ original lines, ∃ report ∈ db'.importReports.rows, report.batchId = result.batchId ∧
      importText original = importText input ∧ Accounts original lines result report ∧
      (result.replayed = false → original = input ∧
        execute rt db input principal correlationId o = .ok ((result, lines), db'))
  replayed : ∀ call ∈ calls, call.1.idempotencyKey = input.idempotencyKey →
    importText call.1 = importText input → assertAllowed input principal = .ok () →
    confirm rt db input principal correlationId o = .ok (call.2.again, db)
  refused : ∀ call ∈ calls, call.1.idempotencyKey = input.idempotencyKey →
    importText call.1 ≠ importText input →
    Refused (confirm rt db input principal correlationId o)

/-- **The database keeps right accounts of every confirmation**, as far as the
digest tells the texts of the imports apart. -/
theorem faithfulConfirm_of_confirmed
    {calls : List (ConfirmPersistentImportInput × PersistentImportResult)} {o : ConfirmOccasion}
    (h : Confirmed rt calls db)
    (hsha : ∀ call ∈ calls, rt.sha256 (importText call.1) = rt.sha256 (importText input) →
      importText call.1 = importText input) :
    FaithfulConfirm rt calls db input principal correlationId o := by
  have hrecorded := recorded_of_confirmed h
  refine ⟨fun result db' hok => ?_, fun call hc hkey htext hallow => ?_,
    fun call hc hkey hne => ?_⟩
  · obtain ⟨-, ⟨batch, hmem, -, hreplay, rfl⟩ | ⟨-, lines, hexecute⟩⟩ := confirm_ok_iff.mp hok
    · obtain ⟨hprint, report, hreport, hof, rfl⟩ := replay_ok_iff.mp hreplay
      obtain ⟨call, hc, report', lines, hrecords, haccounts⟩ := hrecorded.first batch hmem
      -- a batch has one report
      have hsame : report' = report := db.importReports.eq_of_key hrecords.reported hreport
        (k := .batchId batch.id) (ImportReportRow.mem_keys_batchId.mpr hrecords.ofBatch)
        (ImportReportRow.mem_keys_batchId.mpr hof)
      subst hsame
      refine ⟨call.1, lines, report', hreport, hof, hsha call hc ?_, haccounts, fun hr => ?_⟩
      · exact hrecords.fingerprint.symm.trans hprint
      · cases hr
    · obtain ⟨haccounts, -, hreports, hagain⟩ := execute_ok hexecute
      refine ⟨input, lines, _, (hreports _).mpr (.inr rfl), ?_, rfl, haccounts,
        fun _ => ⟨rfl, hexecute⟩⟩
      exact (congrArg PersistentImportResult.batchId hagain).symm
  · obtain ⟨batch, report, hrecords⟩ := hrecorded.known call hc
    refine confirm_ok_iff.mpr ⟨hallow, .inl ⟨batch, hrecords.stored,
      hrecords.key.trans hkey, replay_ok_iff.mpr ⟨?_, report, hrecords.reported, hrecords.ofBatch,
        hrecords.result.symm⟩, rfl⟩⟩
    rw [hrecords.fingerprint, importFingerprint_eq, importFingerprint_eq, htext]
  · obtain ⟨batch, report, hrecords⟩ := hrecorded.known call hc
    have hbatchKey := IngestionBatchRow.mem_keys_idempotencyKey.mpr (hrecords.key.trans hkey)
    refine refused_iff.mpr fun r hok => hne ?_
    obtain ⟨result, db'⟩ := r
    obtain ⟨-, ⟨b, hmem, hb, hreplay, -⟩ | ⟨hnone, -⟩⟩ := confirm_ok_iff.mp hok
    · -- the key leads to the batch of the earlier call
      have hsame : b = batch := db.ingestionBatches.eq_of_key hmem hrecords.stored
        (IngestionBatchRow.mem_keys_idempotencyKey.mpr hb) hbatchKey
      subst hsame
      refine hsha call hc ?_
      obtain ⟨hprint, -⟩ := replay_ok_iff.mp hreplay
      exact hrecords.fingerprint.symm.trans hprint
    · exact absurd hbatchKey (findUnique_eq_none.mp hnone batch hrecords.stored)

end Confirmations

/-! ### Both services -/

/-- **Where the accounts of ingestion are right**: always for confirmed imports, and in
the memory of a process exactly for the calls that do not bring another content under
a known key. -/
theorem accounting_iff {rt : Runtime} {s : Store} {db : Database}
    {calls : List (IngestionBatchInput × IngestionBatchResult)}
    {confirmations : List (ConfirmPersistentImportInput × PersistentImportResult)}
    (hingested : Ingested rt calls s) (hconfirmed : Confirmed rt confirmations db) :
    (∀ (input : IngestionBatchInput) (principal : Principal) (correlationId : String)
      (o : BatchOccasion), Faithful rt calls s input principal correlationId o ↔
        KeepsContent calls input principal) ∧
    ∀ (input : ConfirmPersistentImportInput) (principal : Principal) (correlationId : String)
      (o : ConfirmOccasion),
      (∀ call ∈ confirmations, rt.sha256 (importText call.1) = rt.sha256 (importText input) →
        importText call.1 = importText input) →
      FaithfulConfirm rt confirmations db input principal correlationId o :=
  ⟨fun _ _ _ _ => faithful_iff hingested,
    fun _ _ _ _ hsha => faithfulConfirm_of_confirmed hconfirmed hsha⟩

namespace Sample

def visitor (lineNumber : ℤ) (email : String) : IngestionRecordInput where
  lineNumber
  firstName := "Lina"
  lastName := "Test"
  email := some email
  campus := some "CASABLANCA"
  campaign := some "SPRING"
  educationLevel := some "BAC"
  program := some "INFO"
  source := "WEB_FORM"
  technicalSystem := "FORMINATOR_ZAPIER"
  originalSource := "form"

def batch (records : List IngestionRecordInput) : IngestionBatchInput where
  idempotencyKey := "batch-0001"
  profile := "FORMINATOR_ZAPIER"
  confirmed := true
  assignment := ⟨"UNASSIGNED", none⟩
  records

def monday : IngestionBatchInput := batch [visitor 1 "lina@example.invalid"]

def tuesday : IngestionBatchInput :=
  batch [visitor 1 "nora@example.invalid", visitor 2 "omar@example.invalid"]

def confirmation : ConfirmPersistentImportInput where
  toIngestionBatchInput := monday
  mappingId := "mapping-000000000000000000000000"
  mappingVersion := 1
  sourceFileSha256 := String.ofList (replicate 64 '0')

def manager : Principal := ⟨"manager-1", [.MANAGER], [.GLOBAL], "session-1"⟩

def occasion : BatchOccasion :=
  ⟨"batch-1", fun n => ⟨"lead-" ++ toString n, "CRM-" ++ toString n, fun i => toString i, 0, none⟩⟩

/-- The rules of the campus select nobody. -/
def confirmOccasion : ConfirmOccasion :=
  ⟨"batch-1", "report-1", fun _ _ => .ok (),
    fun n => ⟨"lead-" ++ toString n, "CRM-" ++ toString n, fun i => toString i, 0, .ok {}⟩⟩

def mondayResult : IngestionBatchResult where
  batchId := "batch-1"
  idempotencyKey := "batch-0001"
  total := 1
  created := 1
  attached := 0
  manualReview := 0
  invalid := 0
  assigned := 0
  unassigned := 1
  lines := [⟨1, .CREATED, none, some "lead-1"⟩]

theorem ingest_monday : (ingest plain .init monday manager "c" occasion).map Prod.fst =
    .ok mondayResult := by decide +kernel

theorem exists_of_map_fst {ε α σ : Type} {x : Except ε (α × σ)} {a : α}
    (h : x.map Prod.fst = .ok a) : ∃ s, x = .ok (a, s) := by
  cases x with
  | error e => cases h
  | ok p =>
    obtain ⟨a', s⟩ := p
    cases h
    exact ⟨s, rfl⟩

end Sample

open Ingestion.Sample in
/-- **Another content under a known key is answered with the accounts of the first**:
two visitors are lost, and the result says that one lead was created. -/
theorem ingest_known_key_other_records :
    ∃ calls s, Ingested plain calls s ∧
      ingest plain s tuesday manager "d" occasion = .ok (mondayResult, s) ∧
      ¬Faithful plain calls s tuesday manager "d" occasion := by
  obtain ⟨s, hs⟩ := exists_of_map_fst ingest_monday
  have hrun : Ingested plain [(monday, mondayResult)] s := .ingest (.start rfl) hs
  have hknown := (kept_of_ingested hrun).known _ (mem_singleton_self _)
  have hreplay : ingest plain s tuesday manager "d" occasion = .ok (mondayResult, s) :=
    ingest_ok_iff.mpr ⟨by decide +kernel, by decide +kernel, .inl ⟨hknown.1, rfl⟩⟩
  refine ⟨_, s, hrun, hreplay, fun hfaithful => ?_⟩
  have hrefused := hfaithful.refused _ (mem_singleton_self _) rfl (by decide +kernel)
  rw [hreplay] at hrefused
  exact not_refused_ok hrefused

open Ingestion.Sample in
/-- A batch and an import of one visitor each, both taken. -/
theorem accounting_iff_monday :
    ∃ s db result, Ingested plain [(monday, mondayResult)] s ∧
      Confirmed plain [(confirmation, result)] db ∧
      Faithful plain [(monday, mondayResult)] s monday manager "d" occasion ∧
      FaithfulConfirm plain [(confirmation, result)] db confirmation manager "d"
        confirmOccasion := by
  obtain ⟨s, hs⟩ := exists_of_map_fst ingest_monday
  have hconfirm : ((confirm plain {} confirmation manager "c" confirmOccasion).map
      Prod.fst).isOk = true := by decide +kernel
  obtain ⟨result, hresult⟩ : ∃ result, (confirm plain {} confirmation manager "c"
      confirmOccasion).map Prod.fst = .ok result := by
    cases h : (confirm plain {} confirmation manager "c" confirmOccasion).map Prod.fst with
    | ok result => exact ⟨result, rfl⟩
    | error e =>
      rw [h] at hconfirm
      cases hconfirm
  obtain ⟨db, hdb⟩ := exists_of_map_fst hresult
  have hrun : Ingested plain [(monday, mondayResult)] s := .ingest (.start rfl) hs
  have hrun' : Confirmed plain [(confirmation, result)] db := .confirm (.start rfl rfl) hdb
  obtain ⟨hmemory, hdatabase⟩ := accounting_iff hrun hrun'
  refine ⟨s, db, result, hrun, hrun', (hmemory _ _ _ _).mpr fun _ _ call hc _ => ?_,
    hdatabase _ _ _ _ fun _ _ h => h⟩
  rw [mem_singleton.mp hc]

end CrmYnov.Ingestion
