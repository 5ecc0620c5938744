import CrmYnov.Base.Growth
import CrmYnov.Bootstrap.Service

/-!
# The import, move by move

Whatever a call writes is made of a few moves (`CrmYnov.Bootstrap.Move`): a package is
mapped; a row is decided, deferred or reopened; a dossier is created; a decision is carried
out, by ignoring the row or by importing it; a package advances; a confirmation or a block
is recorded. Every call that returns makes such moves (`CrmYnov.Bootstrap.serve_moves`).

The moves are told for the decisions that satisfy a condition, so that a property of the
requests is carried to the rows.
-/

namespace CrmYnov.Bootstrap

open Checked References Relation List Option

variable (rt : ImportRuntime)

/-- An update of one row gives no row the decision key of another. -/
def FreshKey (s : ImportStore) (row : BootstrapImportRow) (key : Option String) : Prop :=
  ∀ r ∈ s.rows.rows, r.packageId = row.packageId → r.id ≠ row.id →
    key = none ∨ r.decisionKey ≠ key

/-- The dossier a row goes to: it has been created for the decision, or the decision names
it. -/
structure Target (s : ImportStore) (decision : Decision) (leadId : String) : Prop where
  action : decision.action = .CREATE_DOSSIER ∨ decision.action = .LINK_EXISTING
  known : ∃ l ∈ s.db.leads.rows, l.id = leadId ∧
    (decision.action = .CREATE_DOSSIER → l.acquisitionKind = .BASELINE)
  temperature : decision.action = .CREATE_DOSSIER →
    ⟨leadId, Leads.nonEmpty (decision.resolved.text "temperature")⟩ ∈ s.temperatures.rows
  named : decision.action = .LINK_EXISTING →
    ∃ text, decision.targetLeadId = some text ∧ readUuid text = some leadId

def Decision.named (decision : Decision) (leadId : String) : String :=
  if decision.action = .LINK_EXISTING then decision.targetLeadId.getD "" else leadId

/-- Comments in distinct columns of a row, whose cells are there. -/
def Commented (comments : List MappedComment) (source : SourceRow) : Prop :=
  (comments.map MappedComment.column).Nodup ∧
    ∀ comment ∈ comments, (source.cells.get comment.column).isSome

/-- A move of the import, whose decisions satisfy `Q`. -/
inductive Move (Q : HistoricalDecisionInput → Prop) : ImportStore → ImportStore → Prop
  /-- A package is mapped: it is given a batch, a plan and its rows. -/
  | mapped {s : ImportStore} {p : BootstrapImportPackage} {batch : Ingestion.IngestionBatchRow}
      {plan : BootstrapImportPlan} {draw : Draw} {pending : List PendingRow}
      {ingestionBatches plans rows} (hp : p ∈ s.packages.rows) (hbatch : batch.id = draw.batchId.val)
      (hplan : plan.packageId = p.id) (hfirst : ∀ x ∈ s.plans.rows, x.packageId ≠ p.id)
      (hcommented : ∀ x ∈ pending, Commented x.mapped.comments x.source) (hlimit : pending.length ≤ 10000)
      (hbatches : s.db.ingestionBatches.create batch = some ingestionBatches)
      (hplans : s.plans.create plan = some plans)
      (hrows : (plannedRows rt p draw pending).foldlM insert s.rows = .ok rows) :
      Move Q s { s with
        db := { s.db with ingestionBatches }, plans, rows
        packages := s.packages.updateMany (fun q => q.id = p.id)
          (BootstrapImportPackage.map draw.batchId.val) fun _ => rfl }
  /-- A row is decided. -/
  | decided {s : ImportStore} {row : BootstrapImportRow} {auth : Authority}
      {input : HistoricalDecisionInput} (hrow : row ∈ s.rows.rows) (hstate : row.state = .REVIEW)
      (hQ : Q input) (hwf : input.Wellformed) (hact : input.action ≠ .DEFER)
      (hannotations : validateAnnotations input row.payload = .ok ())
      (hnew : ¬s.Superseded row.packageId input.idempotencyKey)
      (hfresh : FreshKey s row (some input.idempotencyKey)) :
      Move Q s { s with
        rows := s.rows.updateMany (fun r => r.id = row.id)
          (BootstrapImportRow.decide .READY (resolution auth row input)
            ((resolution auth row input).fingerprint rt)) fun _ => rfl }
  /-- A row is deferred, with a receipt. -/
  | deferred {s : ImportStore} {p : BootstrapImportPackage} {row : BootstrapImportRow}
      {auth : Authority} {input : HistoricalDecisionInput} {receipts}
      (hp : p ∈ s.packages.rows) (hrow : row ∈ s.rows.rows) (hpack : row.packageId = p.id)
      (hstate : row.state = .REVIEW) (hver : (row.version : ℤ) = input.expectedVersion)
      (hlead : row.leadId = none) (hQ : Q input) (hwf : input.Wellformed)
      (hact : input.action = .DEFER)
      (hnew : ¬s.Superseded row.packageId input.idempotencyKey)
      (hfresh : FreshKey s row (some input.idempotencyKey))
      (hrecs : s.receipts.create (deferralReceipt rt p auth row input) = some receipts) :
      Move Q s { s with
        receipts
        rows := s.rows.updateMany (fun r => r.id = row.id)
          (BootstrapImportRow.decide .DEFERRED (deferral rt p.sha256 auth row input)
            ((deferral rt p.sha256 auth row input).fingerprint rt)) fun _ => rfl }
  /-- A row is reopened, with a receipt of the decision it had. -/
  | reopened {s : ImportStore} {p : BootstrapImportPackage} {row : BootstrapImportRow}
      {auth : Authority} {decision : Decision} {rowId key fingerprint : String}
      {input : BootstrapReopenInput} {receipts} (hrow : row ∈ s.rows.rows)
      (hpack : row.packageId = p.id) (hopen : row.state = .READY ∨ row.state = .DEFERRED)
      (hlead : row.leadId = none) (hkey : row.decisionKey = some key)
      (hrecs : s.receipts.create
        (reopenReceipt rt p auth row decision rowId key fingerprint input) = some receipts) :
      Move Q s { s with
        receipts
        rows := s.rows.updateMany (fun r => r.id = row.id) BootstrapImportRow.reopen
          fun _ => rfl }
  /-- A dossier is created, with its temperature. -/
  | created {s : ImportStore} {lead : Leads.LeadRow} {temperature : BaselineTemperature}
      {leads temperatures} (hleads : s.db.leads.create lead = some leads)
      (htemps : s.temperatures.create temperature = some temperatures) :
      Move Q s { s with db := { s.db with leads }, temperatures }
  /-- A row is ignored, as it was decided. -/
  | ignored {s : ImportStore} {row : BootstrapImportRow} {decision : Decision}
      {fingerprint : String} {receipts} (hrow : row ∈ s.rows.rows)
      (hstate : row.state = .READY) (hdec : row.decision = some decision)
      (hact : decision.action = .IGNORE)
      (hprint : row.decisionFingerprint = some fingerprint)
      (hrecs : s.receipts.create
        (commitReceipt row decision fingerprint decision.actorId none) = some receipts) :
      Move Q s { s with
        receipts
        rows := s.rows.updateMany (fun r => r.id = row.id)
          (BootstrapImportRow.settle .IGNORED row.leadId) fun _ => rfl }
  /-- A row is imported, as it was decided: its dossier is given a provenance and its
  notes. -/
  | imported {s : ImportStore} {p : BootstrapImportPackage} {row : BootstrapImportRow}
      {decision : Decision} {fingerprint batchId leadId : String}
      {leadProvenances notes receipts} (hp : p ∈ s.packages.rows)
      (hbatch : p.batchId = some batchId) (hrow : row ∈ s.rows.rows)
      (hpack : row.packageId = p.id) (hstate : row.state = .READY)
      (hdec : row.decision = some decision) (htarget : Target s decision leadId)
      (hprint : row.decisionFingerprint = some fingerprint)
      (hprov : s.db.leadProvenances.create (rowProvenance batchId row leadId) =
        some leadProvenances)
      (hnotes : (rowNotes rt p.sha256 row leadId).foldlM insert s.notes = .ok notes)
      (hrecs : s.receipts.create (commitReceipt row decision fingerprint decision.actorId
        (some (decision.named leadId))) = some receipts) :
      Move Q s { s with
        db := { s.db with leadProvenances }, notes, receipts
        rows := s.rows.updateMany (fun r => r.id = row.id)
          (BootstrapImportRow.settle .ACCEPTED (some leadId)) fun _ => rfl }
  /-- A package advances. -/
  | advanced {s : ImportStore} {packageId : Uuid} {state : PackageState} :
      Move Q s { s with
        packages := s.packages.updateMany (fun q => q.id = packageId)
          (BootstrapImportPackage.advance state) fun _ => rfl }
  /-- A confirmation or a block is recorded. -/
  | recorded {s : ImportStore} {receipt : BootstrapImportReceipt} {receipts}
      (hop : receipt.operation = .CONFIRM ∨ receipt.operation = .EXECUTE_BLOCK)
      (hrecs : s.receipts.create receipt = some receipts) : Move Q s { s with receipts }

def Moves (Q : HistoricalDecisionInput → Prop) : ImportStore → ImportStore → Prop :=
  ReflTransGen (Move rt Q)

variable {rt} {Q : HistoricalDecisionInput → Prop} {s s' : ImportStore} {auth : Authority}
  {p : BootstrapImportPackage} {row : BootstrapImportRow} {draw : Draw}

theorem Moves.refl (s : ImportStore) : Moves rt Q s s := ReflTransGen.refl

theorem Moves.trans {s'' : ImportStore} (h : Moves rt Q s s') (h' : Moves rt Q s' s'') :
    Moves rt Q s s'' := ReflTransGen.trans h h'

theorem Move.moves (h : Move rt Q s s') : Moves rt Q s s' := ReflTransGen.single h

theorem Moves.keep {I : ImportStore → Prop} (hstep : ∀ s s', I s → Move rt Q s s' → I s')
    (h : Moves rt Q s s') (hs : I s) : I s' := by
  induction h with
  | refl => exact hs
  | tail _ hlast ih => exact hstep _ _ ih hlast

/-! ### Writes -/

variable {id : String}

theorem package_ok {keys : List String} (h : package rt s auth id keys = .ok p) :
    ∃ u, Uuid.read id = some u ∧ s.package u = some p := by
  simp only [package, ok_iff, bind_eq_some_iff] at h
  obtain ⟨_, ⟨u, hu, hp⟩, _, -, rfl⟩ := h
  exact ⟨u, hu, hp⟩

theorem package_mem {keys : List String} (h : package rt s auth id keys = .ok p) :
    p ∈ s.packages.rows := by
  obtain ⟨u, -, hp⟩ := package_ok h
  exact (ImportStore.package_eq_some.mp hp).1

variable {rowId : String}

theorem rowNamed_mem {packageId : Uuid} (h : s.rowNamed packageId rowId = some row) :
    row ∈ s.rows.rows ∧ row.packageId = packageId := by
  rw [ImportStore.rowNamed, bind_eq_some_iff] at h
  obtain ⟨u, -, hrow⟩ := h
  obtain ⟨hmem, -, hpack⟩ := ImportStore.row_eq_some.mp hrow
  exact ⟨hmem, hpack⟩

theorem updateRow_ok {f : BootstrapImportRow → BootstrapImportRow}
    {hf : ∀ r, (f r).keys = r.keys} (hrow : row ∈ s.rows.rows) (h : s.updateRow row f hf = .ok s') :
    FreshKey s row (f row).decisionKey ∧
      s' = { s with rows := s.rows.updateMany (fun r => r.id = row.id) f hf } := by
  simp only [ImportStore.updateRow, ok_iff] at h
  obtain ⟨current, hcur, -, -, -, hfresh, rfl⟩ := h
  obtain ⟨hmem, hid, -⟩ := ImportStore.row_eq_some.mp hcur
  rw [ImportStore.row_ext hrow hmem hid] at hfresh
  exact ⟨hfresh, rfl⟩

theorem updatePackage_ok {f : BootstrapImportPackage → BootstrapImportPackage}
    {hf : ∀ q, (f q).keys = q.keys} (h : s.updatePackage p f hf = .ok s') :
    s' = { s with packages := s.packages.updateMany (fun q => q.id = p.id) f hf } := by
  simp only [ImportStore.updatePackage, ok_iff] at h
  obtain ⟨_, -, -, -, rfl⟩ := h
  rfl

theorem addReceipt_ok {receipt : BootstrapImportReceipt} (h : s.addReceipt receipt = .ok s') :
    ∃ receipts, s.receipts.create receipt = some receipts ∧ s' = { s with receipts } := by
  simp only [ImportStore.addReceipt, ok_iff, insert_ok_iff] at h
  obtain ⟨receipts, hcreate, rfl⟩ := h
  exact ⟨receipts, hcreate, rfl⟩

/-! ### Mapping -/

theorem assertSheetMapping_ok {sheet : HistoricalSheetMapping}
    (h : assertSheetMapping sheet = .ok ()) : sheet.commentColumns.Nodup := by
  simp only [assertSheetMapping, ok_iff] at h
  obtain ⟨-, ⟨-, -, -, -, -, -, -, -, hnodup, -⟩, -⟩ := h
  exact hnodup

theorem assertMapping_ok {input : HistoricalMappingInput} (h : assertMapping input = .ok ()) :
    ∀ sheet ∈ input.sheets, sheet.commentColumns.Nodup := by
  simp only [assertMapping, bind_ok_iff] at h
  obtain ⟨-, -, hsheets⟩ := h
  generalize input.sheets = sheets at hsheets
  induction sheets with
  | nil => exact fun sheet hmem => absurd hmem List.not_mem_nil
  | cons sheet sheets ih =>
    simp only [List.forM_eq_forM, List.forM_cons, bind_ok_iff] at hsheets
    obtain ⟨_, hsheet, hsheets⟩ := hsheets
    intro x hx
    rcases List.mem_cons.mp hx with rfl | hx
    · exact assertSheetMapping_ok hsheet
    · exact ih hsheets x hx

/-- **The comments of a mapped row are in distinct columns, and their cells are there.** -/
theorem mappedComments_commented {source : SourceRow} {mapping : HistoricalSheetMapping}
    (h : mapping.commentColumns.Nodup) :
    Commented (mappedComments source mapping) source := by
  have hcolumn : ∀ column comment, ((cellText (source.cells.get column)).filter Js.present).map
      (fun text => (⟨column, text⟩ : MappedComment)) = some comment →
        comment.column = column ∧ (source.cells.get column).isSome := by
    intro column comment hcomment
    obtain ⟨text, htext, rfl⟩ := map_eq_some_iff.mp hcomment
    obtain ⟨htext, -⟩ := filter_eq_some_iff.mp htext
    obtain ⟨cell, hcell, -⟩ := bind_eq_some_iff.mp htext
    exact ⟨rfl, by rw [hcell]; rfl⟩
  constructor
  · have hsublist : ((mappedComments source mapping).map MappedComment.column).Sublist
        mapping.commentColumns := by
      rw [mappedComments]
      generalize mapping.commentColumns = columns
      induction columns with
      | nil => exact Sublist.refl _
      | cons column columns ih =>
        rw [filterMap_cons]
        split
        · exact ih.cons column
        · rename_i comment hcomment
          rw [map_cons, (hcolumn column comment hcomment).1]
          exact ih.cons_cons column
    exact hsublist.nodup h
  · intro comment hcomment
    obtain ⟨column, -, hsome⟩ := mem_filterMap.mp hcomment
    obtain ⟨hname, hcell⟩ := hcolumn column comment hsome
    rwa [hname]

theorem pendingRow_commented {date1904 : Bool} {sheet : SnapshotSheet}
    {mapping : HistoricalSheetMapping} {original : SourceRow} {pending : PendingRow}
    (h : mapping.commentColumns.Nodup)
    (hpend : pendingRow rt date1904 sheet mapping original = .ok (some pending)) :
    Commented pending.mapped.comments pending.source := by
  simp only [pendingRow, mapHistoricalRow, ok_iff] at hpend
  obtain ⟨mapped, ⟨-, -, rfl⟩, hpend⟩ := hpend
  split at hpend
  · cases pure_ok_iff.mp hpend
  · rw [← some.inj (pure_ok_iff.mp hpend)]
    exact mappedComments_commented h

theorem sheetRows_commented {campusId : String} {date1904 : Bool}
    {mappings : List HistoricalSheetMapping} {sheet : SnapshotSheet} {pending : List PendingRow}
    (hnodup : ∀ m ∈ mappings, m.commentColumns.Nodup)
    (h : sheetRows rt s campusId date1904 mappings sheet = .ok pending) :
    ∀ x ∈ pending, Commented x.mapped.comments x.source := by
  simp only [sheetRows, ok_iff] at h
  obtain ⟨mapping, hmapping, _, -, _, -, -, -, sources, -, found, hfound, rfl⟩ := h
  intro x hx
  obtain ⟨original, -, hpend⟩ := exists_of_mem_mapM hfound (reduceOption_mem_iff.mp hx)
  exact pendingRow_commented (hnodup mapping (mem_of_find?_eq_some hmapping)) hpend

theorem mapping_moves {input : HistoricalMappingInput}
    (h : mapping rt s auth id input draw = .ok s') : Moves rt Q s s' := by
  simp only [mapping, bind_ok_iff] at h
  obtain ⟨_, hassert, p, hp, h⟩ := h
  split at h
  · rw [pure_ok_iff.mp h]
    exact Moves.refl s'
  simp only [mapPackage, ok_iff, insert_ok_iff] at h
  obtain ⟨-, ⟨-, -, hfirst⟩, snapshot, hsnap, batches, hbatches, coverage, -, quarantine, -,
    plans, hplans, sheets, hsheets, -, hlimit, rows, hrows, h⟩ := h
  obtain rfl := updatePackage_ok h
  refine (Move.mapped (package_mem hp) rfl rfl (fun x hx => ?_) (fun x hx => ?_) hlimit hbatches hplans
    hrows).moves
  · rw [isNone_iff_eq_none, Table.findFirst_eq_none] at hfirst
    exact hfirst x hx
  · obtain ⟨pending, hpend, hx⟩ := mem_flatten.mp hx
    obtain ⟨sheet, -, hsheet⟩ := exists_of_mem_mapM hsheets hpend
    exact sheetRows_commented (assertMapping_ok hassert) hsheet x hx

/-! ### Deciding and reopening -/

variable {input : HistoricalDecisionInput}

theorem deferRow_moves (hp : p ∈ s.packages.rows) (hrow : row ∈ s.rows.rows)
    (hpack : row.packageId = p.id) (hQ : Q input) (hwf : input.Wellformed)
    (hact : input.action = .DEFER) (hnew : ¬s.Superseded row.packageId input.idempotencyKey)
    (h : deferRow rt s auth p row input = .ok s') : Moves rt Q s s' := by
  simp only [deferRow, ok_iff] at h
  obtain ⟨-, -, -, ⟨hlead, -⟩, h⟩ := h
  split at h
  · simp only [replayDeferral, ok_iff] at h
    obtain ⟨_, -, -, -, rfl⟩ := h
    exact Moves.refl s
  simp only [ok_iff] at h
  obtain ⟨-, ⟨hstate, hver, -, -⟩, _, hupdate, hrec⟩ := h
  obtain ⟨hfresh, rfl⟩ := updateRow_ok hrow hupdate
  obtain ⟨receipts, hcreate, rfl⟩ := addReceipt_ok hrec
  exact (Move.deferred hp hrow hpack hstate hver hlead hQ hwf hact hnew hfresh
    hcreate).moves

theorem replayDecision_eq {fingerprint : String}
    (h : replayDecision rt s auth p row fingerprint = .ok s') : s' = s := by
  simp only [replayDecision, ok_iff] at h
  obtain ⟨-, -, saved, -, h⟩ := h
  split at h
  · simp only [ok_iff] at h
    obtain ⟨-, -, rfl⟩ := h
    rfl
  · simp only [ok_iff] at h
    obtain ⟨_, -, rfl⟩ := h
    rfl
  · exact (pure_ok_iff.mp h).symm

theorem resolveRow_moves (hrow : row ∈ s.rows.rows) (hQ : Q input) (hwf : input.Wellformed)
    (hact : input.action ≠ .DEFER) (hnew : ¬s.Superseded row.packageId input.idempotencyKey)
    (h : resolveRow rt s auth p row input = .ok s') : Moves rt Q s s' := by
  simp only [resolveRow, bind_ok_iff] at h
  obtain ⟨-, -, _, hannotations, h⟩ := h
  split at h
  · rw [replayDecision_eq h]
    exact Moves.refl s
  simp only [ok_iff] at h
  obtain ⟨-, ⟨hstate, -, -⟩, -, -, hupdate⟩ := h
  obtain ⟨hfresh, rfl⟩ := updateRow_ok hrow hupdate
  exact (Move.decided hrow hstate hQ hwf hact hannotations hnew hfresh).moves

theorem decide_ok (h : decide rt s auth id rowId input = .ok s') :
    input.Wellformed ∧ ∃ p row, package rt s auth id ["import.review.resolve", "import.view"] = .ok p ∧
      s.rowNamed p.id rowId = some row ∧ ¬s.Superseded p.id input.idempotencyKey ∧
      (if input.action = .DEFER then deferRow rt s auth p row input
        else resolveRow rt s auth p row input) = .ok s' := by
  simp only [decide, ok_iff] at h
  obtain ⟨-, ⟨-, hwf⟩, p, hp, row, hrow, -, hnew, h⟩ := h
  exact ⟨hwf, p, row, hp, hrow, hnew, h⟩

theorem decide_moves (hQ : Q input) (h : decide rt s auth id rowId input = .ok s') :
    Moves rt Q s s' := by
  obtain ⟨hwf, p, row, hp, hrow, hnew, h⟩ := decide_ok h
  obtain ⟨hmem, hpack⟩ := rowNamed_mem hrow
  rw [← hpack] at hnew
  split at h
  · rename_i hact
    exact deferRow_moves (package_mem hp) hmem hpack hQ hwf hact hnew h
  · rename_i hact
    exact resolveRow_moves hmem hQ hwf hact hnew h

theorem replayReopen_eq {input : BootstrapReopenInput} {receipt : BootstrapImportReceipt}
    (h : replayReopen rt s auth row rowId input receipt = .ok s') : s' = s := by
  rw [replayReopen.eq_def] at h
  split at h
  · simp only [ok_iff] at h
    obtain ⟨-, -, -, -, rfl⟩ := h
    rfl
  · cases h

theorem reopen_moves {input : BootstrapReopenInput} (h : reopen rt s auth id rowId input = .ok s') :
    Moves rt Q s s' := by
  simp only [reopen, ok_iff] at h
  obtain ⟨-, -, -, -, p, hp, row, hrow, -, -, -, ⟨hlead, -, -⟩, h⟩ := h
  obtain ⟨hmem, hpack⟩ := rowNamed_mem hrow
  split at h
  · rw [replayReopen_eq h]
    exact Moves.refl s
  simp only [ok_iff] at h
  obtain ⟨decision, -, -, -, key, hkey, fingerprint, -, -, ⟨hopen, -, -⟩, -, -, -, -, _, hupdate,
    hrec⟩ := h
  obtain ⟨-, rfl⟩ := updateRow_ok hmem hupdate
  obtain ⟨receipts, hcreate, rfl⟩ := addReceipt_ok hrec
  exact (Move.reopened hmem hpack hopen hlead hkey hcreate).moves

end CrmYnov.Bootstrap
