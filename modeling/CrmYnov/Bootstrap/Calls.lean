import CrmYnov.Base.Machine
import CrmYnov.Bootstrap.Moves

/-!
# The calls of the import

A confirmation carries its rows out one after the other: each of them is still as it was
read, because what has been carried out before was another row. A block is a run of
decisions, a confirmation and a record. The calls are those of a machine
(`CrmYnov.Bootstrap.importer`), which keeps its state when a call throws, and every step of
it is made of moves (`CrmYnov.Bootstrap.importer_moves`).
-/

namespace CrmYnov.Bootstrap

open Checked References List

variable {rt : ImportRuntime} {Q : HistoricalDecisionInput → Prop} {s s' : ImportStore}
  {auth : Authority} {p : BootstrapImportPackage} {row : BootstrapImportRow} {draw : Draw}

/-! ### Carrying a decision out -/

theorem baselineOptionalValues_text {values source resolved : Values} {reasons : List String}
    {key : String} (hkey : key ∉ baselineOptionalInformation)
    (h : baselineOptionalValues values source reasons = .ok resolved) :
    resolved.text key = values.text key := by
  refine foldlM_keeps (I := fun v => v.text key = values.text key) (fun field hfield v v' hv hstep => ?_)
    rfl h
  rw [baselineOptionalValue] at hstep
  split at hstep
  · rw [← pure_ok_iff.mp hstep]
    exact hv
  · simp only [ok_iff] at hstep
    obtain ⟨-, -, -, -, rfl⟩ := hstep
    have hne : key ≠ field := fun heq => hkey (heq ▸ hfield)
    rw [← hv, Values.text, Values.text, Dict.get_set_of_ne _ _ hne]

variable {decision : Decision}

/-- **A dossier that is created is a target of its decision.** -/
theorem createDossier_ok {leadId : String} (hact : decision.action = .CREATE_DOSSIER)
    (h : createDossier rt s auth p row decision draw = .ok (leadId, s')) :
    Moves rt Q s s' ∧ Target s' decision leadId ∧ s'.packages = s.packages ∧ s'.rows = s.rows := by
  simp only [createDossier, ok_iff, insert_ok_iff] at h
  obtain ⟨values, hvalues, -, -, campus, -, reference, -, status, -, leads, hleads, temperatures,
    htemps, rfl, rfl⟩ := h
  refine ⟨(Move.created hleads htemps).moves, ⟨.inl hact, ?_, fun _ => ?_, fun hlink => ?_⟩,
    rfl, rfl⟩
  · exact ⟨_, (Table.mem_create hleads).mpr (.inr rfl), rfl, fun _ => rfl⟩
  · rw [Table.mem_create htemps,
      baselineOptionalValues_text (by simp [baselineOptionalInformation]) hvalues]
    exact .inr rfl
  · rw [hact] at hlink
    cases hlink

/-- **A lead that a decision names is a target of it.** -/
theorem validateLink_ok {lead : Leads.LeadRow} {named : String}
    (hact : decision.action = .LINK_EXISTING) (hnamed : decision.targetLeadId = some named)
    (h : validateLink rt s auth p row decision.toHistoricalDecisionInput = .ok lead) :
    Target s decision lead.id := by
  simp only [validateLink, authorizeLinkedLead, ok_iff, hnamed, Option.getD_some, ImportStore.lead,
    Option.bind_eq_some_iff] at h
  obtain ⟨-, -, _, ⟨_, ⟨u, hu, hlead⟩, -, -, -, -, -, -, -, -, rfl⟩, -, -, rfl⟩ := h
  obtain ⟨hmem, hid⟩ := Database.lead_eq_some.mp hlead
  have hcreate : decision.action ≠ .CREATE_DOSSIER := by
    rw [hact]
    decide
  refine ⟨.inr hact, ⟨_, hmem, rfl, fun hc => absurd hc hcreate⟩, fun hc => absurd hc hcreate,
    fun _ => ⟨named, hnamed, ?_⟩⟩
  rw [hid]
  exact Uuid.val_of_read hu

/-- What carrying a row out leaves alone. -/
structure Carried (s s' : ImportStore) (row : BootstrapImportRow) : Prop where
  packages : s'.packages = s.packages
  others : ∀ x ∈ s.rows.rows, x.id ≠ row.id → x ∈ s'.rows.rows

theorem carried_of_update {f : BootstrapImportRow → BootstrapImportRow}
    (hf : ∀ r, (f r).keys = r.keys)
    (hrows : s'.rows = s.rows.updateMany (fun r => r.id = row.id) f hf)
    (hpackages : s'.packages = s.packages) : Carried s s' row where
  packages := hpackages
  others := fun x hx hne => by
    rw [hrows]
    exact Table.mem_updateMany.mpr ⟨x, hx, if_neg hne⟩

theorem rowReceipt_ok {leadId : Option String} (h : rowReceipt s auth row decision leadId = .ok s') :
    ∃ fingerprint receipts, row.decisionFingerprint = some fingerprint ∧
      s.receipts.create (commitReceipt row decision fingerprint auth.actorId.val leadId) =
        some receipts ∧ s' = { s with receipts } := by
  simp only [rowReceipt, ok_iff] at h
  obtain ⟨fingerprint, hprint, hrec⟩ := h
  obtain ⟨receipts, hcreate, rfl⟩ := addReceipt_ok hrec
  exact ⟨fingerprint, receipts, hprint, hcreate, rfl⟩

theorem importRow_ok {leadId named : String} (hp : p ∈ s.packages.rows) (hrow : row ∈ s.rows.rows)
    (hpack : row.packageId = p.id) (hstate : row.state = .READY)
    (hdec : row.decision = some decision) (hactor : decision.actorId = auth.actorId.val)
    (htarget : Target s decision leadId) (hnamed : named = decision.named leadId)
    (h : importRow rt s auth p row decision leadId named = .ok s') :
    Moves rt Q s s' ∧ Carried s s' row := by
  simp only [importRow, ok_iff, insert_ok_iff] at h
  obtain ⟨batchId, hbatch, leadProvenances, hprov, -, -, notes, hnotes, _, hupdate, hrec⟩ := h
  obtain ⟨-, rfl⟩ := updateRow_ok (s := { s with db := { s.db with leadProvenances }, notes }) hrow hupdate
  obtain ⟨fingerprint, receipts, hprint, hcreate, rfl⟩ := rowReceipt_ok hrec
  rw [← hactor, hnamed] at hcreate
  exact ⟨(Move.imported hp hbatch hrow hpack hstate hdec htarget hprint hprov
    hnotes hcreate).moves, carried_of_update (by intro _; rfl) rfl rfl⟩

/-- **A row that is ready is carried out by moves**, and no other row is touched. -/
theorem commitRow_ok (hp : p ∈ s.packages.rows) (hrow : row ∈ s.rows.rows)
    (hpack : row.packageId = p.id) (hstate : row.state = .READY)
    (h : commitRow rt auth p draw s row = .ok s') : Moves rt Q s s' ∧ Carried s s' row := by
  simp only [commitRow, ok_iff] at h
  obtain ⟨decision, hdec, -, ⟨hactor, -⟩, h⟩ := h
  split at h
  · rename_i hact
    simp only [bind_ok_iff] at h
    obtain ⟨_, hupdate, hrec⟩ := h
    obtain ⟨-, rfl⟩ := updateRow_ok hrow hupdate
    obtain ⟨fingerprint, receipts, hprint, hcreate, rfl⟩ := rowReceipt_ok hrec
    rw [← hactor] at hcreate
    exact ⟨(Move.ignored hrow hstate hdec hact hprint hcreate).moves,
      carried_of_update (by intro _; rfl) rfl rfl⟩
  · rename_i hact
    simp only [bind_ok_iff] at h
    obtain ⟨⟨leadId, s₁⟩, hcreate, himport⟩ := h
    obtain ⟨hmoves, htarget, hpackages, hrows⟩ := createDossier_ok hact hcreate
    have hnamed : leadId = decision.named leadId := by simp [Decision.named, hact]
    obtain ⟨hmoves', hcarried⟩ := importRow_ok (by rwa [hpackages]) (by rwa [hrows]) hpack hstate
      hdec hactor htarget hnamed himport
    refine ⟨hmoves.trans hmoves', hcarried.packages.trans hpackages, fun x hx => hcarried.others x ?_⟩
    rwa [hrows]
  · rename_i hact
    simp only [ok_iff] at h
    obtain ⟨named, htext, lead, hlink, himport⟩ := h
    have hnamed : named = decision.named lead.id := by simp [Decision.named, hact, htext]
    exact importRow_ok hp hrow hpack hstate hdec hactor (validateLink_ok hact htext hlink)
      hnamed himport
  · cases h

theorem commitRows_moves {rows : List BootstrapImportRow} (hp : p ∈ s.packages.rows)
    (hrows : ∀ r ∈ rows, r ∈ s.rows.rows ∧ r.packageId = p.id ∧ r.state = .READY)
    (hnodup : (rows.map BootstrapImportRow.id).Nodup)
    (h : rows.foldlM (commitRow rt auth p draw) s = .ok s') : Moves rt Q s s' := by
  induction rows generalizing s with
  | nil =>
    rw [foldlM_nil, pure_ok_iff] at h
    rw [h]
    exact Moves.refl s'
  | cons row rows ih =>
    rw [foldlM_cons, bind_ok_iff] at h
    obtain ⟨s₁, hcommit, h⟩ := h
    rw [map_cons, nodup_cons] at hnodup
    obtain ⟨hrow, hpack, hstate⟩ := hrows row mem_cons_self
    obtain ⟨hmoves, hcarried⟩ := commitRow_ok hp hrow hpack hstate hcommit
    -- the rows that follow are still as they were read
    refine hmoves.trans (ih (by rwa [hcarried.packages]) (fun r hr => ?_) hnodup.2 h)
    obtain ⟨hmem, hfacts⟩ := hrows r (mem_cons_of_mem row hr)
    refine ⟨hcarried.others r hmem fun heq => hnodup.1 ?_, hfacts⟩
    rw [← heq]
    exact mem_map_of_mem hr

/-! ### Confirmations and blocks -/

theorem mem_rowsOf {packageId : Uuid} {r : BootstrapImportRow} :
    r ∈ s.rowsOf packageId ↔ r ∈ s.rows.rows ∧ r.packageId = packageId := Table.mem_findMany

theorem nodup_row_ids (s : ImportStore) : (s.rows.rows.map BootstrapImportRow.id).Nodup := by
  have hkeys := s.rows.nodup_keys (k := fun r => BootstrapImportRow.Key.id r.id) fun r => by
    simp [BootstrapImportRow.keys]
  refine Nodup.of_map BootstrapImportRow.Key.id ?_
  rwa [map_map]

theorem readyRows_spec {input : BootstrapConfirmInput} :
    (∀ r ∈ readyRows s auth p input, r ∈ s.rows.rows ∧ r.packageId = p.id ∧ r.state = .READY) ∧
      ((readyRows s auth p input).map BootstrapImportRow.id).Nodup := by
  constructor
  · intro r hr
    have hmem := mem_of_mem_take hr
    rw [mem_insertionSort, mem_filter, mem_rowsOf, decide_eq_true_eq] at hmem
    exact ⟨hmem.1.1, hmem.1.2, hmem.2.1⟩
  · have hnodup : ((s.rowsOf p.id).map BootstrapImportRow.id).Nodup :=
      (Sublist.map _ filter_sublist).nodup (nodup_row_ids s)
    have hfilter : ∀ q : BootstrapImportRow → Bool,
        (((s.rowsOf p.id).filter q).map BootstrapImportRow.id).Nodup := fun q =>
      (Sublist.map _ filter_sublist).nodup hnodup
    refine (Sublist.map _ (take_sublist _ _)).nodup ?_
    exact ((perm_insertionSort _ _).map _).nodup_iff.mpr (hfilter _)

variable {id : String}

theorem confirm_moves {input : BootstrapConfirmInput}
    (h : confirm rt s auth id input draw = .ok s') : Moves rt Q s s' := by
  simp only [confirm, bind_ok_iff] at h
  obtain ⟨-, -, p, hp, h⟩ := h
  split at h
  · simp only [replayConfirm, ok_iff] at h
    obtain ⟨-, -, _, -, -, -, -, -, rfl⟩ := h
    exact Moves.refl s
  simp only [confirmReady, bind_ok_iff] at h
  obtain ⟨-, -, -, -, -, -, s₁, hcommits, s₂, hadvance, hrec⟩ := h
  obtain ⟨hready, hnodup⟩ := readyRows_spec
  have hmoves := commitRows_moves (Q := Q) (package_mem hp) hready hnodup hcommits
  obtain rfl := updatePackage_ok hadvance
  obtain ⟨receipts, hcreate, rfl⟩ := addReceipt_ok hrec
  exact (hmoves.trans Move.advanced.moves).trans (Move.recorded (.inl rfl) hcreate).moves

theorem decideItem_moves {packageId : Uuid} {item : BootstrapBlockItem}
    (hQ : Q item.decision) (h : decideItem rt auth id packageId s item = .ok s') :
    Moves rt Q s s' := by
  simp only [decideItem, bind_ok_iff] at h
  obtain ⟨_, -, -, -, h⟩ := h
  exact decide_moves hQ h

theorem confirmBlock_moves {input : BootstrapBlockInput}
    (h : confirmBlock rt s auth id p input draw = .ok s') : Moves rt Q s s' := by
  rw [confirmBlock] at h
  split at h
  · obtain rfl := updatePackage_ok h
    exact Move.advanced.moves
  · exact confirm_moves h

theorem executeBlock_moves {input : BootstrapBlockInput}
    (hQ : ∀ item ∈ input.items, Q item.decision)
    (h : executeBlock rt s auth id input draw = .ok s') : Moves rt Q s s' := by
  simp only [executeBlock, bind_ok_iff] at h
  obtain ⟨-, -, p, hp, -, -, h⟩ := h
  split at h
  · simp only [ok_iff] at h
    obtain ⟨-, -, -, -, rfl⟩ := h
    exact Moves.refl s
  simp only [executeItems, bind_ok_iff] at h
  obtain ⟨-, -, s₁, hitems, s₂, hconfirm, _, -, -, -, hrec⟩ := h
  have hdecided : Moves rt Q s s₁ :=
    foldlM_keeps (I := Moves rt Q s) (fun item hitem _ _ hmoves hstep =>
      hmoves.trans (decideItem_moves (hQ item hitem) hstep)) (Moves.refl s) hitems
  obtain ⟨receipts, hcreate, rfl⟩ := addReceipt_ok hrec
  exact (hdecided.trans (confirmBlock_moves hconfirm)).trans (Move.recorded (.inr rfl) hcreate).moves

/-! ### The machine -/

inductive ImportCall
  | mapping (id : String) (input : HistoricalMappingInput)
  | decide (id rowId : String) (input : HistoricalDecisionInput)
  | reopen (id rowId : String) (input : BootstrapReopenInput)
  | confirm (id : String) (input : BootstrapConfirmInput)
  | executeBlock (id : String) (input : BootstrapBlockInput)

/-- A call, with who makes it and what the world gives to it. -/
structure ImportAction where
  auth : Authority
  draw : Draw
  call : ImportCall

def serve (rt : ImportRuntime) (s : ImportStore) (a : ImportAction) : Outcome ImportStore :=
  match a.call with
  | .mapping id input => mapping rt s a.auth id input a.draw
  | .decide id rowId input => decide rt s a.auth id rowId input
  | .reopen id rowId input => reopen rt s a.auth id rowId input
  | .confirm id input => confirm rt s a.auth id input a.draw
  | .executeBlock id input => executeBlock rt s a.auth id input a.draw

def importer (rt : ImportRuntime) : Machine ImportStore ImportAction (Outcome Unit) where
  step s a :=
    match serve rt s a with
    | .error e => (.error e, s)
    | .ok s' => (.ok (), s')

def ImportCall.decisions : ImportCall → List HistoricalDecisionInput
  | decide _ _ input => [input]
  | executeBlock _ input => input.items.map BootstrapBlockItem.decision
  | _ => []

theorem serve_moves {a : ImportAction} (hQ : ∀ input ∈ a.call.decisions, Q input)
    (h : serve rt s a = .ok s') : Moves rt Q s s' := by
  obtain ⟨auth, draw, call⟩ := a
  cases call with
  | mapping id input => exact mapping_moves h
  | decide id rowId input => exact decide_moves (hQ input mem_cons_self) h
  | reopen id rowId input => exact reopen_moves h
  | confirm id input => exact confirm_moves h
  | executeBlock id input =>
    exact executeBlock_moves (fun item hitem => hQ _ (mem_map_of_mem hitem)) h

/-- **Every step of the import is made of moves.** -/
theorem importer_moves {a : ImportAction} (hQ : ∀ input ∈ a.call.decisions, Q input) :
    Moves rt Q s ((importer rt).next s a) := by
  cases hserve : serve rt s a with
  | error e =>
    rw [Machine.next, importer]
    simp only [hserve]
    exact Moves.refl s
  | ok s' =>
    rw [Machine.next, importer]
    simp only [hserve]
    exact serve_moves hQ hserve

end CrmYnov.Bootstrap
