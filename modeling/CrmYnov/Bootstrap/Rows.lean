import CrmYnov.Bootstrap.Custody

/-!
# The states of a row

Whatever the calls of the import and their order, a row has a dossier exactly when it was
accepted, one receipt exactly when it was carried out, a valid deferral when it is deferred;
its version grows whenever it is written, and a key that was withdrawn is that of no decision
any more (`CrmYnov.Bootstrap.rows_in_step`).
-/

namespace CrmYnov.Bootstrap

open Checked Machine List Option

variable {rt : ImportRuntime} {Q : HistoricalDecisionInput → Prop} {s s' : ImportStore}
  {row : BootstrapImportRow} {p : BootstrapImportPackage} {auth : Authority}

/-! ### What a stage says of a row -/

variable {r : BootstrapImportRow}

theorem Stage.lead_isSome (h : Stage rt s r) : r.leadId.isSome ↔ r.state = .ACCEPTED := by
  cases h with
  | review hstate _ _ hlead => simp [hlead, hstate]
  | ready _ hstate _ hlead => simp [hlead, hstate]
  | deferred _ _ _ _ _ _ _ _ hvalid => simp [hvalid.1, hvalid.2.1]
  | accepted _ _ hstate _ himported => simp [himported.lead, hstate]
  | ignored _ hstate _ _ hlead _ => simp [hlead, hstate]

theorem Stage.committed (h : Stage rt s r) (hsettled : r.state.Settled) :
    ∃ c ∈ s.receipts.rows, c.operation = .COMMIT_ROW ∧ c.packageId = r.packageId ∧
      c.key = r.id.val := by
  cases h with
  | review hstate _ _ _ => exact absurd hsettled (not_settled_of_review hstate)
  | ready _ hstate _ _ => exact absurd hsettled (not_settled_of_ready hstate)
  | deferred _ _ _ _ _ _ _ _ hvalid =>
    rw [hvalid.1] at hsettled
    exact absurd hsettled (by decide)
  | accepted _ _ _ _ himported => exact ⟨_, himported.receipt, rfl, rfl, rfl⟩
  | ignored _ _ _ _ _ hrec => exact ⟨_, hrec, rfl, rfl, rfl⟩

theorem Stage.key (h : Stage rt s r) {d : Decision} (hd : r.decision = some d) :
    r.decisionKey = some d.idempotencyKey := by
  cases h with
  | review _ hdec _ _ =>
    rw [hdec] at hd
    cases hd
  | ready d' _ hresolved _ =>
    obtain rfl := mem_unique hresolved.decision hd
    exact hresolved.key
  | deferred _ _ _ _ _ _ _ _ hvalid =>
    obtain ⟨-, -, -, -, -, -, d', hd', binding, -, hbound, -⟩ := hvalid
    obtain rfl := some.inj ((show r.decision = some d' from hd').symm.trans hd)
    exact hbound.2.2.2.2.2.2.1.symm
  | accepted d' _ _ hresolved _ =>
    obtain rfl := mem_unique hresolved.decision hd
    exact hresolved.key
  | ignored d' _ hresolved _ _ _ =>
    obtain rfl := mem_unique hresolved.decision hd
    exact hresolved.key

theorem Stage.key_of_review (h : Stage rt s r) (hstate : r.state = .REVIEW) :
    r.decisionKey = none := by
  cases h with
  | review _ _ hkey _ => exact hkey
  | ready _ hready _ _ => cases hstate.symm.trans hready
  | deferred _ _ _ _ _ _ _ _ hvalid => cases hstate.symm.trans hvalid.1
  | accepted _ _ hacc _ _ => cases hstate.symm.trans hacc
  | ignored _ hignored _ _ _ _ => cases hstate.symm.trans hignored

/-! ### Receipts under a key -/

variable {packageId : Uuid} {c : BootstrapImportReceipt}

theorem mem_receiptsOf {operation : ReceiptOperation} :
    c ∈ s.receiptsOf packageId operation ↔
      c ∈ s.receipts.rows ∧ c.packageId = packageId ∧ c.operation = operation := Table.mem_findMany

theorem receiptsOf_filter {operation : ReceiptOperation} (hc : c ∈ s.receiptsOf packageId operation) :
    (s.receiptsOf packageId operation).filter (fun x => x.key = c.key) = [c] := by
  obtain ⟨hmem, hpack, hop⟩ := mem_receiptsOf.mp hc
  have hall : ∀ x ∈ (s.receiptsOf packageId operation).filter (fun x => x.key = c.key), x = c := by
    intro x hx
    obtain ⟨hx, hkey⟩ := mem_filter.mp hx
    obtain ⟨hxmem, hxpackage, hxoperation⟩ := mem_receiptsOf.mp hx
    refine s.receipts.eq_of_key hxmem hmem (k := (c.packageId, c.operation, c.key)) ?_ ?_
    · simp [BootstrapImportReceipt.keys, hxpackage, hxoperation, hpack, hop,
        of_decide_eq_true hkey]
    · simp [BootstrapImportReceipt.keys]
  have hnodup : ((s.receiptsOf packageId operation).filter fun x => x.key = c.key).Nodup := by
    refine (filter_sublist.trans filter_sublist).nodup ?_
    exact Nodup.of_map _ (s.receipts.nodup_keys (k := fun x => (x.packageId, x.operation, x.key))
      fun x => by simp [BootstrapImportReceipt.keys])
  refine perm_singleton.mp ((perm_ext_iff_of_nodup hnodup (nodup_singleton c)).mpr ?_)
  intro x
  rw [mem_singleton]
  refine ⟨hall x, fun heq => ?_⟩
  rw [heq]
  exact mem_filter.mpr ⟨hc, decide_eq_true rfl⟩

theorem ValidDeferral.of_receipt {sha256 : Sha} (h : ValidDeferral rt sha256 row [c])
    (hc : c ∈ s.receiptsOf packageId .DEFER_ROW) (hkey : some c.key = row.decisionKey) :
    ValidDeferral rt sha256 row (s.receiptsOf packageId .DEFER_ROW) := by
  obtain ⟨hstate, hlead, hsha, hplan, hver, hintact, decision, hdec, binding, hbinding, hbound,
    -, hmatches⟩ := h
  have hfilter : ((s.receiptsOf packageId .DEFER_ROW).filter fun x => some x.key = row.decisionKey) =
      [c] := by
    rw [← hkey]
    simp only [some.injEq]
    exact receiptsOf_filter hc
  refine ⟨hstate, hlead, hsha, hplan, hver, hintact, decision, hdec, binding, hbinding, hbound,
    ?_, ?_⟩
  · rw [hfilter]
    rfl
  · rw [hfilter]
    intro x hx
    rw [mem_singleton.mp hx]
    exact hmatches c (mem_filter.mpr ⟨mem_singleton_self c, decide_eq_true hkey⟩)

/-! ### The rows, in every state -/

variable (rt) in
structure InStep (s : ImportStore) : Prop where
  lead : ∀ r ∈ s.rows.rows, r.leadId.isSome ↔ r.state = .ACCEPTED
  committed : ∀ r ∈ s.rows.rows, ((s.receiptsOf r.packageId .COMMIT_ROW).filter
    fun c => c.key = r.id.val).length = if r.state.Settled then 1 else 0
  receipts : ∀ c ∈ s.receipts.rows, c.operation = .COMMIT_ROW →
    ∃ r ∈ s.rows.rows, r.state.Settled ∧ r.packageId = c.packageId ∧ c.key = r.id.val
  deferred : ∀ r ∈ s.rows.rows, r.state = .DEFERRED → ∃ p ∈ s.packages.rows, p.id = r.packageId ∧
    ValidDeferral rt p.sha256 r (s.receiptsOf p.id .DEFER_ROW)

theorem Inv.inStep (h : Inv rt s) : InStep rt s where
  lead r hr := (h.staged r hr).lead_isSome
  committed r hr := by
    split
    · rename_i hsettled
      obtain ⟨c, hc, hop, hpack, hkey⟩ := (h.staged r hr).committed hsettled
      rw [← hkey, receiptsOf_filter (mem_receiptsOf.mpr ⟨hc, hpack, hop⟩)]
      rfl
    · rename_i hopen
      rw [length_eq_zero_iff, filter_eq_nil_iff]
      intro c hc hkey
      obtain ⟨hc, hpack, hop⟩ := mem_receiptsOf.mp hc
      obtain ⟨r', hr', hsettled, -, hkey'⟩ := h.owned.receipts c hc hop
      have hid : r'.id = r.id := Subtype.ext (hkey'.symm.trans (of_decide_eq_true hkey))
      rw [ImportStore.row_ext hr hr' hid] at hsettled
      exact hopen hsettled
  receipts := h.owned.receipts
  deferred r hr hstate := by
    cases h.staged r hr with
    | review hreview _ _ _ => cases hstate.symm.trans hreview
    | ready _ hready _ _ => cases hstate.symm.trans hready
    | deferred p c hp hid hc hpack hop hkey hvalid =>
      refine ⟨p, hp, hid, hvalid.of_receipt (mem_receiptsOf.mpr ⟨hc, ?_, hop⟩) hkey⟩
      rw [hid, hpack]
    | accepted _ _ hacc _ _ => cases hstate.symm.trans hacc
    | ignored _ hignored _ _ _ _ => cases hstate.symm.trans hignored

/-! ### Keys that are withdrawn -/

variable {k : String}

theorem Inv.superseded (h : Inv rt s) (hk : s.Superseded packageId k) :
    ∀ r ∈ s.rows.rows, r.packageId = packageId → r.decisionKey ≠ some k ∧
      ∀ d ∈ r.decision, d.idempotencyKey ≠ k := by
  obtain ⟨c, hc, hprev⟩ := hk
  obtain ⟨hc, hpack, hop⟩ := mem_receiptsOf.mp hc
  intro r hr hid
  have hkey := h.keyed.superseded c hc hop k hprev r hr (hid.trans hpack.symm)
  refine ⟨hkey, fun d hd heq => hkey ?_⟩
  rw [(h.staged r hr).key hd, heq]

def Held (s : ImportStore) (packageId rowId : Uuid) (k : String) : Prop :=
  (∃ r ∈ s.rows.rows, r.id = rowId ∧ r.packageId = packageId ∧ r.decisionKey = some k) ∨
    s.Superseded packageId k

theorem Move.receipts (hmove : Move rt Q s s') : s.receipts.rows ⊆ s'.receipts.rows := by
  cases hmove with
  | deferred _ _ _ _ _ _ _ _ _ _ _ hrecs => exact subset_of_create hrecs
  | reopened _ _ _ _ _ hrecs => exact subset_of_create hrecs
  | ignored _ _ _ _ _ hrecs => exact subset_of_create hrecs
  | imported _ _ _ _ _ _ _ _ _ _ hrecs => exact subset_of_create hrecs
  | recorded _ hrecs => exact subset_of_create hrecs
  | mapped | decided | created | advanced => exact Subset.refl _

theorem superseded_of_subset (h : s.Superseded packageId k)
    (hsubset : s.receipts.rows ⊆ s'.receipts.rows) : s'.Superseded packageId k := by
  obtain ⟨c, hc, hprev⟩ := h
  obtain ⟨hc, hfacts⟩ := mem_receiptsOf.mp hc
  exact ⟨c, mem_receiptsOf.mpr ⟨hsubset hc, hfacts⟩, hprev⟩

variable {rowId : Uuid}

theorem Held.rewrite {row' : BootstrapImportRow} (h : Held s packageId rowId k)
    (hrewrites : Rewrites s s' row row') (hsubset : s.receipts.rows ⊆ s'.receipts.rows)
    (hkept : ∀ k, row.decisionKey = some k →
      row'.decisionKey = some k ∨ s'.Superseded row.packageId k) : Held s' packageId rowId k := by
  rcases h with ⟨r, hr, hid, hpack, hk⟩ | hsuperseded
  · by_cases heq : r = row
    · subst heq
      rcases hkept k hk with hsame | hwithdrawn
      · refine .inl ⟨row', hrewrites.written, hrewrites.later.id_eq.trans hid, ?_, hsame⟩
        rw [hrewrites.later.packageId_eq, hpack]
      · rw [← hpack]
        exact .inr hwithdrawn
    · exact .inl ⟨r, hrewrites.kept hr heq, hid, hpack, hk⟩
  · exact .inr (superseded_of_subset hsuperseded hsubset)

/-- **A key is not lost**: the row keeps it, or a receipt says that it was withdrawn. -/
theorem Held.move (h : Held s packageId rowId k) (hinv : Inv rt s) (hmove : Move rt Q s s') :
    Held s' packageId rowId k := by
  have hnone : ∀ row ∈ s.rows.rows, row.state = .REVIEW → ∀ k, row.decisionKey ≠ some k := by
    intro row hrow hstate k
    rw [(hinv.staged row hrow).key_of_review hstate]
    exact (some_ne_none k).symm
  cases hmove with
  | mapped hp hbatch hplan hfirst hcommented hlimit hbatches hplans hrows =>
    have hmaps := maps_of_mapped hinv.grounded hp hbatch hplan hfirst hcommented hlimit hbatches hplans
      hrows
    rcases h with ⟨r, hr, hfacts⟩ | hsuperseded
    · exact .inl ⟨r, hmaps.mem_rows.mpr (.inl hr), hfacts⟩
    · exact .inr hsuperseded
  | decided hrow hstate _ _ _ _ _ _ =>
    exact h.rewrite (rewrites_decided hrow) (Subset.refl _)
      fun k hk => absurd hk (hnone _ hrow hstate k)
  | deferred _ hrow _ hstate _ _ _ _ _ _ _ hrecs =>
    exact h.rewrite (rewrites_deferred hrow) (subset_of_create hrecs)
      fun k hk => absurd hk (hnone _ hrow hstate k)
  | reopened hrow hpack _ _ hkey hrecs =>
    refine h.rewrite (rewrites_reopened hrow) (subset_of_create hrecs) fun k hk => .inr ?_
    exact ⟨_, mem_receiptsOf.mpr ⟨(Table.mem_create hrecs).mpr (.inr rfl), hpack.symm, rfl⟩,
      hkey.symm.trans hk⟩
  | created _ _ => exact h
  | ignored hrow _ _ _ _ hrecs =>
    exact h.rewrite (rewrites_ignored _ hrow) (subset_of_create hrecs) fun k hk => .inl hk
  | imported _ _ hrow _ _ _ _ _ _ _ hrecs =>
    exact h.rewrite (rewrites_imported _ _ _ _ hrow) (subset_of_create hrecs)
      fun k hk => .inl hk
  | advanced => exact h
  | recorded _ hrecs =>
    exact h.imp_right fun hsuperseded => superseded_of_subset hsuperseded (subset_of_create hrecs)

theorem Held.next (h : Held s packageId rowId k) (hinv : Inv rt s) (a : ImportAction) :
    Held ((importer rt).next s a) packageId rowId k :=
  ((importer_moves (Q := fun _ => True) fun _ _ => trivial).keep
    (I := fun x => Inv rt x ∧ Held x packageId rowId k)
    (fun _ _ hx hmove => ⟨hx.1.move hmove, hx.2.move hx.1 hmove⟩) ⟨hinv, h⟩).2

theorem decide_ne_ok {id rowId : String} {input : HistoricalDecisionInput}
    (hid : Uuid.read id = some packageId) (h : s.Superseded packageId input.idempotencyKey) :
    decide rt s auth id rowId input ≠ .ok s' := by
  intro hok
  obtain ⟨-, p, -, hp, -, hnew, -⟩ := decide_ok hok
  obtain ⟨u, hu, hpack⟩ := package_ok hp
  rw [hid, some.injEq] at hu
  rw [(ImportStore.package_eq_some.mp hpack).2, ← hu] at hnew
  exact hnew h

/-! ### Every run -/

theorem Inv.run (h : Inv rt s) (as : List ImportAction) : Inv rt ((importer rt).run s as) :=
  (throughout_of_step (I := Inv rt) (fun _ a hs => hs.next a) h as).last

theorem superseded_run (h : s.Superseded packageId k) (as : List ImportAction) :
    ((importer rt).run s as).Superseded packageId k := by
  refine run_of_stable (P := fun x : ImportStore => x.Superseded packageId k)
    (fun x a hx => ?_) h as
  exact (importer_moves (Q := fun _ => True) fun _ _ => trivial).keep
    (I := fun x : ImportStore => x.Superseded packageId k)
    (fun _ _ hx hmove => superseded_of_subset hx hmove.receipts) hx

theorem run_grows (s : ImportStore) (as : List ImportAction) :
    s.rows.Grows Later ((importer rt).run s as).rows := by
  induction as generalizing s with
  | nil => exact Table.Grows.refl _
  | cons a as ih =>
    have hstep : s.rows.Grows Later ((importer rt).next s a).rows :=
      (importer_moves (Q := fun _ => True) fun _ _ => trivial).grows
    exact hstep.trans (fun _ _ _ => Later.trans) (ih _)

theorem Held.run (h : Held s packageId rowId k) (hinv : Inv rt s) (as : List ImportAction) :
    Held ((importer rt).run s as) packageId rowId k :=
  (throughout_of_step (I := fun x => Inv rt x ∧ Held x packageId rowId k)
    (fun _ a hx => ⟨hx.1.next a, hx.2.next hx.1 a⟩) ⟨hinv, h⟩ as).last.2

/-- **The rows of the ledger, in every run**: in every state, a row has a dossier exactly when
it was accepted, one receipt of the commit exactly when it was accepted or ignored, and a valid
deferral with its receipt when it is deferred; from one state to a later one a row is the same
or has a greater version; and when a row no longer has the key of a decision it had, no row of
its package ever has this key again, and a decision under this key is refused. -/
theorem rows_in_step (hstart : Start s) (as : List ImportAction) :
    (importer rt).Throughout (InStep rt) s as ∧
      (∀ before after, as = before ++ after → ((importer rt).run s before).rows.Grows Later
        ((importer rt).run s as).rows) ∧ ∀ before between after, as = before ++ (between ++ after) →
        ∀ r ∈ ((importer rt).run s before).rows.rows,
        ∀ r' ∈ ((importer rt).run s (before ++ between)).rows.rows, r'.id = r.id →
        ∀ k, r.decisionKey = some k → r'.decisionKey ≠ some k →
          (∀ x ∈ ((importer rt).run s as).rows.rows, x.packageId = r.packageId →
            x.decisionKey ≠ some k ∧ ∀ d ∈ x.decision, d.idempotencyKey ≠ k) ∧
          ∀ auth id rowId input s', Uuid.read id = some r.packageId → input.idempotencyKey = k →
            decide rt ((importer rt).run s as) auth id rowId input ≠ .ok s' := by
  have hinv : Inv rt s := hstart.inv
  refine ⟨fun before _ => (hinv.run before).inStep, fun before after has => ?_, ?_⟩
  · rw [has, run_append]
    exact run_grows _ after
  · intro before between after has r hr r' hr' hid k hk hk'
    rw [has, run_append, run_append]
    rw [run_append] at hr'
    have hbefore : Held ((importer rt).run s before) r.packageId r.id k :=
      .inl ⟨r, hr, rfl, rfl, hk⟩
    have hsuperseded : ((importer rt).run ((importer rt).run s before) between).Superseded
        r.packageId k := by
      rcases hbefore.run (hinv.run before) between with ⟨x, hx, hxid, -, hxk⟩ | hsuperseded
      · rw [ImportStore.row_ext hx hr' (hid.trans hxid.symm)] at hk'
        exact absurd hxk hk'
      · exact hsuperseded
    have hlater : (((importer rt).run ((importer rt).run ((importer rt).run s before) between)
        after)).Superseded r.packageId k := superseded_run hsuperseded after
    refine ⟨((hinv.run before |>.run between).run after).superseded hlater, ?_⟩
    intro auth id rowId input s' hread hkey
    refine decide_ne_ok hread ?_
    rwa [hkey]

namespace Sample

def campusId : String := "99999999-0000-4000-8000-000000000000"

def references : References.Store where
  references := .ofRows [⟨campusId, .CAMPUS, "rabat", "Rabat", "GLOBAL", .ACTIVE⟩,
    ⟨"99999999-0000-4000-8000-000000000002", .CAMPAIGN, "salon", "Salon", "GLOBAL", .ACTIVE⟩]
  keys := .ofRows [⟨campusId, .CAMPUS, "GLOBAL", "RABAT"⟩,
    ⟨"99999999-0000-4000-8000-000000000002", .CAMPAIGN, "GLOBAL", "SALON"⟩]
  availability := .empty

/-- A visitor of the first sheet, with a comment. -/
def visitor : SourceRow where
  rowNumber := 7
  cells := .ofList [("A", ⟨.str "Lovelace", none, "s", none, none⟩),
    ("B", ⟨.str "Ada", none, "s", none, none⟩), ("C", ⟨.str "ada@ynov.ma", none, "s", none, none⟩),
    ("D", ⟨.str "called twice", none, "s", none, none⟩)]

def sheetMapping (name : String) : HistoricalSheetMapping where
  name := name
  campaign := "Salon"
  fields := .ofList [("lastName", "A"), ("firstName", "B"), ("email", "C")]
  commentColumns := ["D"]
  ownerAliases := .empty

theorem rows_nodup (name : String) :
    ((if name = "JOBINTECH REACT" then [visitor] else []).map SourceRow.rowNumber).Nodup := by
  split <;> decide

def workbook : BootstrapImportPackage where
  id := ⟨"11111111-0000-4000-8000-000000000000", by decide⟩
  campusId := campusId
  sha256 := ⟨"0000000000000000000000000000000000000000000000000000000000000000", by decide⟩
  snapshot := some { sheets := historicalSheets.map fun name =>
    { name, relationId := name, columns := [⟨"A", "Nom"⟩]
      rows := if name = "JOBINTECH REACT" then [visitor] else []
      rows_nodup := rows_nodup name } }
  sealedAt := some 0

/-- A dossier the visitor may be linked to. -/
def dossier : Leads.LeadRow where
  id := "abcdef00-0000-4000-8000-000000000000"
  leadCode := "LD-2026-00000001"
  firstName := "Ada"
  lastName := "Lovelace"
  email := none
  phone := none
  campus := "rabat"
  campaign := "salon"
  educationLevel := "Bac"
  program := "info"
  source := "OTHER"
  status := .PROSPECT
  createdAt := 0

def store : ImportStore where
  db := { references := references, leads := .ofRows [dossier] }
  packages := .ofRows [workbook]

def author : Authority where
  actorId := ⟨"aaaaaaaa-0000-4000-8000-000000000000", by decide⟩
  may _ _ := true
  mayOnLead _ _ := true
  candidate _ := true

/-- What the world gives to the calls. -/
def draw : Draw where
  now := 0
  batchId := ⟨"22222222-0000-4000-8000-000000000000", by decide⟩
  planId := ⟨"33333333-0000-4000-8000-000000000000", by decide⟩
  rowId _ := ⟨"44444444-0000-4000-8000-000000000000", by decide⟩
  leadId _ := ⟨"55555555-0000-4000-8000-000000000000", by decide⟩

def mapped : ImportAction where
  auth := author
  draw := draw
  call := .mapping workbook.id.val {
    expectedVersion := 2, mappingVersion := "R8-v1", sheets := historicalSheets.map sheetMapping }

def decided (input : HistoricalDecisionInput) : ImportAction where
  auth := author
  draw := draw
  call := .decide workbook.id.val "44444444-0000-4000-8000-000000000000" input

/-- The visitor is linked to a dossier that a text names. -/
def link (target : String) : HistoricalDecisionInput where
  expectedVersion := 1
  idempotencyKey := "decision-1"
  action := .LINK_EXISTING
  targetLeadId := some target
  reason := "the same person"

def reopened : ImportAction where
  auth := author
  draw := draw
  call := .reopen workbook.id.val "44444444-0000-4000-8000-000000000000" {
    expectedVersion := 2, idempotencyKey := "reopening-1", reason := "another person" }

def ignore : HistoricalDecisionInput where
  expectedVersion := 3
  idempotencyKey := "decision-2"
  action := .IGNORE
  reason := "another person"

def confirmed : ImportAction where
  auth := author
  draw := draw
  call := .confirm workbook.id.val {
    expectedVersion := 3, idempotencyKey := "confirmation-1", confirmed := true }

end Sample

open Bootstrap.Sample

theorem start_store : Start store where
  rows := rfl
  receipts := rfl
  notes := rfl
  packages := by decide
  provenance v hv := absurd hv not_mem_nil

/-- The visitor is decided about, reopened and ignored: the first key is withdrawn for good. -/
theorem rows_in_step_of_withdrawn :
    Start store ∧
      (importer .plain).Throughout (InStep .plain) store [mapped,
        decided (link dossier.id), reopened,
        decided ignore, confirmed] ∧
      ∀ auth rowId input s', input.idempotencyKey = "decision-1" →
        decide .plain ((importer .plain).run store [mapped,
          decided (link dossier.id), reopened,
          decided ignore, confirmed]) auth workbook.id.val rowId input ≠
            .ok s' := by
  obtain ⟨hthroughout, -, hwithdrawn⟩ := @rows_in_step .plain store start_store [mapped,
    decided (link dossier.id), reopened, decided ignore,
    confirmed]
  refine ⟨start_store, hthroughout, ?_⟩
  have hrow : ∃ r ∈ ((importer .plain).run store [mapped,
      decided (link dossier.id)]).rows.rows, r.packageId = workbook.id ∧
        r.decisionKey = some "decision-1" ∧
        ∃ r' ∈ ((importer .plain).run store ([mapped,
          decided (link dossier.id)] ++ [reopened])).rows.rows,
            r'.id = r.id ∧ r'.decisionKey ≠ some "decision-1" := by decide +kernel
  obtain ⟨r, hr, hpack, hk, r', hr', hid, hk'⟩ := hrow
  obtain ⟨-, hrefused⟩ := hwithdrawn [mapped, decided (link dossier.id)]
    [reopened] [decided ignore, confirmed] rfl r hr r' hr' hid
    "decision-1" hk hk'
  intro auth rowId input s' hkey
  refine hrefused auth _ rowId input s' ?_ hkey
  rw [hpack]
  exact Uuid.read_val _

end CrmYnov.Bootstrap
