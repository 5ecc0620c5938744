import CrmYnov.Bootstrap.Ledger

/-!
# What every move keeps

Every move adds to what is stored (`CrmYnov.Bootstrap.Move.extends`), keeps what holds of the
ledger (`CrmYnov.Bootstrap.Inv.move`), and counts a version for every row it writes
(`CrmYnov.Bootstrap.Move.grows`). The moves are taken one by one: a mapping, the four that
write a row, and those that write no row.
-/

namespace CrmYnov.Bootstrap

open Checked Table BootstrapImportPackage List Option

variable {rt : ImportRuntime} {Q : HistoricalDecisionInput → Prop} {s s' : ImportStore}
  {row : BootstrapImportRow} {p : BootstrapImportPackage} {auth : Authority}

/-! ### Packages that are updated -/

theorem samePackage_refl (p : BootstrapImportPackage) : SamePackage p p := ⟨rfl, rfl, fun _ h => h⟩

theorem extends_of_rewrite (hpackages : s'.packages = s.packages)
    (hrecs : s.receipts.rows ⊆ s'.receipts.rows) (hnotes : s.notes.rows ⊆ s'.notes.rows)
    (hprovenances : s.db.leadProvenances.rows ⊆ s'.db.leadProvenances.rows)
    (hleads : s'.db.leads = s.db.leads) (htemps : s'.temperatures = s.temperatures) :
    Extends s s' where
  packages p hp := by
    rw [hpackages]
    exact ⟨p, hp, samePackage_refl p⟩
  receipts := hrecs
  notes := hnotes
  provenances := hprovenances
  leads := by
    rw [hleads]
    exact Subset.refl _
  temperatures := by
    rw [htemps]
    exact Subset.refl _

theorem subset_of_create {ρ κ : Type*} [DecidableEq κ] {keys : ρ → List κ} {t t' : Table ρ keys}
    {r : ρ} (h : t.create r = some t') : t.rows ⊆ t'.rows :=
  fun _ hx => (mem_create h).mpr (.inl hx)

theorem Grounded.unmapped (h : Grounded rt s) (hp : p ∈ s.packages.rows)
    (hfirst : ∀ x ∈ s.plans.rows, x.packageId ≠ p.id) : p.batchId = none := by
  by_contra hne
  obtain ⟨plan, hplan, hid⟩ := h.planned p hp (isSome_iff_ne_none.mpr hne)
  exact hfirst plan hplan hid

theorem map_packages {batchId : String} (hp : p ∈ s.packages.rows) (hnone : p.batchId = none)
    (q : BootstrapImportPackage) (hq : q ∈ s.packages.rows) :
    SamePackage q (if q.id = p.id then q.map batchId else q) := by
  split
  · rename_i hid
    obtain rfl := ImportStore.package_ext hp hq hid
    exact ⟨rfl, rfl, fun b hb => absurd (hnone.symm.trans hb) (by simp)⟩
  · exact samePackage_refl q

theorem advance_package (state : PackageState) (id : Uuid) (q : BootstrapImportPackage) :
    (if q.id = id then q.advance state else q).id = q.id ∧
      (if q.id = id then q.advance state else q).sha256 = q.sha256 ∧
      (if q.id = id then q.advance state else q).batchId = q.batchId := by
  split <;> exact ⟨rfl, rfl, rfl⟩

/-! ### The rows of a mapping -/

variable {r : BootstrapImportRow}

theorem plannedRows_spec {draw : Draw} {pending : List PendingRow}
    (hcommented : ∀ x ∈ pending, Commented x.mapped.comments x.source)
    (hr : r ∈ plannedRows rt p draw pending) :
    r.packageId = p.id ∧ Sourced rt p.sha256 r ∧ r.state = .REVIEW ∧ r.decision = none ∧
      r.decisionKey = none ∧ r.leadId = none := by
  obtain ⟨i, hi, rfl⟩ := mem_mapIdx.mp hr
  exact ⟨rfl, ⟨⟨rfl, rfl⟩, hcommented _ (getElem_mem hi), le_rfl⟩, rfl, rfl, rfl, rfl⟩

theorem Grounded.no_rows (h : Grounded rt s) (hp : p ∈ s.packages.rows) (hnone : p.batchId = none) :
    ∀ r ∈ s.rows.rows, r.packageId ≠ p.id := by
  intro r hr hid
  obtain ⟨q, hq, hqid, hbatch, -⟩ := h.rows r hr
  rw [ImportStore.package_ext hp hq (hqid.trans hid), hnone] at hbatch
  cases hbatch

variable (rt) in
/-- A package has been mapped: it has a batch of its own, and the rows that were planned. -/
structure Maps (s s' : ImportStore) (p : BootstrapImportPackage) (batchId : String)
    (planned : List BootstrapImportRow) : Prop where
  unmapped : p ∈ s.packages.rows ∧ p.batchId = none
  mapped : p.map batchId ∈ s'.packages.rows
  fresh : ∀ x ∈ s.db.ingestionBatches.rows, x.id ≠ batchId
  packages : ∀ q ∈ s.packages.rows, ∃ p' ∈ s'.packages.rows, SamePackage q p'
  packages_from : ∀ p' ∈ s'.packages.rows, ∃ q ∈ s.packages.rows, q.id = p'.id ∧
    (q.batchId = p'.batchId ∨ q = p ∧ p'.batchId = some batchId)
  plan : ∃ x ∈ s'.plans.rows, x.packageId = p.id
  plans : s.plans.rows ⊆ s'.plans.rows
  batch : ∃ x ∈ s'.db.ingestionBatches.rows, x.id = batchId
  batches : s.db.ingestionBatches.rows ⊆ s'.db.ingestionBatches.rows
  rows : s'.rows.rows = s.rows.rows ++ planned
  limit : planned.length ≤ 10000
  planned : ∀ r ∈ planned, r.packageId = p.id ∧ Sourced rt p.sha256 r ∧ r.state = .REVIEW ∧
    r.decision = none ∧ r.decisionKey = none ∧ r.leadId = none
  receipts : s'.receipts = s.receipts
  notes : s'.notes = s.notes
  provenances : s'.db.leadProvenances = s.db.leadProvenances
  leads : s'.db.leads = s.db.leads
  temperatures : s'.temperatures = s.temperatures

namespace Maps

variable {batchId : String} {planned : List BootstrapImportRow} (h : Maps rt s s' p batchId planned)
include h

theorem mem_rows : r ∈ s'.rows.rows ↔ r ∈ s.rows.rows ∨ r ∈ planned := by
  rw [h.rows, mem_append]

theorem extended : Extends s s' where
  packages := h.packages
  receipts := by
    rw [h.receipts]
    exact Subset.refl _
  notes := by
    rw [h.notes]
    exact Subset.refl _
  provenances := by
    rw [h.provenances]
    exact Subset.refl _
  leads := by
    rw [h.leads]
    exact Subset.refl _
  temperatures := by
    rw [h.temperatures]
    exact Subset.refl _

theorem batch_apart (hs : Grounded rt s) {q : BootstrapImportPackage} (hq : q ∈ s.packages.rows)
    {b : String} (hb : q.batchId = some b) : b ≠ batchId := by
  obtain ⟨x, hx, hxid⟩ := hs.batched q hq b hb
  exact fun heq => h.fresh x hx (hxid.trans heq)

theorem distinct (hs : Grounded rt s) : ∀ p₁ ∈ s'.packages.rows, ∀ p₂ ∈ s'.packages.rows, ∀ b,
    p₁.batchId = some b → p₂.batchId = some b → p₂.id = p₁.id := by
  intro p₁ hp₁ p₂ hp₂ b hb₁ hb₂
  obtain ⟨q₁, hq₁, hid₁, heq₁ | ⟨rfl, heq₁⟩⟩ := h.packages_from p₁ hp₁ <;>
    obtain ⟨q₂, hq₂, hid₂, heq₂ | ⟨rfl, heq₂⟩⟩ := h.packages_from p₂ hp₂
  · rw [← hid₁, ← hid₂]
    exact hs.distinct q₁ hq₁ q₂ hq₂ b (heq₁.trans hb₁) (heq₂.trans hb₂)
  · exact absurd (mem_unique hb₂ heq₂) (h.batch_apart hs hq₁ (heq₁.trans hb₁))
  · exact absurd (mem_unique hb₁ heq₁) (h.batch_apart hs hq₂ (heq₂.trans hb₂))
  · exact hid₂.symm.trans hid₁

theorem limited (hs : Grounded rt s) : ∀ p' ∈ s'.packages.rows, (s'.rowsOf p'.id).length ≤ 10000 := by
  intro p' hp'
  obtain ⟨q, hq, hid, -⟩ := h.packages_from p' hp'
  have hrows : s'.rowsOf p'.id = s.rowsOf q.id ++ planned.filter fun r => r.packageId = q.id := by
    rw [ImportStore.rowsOf, findMany, h.rows, filter_append, ← hid]
    rfl
  rw [hrows, length_append]
  by_cases hqp : q.id = p.id
  · have hold : s.rowsOf q.id = [] := by
      refine filter_eq_nil_iff.mpr fun r hr => ?_
      rw [decide_eq_true_eq, hqp]
      exact hs.no_rows h.unmapped.1 h.unmapped.2 r hr
    rw [hold, length_nil, Nat.zero_add]
    exact (length_filter_le _ _).trans h.limit
  · have hnone : planned.filter (fun r => r.packageId = q.id) = [] := by
      refine filter_eq_nil_iff.mpr fun r hr => ?_
      rw [decide_eq_true_eq, (h.planned r hr).1]
      exact fun heq => hqp heq.symm
    rw [hnone, length_nil, Nat.add_zero]
    exact hs.limited q hq

theorem grounded (hs : Grounded rt s) : Grounded rt s' where
  planned p' hp' hsome := by
    obtain ⟨q, hq, hid, heq | ⟨rfl, -⟩⟩ := h.packages_from p' hp'
    · obtain ⟨x, hx, hxid⟩ := hs.planned q hq (by rwa [heq])
      exact ⟨x, h.plans hx, hxid.trans hid⟩
    · obtain ⟨x, hx, hxid⟩ := h.plan
      exact ⟨x, hx, hxid.trans hid⟩
  batched p' hp' b hb := by
    obtain ⟨q, hq, -, heq | ⟨rfl, heq⟩⟩ := h.packages_from p' hp'
    · obtain ⟨x, hx, hxid⟩ := hs.batched q hq b (heq.trans hb)
      exact ⟨x, h.batches hx, hxid⟩
    · rw [heq, some.injEq] at hb
      rw [← hb]
      exact h.batch
  provenance v hv := by
    rw [h.provenances] at hv
    obtain ⟨x, hx, hxid⟩ := hs.provenance v hv
    exact ⟨x, h.batches hx, hxid⟩
  distinct := h.distinct hs
  rows r hr := by
    rcases h.mem_rows.mp hr with hold | hplanned
    · obtain ⟨q, hq, hid, hsome, hsourced⟩ := hs.rows r hold
      obtain ⟨p', hp', hsame⟩ := h.packages q hq
      obtain ⟨b, hb⟩ := isSome_iff_exists.mp hsome
      refine ⟨p', hp', hsame.id.trans hid, by rw [hsame.batchId b hb]; rfl, ?_⟩
      rwa [hsame.sha256]
    · obtain ⟨hid, hsourced, -⟩ := h.planned r hplanned
      exact ⟨p.map batchId, h.mapped, hid.symm, rfl, hsourced⟩
  limited := h.limited hs

theorem staged (hs : Staged rt s) : Staged rt s' := by
  intro r hr
  rcases h.mem_rows.mp hr with hold | hplanned
  · exact (hs r hold).mono h.extended
  · obtain ⟨-, -, hstate, hdec, hkey, hlead⟩ := h.planned r hplanned
    exact .review hstate hdec hkey hlead

theorem mem_of_key {k : String} (hr : r ∈ s'.rows.rows) (hk : r.decisionKey = some k) :
    r ∈ s.rows.rows := by
  rcases h.mem_rows.mp hr with hold | hplanned
  · exact hold
  · rw [(h.planned r hplanned).2.2.2.2.1] at hk
    cases hk

theorem keyed (hs : Keyed s) : Keyed s' where
  keys r hr r' hr' hpack k hk hk' :=
    hs.keys r (h.mem_of_key hr hk) r' (h.mem_of_key hr' hk') hpack k hk hk'
  superseded c hc hop k hk r hr hpack hkey := by
    rw [h.receipts] at hc
    exact hs.superseded c hc hop k hk r (h.mem_of_key hr hkey) hpack hkey

theorem owned (hs : Owned rt s) (hgrounded : Grounded rt s) : Owned rt s' := by
  refine hs.frame (fun r hr => h.mem_rows.mpr (.inl hr)) h.provenances h.notes (fun c hc => ?_)
    (fun p' hp' v hv hb => ?_) h.packages
  · rw [h.receipts] at hc
    exact .inl hc
  · obtain ⟨q, hq, hid, heq | ⟨rfl, heq⟩⟩ := h.packages_from p' hp'
    · exact ⟨q, hq, hid, heq.trans hb⟩
    · -- no provenance is of a batch that is new
      obtain ⟨x, hx, hxid⟩ := hgrounded.provenance v hv
      exact absurd (hxid.trans (mem_unique hb heq)) (h.fresh x hx)

theorem inv (hs : Inv rt s) : Inv rt s' :=
  ⟨h.grounded hs.grounded, h.staged hs.staged, h.keyed hs.keyed, h.owned hs.owned hs.grounded⟩

end Maps

theorem maps_of_mapped {batch : Ingestion.IngestionBatchRow} {plan : BootstrapImportPlan}
    {draw : Draw} {pending : List PendingRow} {ingestionBatches plans rows} (h : Grounded rt s)
    (hp : p ∈ s.packages.rows) (hbatch : batch.id = draw.batchId.val) (hplan : plan.packageId = p.id)
    (hfirst : ∀ x ∈ s.plans.rows, x.packageId ≠ p.id)
    (hcommented : ∀ x ∈ pending, Commented x.mapped.comments x.source) (hlimit : pending.length ≤ 10000)
    (hbatches : s.db.ingestionBatches.create batch = some ingestionBatches)
    (hplans : s.plans.create plan = some plans)
    (hrows : (plannedRows rt p draw pending).foldlM insert s.rows = .ok rows) :
    Maps rt s { s with
      db := { s.db with ingestionBatches }, plans, rows
      packages := s.packages.updateMany (fun q => q.id = p.id)
        (map draw.batchId.val) fun _ => rfl } p draw.batchId.val
      (plannedRows rt p draw pending) where
  unmapped := ⟨hp, h.unmapped hp hfirst⟩
  mapped := mem_map.mpr ⟨p, hp, if_pos rfl⟩
  fresh x hx hid := by
    have hfree := findUnique_of_create hbatches (k := .id batch.id)
      (by simp [Ingestion.IngestionBatchRow.keys])
    rw [findUnique_eq_none] at hfree
    exact hfree x hx (by simp [Ingestion.IngestionBatchRow.keys, hid, hbatch])
  packages q hq :=
    ⟨_, mem_map.mpr ⟨q, hq, rfl⟩, map_packages hp (h.unmapped hp hfirst) q hq⟩
  packages_from p' hp' := by
    obtain ⟨q, hq, rfl⟩ := mem_map.mp hp'
    refine ⟨q, hq, (map_packages hp (h.unmapped hp hfirst) q hq).id.symm, ?_⟩
    by_cases hid : q.id = p.id
    · rw [if_pos hid]
      exact .inr ⟨ImportStore.package_ext hp hq hid, rfl⟩
    · rw [if_neg hid]
      exact .inl rfl
  plan := ⟨plan, (mem_create hplans).mpr (.inr rfl), hplan⟩
  plans := subset_of_create hplans
  batch := ⟨batch, (mem_create hbatches).mpr (.inr rfl), hbatch⟩
  batches := subset_of_create hbatches
  rows := insertAll_rows hrows
  limit := by rwa [plannedRows, length_mapIdx]
  planned _ := plannedRows_spec hcommented
  receipts := rfl
  notes := rfl
  provenances := rfl
  leads := rfl
  temperatures := rfl

/-! ### Rows that are decided, deferred or reopened -/

theorem Inv.rewrite_open {row' : BootstrapImportRow} (h : Inv rt s) (hrewrites : Rewrites s s' row row')
    (hopen : ¬row.state.Settled) (hstage : Extends s s' → Stage rt s' row')
    (hfresh : FreshKey s row row'.decisionKey)
    (hnew : ∀ k, row'.decisionKey = some k → row.decisionKey = some k ∨ ¬s.Superseded row.packageId k)
    (hnotes : s'.notes = s.notes) (hdb : s'.db = s.db) (htemps : s'.temperatures = s.temperatures)
    (hsubset : s.receipts.rows ⊆ s'.receipts.rows)
    (hrecs : ∀ c ∈ s'.receipts.rows, c ∈ s.receipts.rows ∨ c.operation ≠ .COMMIT_ROW ∧
      (c.operation = .REOPEN_ROW → c.packageId = row.packageId ∧ row'.decisionKey = none ∧
        c.response.previousDecisionKey? = row.decisionKey)) : Inv rt s' := by
  have hext : Extends s s' := by
    refine extends_of_rewrite hrewrites.packages hsubset ?_ ?_ (by rw [hdb]) htemps
    · rw [hnotes]
      exact Subset.refl _
    · rw [hdb]
      exact Subset.refl _
  refine ⟨h.grounded.rewrite hrewrites fun v hv => ?_, h.staged.rewrite hrewrites hext (hstage hext),
    h.keyed.rewrite hrewrites hfresh hnew fun c hc => (hrecs c hc).imp_right And.right,
    h.owned.rewrite hrewrites hopen (fun c hc => ?_) (fun v hv => ?_) fun n hn => ?_⟩
  · rw [hdb] at hv
    exact .inl hv
  · exact (hrecs c hc).imp_right fun hnot hcommit => absurd hcommit hnot.1
  · rw [hdb] at hv
    exact .inl hv
  · rw [hnotes] at hn
    exact .inl hn

theorem not_settled_of_review {state : RowState} (h : state = .REVIEW) : ¬state.Settled := by
  rw [h]
  decide

theorem not_settled_of_ready {state : RowState} (h : state = .READY) : ¬state.Settled := by
  rw [h]
  decide

theorem Stage.lead_of_open (h : Stage rt s r) (hopen : ¬r.state.Settled) : r.leadId = none := by
  cases h with
  | review _ _ _ hlead => exact hlead
  | ready _ _ _ hlead => exact hlead
  | deferred _ _ _ _ _ _ _ _ hvalid => exact hvalid.2.1
  | accepted _ _ hstate _ _ => exact absurd (.inl hstate) hopen
  | ignored _ hstate _ _ _ _ => exact absurd (.inr hstate) hopen

theorem later_decide (state : RowState) (decision : Decision) (fingerprint : String)
    (r : BootstrapImportRow) : Later r (r.decide state decision fingerprint) :=
  ⟨rfl, Nat.lt_succ_self _⟩

theorem later_reopen (r : BootstrapImportRow) : Later r r.reopen := ⟨rfl, Nat.lt_succ_self _⟩

theorem later_settle (state : RowState) (leadId : Option String) (r : BootstrapImportRow) :
    Later r (r.settle state leadId) := ⟨rfl, Nat.lt_succ_self _⟩

variable {input : HistoricalDecisionInput}

theorem rewrites_decided (hrow : row ∈ s.rows.rows) :
    Rewrites s { s with
      rows := s.rows.updateMany (fun r => r.id = row.id)
        (BootstrapImportRow.decide .READY (resolution auth row input)
          ((resolution auth row input).fingerprint rt)) fun _ => rfl } row
      (row.decide .READY (resolution auth row input) ((resolution auth row input).fingerprint rt)) :=
  rewrites_of_update (by intro _; rfl) hrow (later_decide _ _ _ row) rfl rfl rfl rfl

/-- **A row that is decided** keeps what it was decided with. -/
theorem Inv.decided (h : Inv rt s) (hrow : row ∈ s.rows.rows) (hstate : row.state = .REVIEW)
    (hwf : input.Wellformed) (hact : input.action ≠ .DEFER)
    (hannotations : validateAnnotations input row.payload = .ok ())
    (hnew : ¬s.Superseded row.packageId input.idempotencyKey)
    (hfresh : FreshKey s row (some input.idempotencyKey)) :
    Inv rt { s with
      rows := s.rows.updateMany (fun r => r.id = row.id)
        (BootstrapImportRow.decide .READY (resolution auth row input)
          ((resolution auth row input).fingerprint rt)) fun _ => rfl } := by
  have hopen := not_settled_of_review hstate
  refine h.rewrite_open (rewrites_decided hrow) hopen (fun _ => ?_) hfresh (fun k hk => ?_) rfl rfl rfl
    (Subset.refl _) fun c hc => .inl hc
  · exact .ready (resolution auth row input) rfl
      ⟨rfl, rfl, rfl, hwf, hact, hannotations⟩ ((h.staged row hrow).lead_of_open hopen)
  · rw [← some.inj hk]
    exact .inr hnew

theorem rewrites_deferred {receipts} (hrow : row ∈ s.rows.rows) :
    Rewrites s { s with
      receipts
      rows := s.rows.updateMany (fun r => r.id = row.id)
        (BootstrapImportRow.decide .DEFERRED (deferral rt p.sha256 auth row input)
          ((deferral rt p.sha256 auth row input).fingerprint rt)) fun _ => rfl } row
      (row.decide .DEFERRED (deferral rt p.sha256 auth row input)
        ((deferral rt p.sha256 auth row input).fingerprint rt)) :=
  rewrites_of_update (by intro _; rfl) hrow (later_decide _ _ _ row) rfl rfl rfl rfl

variable {decision : Decision}

theorem binding_of_deferred {sha256 : Sha} {fingerprint : String} (hstate : row.state = .REVIEW) :
    deferralBinding rt sha256 { row.decide .DEFERRED decision fingerprint with
      state := .REVIEW, version := (row.decide .DEFERRED decision fingerprint).version - 1 } =
        deferralBinding rt sha256 row := by
  simp only [deferralBinding, BootstrapImportRow.decide, Nat.add_sub_cancel, hstate]

theorem bound_of_deferred {sha256 : Sha} (hstate : row.state = .REVIEW)
    (hver : (row.version : ℤ) = input.expectedVersion) (hwf : input.Wellformed)
    (hact : input.action = .DEFER) (hdec : decision = deferral rt sha256 auth row input) :
    BoundDeferral rt sha256 (row.decide .DEFERRED decision (decision.fingerprint rt)) decision
      (deferralBinding rt sha256 row) := by
  obtain ⟨-, -, hreason, hlen, -, hdefer, -⟩ := hwf
  rw [if_pos hact] at hdefer
  obtain ⟨-, hconf, htarget, hcycle, hannotations, hoverrides⟩ := hdefer
  have hsame : same rt (deferralBinding rt sha256 row).json
      (deferralBinding rt sha256 { row.decide .DEFERRED decision (decision.fingerprint rt) with
        state := .REVIEW
        version := (row.decide .DEFERRED decision (decision.fingerprint rt)).version - 1 }).json := by
    rw [binding_of_deferred hstate]
    exact rfl
  have hvalues : decision.toHistoricalDecisionInput = input ∧ decision.actorId = auth.actorId.val ∧
      decision.values = none := by
    rw [hdec]
    exact ⟨rfl, rfl, rfl⟩
  obtain ⟨hinput, hactor, hnone⟩ := hvalues
  refine ⟨?_, ?_, ?_, ?_, ?_, ?_, rfl, ?_, ?_, ?_, ?_, ?_, hsame, rfl⟩
  · rw [hinput, hact]
  · rw [hinput, hconf]
  · rw [hinput]
    exact hver.symm
  · rwa [hinput]
  · rwa [hinput]
  · rw [hactor]
    exact auth.actorId.isUuidText
  · rw [hinput, htarget]
  · rw [hinput, hcycle]
  · rw [hinput, hannotations]
  · rwa [hinput]
  · rw [hnone]
    rfl

/-- **A row that is deferred is validly so**, with the receipt of its deferral. -/
theorem valid_of_deferred (hsourced : Sourced rt p.sha256 row) (hstate : row.state = .REVIEW)
    (hver : (row.version : ℤ) = input.expectedVersion) (hlead : row.leadId = none)
    (hwf : input.Wellformed) (hact : input.action = .DEFER)
    (hdec : decision = deferral rt p.sha256 auth row input) {receipt : BootstrapImportReceipt}
    (hrec : receipt = deferralReceipt rt p auth row input) :
    ValidDeferral rt p.sha256 (row.decide .DEFERRED decision (decision.fingerprint rt)) [receipt] := by
  have hbound := bound_of_deferred hstate hver hwf hact hdec
  have hkey : some receipt.key = (row.decide .DEFERRED decision (decision.fingerprint rt)).decisionKey := by
    rw [hrec, hdec]
    rfl
  have hmatches : MatchesDeferral rt (row.decide .DEFERRED decision (decision.fingerprint rt)) decision
      (deferralBinding rt p.sha256 row) receipt := by
    rw [hrec, hdec]
    exact ⟨rfl, rfl, decide_eq_true rfl⟩
  have hfilter : ([receipt].filter fun c => some c.key =
      (row.decide .DEFERRED decision (decision.fingerprint rt)).decisionKey) = [receipt] := by
    rw [filter_singleton, decide_eq_true hkey]
    rfl
  refine ⟨rfl, hlead, p.sha256.2, row.planId.isUuidText, Nat.lt_succ_of_le hsourced.version,
    hsourced.intact, decision, rfl, deferralBinding rt p.sha256 row, ?_, hbound, ?_, ?_⟩
  · rw [hdec]
    rfl
  · rw [hfilter]
    rfl
  · rw [hfilter]
    intro c hc
    rwa [mem_singleton.mp hc]

theorem Inv.deferred {receipts} (h : Inv rt s) (hp : p ∈ s.packages.rows) (hrow : row ∈ s.rows.rows)
    (hpack : row.packageId = p.id) (hstate : row.state = .REVIEW)
    (hver : (row.version : ℤ) = input.expectedVersion) (hlead : row.leadId = none)
    (hwf : input.Wellformed) (hact : input.action = .DEFER)
    (hnew : ¬s.Superseded row.packageId input.idempotencyKey)
    (hfresh : FreshKey s row (some input.idempotencyKey))
    (hrecs : s.receipts.create (deferralReceipt rt p auth row input) = some receipts) :
    Inv rt { s with
      receipts
      rows := s.rows.updateMany (fun r => r.id = row.id)
        (BootstrapImportRow.decide .DEFERRED (deferral rt p.sha256 auth row input)
          ((deferral rt p.sha256 auth row input).fingerprint rt)) fun _ => rfl } := by
  have hsourced : Sourced rt p.sha256 row := by
    obtain ⟨q, hq, hid, -, hsourced⟩ := h.grounded.rows row hrow
    rwa [ImportStore.package_ext hp hq (hid.trans hpack)] at hsourced
  refine h.rewrite_open (rewrites_deferred hrow) (not_settled_of_review hstate) (fun _ => ?_) hfresh
    (fun k hk => ?_) rfl rfl rfl (subset_of_create hrecs) fun c hc => ?_
  · exact .deferred p (deferralReceipt rt p auth row input) hp hpack.symm
      ((mem_create hrecs).mpr (.inr rfl)) hpack.symm rfl rfl
      (valid_of_deferred hsourced hstate hver hlead hwf hact rfl rfl)
  · rw [← some.inj hk]
    exact .inr hnew
  · rcases (mem_create hrecs).mp hc with hold | rfl
    · exact .inl hold
    · exact .inr ⟨by simp [deferralReceipt], fun hreopen => by simp [deferralReceipt] at hreopen⟩

theorem rewrites_reopened {receipts} (hrow : row ∈ s.rows.rows) :
    Rewrites s { s with
      receipts
      rows := s.rows.updateMany (fun r => r.id = row.id) BootstrapImportRow.reopen fun _ => rfl } row
      row.reopen :=
  rewrites_of_update (by intro _; rfl) hrow (later_reopen row) rfl rfl rfl rfl

/-- **A row that is reopened waits again**, and the key of its decision is withdrawn. -/
theorem Inv.reopened {rowId key fingerprint : String} {input : BootstrapReopenInput} {receipts}
    (h : Inv rt s) (hrow : row ∈ s.rows.rows) (hpack : row.packageId = p.id)
    (hopen : row.state = .READY ∨ row.state = .DEFERRED) (hlead : row.leadId = none)
    (hkey : row.decisionKey = some key)
    (hrecs : s.receipts.create
      (reopenReceipt rt p auth row decision rowId key fingerprint input) = some receipts) :
    Inv rt { s with
      receipts
      rows := s.rows.updateMany (fun r => r.id = row.id) BootstrapImportRow.reopen fun _ => rfl } := by
  have hwaits : ¬row.state.Settled := by
    rcases hopen with hopen | hopen <;> rw [hopen] <;> decide
  refine h.rewrite_open (rewrites_reopened hrow) hwaits (fun _ => .review rfl rfl rfl hlead)
    (fun _ _ _ _ => .inl rfl) (fun k hk => ?_) rfl rfl rfl (subset_of_create hrecs) fun c hc => ?_
  · cases hk
  · rcases (mem_create hrecs).mp hc with hold | rfl
    · exact .inl hold
    · exact .inr ⟨by simp [reopenReceipt], fun _ => ⟨hpack.symm, rfl, hkey.symm⟩⟩

/-! ### Rows that are carried out -/

theorem rewrites_ignored (receipts) (hrow : row ∈ s.rows.rows) :
    Rewrites s { s with
      receipts
      rows := s.rows.updateMany (fun r => r.id = row.id)
        (BootstrapImportRow.settle .IGNORED row.leadId) fun _ => rfl } row
      (row.settle .IGNORED row.leadId) :=
  rewrites_of_update (by intro _; rfl) hrow (later_settle _ _ row) rfl rfl rfl rfl

theorem Inv.ignored {fingerprint : String} {receipts} (h : Inv rt s) (hrow : row ∈ s.rows.rows)
    (hstate : row.state = .READY) (hdec : row.decision = some decision)
    (hact : decision.action = .IGNORE)
    (hprint : row.decisionFingerprint = some fingerprint)
    (hrecs : s.receipts.create
      (commitReceipt row decision fingerprint decision.actorId none) = some receipts) :
    Inv rt { s with
      receipts
      rows := s.rows.updateMany (fun r => r.id = row.id)
        (BootstrapImportRow.settle .IGNORED row.leadId) fun _ => rfl } := by
  obtain ⟨hresolved, hlead⟩ := (h.staged row hrow).resolved_of_ready hstate hdec
  obtain rfl := mem_unique hprint hresolved.fingerprint
  have hrewrites := rewrites_ignored receipts hrow
  have hext : Extends s { s with
      receipts
      rows := s.rows.updateMany (fun r => r.id = row.id)
        (BootstrapImportRow.settle .IGNORED row.leadId) fun _ => rfl } :=
    extends_of_rewrite rfl (subset_of_create hrecs) (Subset.refl _) (Subset.refl _) rfl rfl
  have hcases : ∀ c ∈ receipts.rows, c ∈ s.receipts.rows ∨
      c = commitReceipt row decision (decision.fingerprint rt) decision.actorId none :=
    fun c hc => (mem_create hrecs).mp hc
  refine ⟨h.grounded.rewrite hrewrites fun v hv => .inl hv, h.staged.rewrite hrewrites hext ?_,
    h.keyed.rewrite hrewrites ?_ (fun k hk => .inl hk) (fun c hc => ?_),
    h.owned.rewrite hrewrites (not_settled_of_ready hstate) (fun c hc => ?_)
      (fun v hv => .inl hv) fun n hn => .inl hn⟩
  · exact .ignored decision rfl ⟨hresolved.decision, hresolved.key, hresolved.fingerprint,
      hresolved.wellformed, hresolved.action, hresolved.annotations⟩ hact hlead
      ((mem_create hrecs).mpr (.inr rfl))
  · exact h.keyed.apart hrow
  · exact (hcases c hc).imp_right fun heq hreopen => by
      rw [heq] at hreopen
      cases hreopen
  · exact (hcases c hc).imp_right fun heq _ => by
      rw [heq]
      exact ⟨.inr rfl, rfl, rfl⟩

theorem rewrites_imported (leadId : String) (leadProvenances notes receipts)
    (hrow : row ∈ s.rows.rows) :
    Rewrites s { s with
      db := { s.db with leadProvenances }, notes, receipts
      rows := s.rows.updateMany (fun r => r.id = row.id)
        (BootstrapImportRow.settle .ACCEPTED (some leadId)) fun _ => rfl } row
      (row.settle .ACCEPTED (some leadId)) :=
  rewrites_of_update (by intro _; rfl) hrow (later_settle _ _ row) rfl rfl rfl rfl

/-- **A row that is imported** has its dossier, its provenance, its notes and its receipt. -/
theorem Inv.imported {fingerprint batchId leadId : String} {leadProvenances notes receipts}
    (h : Inv rt s) (hp : p ∈ s.packages.rows) (hbatch : p.batchId = some batchId)
    (hrow : row ∈ s.rows.rows) (hpack : row.packageId = p.id) (hstate : row.state = .READY)
    (hdec : row.decision = some decision) (htarget : Target s decision leadId)
    (hprint : row.decisionFingerprint = some fingerprint)
    (hprov : s.db.leadProvenances.create (rowProvenance batchId row leadId) =
      some leadProvenances)
    (hnotes : (rowNotes rt p.sha256 row leadId).foldlM insert s.notes = .ok notes)
    (hrecs : s.receipts.create (commitReceipt row decision fingerprint decision.actorId
      (some (decision.named leadId))) = some receipts) :
    Inv rt { s with
      db := { s.db with leadProvenances }, notes, receipts
      rows := s.rows.updateMany (fun r => r.id = row.id)
        (BootstrapImportRow.settle .ACCEPTED (some leadId)) fun _ => rfl } := by
  obtain ⟨hresolved, -⟩ := (h.staged row hrow).resolved_of_ready hstate hdec
  obtain rfl := mem_unique hprint hresolved.fingerprint
  have hnewnotes : notes.rows = s.notes.rows ++ rowNotes rt p.sha256 row leadId := insertAll_rows hnotes
  have hkept : s.notes.rows ⊆ notes.rows := by
    rw [hnewnotes]
    exact subset_append_left _ _
  have hext : Extends s { s with
      db := { s.db with leadProvenances }, notes, receipts
      rows := s.rows.updateMany (fun r => r.id = row.id)
        (BootstrapImportRow.settle .ACCEPTED (some leadId)) fun _ => rfl } :=
    extends_of_rewrite rfl (subset_of_create hrecs) hkept (subset_of_create hprov) rfl rfl
  have hrewrites := rewrites_imported leadId leadProvenances notes receipts hrow
  have hcases : ∀ c ∈ receipts.rows, c ∈ s.receipts.rows ∨ c = commitReceipt row decision
      (decision.fingerprint rt) decision.actorId (some (decision.named leadId)) :=
    fun c hc => (mem_create hrecs).mp hc
  have hprovenances : ∀ v ∈ leadProvenances.rows, v ∈ s.db.leadProvenances.rows ∨
      v = rowProvenance batchId row leadId := fun v hv => (mem_create hprov).mp hv
  refine ⟨h.grounded.rewrite hrewrites fun v hv => ?_, h.staged.rewrite hrewrites hext ?_,
    h.keyed.rewrite hrewrites (h.keyed.apart hrow) (fun k hk => .inl hk) (fun c hc => ?_),
    h.owned.rewrite hrewrites (not_settled_of_ready hstate) (fun c hc => ?_) (fun v hv => ?_)
      fun n hn => ?_⟩
  · refine (hprovenances v hv).imp_right fun heq => ⟨p, hp, ?_⟩
    rw [heq]
    exact hbatch
  · exact .accepted decision leadId rfl ⟨hresolved.decision, hresolved.key, hresolved.fingerprint,
      hresolved.wellformed, hresolved.action, hresolved.annotations⟩
      { target := htarget.mono hext
        lead := rfl
        receipt := (mem_create hrecs).mpr (.inr rfl)
        effects := ⟨p, hp, hpack.symm, ⟨batchId, hbatch, (mem_create hprov).mpr
            (.inr rfl)⟩, fun n hn => by
          rw [hnewnotes]
          exact mem_append_right _ hn⟩ }
  · exact (hcases c hc).imp_right fun heq hreopen => by
      rw [heq] at hreopen
      cases hreopen
  · exact (hcases c hc).imp_right fun heq _ => by
      rw [heq]
      exact ⟨.inl rfl, rfl, rfl⟩
  · refine (hprovenances v hv).imp_right fun heq => ⟨leadId, rfl, rfl, ?_, fun q hq hqbatch => ?_⟩
    · rw [heq]
      rfl
    · rw [heq] at hqbatch
      exact hpack.trans (h.grounded.distinct q hq p hp batchId hqbatch hbatch)
  · have hn : n ∈ notes.rows := hn
    rw [hnewnotes, mem_append] at hn
    exact hn.imp_right fun hmem => ⟨leadId, p, hp, rfl, rfl, hpack.symm, hmem⟩

/-! ### What writes no row -/

theorem Inv.created {lead : Leads.LeadRow} {temperature : BaselineTemperature} {leads temperatures}
    (h : Inv rt s) (hleads : s.db.leads.create lead = some leads)
    (htemps : s.temperatures.create temperature = some temperatures) :
    Inv rt { s with db := { s.db with leads }, temperatures } := by
  have hext : Extends s { s with db := { s.db with leads }, temperatures } :=
    ⟨fun p hp => ⟨p, hp, samePackage_refl p⟩, Subset.refl _, Subset.refl _, Subset.refl _,
      subset_of_create hleads, subset_of_create htemps⟩
  exact ⟨h.grounded.frame rfl rfl rfl rfl (fun p hp => ⟨p, hp, rfl, rfl⟩)
    (fun p hp => ⟨p, hp, samePackage_refl p⟩), fun r hr => (h.staged r hr).mono hext,
    h.keyed.frame rfl fun c hc => .inl hc,
    h.owned.frame (Subset.refl _) rfl rfl (fun c hc => .inl hc)
      (fun p hp _ _ hb => ⟨p, hp, rfl, hb⟩) fun p hp => ⟨p, hp, samePackage_refl p⟩⟩

theorem Inv.advanced {packageId : Uuid} {state : PackageState} (h : Inv rt s) :
    Inv rt { s with
      packages := s.packages.updateMany (fun q => q.id = packageId)
        (advance state) fun _ => rfl } := by
  have hfrom : ∀ p' ∈ (s.packages.updateMany (fun q => q.id = packageId)
      (advance state) fun _ => rfl).rows, ∃ q ∈ s.packages.rows,
        q.id = p'.id ∧ q.batchId = p'.batchId := by
    intro p' hp'
    obtain ⟨q, hq, rfl⟩ := mem_map.mp hp'
    obtain ⟨hid, -, hbatch⟩ := advance_package state packageId q
    exact ⟨q, hq, hid.symm, hbatch.symm⟩
  have hto : ∀ q ∈ s.packages.rows, ∃ p' ∈ (s.packages.updateMany (fun q => q.id = packageId)
      (advance state) fun _ => rfl).rows, SamePackage q p' := by
    intro q hq
    obtain ⟨hid, hsha, hbatch⟩ := advance_package state packageId q
    exact ⟨_, mem_map.mpr ⟨q, hq, rfl⟩, hid, hsha, fun b hb => hbatch.trans hb⟩
  have hext : Extends s { s with
      packages := s.packages.updateMany (fun q => q.id = packageId)
        (advance state) fun _ => rfl } :=
    ⟨hto, Subset.refl _, Subset.refl _, Subset.refl _, Subset.refl _,
      Subset.refl _⟩
  refine ⟨h.grounded.frame rfl rfl rfl rfl hfrom hto, fun r hr => (h.staged r hr).mono hext,
    h.keyed.frame rfl fun c hc => .inl hc,
    h.owned.frame (Subset.refl _) rfl rfl (fun c hc => .inl hc) (fun p' hp' v _ hb => ?_) hto⟩
  obtain ⟨q, hq, hid, hbatch⟩ := hfrom p' hp'
  exact ⟨q, hq, hid, hbatch.trans hb⟩

theorem Inv.recorded {receipt : BootstrapImportReceipt} {receipts} (h : Inv rt s)
    (hop : receipt.operation = .CONFIRM ∨ receipt.operation = .EXECUTE_BLOCK)
    (hrecs : s.receipts.create receipt = some receipts) : Inv rt { s with receipts } := by
  have hext : Extends s { s with receipts } :=
    ⟨fun p hp => ⟨p, hp, samePackage_refl p⟩, subset_of_create hrecs, Subset.refl _,
      Subset.refl _, Subset.refl _, Subset.refl _⟩
  have hcases : ∀ c ∈ receipts.rows, c ∈ s.receipts.rows ∨ c = receipt :=
    fun c hc => (mem_create hrecs).mp hc
  refine ⟨h.grounded.frame rfl rfl rfl rfl (fun p hp => ⟨p, hp, rfl, rfl⟩)
    (fun p hp => ⟨p, hp, samePackage_refl p⟩), fun r hr => (h.staged r hr).mono hext,
    h.keyed.frame rfl fun c hc => (hcases c hc).imp_right fun heq => ?_,
    h.owned.frame (Subset.refl _) rfl rfl (fun c hc => (hcases c hc).imp_right fun heq => ?_)
      (fun p hp _ _ hb => ⟨p, hp, rfl, hb⟩) fun p hp => ⟨p, hp, samePackage_refl p⟩⟩
  all_goals
    rw [heq]
    rcases hop with hop | hop <;> rw [hop] <;> decide

/-! ### Every move -/

/-- **Every move keeps what holds of the ledger.** -/
theorem Inv.move (h : Inv rt s) (hmove : Move rt Q s s') : Inv rt s' := by
  cases hmove with
  | mapped hp hbatch hplan hfirst hcommented hlimit hbatches hplans hrows =>
    exact (maps_of_mapped h.grounded hp hbatch hplan hfirst hcommented hlimit hbatches hplans
      hrows).inv h
  | decided hrow hstate _ hwf hact hannotations hnew hfresh =>
    exact h.decided hrow hstate hwf hact hannotations hnew hfresh
  | deferred hp hrow hpack hstate hver hlead _ hwf hact hnew hfresh hrecs =>
    exact h.deferred hp hrow hpack hstate hver hlead hwf hact hnew hfresh hrecs
  | reopened hrow hpack hopen hlead hkey hrecs =>
    exact h.reopened hrow hpack hopen hlead hkey hrecs
  | created hleads htemps => exact h.created hleads htemps
  | ignored hrow hstate hdec hact hprint hrecs =>
    exact h.ignored hrow hstate hdec hact hprint hrecs
  | imported hp hbatch hrow hpack hstate hdec htarget hprint hprov hnotes
      hrecs =>
    exact h.imported hp hbatch hrow hpack hstate hdec htarget hprint hprov hnotes
      hrecs
  | advanced => exact h.advanced
  | recorded hop hrecs => exact h.recorded hop hrecs

/-- **Every move counts a version for every row it writes**, and loses no row. -/
theorem Move.grows (hmove : Move rt Q s s') : s.rows.Grows Later s'.rows := by
  cases hmove with
  | mapped _ _ _ _ _ _ _ _ hrows =>
    intro r hr
    refine ⟨r, ?_, .inl rfl⟩
    have hmem := insertAll_rows hrows
    simp only [hmem, mem_append, hr, true_or]
  | decided hrow _ _ _ _ _ _ _ => exact (rewrites_decided hrow).replaces.grows (later_decide _ _ _ _)
  | deferred _ hrow _ _ _ _ _ _ _ _ _ _ =>
    exact (rewrites_deferred hrow).replaces.grows (later_decide _ _ _ _)
  | reopened hrow _ _ _ _ _ => exact (rewrites_reopened hrow).replaces.grows (later_reopen _)
  | created _ _ => exact Grows.refl _
  | ignored hrow _ _ _ _ _ => exact (rewrites_ignored _ hrow).replaces.grows (later_settle _ _ _)
  | imported _ _ hrow _ _ _ _ _ _ _ _ =>
    exact (rewrites_imported _ _ _ _ hrow).replaces.grows (later_settle _ _ _)
  | advanced => exact Grows.refl _
  | recorded _ _ => exact Grows.refl _

theorem Moves.grows (hmoves : Moves rt Q s s') : s.rows.Grows Later s'.rows :=
  hmoves.keep (I := fun x => s.rows.Grows Later x.rows)
    (fun _ _ h hmove => h.trans (fun _ _ _ => Later.trans) hmove.grows) (Grows.refl _)

/-- **Every step keeps what holds of the ledger.** -/
theorem Inv.next (h : Inv rt s) (a : ImportAction) : Inv rt ((importer rt).next s a) :=
  (importer_moves (Q := fun _ => True) fun _ _ => trivial).keep (fun _ _ => Inv.move) h

end CrmYnov.Bootstrap
