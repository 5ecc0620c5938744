import CrmYnov.Bootstrap.Calls

/-!
# What the ledger keeps

Four things hold of the ledger whatever the order of the calls, and each is kept by every
move.

* Its rows are *grounded* (`CrmYnov.Bootstrap.Grounded`): every row belongs to a package that
  was mapped, and is as its source was read.
* Every row is at a *stage* (`CrmYnov.Bootstrap.Stage`): what its state promises is there, its
  receipt and its effects included. What is promised is kept by whatever adds to the tables
  (`CrmYnov.Bootstrap.Stage.mono`).
* Its receipts and its effects are *owned* (`CrmYnov.Bootstrap.Owned`): each of them belongs to
  a row that was carried out.
* Its decisions are *keyed* (`CrmYnov.Bootstrap.Keyed`): a key is that of one decision at most,
  and not of one that was withdrawn.
-/

namespace CrmYnov.Bootstrap

open Checked

variable (rt : ImportRuntime)

/-! ### Rows that change, stores that grow -/

/-- A row, and the same row later: its source is the same and its version has grown. -/
structure Later (r r' : BootstrapImportRow) : Prop where
  source : r' = { r with
    state := r'.state, version := r'.version, decision := r'.decision
    decisionKey := r'.decisionKey, decisionFingerprint := r'.decisionFingerprint
    leadId := r'.leadId }
  version : r.version < r'.version

theorem Later.trans {a b c : BootstrapImportRow} (h : Later a b) (h' : Later b c) : Later a c where
  source := by
    rw [h'.source, h.source]
  version := h.version.trans h'.version

theorem Later.id_eq {r r' : BootstrapImportRow} (h : Later r r') : r'.id = r.id := by
  rw [h.source]

theorem Later.packageId_eq {r r' : BootstrapImportRow} (h : Later r r') :
    r'.packageId = r.packageId := by rw [h.source]

structure SamePackage (p p' : BootstrapImportPackage) : Prop where
  id : p'.id = p.id
  sha256 : p'.sha256 = p.sha256
  batchId : ∀ b, p.batchId = some b → p'.batchId = some b

structure Extends (s s' : ImportStore) : Prop where
  packages : ∀ p ∈ s.packages.rows, ∃ p' ∈ s'.packages.rows, SamePackage p p'
  receipts : s.receipts.rows ⊆ s'.receipts.rows
  notes : s.notes.rows ⊆ s'.notes.rows
  provenances : s.db.leadProvenances.rows ⊆ s'.db.leadProvenances.rows
  leads : s.db.leads.rows ⊆ s'.db.leads.rows
  temperatures : s.temperatures.rows ⊆ s'.temperatures.rows

structure Rewrites (s s' : ImportStore) (row row' : BootstrapImportRow) : Prop where
  replaces : s.rows.Replaces s'.rows row row'
  later : Later row row'
  lengths : ∀ id, (s'.rowsOf id).length = (s.rowsOf id).length
  packages : s'.packages = s.packages
  plans : s'.plans = s.plans
  batches : s'.db.ingestionBatches = s.db.ingestionBatches

variable {rt} {s s' : ImportStore} {row row' : BootstrapImportRow}

theorem rewrites_of_update {f : BootstrapImportRow → BootstrapImportRow}
    (hf : ∀ r, (f r).keys = r.keys) (hrow : row ∈ s.rows.rows) (hlater : Later row (f row))
    (hrows : s'.rows = s.rows.updateMany (fun r => r.id = row.id) f hf)
    (hpackages : s'.packages = s.packages) (hplans : s'.plans = s.plans)
    (hbatches : s'.db.ingestionBatches = s.db.ingestionBatches) : Rewrites s s' row (f row) where
  replaces := by
    rw [hrows]
    exact Table.replaces_updateMany hrow fun x hx =>
      ⟨fun hid => ImportStore.row_ext hrow hx hid, fun heq => by rw [heq]⟩
  later := hlater
  lengths id := by
    simp only [ImportStore.rowsOf, Table.findMany, hrows, Table.updateMany,
      ← List.countP_eq_length_filter, List.countP_map]
    refine List.countP_congr fun r hr => ?_
    by_cases hid : r.id = row.id
    · obtain rfl := ImportStore.row_ext hrow hr hid
      simp only [Function.comp, if_pos, hlater.packageId_eq]
    · simp only [Function.comp, if_neg hid]
  packages := hpackages
  plans := hplans
  batches := hbatches

theorem Rewrites.kept (h : Rewrites s s' row row') {x : BootstrapImportRow} (hx : x ∈ s.rows.rows)
    (hne : x ≠ row) : x ∈ s'.rows.rows := (h.replaces.2 x).mpr (.inl ⟨hx, hne⟩)

theorem Rewrites.written (h : Rewrites s s' row row') : row' ∈ s'.rows.rows :=
  (h.replaces.2 row').mpr (.inr rfl)

/-! ### Grounded rows -/

variable (rt) in
structure Sourced (sha256 : Sha) (r : BootstrapImportRow) : Prop where
  intact : SourceIntact rt sha256 r
  commented : Commented r.mapped.comments r.payload
  version : 1 ≤ r.version

variable (rt) in
/-- The rows belong to packages that were mapped, and these to batches of their own. -/
structure Grounded (s : ImportStore) : Prop where
  planned : ∀ p ∈ s.packages.rows, p.batchId.isSome → ∃ x ∈ s.plans.rows, x.packageId = p.id
  batched : ∀ p ∈ s.packages.rows, ∀ b, p.batchId = some b →
    ∃ x ∈ s.db.ingestionBatches.rows, x.id = b
  provenance : ∀ v ∈ s.db.leadProvenances.rows, ∃ x ∈ s.db.ingestionBatches.rows, x.id = v.batchId
  distinct : ∀ p ∈ s.packages.rows, ∀ q ∈ s.packages.rows, ∀ b, p.batchId = some b →
    q.batchId = some b → q.id = p.id
  rows : ∀ r ∈ s.rows.rows, ∃ p ∈ s.packages.rows, p.id = r.packageId ∧ p.batchId.isSome ∧
    Sourced rt p.sha256 r
  limited : ∀ p ∈ s.packages.rows, (s.rowsOf p.id).length ≤ 10000

theorem Sourced.later {sha256 : Sha} (h : Sourced rt sha256 row) (hlater : Later row row') :
    Sourced rt sha256 row' := by
  have hver := hlater.version
  refine ⟨?_, ?_, h.version.trans hver.le⟩
  · rw [hlater.source]
    exact h.intact
  · rw [hlater.source]
    exact h.commented

theorem Grounded.rewrite (h : Grounded rt s) (hrewrites : Rewrites s s' row row')
    (hprov : ∀ v ∈ s'.db.leadProvenances.rows, v ∈ s.db.leadProvenances.rows ∨
      ∃ p ∈ s.packages.rows, p.batchId = some v.batchId) : Grounded rt s' where
  planned := by
    rw [hrewrites.packages, hrewrites.plans]
    exact h.planned
  batched := by
    rw [hrewrites.packages, hrewrites.batches]
    exact h.batched
  provenance v hv := by
    rw [hrewrites.batches]
    rcases hprov v hv with hold | ⟨p, hp, hbatch⟩
    · exact h.provenance v hold
    · exact h.batched p hp _ hbatch
  distinct := by
    rw [hrewrites.packages]
    exact h.distinct
  rows r hr := by
    rw [hrewrites.packages]
    rcases (hrewrites.replaces.2 r).mp hr with ⟨hold, -⟩ | rfl
    · exact h.rows r hold
    · obtain ⟨p, hp, hid, hbatch, hsourced⟩ := h.rows row hrewrites.replaces.1
      exact ⟨p, hp, hid.trans hrewrites.later.packageId_eq.symm, hbatch,
        hsourced.later hrewrites.later⟩
  limited p hp := by
    rw [hrewrites.packages] at hp
    rw [hrewrites.lengths]
    exact h.limited p hp

theorem Grounded.frame (h : Grounded rt s) (hrows : s'.rows = s.rows) (hplans : s'.plans = s.plans)
    (hbatches : s'.db.ingestionBatches = s.db.ingestionBatches)
    (hprovenances : s'.db.leadProvenances = s.db.leadProvenances)
    (hfrom : ∀ p' ∈ s'.packages.rows, ∃ p ∈ s.packages.rows, p.id = p'.id ∧ p.batchId = p'.batchId)
    (hto : ∀ p ∈ s.packages.rows, ∃ p' ∈ s'.packages.rows, SamePackage p p') : Grounded rt s' where
  planned p' hp' hbatch := by
    obtain ⟨p, hp, hid, heq⟩ := hfrom p' hp'
    rw [hplans, ← hid]
    exact h.planned p hp (by rwa [heq])
  batched p' hp' b hb := by
    obtain ⟨p, hp, -, heq⟩ := hfrom p' hp'
    rw [hbatches]
    exact h.batched p hp b (by rwa [heq])
  provenance := by
    rw [hbatches, hprovenances]
    exact h.provenance
  distinct p' hp' q' hq' b hb hb' := by
    obtain ⟨p, hp, hid, heq⟩ := hfrom p' hp'
    obtain ⟨q, hq, hid', heq'⟩ := hfrom q' hq'
    rw [← hid, ← hid']
    exact h.distinct p hp q hq b (by rwa [heq]) (by rwa [heq'])
  rows r hr := by
    rw [hrows] at hr
    obtain ⟨p, hp, hid, hbatch, hsourced⟩ := h.rows r hr
    obtain ⟨p', hp', hsame⟩ := hto p hp
    obtain ⟨b, hb⟩ := Option.isSome_iff_exists.mp hbatch
    refine ⟨p', hp', hsame.id.trans hid, by rw [hsame.batchId b hb]; rfl, ?_⟩
    rwa [hsame.sha256]
  limited p' hp' := by
    obtain ⟨p, hp, hid, -⟩ := hfrom p' hp'
    rw [ImportStore.rowsOf, hrows, ← hid]
    exact h.limited p hp

/-! ### Stages -/

variable (rt) in
/-- A decision has been taken about a row, and does not defer it. -/
structure Resolved (r : BootstrapImportRow) (d : Decision) : Prop where
  decision : r.decision = some d
  key : r.decisionKey = some d.idempotencyKey
  fingerprint : r.decisionFingerprint = some (d.fingerprint rt)
  wellformed : d.toHistoricalDecisionInput.Wellformed
  action : d.action ≠ .DEFER
  annotations : validateAnnotations d.toHistoricalDecisionInput r.payload = .ok ()

variable (rt) in
/-- The effects of a row that went to a dossier, and its receipt. -/
structure Imported (s : ImportStore) (r : BootstrapImportRow) (d : Decision) (leadId : String) :
    Prop where
  target : Target s d leadId
  lead : r.leadId = some leadId
  receipt : commitReceipt r d (d.fingerprint rt) d.actorId (some (d.named leadId)) ∈ s.receipts.rows
  effects : ∃ p ∈ s.packages.rows, p.id = r.packageId ∧
    (∃ b, p.batchId = some b ∧ rowProvenance b r leadId ∈ s.db.leadProvenances.rows) ∧
      ∀ n ∈ rowNotes rt p.sha256 r leadId, n ∈ s.notes.rows

variable (rt) in
inductive Stage (s : ImportStore) (r : BootstrapImportRow) : Prop
  /-- Nothing is decided. -/
  | review (hstate : r.state = .REVIEW) (hdec : r.decision = none) (hkey : r.decisionKey = none)
      (hlead : r.leadId = none)
  /-- A decision waits to be carried out. -/
  | ready (d : Decision) (hstate : r.state = .READY) (hresolved : Resolved rt r d)
      (hlead : r.leadId = none)
  /-- The row is deferred, and its receipt says so. -/
  | deferred (p : BootstrapImportPackage) (c : BootstrapImportReceipt) (hp : p ∈ s.packages.rows)
      (hid : p.id = r.packageId) (hc : c ∈ s.receipts.rows) (hpack : c.packageId = r.packageId)
      (hop : c.operation = .DEFER_ROW) (hkey : some c.key = r.decisionKey)
      (hvalid : ValidDeferral rt p.sha256 r [c])
  /-- The row went to a dossier. -/
  | accepted (d : Decision) (leadId : String) (hstate : r.state = .ACCEPTED)
      (hresolved : Resolved rt r d) (himported : Imported rt s r d leadId)
  /-- The row was ignored. -/
  | ignored (d : Decision) (hstate : r.state = .IGNORED) (hresolved : Resolved rt r d)
      (hact : d.action = .IGNORE) (hlead : r.leadId = none)
      (hrec : commitReceipt r d (d.fingerprint rt) d.actorId none ∈ s.receipts.rows)

theorem Target.mono {d : Decision} {leadId : String} (h : Target s d leadId) (hext : Extends s s') :
    Target s' d leadId where
  action := h.action
  known := by
    obtain ⟨l, hl, hfacts⟩ := h.known
    exact ⟨l, hext.leads hl, hfacts⟩
  temperature hcreate := hext.temperatures (h.temperature hcreate)
  named := h.named

variable {r : BootstrapImportRow}

theorem Imported.mono {d : Decision} {leadId : String} (h : Imported rt s r d leadId)
    (hext : Extends s s') : Imported rt s' r d leadId where
  target := h.target.mono hext
  lead := h.lead
  receipt := hext.receipts h.receipt
  effects := by
    obtain ⟨p, hp, hid, ⟨b, hb, hprov⟩, hnotes⟩ := h.effects
    obtain ⟨p', hp', hsame⟩ := hext.packages p hp
    refine ⟨p', hp', hsame.id.trans hid, ⟨b, hsame.batchId b hb, hext.provenances hprov⟩, ?_⟩
    rw [hsame.sha256]
    exact fun n hn => hext.notes (hnotes n hn)

/-- **What a row was promised is kept.** -/
theorem Stage.mono (h : Stage rt s r) (hext : Extends s s') : Stage rt s' r := by
  cases h with
  | review hstate hdec hkey hlead => exact .review hstate hdec hkey hlead
  | ready d hstate hresolved hlead => exact .ready d hstate hresolved hlead
  | deferred p c hp hid hc hpack hop hkey hvalid =>
    obtain ⟨p', hp', hsame⟩ := hext.packages p hp
    refine .deferred p' c hp' (hsame.id.trans hid) (hext.receipts hc) hpack hop hkey ?_
    rwa [hsame.sha256]
  | accepted d leadId hstate hresolved himported =>
    exact .accepted d leadId hstate hresolved (himported.mono hext)
  | ignored d hstate hresolved hact hlead hrec =>
    exact .ignored d hstate hresolved hact hlead (hext.receipts hrec)

variable (rt) in
def Staged (s : ImportStore) : Prop := ∀ r ∈ s.rows.rows, Stage rt s r

theorem Staged.rewrite (h : Staged rt s) (hrewrites : Rewrites s s' row row') (hext : Extends s s')
    (hnew : Stage rt s' row') : Staged rt s' := by
  intro r hr
  rcases (hrewrites.replaces.2 r).mp hr with ⟨hold, -⟩ | rfl
  · exact (h r hold).mono hext
  · exact hnew

theorem Stage.resolved_of_ready {d : Decision} (h : Stage rt s r) (hstate : r.state = .READY)
    (hdec : r.decision = some d) : Resolved rt r d ∧ r.leadId = none := by
  cases h with
  | review hreview _ _ _ => rw [hstate] at hreview; cases hreview
  | ready d' _ hresolved hlead =>
    obtain rfl := Option.mem_unique hresolved.decision hdec
    exact ⟨hresolved, hlead⟩
  | deferred _ _ _ _ _ _ _ _ hvalid => cases hstate.symm.trans hvalid.1
  | accepted _ _ hacc _ _ => rw [hstate] at hacc; cases hacc
  | ignored _ hignored _ _ _ _ => rw [hstate] at hignored; cases hignored

/-! ### Decisions and their keys -/

/-- A key is that of one decision of a package at most, and not of one that was withdrawn. -/
structure Keyed (s : ImportStore) : Prop where
  keys : ∀ r ∈ s.rows.rows, ∀ r' ∈ s.rows.rows, r'.packageId = r.packageId →
    ∀ k, r.decisionKey = some k → r'.decisionKey = some k → r' = r
  superseded : ∀ c ∈ s.receipts.rows, c.operation = .REOPEN_ROW →
    ∀ k, c.response.previousDecisionKey? = some k →
      ∀ r ∈ s.rows.rows, r.packageId = c.packageId → r.decisionKey ≠ some k

theorem Keyed.apart (h : Keyed s) (hrow : row ∈ s.rows.rows) : FreshKey s row row.decisionKey := by
  intro r hr hpack hid
  cases hkey : row.decisionKey with
  | none => exact .inl rfl
  | some k =>
    refine .inr fun hk => hid ?_
    rw [h.keys row hrow r hr hpack k hkey hk]

theorem Keyed.rewrite (h : Keyed s) (hrewrites : Rewrites s s' row row')
    (hfresh : FreshKey s row row'.decisionKey)
    (hnew : ∀ k, row'.decisionKey = some k → row.decisionKey = some k ∨ ¬s.Superseded row.packageId k)
    (hrecs : ∀ c ∈ s'.receipts.rows, c ∈ s.receipts.rows ∨ (c.operation = .REOPEN_ROW →
      c.packageId = row.packageId ∧ row'.decisionKey = none ∧
        c.response.previousDecisionKey? = row.decisionKey)) : Keyed s' where
  keys r hr r' hr' hpack k hk hk' := by
    have hapart : ∀ x ∈ s.rows.rows, x ≠ row → x.packageId = row'.packageId →
        row'.decisionKey = some k → x.decisionKey ≠ some k := by
      intro x hx hne hpack hnewkey
      rw [hrewrites.later.packageId_eq] at hpack
      have := hfresh x hx hpack fun hid => hne (ImportStore.row_ext hrewrites.replaces.1 hx hid)
      rw [hnewkey] at this
      simpa using this
    rcases (hrewrites.replaces.2 r).mp hr with ⟨hold, hne⟩ | rfl <;>
      rcases (hrewrites.replaces.2 r').mp hr' with ⟨hold', hne'⟩ | rfl
    · exact h.keys r hold r' hold' hpack k hk hk'
    · exact absurd hk (hapart r hold hne hpack.symm hk')
    · exact absurd hk' (hapart r' hold' hne' hpack hk)
    · rfl
  superseded c hc hop k hk r hr hpack := by
    rcases hrecs c hc with hold | hnewreceipt
    · rcases (hrewrites.replaces.2 r).mp hr with ⟨hrold, -⟩ | rfl
      · exact h.superseded c hold hop k hk r hrold hpack
      · rw [hrewrites.later.packageId_eq] at hpack
        intro hkey
        rcases hnew k hkey with hbefore | hnone
        · exact h.superseded c hold hop k hk row hrewrites.replaces.1 hpack hbefore
        · exact hnone ⟨c, Table.mem_findMany.mpr ⟨hold, hpack.symm, hop⟩, hk⟩
    · obtain ⟨hcpackage, hnone, hprev⟩ := hnewreceipt hop
      rcases (hrewrites.replaces.2 r).mp hr with ⟨hrold, hne⟩ | rfl
      · intro hkey
        refine hne (h.keys row hrewrites.replaces.1 r hrold (hpack.trans hcpackage) k ?_ hkey)
        rw [← hprev, hk]
      · rw [hnone]
        exact (Option.some_ne_none k).symm

theorem Keyed.frame (h : Keyed s) (hrows : s'.rows = s.rows)
    (hrecs : ∀ c ∈ s'.receipts.rows, c ∈ s.receipts.rows ∨ c.operation ≠ .REOPEN_ROW) :
    Keyed s' where
  keys := by
    rw [hrows]
    exact h.keys
  superseded c hc hop := by
    rw [hrows]
    rcases hrecs c hc with hold | hne
    · exact h.superseded c hold hop
    · exact absurd hop hne

/-! ### Receipts and effects, and the rows they belong to -/

variable (rt) in
/-- Every receipt of a row that was carried out, every provenance of a batch of the import and
every note belongs to a row. -/
structure Owned (s : ImportStore) : Prop where
  receipts : ∀ c ∈ s.receipts.rows, c.operation = .COMMIT_ROW →
    ∃ r ∈ s.rows.rows, r.state.Settled ∧ r.packageId = c.packageId ∧ c.key = r.id.val
  provenance : ∀ v ∈ s.db.leadProvenances.rows, ∀ p ∈ s.packages.rows, p.batchId = some v.batchId →
    ∃ r ∈ s.rows.rows, ∃ l, r.state = .ACCEPTED ∧ r.packageId = p.id ∧ r.leadId = some l ∧
      v = rowProvenance v.batchId r l
  notes : ∀ n ∈ s.notes.rows, ∃ r ∈ s.rows.rows, ∃ l, ∃ p ∈ s.packages.rows, r.state = .ACCEPTED ∧
    r.leadId = some l ∧ p.id = r.packageId ∧ n ∈ rowNotes rt p.sha256 r l

theorem Owned.rewrite (h : Owned rt s) (hrewrites : Rewrites s s' row row')
    (hopen : ¬row.state.Settled)
    (hrecs : ∀ c ∈ s'.receipts.rows, c ∈ s.receipts.rows ∨ (c.operation = .COMMIT_ROW →
      row'.state.Settled ∧ row'.packageId = c.packageId ∧ c.key = row'.id.val))
    (hprov : ∀ v ∈ s'.db.leadProvenances.rows, v ∈ s.db.leadProvenances.rows ∨
      ∃ l, row'.state = .ACCEPTED ∧ row'.leadId = some l ∧ v = rowProvenance v.batchId row' l ∧
        ∀ p ∈ s.packages.rows, p.batchId = some v.batchId → row'.packageId = p.id)
    (hnotes : ∀ n ∈ s'.notes.rows, n ∈ s.notes.rows ∨
      ∃ l, ∃ p ∈ s.packages.rows, row'.state = .ACCEPTED ∧ row'.leadId = some l ∧
        p.id = row'.packageId ∧ n ∈ rowNotes rt p.sha256 row' l) : Owned rt s' where
  receipts c hc hop := by
    rcases hrecs c hc with hold | hnew
    · obtain ⟨r, hr, hsettled, hfacts⟩ := h.receipts c hold hop
      exact ⟨r, hrewrites.kept hr fun heq => hopen (heq ▸ hsettled), hsettled, hfacts⟩
    · exact ⟨row', hrewrites.written, hnew hop⟩
  provenance v hv p hp hbatch := by
    rw [hrewrites.packages] at hp
    rcases hprov v hv with hold | ⟨l, hstate, hlead, heq, hpack⟩
    · obtain ⟨r, hr, l, hstate, hfacts⟩ := h.provenance v hold p hp hbatch
      exact ⟨r, hrewrites.kept hr fun heq => hopen (.inl (heq ▸ hstate)), l, hstate, hfacts⟩
    · exact ⟨row', hrewrites.written, l, hstate, hpack p hp hbatch, hlead, heq⟩
  notes n hn := by
    rw [hrewrites.packages]
    rcases hnotes n hn with hold | ⟨l, p, hp, hstate, hfacts⟩
    · obtain ⟨r, hr, l, p, hp, hstate, hfacts⟩ := h.notes n hold
      exact ⟨r, hrewrites.kept hr fun heq => hopen (.inl (heq ▸ hstate)), l, p, hp, hstate,
        hfacts⟩
    · exact ⟨row', hrewrites.written, l, p, hp, hstate, hfacts⟩

/-- What keeps the rows, the provenances, the notes and the receipts of what was carried
out. -/
theorem Owned.frame (h : Owned rt s) (hrows : s.rows.rows ⊆ s'.rows.rows)
    (hprovenances : s'.db.leadProvenances = s.db.leadProvenances) (hnotes : s'.notes = s.notes)
    (hrecs : ∀ c ∈ s'.receipts.rows, c ∈ s.receipts.rows ∨ c.operation ≠ .COMMIT_ROW)
    (hfrom : ∀ p' ∈ s'.packages.rows, ∀ v ∈ s.db.leadProvenances.rows, p'.batchId = some v.batchId →
      ∃ p ∈ s.packages.rows, p.id = p'.id ∧ p.batchId = some v.batchId)
    (hto : ∀ p ∈ s.packages.rows, ∃ p' ∈ s'.packages.rows, SamePackage p p') : Owned rt s' where
  receipts c hc hop := by
    rcases hrecs c hc with hold | hne
    · obtain ⟨r, hr, hfacts⟩ := h.receipts c hold hop
      exact ⟨r, hrows hr, hfacts⟩
    · exact absurd hop hne
  provenance v hv p' hp' hbatch := by
    rw [hprovenances] at hv
    obtain ⟨p, hp, hid, hbatch'⟩ := hfrom p' hp' v hv hbatch
    obtain ⟨r, hr, l, hstate, hpack, hfacts⟩ := h.provenance v hv p hp hbatch'
    exact ⟨r, hrows hr, l, hstate, hpack.trans hid, hfacts⟩
  notes n hn := by
    rw [hnotes] at hn
    obtain ⟨r, hr, l, p, hp, hstate, hlead, hid, hmem⟩ := h.notes n hn
    obtain ⟨p', hp', hsame⟩ := hto p hp
    refine ⟨r, hrows hr, l, p', hp', hstate, hlead, hsame.id.trans hid, ?_⟩
    rwa [hsame.sha256]

variable (rt) in
/-- What holds of the ledger whatever the order of the calls. -/
structure Inv (s : ImportStore) : Prop where
  grounded : Grounded rt s
  staged : Staged rt s
  keyed : Keyed s
  owned : Owned rt s

/-- Where the import begins: the packages are sealed or being uploaded, nothing is mapped,
and a provenance has its batch. -/
structure Start (s : ImportStore) : Prop where
  rows : s.rows.rows = []
  receipts : s.receipts.rows = []
  notes : s.notes.rows = []
  packages : ∀ p ∈ s.packages.rows, p.batchId = none
  provenance : ∀ v ∈ s.db.leadProvenances.rows, ∃ x ∈ s.db.ingestionBatches.rows, x.id = v.batchId

theorem Start.inv (h : Start s) : Inv rt s where
  grounded := by
    refine ⟨fun p hp hbatch => ?_, fun p hp b hb => ?_, h.provenance, fun p hp _ _ b hb => ?_,
      fun r hr => ?_, fun p hp => ?_⟩
    · rw [h.packages p hp] at hbatch
      cases hbatch
    · rw [h.packages p hp] at hb
      cases hb
    · rw [h.packages p hp] at hb
      cases hb
    · rw [h.rows] at hr
      cases hr
    · rw [ImportStore.rowsOf, Table.findMany, h.rows]
      exact Nat.zero_le _
  staged r hr := by
    rw [h.rows] at hr
    cases hr
  keyed := by
    refine ⟨fun r hr => ?_, fun c hc => ?_⟩
    · rw [h.rows] at hr
      cases hr
    · rw [h.receipts] at hc
      cases hc
  owned := by
    refine ⟨fun c hc => ?_, fun v _ p hp hb => ?_, fun n hn => ?_⟩
    · rw [h.receipts] at hc
      cases hc
    · rw [h.packages p hp] at hb
      cases hb
    · rw [h.notes] at hn
      cases hn

end CrmYnov.Bootstrap
