import CrmYnov.Base.Growth
import CrmYnov.Base.Machine
import CrmYnov.SheetImport.Append.Ledger

/-!
# Ledgers that advance

A row develops while it is pending or incomplete, and what it develops into fills its cells
(`CrmYnov.SheetImport.Develops`); once it is neither, nothing changes it. What a transaction
makes of a ledger is described by `CrmYnov.SheetImport.Advances`, whose clauses compose; that
the rows handed to the ingestion are settled, and that the rows of a stream are all there, is
the invariant (`CrmYnov.SheetImport.AppendInv`).

The transactions that write a stream and no row are settled here
(`CrmYnov.SheetImport.sound_stream`).
-/

/-!
## The append-only sheets, step by step

The boundaries that are registered, the observations that are written, the rows that are
processed and what the other mode of reading makes of the streams come in any order. Each is a
transaction: they take the lock of their stream before they write, so that nothing is written
between the reads of one and its own writes. What a row is compared with, when it is processed,
was read in an earlier transaction: it is part of the action, and may be anything.
-/

namespace CrmYnov.SheetImport

open Checked

inductive AppendAction
  | register (connector : SheetImportConnector) (boundary : SheetAppendBoundary)
      (artifactSha256 : String) (now : Instant)
  | qualify (connector : AppendConnector) (configuration : SheetConfiguration)
      (schemaVersion : ℕ)
  | observe (connector : AppendConnector) (configuration : SheetConfiguration)
      (values : Js.Json) (w : ObservationOccasion)
  | process (connector : AppendConnector) (configuration : SheetConfiguration)
      (streamId runId : String) (services : RowServices) (observed : AppendRow)
      (columns : List String)
  | suspendLocal (campusId workbookId : String) (sheetId : ℕ) (range reason : String)
  | verifyLocal (campusId workbookId : String) (sheetId : ℕ) (range : String)
      (check : Option String)

variable (rt : Runtime)

namespace AppendStore

variable (S : AppendStore)

def transact (a : AppendAction) : Outcome AppendStore :=
  match a with
  | .register connector boundary artifactSha256 now => do
    let boundary ← readAppendBoundary rt boundary now
    let (_, S) ← registerAppendBoundary rt S connector boundary artifactSha256
    pure S
  | .qualify connector configuration schemaVersion =>
    qualifyAppend rt S connector configuration schemaVersion
  | .observe connector configuration values w => do
    let (_, S) ← persistAppendObservation rt S connector configuration values w
    pure S
  | .process connector configuration streamId runId services observed columns =>
    processAppendRow rt S connector configuration streamId runId services observed columns
  | .suspendLocal campusId workbookId sheetId range reason =>
    suspendLocalStream rt S campusId workbookId sheetId range reason
  | .verifyLocal campusId workbookId sheetId range check => do
    let (_, S) ← verifyLocalLedger rt S campusId workbookId sheetId range check
    pure S

/-- One transaction: where it fails, nothing of it remains. -/
def step (a : AppendAction) : Outcome Unit × AppendStore :=
  match S.transact rt a with
  | .ok S' => (.ok (), S')
  | .error e => (.error e, S)

end AppendStore

def appendMachine : Machine AppendStore AppendAction (Outcome Unit) := ⟨AppendStore.step rt⟩

end CrmYnov.SheetImport

namespace CrmYnov.SheetImport

open Checked

variable {rt : Runtime}

/-! ### Rows that develop -/

/-- A row that a later observation may complete. -/
def AppendRow.Open (row : AppendRow) : Prop := row.status = .PENDING ∨ row.status = .INCOMPLETE
deriving Decidable

/-- **What a row may become**: it is the row it was, it was open, and cells are filled. -/
structure Develops (row row' : AppendRow) : Prop where
  keys : row'.keys = row.keys
  opened : row.Open
  fills : Fills row.payload row'.payload

theorem Develops.trans {a b c : AppendRow} (h : Develops a b) (h' : Develops b c) :
    Develops a c := ⟨h'.keys.trans h.keys, h.opened, h.fills.trans h'.fills⟩

def AppendRow.At (row : AppendRow) (streamId : String) (n : ℕ) : Prop :=
  row.streamId = streamId ∧ row.rowNumber = n

theorem AppendRow.At.mem_keys {row : AppendRow} {streamId : String} {n : ℕ}
    (h : row.At streamId n) : AppendRow.Key.position streamId n ∈ row.keys := by
  obtain ⟨rfl, rfl⟩ := h
  simp [AppendRow.keys]

theorem at_of_keys {row row' : AppendRow} (h : row'.keys = row.keys) :
    row'.At row.streamId row.rowNumber := by
  simp only [AppendRow.keys, List.cons.injEq, AppendRow.Key.position.injEq] at h
  exact h.2.1

abbrev RowsGrow (t t' : Table AppendRow AppendRow.keys) : Prop := t.Grows Develops t'

variable {t t' : Table AppendRow AppendRow.keys}

theorem RowsGrow.settled (h : RowsGrow t t') {row : AppendRow} (hrow : row ∈ t.rows)
    (hsettled : ¬row.Open) : row ∈ t'.rows := by
  obtain ⟨row', hrow', rfl | hdevelops⟩ := h row hrow
  · exact hrow'
  · exact absurd hdevelops.opened hsettled

theorem RowsGrow.at (h : RowsGrow t t') {row : AppendRow} (hrow : row ∈ t.rows) :
    ∃ row' ∈ t'.rows, row'.At row.streamId row.rowNumber := by
  obtain ⟨row', hrow', rfl | hdevelops⟩ := h row hrow
  · exact ⟨row', hrow', rfl, rfl⟩
  · exact ⟨row', hrow', at_of_keys hdevelops.keys⟩

theorem RowsGrow.fills (h : RowsGrow t t') {row row' : AppendRow} (hrow : row ∈ t.rows)
    (hrow' : row' ∈ t'.rows) (hat : row'.At row.streamId row.rowNumber) :
    Fills row.payload row'.payload := by
  rcases h.row (fun _ _ h => h.keys) hrow hrow' (AppendRow.At.mem_keys ⟨rfl, rfl⟩) hat.mem_keys with
    rfl | hdevelops
  · exact Fills.refl _
  · exact hdevelops.fills

/-! ### Ledgers that advance -/

/-- Nothing has been done about the rows of a stream. -/
structure Halted (id : String) (S S' : AppendStore) : Prop where
  rows : ∀ row : AppendRow, row.streamId = id → (row ∈ S'.rows.rows ↔ row ∈ S.rows.rows)
  ingested : (S'.ingested.filter fun e => e.streamId = id) =
    S.ingested.filter fun e => e.streamId = id

theorem Halted.refl (id : String) (S : AppendStore) : Halted id S S := ⟨fun _ _ => Iff.rfl, rfl⟩

variable {id : String}

theorem Halted.trans {S S' S'' : AppendStore} (h : Halted id S S') (h' : Halted id S' S'') :
    Halted id S S'' :=
  ⟨fun row hrow => (h'.rows row hrow).trans (h.rows row hrow), h'.ingested.trans h.ingested⟩

/-- A stream keeps its contract, and stays suspended. -/
structure StreamKept (stream stream' : AppendStream) : Prop where
  contract : ∀ c ∈ stream.contract, stream'.contract = some c
  suspended : stream.suspended = true → stream'.suspended = true

/-- **What a transaction makes of a ledger.** -/
structure Advances (S S' : AppendStore) : Prop where
  rows : RowsGrow S.rows S'.rows
  streams : ∀ id stream, S.streams.get id = some stream →
    ∃ stream', S'.streams.get id = some stream' ∧ StreamKept stream stream'
  halted : ∀ id stream, S.streams.get id = some stream → stream.suspended = true → Halted id S S'

variable (S : AppendStore)

theorem Advances.refl : Advances S S :=
  ⟨Table.Grows.refl _, fun _ stream h => ⟨stream, h, fun _ hc => hc, fun hs => hs⟩,
    fun id _ _ _ => Halted.refl id S⟩

theorem Advances.trans {S S' S'' : AppendStore} (h : Advances S S') (h' : Advances S' S'') :
    Advances S S'' := by
  refine ⟨Table.Grows.trans (fun _ _ _ => Develops.trans) h.rows h'.rows,
    fun id stream hstream => ?_, fun id stream hstream hsusp => ?_⟩
  · obtain ⟨stream', hstream', hkept⟩ := h.streams id stream hstream
    obtain ⟨stream'', hstream'', hkept'⟩ := h'.streams id stream' hstream'
    exact ⟨stream'', hstream'', fun c hc => hkept'.contract c (hkept.contract c hc),
      fun hs => hkept'.suspended (hkept.suspended hs)⟩
  · obtain ⟨stream', hstream', hkept⟩ := h.streams id stream hstream
    exact (h.halted id stream hstream hsusp).trans
      (h'.halted id stream' hstream' (hkept.suspended hsusp))

/-- The rows of a stream after its boundary, down to the last one observed, are all there. -/
def Covered (id : String) (stream : AppendStream) : Prop :=
  ∀ c ∈ stream.contract, ∀ n, c.boundaryRow < n → n ≤ stream.lastObservedRow →
    ∃ row ∈ S.rows.rows, row.At id n

/-- A contract is about a range it can be read under, whose header is not after the boundary. -/
def Bounded (stream : AppendStream) : Prop :=
  ∀ c ∈ stream.contract, ∃ scope, parseSheetLocalRange c.range = .ok scope ∧
    scope.headerRow ≤ c.boundaryRow

def SheetIngestion.position (e : SheetIngestion) : String × ℕ := (e.streamId, e.rowNumber)

/-- **The invariant of the ledger.** -/
structure AppendInv (S : AppendStore) : Prop where
  settled : ∀ e ∈ S.ingested, ∃ row ∈ S.rows.rows, row.At e.streamId e.rowNumber ∧ ¬row.Open
  once : (S.ingested.map SheetIngestion.position).Nodup
  bounded : ∀ id stream, S.streams.get id = some stream → Bounded stream
  covered : ∀ id stream, S.streams.get id = some stream → Covered S id stream

theorem appendInv_start : AppendInv {} :=
  ⟨fun _ h => absurd h List.not_mem_nil, List.nodup_nil, fun _ _ h => (by cases h),
    fun _ _ h => (by cases h)⟩

/-- What a transaction does: the ledger advances, and keeps the invariant. -/
def Sound (S S' : AppendStore) : Prop := AppendInv S → AppendInv S' ∧ Advances S S'

theorem Sound.trans {S S' S'' : AppendStore} (h : Sound S S') (h' : Sound S' S'') : Sound S S'' :=
  fun hS =>
    have hfirst := h hS
    have hsecond := h' hfirst.1
    ⟨hsecond.1, hfirst.2.trans hsecond.2⟩

theorem Sound.refl : Sound S S := fun h => ⟨h, .refl S⟩

variable {stream : AppendStream}

theorem Covered.mono {S S' : AppendStore} (h : Covered S id stream)
    (hrows : RowsGrow S.rows S'.rows) : Covered S' id stream := by
  intro c hc n hboundary hlast
  obtain ⟨row, hrow, rfl, rfl⟩ := h c hc n hboundary hlast
  exact hrows.at hrow

/-! ### Transactions about a stream -/

/-- What a stream may be written as, when no row is written. -/
structure StreamWritten (old : Option AppendStream) (stream : AppendStream) : Prop where
  kept : ∀ s ∈ old, StreamKept s stream ∧ stream.contract = s.contract ∧
    stream.lastObservedRow = s.lastObservedRow
  fresh : old = none → ∀ c ∈ stream.contract, stream.lastObservedRow = c.boundaryRow ∧
    ∃ scope, parseSheetLocalRange c.range = .ok scope ∧ scope.headerRow ≤ c.boundaryRow

/-- **A stream is written**, and no row is. -/
theorem sound_stream {S : AppendStore} (h : StreamWritten (S.streams.get id) stream) :
    Sound S { S with streams := S.streams.set id stream } := by
  intro hS
  have hget := fun id' => Dict.get_set S.streams id id' stream
  refine ⟨⟨hS.settled, hS.once, ?_, ?_⟩, Table.Grows.refl _, ?_,
    fun _ _ _ _ => ⟨fun _ _ => Iff.rfl, rfl⟩⟩
  · intro id' stream' hstream'
    simp only [hget] at hstream'
    split at hstream'
    · cases hstream'
      intro c hc
      cases hold : S.streams.get id with
      | none => exact (h.fresh hold c hc).2
      | some s =>
        rw [(h.kept s hold).2.1] at hc
        exact hS.bounded id s hold c hc
    · exact hS.bounded id' stream' hstream'
  · intro id' stream' hstream'
    simp only [hget] at hstream'
    split at hstream'
    · rename_i hid
      cases hstream'
      intro c hc n hboundary hlast
      cases hold : S.streams.get id with
      | none =>
        have := (h.fresh hold c hc).1
        omega
      | some s =>
        rw [(h.kept s hold).2.1] at hc
        rw [(h.kept s hold).2.2] at hlast
        rw [hid]
        exact hS.covered id s hold c hc n hboundary hlast
    · exact hS.covered id' stream' hstream'
  · intro id' stream' hstream'
    by_cases hid : id' = id
    · subst hid
      exact ⟨stream, (hget _).trans (if_pos rfl), (h.kept stream' hstream').1⟩
    · exact ⟨stream', (hget _).trans ((if_neg hid).trans hstream'), fun _ hc => hc, fun hs => hs⟩

theorem sound_suspendAppend {S : AppendStore} (h : S.streams.get id = some stream) (reason : String) :
    Sound S (suspendAppend S id stream reason) := by
  rw [suspendAppend]
  split
  · exact .refl S
  · refine sound_stream ⟨fun s hs => ?_, fun hnone => ?_⟩
    · rw [h] at hs
      cases hs
      exact ⟨⟨fun _ hc => hc, fun _ => rfl⟩, rfl, rfl⟩
    · rw [h] at hnone
      cases hnone

theorem assertAppendBinding_ok {S : AppendStore} {connector : AppendConnector}
    {configuration : SheetConfiguration} {contract : SheetAppendContract}
    (h : assertAppendBinding rt S connector configuration = .ok (id, stream, contract)) :
    S.streams.get id = some stream ∧ stream.contract = some contract ∧
      stream.suspended = false := by
  simp only [assertAppendBinding, ok_iff] at h
  obtain ⟨-, -, sheetId, -, stream', hstream, contract', hcontract, -, -, -, hsusp, rfl, rfl, rfl⟩ := h
  exact ⟨hstream, hcontract, hsusp⟩

theorem sound_register {S S' : AppendStore} {connector : SheetImportConnector}
    {raw boundary : SheetAppendBoundary} {artifactSha256 : String} {now : Instant}
    {contract : SheetAppendContract} (hread : readAppendBoundary rt raw now = .ok boundary)
    (h : registerAppendBoundary rt S connector boundary artifactSha256 = .ok (contract, S')) :
    Sound S S' := by
  simp only [registerAppendBoundary, ok_iff] at h
  obtain ⟨-, -, observation, hobservation, -, -, h⟩ := h
  simp only [readAppendBoundary, ok_iff] at hread
  obtain ⟨-, -, observation', hobservation', -, hboundary, rfl⟩ := hread
  rw [hobservation] at hobservation'
  cases hobservation'
  cases hold : S.streams.get (sheetStreamId rt raw.workbookId raw.sheetId) with
  | some previous =>
    simp only [hold, ok_iff] at h
    obtain ⟨-, -, -, -, -, rfl⟩ := h
    exact .refl S
  | none =>
    simp only [hold, pure_ok_iff, Prod.mk.injEq] at h
    obtain ⟨-, rfl⟩ := h
    obtain ⟨scope, hscope, hcomplete⟩ := appendPositions_ok rt hobservation
    refine sound_stream ⟨fun s hs => ?_, fun _ c hc => ?_⟩
    · rw [hold] at hs
      cases hs
    · cases hc
      exact ⟨rfl, scope, hscope, hboundary ▸ hcomplete.header⟩

theorem sound_localStream {S S' : AppendStore} {id campusId : String} {last : ℕ}
    (h : localStream S id campusId last = .ok (stream, S')) :
    Sound S S' ∧ S'.streams.get id = some stream := by
  simp only [localStream, ok_iff] at h
  obtain ⟨-, -, rfl, rfl⟩ := h
  refine ⟨sound_stream ⟨fun s hs => ?_, fun hnone c hc => ?_⟩, by simp⟩
  · rw [Option.mem_def.mp hs]
    exact ⟨⟨fun _ hc => hc, fun h => h⟩, rfl, rfl⟩
  · rw [hnone] at hc
    cases hc

theorem sound_suspendLocal {S S' : AppendStore} {campusId workbookId range reason : String}
    {sheetId : ℕ} (h : suspendLocalStream rt S campusId workbookId sheetId range reason = .ok S') :
    Sound S S' := by
  simp only [suspendLocalStream, ok_iff] at h
  obtain ⟨bounds, -, ⟨stream, S₁⟩, hlocal, rfl⟩ := h
  obtain ⟨hsound, hstream⟩ := sound_localStream hlocal
  exact hsound.trans (sound_suspendAppend hstream reason)

theorem sound_verifyLocal {S S' : AppendStore} {campusId workbookId range : String}
    {sheetId : ℕ} {check : Option String} {b : Bool}
    (h : verifyLocalLedger rt S campusId workbookId sheetId range check = .ok (b, S')) :
    Sound S S' := by
  simp only [verifyLocalLedger, ok_iff] at h
  obtain ⟨bounds, -, ⟨stream, S₁⟩, hlocal, -, -, h⟩ := h
  obtain ⟨hsound, hstream⟩ := sound_localStream hlocal
  split at h
  · cases h
    exact hsound
  · split at h
    · cases h
      exact hsound
    · cases h
      exact hsound.trans (sound_suspendAppend hstream _)

theorem sound_qualify {S S' : AppendStore} {connector : AppendConnector}
    {configuration : SheetConfiguration} {schemaVersion : ℕ}
    (h : qualifyAppend rt S connector configuration schemaVersion = .ok S') : Sound S S' := by
  simp only [qualifyAppend, ok_iff] at h
  obtain ⟨⟨id, stream, contract⟩, hbinding, rfl⟩ := h
  obtain ⟨hstream, -, -⟩ := assertAppendBinding_ok hbinding
  refine sound_stream ⟨fun s hs => ?_, fun hnone => ?_⟩
  · rw [hstream] at hs
    cases hs
    exact ⟨⟨fun _ hc => hc, fun h => h⟩, rfl, rfl⟩
  · rw [hstream] at hnone
    cases hnone

end CrmYnov.SheetImport
