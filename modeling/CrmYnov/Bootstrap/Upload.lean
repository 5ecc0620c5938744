import CrmYnov.Bootstrap.Rows

/-!
# The upload of a workbook

The file of a package is sent in chunks of one size, the last one apart, in any order and any
number of times. A chunk is kept at its index once and for all; sealing the package puts the
chunks together, in the order of their indices, and parses what they make.

The chunks of a package fit its size in every state (`CrmYnov.Bootstrap.Stocked`), so that a
package is sealed exactly when none is missing and what they make has the digest of the package
and is a workbook (`CrmYnov.Bootstrap.UploadStore.Ready`). When they are the pieces of a file,
they make this file, whatever came first. Reading the file itself – an archive of XML parts – is
a function of the runtime.
-/

namespace CrmYnov.Bootstrap

open Checked Table Machine List

/-! ### Base64 -/

def base64Char (n : ℕ) : Char :=
  if n < 26 then Char.ofNat (65 + n) else if n < 52 then Char.ofNat (71 + n)
  else if n < 62 then Char.ofNat (n - 4) else if n = 62 then '+' else '/'

/-- The six bits of a character. -/
def base64Value (c : Char) : ℕ :=
  if Js.isUpper c then c.toNat - 65 else if Js.isLower c then c.toNat - 71
  else if Js.isDigit c then c.toNat + 4 else if c = '+' then 62 else 63

/-- The groups of six bits of some bytes, the last one filled with zeros. -/
def sextets : List UInt8 → List ℕ
  | a :: b :: c :: rest => a.toNat / 4 :: (a.toNat % 4 * 16 + b.toNat / 16) ::
      (b.toNat % 16 * 4 + c.toNat / 64) :: c.toNat % 64 :: sextets rest
  | [a, b] => [a.toNat / 4, a.toNat % 4 * 16 + b.toNat / 16, b.toNat % 16 * 4]
  | [a] => [a.toNat / 4, a.toNat % 4 * 16]
  | [] => []

/-- The bytes of groups of six bits; bits that are left over are dropped. -/
def bytesOfSextets : List ℕ → List UInt8
  | a :: b :: c :: d :: rest => .ofNat (a * 4 + b / 16) :: .ofNat (b % 16 * 16 + c / 4) ::
      .ofNat (c % 4 * 64 + d) :: bytesOfSextets rest
  | [a, b, c] => [.ofNat (a * 4 + b / 16), .ofNat (b % 16 * 16 + c / 4)]
  | [a, b] => [.ofNat (a * 4 + b / 16)]
  | _ => []

/-- `bytes.toString("base64")` -/
def encodeBase64 (bytes : List UInt8) : String :=
  String.ofList ((sextets bytes).map base64Char ++ replicate ((3 - bytes.length % 3) % 3) '=')

/-- `Buffer.from(text, "base64")` -/
def decodeBase64 (text : String) : List UInt8 :=
  bytesOfSextets ((text.toList.filter fun c => c != '=').map base64Value)

/-! ### Chunks -/

/-- `CHUNK_BYTES` -/
def chunkBytes : ℕ := 48 * 1024

/-- `MAX_PACKAGE_BYTES` -/
def maxPackageBytes : ℕ := 5 * 1024 * 1024

/-- `Math.ceil(sizeBytes / CHUNK_BYTES)` -/
def chunkCount (sizeBytes : ℕ) : ℕ := (sizeBytes + (chunkBytes - 1)) / chunkBytes

/-- The functions of the runtime that read files. -/
structure UploadRuntime extends ImportRuntime where
  bytesHash : List UInt8 → String
  parseHistoricalWorkbook : List UInt8 → Outcome Snapshot

/-- A row of `bootstrap_import_chunks`. -/
structure BootstrapImportChunk where
  packageId : Uuid
  index : ℕ
  sha256 : String
  bytes : List UInt8

def BootstrapImportChunk.keys (c : BootstrapImportChunk) : List (Uuid × ℕ) :=
  [(c.packageId, c.index)]

/-- The tables of the import, with the chunks of its packages. -/
structure UploadStore extends ImportStore where
  chunks : Table BootstrapImportChunk BootstrapImportChunk.keys := .empty

structure BootstrapChunkInput where
  index : ℤ
  (contentBase64 sha256 : String)

/-- `/^[A-Za-z0-9+/]*={0,2}$/` -/
def isBase64Text (text : String) : Bool :=
  let pad := text.toList.dropWhile fun c => Js.isAlnum c || c == '+' || c == '/'
  pad.length ≤ 2 && pad.all (· == '=')

variable (rt : UploadRuntime)

/-- `decodeChunk`, with the index it has read. -/
def decodeChunk (input : BootstrapChunkInput) : Outcome (ℕ × List UInt8) := do
  require (0 ≤ input.index ∧ input.index < chunkCount maxPackageBytes ∧ isSha input.sha256 ∧
      4 ≤ Js.length input.contentBase64 ∧ Js.length input.contentBase64 ≤ 65536 ∧
      isBase64Text input.contentBase64)
    (refuse "bootstrap_chunk_invalid")
  let bytes := decodeBase64 input.contentBase64
  require (bytes ≠ [] ∧ bytes.length ≤ chunkBytes ∧ encodeBase64 bytes = input.contentBase64 ∧
      rt.bytesHash bytes = input.sha256)
    (refuse "bootstrap_chunk_integrity_invalid")
  pure (input.index.toNat, bytes)

def expectedBytes (sizeBytes index : ℕ) : ℕ :=
  if index = chunkCount sizeBytes - 1 then sizeBytes - index * chunkBytes else chunkBytes

variable (s : UploadStore)

def chunk (auth : Authority) (id : String) (input : BootstrapChunkInput) : Outcome UploadStore := do
  let (index, bytes) ← decodeChunk rt input
  let p ← package rt.toImportRuntime s.toImportStore auth id ["import.execute", "import.view"]
  require (index < chunkCount p.sizeBytes ∧ bytes.length = expectedBytes p.sizeBytes index)
    (refuse "bootstrap_chunk_size_invalid")
  match s.chunks.findUnique (p.id, index) with
  | some previous => do
    require (previous.sha256 = input.sha256 ∧ previous.bytes = bytes)
      (.conflict "bootstrap_chunk_conflict")
    pure s
  | none => do
    require (p.state = .UPLOADING) (.conflict "bootstrap_snapshot_immutable")
    let chunks ← insert s.chunks ⟨p.id, index, input.sha256, bytes⟩
    pure { s with chunks }

/-- `bootstrapImportChunk.findMany({ where: { packageId }, orderBy: { index: "asc" } })` -/
def UploadStore.chunksOf (packageId : Uuid) : List BootstrapImportChunk :=
  (s.chunks.findMany fun c => c.packageId = packageId).insertionSort fun a b => a.index ≤ b.index

def UploadStore.content (packageId : Uuid) : List UInt8 :=
  (s.chunksOf packageId).flatMap BootstrapImportChunk.bytes

def BootstrapImportPackage.sealed (snapshot : Snapshot) (now : Instant)
    (p : BootstrapImportPackage) : BootstrapImportPackage :=
  { p with
    state := .SEALED, snapshot := some snapshot, sealedAt := some now, version := p.version + 1 }

/-- `seal` -/
def sealPackage (auth : Authority) (id sha256 : String) (now : Instant) : Outcome UploadStore := do
  require (isSha sha256 = true) (refuse "bootstrap_seal_invalid")
  let p ← package rt.toImportRuntime s.toImportStore auth id ["import.execute", "import.view"]
  require (sha256 = p.sha256.val) (.conflict "bootstrap_snapshot_hash_conflict")
  if p.state ≠ .UPLOADING then pure s
  else do
    let chunks := s.chunksOf p.id
    require (chunks.length = chunkCount p.sizeBytes ∧
        ∀ e ∈ chunks.zipIdx, e.1.index = e.2 ∧ rt.bytesHash e.1.bytes = e.1.sha256)
      (.conflict "bootstrap_snapshot_incomplete")
    let bytes := s.content p.id
    require (bytes.length = p.sizeBytes ∧ rt.bytesHash bytes = p.sha256.val)
      (.conflict "bootstrap_snapshot_integrity_invalid")
    let snapshot ← rt.parseHistoricalWorkbook bytes
    let store ← s.toImportStore.updatePackage p (BootstrapImportPackage.sealed snapshot now)
    pure { s with toImportStore := store }

inductive UploadAction
  | chunk (auth : Authority) (id : String) (input : BootstrapChunkInput)
  | sealing (auth : Authority) (id sha256 : String) (now : Instant)

/-- What a call leaves: what it throws leaves nothing behind. -/
def uploadStep : UploadAction → Outcome UploadStore
  | .chunk auth id input => Bootstrap.chunk rt s auth id input
  | .sealing auth id sha256 now => sealPackage rt s auth id sha256 now

def uploader : Machine UploadStore UploadAction (Outcome UploadStore) where
  step s a := (uploadStep rt s a, (uploadStep rt s a).toOption.getD s)

/-! ### What a call does -/

variable {rt} {s s' : UploadStore} {p : BootstrapImportPackage}

def BootstrapImportChunk.Fits (rt : UploadRuntime) (c : BootstrapImportChunk)
    (p : BootstrapImportPackage) : Prop :=
  p.id = c.packageId ∧ c.index < chunkCount p.sizeBytes ∧
    c.bytes.length = expectedBytes p.sizeBytes c.index ∧ rt.bytesHash c.bytes = c.sha256

def UploadStore.withSealed (s : UploadStore) (p : BootstrapImportPackage) (snapshot : Snapshot)
    (now : Instant) : UploadStore :=
  let packages := s.packages.updateMany (fun q => q.id = p.id)
    (BootstrapImportPackage.sealed snapshot now) fun _ => rfl
  { s with packages }

inductive UploadMove (rt : UploadRuntime) (s : UploadStore) : UploadAction → UploadStore → Prop
  /-- The call was made before. -/
  | same {a : UploadAction} : UploadMove rt s a s
  /-- A chunk is kept for a package that is not sealed yet. -/
  | stored {auth : Authority} {id : String} {input : BootstrapChunkInput} {index : ℕ}
      {bytes : List UInt8} {p : BootstrapImportPackage} {chunks} (hp : p ∈ s.packages.rows)
      (hid : Uuid.read id = some p.id) (hdecode : decodeChunk rt input = .ok (index, bytes))
      (hstate : p.state = .UPLOADING)
      (hfits : BootstrapImportChunk.Fits rt ⟨p.id, index, input.sha256, bytes⟩ p)
      (hchunks : s.chunks.create ⟨p.id, index, input.sha256, bytes⟩ = some chunks) :
      UploadMove rt s (.chunk auth id input) { s with chunks }
  /-- A package is sealed. -/
  | sealed {auth : Authority} {id sha256 : String} {now : Instant} {p : BootstrapImportPackage}
      {snapshot : Snapshot} (hp : p ∈ s.packages.rows) (hstate : p.state = .UPLOADING) :
      UploadMove rt s (.sealing auth id sha256 now) (s.withSealed p snapshot now)

theorem decodeChunk_ok {input : BootstrapChunkInput} {index : ℕ} {bytes : List UInt8}
    (h : decodeChunk rt input = .ok (index, bytes)) : rt.bytesHash bytes = input.sha256 := by
  simp only [decodeChunk, ok_iff] at h
  obtain ⟨-, -, -, ⟨-, -, -, hhash⟩, -, rfl⟩ := h
  exact hhash

variable {a : UploadAction}

/-- **A call makes one of these moves.** -/
theorem uploadStep_move (h : uploadStep rt s a = .ok s') : UploadMove rt s a s' := by
  cases a with
  | chunk auth id input =>
    simp only [uploadStep, chunk, ok_iff] at h
    obtain ⟨⟨index, bytes⟩, hdecode, p, hp, -, ⟨hindex, hlen⟩, h⟩ := h
    split at h
    · simp only [ok_iff] at h
      obtain ⟨-, -, rfl⟩ := h
      exact .same
    · simp only [ok_iff, insert_ok_iff] at h
      obtain ⟨-, hstate, chunks, hchunks, rfl⟩ := h
      obtain ⟨u, hu, hpack⟩ := package_ok hp
      obtain ⟨-, rfl⟩ := ImportStore.package_eq_some.mp hpack
      exact .stored (package_mem hp) hu hdecode hstate
        ⟨rfl, hindex, hlen, decodeChunk_ok hdecode⟩ hchunks
  | sealing auth id sha256 now =>
    simp only [uploadStep, sealPackage, ok_iff] at h
    obtain ⟨-, -, p, hp, -, -, h⟩ := h
    split at h
    · rw [← pure_ok_iff.mp h]
      exact .same
    · rename_i hstate
      simp only [ok_iff] at h
      obtain ⟨-, -, -, -, snapshot, -, store, hstore, rfl⟩ := h
      rw [updatePackage_ok hstore]
      exact .sealed (package_mem hp) (not_not.mp hstate)

theorem move_next (s : UploadStore) (a : UploadAction) :
    UploadMove rt s a ((uploader rt).next s a) := by
  change UploadMove rt s a ((uploadStep rt s a).toOption.getD s)
  cases h : uploadStep rt s a with
  | error e => exact .same
  | ok s' => exact uploadStep_move h

theorem mem_packages_withSealed {snapshot : Snapshot} {now : Instant} {x : BootstrapImportPackage} :
    x ∈ (s.withSealed p snapshot now).packages.rows ↔
      ∃ q ∈ s.packages.rows, (if q.id = p.id then q.sealed snapshot now else q) = x :=
  @mem_updateMany _ _ _ s.packages _ _ (BootstrapImportPackage.sealed snapshot now)
    (fun _ => rfl) x

/-! ### The chunks of a package -/

/-- Every chunk fits the package it is of. -/
def Stocked (rt : UploadRuntime) (s : UploadStore) : Prop :=
  ∀ c ∈ s.chunks.rows, ∃ p ∈ s.packages.rows, c.Fits rt p

/-- **One call**: chunks still fit their packages. -/
theorem Stocked.step (h : Stocked rt s) (hmove : UploadMove rt s a s') : Stocked rt s' := by
  cases hmove with
  | same => exact h
  | stored hp hid hdecode hstate hfits hchunks =>
    intro c hc
    rcases (mem_create hchunks).mp hc with hc | rfl
    · exact h c hc
    · exact ⟨_, hp, hfits⟩
  | sealed hp hstate =>
    intro c hc
    obtain ⟨q, hq, hfits⟩ := h c hc
    refine ⟨_, mem_packages_withSealed.mpr ⟨q, hq, rfl⟩, ?_⟩
    split
    · exact hfits
    · exact hfits

/-- **Every run**: chunks fit their packages. -/
theorem Stocked.run (h : Stocked rt s) (acts : List UploadAction) :
    Stocked rt ((uploader rt).run s acts) :=
  run_of_stable (fun s a (hs : Stocked rt s) => hs.step (move_next s a)) h acts

theorem mem_chunksOf {packageId : Uuid} {c : BootstrapImportChunk} :
    c ∈ s.chunksOf packageId ↔ c ∈ s.chunks.rows ∧ c.packageId = packageId := by
  rw [UploadStore.chunksOf, mem_insertionSort, findMany, mem_filter,
    decide_eq_true_eq]

theorem nodup_chunksOf (packageId : Uuid) :
    ((s.chunksOf packageId).map BootstrapImportChunk.index).Nodup := by
  have hkeys := s.chunks.nodup_keys (k := fun c => (c.packageId, c.index)) fun c => by
    simp [BootstrapImportChunk.keys]
  have hsub : ((s.chunks.findMany fun c => c.packageId = packageId).map
      BootstrapImportChunk.index).Nodup := by
    refine Nodup.map_on (fun c hc d hd heq => ?_)
      (hkeys.of_map _ |>.sublist filter_sublist)
    simp only [findMany, mem_filter, decide_eq_true_eq] at hc hd
    exact inj_on_of_nodup_map hkeys hc.1 hd.1 (Prod.ext (hc.2.trans hd.2.symm) heq)
  exact ((perm_insertionSort _ _).map _).nodup_iff.mpr hsub

def UploadStore.Complete (s : UploadStore) (p : BootstrapImportPackage) : Prop :=
  ∀ i < chunkCount p.sizeBytes, ∃ c ∈ s.chunks.rows, c.packageId = p.id ∧ c.index = i

/-- **The chunks of a complete package are at the indices from 0 on.** -/
theorem map_index_of_complete (h : Stocked rt s) (hp : p ∈ s.packages.rows) (hall : s.Complete p) :
    (s.chunksOf p.id).map BootstrapImportChunk.index = range (chunkCount p.sizeBytes) := by
  have hperm : ((s.chunksOf p.id).map BootstrapImportChunk.index).Perm
      (range (chunkCount p.sizeBytes)) := by
    refine (perm_ext_iff_of_nodup (nodup_chunksOf p.id) nodup_range).mpr fun i => ?_
    rw [mem_map, mem_range]
    constructor
    · rintro ⟨c, hc, rfl⟩
      obtain ⟨hc, hpack⟩ := mem_chunksOf.mp hc
      obtain ⟨q, hq, hid, hindex, -⟩ := h c hc
      rwa [← s.package_ext hp hq (hid.trans hpack)]
    · intro hi
      obtain ⟨c, hc, hpack, hindex⟩ := hall i hi
      exact ⟨c, mem_chunksOf.mpr ⟨hc, hpack⟩, hindex⟩
  refine hperm.eq_of_pairwise (fun a b _ _ => Nat.le_antisymm) ?_ pairwise_le_range
  exact pairwise_map.mpr (pairwise_insertionSort _ _)

theorem inventory_iff (h : Stocked rt s) (hp : p ∈ s.packages.rows) :
    ((s.chunksOf p.id).length = chunkCount p.sizeBytes ∧
      ∀ e ∈ (s.chunksOf p.id).zipIdx, e.1.index = e.2 ∧ rt.bytesHash e.1.bytes = e.1.sha256) ↔
      s.Complete p := by
  constructor
  · rintro ⟨hlen, hindex⟩ i hi
    rw [← hlen] at hi
    have hget := getElem?_eq_getElem hi
    obtain ⟨hc, hpack⟩ := mem_chunksOf.mp (getElem_mem hi)
    exact ⟨_, hc, hpack, (hindex (_, i) (mem_zipIdx_iff_getElem?.mpr hget)).1⟩
  · intro hall
    have hmap := map_index_of_complete h hp hall
    refine ⟨by simpa using congrArg length hmap, fun e he => ?_⟩
    have hget := mem_zipIdx_iff_getElem?.mp he
    constructor
    · have hindex : ((s.chunksOf p.id).map BootstrapImportChunk.index)[e.2]? = some e.1.index := by
        rw [getElem?_map, hget, Option.map_some]
      rw [hmap, getElem?_eq_some_iff] at hindex
      obtain ⟨_, hindex⟩ := hindex
      rw [← hindex, getElem_range]
    · obtain ⟨hc, -⟩ := mem_chunksOf.mp (mem_of_getElem? hget)
      obtain ⟨q, -, -, -, -, hhash⟩ := h e.1 hc
      exact hhash

/-! ### Sealing -/

/-- Nothing is missing of the package, and what its chunks make is its workbook. -/
structure UploadStore.Ready (rt : UploadRuntime) (s : UploadStore) (p : BootstrapImportPackage) :
    Prop where
  complete : s.Complete p
  size : (s.content p.id).length = p.sizeBytes
  digest : rt.bytesHash (s.content p.id) = p.sha256.val
  workbook : ∃ snapshot, rt.parseHistoricalWorkbook (s.content p.id) = .ok snapshot

theorem updatePackage_returns {t : ImportStore} (hp : p ∈ t.packages.rows)
    (f : BootstrapImportPackage → BootstrapImportPackage) (hf : ∀ q, (f q).keys = q.keys) :
    ∃ t', t.updatePackage p f hf = .ok t' := by
  rw [ImportStore.updatePackage, ImportStore.package_eq_some.mpr ⟨hp, rfl⟩]
  exact ⟨_, by rw [demand_some, ok_bind, require_pos rfl, ok_bind]; rfl⟩

/-- **A package is sealed when it is ready, and only then.** -/
theorem sealPackage_iff (h : Stocked rt s) {auth : Authority} {id : String} {now : Instant}
    (hp : package rt.toImportRuntime s.toImportStore auth id ["import.execute", "import.view"] =
      .ok p) (hstate : p.state = .UPLOADING) :
    (∃ s', sealPackage rt s auth id p.sha256.val now = .ok s') ↔ s.Ready rt p := by
  have hmem := package_mem hp
  simp only [sealPackage, hp, ok_bind, require_pos p.sha256.2, require_pos,
    if_neg (not_not.mpr hstate), bind_ok_iff, require_ok_iff, pure_ok_iff, inventory_iff h hmem]
  constructor
  · rintro ⟨s', -, hcomplete, -, ⟨hsize, hdigest⟩, snapshot, hparse, -⟩
    exact ⟨hcomplete, hsize, hdigest, snapshot, hparse⟩
  · rintro ⟨hcomplete, hsize, hdigest, snapshot, hparse⟩
    obtain ⟨store, hstore⟩ := updatePackage_returns hmem
      (BootstrapImportPackage.sealed snapshot now) fun _ => rfl
    exact ⟨_, (), hcomplete, (), ⟨hsize, hdigest⟩, snapshot, hparse, store, hstore, rfl⟩

/-! ### Pieces of a file -/

variable (file : List UInt8)

def piece (index : ℕ) : List UInt8 :=
  (file.drop (index * chunkBytes)).take chunkBytes

/-- The chunks that are sent for the package are pieces of the file. -/
def Carries (rt : UploadRuntime) (file : List UInt8) (packageId : Uuid) : UploadAction → Prop
  | .chunk _ id input => Uuid.read id = some packageId →
      ∀ index bytes, decodeChunk rt input = .ok (index, bytes) → bytes = piece file index
  | .sealing _ _ _ _ => True

def Pieces (packageId : Uuid) (s : UploadStore) : Prop :=
  ∀ c ∈ s.chunks.rows, c.packageId = packageId → c.bytes = piece file c.index

/-- **One call**: a piece of the file is kept, or nothing is. -/
theorem Pieces.step {file : List UInt8} {packageId : Uuid} (h : Pieces file packageId s)
    (ha : Carries rt file packageId a) (hmove : UploadMove rt s a s') :
    Pieces file packageId s' := by
  cases hmove with
  | same => exact h
  | stored hp hid hdecode hstate hfits hchunks =>
    intro c hc hpack
    rcases (mem_create hchunks).mp hc with hc | rfl
    · exact h c hc hpack
    · exact ha (hid.trans (congrArg some hpack)) _ _ hdecode
  | sealed hp hstate => exact h

theorem flatMap_piece (n : ℕ) :
    (range n).flatMap (piece file) = file.take (n * chunkBytes) := by
  induction n with
  | zero => simp
  | succ n ih =>
    rw [range_succ, flatMap_append, ih, flatMap_singleton, piece, Nat.succ_mul,
      take_add]

/-- **Pieces of a file make the file**, whatever came first, once none is missing. -/
theorem content_of_pieces (hstocked : Stocked rt s) (hp : p ∈ s.packages.rows) {file : List UInt8}
    (hfile : file.length = p.sizeBytes) (h : Pieces file p.id s) (hall : s.Complete p) :
    s.content p.id = file := by
  have hpieces : s.content p.id =
      ((s.chunksOf p.id).map BootstrapImportChunk.index).flatMap (piece file) := by
    rw [UploadStore.content, flatMap_map]
    refine flatMap_congr fun c hc => ?_
    obtain ⟨hc, hpack⟩ := mem_chunksOf.mp hc
    exact h c hc hpack
  rw [hpieces, map_index_of_complete hstocked hp hall, flatMap_piece, take_of_length_le]
  rw [hfile, chunkCount, chunkBytes]
  omega

/-! ### After the sealing -/

/-- **One call** leaves the chunks of a sealed package, and the package, as they are. -/
theorem sealed_step (hp : p ∈ s.packages.rows) (hstate : p.state ≠ .UPLOADING)
    (hmove : UploadMove rt s a s') : p ∈ s'.packages.rows ∧ s'.chunksOf p.id = s.chunksOf p.id := by
  have hother : ∀ q ∈ s.packages.rows, q.state = .UPLOADING → p.id ≠ q.id := fun q hq hq' heq =>
    hstate (by rw [s.package_ext hq hp heq, hq'])
  cases hmove with
  | same => exact ⟨hp, rfl⟩
  | stored hq hid hdecode hq' hfits hchunks =>
    refine ⟨hp, ?_⟩
    rw [UploadStore.chunksOf, findMany, create_rows hchunks, filter_append,
      filter_cons_of_neg (by simpa using (hother _ hq hq').symm), filter_nil,
      append_nil]
    rfl
  | sealed hq hq' =>
    exact ⟨mem_packages_withSealed.mpr ⟨p, hp, if_neg (hother _ hq hq')⟩, rfl⟩

/-- **What an upload guarantees**, after every run of calls: a package is sealed exactly when none
of its chunks is missing, their bytes have its size and its digest, and they are a workbook; the
pieces of a file make this file, in whatever order they came and however often; and once the
package is sealed, no call changes its bytes. -/
theorem upload_guarantees {s₀ : UploadStore} (h₀ : Stocked rt s₀) (acts : List UploadAction)
    (hp : p ∈ ((uploader rt).run s₀ acts).packages.rows) :
    (∀ auth id now, package rt.toImportRuntime ((uploader rt).run s₀ acts).toImportStore auth id
        ["import.execute", "import.view"] = .ok p → p.state = .UPLOADING →
      ((∃ s', sealPackage rt ((uploader rt).run s₀ acts) auth id p.sha256.val now = .ok s') ↔
        ((uploader rt).run s₀ acts).Ready rt p)) ∧
    (∀ file : List UInt8, file.length = p.sizeBytes → Pieces file p.id s₀ →
      (∀ a ∈ acts, Carries rt file p.id a) → ((uploader rt).run s₀ acts).Complete p →
        ((uploader rt).run s₀ acts).content p.id = file) ∧
    (p.state ≠ .UPLOADING → ∀ later, p ∈ ((uploader rt).run s₀ (acts ++ later)).packages.rows ∧
      ((uploader rt).run s₀ (acts ++ later)).content p.id =
        ((uploader rt).run s₀ acts).content p.id) := by
  have hstocked := h₀.run acts
  refine ⟨fun auth id now hpack hstate => sealPackage_iff hstocked hpack hstate,
    fun file hfile hpieces hcarries hall => ?_, fun hstate later => ?_⟩
  · refine content_of_pieces hstocked hp hfile ?_ hall
    exact (throughout_of_meets
      (fun s a (hs : Pieces file p.id s) ha => hs.step ha (move_next s a)) hpieces
      (meets_of_forall s₀ hcarries)).last
  · rw [run_append]
    let Kept (s : UploadStore) : Prop := p ∈ s.packages.rows ∧
      s.chunksOf p.id = ((uploader rt).run s₀ acts).chunksOf p.id
    have hstable := run_of_stable (M := uploader rt)
      (fun s a (hs : Kept s) => by
        obtain ⟨hmem, hchunks⟩ := sealed_step hs.1 hstate (move_next s a)
        exact ⟨hmem, hchunks.trans hs.2⟩) ⟨hp, rfl⟩ later
    exact ⟨hstable.1, congrArg (flatMap BootstrapImportChunk.bytes) hstable.2⟩

namespace Sample

def zeros : Sha := workbook.sha256

/-- A runtime that reads no file shorter than the end of an archive. -/
def reader : UploadRuntime where
  toImportRuntime := .plain
  bytesHash _ := zeros.val
  parseHistoricalWorkbook bytes :=
    if bytes.length < 22 then .error (refuse "historical_xlsx_signature_invalid")
    else .ok { sheets := [] }

/-- A package of three bytes, that is not sealed yet. -/
def letters : BootstrapImportPackage := { workbook with
  sizeBytes := 3, state := .UPLOADING, version := 1, snapshot := none, sealedAt := none }

def uploads : UploadStore := { store with packages := .ofRows [letters] }

def sent : UploadAction := .chunk author letters.id.val ⟨0, "YWJj", zeros.val⟩

end Sample

open Bootstrap.Sample

theorem complete_letters :
    ((uploader reader).run uploads [sent]).Complete letters := by
  intro i hi
  obtain rfl : i = 0 := Nat.lt_one_iff.mp hi
  have hstored : ((uploader reader).run uploads [sent]).chunks.rows.map
      (fun c => (c.packageId, c.index)) = [(letters.id, 0)] := by decide +kernel
  have hmem := hstored ▸ mem_singleton_self (letters.id, 0)
  obtain ⟨c, hc, heq⟩ := mem_map.mp hmem
  rw [Prod.mk.injEq] at heq
  exact ⟨c, hc, heq.1, heq.2⟩

/-- The same bytes, after their upload. -/
theorem upload_guarantees_letters :
    ((uploader reader).run uploads [sent]).content letters.id = [97, 98, 99] := by
  have hkept : ((uploader reader).run uploads [sent]).packages.rows =
      [letters] := rfl
  have hdecoded : decodeChunk reader ⟨0, "YWJj", zeros.val⟩ =
      .ok (0, [97, 98, 99]) := by
    decide +kernel
  refine (upload_guarantees (fun c hc => by cases hc) [sent]
    (hkept ▸ mem_singleton_self letters)).2.1 [97, 98, 99] rfl
    (fun c hc => by cases hc) (fun a ha => ?_) complete_letters
  obtain rfl := mem_singleton.mp ha
  intro hid index bytes hbytes
  rw [hdecoded, Except.ok.injEq, Prod.mk.injEq] at hbytes
  obtain ⟨rfl, rfl⟩ := hbytes
  rfl

/-- All the bytes are there, and have the size and the digest of the package: it cannot be sealed,
for they are no workbook. -/
theorem letters_not_sealed :
    let s := (uploader reader).run uploads [sent]
    s.Complete letters ∧ (s.content letters.id).length = letters.sizeBytes ∧
      reader.bytesHash (s.content letters.id) = letters.sha256.val ∧
      ¬∃ s', sealPackage reader s author letters.id.val
        letters.sha256.val 0 = .ok s' := by
  have hrefused : (sealPackage reader
      ((uploader reader).run uploads [sent]) author
      letters.id.val letters.sha256.val 0).toOption.isSome = false := by
    decide +kernel
  refine ⟨complete_letters, by decide +kernel, rfl, fun ⟨s', h⟩ => ?_⟩
  rw [h] at hrefused
  cases hrefused

end CrmYnov.Bootstrap
