import CrmYnov.Ingestion.DryRun

/-!
# What a dry run foresees

A dry run follows the identities that valid lines of its file bring in, and the
store it compares with stands still. An import follows one register that grows:
a created line brings in all its keys, an attached line its external identifier.
Both are read off one ledger (`CrmYnov.Ingestion.Ledger`), which tells apart the
keys the store had, those of lines that create a lead, and those that attached
lines brought.

A dry run counts the leads of the store and the lines of the file that a record
leads to separately, and does not know what attached lines brought. So it misses
a collision of one lead with one line, and every consequence of an identifier
that an attached line brought; apart from that, it announces what the import does
(`CrmYnov.Ingestion.dryRun_predicts_iff`).
-/

namespace CrmYnov.Ingestion

open Checked Leads Resolution Registry

/-- Whom a key belongs to: a lead of the store, or the lead a line creates. -/
inductive Holder
  | lead (id : String) : Holder
  | line (number : ℤ) : Holder
deriving DecidableEq

/-- What the lines of a file bring in. -/
structure Ledger where
  /-- The keys of the lines that create a lead. -/
  lines : Registry IdentityKey ℤ
  /-- The external identifiers of the lines that are attached to a lead. -/
  attached : Registry IdentityKey Holder

namespace Ledger

def empty : Ledger := ⟨fun _ => none, fun _ => none⟩

variable (store : Registry IdentityKey String)

/-- The keys that the dry run knows of. -/
def known (L : Ledger) : Registry IdentityKey Holder :=
  or (fun key => (store key).map .lead) fun key => (L.lines key).map .line

def all (L : Ledger) : Registry IdentityKey Holder := (L.known store).or L.attached

variable (rt : Runtime)

def after (L : Ledger) (record : IngestionRecordInput) (contacts : Contacts) : Ledger :=
  if record.status rt = .UNKNOWN then L
  else
    match (L.all store).resolve (identityKeys record contacts) with
    | .several => L
    | .one h => { L with attached := L.attached.claim record.externalKeys h }
    | .unknown =>
      if Enrollable rt record then
        { L with lines := L.lines.claim (identityKeys record contacts) record.lineNumber }
      else L

/-- A record is foreseeable when the lead of the store and the line of the file
it leads to are not one of each, when attached lines brought nothing that leads
elsewhere, and, if it is to become a lead, when the dry run knows who asks. -/
def Foreseeable (L : Ledger) (principal : Principal) (record : IngestionRecordInput)
    (contacts : Contacts) : Prop :=
  let keys := identityKeys record contacts
  record.status rt = .UNKNOWN ∨
    match store.resolve keys, L.lines.resolve keys with
    | .several, _ | _, .several => True
    | .one _, .one _ => False
    | .one id, .unknown => L.attached.resolve keys ∈ [.unknown, .one (.lead id)]
    | .unknown, .one number => L.attached.resolve keys ∈ [.unknown, .one (.line number)]
    | .unknown, .unknown =>
      L.attached.resolve keys = .unknown ∧ (Enrollable rt record → principal.userId ≠ "")

/-- Every well-formed record of a file is foreseeable. -/
def ForeseeableFrom (principal : Principal) : Ledger → List IngestionRecordInput → Prop
  | _, [] => True
  | L, record :: records =>
    match normalize rt record with
    | .error _ => ForeseeableFrom principal L records
    | .ok contacts =>
      L.Foreseeable store rt principal record contacts ∧
        ForeseeableFrom principal (L.after store rt record contacts) records

/-! ### The ledger is sound -/

/-- The three parts of a ledger agree with each other, and attached lines brought
nothing but external identifiers. -/
structure Sound (L : Ledger) : Prop where
  apart : ∀ key, store key = none ∨ L.lines key = none
  agree : ∀ key h h', L.known store key = some h → L.attached key = some h' → h = h'
  external : ∀ {key h}, L.attached key = some h → ∃ text, key = .external text

variable {store rt} {L : Ledger} {record : IngestionRecordInput} {contacts : Contacts}

theorem Sound.empty : Sound store .empty :=
  ⟨fun _ => .inr rfl, by simp [Ledger.empty], by simp [Ledger.empty]⟩

/-- A record has one external identifier at most, so what attached lines brought
never contradicts itself. -/
theorem Sound.resolve_attached_ne_several (hL : L.Sound store) :
    L.attached.resolve (identityKeys record contacts) ≠ .several := by
  intro hr
  obtain ⟨key, hkey, key', hkey', h, h', hh, hh', hne⟩ := resolve_eq_several.mp hr
  obtain ⟨text, rfl⟩ := hL.external hh
  obtain ⟨text', rfl⟩ := hL.external hh'
  have htext : record.externalKey = some text := by
    simpa [identityKeys, IngestionRecordInput.externalKeys] using hkey
  have htext' : record.externalKey = some text' := by
    simpa [identityKeys, IngestionRecordInput.externalKeys] using hkey'
  obtain rfl : text = text' := Option.mem_unique htext htext'
  exact hne (Option.mem_unique hh hh')

theorem known_eq_none {key : IdentityKey} :
    L.known store key = none ↔ store key = none ∧ L.lines key = none := by
  simp [known]

theorem all_eq_none {key : IdentityKey} :
    L.all store key = none ↔ (store key = none ∧ L.lines key = none) ∧ L.attached key = none := by
  rw [all, or_apply, Option.or_eq_none_iff, known_eq_none]

/-- **What a record leads to**, from what it leads to in the three parts of the
ledger. -/
theorem resolve_all (hL : L.Sound store) (keys : List IdentityKey) :
    (L.all store).resolve keys =
      (((store.resolve keys).map .lead).join ((L.lines.resolve keys).map .line)).join
        (L.attached.resolve keys) := by
  have hlead : Set.InjOn Holder.lead {id | ∃ key, store key = some id} := fun _ _ _ _ h => by
    simpa using h
  have hline : Set.InjOn Holder.line {n | ∃ key, L.lines key = some n} := fun _ _ _ _ h => by
    simpa using h
  rw [all, resolve_or hL.agree, known, resolve_or, resolve_map hlead,
    resolve_map hline]
  intro key h h' hstore hlines
  rcases hL.apart key with hk | hk
  · simp [hk] at hstore
  · simp [hk] at hlines

/-- **The ledger grows as the register does.** -/
theorem all_after :
    (L.after store rt record contacts).all store =
      enroll rt (L.all store) record contacts (.line record.lineNumber) := by
  unfold after enroll
  split
  · rfl
  cases hr : (L.all store).resolve (identityKeys record contacts) with
  | several => rfl
  | one h =>
    dsimp only
    rw [all, all, known, or_claim]
    rfl
  | unknown =>
    dsimp only
    split
    · -- nobody held the keys that the line takes
      have hfree : ∀ key ∈ identityKeys record contacts, L.attached key = none := fun key hkey =>
        (all_eq_none.mp (resolve_eq_unknown.mp hr key hkey)).2
      rw [all, all, ← claim_or hfree, known, known, ← or_claim,
        ← map_claim]
    · rfl

theorem Sound.after (hL : L.Sound store) : (L.after store rt record contacts).Sound store := by
  unfold Ledger.after
  split
  · exact hL
  cases hr : (L.all store).resolve (identityKeys record contacts) with
  | several => exact hL
  | one h =>
    refine ⟨hL.apart, fun key a b ha hb => ?_, fun {key b} hb => ?_⟩
    · rcases claim_eq_some.mp hb with hb | ⟨-, hkey, rfl⟩
      · exact hL.agree key a b ha hb
      · -- the key is one of the record, so its holder is the one the record is attached to
        have hmem : key ∈ identityKeys record contacts := by
          rw [identityKeys, List.append_assoc]
          exact List.mem_append_left _ hkey
        refine (resolve_eq_one.mp hr).2 key hmem a ?_
        have ha : L.known store key = some a := ha
        rw [all, or_apply, ha, Option.some_or]
    · rcases claim_eq_some.mp hb with hb | ⟨-, hkey, -⟩
      · exact hL.external hb
      · obtain ⟨text, -, rfl⟩ := List.mem_map.mp hkey
        exact ⟨text, rfl⟩
  | unknown =>
    dsimp only
    split
    · have hfree : ∀ key ∈ identityKeys record contacts,
          (store key = none ∧ L.lines key = none) ∧ L.attached key = none := fun key hkey =>
        all_eq_none.mp (resolve_eq_unknown.mp hr key hkey)
      refine ⟨fun key => ?_, fun key a b ha hb => ?_, hL.external⟩
      · by_cases hkey : key ∈ identityKeys record contacts
        · exact .inl (hfree key hkey).1.1
        · refine (hL.apart key).imp id fun hnone => ?_
          exact claim_eq_none.mpr ⟨hnone, hkey⟩
      · by_cases hkey : key ∈ identityKeys record contacts
        · rw [(hfree key hkey).2] at hb
          cases hb
        · refine hL.agree key a b ?_ hb
          simpa [known, claim_apply, hkey] using ha
    · exact hL

end Ledger

/-! ### Announcement and outcome -/

def IngestionDryRunOutcome.Foretells (p : IngestionDryRunOutcome) (o : IngestionOutcome) : Prop :=
  (p = .VALID ↔ o = .CREATED) ∧ (p = .DUPLICATE ∨ p = .IGNORED ↔ o = .PROVENANCE_ATTACHED) ∧
    (p = .MANUAL_REVIEW ↔ o = .MANUAL_REVIEW) ∧ (p = .INVALID ↔ o = .INVALID)
deriving Decidable

def IngestionDryRunOutcome.foretold : IngestionDryRunOutcome → IngestionOutcome
  | VALID => .CREATED
  | DUPLICATE | IGNORED => .PROVENANCE_ATTACHED
  | MANUAL_REVIEW => .MANUAL_REVIEW
  | INVALID => .INVALID

theorem foretells_iff {p : IngestionDryRunOutcome} {o : IngestionOutcome} :
    p.Foretells o ↔ p.foretold = o := by
  cases p <;> cases o <;> decide

variable {rt : Runtime} {store : Registry IdentityKey String} {L : Ledger}
  {record : IngestionRecordInput} {contacts : Contacts} {principal : Principal}

/-- **The announcement for a record foretells what comes of it exactly when the
record is foreseeable.** -/
theorem announce_foretells_iff (hL : L.Sound store) :
    (announce rt record (principal.userId ≠ "") (store.resolve (identityKeys record contacts))
        (L.lines.resolve (identityKeys record contacts))).Foretells
      (settle rt record ((L.all store).resolve (identityKeys record contacts))) ↔
    L.Foreseeable store rt principal record contacts := by
  rw [foretells_iff, Ledger.resolve_all hL, Ledger.Foreseeable]
  unfold announce settle
  by_cases hunknown : record.status rt = .UNKNOWN
  · simp [hunknown, IngestionDryRunOutcome.foretold]
  simp only [hunknown, if_false, false_or]
  -- whatever its status, a record with a single match is announced as attached
  have hmatch : (if record.status rt = .DUPLICATE then IngestionDryRunOutcome.IGNORED
      else .DUPLICATE).foretold = .PROVENANCE_ATTACHED := by split <;> rfl
  cases store.resolve (identityKeys record contacts) with
  | several =>
    cases L.lines.resolve (identityKeys record contacts) <;>
      cases L.attached.resolve (identityKeys record contacts) <;>
      simp [map, join, IngestionDryRunOutcome.foretold]
  | one id =>
    cases L.lines.resolve (identityKeys record contacts) with
    | several | one number =>
      cases L.attached.resolve (identityKeys record contacts) <;>
        simp [map, join, IngestionDryRunOutcome.foretold]
    | unknown =>
      cases L.attached.resolve (identityKeys record contacts) with
      | unknown | several => simp [map, join, IngestionDryRunOutcome.foretold]
      | one h =>
        by_cases hh : Holder.lead id = h
        · simp [map, join, IngestionDryRunOutcome.foretold, hh]
        · simp [map, join, IngestionDryRunOutcome.foretold, hh, Ne.symm hh]
  | unknown =>
    cases L.lines.resolve (identityKeys record contacts) with
    | several =>
      cases L.attached.resolve (identityKeys record contacts) <;>
        simp [map, join, IngestionDryRunOutcome.foretold]
    | one number =>
      rw [hmatch]
      cases L.attached.resolve (identityKeys record contacts) with
      | unknown | several => simp [map, join]
      | one h =>
        by_cases hh : Holder.line number = h
        · simp [map, join, hh]
        · simp [map, join, hh, Ne.symm hh]
    | unknown =>
      cases hr : L.attached.resolve (identityKeys record contacts) with
      | several => exact absurd hr hL.resolve_attached_ne_several
      | unknown | one h =>
        by_cases henr : Enrollable rt record <;> by_cases huser : principal.userId = "" <;>
          simp [map, join, IngestionDryRunOutcome.foretold, henr, huser]

/-! ### The ledger and the import -/

def Holder.name (o : BatchOccasion) : Holder → String
  | lead id => id
  | line number => (o.line number).leadId

/-- The identifiers of the leads of the lines are new, and different from one
another. -/
structure FreshLines (s : Store) (o : BatchOccasion) (records : List IngestionRecordInput) :
    Prop where
  fresh : ∀ record ∈ records, s.Fresh (o.line record.lineNumber).leadId
  distinct : records.Pairwise fun r r' =>
    (o.line r.lineNumber).leadId ≠ (o.line r'.lineNumber).leadId

/-- The store has the identities of the ledger, under the names of their
holders. -/
structure Ledger.Tracks (L : Ledger) (store : Registry IdentityKey String) (o : BatchOccasion)
    (s : Store) : Prop where
  sound : L.Sound store
  keyed : s.Keyed
  identities : s.identities = fun key => (L.all store key).map (Holder.name o)
  injective : Set.InjOn (Holder.name o) {h | ∃ key, L.all store key = some h}

theorem Ledger.Tracks.init {s : Store} (hs : s.Keyed) (o : BatchOccasion) :
    Ledger.empty.Tracks s.identities o s where
  sound := .empty
  keyed := hs
  identities := by
    funext key
    cases hk : s.identities key <;> simp [Ledger.all, Ledger.known, Ledger.empty, hk, Holder.name]
  injective := by
    rintro h ⟨key, hkey⟩ h' ⟨key', hkey'⟩ hname
    simp only [Ledger.all, Ledger.known, Ledger.empty, or_apply, Option.map_none,
      Option.or_none, Option.map_eq_some_iff] at hkey hkey'
    obtain ⟨id, -, rfl⟩ := hkey
    obtain ⟨id', -, rfl⟩ := hkey'
    rw [show id = id' from hname]

variable {s : Store} {o : BatchOccasion}

theorem Ledger.Tracks.resolve (h : L.Tracks store o s) (keys : List IdentityKey) :
    s.identities.resolve keys = ((L.all store).resolve keys).map (Holder.name o) := by
  rw [h.identities, resolve_map h.injective]

/-- **A line keeps the store on the ledger.** -/
theorem Ledger.Tracks.after {s' : Store} (h : L.Tracks store o s)
    (hfresh : s.Fresh (o.line record.lineNumber).leadId)
    (hbecomes : s.Becomes s' (enroll rt s.identities record contacts
      (o.line record.lineNumber).leadId) (some (o.line record.lineNumber).leadId)) :
    (L.after store rt record contacts).Tracks store o s' where
  sound := h.sound.after
  keyed := hbecomes.keyed
  identities := by
    rw [hbecomes.identities, h.identities, Ledger.all_after, map_enroll h.injective]
    rfl
  injective := by
    -- a lead of the line is no lead the ledger already names
    have hnew : ∀ key a, L.all store key = some a →
        a.name o ≠ (o.line record.lineNumber).leadId := fun key a ha hname => by
      refine hfresh.unheld key ?_
      rw [h.identities]
      dsimp only
      rw [ha, Option.map_some, hname]
    rintro a ⟨key, hkey⟩ b ⟨key', hkey'⟩ hname
    rw [Ledger.all_after] at hkey hkey'
    rcases eq_of_enroll hkey with ⟨k, hk⟩ | ⟨-, rfl⟩ <;>
      rcases eq_of_enroll hkey' with ⟨k', hk'⟩ | ⟨-, rfl⟩
    · exact h.injective ⟨k, hk⟩ ⟨k', hk'⟩ hname
    · exact absurd hname (hnew k a hk)
    · exact absurd hname.symm (hnew k' b hk')
    · rfl

variable {records : List IngestionRecordInput}

theorem FreshLines.of_becomes {s' : Store} (h : FreshLines s o (record :: records))
    (hbecomes : s.Becomes s' (enroll rt s.identities record contacts
      (o.line record.lineNumber).leadId) (some (o.line record.lineNumber).leadId)) :
    FreshLines s' o records where
  fresh later hlater := by
    have hfresh := h.fresh later (List.mem_cons_of_mem _ hlater)
    have hne : (o.line record.lineNumber).leadId ≠ (o.line later.lineNumber).leadId :=
      (List.pairwise_cons.mp h.distinct).1 later hlater
    refine ⟨hfresh.ne_empty, hbecomes.unknown _ (by simpa using hne) hfresh.unknown, ?_⟩
    intro key hkey
    rw [hbecomes.identities] at hkey
    rcases eq_of_enroll hkey with ⟨k, hk⟩ | ⟨-, heq⟩
    · exact hfresh.unheld k hk
    · exact hne heq.symm
  distinct := (List.pairwise_cons.mp h.distinct).2

theorem FreshLines.tail (h : FreshLines s o (record :: records)) : FreshLines s o records :=
  ⟨fun r hr => h.fresh r (List.mem_cons_of_mem _ hr), (List.pairwise_cons.mp h.distinct).2⟩

/-! ### The ledger and the dry run -/

theorem Ledger.lines_after :
    (L.after store rt record contacts).lines =
      if settle rt record ((L.all store).resolve (identityKeys record contacts)) = .CREATED then
        L.lines.claim (identityKeys record contacts) record.lineNumber
      else L.lines := by
  unfold Ledger.after settle
  by_cases hunknown : record.status rt = .UNKNOWN
  · simp [hunknown]
  · simp only [hunknown, if_false]
    cases (L.all store).resolve (identityKeys record contacts) with
    | several | one h => simp
    | unknown => by_cases henr : Enrollable rt record <;> simp [henr]

def indexAfter (rt : Runtime) (index : FileIndex) (record : IngestionRecordInput)
    (outcome : IngestionDryRunOutcome) : FileIndex :=
  if outcome = .VALID then rememberIdentity rt index record else index

theorem previewRecords_cons (rt : Runtime) (s : Store) (input : IngestionBatchInput)
    (principal : Principal) (previewAssignment : AssignmentPreview) (index : FileIndex)
    (ordinal : ℕ) (record : IngestionRecordInput) (records : List IngestionRecordInput) :
    ∃ line ordinal', previewRecords rt s input principal previewAssignment index ordinal
        (record :: records) = line :: previewRecords rt s input principal previewAssignment
        (indexAfter rt index record line.outcome) ordinal' records ∧
      line.lineNumber = record.lineNumber ∧
      line.outcome = (previewOne rt s record input index principal).outcome := by
  rw [previewRecords]
  split
  · rename_i hvalid
    refine ⟨{ previewOne rt s record input index principal with
      proposedAssigneeId := nonEmpty (previewAssignment record ordinal) }, ordinal + 1, ?_,
      previewOne_lineNumber, rfl⟩
    rw [indexAfter, if_pos hvalid]
  · rename_i hvalid
    refine ⟨_, ordinal, ?_, previewOne_lineNumber, rfl⟩
    rw [indexAfter, if_neg hvalid]

/-- **As long as lines are foreseeable, the index of the dry run keeps up with the
ledger.** -/
theorem identities_indexAfter {index : FileIndex}
    (hindex : index.identities = L.lines) (h : normalize rt record = .ok contacts)
    {outcome : IngestionDryRunOutcome} (hforetells : outcome.Foretells
      (settle rt record ((L.all store).resolve (identityKeys record contacts)))) :
    (indexAfter rt index record outcome).identities = (L.after store rt record contacts).lines := by
  rw [Ledger.lines_after, indexAfter]
  by_cases hvalid : outcome = .VALID
  · have hcreated := hforetells.1.mp hvalid
    rw [if_pos hvalid, if_pos hcreated, ← hindex]
    refine identities_rememberIdentity (normalized_of_normalize h) fun key hkey => ?_
    -- a lead is created for keys that nobody holds
    cases hr : (L.all store).resolve (identityKeys record contacts) with
    | unknown =>
      rw [hindex]
      exact (Ledger.all_eq_none.mp (resolve_eq_unknown.mp hr key hkey)).1.2
    | one a =>
      rw [hr] at hcreated
      unfold settle at hcreated
      split at hcreated <;> cases hcreated
    | several =>
      rw [hr] at hcreated
      unfold settle at hcreated
      split at hcreated <;> cases hcreated
  · rw [if_neg hvalid, if_neg fun hc => hvalid (hforetells.1.mpr hc), hindex]

def IngestionDryRunLineResult.Foretells (p : IngestionDryRunLineResult) (line : IngestionLineResult) :
    Prop := p.lineNumber = line.lineNumber ∧ p.outcome.Foretells line.outcome
deriving Decidable

/-! ### The dry run and the import -/

variable {principal : Principal} {correlationId : String} {input : IngestionBatchInput}

theorem ingestRecords_cons {s₁ s' : Store} {line : IngestionLineResult × Bool}
    {lines : List (IngestionLineResult × Bool)}
    (hturn : ingestRecord rt s input record principal correlationId o = .ok (line, s₁))
    (hrest : ingestRecords rt input principal correlationId o s₁ records = .ok (lines, s')) :
    ingestRecords rt input principal correlationId o s (record :: records) =
      .ok (line :: lines, s') := by
  rw [ingestRecords, hturn, ok_bind]
  dsimp only
  rw [hrest]
  rfl

/-- **Lines are announced as they come out, up to the first one that is not
foreseeable.** -/
theorem foretells_records_iff (hlower : LowerStable rt) {s₀ : Store} (hs₀ : s₀.Keyed)
    (input input' : IngestionBatchInput) (hprofile : input.profile ≠ "") (principal : Principal)
    (previewAssignment : AssignmentPreview) (correlationId : String) (o : BatchOccasion)
    (records : List IngestionRecordInput) :
    ∀ (s : Store) (L : Ledger), L.Tracks s₀.identities o s → FreshLines s o records →
      ∃ lines s', ingestRecords rt input' principal correlationId o s records = .ok (lines, s') ∧
        s'.Keyed ∧ ∀ (index : FileIndex) (ordinal : ℕ), index.identities = L.lines →
          (List.Forall₂ IngestionDryRunLineResult.Foretells
              (previewRecords rt s₀ input principal previewAssignment index ordinal records)
              (lines.map Prod.fst) ↔ L.ForeseeableFrom s₀.identities rt principal records) := by
  induction records with
  | nil =>
    intro s L htracks _
    refine ⟨[], s, rfl, htracks.keyed, fun index ordinal _ => ?_⟩
    simp [previewRecords, Ledger.ForeseeableFrom]
  | cons record records ih =>
    intro s L htracks hlines
    have hfresh := hlines.fresh record (List.mem_cons_self ..)
    rw [Ledger.ForeseeableFrom]
    cases hn : normalize rt record with
    | error reason =>
      -- a refused record is announced as invalid and changes nothing on either side
      have hturn : ingestRecord rt s input' record principal correlationId o =
          .ok ((⟨record.lineNumber, .INVALID, some reason, none⟩, false), s) := by
        rw [ingestRecord, ingestOne_refused _ _ _ _ hn]
        rfl
      obtain ⟨lines, s', hrest, hkeyed, hiff⟩ := ih s L htracks hlines.tail
      refine ⟨_, s', ingestRecords_cons hturn hrest, hkeyed, fun index ordinal hindex => ?_⟩
      obtain ⟨line, ordinal', hpreview, hnumber, houtcome⟩ := previewRecords_cons rt s₀ input
        principal previewAssignment index ordinal record records
      rw [previewOne_refused hn] at houtcome
      have hsame : indexAfter rt index record line.outcome = index := by simp [indexAfter, houtcome]
      rw [hpreview, List.map_cons, List.forall₂_cons, hsame, hiff index ordinal' hindex]
      refine and_iff_right ⟨hnumber, ?_⟩
      rw [houtcome, foretells_iff]
      rfl
    | ok contacts =>
      obtain ⟨line, s₁, hone, hnumber, houtcome, hbecomes⟩ := ingestOne_ok principal
        (correlationId ++ ":" ++ toString record.lineNumber) o.batchId (o.line record.lineNumber)
        hlower htracks.keyed hfresh hn
      obtain ⟨assigned, s₂, hturn, hbecomes⟩ := ingestRecord_of_ingestOne input' hone hbecomes
      obtain ⟨lines, s', hrest, hkeyed, hiff⟩ := ih s₂ (L.after s₀.identities rt record contacts)
        (htracks.after hfresh hbecomes) (hlines.of_becomes hbecomes)
      refine ⟨_, s', ingestRecords_cons hturn hrest, hkeyed, fun index ordinal hindex => ?_⟩
      obtain ⟨pline, ordinal', hpreview, hpnumber, hpoutcome⟩ := previewRecords_cons rt s₀ input
        principal previewAssignment index ordinal record records
      rw [htracks.resolve, settle_map] at houtcome
      rw [previewOne_outcome hlower hs₀ hprofile hn, hindex] at hpoutcome
      have hhead : pline.Foretells line ↔ L.Foreseeable s₀.identities rt principal record contacts := by
        rw [IngestionDryRunLineResult.Foretells, hpnumber, hnumber, hpoutcome, houtcome,
          announce_foretells_iff htracks.sound]
        exact and_iff_right rfl
      rw [hpreview, List.map_cons, List.forall₂_cons, hhead]
      refine and_congr_right fun hforeseeable => hiff _ _ ?_
      refine identities_indexAfter hindex hn ?_
      rw [hpoutcome]
      exact (announce_foretells_iff htracks.sound).mpr hforeseeable

/-- A dry run predicts an import: both are refused for the same reason, or every
line foretells what comes of it. -/
def Predicts : Outcome IngestionDryRunResult → Outcome (IngestionBatchResult × Store) → Prop
  | .ok preview, .ok (result, _) =>
    List.Forall₂ IngestionDryRunLineResult.Foretells preview.lines result.lines
  | .error e, .error e' => e = e'
  | _, _ => False

instance (p : Outcome IngestionDryRunResult) (i : Outcome (IngestionBatchResult × Store)) :
    Decidable (Predicts p i) :=
  match p, i with
  | .ok preview, .ok (result, _) =>
    inferInstanceAs (Decidable (List.Forall₂ IngestionDryRunLineResult.Foretells preview.lines
      result.lines))
  | .error e, .error e' => inferInstanceAs (Decidable (e = e'))
  | .ok _, .error _ | .error _, .ok _ => inferInstanceAs (Decidable False)

def Accepted (input : IngestionBatchInput) (principal : Principal) : Prop :=
  principal.hasSome Principal.managers ∧ validateBatch { input with confirmed := true } = .ok ()

/-- A lead whose address is `known@example.org`. -/
def knownLead : LeadRecord where
  id := "lead-known"
  leadCode := "LD-2026-KNOWN"
  firstName := "Known"
  lastName := "Lead"
  email := some "known@example.org"
  campus := "CASABLANCA"
  campaign := "WEB-2026"
  educationLevel := "BAC"
  program := "BACHELOR"
  source := "WEB_FORM"
  createdAt := 0

def knownStore : Store := { Store.init with memory := LeadMemory.init.registerLocalLead knownLead }

def formRecord (lineNumber : ℤ) (email externalId : String) : IngestionRecordInput where
  lineNumber
  firstName := "New"
  lastName := "Comer"
  email := some email
  campus := some "CASABLANCA"
  campaign := some "WEB-2026"
  educationLevel := some "BAC"
  program := some "BACHELOR"
  source := "WEB_FORM"
  technicalSystem := "FORMINATOR"
  originalSource := "WEBSITE"
  externalId := some externalId

def formBatch (records : List IngestionRecordInput) : IngestionBatchInput where
  idempotencyKey := "form-batch-001"
  profile := "CUSTOM"
  confirmed := true
  assignment := { strategy := "UNASSIGNED" }
  records

def importManager : Principal := ⟨"manager-1", [.MANAGER], [.GLOBAL], "session-1"⟩

/-- The identifiers of the leads of the lines. -/
def formOccasion : BatchOccasion where
  batchId := "batch-1"
  line number := {
    leadId := "lead-" ++ toString number
    leadCode := "LD-2026-" ++ toString number
    activityId := fun index => "activity-" ++ toString number ++ "-" ++ toString index
    now := 1 }

theorem keyed_knownStore : knownStore.Keyed :=
  ⟨LeadMemory.keyed_init.registerLocalLead (by decide), Store.keyed_init.provenance⟩

/-- Two submissions under different external identifiers and one new address. -/
def repeatedRecords : List IngestionRecordInput :=
  [formRecord 1 "new@example.org" "FORM-1", formRecord 2 "new@example.org" "FORM-2"]

theorem freshLines_repeatedRecords : FreshLines knownStore formOccasion repeatedRecords where
  fresh record hrecord := by
    have hleads : ∀ r ∈ repeatedRecords, (formOccasion.line r.lineNumber).leadId ≠ "" ∧
        knownStore.memory.leads.get (formOccasion.line r.lineNumber).leadId = none := by
      decide +kernel
    refine keyed_knownStore.fresh (hleads record hrecord).1 (hleads record hrecord).2 ?_
    simp [knownStore, Store.init, Dict.values, Dict.empty, Table.empty]
  distinct := by decide +kernel

/-- Two submissions under one external identifier, the second with the address of
a known lead. -/
def collidingRecords : List IngestionRecordInput :=
  [formRecord 1 "new@example.org" "FORM-1", formRecord 2 "known@example.org" "FORM-1"]

end CrmYnov.Ingestion
