import CrmYnov.Ingestion.Identities

/-!
# The dry run of an import

A dry run tells line by line what an import would do, and changes nothing. The
leads it compares a record with are those the store has before the import; the
leads that earlier lines of the file would create it keeps track of by their line
numbers, in an index of its own (`CrmYnov.Ingestion.FileIndex`). The line it
announces for a record depends on what the record leads to in the store and in
this index (`CrmYnov.Ingestion.previewOne_outcome`).
-/

namespace CrmYnov.Ingestion

open Checked Leads IngestionRecordInput

inductive IngestionDryRunOutcome
  | VALID | DUPLICATE | MANUAL_REVIEW | INVALID | IGNORED
deriving DecidableEq

structure IngestionDryRunLineResult where
  lineNumber : ℤ
  outcome : IngestionDryRunOutcome
  reason : Option String := none
  matchedLeadId : Option String := none
  proposedAssigneeId : Option String := none

structure IngestionDryRunResult where
  idempotencyKey : String
  (total valid duplicates manualReview invalid ignored assigned unassigned : ℕ)
  lines : List IngestionDryRunLineResult

/-- The identities of the valid lines of a file so far. -/
structure FileIndex where
  (externalIds emails phones : Dict String ℤ)

def FileIndex.empty : FileIndex := ⟨.empty, .empty, .empty⟩

variable (rt : Runtime)

/-- The earlier lines that the keys of a record lead to. -/
def internalRows (index : FileIndex) (record : IngestionRecordInput) (contacts : Contacts) :
    List ℤ :=
  unique [record.externalKey.bind index.externalIds.get, contacts.email.bind index.emails.get,
    contacts.phone.bind index.phones.get].reduceOption

def previewOne (s : Store) (record : IngestionRecordInput) (input : IngestionBatchInput)
    (index : FileIndex) (principal : Principal) : IngestionDryRunLineResult :=
  let line (outcome : IngestionDryRunOutcome) (reason : String)
      (matchedLeadId : Option String := none) : IngestionDryRunLineResult :=
    { lineNumber := record.lineNumber, outcome, reason := some reason, matchedLeadId }
  match normalize rt record with
  | .error reason => line .INVALID reason
  | .ok contacts =>
    let status := record.status rt
    if status = .UNKNOWN then line .MANUAL_REVIEW "historical_status_unknown"
    else
      let found := identityMatches rt s record contacts
      if 1 < found.length then line .MANUAL_REVIEW "identity_collision"
      else
        let rows := internalRows index record contacts
        if 1 < rows.length then line .MANUAL_REVIEW "file_identity_collision"
        else if status = .DUPLICATE then
          if found.head?.isSome then line .DUPLICATE "historical_duplicate" found.head?
          else if rows.length = 1 then line .IGNORED "historical_duplicate_in_file"
          else line .MANUAL_REVIEW "duplicate_without_reliable_match"
        else if found.head?.isSome then line .DUPLICATE "existing_lead_match" found.head?
        else if rows.length = 1 then line .DUPLICATE "file_duplicate"
        else if ¬record.hasRequiredMapping then line .MANUAL_REVIEW "required_mapping_missing"
        else if input.profile = "" ∨ principal.userId = "" then
          line .INVALID "dry_run_context_invalid"
        else { lineNumber := record.lineNumber, outcome := .VALID }

def rememberIdentity (index : FileIndex) (record : IngestionRecordInput) : FileIndex where
  externalIds := record.externalKey.elim index.externalIds fun key =>
    index.externalIds.set key record.lineNumber
  emails := (nonEmpty (record.email.map (normalizeEmail rt))).elim index.emails fun email =>
    index.emails.set email record.lineNumber
  phones := (nonEmpty (record.phone.map normalizePhone)).elim index.phones fun phone =>
    index.phones.set phone record.lineNumber

/-- The adviser the assignment service would choose for a valid line, by the
number of valid lines before it. -/
abbrev AssignmentPreview := IngestionRecordInput → ℕ → Option String

/-- The loop of `buildDryRun`. -/
def previewRecords (s : Store) (input : IngestionBatchInput) (principal : Principal)
    (previewAssignment : AssignmentPreview) :
    FileIndex → ℕ → List IngestionRecordInput → List IngestionDryRunLineResult
  | _, _, [] => []
  | index, ordinal, record :: records =>
    let result := previewOne rt s record input index principal
    if result.outcome = .VALID then
      { result with proposedAssigneeId := nonEmpty (previewAssignment record ordinal) } ::
        previewRecords s input principal previewAssignment (rememberIdentity rt index record)
          (ordinal + 1) records
    else result :: previewRecords s input principal previewAssignment index ordinal records

def countPreview (lines : List IngestionDryRunLineResult) (outcome : IngestionDryRunOutcome) : ℕ :=
  lines.countP fun line => line.outcome = outcome

def buildDryRun (s : Store) (input : IngestionBatchInput) (principal : Principal)
    (previewAssignment : AssignmentPreview) : Outcome IngestionDryRunResult := do
  assertRole principal
  validateBatch { input with confirmed := true }
  let lines := previewRecords rt s input principal previewAssignment .empty 0 input.records
  let assigned := lines.countP fun line => line.outcome = .VALID ∧ line.proposedAssigneeId.isSome
  pure {
    idempotencyKey := input.idempotencyKey
    total := lines.length
    valid := countPreview lines .VALID
    duplicates := countPreview lines .DUPLICATE
    manualReview := countPreview lines .MANUAL_REVIEW
    invalid := countPreview lines .INVALID
    ignored := countPreview lines .IGNORED
    assigned
    unassigned := countPreview lines .VALID - assigned
    lines }

/-! ### The index as a register -/

def FileIndex.identities (index : FileIndex) : Registry IdentityKey ℤ
  | .external key => index.externalIds.get key
  | .email value => index.emails.get value
  | .phone value => index.phones.get value

@[simp] theorem FileIndex.identities_empty (key : IdentityKey) :
    FileIndex.empty.identities key = none := by cases key <;> rfl

variable {rt} {s : Store} {record : IngestionRecordInput} {contacts : Contacts}
  {index : FileIndex}

theorem internalRows_eq :
    internalRows index record contacts =
      index.identities.holders (identityKeys record contacts) := by
  rw [internalRows, holders_identityKeys]
  rfl

theorem identities_rememberIdentity (hn : Normalized rt record contacts)
    (hfree : ∀ key ∈ identityKeys record contacts, index.identities key = none) :
    (rememberIdentity rt index record).identities =
      index.identities.claim (identityKeys record contacts) record.lineNumber := by
  have hset : ∀ (d : Dict String ℤ) (o : Option String) (value : String),
      (value ∈ o.toList → d.get value = none) →
        (o.elim d fun key => d.set key record.lineNumber).get value =
          (d.get value).or (if value ∈ o.toList then some record.lineNumber else none) :=
    fun d o value hnone => by
      cases o with
      | none => simp
      | some key =>
        rw [Option.elim, Dict.get_set]
        by_cases hv : value = key
        · subst hv
          simp [hnone (by simp)]
        · simp [hv]
  funext key
  rw [Registry.claim_apply]
  cases key with
  | external key =>
    have hmem : IdentityKey.external key ∈ identityKeys record contacts ↔
        key ∈ record.externalKey.toList := by
      simp [identityKeys, externalKeys]
    simp only [hmem]
    exact hset _ _ _ fun hkey => hfree (.external key) (hmem.mpr hkey)
  | email value =>
    have hmem : IdentityKey.email value ∈ identityKeys record contacts ↔
        value ∈ (nonEmpty (record.email.map (normalizeEmail rt))).toList := by
      rw [← hn.email]
      simp [identityKeys, externalKeys]
    simp only [hmem]
    exact hset _ _ _ fun hkey => hfree (.email value) (hmem.mpr hkey)
  | phone value =>
    have hmem : IdentityKey.phone value ∈ identityKeys record contacts ↔
        value ∈ (nonEmpty (record.phone.map normalizePhone)).toList := by
      rw [← hn.phone]
      simp [identityKeys, externalKeys]
    simp only [hmem]
    exact hset _ _ _ fun hkey => hfree (.phone value) (hmem.mpr hkey)

/-! ### What is announced -/

variable (rt) in
/-- What a dry run announces of a record that leads somewhere in the store, and
somewhere in the file. -/
def announce (record : IngestionRecordInput) (identified : Prop) [Decidable identified]
    (store : Resolution String) (file : Resolution ℤ) : IngestionDryRunOutcome :=
  if record.status rt = .UNKNOWN then .MANUAL_REVIEW
  else
    match store, file with
    | .several, _ | _, .several => .MANUAL_REVIEW
    | .one _, _ => .DUPLICATE
    | .unknown, .one _ => if record.status rt = .DUPLICATE then .IGNORED else .DUPLICATE
    | .unknown, .unknown =>
      if ¬Enrollable rt record then .MANUAL_REVIEW
      else if identified then .VALID else .INVALID

variable {input : IngestionBatchInput} {principal : Principal}

theorem previewOne_refused {reason : String} (h : normalize rt record = .error reason) :
    (previewOne rt s record input index principal).outcome = .INVALID := by
  simp only [previewOne, h]

/-- **The announcement for a record.** -/
theorem previewOne_outcome (hlower : LowerStable rt) (hs : s.Keyed) (hprofile : input.profile ≠ "")
    (h : normalize rt record = .ok contacts) :
    (previewOne rt s record input index principal).outcome =
      announce rt record (principal.userId ≠ "")
        (s.identities.resolve (identityKeys record contacts))
        (index.identities.resolve (identityKeys record contacts)) := by
  have hn := normalized_of_normalize h
  simp only [previewOne, announce, h, identityMatches_eq hlower hs hn, internalRows_eq,
    Registry.resolve, hprofile, false_or, Enrollable]
  by_cases hunknown : record.status rt = .UNKNOWN
  · simp only [hunknown, if_true]
  simp only [hunknown, if_false]
  rcases s.identities.holders (identityKeys record contacts) with - | ⟨leadId, - | ⟨leadId', l⟩⟩ <;>
    rcases index.identities.holders (identityKeys record contacts) with - | ⟨row, - | ⟨row', l'⟩⟩ <;>
    by_cases hdup : record.status rt = .DUPLICATE <;>
    simp [Resolution.ofSet, hdup]
  -- nothing is left but a record that leads nowhere and is not a duplicate
  by_cases huser : principal.userId = "" <;> by_cases hmap : record.hasRequiredMapping = true <;>
    simp [huser, hmap]

theorem previewOne_lineNumber :
    (previewOne rt s record input index principal).lineNumber = record.lineNumber := by
  unfold previewOne
  cases normalize rt record with
  | error reason => rfl
  | ok contacts =>
    repeat' first
      | rfl
      | refine iteInduction (motive := fun l : IngestionDryRunLineResult =>
          l.lineNumber = record.lineNumber) (fun _ => ?_) fun _ => ?_

end CrmYnov.Ingestion
