import CrmYnov.Bootstrap.Mapping
import CrmYnov.Leads.Progression

/-!
# What a decision may say

A decision is checked twice, when it is taken and when it is carried out. The annotations
of a row have to be disposed of one by one (`CrmYnov.Bootstrap.validateAnnotations`), a
cycle has to rest on cells that are there, and a dossier is created from values that are
complete, that the source does not contradict, and whose contact no other dossier has.

What the permissions answer is not settled here (`CrmYnov.Bootstrap.Authority`).
-/

namespace CrmYnov.Bootstrap

open Checked References Js

/-- Who makes a call, and what the permissions answer to it. -/
structure Authority where
  /-- `actor.userId`: a user the database holds. -/
  actorId : Uuid
  /-- Every one of some permissions is granted in a campus. -/
  may : CanonicalCampus → List String → Bool
  /-- Every one of some permissions is granted on a lead. -/
  mayOnLead : Leads.LeadRow → List String → Bool
  /-- `assignmentCandidateCapability` -/
  candidate : Users.CollaboratorRow → Bool

variable (rt : ImportRuntime)

/-! ### Contacts -/

/-- `/^[^\s@]{1,64}@[^\s@]+\.[^\s@]+$/` -/
def isHistoricalEmail (email : String) : Bool :=
  let local' := email.toList.takeWhile fun c => c != '@'
  let domain := (email.toList.dropWhile fun c => c != '@').tail
  !local'.isEmpty && utf16Length local' ≤ 64 && !email.toList.any isSpace &&
    !domain.contains '@' && (domain.drop 1).dropLast.contains '.'

def normalizeHistoricalEmail (value : Option String) : Option String :=
  (value.map fun text => rt.unicode.toLowerCase (trim text)).filter fun email =>
    email ≠ "" ∧ length email ≤ 254 ∧ isHistoricalEmail email

/-- `[ ().-]` -/
def isPhoneMark (c : Char) : Bool := c == ' ' || c == '(' || c == ')' || c == '.' || c == '-'

/-- `/^\+?[\d ().-]+$/` -/
def isPhoneText (text : String) : Bool :=
  let rest := if text.toList.head? == some '+' then text.toList.tail else text.toList
  !rest.isEmpty && rest.all fun c => isDigit c || isPhoneMark c

/-- `phone.replace(/[ ().-]/g, "")` -/
def compactPhone (text : String) : String := keep (fun c => !isPhoneMark c) text

def normalizeHistoricalPhone (value : Option String) : Option String :=
  ((value.map trim).filter fun phone => isPhoneText phone).map compactPhone |>.filter fun phone =>
    Ingestion.isPhone phone

/-- `btrim(text)`: the database trims spaces alone. -/
def btrim (text : String) : String :=
  String.ofList ((text.toList.dropWhile fun c => c == ' ').rdropWhile fun c => c == ' ')

/-- `MAX_CONTACT_SCOPE_ROWS` -/
def maxContactScopeRows : ℕ := 10000

/-- A stored contact is one of two contacts in normal form. -/
def meetsContact (email phone : Option String) (storedEmail storedPhone : Option String) : Prop :=
  (∃ e ∈ email, storedEmail.map (fun text => rt.unicode.toLowerCase (btrim text)) = some e) ∨
    ∃ p ∈ phone, ∃ text ∈ storedPhone, isPhoneText (btrim text) ∧ compactPhone (btrim text) = p
deriving Decidable

variable (s : ImportStore)

/-- The decisions to create a dossier that are waiting in a campus. -/
def scopedDecisions (campusId : String) (rowId : Uuid) : List Decision :=
  ((s.rows.findMany fun r => r.id ≠ rowId ∧ r.state = .READY ∧
      (s.package r.packageId).any (fun p => p.campusId = campusId)).filterMap
        BootstrapImportRow.decision).filter fun d => d.action = .CREATE_DOSSIER

def requireNoHistoricalContactCollision (campus : CanonicalCampus) (rowId : Uuid)
    (email phone : Option String) : Outcome Unit := do
  let leads := s.db.leads.findMany fun l => l.campus ∈ campus.keys
  let decisions := scopedDecisions s campus.id rowId
  require (leads.length ≤ maxContactScopeRows ∧ decisions.length ≤ maxContactScopeRows)
    (unprocessable "bootstrap_contact_scope_review_required")
  require ((∀ l ∈ leads, ¬meetsContact rt email phone l.email l.phone) ∧
      ∀ d ∈ decisions, ¬meetsContact rt email phone (d.resolved.text "email") (d.resolved.text "phone"))
    (unprocessable "bootstrap_contact_reconciliation_required")

/-! ### Annotations and cycles -/

/-- `annotations.find(…)`: the annotation a decision names. -/
def annotationOf (source : SourceRow) (item : HistoricalAnnotationDecision) :
    Option HistoricalAnnotation :=
  source.annotations.find? fun annotation => annotation.triple = item.triple

/-- `${item.relationshipId}:${item.annotationId}:${item.reference}` -/
def HistoricalAnnotationDecision.name (item : HistoricalAnnotationDecision) : String :=
  item.relationshipId ++ ":" ++ item.annotationId ++ ":" ++ item.reference

def validateAnnotations (decision : HistoricalDecisionInput) (source : SourceRow) :
    Outcome Unit := do
  let resolutions := decision.annotations.getD []
  require (resolutions.length ≤ 100 ∧
      (∀ item ∈ resolutions, 8 ≤ length (trim item.reason) ∧ length item.reason ≤ 1000 ∧
        (annotationOf source item).isSome) ∧
      (resolutions.map HistoricalAnnotationDecision.name).Nodup)
    (refuse "bootstrap_annotation_resolution_invalid")
  require (decision.action ≠ .IGNORE → source.annotations.length = resolutions.length)
    (unprocessable "bootstrap_annotation_resolution_required")
  require (∀ item ∈ resolutions, item.action = .PRESERVE_NOTE →
      (((annotationOf source item).bind HistoricalAnnotation.author).all fun author =>
        length author ≤ 120) = true)
    (unprocessable "bootstrap_annotation_author_length_review_required")

/-- `/^20\d{2}-20\d{2}$/`, for a year and the next one. -/
def isCycleLabel (label : String) : Bool :=
  let year := fun cs : List Char => Nat.ofDigitChars 10 cs 0
  hasShape [(· == '2'), (· == '0'), isDigit, isDigit, (· == '-'), (· == '2'), (· == '0'),
      isDigit, isDigit] label &&
    year (label.toList.drop 5) == year (label.toList.take 4) + 1

def validateCycle (cycle : Option HistoricalCycle) (source : SourceRow) : Outcome Unit :=
  match cycle with
  | none => pure ()
  | some cycle => do
    require (length cycle.reason ≤ 1000 ∧ cycle.sourceColumns.length ≤ 6 ∧
        cycle.sourceColumns.Nodup ∧
        ∀ column ∈ cycle.sourceColumns,
          isColumn column ∧ given (cellText (source.cells.get column)))
      (refuse "bootstrap_cycle_invalid")
    if cycle.state = .UNSPECIFIED then
      require (cycle.label = none ∧ cycle.sourceColumns = []) (refuse "bootstrap_cycle_invalid")
    else do
      require (8 ≤ length (trim cycle.reason) ∧ cycle.sourceColumns ≠ [])
        (refuse "bootstrap_cycle_evidence_required")
      require (∀ label ∈ cycle.label, isCycleLabel label) (refuse "bootstrap_cycle_label_invalid")
      require (cycle.state = .CONFIRMED_TARGET ∨ cycle.state = .HISTORICAL_ENROLMENT →
          cycle.label.isSome)
        (refuse "bootstrap_cycle_label_required")
      require (∀ column ∈ cycle.sourceColumns, ¬computed (source.cells.get column))
        (unprocessable "bootstrap_cycle_formula_not_evidence")

def validateSourceCoverage (mapped : MappedRow) (decision : HistoricalDecisionInput)
    (source : SourceRow) : Outcome Unit := do
  require (∀ reason ∈ mapped.reasons, ¬startsWith "UNMAPPED_SOURCE_CELL_REVIEW:" reason ∧
      reason ≠ "ORPHAN_COMMENT_REVIEW")
    (unprocessable "bootstrap_source_coverage_review_required")
  validateAnnotations decision source

/-! ### Dossiers -/

def educationLevels : List String :=
  ["Bac", "Bac+1", "Bac+2", "Bac+3", "Bac+4", "Bac+5", "B1", "B2", "B3", "M1", "M2", "Terminale"]

def historicalEducationLabels : List String :=
  ["Autres Branches Scientifiques", "Autres branches Techniques"]

/-- `["ENROLLED", "CLOSED_LOST"].includes(status)` -/
def isTerminalStatus (status : String) : Prop := status = "ENROLLED" ∨ status = "CLOSED_LOST"
deriving Decidable

/-- One field of `baselineOptionalValues`: it may stay empty when the source lacks it. -/
def baselineOptionalValue (source : Values) (reasons : List String) (resolved : Values)
    (field : String) : Outcome Values :=
  if resolved.has field then pure resolved
  else do
    require (formulaReview field ∉ reasons) (unprocessable "bootstrap_formula_review_required")
    require (¬source.has field)
      (.unprocessable "bootstrap_baseline_known_value_cannot_clear" field)
    pure (resolved.set field (some ""))

def baselineOptionalValues (values source : Values) (reasons : List String) : Outcome Values :=
  baselineOptionalInformation.foldlM (baselineOptionalValue source reasons) values

def requireExplicitHistoricalStatus (reasons : List String) (decision : HistoricalDecisionInput)
    (rawStatus : Option String) : Outcome Unit :=
  require ((∃ reason ∈ reasons, reason = "STATUS_MISSING_REVIEW" ∨
        reason = "HISTORICAL_MILESTONE_STATUS_REVIEW") ∨
      (historicalStatusResolutionReason rt rawStatus).isSome →
      given (decision.override "status") ∧ 8 ≤ length (trim decision.reason))
    (unprocessable "bootstrap_status_explicit_resolution_required")

variable (auth : Authority)

/-- `authorize`: every one of some permissions is granted in the campus of a package. -/
def authorize (campusId : String) (keys : List String) : Outcome CanonicalCampus := do
  let campus ← canonicalCampus rt.toRuntime s.db.references campusId
  require (auth.may campus keys = true) permissionDenied
  pure campus

def requireValues (values : Values) : Outcome Unit := do
  require (∀ key ∈ ["firstName", "lastName", "campaign", "source", "status"], values.has key)
    (unprocessable "bootstrap_required_value_missing")
  require (length (values.textD "firstName") ≤ 100 ∧ length (values.textD "lastName") ≤ 100 ∧
      length (values.textD "educationLevel") ≤ 80 ∧ length (values.textD "source") ≤ 80 ∧
      (Leads.LeadStatus.ofText? (values.textD "status")).isSome)
    (refuse "bootstrap_lead_values_invalid")
  require (values.has "email" ∨ values.has "phone") (refuse "bootstrap_contact_required")
  require (values.has "email" → (normalizeHistoricalEmail rt (values.text "email")).isSome)
    (refuse "bootstrap_email_invalid")
  require (values.has "phone" → (normalizeHistoricalPhone (values.text "phone")).isSome)
    (unprocessable "bootstrap_phone_explicit_resolution_required")

/-- The values of a dossier are of the domain, and a label of the source is kept. -/
def requireDomain (values : Values) (mapped : MappedRow) : Outcome Unit := do
  let sourceLabel := mapped.values.textD "educationLevel"
  require (sourceLabel ∈ historicalEducationLabels →
      values.text "educationLevel" = mapped.values.text "educationLevel" ∧
        formulaReview "educationLevel" ∉ mapped.reasons)
    (refuse "bootstrap_lead_domain_invalid")
  require (values.textD "source" ∈ leadSources ∧
      (values.textD "educationLevel" = "" ∨ values.textD "educationLevel" ∈ educationLevels ∨
        sourceLabel ∈ historicalEducationLabels) ∧
      values.textD "temperature" ∈ ["COLD", "WARM", "HOT", "UNEVALUATED"])
    (refuse "bootstrap_lead_domain_invalid")

/-- What is computed in the source has been resolved. -/
def requireFormulas (mapped : MappedRow) (decision : HistoricalDecisionInput) : Outcome Unit :=
  require (∀ reason ∈ mapped.reasons, startsWith "FORMULA_REVIEW:" reason →
      let field := String.ofList (reason.toList.drop 15)
      ¬startsWith "comment:" field ∧
        (if field = "owner" ∨ field = "replacementOwner" then (decision.override "ownerId").isSome
          else (decision.override field).any fun text => text != "") = true)
    (unprocessable "bootstrap_formula_review_required")

/-- A final status is given on purpose, and the source bears it out. -/
def requireTerminalStatus (values : Values) (mapped : MappedRow)
    (decision : HistoricalDecisionInput) : Outcome Unit := do
  let status := values.textD "status"
  require (isTerminalStatus status →
      ((decision.override "status").any fun text => text != "") = true)
    (unprocessable "bootstrap_terminal_status_explicit_resolution_required")
  require (isTerminalStatus status →
      mapped.values.text "status" ≠ values.text "status" ∨
        formulaReview "status" ∈ mapped.reasons →
      status = "ENROLLED" ∧ (decision.cycle.any fun cycle =>
        cycle.state = .HISTORICAL_ENROLMENT ∧ cycle.sourceColumns ≠ []) = true)
    (unprocessable "bootstrap_terminal_source_evidence_required")

/-- The owner is given on purpose, is active in the campus, and may be given leads. -/
def requireOwner (campusId : String) (campus : CanonicalCampus) (values : Values)
    (mapped : MappedRow) (decision : HistoricalDecisionInput) : Outcome Unit := do
  require ("OWNER_UNKNOWN" ∈ mapped.reasons → (decision.override "ownerId").isSome)
    (unprocessable "bootstrap_owner_review_required")
  let ownerId := values.textD "ownerId"
  require (ownerId = "" → decision.override "ownerId" = some "")
    (unprocessable "bootstrap_unassigned_explicit_resolution_required")
  if ownerId = "" then pure ()
  else do
    let _ ← authorize rt s auth campusId ["lead.assign"]
    let owner ← demand (Uuid.read ownerId) (refuse "bootstrap_owner_invalid")
    let collaborator ← demand (s.db.collaborators.findUnique (.id owner.val)) permissionDenied
    require (collaborator.active ∧ (collaborator.campusId.any fun id => id ∈ campus.keys) = true)
      permissionDenied
    require (auth.candidate collaborator = true) permissionDenied

/-- A check that a committed row no longer has to pass. -/
def unlessAccepted (row : BootstrapImportRow) (check : Outcome Unit) : Outcome Unit :=
  if row.state = .ACCEPTED then pure () else check

def validateCreate (p : BootstrapImportPackage) (row : BootstrapImportRow) (values : Values)
    (decision : HistoricalDecisionInput) : Outcome Unit := do
  let _ ← authorize rt s auth p.campusId ["lead.create"]
  let mapped := row.mapped
  let values ← baselineOptionalValues values mapped.values mapped.reasons
  unlessAccepted row (requireExplicitHistoricalStatus rt mapped.reasons decision mapped.rawStatus)
  requireValues rt values
  requireDomain values mapped
  validateSourceCoverage mapped decision row.payload
  require ("HISTORICAL_DUPLICATE_STATUS_REVIEW" ∉ mapped.reasons)
    (unprocessable "bootstrap_duplicate_requires_link_or_ignore")
  requireFormulas mapped decision
  requireTerminalStatus values mapped decision
  let campus ← canonicalCampus rt.toRuntime s.db.references p.campusId
  let _ ← validateLeadReferences rt.toRuntime s.db.references
    ⟨(campus.keys[1]?).getD "", values.textD "program", values.textD "campaign"⟩ none true
  requireOwner rt s auth p.campusId campus values mapped decision
  unlessAccepted row (requireNoHistoricalContactCollision rt s campus row.id
    (normalizeHistoricalEmail rt (values.text "email"))
    (normalizeHistoricalPhone (values.text "phone")))

/-- `authorizeLinkedLead`: the lead a row is linked to is of the campus, and may be seen
and edited. -/
def authorizeLinkedLead (p : BootstrapImportPackage) (id : String) : Outcome Leads.LeadRow := do
  let lead ← demand (s.lead id) permissionDenied
  let resource ← canonicalCampus rt.toRuntime s.db.references lead.campus
  let campus ← canonicalCampus rt.toRuntime s.db.references p.campusId
  require (campus.id ∈ resource.keys) permissionDenied
  require (auth.mayOnLead lead ["lead.view", "lead.edit"] = true) permissionDenied
  pure lead

end CrmYnov.Bootstrap
