import CrmYnov.Base.Table
import CrmYnov.Platform.Failure
import CrmYnov.Platform.Runtime

/-!
# References: campuses, programs and campaigns by any of their names

A lead names its campus, its program and its campaign by text. Each such text is
looked up among the keys of the references – their codes, labels and aliases,
normalized – and what a service stores is the code of the reference found. A
text that two references answer to, one of them global and the other of the
campus, is resolved to neither.
-/

namespace CrmYnov

open Checked

namespace References

inductive ReferenceKind
  | CAMPUS | PROGRAM | SCHOLARSHIP | CAMPAIGN | TAG
deriving DecidableEq

/-- Whether a reference may still be used. -/
inductive ReferenceState
  | ACTIVE | ARCHIVED
deriving DecidableEq

/-- A row of `crm_references`. -/
structure CrmReference where
  id : String
  kind : ReferenceKind
  (code label scopeKey : String)
  state : ReferenceState

/-- The unique indexes of `crm_references`. -/
inductive CrmReference.Key
  | id (value : String)
  | code (kind : ReferenceKind) (scopeKey code : String)
deriving DecidableEq

def CrmReference.keys (r : CrmReference) : List CrmReference.Key :=
  [.id r.id, .code r.kind r.scopeKey r.code]

/-- A row of `crm_reference_keys`: a text by which a reference is found. -/
structure CrmReferenceKey where
  referenceId : String
  kind : ReferenceKind
  (scopeKey key : String)
deriving DecidableEq

def CrmReferenceKey.keys (k : CrmReferenceKey) : List (ReferenceKind × String × String) :=
  [(k.kind, k.scopeKey, k.key)]

/-- A row of `crm_program_availability`. -/
structure CrmProgramAvailability where
  (programId campusId : String)
  active : Bool

def CrmProgramAvailability.keys (a : CrmProgramAvailability) : List (String × String) :=
  [(a.programId, a.campusId)]

structure Store where
  references : Table CrmReference CrmReference.keys
  keys : Table CrmReferenceKey CrmReferenceKey.keys
  availability : Table CrmProgramAvailability CrmProgramAvailability.keys

def Store.empty : Store := ⟨Table.empty, Table.empty, Table.empty⟩

structure LeadReferenceValues where
  (campus program campaign : String)

variable (rt : Runtime)

def referenceKey (value : String) : String :=
  rt.unicode.toLocaleUpperCase (rt.unicode.normalizeNFC (Js.trim value))

/-- `unknownReference(field)` -/
def unknownReference (field : String) : Failure := .unprocessable "REFERENCE_VALUE_UNKNOWN" field

variable (s : Store)

/-- `resolveReference`: the one reference that answers to a text, globally or in
a campus. -/
def resolveReference (kind : ReferenceKind) (raw : String) (campusId : Option String := none) :
    Option CrmReference :=
  let rows := s.keys.findMany fun k =>
    k.kind = kind ∧ k.key = referenceKey rt raw ∧ (k.scopeKey = "GLOBAL" ∨ campusId = some k.scopeKey)
  match rows with
  | [row] => s.references.findUnique (.id row.referenceId)
  | _ => none

/-- The fields of a lead whose references a campus must offer. -/
inductive LocalField
  | program | campaign
deriving DecidableEq

/-- `referenceFields[field]` -/
def LocalField.kind : LocalField → ReferenceKind
  | program => .PROGRAM
  | campaign => .CAMPAIGN

def LocalField.name : LocalField → String
  | program => "program"
  | campaign => "campaign"

/-- `activeReferenceCode`: the code of a program or a campaign that may be used
in a campus. -/
def activeReferenceCode (field : LocalField) (value campusId : String) : Outcome String := do
  let ref ← demand (resolveReference rt s field.kind value (some campusId))
    (unknownReference field.name)
  require (ref.state = .ACTIVE) (unknownReference field.name)
  require
    (field = .program →
      ((s.availability.findUnique (ref.id, campusId)).any fun a => a.active) = true)
    (unknownReference field.name)
  pure ref.code

/-- The code of one field: kept when neither it nor the campus changed, blank
when a baseline lead may lack it, and looked up otherwise. -/
def fieldCode (field : LocalField) (value campusId : String) (changed mayLack : Bool) :
    Outcome String :=
  if ¬changed then pure value
  else if mayLack ∧ ¬Js.present value then pure ""
  else activeReferenceCode rt s field value campusId

/-- `validateLeadReferences`: the codes of the texts that changed, and of the
others when the campus did. -/
def validateLeadReferences (values : LeadReferenceValues)
    (previous : Option LeadReferenceValues := none) (allowMissingBaselineProgram : Bool := false) :
    Outcome LeadReferenceValues := do
  let campusChanged := previous.map LeadReferenceValues.campus ≠ some values.campus
  let programChanged := previous.map LeadReferenceValues.program ≠ some values.program
  let campaignChanged := previous.map LeadReferenceValues.campaign ≠ some values.campaign
  if ¬campusChanged ∧ ¬programChanged ∧ ¬campaignChanged then pure values
  else
    let campus ← demand (resolveReference rt s .CAMPUS values.campus) (unknownReference "campus")
    require (campusChanged → campus.state = .ACTIVE) (unknownReference "campus")
    let program ← fieldCode rt s .program values.program campus.id
      (programChanged ∨ campusChanged) allowMissingBaselineProgram
    let campaign ← fieldCode rt s .campaign values.campaign campus.id
      (campaignChanged ∨ campusChanged) false
    pure { campus := if campusChanged then campus.code else values.campus, program, campaign }

theorem validateLeadReferences_self (values : LeadReferenceValues) (allow : Bool) :
    validateLeadReferences rt s values (some values) allow = .ok values := by
  simp [validateLeadReferences, pure, Except.pure]

end References

end CrmYnov

/-!
## The campus of a request

Permissions and audits name a campus by its reference. Any of its texts – its
identifier, code, label or a key – leads to it, provided it is active.
-/

namespace CrmYnov

open Checked

namespace References

/-- `permissionDenied()` -/
def permissionDenied : Failure := .forbidden "permission_denied"

structure CanonicalCampus where
  id : String
  keys : List String

/-- `/^[a-f\d-]{36}$/i` -/
def looksLikeId (value : String) : Bool :=
  Js.fullMatch (fun c => ('a' ≤ c && c ≤ 'f') || ('A' ≤ c && c ≤ 'F') || Js.isDigit c || c == '-')
    36 36 value

def canonicalCampus (rt : Runtime) (s : Store) (value : String) : Outcome CanonicalCampus := do
  let campus ← demand
    (if looksLikeId value then s.references.findUnique (.id value)
      else resolveReference rt s .CAMPUS value)
    permissionDenied
  require (campus.kind = .CAMPUS ∧ campus.state = .ACTIVE) permissionDenied
  let keys := (s.keys.findMany fun k => k.referenceId = campus.id).map CrmReferenceKey.key
  pure { id := campus.id, keys := campus.id :: campus.code :: campus.label :: keys }

end References

end CrmYnov
