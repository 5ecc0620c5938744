import CrmYnov.Notifications.Queue
import Mathlib.Data.List.Sort
import Mathlib.Data.String.Basic

/-!
# Documents of a candidate and their checklist

Each lead has a checklist of the documents it owes, and each document that is uploaded goes
through a verification. The state of an item of the checklist and the states of its documents are
kept apart: an upload stores its document, and then moves the item along a table of transitions;
a verification decides the document, and then the item.

The table refuses some of these moves. An upload is not compared with it before its document is
stored: one that comes while the last document of its item waits for its verification, or without
a replacement when one is due, is refused, and leaves its document behind
(`Documents.Sample.upload_leaves_document`). `Documents.checklist_agrees_iff` says that these are
the only calls that separate the documents from their checklist.
-/

namespace CrmYnov.Documents

open Checked Notifications Js Dict Function List Option

/-- `documentTypes` -/
inductive DocumentType
  | BACCALAUREAT | DIPLOME | RELEVE_NOTES | PIECE_IDENTITE | SITUATION_PROFESSIONNELLE
  | BOURSE_ELIGIBILITE | AUTRE_CONTROLE
deriving DecidableEq

def DocumentType.text : DocumentType → String
  | BACCALAUREAT => "BACCALAUREAT"
  | DIPLOME => "DIPLOME"
  | RELEVE_NOTES => "RELEVE_NOTES"
  | PIECE_IDENTITE => "PIECE_IDENTITE"
  | SITUATION_PROFESSIONNELLE => "SITUATION_PROFESSIONNELLE"
  | BOURSE_ELIGIBILITE => "BOURSE_ELIGIBILITE"
  | AUTRE_CONTROLE => "AUTRE_CONTROLE"

def DocumentType.read (text : String) : Option DocumentType :=
  [BACCALAUREAT, DIPLOME, RELEVE_NOTES, PIECE_IDENTITE, SITUATION_PROFESSIONNELLE,
    BOURSE_ELIGIBILITE, AUTRE_CONTROLE].find? fun t => t.text == text

/-- `documentStates` -/
inductive DocumentState
  | MANQUANT | ATTENDU | REÇU | À_VÉRIFIER | VALIDÉ | REFUSÉ | EXPIRÉ | REMPLACÉ
deriving DecidableEq

def transitionRules : DocumentState → List DocumentState
  | .MANQUANT => [.ATTENDU, .REÇU]
  | .ATTENDU => [.REÇU]
  | .REÇU => [.À_VÉRIFIER]
  | .À_VÉRIFIER => [.VALIDÉ, .REFUSÉ, .EXPIRÉ]
  | .VALIDÉ => [.EXPIRÉ, .REMPLACÉ]
  | .REFUSÉ => [.REMPLACÉ]
  | .EXPIRÉ => [.REMPLACÉ]
  | .REMPLACÉ => [.REÇU]

structure ChecklistItem where
  (id leadId : String)
  documentType : DocumentType
  requirementCode : String
  state : DocumentState
  version : ℕ
  (createdAt updatedAt : Instant)

structure StoredFile where
  (sanitizedFileName extension declaredMime detectedMime : String)
  byteSize : ℕ
  (sha256 storageReference : String)

structure DocumentMetadata where
  (id leadId checklistItemId : String)
  documentType : DocumentType
  stored : StoredFile
  uploadedBy : String
  receivedAt : Instant
  verificationStatus : DocumentState
  verifiedBy : Option String := none
  verifiedAt : Option Instant := none
  refusalReasonCode : Option String := none
  version : ℕ
  replacedDocumentId : Option String := none

structure DocumentEvent where
  (id documentId eventType actorId : String)
  reasonCode : Option String
  correlationId : String
  occurredAt : Instant

structure ChecklistCriteria where
  (admissionLevel program applicationType situation : Option String)
  scholarship : Bool := false

structure UploadInput where
  (checklistItemId documentType originalName declaredMime contentBase64 : Option String)
  replacesDocumentId : Option String := none

structure VerifyInput where
  decision : Option String
  reasonCode : Option String := none

structure Lead where
  campus : String

/-- What the other services and the world answer during a call. -/
structure Circumstances where
  /-- `leads.getLead(leadId, principal, correlationId)` -/
  lead : String → Outcome Lead
  now : Instant
  /-- The identifier that a document draws. -/
  randomUUID : String
  /-- The identifiers that the items of a checklist draw. -/
  itemId : DocumentType → String
  /-- The identifiers that the events draw. -/
  (eventId replacementEventId notificationId : String)

/-- An upload that waits for the storage: what it has looked up before. -/
structure PendingUpload where
  leadId : String
  item : ChecklistItem
  replaced : Option DocumentMetadata
  principal : Principal
  correlationId : String

/-- The memory of the service, with that of the notifications. -/
structure DocumentService where
  checklists : Dict String (List ChecklistItem) := empty
  documents : Dict String DocumentMetadata := empty
  events : List DocumentEvent := []
  notifications : Memory := {}
  uploads : List PendingUpload := []

namespace DocumentService

def scopedLead (c : Circumstances) (leadId : String) (principal : Principal) : Outcome Lead := do
  let lead ← c.lead leadId
  require (principal.covers lead.campus) (.notFound "lead_not_found")
  pure lead

def assertContributor (principal : Principal) : Outcome Unit :=
  require (principal.hasSome [.ADMISSIONS, .MANAGER, .ADMIN, .SUPER_ADMIN])
    (.forbidden "document_role_forbidden")

def mentions (words : List String) (text : String) : Bool :=
  words.any fun word =>
    (text.toList.map lowerChar).tails.any fun rest => word.toList.isPrefixOf rest

def required (criteria : ChecklistCriteria) : List DocumentType :=
  [.BACCALAUREAT, .RELEVE_NOTES, .PIECE_IDENTITE] ++
    (if mentions ["master", "bac+2", "bac+3", "bac+4", "bac+5", "dipl"]
        (criteria.admissionLevel.getD "") then [.DIPLOME] else []) ++
    (if mentions ["salari", "emploi", "altern"] (criteria.situation.getD "") then
      [.SITUATION_PROFESSIONNELLE] else []) ++
    if criteria.scholarship then [.BOURSE_ELIGIBILITE] else []

variable (collate : String → String → Bool)

/-- The items of a new checklist, sorted by `localeCompare`. -/
def newItems (leadId : String) (criteria : ChecklistCriteria) (c : Circumstances) :
    List ChecklistItem :=
  ((required criteria).insertionSort fun a b => collate a.text b.text).map fun documentType =>
    { id := c.itemId documentType
      leadId
      documentType
      requirementCode := criteria.admissionLevel.getD "" ++ ":" ++ criteria.program.getD "" ++
        ":" ++ criteria.applicationType.getD "" ++ ":" ++ criteria.situation.getD ""
      state := .MANQUANT
      version := 1
      createdAt := c.now
      updatedAt := c.now }

def generateChecklist (s : DocumentService) (leadId : String) (criteria : ChecklistCriteria)
    (principal : Principal) (c : Circumstances) :
    Outcome (List ChecklistItem × DocumentService) := do
  let _ ← scopedLead c leadId principal
  assertContributor principal
  require (given criteria.admissionLevel ∧ given criteria.program ∧
      given criteria.applicationType ∧ given criteria.situation)
    (.badRequest "document_criteria_invalid")
  match s.checklists.get leadId with
  | some existing => pure (existing, s)
  | none =>
    let items := newItems collate leadId criteria c
    pure (items, { s with checklists := s.checklists.set leadId items })

/-- `/^[A-Za-z0-9+/]+={0,2}$/` -/
def isBase64 (text : String) : Bool :=
  let digit := fun c => isAlnum c || c == '+' || c == '/'
  text.toList.takeWhile digit != [] &&
    [[], ['='], ['=', '=']].contains (text.toList.dropWhile digit)

def filled (text : Option String) : Bool := text.any fun t => t != ""

variable (s : DocumentService)

/-- `upload`, before it waits for the storage. -/
def upload (leadId : String) (input : UploadInput) (principal : Principal) (correlationId : String)
    (c : Circumstances) : Outcome PendingUpload := do
  let _ ← scopedLead c leadId principal
  assertContributor principal
  let documentType ← demand (input.documentType.bind DocumentType.read)
    (.badRequest "document_upload_invalid")
  require (filled input.originalName ∧ filled input.declaredMime ∧
      input.contentBase64.any isBase64) (.badRequest "document_upload_invalid")
  let item ← demand (((s.checklists.get leadId).getD []).find? fun candidate =>
      input.checklistItemId = some candidate.id ∧ candidate.documentType = documentType)
    (.notFound "document_checklist_item_not_found")
  let replaced := s.documents.get (input.replacesDocumentId.getD "")
  require (filled input.replacesDocumentId →
      ∃ document ∈ replaced, document.leadId = leadId ∧ document.documentType = documentType)
    (.notFound "document_not_found")
  pure ⟨leadId, item, replaced, principal, correlationId⟩

def updateChecklist (itemId leadId : String) (next : DocumentState) (now : Instant) :
    Outcome DocumentService := do
  let items := (s.checklists.get leadId).getD []
  let current ← demand (items.find? fun item => item.id = itemId)
    (.conflict "document_transition_invalid")
  require (next ∈ transitionRules current.state) (.conflict "document_transition_invalid")
  pure { s with checklists := s.checklists.set leadId (items.map fun item =>
    if item.id = itemId then
      { item with state := next, version := item.version + 1, updatedAt := now }
    else item) }

def appendEvent (id documentId eventType : String) (principal : Principal) (correlationId : String)
    (reasonCode : Option String) (now : Instant) : DocumentService :=
  { s with events := s.events ++ [⟨id, documentId, eventType, principal.userId,
      reasonCode.filter fun reason => reason ≠ "", correlationId, now⟩] }

variable (p : PendingUpload)

def received (stored : StoredFile) (c : Circumstances) :
    DocumentMetadata where
  id := c.randomUUID
  leadId := p.leadId
  checklistItemId := p.item.id
  documentType := p.item.documentType
  stored := stored
  uploadedBy := p.principal.userId
  receivedAt := c.now
  verificationStatus := .À_VÉRIFIER
  version := (s.documents.values.filter fun document =>
    document.leadId = p.leadId ∧ document.documentType = p.item.documentType).length + 1
  replacedDocumentId := p.replaced.map DocumentMetadata.id

def left (replaced : DocumentMetadata) : DocumentMetadata :=
  { replaced with verificationStatus := .REMPLACÉ }

/-- The document that an upload replaces leaves its place. -/
def replace (c : Circumstances) : Outcome DocumentService :=
  match p.replaced with
  | none => pure s
  | some replaced => do
    let s ← s.updateChecklist p.item.id p.leadId .REMPLACÉ c.now
    let s := { s with documents := s.documents.set replaced.id (left replaced) }
    pure (s.appendEvent c.replacementEventId replaced.id "DOCUMENT_REPLACED" p.principal
      p.correlationId none c.now)

def moveItem (c : Circumstances) : Outcome DocumentService := do
  let s ← s.updateChecklist p.item.id p.leadId .REÇU c.now
  s.updateChecklist p.item.id p.leadId .À_VÉRIFIER c.now

def notify (isWord : Char → Bool) (s : DocumentService) (recipientId type priority : String)
    (document : DocumentMetadata) (key : String) (c : Circumstances) :
    Outcome DocumentService := do
  let input : NotificationRecord :=
    { recipientId, type, priority, resourceType := "DOCUMENT", resourceId := document.id,
      href := "/leads/" ++ document.leadId ++ "/documents/" ++ document.id }
  let (_, notifications) ← s.notifications.create isWord input key c.notificationId c.now
  pure { s with notifications }

/-- `upload`, once the storage has answered: each step leaves what the steps before have done. -/
def finish (isWord : Char → Bool) (s : DocumentService) (p : PendingUpload) (stored : StoredFile)
    (c : Circumstances) : Outcome DocumentMetadata × DocumentService :=
  let record := s.received p stored c
  let s := { s with documents := s.documents.set record.id record }
  match s.replace p c with
  | .error e => (.error e, s)
  | .ok s =>
    match s.moveItem p c with
    | .error e => (.error e, s)
    | .ok s =>
      let s := s.appendEvent c.eventId record.id
        (if p.replaced.isSome then "DOCUMENT_REPLACEMENT_RECEIVED" else "DOCUMENT_RECEIVED")
        p.principal p.correlationId none c.now
      match s.notify isWord p.principal.userId "DOCUMENT_RECEIVED" "NORMAL" record
          ("document-received:" ++ record.id ++ ":" ++ p.principal.userId) c with
      | .error e => (.error e, s)
      | .ok s => (.ok record, s)

def refusalReasons : List String :=
  ["ILLISIBLE", "INCOMPLET", "NON_CONFORME", "EXPIRÉ", "TYPE_INCORRECT"]

inductive Decision
  | VALIDÉ | REFUSÉ
deriving DecidableEq

/-- The decision that the input of a verification asks for. -/
def Decision.read : String → Option Decision
  | "VALIDER" => some VALIDÉ
  | "REFUSER" => some REFUSÉ
  | _ => none

def Decision.state : Decision → DocumentState
  | VALIDÉ => .VALIDÉ
  | REFUSÉ => .REFUSÉ

def Decision.text : Decision → String
  | VALIDÉ => "VALIDÉ"
  | REFUSÉ => "REFUSÉ"

/-- What `verify` asks before it decides: the document and the decision. -/
def precheckVerify (documentId : String) (input : VerifyInput) (principal : Principal)
    (c : Circumstances) : Outcome (DocumentMetadata × Decision) := do
  require (principal.hasSome Principal.managers) (.forbidden "document_verification_forbidden")
  let current ← demand (s.documents.get documentId) (.notFound "document_not_found")
  let _ ← scopedLead c current.leadId principal
  require (current.verificationStatus = .À_VÉRIFIER) (.conflict "document_transition_invalid")
  let decision ← demand (input.decision.bind Decision.read)
    (.badRequest "document_decision_invalid")
  require ((decision = .REFUSÉ → input.reasonCode.getD "" ∈ refusalReasons) ∧
      (decision = .VALIDÉ → ¬filled input.reasonCode)) (.badRequest "document_decision_invalid")
  pure (current, decision)

def verified (current : DocumentMetadata) (decision : Decision) (input : VerifyInput)
    (principal : Principal) (now : Instant) : DocumentMetadata :=
  { current with
    verificationStatus := decision.state
    verifiedBy := some principal.userId
    verifiedAt := some now
    refusalReasonCode :=
      if decision = .REFUSÉ then input.reasonCode else current.refusalReasonCode }

/-- `verify`, past its checks: each step leaves what the steps before have done. -/
def decide (isWord : Char → Bool) (s : DocumentService) (documentId : String)
    (current : DocumentMetadata) (decision : Decision) (input : VerifyInput)
    (principal : Principal) (correlationId : String) (c : Circumstances) :
    Outcome DocumentMetadata × DocumentService :=
  let updated := verified current decision input principal c.now
  let s := { s with documents := s.documents.set documentId updated }
  match s.updateChecklist current.checklistItemId current.leadId decision.state c.now with
  | .error e => (.error e, s)
  | .ok s =>
    let s := s.appendEvent c.eventId documentId ("DOCUMENT_" ++ decision.text) principal
      correlationId input.reasonCode c.now
    match s.notify isWord current.uploadedBy
        (if decision = .VALIDÉ then "DOCUMENT_VALIDATED" else "DOCUMENT_REFUSED")
        (if decision = .REFUSÉ then "HIGH" else "NORMAL") updated
        ("document-" ++ decision.text ++ ":" ++ documentId ++ ":" ++ current.uploadedBy) c with
    | .error e => (.error e, s)
    | .ok s => (.ok updated, s)

end DocumentService

inductive Action
  /-- `generateChecklist` -/
  | generateChecklist (leadId : String) (criteria : ChecklistCriteria) (principal : Principal)
  /-- `upload` is called; it then waits for the storage. -/
  | upload (leadId : String) (input : UploadInput) (principal : Principal)
    (correlationId : String)
  /-- The storage has answered one of the uploads that wait for it. -/
  | stored (i : ℕ) (answer : Outcome StoredFile)
  /-- `verify` -/
  | verify (documentId : String) (input : VerifyInput) (principal : Principal)
    (correlationId : String)

inductive Reply
  | checklist (items : List ChecklistItem)
  | document (document : DocumentMetadata)
  | waiting

variable (collate : String → String → Bool)

def step (isWord : Char → Bool) (s : DocumentService) (c : Circumstances) :
    Action → Outcome Reply × DocumentService
  | .generateChecklist leadId criteria principal =>
    match s.generateChecklist collate leadId criteria principal c with
    | .error e => (.error e, s)
    | .ok (items, s) => (.ok (.checklist items), s)
  | .upload leadId input principal correlationId =>
    match s.upload leadId input principal correlationId c with
    | .error e => (.error e, s)
    | .ok p => (.ok .waiting, { s with uploads := s.uploads ++ [p] })
  | .stored i answer =>
    match s.uploads[i]?, answer with
    | none, _ => (.ok .waiting, s)
    | some _, .error e => (.error e, { s with uploads := s.uploads.eraseIdx i })
    | some p, .ok file =>
      let (answer, s) := { s with uploads := s.uploads.eraseIdx i }.finish isWord p file c
      (answer.map .document, s)
  | .verify documentId input principal correlationId =>
    match s.precheckVerify documentId input principal c with
    | .error e => (.error e, s)
    | .ok (current, decision) =>
      let (answer, s) := s.decide isWord documentId current decision input principal
        correlationId c
      (answer.map .document, s)

def service (isWord : Char → Bool) :
    Machine DocumentService (Action × Circumstances) (Outcome Reply) where
  step s a := step collate isWord s a.2 a.1

/-! ### Items and documents -/

variable (s : DocumentService)

/-- The items of a checklist, by identifier and type. -/
def index (leadId : String) : Option (List (String × DocumentType)) :=
  (s.checklists.get leadId).map fun items => items.map fun item => (item.id, item.documentType)

def stateOf (leadId itemId : String) : Option DocumentState :=
  (((s.checklists.get leadId).getD []).find? fun item => item.id = itemId).map ChecklistItem.state

/-- The documents of an item, in the order in which they were received. -/
def docsOf (leadId itemId : String) : List DocumentMetadata :=
  s.documents.values.filter fun d => d.leadId = leadId ∧ d.checklistItemId = itemId

def Waits (d : DocumentMetadata) : Prop := d.verificationStatus = .À_VÉRIFIER
deriving Decidable

/-- **An item agrees with its documents**: it has the state of the latest one, and none before it
waits for its verification. -/
def Agree (state : DocumentState) (docs : List DocumentMetadata) : Prop :=
  (∀ d, docs.getLast? = some d → state = d.verificationStatus) ∧ ∀ d ∈ docs.dropLast, ¬Waits d

variable {docs : List DocumentMetadata}

variable {state : DocumentState}

theorem Agree.waits_iff (h : Agree state docs) {d : DocumentMetadata}
    (hd : d ∈ docs) (hwaits : Waits d) : docs.getLast? = some d ∧ state = .À_VÉRIFIER := by
  obtain ⟨last, hlast⟩ : ∃ last, docs.getLast? = some last :=
    isSome_iff_exists.mp (by
      rw [getLast?_isSome]
      exact ne_nil_of_mem hd)
  have heq := dropLast_append_getLast? last hlast
  rw [← heq] at hd
  rcases mem_append.mp hd with hd | hd
  · exact absurd hwaits (h.2 d hd)
  · obtain rfl := mem_singleton.mp hd
    exact ⟨hlast, (h.1 d hlast).trans hwaits⟩

variable {record : DocumentMetadata}

/-- A document is received, and others may have left their places: the item waits for the new
one. -/
theorem Agree.receive (h : Agree state docs) (hstate : state ≠ .À_VÉRIFIER)
    {f : DocumentMetadata → DocumentMetadata} (hf : ∀ d, Waits (f d) → Waits d)
    (hrecord : Waits record) : Agree .À_VÉRIFIER (docs.map f ++ [record]) := by
  refine ⟨fun d hd => ?_, fun d hd hwaits => ?_⟩
  · rw [getLast?_append] at hd
    cases hd
    exact hrecord.symm
  · rw [dropLast_concat] at hd
    obtain ⟨old, hold, rfl⟩ := mem_map.mp hd
    exact hstate (h.waits_iff hold (hf old hwaits)).2

theorem Agree.decide {state next : DocumentState} (h : Agree state docs) {d : DocumentMetadata}
    (hd : d ∈ docs) (hwaits : Waits d) {f : DocumentMetadata → DocumentMetadata}
    (hf : ∀ d, Waits (f d) → Waits d) (hdecided : (f d).verificationStatus = next) :
    Agree next (docs.map f) := by
  refine ⟨fun last hlast => ?_, fun old hold hwaits' => ?_⟩
  · rw [getLast?_map, (h.waits_iff hd hwaits).1] at hlast
    cases hlast
    exact hdecided.symm
  · rw [← map_dropLast] at hold
    obtain ⟨before, hbefore, rfl⟩ := mem_map.mp hold
    exact h.2 before hbefore (hf before hwaits')

theorem Agree.waiting_le_one (h : Agree state docs) :
    (docs.filter fun d => Waits d).length ≤ 1 := by
  rcases eq_nil_or_concat docs with rfl | ⟨init, last, rfl⟩
  · exact Nat.zero_le 1
  · have hinit : (init.filter fun d => Waits d) = [] := by
      refine filter_eq_nil_iff.mpr fun d hd => ?_
      have hnot := h.2 d (by rwa [concat_eq_append, dropLast_concat])
      simpa using hnot
    rw [concat_eq_append, filter_append, hinit, nil_append]
    exact length_filter_le _ _

variable {documents : Dict String DocumentMetadata}

section

variable {s s' : DocumentService}

/-- **What moving an item does**: the item takes its state, and nothing else changes. -/
theorem updateChecklist_ok {itemId leadId : String} {next : DocumentState} {now : Instant}
    (h : s.updateChecklist itemId leadId next now = .ok s') :
    (∃ state, stateOf s leadId itemId = some state ∧ next ∈ transitionRules state) ∧
      (∃ checklists, s' = { s with checklists }) ∧ (∀ l, index s' l = index s l) ∧
      ∀ l i, stateOf s' l i = if l = leadId ∧ i = itemId then some next else stateOf s l i := by
  simp only [DocumentService.updateChecklist, ok_iff] at h
  obtain ⟨current, hcur, _, hnext, rfl⟩ := h
  have hstate : stateOf s leadId itemId = some current.state := by rw [stateOf, hcur]; rfl
  obtain ⟨items, hitems⟩ : ∃ items, s.checklists.get leadId = some items := by
    cases hget : s.checklists.get leadId with
    | none => rw [hget] at hcur; cases hcur
    | some items => exact ⟨items, rfl⟩
  refine ⟨⟨current.state, hstate, hnext⟩, ⟨_, rfl⟩, fun l => ?_, fun l i => ?_⟩
  · simp only [index, get_set]
    split
    · rename_i hl
      rw [hl, hitems, Option.map_some, Option.map_some, Option.getD_some, List.map_map]
      congr 1
      refine map_congr_left fun item _ => ?_
      simp only [comp_apply]
      split <;> rfl
    · rfl
  · simp only [stateOf, get_set]
    by_cases hl : l = leadId
    · rw [if_pos hl, Option.getD_some, List.find?_map, Option.map_map]
      have hsame : ((fun item : ChecklistItem => decide (item.id = i)) ∘ fun item =>
          if item.id = itemId then
            { item with state := next, version := item.version + 1, updatedAt := now }
          else item) = fun item => decide (item.id = i) := by
        funext item
        simp only [comp_apply]
        split <;> rfl
      rw [hsame, hl]
      by_cases hi : i = itemId
      · rw [if_pos ⟨rfl, hi⟩, hi, hcur, map_some]
        have hid : current.id = itemId := by simpa using find?_some hcur
        simp only [comp_apply, if_pos hid]
      · rw [if_neg fun h => hi h.2]
        cases hfind : ((s.checklists.get leadId).getD []).find? fun item => item.id = i with
        | none => rfl
        | some item =>
          have hid : item.id = i := by simpa using find?_some hfind
          simp only [map_some, comp_apply]
          rw [if_neg (by rwa [hid])]
    · rw [if_neg hl, if_neg fun h => hl h.1]

theorem updateChecklist_of {itemId leadId : String} {state next : DocumentState}
    (hstate : stateOf s leadId itemId = some state) (hnext : next ∈ transitionRules state)
    (now : Instant) : ∃ s', s.updateChecklist itemId leadId next now = .ok s' := by
  obtain ⟨item, hitem, rfl⟩ := map_eq_some_iff.mp hstate
  simp only [DocumentService.updateChecklist, hitem, demand_some, ok_bind, require_pos hnext]
  exact ⟨_, rfl⟩

theorem stateOf_of_index {leadId itemId : String} {documentType : DocumentType}
    {l : List (String × DocumentType)} (hl : index s leadId = some l)
    (hmem : (itemId, documentType) ∈ l) : ∃ state, stateOf s leadId itemId = some state := by
  obtain ⟨items, hitems, rfl⟩ := map_eq_some_iff.mp hl
  obtain ⟨item, hitem, heq⟩ := mem_map.mp hmem
  have hfind : ∃ found, (items.find? fun item => item.id = itemId) = some found :=
    isSome_iff_exists.mp (find?_isSome.mpr
      ⟨item, hitem, by simpa using congrArg Prod.fst heq⟩)
  obtain ⟨found, hfound⟩ := hfind
  exact ⟨found.state, by rw [stateOf, hitems, getD_some, hfound]; rfl⟩

theorem docsOf_new (hdocuments : documents = s.documents.set record.id record)
    (hfresh : s.documents.get record.id = none) (leadId itemId : String) :
    (documents.values.filter fun d => d.leadId = leadId ∧ d.checklistItemId = itemId) =
      docsOf s leadId itemId ++
        if record.leadId = leadId ∧ record.checklistItemId = itemId then [record] else [] := by
  rw [hdocuments, values_set_of_none _ hfresh, filter_append, docsOf]
  congr 1
  by_cases h : record.leadId = leadId ∧ record.checklistItemId = itemId
  · rw [if_pos h, filter_cons_of_pos (by simpa using h), filter_nil]
  · rw [if_neg h, filter_cons_of_neg (by simpa using h), filter_nil]

theorem docsOf_set {id : String} {old new : DocumentMetadata}
    (hids : ∀ key d, documents.get key = some d → d.id = key) (hold : documents.get id = some old)
    (hlead : new.leadId = old.leadId) (hitem : new.checklistItemId = old.checklistItemId)
    (leadId itemId : String) :
    ((documents.set id new).values.filter fun d => d.leadId = leadId ∧ d.checklistItemId = itemId) =
      (documents.values.filter fun d => d.leadId = leadId ∧ d.checklistItemId = itemId).map
        fun d => if d.id = id then new else d := by
  have hvalues : (documents.set id new).values =
      documents.values.map fun d => if d.id = id then new else d := by
    rw [values_set_of_some new hold, values, List.map_map]
    refine List.map_congr_left fun e he => ?_
    have hid : e.2.id = e.1 := hids e.1 e.2 (get_eq_some.mpr he)
    simp only [comp_apply, hid]
  rw [hvalues, List.filter_map]
  congr 1
  refine List.filter_congr fun d hd => ?_
  simp only [comp_apply]
  split
  · rename_i hd'
    obtain ⟨key, hkey⟩ := mem_values.mp hd
    have hkeyid := hids key d hkey
    rw [← hkeyid, hd', hold] at hkey
    cases hkey
    rw [hlead, hitem]
  · rfl

end

/-! ### What every reachable memory keeps -/

variable (s : DocumentService)

def Filed (leadId itemId : String) (documentType : DocumentType) : Prop :=
  ∃ l, index s leadId = some l ∧ (itemId, documentType) ∈ l

/-- The two are one document, at two moments. -/
structure SameFile (d d' : DocumentMetadata) : Prop where
  id : d.id = d'.id
  leadId : d.leadId = d'.leadId
  checklistItemId : d.checklistItemId = d'.checklistItemId
  documentType : d.documentType = d'.documentType
  uploadedBy : d.uploadedBy = d'.uploadedBy

/-- What an upload that waits has looked up is still there. -/
def Prepared (p : PendingUpload) : Prop :=
  isUuidText p.principal.userId = true ∧ Filed s p.leadId p.item.id p.item.documentType ∧
    ∀ r ∈ p.replaced, r.leadId = p.leadId ∧ r.checklistItemId = p.item.id ∧
      ∃ d, s.documents.get r.id = some d ∧ SameFile d r

/-- **What every reachable memory keeps.** -/
structure Sound (s : DocumentService) : Prop where
  named : ∀ leadId l, index s leadId = some l →
    isUuidText leadId = true ∧ (l.map Prod.fst).Nodup ∧ (l.map Prod.snd).Nodup
  filed : ∀ id d, s.documents.get id = some d → d.id = id ∧ isUuidText id = true ∧
    isUuidText d.uploadedBy = true ∧ Filed s d.leadId d.checklistItemId d.documentType
  prepared : ∀ p ∈ s.uploads, Prepared s p
  agree : ∀ leadId itemId state, stateOf s leadId itemId = some state →
    Agree state (docsOf s leadId itemId)
  settled : Settled s.notifications

/-- What the world promises: identifiers that are drawn are new, and leads and users have
identifiers. -/
structure Promised (s : DocumentService) (a : Action × Circumstances) : Prop where
  fresh : s.documents.get a.2.randomUUID = none
  drawn : isUuidText a.2.randomUUID = true
  leads : ∀ leadId lead, a.2.lead leadId = .ok lead → isUuidText leadId = true
  items : Injective a.2.itemId
  author : ∀ leadId input principal correlationId,
    a.1 = .upload leadId input principal correlationId → isUuidText principal.userId = true

/-- The table lets the item of an upload move. -/
def Allowed (p : PendingUpload) : Prop :=
  ∃ state, stateOf s p.leadId p.item.id = some state ∧
    (if p.replaced.isSome then .REMPLACÉ else .REÇU) ∈ transitionRules state
deriving Decidable

section

variable {s s' : DocumentService}

variable {p : PendingUpload}

theorem Prepared.mono (h : Prepared s p)
    (hindex : ∀ leadId l, index s leadId = some l → index s' leadId = some l)
    (hkeeps : ∀ id d, s.documents.get id = some d →
      ∃ d', s'.documents.get id = some d' ∧ SameFile d' d) : Prepared s' p := by
  obtain ⟨huser, ⟨l, hl, hmem⟩, hreplaced⟩ := h
  refine ⟨huser, ⟨l, hindex _ l hl, hmem⟩, fun r hr => ?_⟩
  obtain ⟨hlead, hitem, d, hd, hsame⟩ := hreplaced r hr
  obtain ⟨d', hd', hsame'⟩ := hkeeps _ d hd
  exact ⟨hlead, hitem, d', hd', hsame'.1.trans hsame.1, hsame'.2.trans hsame.2,
    hsame'.3.trans hsame.3, hsame'.4.trans hsame.4, hsame'.5.trans hsame.5⟩

/-- **A memory that grows keeps what it kept**, as far as its new entries do. -/
theorem Sound.extend (hs : Sound s) (hnamed : ∀ leadId l, index s' leadId = some l →
      isUuidText leadId = true ∧ (l.map Prod.fst).Nodup ∧ (l.map Prod.snd).Nodup)
    (hindex : ∀ leadId l, index s leadId = some l → index s' leadId = some l)
    (hkeeps : ∀ id d, s.documents.get id = some d →
      ∃ d', s'.documents.get id = some d' ∧ SameFile d' d)
    (hfiled : ∀ id d', s'.documents.get id = some d' →
      (∃ d, s.documents.get id = some d ∧ SameFile d' d) ∨ d'.id = id ∧ isUuidText id = true ∧
        isUuidText d'.uploadedBy = true ∧ Filed s' d'.leadId d'.checklistItemId d'.documentType)
    (hprepared : ∀ p ∈ s'.uploads, p ∈ s.uploads ∨ Prepared s' p)
    (hagree : ∀ leadId itemId state, stateOf s' leadId itemId = some state →
      Agree state (docsOf s' leadId itemId)) (hsettled : Settled s'.notifications) : Sound s' where
  named := hnamed
  filed := by
    intro id d' hd'
    rcases hfiled id d' hd' with ⟨d, hd, hsame⟩ | hnew
    · obtain ⟨hid, huuid, huser, l, hl, hmem⟩ := hs.filed id d hd
      refine ⟨hsame.id.trans hid, huuid, by rwa [hsame.uploadedBy], l, ?_, ?_⟩
      · rw [hsame.leadId]
        exact hindex _ l hl
      · rwa [hsame.checklistItemId, hsame.documentType]
    · exact hnew
  prepared := fun p hp => (hprepared p hp).elim
    (fun hmem => (hs.prepared p hmem).mono hindex hkeeps) id
  agree := hagree
  settled := hsettled

theorem Sound.ids (hs : Sound s) : ∀ key d, s.documents.get key = some d → d.id = key :=
  fun key d hd => (hs.filed key d hd).1

theorem Sound.filed_unique (hs : Sound s) {leadId itemId itemId' : String}
    {documentType : DocumentType} (h : Filed s leadId itemId documentType)
    (h' : Filed s leadId itemId' documentType) : itemId = itemId' := by
  obtain ⟨l, hl, hmem⟩ := h
  obtain ⟨l', hl', hmem'⟩ := h'
  obtain rfl := mem_unique hl hl'
  exact congrArg Prod.fst (inj_on_of_nodup_map (hs.named _ l hl).2.2 hmem hmem' rfl)

theorem plain_of_uuid_char {c : Char} (h : (isAlnum c || c == '-') = true) :
    (c == '?' || c == '#' || isSpace c) = false := by
  have hsmall : c.toNat < 123 := by
    simp only [isAlnum, isLower, isUpper, isDigit, Bool.or_eq_true, Bool.and_eq_true,
      decide_eq_true_eq, beq_iff_eq] at h
    have hz : ∀ d : Char, c ≤ d → d.toNat < 123 → c.toNat < 123 := fun d hle hd =>
      Nat.lt_of_le_of_lt (UInt32.le_iff_toNat_le.mp hle) hd
    rcases h with ((⟨-, h⟩ | ⟨-, h⟩) | ⟨-, h⟩) | rfl
    · exact hz 'z' h (by decide)
    · exact hz 'Z' h (by decide)
    · exact hz '9' h (by decide)
    · decide
  have hall : ∀ n : Fin 123, (isAlnum (Char.ofNat n) || Char.ofNat n == '-') = true →
      (Char.ofNat n == '?' || Char.ofNat n == '#' || isSpace (Char.ofNat n)) = false := by
    decide +kernel
  have hc := hall ⟨c.toNat, hsmall⟩
  simp only [Char.ofNat_toNat] at hc
  exact hc h

theorem not_waits_of_allowed {state : DocumentState}
    (h : (if p.replaced.isSome then DocumentState.REMPLACÉ else .REÇU) ∈ transitionRules state) :
    state ≠ .À_VÉRIFIER := by
  rintro rfl
  split at h
  · exact absurd h (by decide)
  · exact absurd h (by decide)

/-- **The documents that an upload replaces leave their place**, when the table allows it. -/
theorem replace_of (hallow : Allowed s p) (c : Circumstances) :
    ∃ s', s.replace p c = .ok s' ∧
      s'.documents = (match p.replaced with
        | none => s.documents
        | some r => s.documents.set r.id (DocumentService.left r)) ∧
      (s'.notifications = s.notifications ∧ s'.uploads = s.uploads) ∧
      (∀ l, index s' l = index s l) ∧
      (∃ state, stateOf s' p.leadId p.item.id = some state ∧ .REÇU ∈ transitionRules state) ∧
      ∀ l i, ¬(l = p.leadId ∧ i = p.item.id) → stateOf s' l i = stateOf s l i := by
  obtain ⟨state, hstate, hnext⟩ := hallow
  cases hreplaced : p.replaced with
  | none =>
    rw [hreplaced] at hnext
    refine ⟨s, ?_, rfl, ⟨rfl, rfl⟩, fun _ => rfl, ⟨state, hstate, hnext⟩, fun _ _ _ => rfl⟩
    rw [DocumentService.replace, hreplaced]
    rfl
  | some r =>
    have hleave : .REMPLACÉ ∈ transitionRules state := by
      rw [hreplaced] at hnext
      exact hnext
    obtain ⟨s₁, hs₁⟩ := updateChecklist_of hstate hleave c.now
    obtain ⟨-, ⟨checklists, heq⟩, hindex, hstates⟩ := updateChecklist_ok hs₁
    let s₂ := { s₁ with documents := s₁.documents.set r.id (DocumentService.left r) }
    refine ⟨s₂.appendEvent c.replacementEventId r.id "DOCUMENT_REPLACED" p.principal
      p.correlationId none c.now, ?_, ?_, ⟨?_, ?_⟩, hindex, ⟨.REMPLACÉ, ?_, by decide⟩,
      fun l i hne => ?_⟩
    · rw [DocumentService.replace, hreplaced]
      simp only [hs₁, ok_bind]
      rfl
    · simp only [DocumentService.appendEvent, s₂, heq]
    · simp only [DocumentService.appendEvent, s₂, heq]
    · simp only [DocumentService.appendEvent, s₂, heq]
    · exact (hstates _ _).trans (if_pos ⟨rfl, rfl⟩)
    · exact (hstates _ _).trans (if_neg hne)

/-- A document cannot leave its place when the table does not allow it, or the item cannot move:
the upload throws. -/
theorem refused_of_not_allowed (hnot : ¬Allowed s p) (c : Circumstances) :
    (∃ e, s.replace p c = .error e) ∨ s.replace p c = .ok s ∧ ∃ e, s.moveItem p c = .error e := by
  have hthrows : ∀ next, (¬∃ state, stateOf s p.leadId p.item.id = some state ∧
      next ∈ transitionRules state) →
        ∃ e, s.updateChecklist p.item.id p.leadId next c.now = .error e := by
    intro next hno
    cases h : s.updateChecklist p.item.id p.leadId next c.now with
    | error e => exact ⟨e, rfl⟩
    | ok s' => exact absurd (updateChecklist_ok h).1 hno
  cases hreplaced : p.replaced with
  | none =>
    rw [Allowed, hreplaced] at hnot
    obtain ⟨e, he⟩ := hthrows .REÇU hnot
    refine .inr ⟨by rw [DocumentService.replace, hreplaced]; rfl, e, ?_⟩
    rw [DocumentService.moveItem, he]
    rfl
  | some r =>
    rw [Allowed, hreplaced] at hnot
    obtain ⟨e, he⟩ := hthrows .REMPLACÉ hnot
    refine .inl ⟨e, ?_⟩
    rw [DocumentService.replace, hreplaced]
    simp only [he]
    rfl

/-- **The item moves to its verification**, when the table lets it be received. -/
theorem moveItem_of {state : DocumentState} (hstate : stateOf s p.leadId p.item.id = some state)
    (hnext : .REÇU ∈ transitionRules state) (c : Circumstances) :
    ∃ s', s.moveItem p c = .ok s' ∧ (∃ checklists, s' = { s with checklists }) ∧
      (∀ l, index s' l = index s l) ∧
      ∀ l i, stateOf s' l i =
        if l = p.leadId ∧ i = p.item.id then some .À_VÉRIFIER else stateOf s l i := by
  obtain ⟨s₁, hs₁⟩ := updateChecklist_of hstate hnext c.now
  obtain ⟨-, ⟨checklists₁, heq₁⟩, hindex₁, hstates₁⟩ := updateChecklist_ok hs₁
  have hreceived : stateOf s₁ p.leadId p.item.id = some .REÇU :=
    (hstates₁ _ _).trans (if_pos ⟨rfl, rfl⟩)
  obtain ⟨s₂, hs₂⟩ := updateChecklist_of hreceived
    (by decide : DocumentState.À_VÉRIFIER ∈ transitionRules .REÇU) c.now
  obtain ⟨-, ⟨checklists₂, heq₂⟩, hindex₂, hstates₂⟩ := updateChecklist_ok hs₂
  refine ⟨s₂, ?_, ⟨checklists₂, by rw [heq₂, heq₁]⟩, fun l => (hindex₂ l).trans (hindex₁ l),
    fun l i => ?_⟩
  · simp only [DocumentService.moveItem, hs₁, ok_bind, hs₂]
  · rw [hstates₂]
    split
    · rfl
    · rename_i hne
      rw [hstates₁, if_neg hne]

/-- **A notification about a document is accepted.** -/
theorem notify_of {isWord : Char → Bool} (hword : ∀ c, isAlnum c → isWord c)
    (hsettled : Settled s.notifications) {recipientId type priority head : String}
    {document : DocumentMetadata} (htype : type ∈ notificationTypes)
    (hrecipient : isUuidText recipientId = true) (hlead : isUuidText document.leadId = true)
    (hdocument : isUuidText document.id = true)
    (hhead : ∀ c ∈ head.toList, isAlnum c || c == '-' || c == ':' || isWord c)
    (hlen : head.toList.length ≤ 80) (c : Circumstances) :
    ∃ notifications, s.notify isWord recipientId type priority document
        (head ++ document.id ++ ":" ++ recipientId) c = .ok { s with notifications } ∧
      Settled notifications := by
  obtain ⟨hrchars, hrlength⟩ := chars_of_uuid hrecipient
  obtain ⟨hdchars, hdlength⟩ := chars_of_uuid hdocument
  have hne : ∀ {text : String}, text.toList.length = 36 → text ≠ "" := by
    rintro _ htext rfl
    cases htext
  have hkey : (head ++ document.id ++ ":" ++ recipientId).toList =
      head.toList ++ (document.id.toList ++ (':' :: recipientId.toList)) := by
    simp [String.toList_append]
  have hvalid : Valid isWord
      { recipientId, type, priority, resourceType := "DOCUMENT", resourceId := document.id,
        href := "/leads/" ++ document.leadId ++ "/documents/" ++ document.id }
      (head ++ document.id ++ ":" ++ recipientId) := by
    refine ⟨htype, hne hrlength, hne hdlength, ?_, ?_⟩
    · refine isDeduplicationKey_of_chars hword (fun c hc => ?_) ?_ ?_
      · rw [hkey] at hc
        simp only [mem_append, mem_cons] at hc
        rcases hc with hc | hc | rfl | hc
        · exact hhead c hc
        · rw [hdchars c hc, Bool.true_or, Bool.true_or]
        · rfl
        · rw [hrchars c hc, Bool.true_or, Bool.true_or]
      · rw [hkey]
        simp only [length_append, length_cons]
        omega
      · rw [hkey]
        simp only [length_append, length_cons]
        omega
    · have hrest : ∀ c ∈ "documents/".toList ++ document.id.toList,
          (c == '?' || c == '#' || isSpace c) = false := by
        intro c hc
        rcases mem_append.mp hc with hc | hc
        · have hall : ∀ c ∈ "documents/".toList,
              (c == '?' || c == '#' || isSpace c) = false := by decide
          exact hall c hc
        · exact plain_of_uuid_char (hdchars c hc)
      have hpath := isPath_of_uuid hlead (.inr ⟨_, rfl, hrest⟩)
      refine @isHref_of_path "/leads/" _ _ (by decide) ?_ hpath
      simp [String.toList_append]
  obtain ⟨n, notifications, hcreate, hsettled'⟩ :=
    hsettled.create hvalid c.notificationId c.now
  refine ⟨notifications, ?_, hsettled'⟩
  simp only [DocumentService.notify, hcreate, ok_bind]
  rfl

/-- A document of another item has another identifier. -/
theorem Sound.id_ne_of_mem {d old : DocumentMetadata} (hs : Sound s) {id l i : String}
    (hold : s.documents.get id = some old) (hne : ¬(l = old.leadId ∧ i = old.checklistItemId))
    (hd : d ∈ docsOf s l i) : d.id ≠ id := by
  intro hid
  obtain ⟨hvalue, hmatch⟩ := mem_filter.mp hd
  obtain ⟨key, hkey⟩ := mem_values.mp hvalue
  rw [← hs.ids key d hkey, hid, hold] at hkey
  cases hkey
  have hpair : d.leadId = l ∧ d.checklistItemId = i := by simpa using hmatch
  exact hne ⟨hpair.1.symm, hpair.2.symm⟩

/-- What a document that is kept anew does to the documents of the items: nothing, but to those of
its own item. -/
theorem docsOf_replaced (hs : Sound s) {id : String} {old new : DocumentMetadata}
    (hold : s.documents.get id = some old) (hsame : SameFile new old) {s' : DocumentService}
    (hdocuments : s'.documents = s.documents.set id new) :
    docsOf s' old.leadId old.checklistItemId =
        (docsOf s old.leadId old.checklistItemId).map (fun d => if d.id = id then new else d) ∧
      ∀ l i, ¬(l = old.leadId ∧ i = old.checklistItemId) → docsOf s' l i = docsOf s l i := by
  have hall := docsOf_set hs.ids hold hsame.leadId hsame.checklistItemId
  refine ⟨?_, fun l i hne => ?_⟩
  · rw [docsOf, hdocuments]
    exact hall _ _
  · rw [docsOf, hdocuments, hall l i]
    refine (map_congr_left fun d hd => ?_).trans (map_id _)
    rw [if_neg (hs.id_ne_of_mem hold hne hd), id_eq]

/-- **What a received document does to the documents of the items**: its item has one more, and
some may have left their places. -/
theorem docsOf_receive (hs : Sound s) (hp : Prepared s p)
    (hfresh : s.documents.get record.id = none) (hlead : record.leadId = p.leadId)
    (hitem : record.checklistItemId = p.item.id)
    (hdocuments : s'.documents = (match p.replaced with
      | none => s.documents.set record.id record
      | some r => (s.documents.set record.id record).set r.id (DocumentService.left r))) :
    (∃ f, (∀ d, Waits (f d) → Waits d) ∧
        docsOf s' p.leadId p.item.id = (docsOf s p.leadId p.item.id).map f ++ [record]) ∧
      ∀ l i, ¬(l = p.leadId ∧ i = p.item.id) → docsOf s' l i = docsOf s l i := by
  have hnew := docsOf_new (s := s) rfl hfresh
  have hself := hnew p.leadId p.item.id
  rw [if_pos ⟨hlead, hitem⟩] at hself
  have hothers : ∀ l i, ¬(l = p.leadId ∧ i = p.item.id) →
      ((s.documents.set record.id record).values.filter fun d =>
        d.leadId = l ∧ d.checklistItemId = i) = docsOf s l i := by
    intro l i hne
    rw [hnew l i, if_neg, append_nil]
    rintro ⟨hl, hi⟩
    exact hne ⟨hl.symm.trans hlead, hi.symm.trans hitem⟩
  cases hreplaced : p.replaced with
  | none =>
    rw [hreplaced] at hdocuments
    refine ⟨⟨id, fun _ h => h, ?_⟩, fun l i hne => ?_⟩
    · rw [docsOf, hdocuments, hself, List.map_id]
    · rw [docsOf, hdocuments, hothers l i hne]
  | some r =>
    rw [hreplaced] at hdocuments
    obtain ⟨hrlead, hritem, old, hold, hsame⟩ := hp.2.2 r (by rw [hreplaced]; rfl)
    have hne : r.id ≠ record.id := by
      intro heq
      rw [heq, hfresh] at hold
      cases hold
    have hold' : (s.documents.set record.id record).get r.id = some old := by
      rw [get_set_of_ne _ _ hne, hold]
    have hids : ∀ key d, (s.documents.set record.id record).get key = some d → d.id = key := by
      intro key d hd
      rw [get_set] at hd
      split at hd
      · rename_i hkey
        rw [← some.inj hd, hkey]
      · exact hs.ids key d hd
    have hset := @docsOf_set _ r.id old (DocumentService.left r) hids hold' hsame.leadId.symm
      hsame.checklistItemId.symm
    refine ⟨⟨fun d => if d.id = r.id then DocumentService.left r else d, fun d hd => ?_, ?_⟩,
      fun l i hother => ?_⟩
    · by_cases hid : d.id = r.id
      · simp only [if_pos hid] at hd
        exact absurd hd (by change DocumentState.REMPLACÉ ≠ _; decide)
      · simpa only [if_neg hid] using hd
    · rw [docsOf, hdocuments, hset, hself, map_append, map_singleton,
        if_neg (fun heq => hne heq.symm)]
    · rw [docsOf, hdocuments, hset, hothers l i hother]
      refine (map_congr_left fun d hd => ?_).trans (map_id _)
      rw [if_neg (hs.id_ne_of_mem hold ?_ hd), id_eq]
      rwa [hsame.leadId, hsame.checklistItemId, hrlead, hritem]

/-- **What a received document does to the documents**: those there were are still there. -/
theorem documents_receive (hp : Prepared s p) (hfresh : s.documents.get record.id = none)
    (hdocuments : documents = (match p.replaced with
      | none => s.documents.set record.id record
      | some r => (s.documents.set record.id record).set r.id (DocumentService.left r))) :
    (∀ id d, s.documents.get id = some d → ∃ d', documents.get id = some d' ∧ SameFile d' d) ∧
      ∀ id d', documents.get id = some d' →
        (∃ d, s.documents.get id = some d ∧ SameFile d' d) ∨ id = record.id ∧ d' = record := by
  have hne : ∀ id d, s.documents.get id = some d → id ≠ record.id := by
    rintro _ d hd rfl
    rw [hfresh] at hd
    cases hd
  cases hreplaced : p.replaced with
  | none =>
    rw [hreplaced] at hdocuments
    subst hdocuments
    refine ⟨fun id d hd => ⟨d, ?_, rfl, rfl, rfl, rfl, rfl⟩, fun id d' hd' => ?_⟩
    · rw [get_set_of_ne _ _ (hne id d hd), hd]
    · rw [get_set] at hd'
      split at hd'
      · rename_i hid
        exact .inr ⟨hid, (some.inj hd').symm⟩
      · exact .inl ⟨d', hd', rfl, rfl, rfl, rfl, rfl⟩
  | some r =>
    rw [hreplaced] at hdocuments
    subst hdocuments
    obtain ⟨-, -, old, hold, hsame⟩ := hp.2.2 r (by rw [hreplaced]; rfl)
    have hleft : SameFile (DocumentService.left r) old :=
      ⟨hsame.1.symm, hsame.2.symm, hsame.3.symm, hsame.4.symm, hsame.5.symm⟩
    refine ⟨fun id d hd => ?_, fun id d' hd' => ?_⟩
    · rw [get_set]
      split
      · rename_i hid
        rw [hid, hold] at hd
        cases hd
        exact ⟨_, rfl, hleft⟩
      · rw [get_set_of_ne _ _ (hne id d hd)]
        exact ⟨d, hd, rfl, rfl, rfl, rfl, rfl⟩
    · rw [get_set] at hd'
      split at hd'
      · rename_i hid
        cases hd'
        exact .inl ⟨old, by rw [hid, hold], hleft⟩
      · rw [get_set] at hd'
        split at hd'
        · rename_i hid
          exact .inr ⟨hid, (some.inj hd').symm⟩
        · exact .inl ⟨d', hd', rfl, rfl, rfl, rfl, rfl⟩

variable {c : Circumstances}

/-- **An upload whose item the table lets move goes through**, and the documents agree with their
items as before. -/
theorem finish_of {isWord : Char → Bool} (hword : ∀ c, isAlnum c → isWord c) (hs : Sound s)
    (hp : Prepared s p) (hallow : Allowed s p) (file : StoredFile)
    (hfresh : s.documents.get c.randomUUID = none) (huuid : isUuidText c.randomUUID = true) :
    ∃ s', s.finish isWord p file c = (.ok (s.received p file c), s') ∧ Sound s' := by
  let record := s.received p file c
  let s₁ := { s with documents := s.documents.set record.id record }
  obtain ⟨s₂, hreplace, hdocuments₂, ⟨hnotifications₂, huploads₂⟩, hindex₂,
    ⟨state₂, hstate₂, hnext₂⟩, hothers₂⟩ := replace_of (s := s₁) hallow c
  obtain ⟨s₃, hmove, ⟨checklists₃, heq₃⟩, hindex₃, hstates₃⟩ := moveItem_of hstate₂ hnext₂ c
  let s₄ := s₃.appendEvent c.eventId record.id
    (if p.replaced.isSome then "DOCUMENT_REPLACEMENT_RECEIVED" else "DOCUMENT_RECEIVED")
    p.principal p.correlationId none c.now
  have hnotes : s₄.notifications = s.notifications := by
    simp only [s₄, DocumentService.appendEvent, heq₃, hnotifications₂, s₁]
  have hfiled := hp.2.1
  obtain ⟨l, hl, hmem⟩ := hfiled
  obtain ⟨notifications, hnotify, hsettled⟩ := @notify_of s₄ isWord hword
    (by rw [hnotes]; exact hs.settled) p.principal.userId "DOCUMENT_RECEIVED" "NORMAL"
    "document-received:" record (by decide) hp.1 (hs.named _ l hl).1 huuid
    (by
      have hchars : ∀ c ∈ "document-received:".toList, isAlnum c || c == '-' || c == ':' := by
        decide
      intro c hc
      rw [hchars c hc, Bool.true_or]) (by decide) c
  refine ⟨{ s₄ with notifications }, ?_, ?_⟩
  · simp only [DocumentService.finish]
    rw [show s.received p file c = record from rfl, hreplace]
    simp only [hmove]
    rw [show s₃.appendEvent c.eventId record.id _ p.principal p.correlationId none c.now = s₄ from
      rfl, hnotify]
  · have hdocuments : s₄.documents = (match p.replaced with
        | none => s.documents.set record.id record
        | some r => (s.documents.set record.id record).set r.id (DocumentService.left r)) := by
      simp only [s₄, DocumentService.appendEvent, heq₃, hdocuments₂, s₁]
    have hindex : ∀ l, index { s₄ with notifications } l = index s l := fun l =>
      (hindex₃ l).trans (hindex₂ l)
    obtain ⟨hkeeps, hfrom⟩ := documents_receive hp hfresh hdocuments
    obtain ⟨⟨f, hf, hself⟩, hothers⟩ := @docsOf_receive record s { s₄ with notifications } p hs hp
      hfresh rfl rfl hdocuments
    refine hs.extend (fun leadId l hl => hs.named leadId l (by rwa [hindex] at hl))
      (fun leadId l hl => by rwa [hindex]) hkeeps (fun id d' hd' => ?_) (fun q hq => ?_)
      (fun leadId itemId state hstate => ?_) hsettled
    · rcases hfrom id d' hd' with hold | ⟨rfl, rfl⟩
      · exact .inl hold
      · exact .inr ⟨rfl, huuid, hp.1, l, by rw [hindex]; exact hl, hmem⟩
    · have huploads : s₄.uploads = s.uploads := by
        simp only [s₄, DocumentService.appendEvent, heq₃, huploads₂, s₁]
      exact .inl (huploads ▸ hq)
    · have hstates : stateOf { s₄ with notifications } leadId itemId =
          if leadId = p.leadId ∧ itemId = p.item.id then some .À_VÉRIFIER
          else stateOf s₂ leadId itemId := hstates₃ leadId itemId
      rw [hstates] at hstate
      split at hstate
      · rename_i hpair
        obtain ⟨rfl, rfl⟩ := hpair
        cases hstate
        obtain ⟨state, hold, hnext⟩ := hallow
        rw [hself]
        exact (hs.agree _ _ state hold).receive (not_waits_of_allowed hnext) hf rfl
      · rename_i hne
        rw [hothers leadId itemId hne]
        rw [hothers₂ leadId itemId hne] at hstate
        exact hs.agree leadId itemId state hstate

/-- **A document that waits is decided**, and the documents agree with their items as before. -/
theorem decide_of {isWord : Char → Bool} (hword : ∀ c, isAlnum c → isWord c)
    (haccent : isWord 'É' = true) (hs : Sound s) {documentId : String} {current : DocumentMetadata}
    (hcur : s.documents.get documentId = some current) (hwaits : Waits current)
    (decision : DocumentService.Decision) (input : VerifyInput) (principal : Principal)
    (correlationId : String) (c : Circumstances) :
    ∃ s', s.decide isWord documentId current decision input principal correlationId c =
        (.ok (DocumentService.verified current decision input principal c.now), s') ∧ Sound s' := by
  let updated := DocumentService.verified current decision input principal c.now
  obtain ⟨hid, huuid, huser, l, hl, hmem⟩ := hs.filed _ _ hcur
  obtain rfl : documentId = current.id := hid.symm
  have hsame : SameFile updated current := ⟨rfl, rfl, rfl, rfl, rfl⟩
  obtain ⟨state, hstate⟩ := stateOf_of_index hl hmem
  have hdocs : current ∈ docsOf s current.leadId current.checklistItemId :=
    mem_filter.mpr ⟨mem_values.mpr ⟨_, hcur⟩, by simp⟩
  have hagree := hs.agree _ _ state hstate
  obtain ⟨-, rfl⟩ := hagree.waits_iff hdocs hwaits
  let s₁ := { s with documents := s.documents.set current.id updated }
  have hnext : decision.state ∈ transitionRules .À_VÉRIFIER := by cases decision <;> decide
  obtain ⟨s₂, hmove⟩ := updateChecklist_of (s := s₁) hstate hnext c.now
  obtain ⟨-, ⟨checklists₂, heq₂⟩, hindex₂, hstates₂⟩ := updateChecklist_ok hmove
  let s₃ := s₂.appendEvent c.eventId current.id ("DOCUMENT_" ++ decision.text) principal
    correlationId input.reasonCode c.now
  have hnotes : s₃.notifications = s.notifications := by
    simp only [s₃, DocumentService.appendEvent, heq₂, s₁]
  have hhead : ∀ c ∈ ("document-" ++ decision.text ++ ":").toList,
      isAlnum c || c == '-' || c == ':' || isWord c := by
    have hchars : ∀ c ∈ ("document-" ++ decision.text ++ ":").toList,
        (isAlnum c || c == '-' || c == ':') = true ∨ c = 'É' := by
      cases decision <;> decide
    intro c hc
    rcases hchars c hc with h | rfl
    · rw [h, Bool.true_or]
    · rw [haccent, Bool.or_true]
  obtain ⟨notifications, hnotify, hsettled⟩ := @notify_of s₃ isWord hword
    (by rw [hnotes]; exact hs.settled) current.uploadedBy
    (if decision = .VALIDÉ then "DOCUMENT_VALIDATED" else "DOCUMENT_REFUSED")
    (if decision = .REFUSÉ then "HIGH" else "NORMAL") ("document-" ++ decision.text ++ ":") updated
    (by cases decision <;> decide) huser (hs.named _ l hl).1 huuid hhead
    (by cases decision <;> decide) c
  refine ⟨{ s₃ with notifications }, ?_, ?_⟩
  · simp only [DocumentService.decide]
    rw [show DocumentService.verified current decision input principal c.now = updated from rfl,
      hmove]
    simp only
    rw [show s₂.appendEvent c.eventId current.id ("DOCUMENT_" ++ decision.text) principal
      correlationId input.reasonCode c.now = s₃ from rfl]
    have hkey : updated.id = current.id := rfl
    rw [hkey] at hnotify
    rw [hnotify]
  · have hdocuments : s₃.documents = s.documents.set current.id updated := by
      simp only [s₃, DocumentService.appendEvent, heq₂, s₁]
    have huploads : s₃.uploads = s.uploads := by
      simp only [s₃, DocumentService.appendEvent, heq₂, s₁]
    have hindex : ∀ l, index { s₃ with notifications } l = index s l := hindex₂
    obtain ⟨hself, hothers⟩ := @docsOf_replaced s hs _ _ _ hcur hsame
      { s₃ with notifications } hdocuments
    refine hs.extend (fun leadId l hl => hs.named leadId l (by rwa [hindex] at hl))
      (fun leadId l hl => by rwa [hindex]) (fun id d hd => ?_) (fun id d' hd' => ?_)
      (fun p hp => .inl (huploads ▸ hp)) (fun leadId itemId state hstate' => ?_) hsettled
    · change ∃ d', s₃.documents.get id = some d' ∧ SameFile d' d
      rw [hdocuments, get_set]
      split
      · rename_i hkey
        rw [hkey, hcur] at hd
        cases hd
        exact ⟨updated, rfl, hsame⟩
      · exact ⟨d, hd, rfl, rfl, rfl, rfl, rfl⟩
    · change s₃.documents.get id = some d' at hd'
      rw [hdocuments, get_set] at hd'
      split at hd'
      · rename_i hkey
        cases hd'
        exact .inl ⟨current, by rw [hkey, hcur], hsame⟩
      · exact .inl ⟨d', hd', rfl, rfl, rfl, rfl, rfl⟩
    · have hstates : stateOf { s₃ with notifications } leadId itemId =
          if leadId = current.leadId ∧ itemId = current.checklistItemId then some decision.state
          else stateOf s leadId itemId := hstates₂ leadId itemId
      rw [hstates] at hstate'
      split at hstate'
      · rename_i hpair
        obtain ⟨rfl, rfl⟩ := hpair
        cases hstate'
        rw [hself]
        have hdecided : ¬Waits updated := by
          cases decision <;> exact of_decide_eq_true rfl
        refine hagree.decide hdocs hwaits (fun d hd => ?_) ?_
        · by_cases hkey : d.id = current.id
          · simp only [if_pos hkey] at hd
            exact absurd hd hdecided
          · simpa only [if_neg hkey] using hd
        · rw [if_pos rfl]
          rfl
      · rename_i hne
        rw [hothers leadId itemId hne]
        exact hs.agree leadId itemId state hstate'

theorem nodup_required (criteria : ChecklistCriteria) :
    (DocumentService.required criteria).Nodup := by
  unfold DocumentService.required
  split <;> split <;> split <;> decide

/-- **A new checklist has no document yet.** -/
theorem generateChecklist_sound {collate : String → String → Bool} (hs : Sound s) {leadId : String}
    {criteria : ChecklistCriteria} {principal : Principal}
    (hitems : Injective c.itemId)
    (hleads : ∀ lead, c.lead leadId = .ok lead → isUuidText leadId = true)
    {items : List ChecklistItem}
    (h : s.generateChecklist collate leadId criteria principal c = .ok (items, s')) : Sound s' := by
  simp only [DocumentService.generateChecklist, DocumentService.scopedLead, ok_iff] at h
  obtain ⟨_, ⟨lead, hlead, -⟩, -, -, -, -, h⟩ := h
  cases hget : s.checklists.get leadId with
  | some existing =>
    rw [hget] at h
    cases h
    exact hs
  | none =>
    rw [hget] at h
    obtain ⟨rfl, rfl⟩ := Prod.mk.inj (Except.ok.inj h)
    have hnone : index s leadId = none := by rw [index, hget, Option.map_none]
    let checklists := s.checklists.set leadId (DocumentService.newItems collate leadId criteria c)
    have hother : ∀ l, l ≠ leadId → index { s with checklists } l = index s l := by
      intro l hne
      simp only [index, checklists, get_set_of_ne _ _ hne]
    have hsorted := (nodup_required criteria).perm
      (List.perm_insertionSort (fun a b : DocumentType => collate a.text b.text) _).symm
    refine hs.extend (fun l types hl => ?_) (fun l types hl => ?_)
      (fun id d hd => ⟨d, hd, rfl, rfl, rfl, rfl, rfl⟩)
      (fun id d hd => .inl ⟨d, hd, rfl, rfl, rfl, rfl, rfl⟩) (fun p hp => .inl hp)
      (fun l itemId state hstate => ?_) hs.settled
    · by_cases hne : l = leadId
      · subst hne
        simp only [index, get_set_self, Option.map_some, Option.some.injEq] at hl
        subst hl
        refine ⟨hleads lead hlead, ?_, ?_⟩
        · simpa only [DocumentService.newItems, List.map_map, comp_def] using
            hsorted.map hitems
        · simpa only [DocumentService.newItems, List.map_map, comp_def, List.map_id'] using
            hsorted
      · exact hs.named l types (by rwa [hother l hne] at hl)
    · rw [hother, hl]
      rintro rfl
      rw [hnone] at hl
      cases hl
    · by_cases hne : l = leadId
      · subst hne
        have hempty : docsOf s l itemId = [] := by
          refine List.filter_eq_nil_iff.mpr fun d hd hmatch => ?_
          have hpair : d.leadId = l ∧ d.checklistItemId = itemId := by simpa using hmatch
          obtain ⟨id, hid⟩ := mem_values.mp hd
          obtain ⟨-, -, -, types, htypes, -⟩ := hs.filed id d hid
          rw [hpair.1, hnone] at htypes
          cases htypes
        change Agree state (docsOf s l itemId)
        rw [hempty]
        exact ⟨fun d hd => (by cases hd), fun d hd => (by cases hd)⟩
      · refine hs.agree l itemId state ?_
        simpa only [stateOf, get_set_of_ne _ _ hne] using hstate

/-- **What an upload looks up**: an item of the checklist, and a document of this item if it
replaces one. -/
theorem upload_prepared (hs : Sound s) {leadId : String} {input : UploadInput}
    {principal : Principal} (huser : isUuidText principal.userId = true) {correlationId : String}
    (h : s.upload leadId input principal correlationId c = .ok p) :
    Prepared s p := by
  simp only [DocumentService.upload, ok_iff] at h
  obtain ⟨_, -, -, -, documentType, -, -, -, item, hitem, _, hreplaced, rfl⟩ := h
  have hfound := find?_some hitem
  have hmem := mem_of_find?_eq_some hitem
  have htype : item.documentType = documentType := by
    have hboth : input.checklistItemId = some item.id ∧ item.documentType = documentType := by
      simpa using hfound
    exact hboth.2
  have hfiled : Filed s leadId item.id item.documentType := by
    cases hget : s.checklists.get leadId with
    | none =>
      rw [hget] at hmem
      cases hmem
    | some items =>
      rw [hget] at hmem
      exact ⟨_, by rw [index, hget]; rfl, mem_map.mpr ⟨item, hmem, rfl⟩⟩
  refine ⟨huser, hfiled, fun r hr => ?_⟩
  have hr' : s.documents.get (input.replacesDocumentId.getD "") = some r := hr
  obtain ⟨hid, huuid, -, hrfiled⟩ := hs.filed _ r hr'
  have hfilled : DocumentService.filled input.replacesDocumentId = true := by
    cases hasked : input.replacesDocumentId with
    | none =>
      rw [hasked] at huuid
      cases huuid
    | some id =>
      have hne : id ≠ "" := by
        rintro rfl
        rw [hasked] at huuid
        cases huuid
      simpa [DocumentService.filled] using hne
  obtain ⟨_, hsome, hlead, hrtype⟩ := hreplaced hfilled
  obtain rfl := mem_unique hr' hsome
  refine ⟨hlead, hs.filed_unique ?_ hfiled, r, by rw [hid]; exact hr', rfl, rfl, rfl, rfl, rfl⟩
  rwa [hlead, hrtype, ← htype] at hrfiled

theorem Sound.erase (hs : Sound s) (i : ℕ) : Sound { s with uploads := s.uploads.eraseIdx i } :=
  hs.extend hs.named (fun _ _ hl => hl) (fun _ d hd => ⟨d, hd, rfl, rfl, rfl, rfl, rfl⟩)
    (fun _ d hd => .inl ⟨d, hd, rfl, rfl, rfl, rfl, rfl⟩)
    (fun _ hp => .inl (mem_of_mem_eraseIdx hp)) hs.agree hs.settled

end

/-! ### The agreement -/

/-- **The documents and the checklists agree**: each item that has a document has the state of its
latest one, and at most one of its documents waits for its verification. -/
def Agrees : Prop :=
  ∀ leadId items, s.checklists.get leadId = some items → ∀ item ∈ items,
    (∀ d, (docsOf s leadId item.id).getLast? = some d → item.state = d.verificationStatus) ∧
      ((docsOf s leadId item.id).filter fun d => Waits d).length ≤ 1

theorem Sound.agrees {s : DocumentService} (hs : Sound s) : Agrees s := by
  intro leadId items hitems item hmem
  have hindex : index s leadId = some (items.map fun item => (item.id, item.documentType)) := by
    rw [index, hitems, map_some]
  have hids : (items.map ChecklistItem.id).Nodup := by
    have h := (hs.named leadId _ hindex).2.1
    rwa [List.map_map] at h
  obtain ⟨found, hfound⟩ : ∃ found, items.find? (fun i => i.id = item.id) = some found :=
    isSome_iff_exists.mp (find?_isSome.mpr ⟨item, hmem, by simp⟩)
  have hid : found.id = item.id := by simpa using find?_some hfound
  obtain rfl := inj_on_of_nodup_map hids (mem_of_find?_eq_some hfound) hmem hid
  have hstate : stateOf s leadId found.id = some found.state := by
    rw [stateOf, hitems, getD_some, hfound, map_some]
  have hagree := hs.agree _ _ _ hstate
  exact ⟨hagree.1, hagree.waiting_le_one⟩

section

variable (collate : String → String → Bool) (isWord : Char → Bool)

/-- **A call that is refused leaves the documents, the checklists and the events as they were.** -/
def RefusesCleanly (s : DocumentService) (a : Action × Circumstances) : Prop :=
  ∀ e, (step collate isWord s a.2 a.1).1 = .error e →
    let s' := (step collate isWord s a.2 a.1).2
    s'.documents = s.documents ∧ s'.checklists = s.checklists ∧ s'.events = s.events

/-- When the storage accepts the file of an upload, the table lets its item move. -/
def Movable (s : DocumentService) (a : Action × Circumstances) : Prop :=
  ∀ i file p, a.1 = .stored i (.ok file) → s.uploads[i]? = some p → Allowed s p

variable {collate isWord}

/-- **One call whose item may move** keeps the memory sound, and is refused cleanly. -/
theorem step_movable (hword : ∀ c, isAlnum c → isWord c) (haccent : isWord 'É' = true)
    {s : DocumentService} {a : Action × Circumstances} (hs : Sound s) (hp : Promised s a)
    (hmovable : Movable s a) :
    Sound (step collate isWord s a.2 a.1).2 ∧ RefusesCleanly collate isWord s a := by
  obtain ⟨action, c⟩ := a
  cases action with
  | generateChecklist leadId criteria principal =>
    cases hcall : s.generateChecklist collate leadId criteria principal c with
    | error e =>
      simp only [RefusesCleanly, step, hcall]
      exact ⟨hs, fun _ _ => ⟨trivial, trivial, trivial⟩⟩
    | ok answer =>
      obtain ⟨items, s'⟩ := answer
      simp only [RefusesCleanly, step, hcall]
      exact ⟨generateChecklist_sound hs hp.items (hp.leads leadId) hcall,
        fun _ h => by cases h⟩
  | upload leadId input principal correlationId =>
    cases hcall : s.upload leadId input principal correlationId c with
    | error e =>
      simp only [RefusesCleanly, step, hcall]
      exact ⟨hs, fun _ _ => ⟨trivial, trivial, trivial⟩⟩
    | ok p =>
      simp only [RefusesCleanly, step, hcall]
      refine ⟨?_, fun _ h => by cases h⟩
      have hprepared := upload_prepared hs (hp.author _ _ _ _ rfl) hcall
      refine hs.extend hs.named (fun _ _ hl => hl) (fun _ d hd => ⟨d, hd, rfl, rfl, rfl, rfl, rfl⟩)
        (fun _ d hd => .inl ⟨d, hd, rfl, rfl, rfl, rfl, rfl⟩) (fun q hq => ?_) hs.agree hs.settled
      rcases mem_append.mp hq with hq | hq
      · exact .inl hq
      · obtain rfl := mem_singleton.mp hq
        exact .inr hprepared
  | stored i answer =>
    cases hwaits : s.uploads[i]? with
    | none =>
      simp only [RefusesCleanly, step, hwaits]
      exact ⟨hs, fun _ h => by cases h⟩
    | some p =>
      cases answer with
      | error e =>
        simp only [RefusesCleanly, step, hwaits]
        exact ⟨hs.erase i, fun _ _ => ⟨trivial, trivial, trivial⟩⟩
      | ok file =>
        obtain ⟨s', hfinish, hsound⟩ := finish_of hword (hs.erase i)
          (hs.prepared p (mem_of_getElem? hwaits)) (hmovable i file p rfl hwaits) file
          hp.fresh hp.drawn
        simp only [RefusesCleanly, step, hwaits, hfinish]
        exact ⟨hsound, fun _ h => by cases h⟩
  | verify documentId input principal correlationId =>
    cases hcall : s.precheckVerify documentId input principal c with
    | error e =>
      simp only [RefusesCleanly, step, hcall]
      exact ⟨hs, fun _ _ => ⟨trivial, trivial, trivial⟩⟩
    | ok answer =>
      obtain ⟨current, decision⟩ := answer
      have hchecks := hcall
      simp only [DocumentService.precheckVerify, ok_iff] at hchecks
      obtain ⟨-, -, found, hfound, -, -, -, hstatus, asked, -, _, -, rfl, rfl⟩ := hchecks
      obtain ⟨s', hdecide, hsound⟩ := decide_of hword haccent hs hfound hstatus asked input
        principal correlationId c
      simp only [RefusesCleanly, step, hcall, hdecide]
      exact ⟨hsound, fun _ h => by cases h⟩

/-- **An upload whose item may not move leaves its document behind.** -/
theorem movable_of_refusesCleanly {s : DocumentService} {a : Action × Circumstances}
    (hp : Promised s a) (hclean : RefusesCleanly collate isWord s a) : Movable s a := by
  obtain ⟨action, c⟩ := a
  rintro i file p rfl hwaits
  by_contra hnot
  let s₀ := { s with uploads := s.uploads.eraseIdx i }
  let record := s₀.received p file c
  let s₁ := { s₀ with documents := s₀.documents.set record.id record }
  have hfresh : s.documents.get record.id = none := hp.fresh
  -- whatever refuses comes after the document has been kept
  have hleft : ∀ e s', s₀.finish isWord p file c = (.error e, s') →
      s'.documents.get record.id = none := by
    intro e s' h
    have hstep : step collate isWord s c (.stored i (.ok file)) = (.error e, s') := by
      simp only [step, hwaits]
      rw [show { s with uploads := s.uploads.eraseIdx i } = s₀ from rfl, h]
      rfl
    have hkept := hclean e (by rw [hstep])
    simp only [hstep] at hkept
    rw [hkept.1, hfresh]
  have hkept : s₁.documents.get record.id = some record := get_set_self _ _ _
  rcases refused_of_not_allowed (s := s₁) hnot c with ⟨e, he⟩ | ⟨hreplace, e, he⟩
  · have hnone := hleft e s₁ (by
      simp only [DocumentService.finish]
      rw [show s₀.received p file c = record from rfl, he])
    rw [hkept] at hnone
    cases hnone
  · have hnone := hleft e s₁ (by
      simp only [DocumentService.finish]
      rw [show s₀.received p file c = record from rfl, hreplace]
      simp only
      rw [he])
    rw [hkept] at hnone
    cases hnone

/-- **When the documents and the checklists agree**: whatever is called, in any order, the items of
the checklists have the states of their latest documents, no two documents of an item wait for a
verification, and what is refused changes nothing, exactly as long as the table lets the item of
every upload move once the storage has accepted its file. -/
theorem checklist_agrees_iff (hword : ∀ c, isAlnum c → isWord c) (haccent : isWord 'É' = true)
    {as : List (Action × Circumstances)} (hp : (service collate isWord).Meets Promised {} as) :
    ((service collate isWord).Throughout Agrees {} as ∧
        (service collate isWord).Meets (RefusesCleanly collate isWord) {} as) ↔
      (service collate isWord).Meets Movable {} as := by
  have hstart : Sound {} :=
    { named := fun _ _ h => by cases h
      filed := fun _ _ h => by cases h
      prepared := fun _ h => by cases h
      agree := fun _ _ _ h => by cases h
      settled := fun _ _ h => by cases h }
  obtain ⟨hiff, hsound⟩ := @Machine.meets_iff _ _ _ (service collate isWord) as Sound Promised
    (RefusesCleanly collate isWord) Movable
    (fun s a hs hp hm => step_movable hword haccent hs hp hm)
    (fun s a _ hp hclean => movable_of_refusesCleanly hp hclean) _ hstart hp
  refine ⟨fun h => hiff.mp h.2, fun h => ⟨fun s hmem => ?_, hiff.mpr h⟩⟩
  exact (hsound h s hmem).agrees

end

namespace Sample

def candidate : String := "30000000-0000-4000-8000-000000000001"

def manager : Principal :=
  ⟨"10000000-0000-4000-8000-000000000001", [.MANAGER], [.GLOBAL], "session"⟩

def itemId : DocumentType → String
  | .BACCALAUREAT => "40000000-0000-4000-8000-000000000001"
  | .DIPLOME => "40000000-0000-4000-8000-000000000002"
  | .RELEVE_NOTES => "40000000-0000-4000-8000-000000000003"
  | .PIECE_IDENTITE => "40000000-0000-4000-8000-000000000004"
  | .SITUATION_PROFESSIONNELLE => "40000000-0000-4000-8000-000000000005"
  | .BOURSE_ELIGIBILITE => "40000000-0000-4000-8000-000000000006"
  | .AUTRE_CONTROLE => "40000000-0000-4000-8000-000000000007"

theorem itemId_injective : Injective itemId := by
  intro a b h
  revert h
  cases a <;> cases b <;> decide

/-- What the world gives to a call. -/
def during (randomUUID tag : String) : Circumstances where
  lead id := if id = candidate then .ok ⟨"PARIS"⟩ else .error (.notFound "lead_not_found")
  now := 0
  randomUUID := randomUUID
  itemId := itemId
  eventId := tag ++ "-1"
  replacementEventId := tag ++ "-2"
  notificationId := tag ++ "-3"

def first : String := "20000000-0000-4000-8000-000000000001"

def second : String := "20000000-0000-4000-8000-000000000002"

def spare : String := "20000000-0000-4000-8000-000000000003"

def generate : Action × Circumstances :=
  (.generateChecklist candidate ⟨some "Bachelor", some "Informatique", some "Initial",
    some "Lycéen", false⟩ manager, during spare "a")

def certificate : Action × Circumstances :=
  (.upload candidate
    { checklistItemId := some (itemId .BACCALAUREAT)
      documentType := some "BACCALAUREAT"
      originalName := some "bac.pdf"
      declaredMime := some "application/pdf"
      contentBase64 := some "JVBERg==" } manager "correlation", during spare "b")

def accepted (randomUUID tag : String) : Action × Circumstances :=
  (.stored 0 (.ok ⟨"bac.pdf", "pdf", "application/pdf", "application/pdf", 4, "digest", "file"⟩),
    during randomUUID tag)

def validate : Action × Circumstances :=
  (.verify first ⟨some "VALIDER", none⟩ manager "correlation", during spare "e")

def isWord (c : Char) : Bool := isAlnum c || c == 'É'

def machine : Machine DocumentService (Action × Circumstances) (Outcome Reply) :=
  service (fun a b => a.toList ≤ b.toList) isWord

/-- The certificate is uploaded twice, and the first one has not been verified. -/
def run : List (Action × Circumstances) :=
  [generate, certificate, accepted first "c", certificate, accepted second "d"]

/-- **The second upload is refused, and leaves its document**: two of them then wait for the
verification of one item. -/
theorem upload_leaves_document :
    ¬(machine.Throughout Agrees {} run ∧
      machine.Meets (RefusesCleanly (fun a b => a.toList ≤ b.toList) isWord) {} run) := by
  rintro ⟨hagrees, -⟩
  have htwo : ∃ items ∈ (machine.run {} run).checklists.get candidate, ∃ item ∈ items,
      1 < ((docsOf (machine.run {} run) candidate item.id).filter fun d => Waits d).length := by
    decide +kernel
  obtain ⟨items, hitems, item, hitem, hlt⟩ := htwo
  exact absurd (hagrees.last candidate items hitems item hitem).2 (Nat.not_le.mpr hlt)

theorem promised {s : DocumentService} {action : Action} {randomUUID tag : String}
    (hfresh : s.documents.get randomUUID = none) (hid : isUuidText randomUUID = true)
    (hauthor : ∀ leadId input principal correlationId,
      action = .upload leadId input principal correlationId → principal = manager) :
    Promised s (action, during randomUUID tag) where
  fresh := hfresh
  drawn := hid
  leads := by
    intro leadId lead h
    by_cases hlead : leadId = candidate
    · rw [hlead]
      decide
    · simp only [during, if_neg hlead] at h
      cases h
  items := itemId_injective
  author := by
    intro leadId input principal correlationId h
    rw [hauthor _ _ _ _ h]
    decide

def regular : List (Action × Circumstances) :=
  [generate, certificate, accepted first "c", validate]

/-- **The certificate is uploaded, then verified**: its item follows it. -/
theorem checklist_agrees_regular :
    machine.Throughout Agrees {} regular ∧
      machine.Meets (RefusesCleanly (fun a b => a.toList ≤ b.toList) isWord) {} regular := by
  have hpromised : machine.Meets Promised {} regular :=
    ⟨promised (by decide +kernel) (by decide +kernel) (fun _ _ _ _ h => (by cases h)),
      promised (by decide +kernel) (by decide +kernel) (fun _ _ _ _ h => (by cases h; rfl)),
      promised (by decide +kernel) (by decide +kernel) (fun _ _ _ _ h => (by cases h)),
      promised (by decide +kernel) (by decide +kernel) (fun _ _ _ _ h => (by cases h)), trivial⟩
  have hmoves : ∀ p ∈ (machine.run {} [generate, certificate]).uploads[0]?,
      Allowed (machine.run {} [generate, certificate]) p := by decide +kernel
  have hmovable : machine.Meets Movable {} regular :=
    ⟨fun _ _ _ h => (by cases h), fun _ _ _ h => (by cases h),
      fun _ _ p h hp => (by cases h; exact hmoves p hp), fun _ _ _ h => (by cases h), trivial⟩
  exact (checklist_agrees_iff (fun c h => by rw [isWord, h, Bool.true_or]) (by decide)
    hpromised).mpr hmovable

end Sample

end CrmYnov.Documents
