import CrmYnov.BusinessMail.Journal
import CrmYnov.Js.Date
import CrmYnov.Platform.Runtime

/-!
# The preparation of a mail, and its later checks

A mail is prepared from what the server knows of a lead and of its members, and is checked three
more times before it leaves: by the list of its recipients, by its template and by its sender.
A mail that is prepared passes them all (`CrmYnov.BusinessMail.prepared_accepted`), unless the
service itself is not configured: none is reserved and then refused for what it says.
-/

namespace CrmYnov.BusinessMail

open Checked Js List Option

/-! ### What is known -/

structure MailScope where
  campusId : String
  campaignId : Option String
deriving DecidableEq

structure InternalMailMember where
  (userId email : String)
  (active hasLeadAccess : Bool)
  memberships : List MailScope

inductive Responsibility
  | FOLLOW_UP_OWNER | LEAD_PRIMARY | ADMISSIONS_RESPONSIBLE
deriving DecidableEq

structure InternalMailActionOwner where
  (userId email : String)
  (active hasRequiredPermission : Bool)
  scope : MailScope
  responsibility : Responsibility

inductive Acquisition
  | NEW | BASELINE
deriving DecidableEq

/-- The facts of a mail; a date that is not valid is none, or out of the range of dates. -/
structure BusinessMailFacts where
  type : MailType
  (resourceId leadReference : String)
  scope : MailScope
  leadState : String
  acquisition : Acquisition
  (state actionOwnerId : String)
  (deadline receivedAt lastTreatmentAt : Option Instant)
  reportPresent : Bool
  bookingState : Option String

structure BusinessMailPolicy where
  enabled : Bool
  (activatedAt generatedAt : Option Instant)
  (warningCadenceHours maximumWarnings : ℤ)

structure PreparedBusinessMail where
  type : MailType
  key : String
  templateVersion : String := "fr-v1"
  (leadReference deadline generatedAt : String)
  occurrence : ℕ
  toAddress : String
  (cc recipientUserIds : List String)
deriving DecidableEq

structure MailContent where
  (subject text html : String)

structure MailRuntime extends Runtime where
  /-- `a.localeCompare(b, "en") <= 0` -/
  collate : String → String → Bool
  /-- The origin of a configured address, when it is one of a secure site and nothing more. -/
  siteOrigin : String → Option String
  /-- The words of a mail, by its deadline, its delay in minutes and the address of the CRM. -/
  words : PreparedBusinessMail → Instant → ℤ → String → MailContent

/-! ### Preparation -/

/-- A date is within a hundred million days of the epoch. -/
def DateRange (t : Instant) : Prop := t.natAbs ≤ 8640000000000000
deriving Decidable

/-- `validDate` -/
def validDate (value : Option Instant) : Option Instant := value.filter fun t => DateRange t

/-- `/^LD-[A-Z0-9-]{1,40}$/` -/
def isLeadReference (text : String) : Bool :=
  text.toList.take 3 == ['L', 'D', '-'] &&
    fullMatch (fun c => isUpper c || isDigit c || c == '-') 1 40
      (String.ofList (text.toList.drop 3))

section Preparation

variable (rt : MailRuntime) (facts : BusinessMailFacts) (policy : BusinessMailPolicy)
  (members : List InternalMailMember) (actionOwners : List InternalMailActionOwner)

def BusinessMailFacts.Valid : Prop :=
  isIdentifier 100 facts.resourceId ∧ isLeadReference facts.leadReference ∧
    isIdentifier 100 facts.scope.campusId ∧
    (∀ id ∈ facts.scope.campaignId, isIdentifier 100 id) ∧ isIdentifier 100 facts.actionOwnerId
deriving Decidable

def mailDeadline : Except String (Option Instant) :=
  if facts.type = .FIRST_TREATMENT_OVERDUE then do
    let reason := "FIRST_TREATMENT_NOT_APPLICABLE"
    require (facts.acquisition = .NEW ∧ facts.lastTreatmentAt = none) reason
    let receivedAt ← demand (validDate facts.receivedAt) reason
    pure (some (receivedAt + 24 * 3600000))
  else pure facts.deadline

/-- What a mail of its type expects of the lead. -/
def requireExpected (delta : ℤ) : Except String Unit := do
  require (0 ≤ delta ∧ (delta = 0 → facts.type ≠ .FIRST_TREATMENT_OVERDUE ∧
    facts.type ≠ .FOLLOW_UP_OVERDUE)) "NOT_DUE"
  require (facts.type.OfFollowUp → facts.state ∈ ["SCHEDULED", "DUE"]) "FOLLOW_UP_NOT_ACTIVE"
  require (facts.type = .CONFIRMATION_EXPECTED → facts.state = "PENDING")
    "CONFIRMATION_NOT_EXPECTED"
  require (facts.type = .RETURN_EXPECTED → facts.bookingState = some "ACCEPTED" ∧
    facts.state = "CONFIRME" ∧ facts.reportPresent = false) "RETURN_NOT_EXPECTED"

/-- The number of a warning; the other mails are sent once. -/
def mailOccurrence (delta : ℤ) : Except String ℕ :=
  if facts.type = .FOLLOW_UP_OVERDUE then do
    require (1 ≤ policy.warningCadenceHours ∧ policy.warningCadenceHours ≤ 720 ∧
      1 ≤ policy.maximumWarnings ∧ policy.maximumWarnings ≤ 30) "INVALID_WARNING_POLICY"
    let occurrence := (delta / (policy.warningCadenceHours * 3600000)).toNat
    require (occurrence ≠ 0) "WARNING_NOT_DUE"
    require (occurrence ≤ policy.maximumWarnings) "WARNING_LIMIT_REACHED"
    pure occurrence
  else pure 0

def MailType.responsibility (type : MailType) : Responsibility :=
  if type.OfFollowUp then .FOLLOW_UP_OWNER
  else if type = .FIRST_TREATMENT_OVERDUE then .LEAD_PRIMARY
  else .ADMISSIONS_RESPONSIBLE

/-- The members who may read of the lead. -/
def eligibleMembers : List InternalMailMember := members.filter fun member =>
  member.active && member.hasLeadAccess && member.memberships.any fun scope => scope = facts.scope

/-- Who has to act, when it is one person who can be written to. -/
def mailOwner : Option InternalMailActionOwner :=
  match actionOwners.filter fun candidate => candidate.userId = facts.actionOwnerId with
  | [owner] => if owner.active && owner.hasRequiredPermission &&
      owner.responsibility = facts.type.responsibility && owner.scope = facts.scope &&
      isMailAddress owner.email then some owner else none
  | _ => none

variable (eligible : List InternalMailMember)

/-- The members have one identifier and one address each, and one of them at most is the owner. -/
def Unambiguous (owner : InternalMailActionOwner) : Prop :=
  (∀ member ∈ eligible, isIdentifier 100 member.userId ∧ isMailAddress member.email ∧
    (member.userId = facts.actionOwnerId ↔ lowerAddress member.email = lowerAddress owner.email)) ∧
  (eligible.map InternalMailMember.userId).Nodup ∧
  (eligible.map fun member => lowerAddress member.email).Nodup
deriving Decidable

def mailCopies : List InternalMailMember :=
  (eligible.filter fun member => member.userId ≠ facts.actionOwnerId).insertionSort
    fun a b => rt.collate a.userId b.userId = true

def keyText (type : MailType) (resourceId deadline : String) (occurrence : ℕ) : String :=
  Json.stringify (.arr [.str "business-mail-v1", .str type.text, .str resourceId,
    .str deadline, .nat occurrence])

/-- `prepareBusinessMail`; a mail that is held is an error, with its reason. -/
def prepareBusinessMail : Except String PreparedBusinessMail := do
  require (policy.enabled = true) "DISABLED"
  let generatedAt ← demand (validDate policy.generatedAt) "ACTIVATION_BASELINE_REQUIRED"
  let activatedAt ← demand (validDate policy.activatedAt) "ACTIVATION_BASELINE_REQUIRED"
  require (activatedAt ≤ generatedAt) "ACTIVATION_BASELINE_REQUIRED"
  require facts.Valid "INVALID_FACTS"
  require (facts.leadState = "OPEN") "LEAD_NOT_OPEN"
  let date ← mailDeadline facts
  let deadline ← demand (validDate date) "PERSISTED_DEADLINE_REQUIRED"
  require (activatedAt ≤ deadline) "HISTORICAL_BACKLOG_REQUIRES_SEPARATE_WAVE"
  requireExpected facts (generatedAt - deadline)
  let occurrence ← mailOccurrence facts policy (generatedAt - deadline)
  let owner ← demand (mailOwner facts actionOwners) "ACTION_OWNER_UNAVAILABLE"
  let eligible := eligibleMembers facts members
  require (Unambiguous facts eligible owner) "MEMBERSHIP_AMBIGUOUS"
  let copies := mailCopies rt facts eligible
  pure {
    type := facts.type
    key := rt.sha256 (keyText facts.type facts.resourceId (isoString deadline) occurrence)
    leadReference := facts.leadReference
    deadline := isoString deadline
    generatedAt := isoString generatedAt
    occurrence
    toAddress := owner.email
    cc := copies.map InternalMailMember.email
    recipientUserIds := facts.actionOwnerId :: copies.map InternalMailMember.userId }

end Preparation

/-! ### The later checks -/

section Checks

variable (rt : MailRuntime) (message : PreparedBusinessMail)

/-- `renderBusinessMail` -/
def renderBusinessMail (configuredOrigin : String) : Except String MailContent := do
  let origin ← demand (rt.siteOrigin configuredOrigin) "business_mail_origin_invalid"
  require (isLeadReference message.leadReference = true) "business_mail_template_invalid"
  let deadline ← demand (rt.parseDate message.deadline) "business_mail_date_invalid"
  let generated ← demand (rt.parseDate message.generatedAt) "business_mail_date_invalid"
  require (deadline ≤ generated) "business_mail_date_invalid"
  pure (rt.words message deadline ((generated - deadline) / 60000) (origin ++ "/leads"))

/-- The recipients of a mail, the first one in `To`. -/
def recipientSnapshots (scope : MailScope) : List MailRecipientSnapshot :=
  (message.recipientUserIds.zip (message.toAddress :: message.cc)).zipIdx.map
    fun ((userId, address), i) =>
      ⟨1, userId, address, if i = 0 then .TO else .CC, scope.campusId, scope.campaignId⟩

/-- `businessMailEvidence`, without the digest of all it has read. -/
def businessMailEvidence (scope : MailScope) (origin : String) :
    Except String (List MailRecipientSnapshot × MailContent) := do
  require ((message.toAddress :: message.cc).length = message.recipientUserIds.length)
    "business_mail_recipient_evidence_invalid"
  let snapshots := recipientSnapshots message scope
  let _ ← canonicalMailRecipients snapshots
  let content ← renderBusinessMail rt message origin
  pure (snapshots, content)

structure SenderSettings where
  configured : Bool
  (senderEmail publicOrigin : String)

/-- What `send` checks before it writes to the provider. -/
def sendChecks (settings : SenderSettings) : Except String MailContent := do
  require (settings.configured = true) "business_mail_transport_unconfigured"
  let recipients := message.toAddress :: message.cc
  require (isMailAddress settings.senderEmail ∧ recipients.length ≤ 100 ∧
    (∀ value ∈ recipients, isMailAddress value) ∧ (recipients.map lowerAddress).Nodup ∧
    message.recipientUserIds.length = recipients.length ∧ message.recipientUserIds.Nodup ∧
    (∀ id ∈ message.recipientUserIds, isIdentifier 100 id) ∧ isDigest message.key ∧
    message.templateVersion = "fr-v1") "business_mail_transport_input_invalid"
  renderBusinessMail rt message settings.publicOrigin

end Checks

/-! ### A mail that is prepared -/

section Prepared

variable {rt : MailRuntime} {facts : BusinessMailFacts} {policy : BusinessMailPolicy}
  {members : List InternalMailMember} {actionOwners : List InternalMailActionOwner}
  {message : PreparedBusinessMail}

structure PreparedFrom (rt : MailRuntime) (facts : BusinessMailFacts)
    (members : List InternalMailMember) (message : PreparedBusinessMail)
    (owner : InternalMailActionOwner) (deadline generatedAt : Instant) : Prop where
  valid : facts.Valid
  range : DateRange deadline ∧ DateRange generatedAt ∧ deadline ≤ generatedAt
  ownerId : owner.userId = facts.actionOwnerId
  address : isMailAddress owner.email
  unambiguous : Unambiguous facts (eligibleMembers facts members) owner
  message : message = {
    type := facts.type
    key := rt.sha256 (keyText facts.type facts.resourceId (isoString deadline)
      message.occurrence)
    leadReference := facts.leadReference
    deadline := isoString deadline
    generatedAt := isoString generatedAt
    occurrence := message.occurrence
    toAddress := owner.email
    cc := (mailCopies rt facts (eligibleMembers facts members)).map InternalMailMember.email
    recipientUserIds := facts.actionOwnerId ::
      (mailCopies rt facts (eligibleMembers facts members)).map InternalMailMember.userId }

theorem mailOwner_eq_some {owner : InternalMailActionOwner}
    (h : mailOwner facts actionOwners = some owner) :
    owner ∈ actionOwners ∧ owner.userId = facts.actionOwnerId ∧ isMailAddress owner.email := by
  rw [mailOwner] at h
  split at h
  · rename_i owner' hfilter
    split at h
    · rename_i hcond
      obtain rfl := some.inj h
      have hmem : owner' ∈ actionOwners.filter fun c => c.userId = facts.actionOwnerId := by
        rw [hfilter]
        exact mem_singleton_self _
      obtain ⟨hmem, hid⟩ := mem_filter.mp hmem
      simp only [Bool.and_eq_true] at hcond
      exact ⟨hmem, of_decide_eq_true hid, hcond.2⟩
    · cases h
  · cases h

theorem validDate_eq_some {value : Option Instant} {t : Instant} (h : validDate value = some t) :
    DateRange t := by
  simp only [validDate, filter_eq_some_iff, decide_eq_true_eq] at h
  exact h.2

theorem prepare_ok (h : prepareBusinessMail rt facts policy members actionOwners = .ok message) :
    ∃ owner ∈ actionOwners, ∃ deadline generatedAt,
      PreparedFrom rt facts members message owner deadline generatedAt := by
  simp only [prepareBusinessMail, ok_iff] at h
  obtain ⟨-, -, generatedAt, hgenerated, activatedAt, -, -, -, -, hvalid, -, -, date, -, deadline,
    hdeadline, -, -, _, hexpected, occurrence, -, owner, howner, -, hunambiguous, rfl⟩ := h
  obtain ⟨hmem, hid, haddress⟩ := mailOwner_eq_some howner
  simp only [requireExpected, ok_iff] at hexpected
  obtain ⟨-, ⟨hdelta, -⟩, -⟩ := hexpected
  exact ⟨owner, hmem, deadline, generatedAt, hvalid, ⟨validDate_eq_some hdeadline,
    validDate_eq_some hgenerated, Int.sub_nonneg.mp hdelta⟩, hid, haddress, hunambiguous, rfl⟩

/-- The runtime reads the dates of a mail as they were written. -/
def PreparedBusinessMail.DatesRead (rt : MailRuntime) (message : PreparedBusinessMail) : Prop :=
  ∀ t, DateRange t → isoString t ∈ [message.deadline, message.generatedAt] →
    rt.parseDate (isoString t) = some t

def PreparedBusinessMail.keyText (facts : BusinessMailFacts) (message : PreparedBusinessMail) :
    String :=
  BusinessMail.keyText facts.type facts.resourceId message.deadline message.occurrence

namespace PreparedFrom

variable {owner : InternalMailActionOwner} {deadline generatedAt : Instant}

/-- The members who are sent a copy are some of those who may read of the lead, in an order. -/
theorem copies_perm : (mailCopies rt facts (eligibleMembers facts members)).Perm
    ((eligibleMembers facts members).filter fun member => member.userId ≠ facts.actionOwnerId) :=
  perm_insertionSort _ _

theorem mem_copies {member : InternalMailMember}
    (h : member ∈ mailCopies rt facts (eligibleMembers facts members)) :
    member ∈ eligibleMembers facts members ∧ member.userId ≠ facts.actionOwnerId := by
  obtain ⟨hmem, hne⟩ := mem_filter.mp (copies_perm.mem_iff.mp h)
  exact ⟨hmem, of_decide_eq_true hne⟩

variable (h : PreparedFrom rt facts members message owner deadline generatedAt)

include h

/-- The recipients are distinct persons. -/
theorem nodup_ids : message.recipientUserIds.Nodup := by
  rw [h.message]
  refine nodup_cons.mpr ⟨fun hmem => ?_, ?_⟩
  · obtain ⟨member, hmember, hid⟩ := mem_map.mp hmem
    exact (mem_copies hmember).2 hid
  · refine (copies_perm.map _).nodup_iff.mpr ?_
    exact h.unambiguous.2.1.sublist (filter_sublist.map _)

/-- The recipients are distinct addresses, up to the case of letters. -/
theorem nodup_addresses : ((message.toAddress :: message.cc).map lowerAddress).Nodup := by
  rw [h.message, List.map_cons, List.map_map]
  refine List.nodup_cons.mpr ⟨fun hmem => ?_, ?_⟩
  · obtain ⟨member, hmember, haddress⟩ := List.mem_map.mp hmem
    obtain ⟨hmem, hne⟩ := mem_copies hmember
    exact hne ((h.unambiguous.1 member hmem).2.2.mpr haddress)
  · refine (copies_perm.map _).nodup_iff.mpr ?_
    exact h.unambiguous.2.2.sublist (List.filter_sublist.map _)

theorem address_ok : ∀ value ∈ message.toAddress :: message.cc, isMailAddress value := by
  rw [h.message]
  refine forall_mem_cons.mpr ⟨h.address, fun value hvalue => ?_⟩
  obtain ⟨member, hmember, rfl⟩ := mem_map.mp hvalue
  exact (h.unambiguous.1 member (mem_copies hmember).1).2.1

theorem id_ok : ∀ id ∈ message.recipientUserIds, isIdentifier 100 id := by
  rw [h.message]
  refine forall_mem_cons.mpr ⟨h.valid.2.2.2.2, fun id hid => ?_⟩
  obtain ⟨member, hmember, rfl⟩ := mem_map.mp hid
  exact (h.unambiguous.1 member (mem_copies hmember).1).1

theorem length_eq : message.recipientUserIds.length = (message.toAddress :: message.cc).length := by
  rw [h.message]
  simp

/-- At most ninety-nine members are sent a copy. -/
theorem length_le (hmembers : members.length ≤ 99) : message.recipientUserIds.length ≤ 100 := by
  have hle := (@copies_perm rt facts members).length_eq
  have hcopies := length_filter_le
    (fun member : InternalMailMember => decide (member.userId ≠ facts.actionOwnerId))
    (eligibleMembers facts members)
  have heligible : (eligibleMembers facts members).length ≤ members.length :=
    length_filter_le _ members
  rw [h.message]
  simp only [length_cons, length_map]
  omega

/-- The list of the recipients is accepted. -/
theorem canonical (hmembers : members.length ≤ 99) :
    canonicalMailRecipients (recipientSnapshots message facts.scope) =
      .ok (Json.stringify (.arr ((recipientSnapshots message facts.scope).map
        MailRecipientSnapshot.json))) := by
  have hlen := h.length_eq
  have hpairs : (recipientSnapshots message facts.scope).map
      (fun row => (row.userId, row.address)) =
        message.recipientUserIds.zip (message.toAddress :: message.cc) := by
    rw [recipientSnapshots, List.map_map]
    exact List.zipIdx_map_fst 0 _
  have hids := (congrArg (List.map Prod.fst) hpairs).trans (List.map_fst_zip hlen.le)
  have haddresses := (congrArg (List.map Prod.snd) hpairs).trans (List.map_snd_zip hlen.ge)
  rw [List.map_map] at hids haddresses
  have hrows := congrArg List.length hids
  rw [List.length_map] at hrows
  have hplace : ∀ e ∈ (recipientSnapshots message facts.scope).zipIdx, ∃ userId address,
      isIdentifier 100 userId ∧ isMailAddress address ∧ e.1 = ⟨1, userId, address,
        if e.2 = 0 then .TO else .CC, facts.scope.campusId, facts.scope.campaignId⟩ := by
    rintro ⟨row, i⟩ he
    rw [List.mk_mem_zipIdx_iff_getElem?, recipientSnapshots, List.getElem?_map,
      List.getElem?_zipIdx, Option.map_map, Option.map_eq_some_iff] at he
    obtain ⟨⟨userId, address⟩, hzip, rfl⟩ := he
    obtain ⟨hid, haddress⟩ := List.of_mem_zip (List.mem_of_getElem? hzip)
    exact ⟨userId, address, h.id_ok userId hid, h.address_ok address haddress, by simp⟩
  rw [canonicalMailRecipients, require_pos]
  · rfl
  refine ⟨?_, ?_, fun first hfirst e he => ?_, hids ▸ h.nodup_ids, ?_⟩
  · rw [hrows, hlen]
    exact Nat.succ_pos _
  · rw [hrows]
    exact h.length_le hmembers
  · obtain ⟨userId, address, hid, haddress, hrow⟩ := hplace e he
    have hhead : (first, 0) ∈ (recipientSnapshots message facts.scope).zipIdx := by
      rw [List.mk_mem_zipIdx_iff_getElem?, ← List.head?_eq_getElem?]
      exact hfirst
    obtain ⟨_, _, -, -, hfirst⟩ := hplace (first, 0) hhead
    rw [hrow]
    exact ⟨rfl, hid, haddress, rfl, h.valid.2.2.1, h.valid.2.2.2.1,
      (congrArg MailRecipientSnapshot.campusId hfirst).symm,
      (congrArg MailRecipientSnapshot.campaignId hfirst).symm⟩
  · have hlower := congrArg (List.map lowerAddress) haddresses
    rw [List.map_map] at hlower
    exact hlower ▸ h.nodup_addresses

theorem dates (hparse : message.DatesRead rt) :
    rt.parseDate message.deadline = some deadline ∧
      rt.parseDate message.generatedAt = some generatedAt := by
  have hdeadline : message.deadline = isoString deadline := by rw [h.message]
  have hgenerated : message.generatedAt = isoString generatedAt := by rw [h.message]
  rw [hdeadline, hgenerated]
  exact ⟨hparse deadline h.range.1 (by simp [hdeadline]),
    hparse generatedAt h.range.2.1 (by simp [hgenerated])⟩

/-- The template is filled. -/
theorem rendered (hparse : message.DatesRead rt) {origin : String}
    (horigin : rt.siteOrigin origin ≠ none) :
    ∃ content, renderBusinessMail rt message origin = .ok content := by
  obtain ⟨site, hsite⟩ := ne_none_iff_exists'.mp horigin
  obtain ⟨hdeadline, hgenerated⟩ := h.dates hparse
  have hreference : isLeadReference message.leadReference := by
    rw [h.message]
    exact h.valid.2.1
  simp only [renderBusinessMail, hsite, demand_some, ok_bind, require_pos hreference, hdeadline,
    hgenerated, require_pos h.range.2.2]
  exact ⟨_, rfl⟩

theorem key_eq : message.key = rt.sha256 (message.keyText facts) := by
  rw [h.message]
  rfl

end PreparedFrom

theorem keyText_inj {type type' : MailType} {resourceId resourceId' deadline deadline' : String}
    {occurrence occurrence' : ℕ} (h : keyText type resourceId deadline occurrence =
      keyText type' resourceId' deadline' occurrence') :
    (type, resourceId, deadline, occurrence) = (type', resourceId', deadline', occurrence') := by
  have hchars := String.ofList_injective h
  simp only [Json.chars, Json.charsTail, Json.nat, cons_append, cons.injEq,
    true_and] at hchars
  obtain ⟨-, hchars⟩ := Json.quote_append_inj hchars
  obtain ⟨htype, hchars⟩ := Json.quote_append_inj (tail_eq_of_cons_eq hchars)
  obtain ⟨hresource, hchars⟩ := Json.quote_append_inj (tail_eq_of_cons_eq hchars)
  obtain ⟨hdeadline, hchars⟩ := Json.quote_append_inj (tail_eq_of_cons_eq hchars)
  have htext := append_cancel_right (tail_eq_of_cons_eq hchars)
  have htypes : type = type' := by
    revert htype
    cases type <;> cases type' <;> decide
  rw [htypes, hresource, hdeadline, toString_nat_inj (String.toList_inj.mp htext)]

/-- **What the later checks ask of a mail**: one owner, to whom it is written, and copies to
members who are distinct, each under its address; it is refused by no check for what it says. -/
structure AcceptedLater (rt : MailRuntime) (facts : BusinessMailFacts)
    (members : List InternalMailMember) (actionOwners : List InternalMailActionOwner)
    (message : PreparedBusinessMail) : Prop where
  recipients : ∃ owner ∈ actionOwners, ∃ copies : List InternalMailMember,
    owner.userId = facts.actionOwnerId ∧
    (∀ member ∈ copies, member ∈ members ∧ member.userId ≠ owner.userId) ∧
    message.toAddress = owner.email ∧ message.cc = copies.map InternalMailMember.email ∧
    message.recipientUserIds = owner.userId :: copies.map InternalMailMember.userId
  distinct : ((message.toAddress :: message.cc).map lowerAddress).Nodup
  dates : ∃ deadline generatedAt, rt.parseDate message.deadline = some deadline ∧
    rt.parseDate message.generatedAt = some generatedAt ∧ deadline ≤ generatedAt
  canonical : ¬Refused (canonicalMailRecipients (recipientSnapshots message facts.scope))
  evidence : ∀ origin, rt.siteOrigin origin ≠ none →
    ¬Refused (businessMailEvidence rt message facts.scope origin)
  sent : ∀ settings : SenderSettings, settings.configured = true →
    isMailAddress settings.senderEmail → rt.siteOrigin settings.publicOrigin ≠ none →
    ¬Refused (sendChecks rt message settings)

theorem PreparedFrom.accepted {owner : InternalMailActionOwner} {deadline generatedAt : Instant}
    (h : PreparedFrom rt facts members message owner deadline generatedAt)
    (howner : owner ∈ actionOwners) (hparse : message.DatesRead rt)
    (hdigest : ∀ text, isDigest (rt.sha256 text)) (hmembers : members.length ≤ 99) :
    AcceptedLater rt facts members actionOwners message where
  recipients := by
    refine ⟨owner, howner, mailCopies rt facts (eligibleMembers facts members), h.ownerId, ?_⟩
    refine ⟨fun member hmember => ?_, ?_⟩
    · obtain ⟨hmem, hne⟩ := PreparedFrom.mem_copies hmember
      exact ⟨(mem_filter.mp hmem).1, h.ownerId ▸ hne⟩
    · rw [h.ownerId, h.message]
      exact ⟨rfl, rfl, rfl⟩
  distinct := h.nodup_addresses
  dates := ⟨deadline, generatedAt, (h.dates hparse).1, (h.dates hparse).2, h.range.2.2⟩
  canonical := by
    rw [h.canonical hmembers]
    exact not_refused_ok
  evidence origin horigin := by
    obtain ⟨content, hcontent⟩ := h.rendered hparse horigin
    simp only [businessMailEvidence, require_pos h.length_eq.symm, ok_bind, h.canonical hmembers,
      hcontent]
    exact not_refused_ok
  sent settings hconfigured haddress horigin := by
    obtain ⟨content, hcontent⟩ := h.rendered hparse horigin
    have hkey : isDigest message.key ∧ message.templateVersion = "fr-v1" := by
      rw [h.message]
      exact ⟨hdigest _, rfl⟩
    have hrecipients : (message.toAddress :: message.cc).length ≤ 100 :=
      h.length_eq ▸ h.length_le hmembers
    simp only [sendChecks, require_pos hconfigured, ok_bind, require_pos (And.intro haddress
      (And.intro hrecipients (And.intro h.address_ok (And.intro h.nodup_addresses (And.intro
        h.length_eq (And.intro h.nodup_ids (And.intro h.id_ok hkey))))))), hcontent]
    exact not_refused_ok

/-- **A mail that is prepared is accepted by every later check**, and two of them have different
keys when they are about different things, as their texts have different digests. -/
theorem prepared_accepted (hparse : message.DatesRead rt)
    (hdigest : ∀ text, isDigest (rt.sha256 text)) (hmembers : members.length ≤ 99)
    (h : prepareBusinessMail rt facts policy members actionOwners = .ok message) :
    AcceptedLater rt facts members actionOwners message ∧
    ∀ facts' policy' members' actionOwners' message',
      prepareBusinessMail rt facts' policy' members' actionOwners' = .ok message' →
      (rt.sha256 (message.keyText facts) = rt.sha256 (message'.keyText facts') →
        message.keyText facts = message'.keyText facts') →
      (facts.type, facts.resourceId, message.deadline, message.occurrence) ≠
        (facts'.type, facts'.resourceId, message'.deadline, message'.occurrence) →
      message.key ≠ message'.key := by
  obtain ⟨owner, howner, deadline, generatedAt, hfrom⟩ := prepare_ok h
  refine ⟨hfrom.accepted howner hparse hdigest hmembers, ?_⟩
  intro facts' policy' members' actionOwners' message' h' hcollision hne hkey
  obtain ⟨owner', -, deadline', generatedAt', hfrom'⟩ := prepare_ok h'
  refine hne (keyText_inj (hcollision ?_))
  rw [← hfrom.key_eq, ← hfrom'.key_eq, hkey]

end Prepared

namespace Sample

def instant : Instant := 1767225600000

def digest : String := "aaaaaaaaaaaaaaaaaaaaaaaaaaaaaaaaaaaaaaaaaaaaaaaaaaaaaaaaaaaaaaaa"

def mails : MailRuntime where
  toRuntime := { Runtime.plain with
    sha256 := fun _ => digest
    parseDate := fun text => if text = isoString instant then some instant else none }
  collate a b := a ≤ b
  siteOrigin origin := some origin
  words _ _ _ _ := ⟨"", "", ""⟩

def scope : MailScope := ⟨"campus-1", none⟩

def due : BusinessMailFacts where
  type := .FOLLOW_UP_DUE
  resourceId := "follow-up-1"
  leadReference := "LD-1"
  scope := scope
  leadState := "OPEN"
  acquisition := .NEW
  state := "DUE"
  actionOwnerId := "user-1"
  deadline := some instant
  receivedAt := none
  lastTreatmentAt := none
  reportPresent := false
  bookingState := none

def policy : BusinessMailPolicy := ⟨true, some instant, some instant, 24, 3⟩

def colleague : InternalMailMember := ⟨"user-2", "two@ynov.test", true, true, [scope]⟩

def actionOwner : InternalMailActionOwner :=
  ⟨"user-1", "One@ynov.test", true, true, scope, .FOLLOW_UP_OWNER⟩

def message : PreparedBusinessMail where
  type := .FOLLOW_UP_DUE
  key := digest
  leadReference := "LD-1"
  deadline := "2026-01-01T00:00:00.000Z"
  generatedAt := "2026-01-01T00:00:00.000Z"
  occurrence := 0
  toAddress := "One@ynov.test"
  cc := ["two@ynov.test"]
  recipientUserIds := ["user-1", "user-2"]

end Sample

open Sample

theorem prepared_accepted_due :
    AcceptedLater mails due [colleague] [actionOwner] message := by
  have hprepare : prepareBusinessMail mails due policy [colleague]
      [actionOwner] = .ok message := by decide +kernel
  have hdigest : isDigest Sample.digest := by decide
  refine (@prepared_accepted mails due policy _ _ _ (fun t _ htext => ?_) (fun _ => hdigest)
    (by decide) hprepare).1
  have hinstant : isoString t = isoString instant := by
    have hdates : [message.deadline, message.generatedAt] =
        [isoString instant, isoString instant] := by decide +kernel
    simpa [hdates] using htext
  -- the text of another year begins with a sign
  have hyear : 0 ≤ yearOf (dayNumber t) ∧ yearOf (dayNumber t) ≤ 9999 := by
    by_contra hnot
    have hhead : (isoString t).toList.head? = some '2' := by
      rw [hinstant]
      decide +kernel
    rw [isoString, String.toList_ofList, yearText, if_neg hnot] at hhead
    split at hhead <;> cases hhead
  have hyear' : 0 ≤ yearOf (dayNumber instant) ∧
      yearOf (dayNumber instant) ≤ 9999 := by decide +kernel
  rw [isoString_inj hyear hyear' hinstant]
  decide +kernel

end CrmYnov.BusinessMail
