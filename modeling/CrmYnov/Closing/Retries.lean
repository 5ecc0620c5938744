import CrmYnov.Closing.Closures

/-!
# Asking and deciding again

A decision that is repeated finds its request decided, by the same principal and alike,
and is answered with it. A request that is repeated under its key has the identifier of
the request it made; it is compared with that one, piece by piece, and answered with it
as it is now.

What a request was compared with does not change when it is settled
(`CrmYnov.Closing.AskedBy.settled`), and a settled request does not change at all, so
both answers last. Both read the present state of the requests, as they do when the
transactions of the requests run one after another.
-/

namespace CrmYnov.Closing

open Checked Leads FollowUp Closure Commercial Table Js List Option

variable {rt : Runtime} {db db' : Database} {principal : Principal} {correlationId : String}

/-! ### Decisions -/

/-- A decision was made on a request, and the request is stored so. -/
structure DecidedOn (db : Database) (id : String) (input : ClosureDecisionInput)
    (principal : Principal) (row : LeadClosureRequestRow) : Prop where
  mem : row ∈ db.leadClosureRequests.rows
  id_eq : row.id = id
  decided : AlreadyDecided row input principal
  valid : input.decision = "APPROVE" ∨ input.decision = "REJECT"

variable {view : Closure.View} {row : LeadClosureRequestRow}

variable {d : ClosureDraw}

/-- **A decision that is answered was made**, and the answer is its request. -/
theorem decide_answered {id : String} {input : ClosureDecisionInput}
    (hreceipted : Receipted (dossier db)) (hpresent : view.requests = db)
    (hleads : view.leads.leads.Grows Later db.leads)
    (h : Closure.decideForApi rt view db id input principal correlationId d = .ok (row, db')) :
    DecidedOn db' id input principal row := by
  subst hpresent
  simp only [Closure.decideForApi, ok_iff] at h
  obtain ⟨-, hvalid, current, hcur, h⟩ := h
  obtain ⟨hmem, hkey⟩ := findUnique_eq_some.mp hcur
  obtain rfl : current.id = id := LeadClosureRequestRow.mem_keys.mp hkey
  split at h
  · rename_i halready
    cases h
    exact ⟨hmem, rfl, halready, hvalid⟩
  simp only [ok_iff, Prod.exists] at h
  obtain ⟨updated, db₁, htransact, stored, hstored, rfl, rfl⟩ := h
  obtain ⟨hdecided, hcase⟩ :=
    closureMutation_made (Grows.refl view.requests.leadClosureRequests) hleads hcur htransact
  rcases hcase with ⟨hanswered, -⟩ | hmade
  · -- a receipt under this key would be of a request beyond the version that was read
    obtain ⟨receipt, hrec⟩ := isSome_iff_exists.mp hanswered
    obtain ⟨hreceiptMem, hreceiptKey⟩ := findUnique_eq_some.mp hrec
    have hkeyed : receipt.idempotencyKey = decisionKey current.id current.version := by
      simpa [LeadMutationReceipt.keys, eq_comm] using hreceiptKey
    obtain ⟨r, hr, hid, hbeyond⟩ := hreceipted receipt hreceiptMem _ _ hkeyed
    have hsame : r = current := view.requests.leadClosureRequests.eq_of_key hr hmem
      (LeadClosureRequestRow.mem_keys.mpr hid) (LeadClosureRequestRow.mem_keys.mpr rfl)
    rw [hsame] at hbeyond
    exact absurd hbeyond (Nat.lt_irrefl _)
  · have hfound : view.requests.leadClosureRequests.findUnique current.id = some current := hcur
    rw [hmade.requests, findUnique_updateMany, hfound, map_some,
      if_pos (show StillPending current.id current.version current from
        ⟨rfl, hdecided.pending, rfl⟩)] at hstored
    cases hstored
    have hstate : updated.state ≠ .PENDING := decision_settles hdecided.decision
    refine ⟨?_, rfl, ⟨hstate, hdecided.decidedBy, ?_, hdecided.reason, hdecided.state⟩, hvalid⟩
    · rw [hmade.requests]
      exact mem_settled hmem hdecided.pending
    · rw [hdecided.version]
      rfl

theorem DecidedOn.later {id : String} {input : ClosureDecisionInput}
    (h : DecidedOn db id input principal row)
    (hgrows : db.leadClosureRequests.Grows Settled db'.leadClosureRequests) :
    DecidedOn db' id input principal row := by
  obtain ⟨r, hr, rfl | hsettled⟩ := hgrows row h.mem
  · exact ⟨hr, h.id_eq, h.decided, h.valid⟩
  · exact absurd hsettled.pending h.decided.1

/-- **A decision that is repeated is answered with its request**, and changes nothing. -/
theorem DecidedOn.again {id : String} {input : ClosureDecisionInput}
    (h : DecidedOn db id input principal row) (hpresent : view.requests = db) (d : ClosureDraw) :
    Closure.decideForApi rt view db id input principal correlationId d = .ok (row, db) := by
  have hfound : view.request id = some row := by
    rw [Closure.View.request, hpresent]
    exact findUnique_of_mem h.mem (LeadClosureRequestRow.mem_keys.mpr h.id_eq)
  rw [Closure.decideForApi, require_pos h.valid, hfound, demand_some, ok_bind, ok_bind,
    if_pos h.decided]
  rfl

/-! ### Requests -/

def givenEvidence (input : ClosureInput) : List String :=
  (input.evidence.map trim).filter fun item => item ≠ ""

/-- What a request checks of its inputs alone. -/
structure Formed (input : ClosureInput) (principal : Principal) (target : LeadStatus) : Prop where
  role : principal.hasSome commercialRoles
  evidence : ∀ item ∈ input.evidence, length item ≤ 1000 ∧ ¬isQualification (trim item)
  named : (LeadStatus.ofText? input.target).filter (fun s => s.Closed) = some target
  fields : input.reason ∈ closureReasons target ∧ trim input.comment ≠ "" ∧
    length (trim input.comment) ≤ 1000 ∧ givenEvidence input ≠ [] ∧
    (givenEvidence input).length ≤ 10
  key : input.idempotencyKey.all isClosureKey

variable {input : ClosureInput} {target : LeadStatus}

theorem requestFields_ok_iff {leadId comment : String} {lead : LeadRecord} {given : List String} :
    requestFields view leadId input principal = .ok (lead, target, comment, given) ↔
      Formed input principal target ∧ getLead view.memory leadId principal = .ok lead ∧
        trim input.comment = comment ∧ givenEvidence input = given := by
  simp only [requestFields, ok_iff]
  constructor
  · rintro ⟨-, hrole, -, hevidence, lead', hlead, target', htarget, -, hfields, -, hkey, rfl, rfl, rfl,
      rfl⟩
    exact ⟨⟨hrole, hevidence, htarget, hfields, hkey⟩, hlead, rfl, rfl⟩
  · rintro ⟨hformed, hlead, rfl, rfl⟩
    exact ⟨(), hformed.role, (), hformed.evidence, lead, hlead, target, hformed.named, (),
      hformed.fields, (), hformed.key, rfl, rfl, rfl, rfl⟩

/-- A stored request has what a caller asked for: besides the evidence that was given,
an enrolment may have the qualification the server found. -/
structure AskedBy (input : ClosureInput) (target : LeadStatus) (r : LeadClosureRequestRow) : Prop where
  asked : r.target = target
  reason : r.reason = input.reason
  comment : r.comment = trim input.comment
  evidence : r.evidence = givenEvidence input ++
    if target = .ENROLLED then (r.evidence.find? isQualification).toList else []

theorem AskedBy.settled {r r' : LeadClosureRequestRow} (h : AskedBy input target r)
    (hsettled : Settled r r') : AskedBy input target r' where
  asked := hsettled.target.trans h.asked
  reason := hsettled.reason.trans h.reason
  comment := hsettled.comment.trans h.comment
  evidence := by
    rw [hsettled.evidence]
    exact h.evidence

theorem AskedBy.of_same {r item : LeadClosureRequestRow} (h : AskedBy input target item)
    (hsame : SameRequest r item) : AskedBy input target r := by
  obtain ⟨-, -, htarget, hreason, hcomment, hevidence⟩ := hsame
  refine ⟨htarget.trans h.asked, hreason.trans h.reason, hcomment.trans h.comment, ?_⟩
  rw [hevidence]
  exact h.evidence

theorem find_givenEvidence (h : Formed input principal target) :
    (givenEvidence input).find? isQualification = none := by
  rw [find?_eq_none]
  intro item hitem
  obtain ⟨hmap, -⟩ := mem_filter.mp hitem
  obtain ⟨item', hitem', rfl⟩ := mem_map.mp hmap
  exact (h.evidence item' hitem').2

theorem isQualification_mark (text : String) : isQualification (qualificationMark ++ text) := by
  simp [isQualification, startsWith]

theorem requestEvidence_ok {lead : LeadRow} {stored : Option LeadClosureRequestRow}
    {comment : String} {evidence : List String} (hformed : Formed input principal target)
    (h : requestEvidence lead stored target (givenEvidence input) input comment = .ok evidence)
    (hstored : ∀ r ∈ stored, r.evidence = evidence) :
    evidence = givenEvidence input ++
      if target = .ENROLLED then (evidence.find? isQualification).toList else [] := by
  have hnone := find_givenEvidence hformed
  have hgiven : givenEvidence input = givenEvidence input ++
      if target = .ENROLLED then ((givenEvidence input).find? isQualification).toList else [] := by
    rw [hnone]
    simp
  cases stored with
  | none =>
    simp only [requestEvidence] at h
    split at h
    · rename_i hqualifies
      simp only [ok_iff] at h
      obtain ⟨observed, -, rfl⟩ := h
      rw [if_pos hqualifies.1, bind_none, getD_none, find?_append, hnone,
        none_or, find?_cons_of_pos (isQualification_mark observed)]
      rfl
    · cases h
      exact hgiven
  | some r =>
    obtain rfl := hstored r rfl
    simp only [requestEvidence] at h
    split at h
    · rename_i hqualifies
      simp only [ok_iff] at h
      obtain ⟨observed, -, h⟩ := h
      -- the request has the qualification it was stored with
      obtain ⟨item, hitem⟩ := isSome_iff_exists.mp (find?_isSome.mpr
        (any_eq_true.mp hqualifies.2))
      rw [bind_some, hitem, getD_some] at h
      rw [if_pos hqualifies.1, hitem, toList_some]
      exact h.symm
    · have hsame := pure_ok_iff.mp h
      rw [← hsame]
      exact hgiven

/-- **A request is what was asked for.** -/
theorem request_asked {leadId : String} {r : LeadClosureRequestRow}
    (h : Closure.request rt view leadId input principal d = .ok r) :
    ∃ target lead, Formed input principal target ∧ getLead view.memory leadId principal = .ok lead ∧
      AskedBy input target r ∧ ∀ key ∈ nonEmpty input.idempotencyKey,
        r.id = requestId rt leadId principal.userId key := by
  simp only [Closure.request, bind_ok_iff, Prod.exists] at h
  obtain ⟨lead, target, comment, given, hfields, evidence, hevidence, h⟩ := h
  obtain ⟨hformed, hlead, rfl, rfl⟩ := requestFields_ok_iff.mp hfields
  refine ⟨target, lead, hformed, hlead, ?_⟩
  split at h
  · rename_i stored hstored
    simp only [ok_iff] at h
    obtain ⟨-, ⟨htarget, hreason, hcomment, hsame⟩, rfl⟩ := h
    have hasked := requestEvidence_ok hformed hevidence fun r' hr' => by
      rw [hstored] at hr'
      rw [← some.inj hr']
      exact hsame
    rw [← hsame] at hasked
    refine ⟨⟨htarget, hreason, hcomment, hasked⟩, fun key hkey => ?_⟩
    have hid := LeadClosureRequestRow.mem_keys.mp (findUnique_eq_some.mp hstored).2
    rw [hid, show nonEmpty input.idempotencyKey = some key from hkey]
  · rename_i hstored
    simp only [ok_iff] at h
    obtain ⟨-, -, -, -, rfl⟩ := h
    have hasked := requestEvidence_ok hformed hevidence fun r' hr' => by
      rw [hstored] at hr'
      cases hr'
    refine ⟨⟨rfl, rfl, rfl, hasked⟩, fun key hkey => ?_⟩
    rw [show nonEmpty input.idempotencyKey = some key from hkey]

structure AskedUnder (rt : Runtime) (db : Database) (leadId key : String) (input : ClosureInput)
    (principal : Principal) (row : LeadClosureRequestRow) : Prop where
  mem : row ∈ db.leadClosureRequests.rows
  id_eq : row.id = requestId rt leadId principal.userId key
  asked : ∃ target, Formed input principal target ∧ AskedBy input target row
  lead : ∃ l ∈ db.leads.rows, l.id = leadId
  reader : principal.hasSome (commercialRoles ++ [.AUDITOR])

/-- The refusal of an enrolment whose lead does not show what qualifies it. -/
def qualificationRequired : Failure := .badRequest "commercial_positive_qualification_required"

theorem getLead_ok_iff {seen : Database} {leadId : String} {lead : LeadRecord} :
    getLead (LeadMemory.init.refresh seen) leadId principal = .ok lead ↔
      principal.hasSome (commercialRoles ++ [.AUDITOR]) ∧
        ∃ l, seen.lead leadId = some l ∧ mapStoredLead seen l = lead := by
  simp only [getLead, assertReadRole, LeadMemory.requireLead, ok_iff, refresh_lead,
    map_eq_some_iff]
  constructor
  · rintro ⟨-, hrole, hlead⟩
    exact ⟨hrole, hlead⟩
  · rintro ⟨hrole, hlead⟩
    exact ⟨(), hrole, hlead⟩

variable {leadId key : String}

/-- **A request that is answered was made**, and the answer is what is stored. -/
theorem request_answered {auth : Closure.Authority}
    (hkey : nonEmpty input.idempotencyKey = some key)
    (hleads : view.leads.leads.Grows Later db.leads)
    (h : Closure.requestForApi rt view db leadId input principal correlationId auth d =
      .ok (row, db')) : AskedUnder rt db' leadId key input principal row := by
  have hahead := (closureRequest_changes h).ahead
  simp only [Closure.requestForApi, bind_ok_iff] at h
  obtain ⟨record, hrequest, h⟩ := h
  obtain ⟨target, lead, hformed, hlead, hasked, hid⟩ := request_asked hrequest
  obtain ⟨hrole, l, hl, -⟩ := getLead_ok_iff.mp hlead
  obtain ⟨hmem, hlid⟩ := Database.lead_eq_some.mp hl
  have hthere : ∃ l' ∈ db'.leads.rows, l'.id = leadId := by
    obtain ⟨l', hl', heq⟩ := (leadsGrow_trans hleads hahead.leads) l hmem
    rcases heq with rfl | hlater
    · exact ⟨l', hl', hlid⟩
    · exact ⟨l', hl', hlater.id_eq.trans hlid⟩
  rcases createClosure_ok h with ⟨hstored, hsameId, hsame, rfl⟩ | ⟨rfl, -, t, hcreate, hdossier⟩
  · exact ⟨hstored, hsameId.trans (hid key hkey), ⟨target, hformed, hasked.of_same hsame⟩, hthere, hrole⟩
  · have hrows : db'.leadClosureRequests = t := congrArg Dossier.requests hdossier
    refine ⟨?_, hid key hkey, ⟨target, hformed, hasked⟩, hthere, hrole⟩
    rw [hrows]
    exact (mem_create hcreate).mpr (.inr rfl)

theorem AskedUnder.later (h : AskedUnder rt db leadId key input principal row)
    (hahead : Ahead (dossier db) (dossier db')) :
    ∃ row', AskedUnder rt db' leadId key input principal row' ∧ (row' = row ∨ Settled row row') := by
  obtain ⟨target, hformed, hasked⟩ := h.asked
  obtain ⟨l, hl, hlid⟩ := h.lead
  have hthere : ∃ l' ∈ db'.leads.rows, l'.id = leadId := by
    obtain ⟨l', hl', heq⟩ := hahead.leads l hl
    rcases heq with rfl | hlater
    · exact ⟨l', hl', hlid⟩
    · exact ⟨l', hl', hlater.id_eq.trans hlid⟩
  obtain ⟨row', hrow', heq⟩ := hahead.requests row h.mem
  refine ⟨row', ?_, heq⟩
  rcases heq with rfl | hsettled
  · exact ⟨hrow', h.id_eq, ⟨target, hformed, hasked⟩, hthere, h.reader⟩
  · exact ⟨hrow', hsettled.id_eq.trans h.id_eq, ⟨target, hformed, hasked.settled hsettled⟩, hthere,
      h.reader⟩

/-- The evidence of a request that is repeated is the one it was stored with, unless the
lead no longer shows what qualifies it. -/
theorem requestEvidence_again (lead : LeadRow) {r : LeadClosureRequestRow} {comment : String}
    (hasked : AskedBy input target r) :
    requestEvidence lead (some r) target (givenEvidence input) input comment = .ok r.evidence ∨
      requestEvidence lead (some r) target (givenEvidence input) input comment =
        .error qualificationRequired := by
  have hevidence := hasked.evidence
  simp only [requestEvidence]
  split
  · rename_i hqualifies
    obtain ⟨item, hitem⟩ := isSome_iff_exists.mp (find?_isSome.mpr
      (any_eq_true.mp hqualifies.2))
    rw [if_pos hqualifies.1, hitem, toList_some] at hevidence
    rw [positiveQualificationEvidence]
    by_cases hshown : (∃ q ∈ input.qualification, q.interestConfirmed ∧ q.eligibilityConfirmed) ∧
        present lead.program ∧ present lead.educationLevel ∧ (some comment).isSome ∧
        8 ≤ length (trim ((some comment).getD "")) ∧
        length (trim ((some comment).getD "")) ≤ 1000
    · refine .inl ?_
      rw [require_pos hshown, bind_some, hitem, getD_some, hevidence]
      rfl
    · refine .inr ?_
      rw [require_neg hshown]
      rfl
  · rename_i hplain
    refine .inl (congrArg Except.ok ?_)
    rw [hevidence]
    by_cases henrolled : target = .ENROLLED
    · have hnone : r.evidence.find? isQualification = none := by
        rw [find?_eq_none]
        intro item hitem hqualifies
        exact hplain ⟨henrolled, any_eq_true.mpr ⟨item, hitem, hqualifies⟩⟩
      rw [if_pos henrolled, hnone, toList_none, append_nil]
    · rw [if_neg henrolled, append_nil]

/-- **A request that is repeated under its key is answered with the one it made**, and
changes nothing, unless its lead no longer shows what qualifies it. -/
theorem AskedUnder.again (h : AskedUnder rt db leadId key input principal row)
    (hrequests : view.requests = db) (hleads : view.leads = db)
    (hkey : nonEmpty input.idempotencyKey = some key) (auth : Closure.Authority) (d : ClosureDraw) :
    Closure.requestForApi rt view db leadId input principal correlationId auth d = .ok (row, db) ∨
      Closure.requestForApi rt view db leadId input principal correlationId auth d =
        .error qualificationRequired := by
  obtain ⟨target, hformed, hasked⟩ := h.asked
  obtain ⟨l, hl, hlid⟩ := h.lead
  have hlead : getLead view.memory leadId principal = .ok (mapStoredLead db l) := by
    rw [Closure.View.memory, hleads]
    exact getLead_ok_iff.mpr ⟨h.reader, l, Database.lead_eq_some.mpr ⟨hl, hlid⟩, rfl⟩
  have hfields := requestFields_ok_iff.mpr ⟨hformed, hlead, rfl, rfl⟩
  have hstored : db.leadClosureRequests.findUnique row.id = some row :=
    findUnique_of_mem h.mem (LeadClosureRequestRow.mem_keys.mpr rfl)
  have hfound : view.request (requestId rt leadId principal.userId key) = some row := by
    rw [Closure.View.request, hrequests, ← h.id_eq]
    exact hstored
  have hsame : SameRequest row row := ⟨rfl, rfl, rfl, rfl, rfl, rfl⟩
  rw [Closure.requestForApi, Closure.request, hfields, ok_bind]
  simp only [hkey, hfound]
  rcases requestEvidence_again (mapStoredLead db l).toLeadRow hasked with heq | heq
  · refine .inl ?_
    rw [heq, ok_bind, require_pos ⟨hasked.asked, hasked.reason, hasked.comment, rfl⟩, ok_bind]
    simp only [pure, Except.pure, ok_bind, createClosure, hstored, require_pos hsame]
  · refine .inr ?_
    rw [heq]
    rfl

end CrmYnov.Closing
