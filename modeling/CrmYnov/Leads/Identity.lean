import CrmYnov.Base.Registry
import CrmYnov.Leads.Memory

/-!
# Leads by their contacts

A newcomer is compared with the leads in memory by its email and its phone, both
normalized, and the first lead in the order of registration answers. So the
contacts of the leads are a register (`CrmYnov.Leads.LeadMemory.firstWith`) in
which registering a lead takes the contacts nobody held, and that no activity and
no assignment changes (`CrmYnov.Leads.SameContacts`).
-/

namespace CrmYnov.Leads

open Checked Js Dict List Option

/-- `phone.replace(/[^+\d]/g, "")` -/
def normalizePhone (phone : String) : String := keep (fun c => c == '+' || isDigit c) phone

@[simp] theorem normalizePhone_normalizePhone (phone : String) :
    normalizePhone (normalizePhone phone) = normalizePhone phone := by
  simp [normalizePhone, keep, List.filter_filter]

variable (rt : Runtime)

/-- `email.trim().toLowerCase()` -/
def normalizeEmail (email : String) : String := rt.unicode.toLowerCase (trim email)

/-- The lower case of a trimmed text is its own lower case, and has nothing to
trim. -/
def LowerStable : Prop := ∀ s, normalizeEmail rt (normalizeEmail rt s) = normalizeEmail rt s

theorem lowerStable_plain : LowerStable .plain := fun s => by
  have hmap : ∀ t, normalizeEmail .plain t =
      String.ofList ((trim t).toList.map lowerChar) := fun _ => rfl
  rw [hmap, hmap, trim_ofList_map isSpace_lowerChar, trim_trim, String.toList_ofList,
    List.map_map]
  exact congrArg String.ofList (List.map_congr_left fun c _ => lowerChar_lowerChar c)

/-- What the contacts of a newcomer lead to. -/
structure IdentityMatches where
  (emailLeadId phoneLeadId : Option String)

variable {lead : LeadRecord}

namespace LeadMemory

variable (m : LeadMemory)

def firstWith (contact : LeadRecord → Option String) : Registry String String :=
  fun value => (m.leads.values.find? fun lead => contact lead = some value).map fun l => l.id

def findIdentityMatches (email phone : Option String) : IdentityMatches where
  emailLeadId :=
    nonEmpty ((nonEmpty (email.map (normalizeEmail rt))).bind (m.firstWith fun l => l.email))
  phoneLeadId :=
    nonEmpty ((nonEmpty (phone.map normalizePhone)).bind (m.firstWith fun l => l.phone))

def registerLocalLead (lead : LeadRecord) : LeadMemory :=
  { m with leads := m.leads.set lead.id lead }

def appendIngestionActivity (leadId : String) (type : ActivityType) (result : String)
    (occurredAt : Option String) (principal : Principal) (correlationId activityId : String)
    (now : Instant) : Outcome LeadMemory := do
  let lead ← m.requireLead leadId
  let at' ← (nonEmpty occurredAt).elim (pure now) fun text =>
    demand (rt.parseDate text) (.badRequest "ingestion_activity_date_invalid")
  pure { m with
    leads := m.leads.set leadId { lead with lastActivityAt := some at' }
    activities := m.activities ++ [{
      id := activityId, leadId, type, result, authorId := principal.userId, correlationId
      occurredAt := at' }] }

/-- Every lead is kept under its own identifier, which is not empty. -/
structure Keyed (m : LeadMemory) : Prop where
  id_eq : ∀ {id lead}, m.leads.get id = some lead → lead.id = id
  ne_empty : m.leads.get "" = none

variable {m : LeadMemory} {contact : LeadRecord → Option String}

/-- The register of a contact depends on nothing but the identifiers and the
contacts, in order. -/
theorem firstWith_eq (value : String) :
    m.firstWith contact value =
      ((m.leads.values.map fun l => (l.id, contact l)).find? fun e => e.2 = some value).map
        Prod.fst := by
  rw [List.find?_map, Option.map_map]
  rfl

theorem Keyed.get_of_firstWith (h : m.Keyed) {value id : String}
    (hid : m.firstWith contact value = some id) : ∃ lead, m.leads.get id = some lead := by
  obtain ⟨lead, hfind, rfl⟩ := map_eq_some_iff.mp hid
  obtain ⟨k, hk⟩ := mem_values.mp (mem_of_find?_eq_some hfind)
  exact ⟨lead, by rw [h.id_eq hk]; exact hk⟩

theorem Keyed.firstWith_ne_empty (h : m.Keyed) {value id : String}
    (hid : m.firstWith contact value = some id) : id ≠ "" := by
  rintro rfl
  obtain ⟨lead, hlead⟩ := h.get_of_firstWith hid
  rw [h.ne_empty] at hlead
  cases hlead

/-- **Registering a lead takes its contact**, unless an earlier lead holds it. -/
theorem firstWith_registerLocalLead (hfree : m.leads.get lead.id = none) :
    (m.registerLocalLead lead).firstWith contact =
      (m.firstWith contact).claim (contact lead).toList lead.id := by
  funext value
  have hv : (m.registerLocalLead lead).leads.values = m.leads.values ++ [lead] :=
    values_set_of_none lead hfree
  rw [firstWith, hv, find?_append, Registry.claim_apply, firstWith, map_or]
  by_cases hc : contact lead = some value
  · simp [hc]
  · cases hl : contact lead with
    | none => simp [hl]
    | some v =>
      have hne : value ≠ v := fun heq => hc (by rw [hl, heq])
      simp [hl, hne, Ne.symm hne]

theorem keyed_init : LeadMemory.init.Keyed := ⟨by simp [LeadMemory.init], rfl⟩

theorem Keyed.registerLocalLead (h : m.Keyed) (hne : lead.id ≠ "") :
    (m.registerLocalLead lead).Keyed where
  id_eq := by
    intro id l hl
    rw [LeadMemory.registerLocalLead, get_set] at hl
    split at hl
    · rename_i heq
      rw [← some.inj hl, heq]
    · exact h.id_eq hl
  ne_empty := by
    rw [LeadMemory.registerLocalLead, get_set, if_neg (Ne.symm hne)]
    exact h.ne_empty

end LeadMemory

/-! ### What does not change the contacts -/

/-- Two memories with the same leads under the same contacts. -/
structure SameContacts (m m' : LeadMemory) : Prop where
  keyed : m.Keyed → m'.Keyed
  known : ∀ id, m'.leads.get id = none ↔ m.leads.get id = none
  email : m'.firstWith (fun l => l.email) = m.firstWith fun l => l.email
  phone : m'.firstWith (fun l => l.phone) = m.firstWith fun l => l.phone

theorem SameContacts.refl (m : LeadMemory) : SameContacts m m :=
  ⟨id, fun _ => Iff.rfl, rfl, rfl⟩

theorem SameContacts.trans {m m' m'' : LeadMemory} (h : SameContacts m m')
    (h' : SameContacts m' m'') : SameContacts m m'' :=
  ⟨h'.keyed ∘ h.keyed, fun id => (h'.known id).trans (h.known id), h'.email.trans h.email,
    h'.phone.trans h.phone⟩

theorem sameContacts_set {m : LeadMemory} {id : String} {lead lead' : LeadRecord}
    {activities : List LeadActivityRecord} (h : m.leads.get id = some lead)
    (hid : lead'.id = lead.id) (hemail : lead'.email = lead.email)
    (hphone : lead'.phone = lead.phone) :
    SameContacts m { m with leads := m.leads.set id lead', activities := activities } where
  keyed hm :=
    { id_eq := by
        intro k l hl
        dsimp only at hl
        rw [get_set] at hl
        split at hl
        · rename_i heq
          rw [← some.inj hl, hid, hm.id_eq h, heq]
        · exact hm.id_eq hl
      ne_empty := by
        dsimp only
        rw [get_set, if_neg]
        · exact hm.ne_empty
        · rintro rfl
          rw [hm.ne_empty] at h
          cases h }
  known k := by
    dsimp only
    rw [get_set]
    split
    · rename_i heq
      simp [heq, h]
    · exact Iff.rfl
  email := by
    funext value
    rw [LeadMemory.firstWith_eq, LeadMemory.firstWith_eq]
    dsimp only
    rw [map_values_set _ h (by rw [hid, hemail])]
  phone := by
    funext value
    rw [LeadMemory.firstWith_eq, LeadMemory.firstWith_eq]
    dsimp only
    rw [map_values_set _ h (by rw [hid, hphone])]

variable {rt}

/-- **An activity of a lead in memory is appended**, and contacts stay as they
are. -/
theorem appendIngestionActivity_ok {m : LeadMemory} {leadId : String}
    (h : m.leads.get leadId = some lead) {occurredAt : Option String}
    (hdate : ∀ t ∈ nonEmpty occurredAt, (rt.parseDate t).isSome) (type : ActivityType)
    (result : String) (principal : Principal) (correlationId activityId : String) (now : Instant) :
    ∃ m', m.appendIngestionActivity rt leadId type result occurredAt principal correlationId
      activityId now = .ok m' ∧ SameContacts m m' := by
  have hread : ∃ at', ((nonEmpty occurredAt).elim (pure now) fun text =>
      demand (rt.parseDate text) (.badRequest "ingestion_activity_date_invalid") :
        Outcome Instant) = .ok at' := by
    cases ht : nonEmpty occurredAt with
    | none => exact ⟨now, rfl⟩
    | some t =>
      obtain ⟨at', hat⟩ := isSome_iff_exists.mp (hdate t (by simp [ht]))
      exact ⟨at', by simp [hat]⟩
  obtain ⟨at', hat⟩ := hread
  rw [LeadMemory.appendIngestionActivity, LeadMemory.requireLead, h, demand_some, ok_bind, hat,
    ok_bind]
  exact ⟨_, rfl, sameContacts_set h rfl rfl rfl⟩

theorem sameContacts_assignLocalLead {m m' : LeadMemory} (hm : m.Keyed)
    {leadId assignedToId correlationId reason mode : String} {principal : Principal} {o : Occasion}
    (h : assignLocalLead m leadId assignedToId principal correlationId reason mode o =
      .ok (lead, m')) : SameContacts m m' := by
  simp only [assignLocalLead, LeadMemory.requireLead, ok_iff] at h
  obtain ⟨-, -, current, hcur, -, -, rfl, rfl⟩ := h
  have hget : m.leads.get current.id = some current := by
    rw [hm.id_eq hcur]
    exact hcur
  exact sameContacts_set hget rfl rfl rfl

end CrmYnov.Leads
