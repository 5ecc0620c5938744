import CrmYnov.Ingestion.Service

/-!
# Ingestion as a register of identities

What the memory knows of identities is a register of external identifiers, emails
and phones. A record is settled by what its keys lead to
(`CrmYnov.Ingestion.settle`), and it changes the register in one way
(`CrmYnov.Ingestion.enroll`): an attached record brings its external identifier
to the lead it is attached to, a created one all its keys to the new lead. This is
all that the ingestion of a record does, as far as later records can tell
(`CrmYnov.Ingestion.ingestOne_ok`).
-/

namespace CrmYnov.Ingestion

open Checked Leads Registry IngestionRecordInput List Option

inductive IdentityKey
  | external (key : String) : IdentityKey
  | email (value : String) : IdentityKey
  | phone (value : String) : IdentityKey
deriving DecidableEq

def IngestionRecordInput.externalKeys (record : IngestionRecordInput) : List IdentityKey :=
  record.externalKey.toList.map .external

def identityKeys (record : IngestionRecordInput) (contacts : Contacts) : List IdentityKey :=
  record.externalKeys ++ contacts.email.toList.map .email ++ contacts.phone.toList.map .phone

/-- The holders of the keys of a record are the set of what its three lookups
find. -/
theorem holders_identityKeys {η : Type*} [DecidableEq η] (g : Registry IdentityKey η)
    (record : IngestionRecordInput) (contacts : Contacts) :
    g.holders (identityKeys record contacts) =
      unique [record.externalKey.bind fun key => g (.external key),
        contacts.email.bind fun value => g (.email value),
        contacts.phone.bind fun value => g (.phone value)].reduceOption := by
  have hpart : ∀ (key : String → IdentityKey) (o : Option String),
      (o.toList.map key).filterMap g = (o.bind fun t => g (key t)).toList := fun key o => by
    cases o with
    | none => rfl
    | some t => cases hk : g (key t) <;> simp [hk]
  have hreduce : ∀ a b c : Option η,
      [a, b, c].reduceOption = a.toList ++ b.toList ++ c.toList := fun a b c => by
    cases a <;> cases b <;> cases c <;> rfl
  rw [holders, identityKeys, externalKeys, filterMap_append,
    filterMap_append, hpart, hpart, hpart, hreduce]

/-- Whom the keys are known to belong to. -/
def Store.identities (s : Store) : Registry IdentityKey String
  | .external key => (s.provenanceByExternalId.get key).map ProvenanceRecord.leadId
  | .email value => s.memory.firstWith (fun l => l.email) value
  | .phone value => s.memory.firstWith (fun l => l.phone) value

/-- Every identifier of the store is that of a lead, none of them empty. -/
structure Store.Keyed (s : Store) : Prop where
  memory : s.memory.Keyed
  provenance : ∀ {key p}, s.provenanceByExternalId.get key = some p → p.leadId ≠ ""

/-- An identifier that nothing in the store refers to. -/
structure Store.Fresh (s : Store) (id : String) : Prop where
  ne_empty : id ≠ ""
  unknown : s.memory.leads.get id = none
  unheld : ∀ key, s.identities key ≠ some id

section Register

variable (rt : Runtime) {η η' : Type*} [DecidableEq η] [DecidableEq η']

/-- The record may become a lead. -/
def Enrollable (record : IngestionRecordInput) : Prop :=
  record.status rt ≠ .DUPLICATE ∧ record.hasRequiredMapping
deriving Decidable

/-- What comes of a record whose keys lead somewhere. -/
def settle (record : IngestionRecordInput) (r : Resolution η) : IngestionOutcome :=
  if record.status rt = .UNKNOWN then .MANUAL_REVIEW
  else
    match r with
    | .several => .MANUAL_REVIEW
    | .one _ => .PROVENANCE_ATTACHED
    | .unknown => if Enrollable rt record then .CREATED else .MANUAL_REVIEW

def enroll (g : Registry IdentityKey η) (record : IngestionRecordInput) (contacts : Contacts)
    (newcomer : η) : Registry IdentityKey η :=
  if record.status rt = .UNKNOWN then g
  else
    match g.resolve (identityKeys record contacts) with
    | .several => g
    | .one h => g.claim record.externalKeys h
    | .unknown =>
      if Enrollable rt record then g.claim (identityKeys record contacts) newcomer else g

variable {rt} {g : Registry IdentityKey η} {record : IngestionRecordInput} {contacts : Contacts}

omit [DecidableEq η] [DecidableEq η'] in
theorem settle_map (f : η → η') (r : Resolution η) :
    settle rt record (r.map f) = settle rt record r := by cases r <;> rfl

theorem map_enroll {f : η → η'} (hf : Set.InjOn f {h | ∃ k, g k = some h}) (newcomer : η) :
    (fun k => (enroll rt g record contacts newcomer k).map f) =
      enroll rt (fun k => (g k).map f) record contacts (f newcomer) := by
  rw [enroll, enroll, resolve_map hf]
  split
  · rfl
  · cases g.resolve (identityKeys record contacts) with
    | several => rfl
    | one h => exact map_claim f g _ h
    | unknown =>
      dsimp only [Resolution.map]
      split
      · exact map_claim f g _ newcomer
      · rfl

/-- **The only holder a record adds is its own.** -/
theorem eq_of_enroll {newcomer h : η} {k : IdentityKey}
    (hk : enroll rt g record contacts newcomer k = some h) :
    (∃ k', g k' = some h) ∨ settle rt record (g.resolve (identityKeys record contacts)) = .CREATED ∧
      h = newcomer := by
  unfold enroll at hk
  split at hk
  · exact .inl ⟨k, hk⟩
  · rename_i hstatus
    cases hr : g.resolve (identityKeys record contacts) with
    | several =>
      rw [hr] at hk
      exact .inl ⟨k, hk⟩
    | one a =>
      rw [hr] at hk
      rcases claim_eq_some.mp hk with hk | ⟨-, -, rfl⟩
      · exact .inl ⟨k, hk⟩
      · obtain ⟨⟨k', -, hk'⟩, -⟩ := resolve_eq_one.mp hr
        exact .inl ⟨k', hk'⟩
    | unknown =>
      rw [hr] at hk
      dsimp only at hk
      split at hk
      · rename_i henr
        rcases claim_eq_some.mp hk with hk | ⟨-, -, rfl⟩
        · exact .inl ⟨k, hk⟩
        · exact .inr ⟨by simp [settle, hstatus, henr], rfl⟩
      · exact .inl ⟨k, hk⟩

end Register

/-! ### The matches of a record -/

variable {rt : Runtime} {s : Store} {record : IngestionRecordInput} {contacts : Contacts}

theorem Store.Keyed.identities_ne_empty (hs : s.Keyed) {key : IdentityKey} {id : String}
    (h : s.identities key = some id) : id ≠ "" := by
  cases key with
  | external key =>
    obtain ⟨p, hp, rfl⟩ := map_eq_some_iff.mp h
    exact hs.provenance hp
  | email value => exact hs.memory.firstWith_ne_empty h
  | phone value => exact hs.memory.firstWith_ne_empty h

theorem Store.keyed_init : Store.init.Keyed := ⟨LeadMemory.keyed_init, by simp [Store.init]⟩

theorem Store.Keyed.fresh (hs : s.Keyed) {id : String} (hne : id ≠ "")
    (hleads : s.memory.leads.get id = none)
    (hprov : ∀ p ∈ s.provenanceByExternalId.values, p.leadId ≠ id) : s.Fresh id := by
  refine ⟨hne, hleads, fun key hkey => ?_⟩
  cases key with
  | external key =>
    obtain ⟨p, hp, rfl⟩ := map_eq_some_iff.mp hkey
    exact hprov p (Dict.mem_values.mpr ⟨key, hp⟩) rfl
  | email value | phone value =>
    obtain ⟨lead, hlead⟩ := hs.memory.get_of_firstWith hkey
    rw [hleads] at hlead
    cases hlead

theorem nonEmpty_map_normalized {f : String → String} (hf : ∀ t, f (f t) = f t)
    {contact : Option String} {raw : Option String} (h : contact = nonEmpty (raw.map f)) :
    nonEmpty (contact.map f) = contact := by
  subst h
  cases raw with
  | none => rfl
  | some t =>
    by_cases ht : f t = ""
    · rw [map_some, ht]
      rfl
    · have hsome : nonEmpty (some (f t)) = some (f t) := nonEmpty_eq_self (by simpa using ht)
      rw [map_some, hsome, map_some, hf, hsome]

/-- **The matches of a record are the holders of its keys.** -/
theorem identityMatches_eq (hlower : LowerStable rt) (hs : s.Keyed)
    (hn : Normalized rt record contacts) :
    identityMatches rt s record contacts = s.identities.holders (identityKeys record contacts) := by
  have hne : ∀ {o : Option String}, (∀ id, o = some id → id ≠ "") → nonEmpty o = o := fun h =>
    nonEmpty_eq_self fun hc => h _ hc rfl
  have hemail : nonEmpty (contacts.email.map (normalizeEmail rt)) = contacts.email :=
    nonEmpty_map_normalized hlower hn.email
  have hphone : nonEmpty (contacts.phone.map normalizePhone) = contacts.phone :=
    nonEmpty_map_normalized normalizePhone_normalizePhone hn.phone
  -- none of the three lookups finds an empty identifier
  have hext : nonEmpty ((record.externalKey.bind s.provenanceByExternalId.get).map
      ProvenanceRecord.leadId) = record.externalKey.bind fun key => s.identities (.external key) := by
    rw [map_bind]
    refine hne fun id hid => ?_
    obtain ⟨key, -, hkey⟩ := bind_eq_some_iff.mp hid
    exact Store.Keyed.identities_ne_empty hs (show s.identities (.external key) = some id from hkey)
  have hcontact : ∀ (c : LeadRecord → Option String) (o : Option String),
      nonEmpty (o.bind (s.memory.firstWith c)) = o.bind (s.memory.firstWith c) := fun c o =>
    hne fun id hid => by
      obtain ⟨value, -, hvalue⟩ := bind_eq_some_iff.mp hid
      exact hs.memory.firstWith_ne_empty hvalue
  rw [identityMatches, LeadMemory.findIdentityMatches, holders_identityKeys]
  dsimp only
  rw [hext, hemail, hphone, hcontact, hcontact]
  rfl

/-! ### What a record does to the store -/

/-- The store has become one with the given identities, and knows no lead it did
not know, but a newcomer. -/
structure Store.Becomes (s s' : Store) (g : Registry IdentityKey String) (newcomer : Option String) :
    Prop where
  keyed : s'.Keyed
  identities : s'.identities = g
  unknown : ∀ id, newcomer ≠ some id → s.memory.leads.get id = none → s'.memory.leads.get id = none

variable {newcomer : Option String}

theorem Store.Becomes.of_memory {g : Registry IdentityKey String} {s s' : Store}
    (h : s.Becomes s' g newcomer) {memory : LeadMemory} (hm : SameContacts s'.memory memory) :
    s.Becomes { s' with memory } g newcomer where
  keyed := ⟨hm.keyed h.keyed.memory, h.keyed.provenance⟩
  identities := by
    rw [← h.identities]
    funext key
    cases key with
    | external key => rfl
    | email value => exact congrFun hm.email value
    | phone value => exact congrFun hm.phone value
  unknown id hid hnone := (hm.known id).mpr (h.unknown id hid hnone)

variable (principal : Principal) (correlationId batchId : String) (o : LineOccasion)
  {leadId : String}

omit batchId in
theorem appendHistorical_ok {m : LeadMemory} {lead : LeadRecord}
    (hlead : m.leads.get leadId = some lead) {activities : List HistoricalActivity}
    (hdates : ∀ a ∈ activities, (rt.parseDate a.occurredAt).isSome) :
    ∃ m', appendHistorical rt m leadId activities principal correlationId o = .ok m' ∧
      SameContacts m m' := by
  -- the fold appends one activity after the other, and the lead stays in memory
  have hfold : ∀ (l : List (HistoricalActivity × ℕ)) (m : LeadMemory),
      (∀ e ∈ l, (rt.parseDate e.1.occurredAt).isSome) → m.leads.get leadId ≠ none →
        ∃ m', l.foldlM (fun m e =>
          m.appendIngestionActivity rt leadId e.1.type e.1.result (some e.1.occurredAt) principal
            (correlationId ++ ":historical:" ++ toString e.2) (o.activityId (e.2 + 1)) o.now) m =
              .ok m' ∧ SameContacts m m' := by
    intro l
    induction l with
    | nil => exact fun m _ _ => ⟨m, rfl, .refl m⟩
    | cons e l ih =>
      intro m hdates hknown
      obtain ⟨activity, index⟩ := e
      obtain ⟨lead, hlead⟩ := ne_none_iff_exists'.mp hknown
      have hdate : ∀ t ∈ nonEmpty (some activity.occurredAt), (rt.parseDate t).isSome := by
        intro t ht
        obtain rfl : activity.occurredAt = t := by simpa using (filter_eq_some_iff.mp ht).1
        exact hdates _ (mem_cons_self ..)
      obtain ⟨m₁, h₁, hsame₁⟩ := appendIngestionActivity_ok hlead hdate activity.type
        activity.result principal (correlationId ++ ":historical:" ++ toString index)
        (o.activityId (index + 1)) o.now
      obtain ⟨m₂, h₂, hsame₂⟩ := ih m₁ (fun e he => hdates e (mem_cons_of_mem _ he))
        fun hnone => hknown ((hsame₁.known leadId).mp hnone)
      refine ⟨m₂, ?_, hsame₁.trans hsame₂⟩
      simp only [foldlM_cons, h₁, ok_bind]
      exact h₂
  refine hfold _ m (fun e he => hdates e.1 ?_) (by simp [hlead])
  exact (mem_zipIdx' he).2 ▸ getElem_mem _

/-- **A provenance brings the external identifier of its record to a lead**,
unless the identifier is taken. -/
theorem attachProvenance_ok (hs : s.Keyed) (hn : Normalized rt record contacts) (hne : leadId ≠ "")
    (hlead : (∃ key ∈ record.externalKey, s.identities (.external key) ≠ none) ∨
      s.memory.leads.get leadId ≠ none) :
    ∃ s', attachProvenance rt s leadId record batchId record.externalKey principal correlationId o =
        .ok s' ∧ s.Becomes s' (s.identities.claim record.externalKeys leadId) none := by
  rw [attachProvenance]
  by_cases hheld : ∃ key ∈ record.externalKey, s.identities (.external key) ≠ none
  · -- a provenance that is already known is not added again
    obtain ⟨key, hkey, hne⟩ := hheld
    obtain ⟨p, hp⟩ : ∃ p, s.provenanceByExternalId.get key = some p := by
      rw [← Option.ne_none_iff_exists']
      simpa [Store.identities] using hne
    rw [Option.mem_def] at hkey
    refine ⟨s, by rw [if_pos (by simp [hkey, hp])]; rfl, hs, ?_, fun _ _ h => h⟩
    funext k
    rw [claim_apply, externalKeys, hkey]
    by_cases hk : k = .external key
    · simp [hk, Store.identities, hp]
    · simp [hk]
  · obtain ⟨lead, hl⟩ := Option.ne_none_iff_exists'.mp (hlead.resolve_left hheld)
    have hfree : (record.externalKey.any fun key => (s.provenanceByExternalId.get key).isSome) =
        false := by
      rw [Bool.eq_false_iff]
      intro hany
      obtain ⟨key, hkey, hsome⟩ := (Option.any_eq_true _ _).mp hany
      exact hheld ⟨key, hkey, by simpa [Store.identities, Option.isSome_iff_ne_none] using hsome⟩
    obtain ⟨m₁, h₁, hsame₁⟩ := appendIngestionActivity_ok hl hn.occurredAt
      (if record.source = "LEGACY_IMPORT" then .LEGACY_IMPORT else .PROVENANCE_ATTACHED)
      record.source principal correlationId (o.activityId 0) o.now
    obtain ⟨lead₁, hl₁⟩ : ∃ lead, m₁.leads.get leadId = some lead := by
      rw [← Option.ne_none_iff_exists', Ne, hsame₁.known, hl]
      simp
    obtain ⟨m₂, h₂, hsame₂⟩ := appendHistorical_ok principal correlationId o hl₁ hn.activities
    have hsame := hsame₁.trans hsame₂
    rw [hfree]
    simp only [Bool.false_eq_true, if_false, h₁, h₂, ok_bind]
    refine ⟨_, rfl, ⟨hsame.keyed hs.memory, fun {key p} hp => ?_⟩, ?_,
      fun id _ hnone => (hsame.known id).mpr hnone⟩
    · -- the provenances known are the earlier ones and the new one
      cases hkey : record.externalKey with
      | none =>
        rw [hkey] at hp
        exact hs.provenance hp
      | some key' =>
        rw [hkey] at hp
        dsimp only [Option.elim] at hp
        rw [Dict.get_set] at hp
        split at hp
        · rw [← Option.some.inj hp]
          exact hne
        · exact hs.provenance hp
    · funext k
      rw [claim_apply, externalKeys]
      cases k with
      | email value => simpa [Store.identities] using congrFun hsame.email value
      | phone value => simpa [Store.identities] using congrFun hsame.phone value
      | external key =>
        cases hkey : record.externalKey with
        | none => simp [Store.identities]
        | some key' =>
          dsimp only [Store.identities, Option.elim]
          rw [Dict.get_set]
          by_cases hk : key = key'
          · have hnone : s.provenanceByExternalId.get key = none := by
              by_contra hsome
              exact hheld ⟨key', hkey, by simpa [Store.identities, ← hk] using hsome⟩
            subst hk
            simp [hnone, provenanceOf]
          · simp [hk]

theorem becomes_registerLocalLead (hs : s.Keyed) {lead : LeadRecord} (hfresh : s.Fresh lead.id) :
    s.Becomes { s with memory := s.memory.registerLocalLead lead }
      (s.identities.claim (lead.email.toList.map .email ++ lead.phone.toList.map .phone) lead.id)
      (some lead.id) where
  keyed := ⟨hs.memory.registerLocalLead hfresh.ne_empty, hs.provenance⟩
  identities := by
    funext key
    rw [claim_apply]
    cases key with
    | external key => simp [Store.identities]
    | email value =>
      dsimp only [Store.identities]
      rw [LeadMemory.firstWith_registerLocalLead hfresh.unknown, claim_apply]
      simp
    | phone value =>
      dsimp only [Store.identities]
      rw [LeadMemory.firstWith_registerLocalLead hfresh.unknown, claim_apply]
      simp
  unknown id hid hnone := by
    dsimp only [LeadMemory.registerLocalLead]
    rw [Dict.get_set, if_neg fun heq => hid (by rw [heq])]
    exact hnone

theorem ingestOne_refused {reason : String} (h : normalize rt record = .error reason) :
    ingestOne rt s record batchId principal correlationId o =
      .ok (⟨record.lineNumber, .INVALID, some reason, none⟩, s) := by
  simp only [ingestOne, h]
  rfl

/-- **What the ingestion of a record does**, on the register of identities. -/
theorem ingestOne_ok (hlower : LowerStable rt) (hs : s.Keyed) (hfresh : s.Fresh o.leadId)
    (h : normalize rt record = .ok contacts) :
    ∃ line s', ingestOne rt s record batchId principal correlationId o = .ok (line, s') ∧
      line.lineNumber = record.lineNumber ∧
      line.outcome = settle rt record (s.identities.resolve (identityKeys record contacts)) ∧
      s.Becomes s' (enroll rt s.identities record contacts o.leadId) (some o.leadId) := by
  have hn := normalized_of_normalize h
  have hsame : s.Becomes s s.identities (some o.leadId) := ⟨hs, rfl, fun _ _ hnone => hnone⟩
  unfold ingestOne enroll settle
  simp only [h]
  by_cases hunknown : record.status rt = .UNKNOWN
  · simp only [hunknown, if_true]
    exact ⟨_, _, rfl, rfl, rfl, hsame⟩
  simp only [hunknown, if_false, identityMatches_eq hlower hs hn]
  -- the cases are those of the set of leads the keys lead to
  rcases hl : s.identities.holders (identityKeys record contacts) with - | ⟨leadId, - | ⟨b, l⟩⟩
  · have hr : s.identities.resolve (identityKeys record contacts) = .unknown := by
      rw [resolve, hl]
      rfl
    simp only [hr, length_nil, head?_nil, and_true, Nat.not_lt_zero, if_false, Enrollable]
    by_cases hdup : record.status rt = .DUPLICATE
    · simp only [hdup, if_true, ne_eq, not_true_eq_false, false_and, if_false]
      exact ⟨_, _, rfl, rfl, rfl, hsame⟩
    by_cases hmap : record.hasRequiredMapping = true
    · simp only [hdup, hmap, if_false, not_true_eq_false, ne_eq, not_false_eq_true, and_self,
        if_true]
      have hnew : s.Fresh (newLead rt record contacts batchId o).id := hfresh
      have hreg := becomes_registerLocalLead hs hnew
      obtain ⟨s', hs', hbecomes⟩ := attachProvenance_ok principal correlationId batchId o hreg.keyed
        hn hnew.ne_empty (.inr (by simp [LeadMemory.registerLocalLead]))
      simp only [hs', ok_bind]
      refine ⟨_, _, rfl, rfl, rfl, hbecomes.keyed, ?_, fun id hid hnone =>
        hbecomes.unknown id (by simp) (hreg.unknown id hid hnone)⟩
      rw [hbecomes.identities, hreg.identities, claim_claim, identityKeys,
        append_assoc]
      rfl
    · simp only [hdup, hmap, if_false, not_false_eq_true, if_true, Bool.false_eq_true, and_false]
      exact ⟨_, _, rfl, rfl, rfl, hsame⟩
  · have hr : s.identities.resolve (identityKeys record contacts) = .one leadId := by
      rw [resolve, hl]
      rfl
    simp only [hr, length_singleton, head?_cons, lt_irrefl, if_false, reduceCtorEq,
      and_false]
    obtain ⟨⟨key, hkey, hheld⟩, -⟩ := resolve_eq_one.mp hr
    -- the lead is in memory when a contact led to it, and its provenance when the identifier did
    have hlead : (∃ key ∈ record.externalKey, s.identities (.external key) ≠ none) ∨
        s.memory.leads.get leadId ≠ none := by
      cases key with
      | external key =>
        refine .inl ⟨key, ?_, by simp [hheld]⟩
        simpa [identityKeys, externalKeys] using hkey
      | email value =>
        obtain ⟨lead, hlead⟩ := hs.memory.get_of_firstWith hheld
        exact .inr (by simp [hlead])
      | phone value =>
        obtain ⟨lead, hlead⟩ := hs.memory.get_of_firstWith hheld
        exact .inr (by simp [hlead])
    obtain ⟨s', hs', hbecomes⟩ := attachProvenance_ok principal correlationId batchId o hs hn
      (hs.identities_ne_empty hheld) hlead
    simp only [hs', ok_bind]
    exact ⟨_, _, rfl, rfl, rfl, hbecomes.keyed, hbecomes.identities, fun id _ hnone =>
      hbecomes.unknown id (by simp) hnone⟩
  · have hr : s.identities.resolve (identityKeys record contacts) = .several := by
      rw [resolve, hl]
      rfl
    simp only [hr, length_cons, show 1 < l.length + 1 + 1 by omega, if_true]
    exact ⟨_, _, rfl, rfl, rfl, hsame⟩

/-! ### One turn of the loop -/

theorem Store.Becomes.assignCreated {g : Registry IdentityKey String} {s s' : Store}
    (h : s.Becomes s' g newcomer) (leadId : String) (input : IngestionBatchInput) :
    s.Becomes (assignCreated s' leadId record input principal correlationId o).2 g newcomer := by
  rw [Ingestion.assignCreated]
  cases o.assignee with
  | none => exact h
  | some target =>
    dsimp only
    split
    · rename_i hok
      exact h.of_memory (sameContacts_assignLocalLead h.keyed.memory hok)
    · exact h

variable {principal correlationId} in
/-- A turn of the loop ends with the result of its record, and with the
identities the record leaves. -/
theorem ingestRecord_of_ingestOne (input : IngestionBatchInput) {o : BatchOccasion}
    {g : Registry IdentityKey String} {line : IngestionLineResult} {s' : Store}
    (h : ingestOne rt s record o.batchId principal
      (correlationId ++ ":" ++ toString record.lineNumber) (o.line record.lineNumber) =
        .ok (line, s')) (hbecomes : s.Becomes s' g newcomer) :
    ∃ assigned s'', ingestRecord rt s input record principal correlationId o =
        .ok ((line, assigned), s'') ∧ s.Becomes s'' g newcomer := by
  rw [ingestRecord, h, ok_bind]
  dsimp only
  split
  · exact ⟨_, _, rfl, hbecomes.assignCreated ..⟩
  · exact ⟨_, _, rfl, hbecomes⟩

end CrmYnov.Ingestion
