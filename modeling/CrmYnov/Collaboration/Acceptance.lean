import CrmYnov.Collaboration.Records

/-!
# A decision that is accepted

A decision is recorded when its key is new, its lead is complete, the caller is identified and
nothing fails around the call. The event of a decision carries the operation, the status and
the version of the lead and the types of the activities, and passes the screening of the
outbox.
-/

/-!
## Payloads that pass the screening

A payload is refused when a quote in its text opens the name of a member that is withheld.
Whether it does is seen on the characters that follow the quote, so a text is screened piece by
piece: when no quote of its first piece may open a withheld name, what matters is the rest.
-/

namespace CrmYnov.Outbox

open Js Checked List Option

variable (cs : List Char)

/-- What follows a quote may be the beginning of a withheld name. -/
def opens : Bool :=
  withheldMembers.any fun word =>
    let named := word.toList ++ ['"']
    ((cs.take named.length).map lowerChar).isPrefixOf named

/-- The text begins with a quote that may open a withheld name. -/
def startsName : List Char → Bool
  | '"' :: cs => opens cs
  | _ => false

/-- No quote of the text may open a withheld name. -/
def guarded : Bool := cs.tails.all fun t => !startsName t

theorem startsName_of_namesWithheld {cs rest : List Char} (hcs : cs ≠ [])
    (h : namesWithheld (cs ++ rest) = true) : startsName cs = true := by
  match cs, hcs with
  | c :: cs, _ =>
    by_cases hc : c = '"'
    · subst hc
      simp only [List.cons_append, namesWithheld, List.any_eq_true, Bool.and_eq_true,
        beq_iff_eq] at h
      obtain ⟨word, hword, htake, -⟩ := h
      refine List.any_eq_true.mpr ⟨word, hword, ?_⟩
      have hprefix : ((cs.take (word.toList ++ ['"']).length).map lowerChar) <+:
          ((cs ++ rest).take (word.toList ++ ['"']).length).map lowerChar := by
        rw [List.take_append, List.map_append]
        exact List.prefix_append _ _
      rw [htake] at hprefix
      exact List.isPrefixOf_iff_prefix.mpr hprefix
    · rw [List.cons_append, namesWithheld] at h
      · cases h
      · intro r hr
        exact hc (List.cons.inj hr).1

/-- **A text is screened piece by piece.** -/
theorem screened_append {cs rest : List Char} (hcs : guarded cs = true)
    (hrest : rest.tails.any namesWithheld = false) :
    (cs ++ rest).tails.any namesWithheld = false := by
  induction cs with
  | nil => exact hrest
  | cons c cs ih =>
    simp only [guarded, tails, all_cons, Bool.and_eq_true, Bool.not_eq_true'] at hcs
    rw [cons_append, tails, any_cons, Bool.or_eq_false_iff]
    refine ⟨?_, ih hcs.2⟩
    by_contra hnamed
    have := @startsName_of_namesWithheld (c :: cs) rest (by simp) ((Bool.not_eq_false _).mp hnamed)
    rw [hcs.1] at this
    cases this

theorem guarded_of_noQuote {cs : List Char} (h : '"' ∉ cs) : guarded cs = true := by
  induction cs with
  | nil => rfl
  | cons c cs ih =>
    simp only [mem_cons, not_or] at h
    rw [guarded, tails, all_cons, Bool.and_eq_true]
    refine ⟨?_, ih h.2⟩
    rw [startsName]
    · rfl
    · intro r hr
      exact h.1 (cons.inj hr).1.symm

/-! ### Lengths and numbers -/

theorem utf16Length_append (cs rest : List Char) :
    utf16Length (cs ++ rest) = utf16Length cs + utf16Length rest := by
  induction cs with
  | nil => simp [utf16Length]
  | cons c cs ih => rw [cons_append, utf16Length, utf16Length, ih, Nat.add_assoc]

theorem utf16Length_le : utf16Length cs ≤ 2 * cs.length := by
  induction cs with
  | nil => simp [utf16Length]
  | cons c cs ih =>
    rw [utf16Length, length_cons]
    split <;> omega

theorem quote_notMem_toString (n : ℕ) : '"' ∉ (toString n).toList := by
  intro h
  have hrepr : '"' ∈ (Nat.repr n).toList := h
  rw [Nat.toList_repr] at hrepr
  have hdigit := Nat.isDigit_of_mem_toDigits (b := 10) (by decide) (by decide) hrepr
  cases hdigit

theorem length_toString_le {n : ℕ} (h : n < 2 ^ 31) : (toString n).toList.length ≤ 10 := by
  have hrepr : (toString n).toList = Nat.toDigits 10 n := Nat.toList_repr
  rw [hrepr, Nat.length_toDigits_le_iff (by decide) (by decide)]
  omega

end CrmYnov.Outbox

namespace CrmYnov.Collaboration

open Checked Leads

variable {rt : Runtime} {db db' : Database}

/-! ### The event -/

def decisionPayload (status : LeadStatus) (version : ℕ) (types : List ActivityType) : Js.Json :=
  .obj [("operation", .str MutationOperation.COLLABORATION_DECISION.text),
    ("status", .str status.text), ("version", .nat version),
    ("activityTypes", .arr (types.map fun t => .str t.text))]

/-- Its text before the version of the lead. -/
def eventHead (status : LeadStatus) : List Char :=
  '{' :: Js.Json.quote "operation" ++
    ':' :: Js.Json.quote MutationOperation.COLLABORATION_DECISION.text ++
    ',' :: Js.Json.quote "status" ++ ':' :: Js.Json.quote status.text ++
    ',' :: Js.Json.quote "version" ++ [':']

/-- Its text after the version of the lead. -/
def eventTail (types : List ActivityType) : List Char :=
  ',' :: Js.Json.quote "activityTypes" ++
    ':' :: (Js.Json.arr (types.map fun t => .str t.text)).chars ++ ['}']

theorem chars_decisionPayload (status : LeadStatus) (version : ℕ) (types : List ActivityType) :
    (decisionPayload status version types).chars =
      eventHead status ++ ((toString version).toList ++ eventTail types) := by
  simp only [decisionPayload, Js.Json.chars, Js.Json.charsMembers, Js.Json.nat, eventHead, eventTail,
    List.cons_append, List.append_assoc, List.nil_append]

theorem guarded_eventHead (status : LeadStatus) :
    Outbox.guarded (eventHead status) = true ∧ Js.utf16Length (eventHead status) ≤ 200 := by
  cases status <;> decide +kernel

theorem screened_eventTail {types : List ActivityType} (h : types = [] ∨ types = [.COMMENT]) :
    (eventTail types).tails.any Outbox.namesWithheld = false ∧
      Js.utf16Length (eventTail types) ≤ 200 := by
  rcases h with rfl | rfl <;> decide +kernel

/-- **The event of a decision passes the screening.** -/
theorem safePayload_decision (status : LeadStatus) {version : ℕ} (hver : version < 2 ^ 31)
    {types : List ActivityType} (htypes : types = [] ∨ types = [.COMMENT]) :
    Outbox.safePayload (decisionPayload status version types) =
      .ok (decisionPayload status version types) := by
  obtain ⟨hhead, hheadLength⟩ := guarded_eventHead status
  obtain ⟨htail, htailLength⟩ := screened_eventTail htypes
  have hdigits := Outbox.guarded_of_noQuote (Outbox.quote_notMem_toString version)
  have hscreened := Outbox.screened_append hhead (Outbox.screened_append hdigits htail)
  have hlen : Js.utf16Length (decisionPayload status version types).chars ≤ 8000 := by
    have hnumber := Outbox.utf16Length_le (toString version).toList
    have hten := Outbox.length_toString_le hver
    rw [chars_decisionPayload, Outbox.utf16Length_append, Outbox.utf16Length_append]
    omega
  rw [← chars_decisionPayload] at hscreened
  refine bind_ok_iff.mpr ⟨(), require_ok_iff.mpr ⟨hlen, ?_⟩, rfl⟩
  rw [hscreened]
  exact Bool.false_ne_true

/-! ### The transaction -/

theorem allowed_of_complete {before after row : LeadRow} (hrow : db.lead before.id = some row)
    (hver : row.version = before.version) (hprogram : after.program = row.program)
    (hlevel : after.educationLevel = row.educationLevel) (hcomplete : Complete row) :
    ∃ allow, allowMissingBaselineProgram db before after = .ok allow := by
  rw [allowMissingBaselineProgram]
  split
  · refine ⟨_, bind_ok_iff.mpr ⟨row, demand_ok_iff.mpr hrow, bind_ok_iff.mpr
      ⟨(), require_ok_iff.mpr hver, bind_ok_iff.mpr ⟨(), require_ok_iff.mpr ?_, rfl⟩⟩⟩⟩
    intro field hfield habsent
    have hsame : ¬Js.present (field row) := by
      simp only [baselineOptionalInformation, List.mem_cons, List.not_mem_nil, or_false] at hfield
      rcases hfield with rfl | rfl
      · rwa [← hprogram]
      · rwa [← hlevel]
    exact ⟨hcomplete field hfield hsame, hsame⟩
  · exact ⟨false, rfl⟩

theorem insert_of_free {ρ κ : Type} [DecidableEq κ] {keys : ρ → List κ} {t : Table ρ keys} {row : ρ}
    (h : ∀ k ∈ keys row, ∀ x ∈ t.rows, k ∉ keys x) : ∃ t', t.create row = some t' :=
  Option.isSome_iff_exists.mp (Table.create_isSome.mpr fun k hk =>
    Table.findUnique_eq_none.mpr (h k hk))

/-- The activities of a decision: none, or the one of an approval, under an identifier of its
own. -/
def Fresh (db : Database) (activities : List LeadActivityRecord) : Prop :=
  activities = [] ∨ ∃ a, activities = [a] ∧ a.type = .COMMENT ∧
    ∀ x ∈ db.leadActivities.rows, x.id ≠ a.id

theorem addActivities_of_fresh {activities : List LeadActivityRecord} {key : String}
    (h : Fresh db activities) (hkey : ¬Used db key) :
    ∃ db', addActivities db (activityRows activities key) = .ok db' ∧
      ∃ t, db' = { db with leadActivities := t } := by
  rcases h with rfl | ⟨a, rfl, -, hid⟩
  · exact ⟨db, rfl, db.leadActivities, rfl⟩
  · obtain ⟨t, ht⟩ : ∃ t, db.leadActivities.create (activityData a key) = some t := insert_of_free (by
      intro k hk x hx hkx
      simp only [LeadActivityRow.keys, activityData, Option.toList, List.map_cons, List.map_nil,
        List.mem_cons, List.not_mem_nil, or_false] at hk
      rcases hk with rfl | rfl
      · simp only [LeadActivityRow.keys, List.mem_cons, List.mem_map, reduceCtorEq, and_false,
          exists_const, or_false, LeadActivityRow.Key.id.injEq] at hkx
        exact hid x hx hkx.symm
      · simp only [LeadActivityRow.keys, List.mem_cons, List.mem_map, reduceCtorEq, false_or,
          LeadActivityRow.Key.idempotencyKey.injEq, exists_eq_right, Option.mem_toList] at hkx
        exact hkey (.inr (.inl ⟨x, hx, hkx⟩)))
    refine ⟨_, ?_, t, rfl⟩
    rw [activityRows, addActivities, bind_ok_iff]
    exact ⟨_, Database.addActivity_ok_iff.mpr ⟨t, ht, rfl⟩, rfl⟩

theorem auditMutation_of_free {eventType leadId key correlationId : String} {version : ℕ}
    {principal : Principal} {row : LeadRow} (hrow : db.lead leadId = some row)
    (hkey : ∀ e ∈ db.auditEvents.rows, e.idempotencyKey ≠ "lead-audit:" ++ rt.sha256 key) :
    ∃ db', auditMutation rt db eventType leadId version key principal correlationId none = .ok db' ∧
      ∃ t, db' = { db with auditEvents := t } := by
  simp only [auditMutation, ok_iff, hrow, Database.audit_ok_iff, Option.some.injEq, auditCampus,
    Option.mem_def, reduceCtorEq, false_and, exists_false, and_false, decide_false,
    Bool.false_eq_true, if_false, exists_eq_left', Option.map_none, Option.getD_none]
  have hfree : ∀ event : AuditEventRow, event.idempotencyKey = "lead-audit:" ++ rt.sha256 key →
      ∃ t, db.auditEvents.create event = some t := by
    intro event hevent
    refine insert_of_free fun k hk x hx hkx => ?_
    rw [AuditEventRow.keys, List.mem_singleton] at hk hkx
    exact hkey x hx (hkx.symm.trans (hk.trans hevent))
  obtain ⟨t, ht⟩ := hfree { eventType, resourceId := leadId, campusId := some row.campus
                            actorId := principal.userId, actorRoles := principal.roles
                            sessionId := none, correlationId
                            idempotencyKey := "lead-audit:" ++ rt.sha256 key, before := .null
                            after := .present ([("version", some (.nat version)),
                              ("scope", some (.str "CAMPUS"))] ++ []) } rfl
  exact ⟨_, ⟨t, ht, rfl⟩, t, rfl⟩

theorem enqueue_of_free {input : Outbox.OutboxInput} {id : String} {at_ : Instant}
    {events : Outbox.Store} (hvalid : Outbox.validate input = .ok ())
    (hsafe : Outbox.safePayload input.payload = .ok input.payload)
    (hkey : ∀ e ∈ events.rows, e.idempotencyKey ≠ input.idempotencyKey)
    (hid : ∀ e ∈ events.rows, e.id ≠ id) :
    ∃ e events', Outbox.enqueueInTransaction rt.jsonb input id at_ events = .ok (e, events') := by
  have hnone : events.findUnique (.idempotencyKey input.idempotencyKey) = none := by
    refine Table.findUnique_eq_none.mpr fun e he hk => hkey e he ?_
    simp only [Outbox.OutboxEvent.keys, List.mem_cons, reduceCtorEq, List.not_mem_nil, or_false,
      false_or, Outbox.OutboxKey.idempotencyKey.injEq] at hk
    exact hk.symm
  obtain ⟨events', hcreate⟩ : ∃ events', events.create (input.toEvent rt.jsonb id at_) = some events' :=
    insert_of_free (by
      intro k hk e he hke
      simp only [Outbox.OutboxEvent.keys, Outbox.OutboxInput.toEvent, List.mem_cons,
        List.not_mem_nil, or_false] at hk
      rcases hk with rfl | rfl
      · exact hid e he (Outbox.mem_keys_id.mp hke)
      · exact Table.findUnique_eq_none.mp hnone e he hke)
  refine ⟨input.toEvent rt.jsonb id at_, events', ?_⟩
  rw [Outbox.enqueueInTransaction, hvalid, hsafe]
  refine bind_ok_iff.mpr ⟨(), rfl, bind_ok_iff.mpr ⟨_, rfl, ?_⟩⟩
  rw [hnone]
  exact bind_ok_iff.mpr ⟨events', demand_ok_iff.mpr hcreate, rfl⟩

theorem succeeds_bind {T U : Type} {x : Outcome T} {f : T → Outcome U} {a : T} (hx : x = .ok a)
    (hf : ∃ b, f a = .ok b) : ∃ b, (x >>= f) = .ok b := by
  obtain ⟨b, hb⟩ := hf
  exact ⟨b, bind_ok_iff.mpr ⟨a, hx, hb⟩⟩

theorem succeeds_bind_of {T U : Type} {x : Outcome T} {f : T → Outcome U} {P : T → Prop}
    (hx : ∃ a, x = .ok a ∧ P a) (hf : ∀ a, P a → ∃ b, f a = .ok b) : ∃ b, (x >>= f) = .ok b := by
  obtain ⟨a, ha, hp⟩ := hx
  exact succeeds_bind ha (hf a hp)

theorem succeeds_then {T U : Type} {x : Outcome T} {f : T → Outcome U} (hx : ∃ a, x = .ok a)
    (hf : ∀ a, ∃ b, f a = .ok b) : ∃ b, (x >>= f) = .ok b := by
  obtain ⟨a, ha⟩ := hx
  exact succeeds_bind ha (hf a)

structure Recordable (rt : Runtime) (db : Database) (row : LeadRow) (key : String) (o : Occasion) :
    Prop where
  lead : db.lead row.id = some row
  leadId : Js.fullMatch Outbox.isReference 1 80 row.id = true
  complete : Complete row
  version : row.version + 1 < 2 ^ 31
  reference : Js.fullMatch Outbox.isReference 8 160 ("outbox:" ++ key) = true
  fresh : ¬Used db key
  audit : ∀ e ∈ db.auditEvents.rows, e.idempotencyKey ≠ "lead-audit:" ++ rt.sha256 key
  outboxId : ∀ e ∈ db.localOutboxEvents.rows, e.id ≠ o.outboxId

theorem updateLeadVersion_of_found {before after row : LeadRow} (hrow : db.lead before.id = some row)
    (hver : row.version = before.version) :
    updateLeadVersion db before after = .ok { db with
      leads := db.leads.updateMany (AtVersion before) after.mutate (LeadRow.keys_mutate after) } := by
  have hone : db.leads.count (AtVersion before) = 1 :=
    Table.count_eq_one hrow ⟨(Database.lead_eq_some.mp hrow).2, hver⟩ fun x hx =>
      LeadRow.mem_keys_id.mpr hx.1
  rw [updateLeadVersion, require_pos hone]
  rfl

theorem relations_of_recordable {input : PersistMutationInput} {o : Occasion} {result : LeadRecord}
    (hop : input.operation = .COLLABORATION_DECISION) (hassign : input.assignmentAudit = none)
    (htypes : input.activities.map LeadActivityRecord.type = [] ∨
      input.activities.map LeadActivityRecord.type = [.COMMENT])
    (hrow : ∃ row, db.lead result.id = some row)
    (hleadId : Js.fullMatch Outbox.isReference 1 80 result.id = true)
    (hver : result.version < 2 ^ 31)
    (hreference : Js.fullMatch Outbox.isReference 8 160 ("outbox:" ++ input.idempotencyKey) = true)
    (hrec : ∀ x ∈ db.leadMutationReceipts.rows, x.idempotencyKey ≠ input.idempotencyKey)
    (haudit : ∀ e ∈ db.auditEvents.rows,
      e.idempotencyKey ≠ "lead-audit:" ++ rt.sha256 input.idempotencyKey)
    (hevent : ∀ e ∈ db.localOutboxEvents.rows, e.idempotencyKey ≠ "outbox:" ++ input.idempotencyKey)
    (houtboxId : ∀ e ∈ db.localOutboxEvents.rows, e.id ≠ o.outboxId) :
    ∃ db', persistMutationRelations rt db input result o = .ok db' := by
  have hpayload : (input.event result).payload = decisionPayload result.status result.version
      (input.activities.map LeadActivityRecord.type) := by
    rw [PersistMutationInput.event, hop, decisionPayload, List.map_map]
    rfl
  have hsafe : Outbox.safePayload (input.event result).payload = .ok (input.event result).payload := by
    rw [hpayload]
    exact safePayload_decision result.status hver htypes
  have hvalid : Outbox.validate (input.event result) = .ok () := by
    refine require_ok_iff.mpr ⟨?_, ?_, hleadId, hreference, rfl⟩
    · change Js.headMatch Js.isUpper _ 2 79 "LEAD.MUTATED" = true
      decide
    · change Js.headMatch Js.isUpper _ 2 47 "LEAD" = true
      decide
  rw [persistMutationRelations, if_neg (by rw [hop]; decide), hassign, ite_self]
  obtain ⟨row, hrow⟩ := hrow
  refine succeeds_bind_of (auditMutation_of_free hrow haudit) ?_
  rintro _ ⟨audits, rfl⟩
  refine succeeds_bind (auditFirstContact_eq (by rw [hop]; decide)) ?_
  obtain ⟨receipts, hcreate⟩ : ∃ t, db.leadMutationReceipts.create {
      leadId := result.id, idempotencyKey := input.idempotencyKey
      fingerprint := input.fingerprint, operation := input.operation.text
      result := .lead result } = some t := insert_of_free (by
      intro k hk x hx hkx
      rw [LeadMutationReceipt.keys, List.mem_singleton] at hk hkx
      exact hrec x hx (hkx.symm.trans hk))
  refine succeeds_bind (Database.addReceipt_ok_iff.mpr ⟨receipts, hcreate, rfl⟩) ?_
  obtain ⟨event, events, henqueue⟩ := @enqueue_of_free rt _ o.outboxId o.storedAt _ hvalid hsafe
    hevent houtboxId
  exact succeeds_bind henqueue ⟨_, rfl⟩

/-- **A decision that can be recorded is recorded.** -/
theorem written_of_recordable {input : PersistMutationInput} {o : Occasion} {row : LeadRow}
    (hop : input.operation = .COLLABORATION_DECISION) (hassign : input.assignmentAudit = none)
    (hread : input.before.toLeadRow = row.read) (hafter : Untouched input.before input.after)
    (hfresh : Fresh db input.activities) (h : Recordable rt db row input.idempotencyKey o) :
    ∃ x, persistMutationInTransaction rt db input o = .ok x := by
  have hid : input.before.id = row.id := by rw [hread]; rfl
  have hver : row.version = input.before.version := by rw [hread]; rfl
  have hsame : input.after.referenceValues = input.before.referenceValues := by
    rw [LeadRow.referenceValues, hafter]
    rfl
  have hprogram : input.after.program = row.program := by rw [hafter, hread]; rfl
  have hlevel : input.after.educationLevel = row.educationLevel := by rw [hafter, hread]; rfl
  have hrow : db.lead input.before.id = some row := hid ▸ h.lead
  obtain ⟨allow, hallow⟩ := allowed_of_complete hrow hver hprogram hlevel h.complete
  rw [persistMutationInTransaction]
  refine succeeds_bind hallow (succeeds_bind (a := input.before.referenceValues) ?_ ?_)
  · rw [hsame, References.validateLeadReferences_self]
  refine succeeds_bind (a := ()) ?_ (succeeds_bind (updateLeadVersion_of_found hrow hver) ?_)
  · rw [assertNoContactCollision, if_neg (by rw [hop]; decide)]
    rfl
  refine succeeds_bind_of (addActivities_of_fresh hfresh h.fresh) ?_
  rintro _ ⟨activities, rfl⟩
  have htypes : input.activities.map LeadActivityRecord.type = [] ∨
      input.activities.map LeadActivityRecord.type = [.COMMENT] := by
    rcases hfresh with hnil | ⟨a, hone, htype, -⟩
    · rw [hnil]
      exact .inl rfl
    · rw [hone, List.map_singleton, htype]
      exact .inr rfl
  have hafterId : input.after.id = row.id := by rw [hafter, hread]; rfl
  refine succeeds_then (relations_of_recordable hop hassign htypes ?_ ?_ ?_ h.reference
    (fun x hx hk => h.fresh (.inl ⟨x, hx, hk⟩)) h.audit
    (fun e he hk => h.fresh (.inr (.inr ⟨e, he, hk⟩))) h.outboxId) fun _ => ⟨_, rfl⟩
  · refine Option.isSome_iff_exists.mp ?_
    have hfound : db.leads.findUnique (.id row.id) = some row := h.lead
    rw [Database.lead, hafterId, Table.findUnique_updateMany, hfound]
    rfl
  · rw [hafterId]
    exact h.leadId
  · have := h.version
    rwa [hver] at this

/-! ### The answer -/

/-- **A decision that can be recorded is answered**, when nothing fails around it. -/
theorem answer_of_recordable {r : ApiMutation LeadCollaborationRequestRow} {c : Circumstances}
    {s : Process} {result : LeadCollaborationRequestRow} {memory : LeadMemory} {after : LeadRecord}
    {row : LeadRow} (hfaults : c.faults = {}) (hop : r.operation = .COLLABORATION_DECISION)
    (heff : r.atomicEffect = fun _ => pure) (hassign : r.assignmentAudit = none)
    (hfinish : r.finish = fun result _ => pure result)
    (hactor : requireAuditActor r.auditActor = .ok ()) (hlead : r.leadId = row.id)
    (hmutate : r.mutate (s.memory.refresh s.db) = .ok (result, memory))
    (hafter : memory.leads.get r.leadId = some after)
    (huntouched : Untouched (mapStoredLead s.db row) after)
    (hfresh : Fresh s.db (newActivities (s.memory.refresh s.db) memory r.leadId))
    (h : Recordable rt s.db row r.idempotencyKey c.toOccasion) :
    ∃ s', persistApiMutation rt r c s = (.ok result, s') := by
  have hbefore : (s.memory.refresh s.db).requireLead r.leadId = .ok (mapStoredLead s.db row) := by
    rw [LeadMemory.requireLead, refresh_lead, hlead, h.lead]
    rfl
  have hnone : s.db.leadMutationReceipts.findUnique r.idempotencyKey = none := by
    refine Table.findUnique_eq_none.mpr fun x hx hk => h.fresh (.inl ⟨x, hx, ?_⟩)
    exact (List.mem_singleton.mp hk).symm
  have hkept : Untouched (mapStoredLead s.db row)
      { after with version := (mapStoredLead s.db row).version } := by
    rw [Untouched] at huntouched ⊢
    rw [huntouched]
  obtain ⟨⟨stored, db'⟩, hwritten⟩ := @written_of_recordable rt s.db (r.stored rt
    (mapStoredLead s.db row) after (s.memory.refresh s.db) memory) _ _ hop hassign rfl hkept hfresh h
  have hpersist : r.persist rt c s.db (r.stored rt (mapStoredLead s.db row) after
      (s.memory.refresh s.db) memory) result = .ok db' := by
    rw [ApiMutation.persist, hfaults, heff]
    refine bind_ok_iff.mpr ⟨(), rfl, bind_ok_iff.mpr ⟨(stored, db'), ?_, rfl⟩⟩
    refine bind_ok_iff.mpr ⟨(), hactor, ?_⟩
    simp only [ApiMutation.stored, hnone]
    exact bind_ok_iff.mpr ⟨(stored, db'), hwritten, rfl⟩
  refine ⟨⟨db', memory.refresh db'⟩, ?_⟩
  simp only [persistApiMutation, Process.refresh, hfaults, hbefore, hmutate, hafter,
    ApiMutation.commit, hpersist, hfinish, Bool.false_eq_true, if_false]
  rfl

end CrmYnov.Collaboration
