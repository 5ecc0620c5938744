import CrmYnov.Leads.Progression

/-!
# The keys of stored activities

A request stores its activity under its key, or several under its key and their numbers; and it
looks for what it has stored under its key, or under its key and the first number. A key may end
like a number does, so the activities of two requests are kept apart exactly when neither key is
the other one with a number that one of the two stands for
(`CrmYnov.Leads.stored_apart_iff`).
-/

namespace CrmYnov.Leads

open List

/-- A request that records activities, with the key that its caller gives. -/
inductive KeyedRequest
  | activity (raw : String)
  | correction (raw : String)
  | status (raw : String)
deriving DecidableEq

namespace KeyedRequest

def raw : KeyedRequest → String
  | activity raw | correction raw | status raw => raw

/-- The key a request is known under. -/
def key (leadId : String) : KeyedRequest → String
  | activity raw => "lead:activity:" ++ leadId ++ ":" ++ raw
  | correction raw => "lead:correction:" ++ raw
  | status raw => "lead:status:" ++ leadId ++ ":" ++ raw

/-- The request whose key is that of another one, with a number. -/
def numbered (i : ℕ) : KeyedRequest → KeyedRequest
  | activity raw => activity (raw ++ ":" ++ toString i)
  | correction raw => correction (raw ++ ":" ++ toString i)
  | status raw => status (raw ++ ":" ++ toString i)

end KeyedRequest

section

variable {rt : Runtime} {leadId correlationId : String} {principal : Principal}

theorem activityMutation_key {input : ActivityInput} {o : ContactOccasion} :
    (activityMutation rt leadId input principal correlationId o).idempotencyKey =
      (KeyedRequest.activity (input.idempotencyKey.getD correlationId)).key leadId := rfl

theorem correctionCall_key {call : CorrectionCall} :
    call.key = (KeyedRequest.correction call.input.idempotencyKey).key leadId := rfl

theorem statusMutation_key {input : CommercialStatusInput} {o : Occasion} :
    (statusMutation leadId input principal correlationId o).idempotencyKey =
      (KeyedRequest.status (input.idempotencyKey.getD correlationId)).key leadId := rfl

end

/-- The keys under which the activities of a request are stored. -/
def storedKeys (activities : List LeadActivityRecord) (key : String) : List String :=
  (activityRows activities key).filterMap LeadActivityRow.idempotencyKey

/-- The keys under which the activity of a request is looked for. -/
def lookedUp (key : String) : List String := [key, key ++ ":" ++ toString 0]

variable {leadId : String} {q q' : KeyedRequest} {key : String}
  {activities activities' : List LeadActivityRecord}

/-- What is found for a key is stored under a key that is looked up. -/
theorem findActivityRow_key {db : Database} {row : LeadActivityRow}
    (h : findActivityRow db key = some row) : ∃ k ∈ lookedUp key, row.idempotencyKey = some k := by
  have hkey : ∀ {k : String}, db.leadActivities.findUnique (.idempotencyKey k) = some row →
      row.idempotencyKey = some k := by
    intro k hk
    obtain ⟨-, hmem⟩ := Table.findUnique_eq_some.mp hk
    simpa [LeadActivityRow.keys] using hmem
  rw [findActivityRow] at h
  split at h
  · rename_i hfound
    cases h
    exact ⟨key, mem_cons_self, hkey hfound⟩
  · refine ⟨key ++ ":" ++ toString 0, mem_cons_of_mem _ mem_cons_self, hkey ?_⟩
    rw [String.append_assoc]
    exact h

theorem mem_storedKeys {k : String} : k ∈ storedKeys activities key ↔
    activities.length = 1 ∧ k = key ∨
      activities.length ≠ 1 ∧ ∃ i < activities.length, k = key ++ ":" ++ toString i := by
  match activities with
  | [] => simp [storedKeys, activityRows]
  | [activity] => simp [storedKeys, activityRows, activityData]
  | a :: b :: rest =>
    rw [storedKeys, activityRows, mem_filterMap]
    · constructor
      · rintro ⟨row, hrow, hkey⟩
        obtain ⟨i, hi, rfl⟩ := mem_mapIdx.mp hrow
        exact .inr ⟨by simp, i, hi, (Option.some.inj hkey).symm⟩
      · rintro (⟨hone, -⟩ | ⟨-, i, hi, rfl⟩)
        · cases hone
        · exact ⟨_, mem_mapIdx.mpr ⟨i, hi, rfl⟩, rfl⟩
    · exact fun activity h => by cases h

/-- **The keys of two requests differ**, as the requests do. -/
theorem key_inj (h : q.key leadId = q'.key leadId) : q = q' := by
  delta KeyedRequest.key at h
  have hchars := congrArg String.toList h
  cases q <;> cases q' <;>
    simp only [String.toList_append, append_assoc, append_cancel_left_eq,
      String.toList_inj] at hchars
  case activity.activity | correction.correction | status.status => rw [hchars]
  all_goals simp at hchars

theorem key_numbered (q : KeyedRequest) (i : ℕ) :
    (q.numbered i).key leadId = q.key leadId ++ ":" ++ toString i := by
  delta KeyedRequest.key
  cases q <;> simp only [KeyedRequest.numbered, String.append_assoc]

theorem key_eq_numbered_iff {i : ℕ} :
    q.key leadId = q'.key leadId ++ ":" ++ toString i ↔ q = q'.numbered i := by
  rw [← key_numbered]
  exact ⟨key_inj, congrArg _⟩

/-- A number is taken between a key and another one: its request stores several activities, one of
them under the number, or the other request stores its only one where the first one looks. -/
def Takes (n n' i : ℕ) : Prop := n ≠ 1 ∧ i < n ∨ n' = 1 ∧ i = 0

/-- The activities of two requests are stored apart, and neither request finds what the other one
has stored. -/
def StoredApart (leadId : String) (q : KeyedRequest) (activities : List LeadActivityRecord)
    (q' : KeyedRequest) (activities' : List LeadActivityRecord) : Prop :=
  (storedKeys activities (q.key leadId)).Disjoint (storedKeys activities' (q'.key leadId)) ∧
    (lookedUp (q.key leadId)).Disjoint (storedKeys activities' (q'.key leadId)) ∧
    (lookedUp (q'.key leadId)).Disjoint (storedKeys activities (q.key leadId))

theorem StoredApart.not_numbered (h : StoredApart leadId q activities q' activities') {i : ℕ}
    (hi : Takes activities.length activities'.length i) : q' ≠ q.numbered i := by
  intro heq
  have hkey : q'.key leadId = q.key leadId ++ ":" ++ toString i := key_eq_numbered_iff.mpr heq
  rcases hi with ⟨hseveral, hlt⟩ | ⟨hone, rfl⟩
  · exact h.2.2 mem_cons_self (mem_storedKeys.mpr (.inr ⟨hseveral, i, hlt, hkey⟩))
  · exact h.2.1 (mem_cons_of_mem _ mem_cons_self)
      (mem_storedKeys.mpr (.inl ⟨hone, hkey.symm⟩))

theorem lookedUp_disjoint (hne : q ≠ q')
    (h : ∀ i, Takes activities.length activities'.length i → q' ≠ q.numbered i)
    (h' : ∀ i, Takes activities'.length activities.length i → q ≠ q'.numbered i) :
    (lookedUp (q.key leadId)).Disjoint (storedKeys activities' (q'.key leadId)) := by
  intro k hk hstored
  rcases mem_pair.mp hk with rfl | rfl
  · rcases mem_storedKeys.mp hstored with ⟨-, heq⟩ | ⟨hseveral, i, hi, heq⟩
    · exact hne (key_inj heq)
    · exact h' i (.inl ⟨hseveral, hi⟩) (key_eq_numbered_iff.mp heq)
  · rcases mem_storedKeys.mp hstored with ⟨hone, heq⟩ | ⟨-, i, -, heq⟩
    · exact h 0 (.inr ⟨hone, rfl⟩) (key_eq_numbered_iff.mp heq.symm)
    · exact hne (key_inj (Js.numbered_inj heq).1)

/-- **When the activities of two requests are kept apart**: the stored keys of two different requests
never coincide, and neither finds what the other one has stored, exactly when neither key is the
other one with a number that is taken. -/
theorem stored_apart_iff (hne : q ≠ q') :
    StoredApart leadId q activities q' activities' ↔
      (∀ i, Takes activities.length activities'.length i → q' ≠ q.numbered i) ∧
        ∀ i, Takes activities'.length activities.length i → q ≠ q'.numbered i := by
  constructor
  · intro hapart
    have hsymm : StoredApart leadId q' activities' q activities :=
      ⟨hapart.1.symm, hapart.2.2, hapart.2.1⟩
    exact ⟨fun i hi => hapart.not_numbered hi, fun i hi => hsymm.not_numbered hi⟩
  · rintro ⟨h, h'⟩
    refine ⟨fun k hk hk' => ?_, lookedUp_disjoint hne h h', lookedUp_disjoint hne.symm h' h⟩
    -- a key that stands alone is looked up, and two numbered keys come from one key
    rcases mem_storedKeys.mp hk with ⟨-, rfl⟩ | ⟨hseveral, i, hi, rfl⟩
    · exact lookedUp_disjoint hne h h' mem_cons_self hk'
    · rcases mem_storedKeys.mp hk' with ⟨-, heq⟩ | ⟨-, j, -, heq⟩
      · exact h i (.inl ⟨hseveral, hi⟩) (key_eq_numbered_iff.mp heq.symm)
      · exact hne (key_inj (Js.numbered_inj heq).1)

/-! ### A key that ends like a number -/

def sentMessage : LeadActivityRecord where
  id := "activity-1"
  leadId := "lead-1"
  type := .WHATSAPP
  result := "SENT"
  authorId := "adviser-1"
  correlationId := "correlation-1"
  occurredAt := 0

theorem stored_apart_iff_messages :
    StoredApart "lead-1" (.activity "visit-01") [sentMessage, sentMessage]
        (.activity "visit-02") [sentMessage] ↔
      (∀ i, Takes 2 1 i → .activity "visit-02" ≠ (KeyedRequest.activity "visit-01").numbered i) ∧
        ∀ i, Takes 1 2 i → .activity "visit-01" ≠ (KeyedRequest.activity "visit-02").numbered i :=
  stored_apart_iff (by decide)

/-- **A request meets the first of the two activities of another one**, whose key its own continues
with a number. -/
theorem numbered_not_apart :
    ¬∀ (leadId : String) (q q' : KeyedRequest) (activities activities' : List LeadActivityRecord),
      isActionKey q.raw → isActionKey q'.raw → q ≠ q' →
        StoredApart leadId q activities q' activities' := by
  intro h
  have hapart := h "lead-1" (.activity "visit-01") (.activity "visit-01:0")
    [sentMessage, sentMessage] [sentMessage] (by decide) (by decide) (by decide)
  exact hapart.not_numbered (i := 0) (.inl ⟨by decide, by decide⟩) (by decide)

end CrmYnov.Leads
