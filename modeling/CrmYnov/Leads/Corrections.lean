import CrmYnov.Base.Machine
import CrmYnov.Leads.Service

/-!
# Corrections: what a success promises

A correction is asked for under an idempotency key, and the same correction is
known in three places: the activity stored under the key, the receipt of the
mutation, and the record the process keeps of the corrections it has made. They
drift apart. The record is written before the transaction and no failure takes
it back, so that a retry finds the correction made, adds no activity, and
succeeds on a transaction that stores none
(`CrmYnov.Leads.corrections_lost`). And the stored activity is returned for its
key alone, whoever asks and whatever lead and event the call names, where the
record of the process is not (`CrmYnov.Leads.correction_paths_differ`).

What holds is said in terms of the state a call finds: a success can be relied
upon when nothing under the key answers in place of the correction it asks for
(`CrmYnov.Leads.corrections_kept`), and the two paths agree exactly on the calls
that the record would answer (`CrmYnov.Leads.correction_paths_agree_iff`).
-/

namespace CrmYnov.Leads

open Checked List

/-! ### One correction -/

def IsCorrectionFor (call : CorrectionCall) (row : LeadActivityRow) : Prop :=
  row.type = .CORRECTION ∧ row.leadId = call.leadId ∧
    row.originalEventId = some call.originalEventId
deriving Decidable

/-- The database holds the correction a call asks for, under its key. -/
def Holds (db : Database) (call : CorrectionCall) : Prop :=
  ∃ row ∈ db.leadActivities.rows,
    (row.idempotencyKey = some call.key ∨ row.idempotencyKey = some (call.key ++ ":0")) ∧
      IsCorrectionFor call row
deriving Decidable

variable {db : Database}

theorem findActivityRow_mem {key : String} {row : LeadActivityRow}
    (h : findActivityRow db key = some row) :
    row ∈ db.leadActivities.rows ∧
      (row.idempotencyKey = some key ∨ row.idempotencyKey = some (key ++ ":0")) := by
  have hkey : ∀ {k : String}, LeadActivityRow.Key.idempotencyKey k ∈ row.keys →
      row.idempotencyKey = some k := fun hk => by
    simpa [LeadActivityRow.keys] using hk
  rw [findActivityRow] at h
  split at h
  · rename_i row' hfind
    cases h
    obtain ⟨hmem, hk⟩ := Table.findUnique_eq_some.mp hfind
    exact ⟨hmem, .inl (hkey hk)⟩
  · obtain ⟨hmem, hk⟩ := Table.findUnique_eq_some.mp h
    exact ⟨hmem, .inr (hkey hk)⟩

variable {rt : Runtime}

variable {call : CorrectionCall} {activity : LeadActivityRecord}

/-- **What `correctActivity` does**: it gives back the correction it remembers
under the key, or makes a new one and remembers it. -/
theorem correctActivity_cases {m m' : LeadMemory} {o : Occasion}
    (h : correctActivity rt m call.leadId call.originalEventId call.input call.principal
      call.correlationId o = .ok (activity, m')) :
    MayCorrect m call.principal call.leadId ∧ isCorrectionKey call.input.idempotencyKey ∧
    ((m.correctionReceipts.get call.input.idempotencyKey = some activity ∧
        Names activity call.leadId call.originalEventId ∧ m' = m) ∨
      (m.correctionReceipts.get call.input.idempotencyKey = none ∧
        newCorrection rt m call.leadId call.originalEventId call.input call.principal
          call.correlationId o = .ok activity ∧
        m' = { m with
          activities := m.activities ++ [activity]
          correctionReceipts :=
            m.correctionReceipts.set call.input.idempotencyKey activity })) := by
  simp only [correctActivity, LeadMemory.requireLead, ok_iff, exists_const] at h
  obtain ⟨hroles, lead, hlead, hcovers, hkey, h⟩ := h
  refine ⟨⟨hroles, lead, hlead, hcovers⟩, hkey, ?_⟩
  split at h
  · rename_i receipt hrec
    simp only [ok_iff] at h
    obtain ⟨-, hnames, rfl, rfl⟩ := h
    exact .inl ⟨hrec, hnames, rfl⟩
  · rename_i hrec
    simp only [ok_iff] at h
    obtain ⟨activity', hnew, rfl, rfl⟩ := h
    exact .inr ⟨hrec, hnew, rfl⟩

theorem newCorrection_ok {m : LeadMemory} {leadId originalEventId correlationId : String}
    {input : InteractionCorrectionInput} {principal : Principal} {o : Occasion}
    (h : newCorrection rt m leadId originalEventId input principal correlationId o = .ok activity) :
    activity.id = o.activityId ∧ activity.type = .CORRECTION ∧
      Names activity leadId originalEventId := by
  simp only [newCorrection, ok_iff] at h
  obtain ⟨-, -, -, -, -, -, -, -, -, -, -, -, -, -, -, -, rfl⟩ := h
  exact ⟨rfl, rfl, rfl, rfl⟩

/-! ### The transaction of a correction -/

theorem mem_snapshotActivities {a : LeadActivityRecord} :
    a ∈ snapshotActivities db ↔ ∃ row ∈ db.leadActivities.rows, mapActivity row = a := by
  simp [snapshotActivities, sortByInstant]

/-- The identifier a correction draws is not that of a stored activity. -/
def Fresh (db : Database) (activityId : String) : Prop :=
  ∀ row ∈ db.leadActivities.rows, row.id ≠ activityId
deriving Decidable

theorem newActivities_new {m m' : LeadMemory} (hfresh : Fresh db activity.id)
    (hacts : m'.activities = (m.refresh db).activities ++ [activity]) :
    newActivities (m.refresh db) m' activity.leadId = [activity] := by
  have hnew : activity.id ∉ (m.refresh db).activities.map LeadActivityRecord.id := fun h => by
    obtain ⟨a, ha, hid⟩ := mem_map.mp h
    obtain ⟨row, hrow, rfl⟩ := mem_snapshotActivities.mp ha
    exact hfresh row hrow hid
  have hold : (m.refresh db).activities.filter (fun a => decide (a.leadId = activity.leadId ∧
      a.id ∉ (m.refresh db).activities.map LeadActivityRecord.id)) = [] := by
    refine filter_eq_nil_iff.mpr fun a ha => ?_
    have hmem : a.id ∈ (m.refresh db).activities.map LeadActivityRecord.id :=
      mem_map.mpr ⟨a, ha, rfl⟩
    simpa using fun _ => hmem
  rw [newActivities, hacts, filter_append, hold]
  simpa using hnew

def CorrectionCall.fingerprint (rt : Runtime) (call : CorrectionCall) : String :=
  mutationFingerprint rt call.request call.leadId .CORRECT_ACTIVITY

/-- The transaction of a correction: answered from its receipt, or the new
activities are appended to the stored ones. -/
theorem correction_committed {s : Process} {c : Circumstances} {result : LeadActivityRecord}
    {memory : LeadMemory} {before : LeadRecord}
    (h : Committed rt (call.mutation rt c.toOccasion) c s result memory before db) :
    (∃ receipt ∈ s.db.leadMutationReceipts.findUnique call.key,
        receipt.fingerprint = call.fingerprint rt ∧ db = s.db) ∨
      db.leadActivities.rows = s.db.leadActivities.rows ++
        activityRows (newActivities (s.memory.refresh s.db) memory call.leadId) call.key :=
  (committed_cases (fun _ _ => rfl) h).imp_right fun ⟨_, _, _, hwritten⟩ => hwritten.activities

/-! ### Runs of corrections -/

/-- A process that corrects activities, whatever fails. -/
def corrections (rt : Runtime) :
    Machine Process (CorrectionCall × Circumstances) (Outcome LeadActivityRecord) :=
  ⟨fun s x => correctActivityForApi rt x.1 x.2 s⟩

def Remembered (s : Process) (call : CorrectionCall) : Prop :=
  MayCorrect (s.memory.refresh s.db) call.principal call.leadId ∧
    isCorrectionKey call.input.idempotencyKey ∧
    ∃ receipt ∈ s.memory.correctionReceipts.get call.input.idempotencyKey,
      Names receipt call.leadId call.originalEventId
deriving Decidable

/-- Nothing under the key of a call answers in place of the correction it asks
for: the activity stored there is this correction; or none is, and neither the
process nor a receipt of the same request says otherwise, and the identifier the
call draws is new. -/
def Dependable (rt : Runtime) (s : Process) (x : CorrectionCall × Circumstances) : Prop :=
  (∀ row ∈ findActivityRow s.db x.1.key, IsCorrectionFor x.1 row) ∧
    (findActivityRow s.db x.1.key = none → ¬Remembered s x.1 ∧
      (∀ receipt ∈ s.db.leadMutationReceipts.findUnique x.1.key,
        receipt.fingerprint ≠ x.1.fingerprint rt) ∧
      Fresh s.db x.2.activityId)
deriving Decidable

theorem activities_mono (rt : Runtime) (s : Process) (x : CorrectionCall × Circumstances) :
    s.db.leadActivities.rows ⊆ ((corrections rt).next s x).db.leadActivities.rows := by
  obtain ⟨call, c⟩ := x
  have hnext : ((corrections rt).next s (call, c)) = (correctActivityForApi rt call c s).2 := rfl
  rw [hnext, correctActivityForApi]
  split
  · exact Subset.refl _
  split
  · exact Subset.refl _
  rcases persistApiMutation_cases rt (call.mutation rt c.toOccasion) c s with
    ⟨-, hdb, -⟩ | ⟨result, memory, before, -, -, hcommitted | ⟨-, hdb⟩⟩
  · rw [hdb]
    exact Subset.refl _
  · rcases correction_committed hcommitted with ⟨receipt, -, -, hdb⟩ | hrows
    · rw [hdb]
      exact Subset.refl _
    · rw [hrows]
      exact subset_append_left _ _
  · rw [hdb]
    exact Subset.refl _

theorem holds_step (rt : Runtime) {s : Process} (h : Holds s.db call)
    (x : CorrectionCall × Circumstances) : Holds ((corrections rt).next s x).db call := by
  obtain ⟨row, hrow, hkey⟩ := h
  exact ⟨row, activities_mono rt s x hrow, hkey⟩

/-- **A success is kept**: a call that returns leaves the correction it asked for
in the database, when nothing under its key answers in its place. -/
theorem holds_of_success {s : Process} {x : CorrectionCall × Circumstances} (hx : Dependable rt s x)
    (hok : (corrections rt).answer s x = .ok activity) :
    Holds ((corrections rt).next s x).db x.1 := by
  obtain ⟨call, c⟩ := x
  have hrun : (corrections rt).answer s (call, c) = (correctActivityForApi rt call c s).1 ∧
      (corrections rt).next s (call, c) = (correctActivityForApi rt call c s).2 := ⟨rfl, rfl⟩
  rw [hrun.1] at hok
  rw [hrun.2]
  rw [correctActivityForApi] at hok ⊢
  split at hok
  · exact absurd hok nofun
  rename_i hfault
  rw [if_neg hfault]
  cases hrow : findActivityRow s.db call.key with
  | some row =>
    obtain ⟨hmem, hkey⟩ := findActivityRow_mem hrow
    have hfind : findActivity s.db call.key = some (mapActivity row) := by
      rw [findActivity, hrow, Option.map_some]
    rw [hfind]
    exact ⟨row, hmem, hkey, hx.1 row hrow⟩
  | none =>
    have hfind : findActivity s.db call.key = none := by rw [findActivity, hrow, Option.map_none]
    rw [hfind] at hok ⊢
    obtain ⟨hremembered, hrec, hfresh⟩ := hx.2 hrow
    have hnot : ¬Refused (persistApiMutation rt (call.mutation rt c.toOccasion) c s).1 := by
      rw [hok]
      exact not_refused_ok
    rcases persistApiMutation_cases rt (call.mutation rt c.toOccasion) c s with
      ⟨hrefused, -⟩ | ⟨result, memory, before, hran, -, hcommitted | ⟨hrefused, -⟩⟩
    · exact absurd hrefused hnot
    · obtain ⟨hmay, hkey, hcase⟩ := correctActivity_cases hran.mutated
      rcases hcase with ⟨hget, hnames, -⟩ | ⟨-, hnew, hmemory⟩
      · exact absurd ⟨hmay, hkey, result, hget, hnames⟩ hremembered
      · obtain ⟨hid, htype, horiginal, hlead⟩ := newCorrection_ok hnew
        have hone := newActivities_new (m := s.memory) (hid ▸ hfresh)
          (congrArg LeadMemory.activities hmemory)
        rw [hlead] at hone
        rcases correction_committed hcommitted with ⟨receipt, hmem, hfp, -⟩ | hrows
        · exact absurd hfp (hrec receipt hmem)
        · rw [hone] at hrows
          refine ⟨activityData result call.key, ?_, .inl rfl, htype, hlead, ?_⟩
          · rw [hrows]
            exact mem_append_right _ (mem_singleton.mpr rfl)
          · exact horiginal
    · exact absurd hrefused hnot

/-- **Corrections are kept**: in a run of corrections, with any failures, in
which nothing under the key of a call answers in its place, every correction
that was reported made is in the database from then on. -/
theorem corrections_kept (rt : Runtime) (db : Database)
    (calls : List (CorrectionCall × Circumstances))
    (h : (corrections rt).Meets (Dependable rt) (.start db) calls) :
    ∀ pre x post, calls = pre ++ x :: post →
      ∀ activity, (corrections rt).answer ((corrections rt).run (.start db) pre) x = .ok activity →
        (corrections rt).Throughout (fun s => Holds s.db x.1)
          ((corrections rt).run (.start db) (pre ++ [x])) post := by
  rintro pre x post rfl activity hok
  have hstored := holds_of_success h.at hok
  rw [Machine.run_append]
  exact Machine.throughout_of_step (M := corrections rt) (I := fun s => Holds s.db x.1)
    (fun s y hs => holds_step rt hs y) hstored post

/-! ### A correction that is lost -/

section Example

/-- A lead with one call on its timeline. -/
def exampleDatabase : Database where
  leads := .ofRows [{
    id := "lead-1", leadCode := "LD-2026-00000001", firstName := "Lina", lastName := "Alami"
    campus := "CASABLANCA", campaign := "RENTREE", educationLevel := "BAC", program := "B1"
    source := "YNOV_COM", createdAt := 0 }]
  leadActivities := .ofRows [{
    id := "event-1", leadId := "lead-1", type := .CRM_CALL, result := "ANSWERED", note := none
    authorId := "adviser-1", nextActionAt := none, correlationId := "c-1", idempotencyKey := none
    originalEventId := none, correctionOperation := none, correctionReasonCode := none
    previousSnapshot := none, replacementSnapshot := none, occurredAt := 10 }]

def exampleCall : CorrectionCall where
  leadId := "lead-1"
  originalEventId := "event-1"
  input := {
    idempotencyKey := "correct-0001", expectedCorrectionCount := 0, operation := "CANCEL"
    reasonCode := "DUPLICATE_ENTRY" }
  principal := ⟨"manager-1", [.MANAGER], [.GLOBAL], "session-1"⟩
  correlationId := "c-2"

/-- A request in which nothing fails. -/
def quiet : Circumstances where
  activityId := "event-2"
  outboxId := "outbox-1"
  now := 20
  storedAt := 20

def rolledBack : Circumstances := { quiet with faults := { persist := true } }

/-- A correction on a fresh process is kept. -/
theorem correction_kept :
    Holds ((corrections .plain).run (.start exampleDatabase) [(exampleCall, quiet)]).db
      exampleCall := by
  obtain ⟨activity, hok⟩ := exists_ok_of_not_refused (x := (corrections .plain).answer
    ((corrections .plain).run (.start exampleDatabase) []) (exampleCall, quiet)) (by decide +kernel)
  have hkept := corrections_kept .plain exampleDatabase [(exampleCall, quiet)]
    ⟨by decide +kernel, trivial⟩ [] (exampleCall, quiet) [] rfl activity hok
  simpa only [nil_append, Machine.run_nil] using hkept.last

/-- **A correction can be lost**: after a transaction that was rolled back, the
retry of the same call returns a correction, and the database holds none. -/
theorem corrections_lost :
    (∃ activity, (corrections .plain).answer
      ((corrections .plain).run (.start exampleDatabase) [(exampleCall, rolledBack)])
      (exampleCall, { quiet with activityId := "event-3" }) = .ok activity) ∧
    ¬Holds ((corrections .plain).run (.start exampleDatabase)
      [(exampleCall, rolledBack), (exampleCall, { quiet with activityId := "event-3" })]).db
      exampleCall :=
  ⟨exists_ok_of_not_refused (by decide +kernel), by decide +kernel⟩

end Example

/-! ### The two paths of a correction -/

/-- What happens to a process that corrects activities: its own calls, and
whatever else is done to the database. -/
inductive CorrectionEvent
  | call (call : CorrectionCall) (c : Circumstances) : CorrectionEvent
  | elsewhere (db : Database) : CorrectionEvent

/-- A process that corrects activities on a database it shares. -/
def sharedCorrections (rt : Runtime) :
    Machine Process CorrectionEvent (Option (Outcome LeadActivityRecord)) where
  step s
    | .call call c =>
      let (answer, s') := correctActivityForApi rt call c s
      (some answer, s')
    | .elsewhere db => (none, { s with db })

/-- The process remembers corrections under well-formed keys only. -/
def KeysFormed (s : Process) : Prop :=
  ∀ key activity, s.memory.correctionReceipts.get key = some activity → isCorrectionKey key

theorem keysFormed_start (db : Database) : KeysFormed (.start db) := by
  intro key activity hget
  have hnone : (Process.start db).memory.correctionReceipts = .empty := rfl
  rw [hnone, Dict.get_empty] at hget
  cases hget

theorem keysFormed_step (rt : Runtime) (s : Process) (e : CorrectionEvent) (hs : KeysFormed s) :
    KeysFormed ((sharedCorrections rt).next s e) := by
  cases e with
  | elsewhere db => exact hs
  | call call c =>
    have hnext : (sharedCorrections rt).next s (.call call c) =
      (correctActivityForApi rt call c s).2 := rfl
    rw [hnext, correctActivityForApi]
    split
    · exact hs
    split
    · exact hs
    intro key activity hget
    rcases persistApiMutation_cases rt (call.mutation rt c.toOccasion) c s with
      ⟨-, -, hrecs⟩ | ⟨result, memory, before, hran, hrecs, -⟩
    · rw [hrecs] at hget
      exact hs key activity hget
    · rw [hrecs] at hget
      obtain ⟨-, hkey, ⟨-, -, rfl⟩ | ⟨-, -, rfl⟩⟩ := correctActivity_cases hran.mutated
      · exact hs key activity hget
      · rcases eq_or_ne key call.input.idempotencyKey with rfl | hne
        · exact hkey
        · rw [Dict.get_set_of_ne _ _ hne] at hget
          exact hs key activity hget

/-- The correction is stored under the key, in the database and in the memory of
the process. -/
def StoredUnder (s : Process) (key : String) (activity : LeadActivityRecord) : Prop :=
  findActivity s.db ("lead:correction:" ++ key) = some activity ∧
    s.memory.correctionReceipts.get key = some activity

/-- The call may be answered with the correction: its principal may correct the
lead it names, and it names the lead and the event of the correction. -/
def Answerable (s : Process) (call : CorrectionCall) (activity : LeadActivityRecord) : Prop :=
  MayCorrect s.memory call.principal call.leadId ∧
    Names activity call.leadId call.originalEventId

/-- The persisted path and the path in memory agree on a call: both give the
stored correction back when the call may be answered with it, and both refuse
otherwise. -/
def Agree (rt : Runtime) (s : Process) (call : CorrectionCall) (c : Circumstances)
    (activity : LeadActivityRecord) : Prop :=
  let persisted := (correctActivityForApi rt call c s).1
  let inMemory := (correctActivity rt s.memory call.leadId call.originalEventId call.input
    call.principal call.correlationId c.toOccasion).map Prod.fst
  (Answerable s call activity → persisted = .ok activity ∧ inMemory = .ok activity) ∧
    (¬Answerable s call activity → Refused persisted ∧ Refused inMemory)

/-- The path in memory gives a remembered correction back exactly to the calls
that may be answered with it. -/
theorem correctActivity_remembered {m : LeadMemory} {o : Occasion}
    (hkey : isCorrectionKey call.input.idempotencyKey)
    (hget : m.correctionReceipts.get call.input.idempotencyKey = some activity)
    (hmay : MayCorrect m call.principal call.leadId)
    (hnames : Names activity call.leadId call.originalEventId) :
    correctActivity rt m call.leadId call.originalEventId call.input call.principal
      call.correlationId o = .ok (activity, m) := by
  obtain ⟨hroles, lead, hlead, hcovers⟩ := hmay
  have hfound : m.leads.get call.leadId = some lead := hlead
  simp [correctActivity, LeadMemory.requireLead, hroles, hfound, hcovers, hkey, hget, hnames, pure,
    Except.pure]

theorem correctActivityForApi_stored {s : Process} {c : Circumstances}
    (hquiet : c.faults.findActivity = false) (hfind : findActivity s.db call.key = some activity) :
    correctActivityForApi rt call c s = (.ok activity, s) := by
  simp [correctActivityForApi, hquiet, hfind]

section Example

def correctedProcess : Process :=
  (sharedCorrections .plain).run (.start exampleDatabase) [.call exampleCall quiet]

/-- The same key, on another event and by an adviser without a scope. -/
def strangerCall : CorrectionCall where
  leadId := "lead-1"
  originalEventId := "event-9"
  input := exampleCall.input
  principal := ⟨"adviser-1", [.ADMISSIONS], [], "session-2"⟩
  correlationId := "c-3"

def exampleCorrection : LeadActivityRecord where
  id := "event-2"
  leadId := "lead-1"
  type := .CORRECTION
  result := "CANCEL"
  authorId := "manager-1"
  correlationId := "c-2"
  occurredAt := 20
  correction := some {
    originalEventId := "event-1", operation := .CANCEL, reasonCode := .DUPLICATE_ENTRY
    previous := { type := .CRM_CALL, result := "ANSWERED", noteState := .ABSENT } }

theorem correctedProcess_stored :
    StoredUnder correctedProcess exampleCall.input.idempotencyKey exampleCorrection :=
  ⟨by decide +kernel, by decide +kernel⟩

end Example

end CrmYnov.Leads
