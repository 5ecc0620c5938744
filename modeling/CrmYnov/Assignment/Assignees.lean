import CrmYnov.Assignment.Ownership
import CrmYnov.Leads.Service

/-!
# The assignee is not a collaborator

The collaborators of a lead are those who work on it besides its assignee. The
operation on collaborators refuses the assignee; the operations that give a lead
another assignee – an assignment, a reassignment, the approval of a request –
do not look at the collaborators. So a collaborator can become the assignee and
remain a collaborator (`CrmYnov.Assignment.assignee_collaborates`), who can then
not even be removed, and the two stay apart in the runs that never give a lead to
one of its collaborators (`CrmYnov.Assignment.assignee_not_collaborator`).
-/

namespace CrmYnov.Assignment

open Checked Leads Table LeadMemory List Option

variable {rt : Runtime} {db db' : Database}

/-! ### Collaborators -/

def Collaborates (t : Table LeadCollaboratorRow LeadCollaboratorRow.keys)
    (leadId userId : String) : Prop :=
  ∃ c ∈ t.rows, c.leadId = leadId ∧ c.userId = userId ∧ c.active

theorem mem_activeCollaborators {leadId userId : String} :
    userId ∈ db.activeCollaborators leadId ↔ Collaborates db.leadCollaborators leadId userId := by
  simp only [Database.activeCollaborators, Collaborates, List.mem_map, mem_findMany]
  constructor
  · rintro ⟨c, ⟨hc, hlead, hactive⟩, rfl⟩
    exact ⟨c, hc, hlead, rfl, hactive⟩
  · rintro ⟨c, hc, hlead, rfl, hactive⟩
    exact ⟨c, ⟨hc, hlead, hactive⟩, rfl⟩

theorem collaborates_admit {t : Table LeadCollaboratorRow LeadCollaboratorRow.keys}
    {leadId userId leadId' userId' : String} :
    Collaborates (admitCollaborator leadId t userId) leadId' userId' ↔
      (leadId' = leadId ∧ userId' = userId) ∨ Collaborates t leadId' userId' := by
  rw [admitCollaborator]
  split
  · rename_i t' hcreate
    constructor
    · rintro ⟨c, hc, rfl, rfl, hactive⟩
      rcases (mem_create hcreate).mp hc with hc | rfl
      · exact .inr ⟨c, hc, rfl, rfl, hactive⟩
      · exact .inl ⟨rfl, rfl⟩
    · rintro (⟨rfl, rfl⟩ | ⟨c, hc, rfl, rfl, hactive⟩)
      · exact ⟨_, (mem_create hcreate).mpr (.inr rfl), rfl, rfl, rfl⟩
      · exact ⟨c, (mem_create hcreate).mpr (.inl hc), rfl, rfl, hactive⟩
  · rename_i hcreate
    -- the user was once a collaborator: there is a row to make active again
    obtain ⟨c₀, hc₀, hlead₀, huser₀⟩ :
        ∃ c ∈ t.rows, c.leadId = leadId ∧ c.userId = userId := by
      by_contra hnone
      have hfree : (t.create { leadId, userId, active := true }).isSome := by
        rw [create_isSome]
        intro k hk
        refine findUnique_eq_none.mpr fun c hc hkc => hnone ⟨c, hc, ?_⟩
        simp only [LeadCollaboratorRow.keys, mem_singleton] at hk hkc
        simpa [hk, eq_comm] using hkc
      rw [hcreate] at hfree
      cases hfree
    simp only [Collaborates, mem_updateMany]
    constructor
    · rintro ⟨c, ⟨c', hc', rfl⟩, rfl, rfl, hactive⟩
      split
      · rename_i hsame
        exact .inl hsame
      · rename_i hother
        rw [if_neg hother] at hactive
        exact .inr ⟨c', hc', rfl, rfl, hactive⟩
    · rintro (⟨rfl, rfl⟩ | ⟨c, hc, rfl, rfl, hactive⟩)
      · exact ⟨_, ⟨c₀, hc₀, rfl⟩, by simp [hlead₀, huser₀, LeadCollaboratorRow.admit]⟩
      · refine ⟨_, ⟨c, hc, rfl⟩, ?_⟩
        split <;> simp [hactive, LeadCollaboratorRow.admit]

/-- **Replacing the collaborators of a lead** leaves these, and those of the
other leads. -/
theorem collaborates_replace {leadId leadId' userId : String} {userIds : List String} :
    Collaborates (replaceCollaborators db leadId userIds).leadCollaborators leadId' userId ↔
      if leadId' = leadId then userId ∈ userIds
      else Collaborates db.leadCollaborators leadId' userId := by
  have hadmit : ∀ t, Collaborates (userIds.foldl (admitCollaborator leadId) t) leadId' userId ↔
      (leadId' = leadId ∧ userId ∈ userIds) ∨ Collaborates t leadId' userId := by
    induction userIds with
    | nil => simp
    | cons userId₀ userIds ih =>
      intro t
      rw [foldl_cons, ih, collaborates_admit, mem_cons]
      grind
  rw [replaceCollaborators, hadmit]
  have hkept : Collaborates (db.leadCollaborators.updateMany
      (fun c => c.leadId = leadId ∧ c.active ∧ c.userId ∉ userIds)
      LeadCollaboratorRow.withdraw LeadCollaboratorRow.keys_withdraw) leadId' userId ↔
      Collaborates db.leadCollaborators leadId' userId ∧
        (leadId' = leadId → userId ∈ userIds) := by
    simp only [Collaborates, mem_updateMany]
    constructor
    · rintro ⟨c, ⟨c', hc', rfl⟩, rfl, rfl, hactive⟩
      split at hactive
      · simp [LeadCollaboratorRow.withdraw] at hactive
      · rename_i hkeep
        rw [if_neg hkeep]
        exact ⟨⟨c', hc', rfl, rfl, hactive⟩, fun hlead => by
          by_contra hnot
          exact hkeep ⟨hlead, hactive, hnot⟩⟩
    · rintro ⟨⟨c, hc, rfl, rfl, hactive⟩, hkeep⟩
      refine ⟨_, ⟨c, hc, rfl⟩, ?_⟩
      rw [if_neg fun hwithdrawn => hwithdrawn.2.2 (hkeep hwithdrawn.1)]
      exact ⟨rfl, rfl, hactive⟩
  rw [hkept]
  by_cases hlead : leadId' = leadId
  · simp only [hlead, true_and, if_true, true_imp_iff]
    exact ⟨fun h => h.elim id And.right, Or.inl⟩
  · simp [hlead]

/-! ### What the operations of the lead service do -/

/-- **The two are apart**: the assignee of a lead is none of its active
collaborators. -/
def Apart (leadId : String) (db : Database) : Prop :=
  ∀ userId, owner db leadId = some (some userId) → userId ∉ db.activeCollaborators leadId

/-- The owners a mutation leaves: the lead it is about has the assignee the
mutation gave it, and the others keep theirs. -/
theorem written_owner {input : PersistMutationInput} {references : References.LeadReferenceValues}
    {row : LeadRow} (h : Written db input references db') (hlead : db.lead input.before.id = some row)
    (hread : row.read = input.before.toLeadRow) (leadId : String) :
    owner db' leadId =
      if leadId = input.before.id then some input.after.assignedToId else owner db leadId := by
  rw [owner, owner, Database.lead, h.leads, findUnique_updateMany, ← Database.lead]
  by_cases hid : leadId = input.before.id
  · have hver : AtVersion input.before.toLeadRow row := by
      rw [← hread]
      exact ⟨rfl, rfl⟩
    rw [if_pos hid, hid, hlead, map_some, if_pos hver]
    rfl
  · rw [if_neg hid]
    cases hfind : db.lead leadId with
    | none => rfl
    | some l =>
      obtain ⟨-, rfl⟩ := Database.lead_eq_some.mp hfind
      have hother : ¬AtVersion input.before.toLeadRow l := fun hat => hid hat.1
      rw [map_some, if_neg hother]

/-- The collaborators a mutation leaves: those it changed when this is what it
is for, and the same otherwise. -/
theorem written_collaborates {input : PersistMutationInput}
    {references : References.LeadReferenceValues} (h : Written db input references db')
    (leadId userId : String) :
    Collaborates db'.leadCollaborators leadId userId ↔
      if input.operation = .COLLABORATOR ∧ leadId = input.after.id
      then userId ∈ input.after.collaboratorIds
      else Collaborates db.leadCollaborators leadId userId := by
  rw [h.collaborators]
  by_cases hop : input.operation = .COLLABORATOR
  · simp only [hop, if_true, true_and]
    exact collaborates_replace
  · simp [hop]

/-- The mutation changes the lead it is about, in a given way, and nothing else of
the leads in memory. -/
def Changes (r : ApiMutation LeadRecord) (change : LeadRecord → LeadRecord → Prop) : Prop :=
  ∀ m result m', r.mutate m = .ok (result, m') →
    ∃ current activity, m.leads.get r.leadId = some current ∧ result.id = current.id ∧
      change current result ∧ m' = m.record result activity

variable {r : ApiMutation LeadRecord} {s : Process}

/-- **What a mutation of the lead service leaves**: nothing changed, or the lead it
is about has the assignee the mutation gave it, and the collaborators when these
are what it is for; all else is as before. -/
theorem mutation_cases {change : LeadRecord → LeadRecord → Prop} {c : Circumstances}
    (heff : ∀ result db, r.atomicEffect result db = pure db) (hchanges : Changes r change) :
    (persistApiMutation rt r c s).2.db = s.db ∨
    ∃ row result, s.db.lead r.leadId = some row ∧ change (mapStoredLead s.db row) result ∧
      (∀ leadId, owner (persistApiMutation rt r c s).2.db leadId =
        if leadId = r.leadId then some result.assignedToId else owner s.db leadId) ∧
      ∀ leadId userId, userId ∈ (persistApiMutation rt r c s).2.db.activeCollaborators leadId ↔
        if r.operation = .COLLABORATOR ∧ leadId = r.leadId then userId ∈ result.collaboratorIds
        else userId ∈ s.db.activeCollaborators leadId := by
  rcases persistApiMutation_cases rt r c s with
    ⟨-, hdb, -⟩ | ⟨result, memory, before, hran, -, hcommitted | ⟨-, hdb⟩⟩
  · exact .inl hdb
  · rcases committed_cases heff hcommitted with
      ⟨-, -, -, hdb⟩ | ⟨after, references, hafter, hwritten⟩
    · exact .inl hdb
    · obtain ⟨current, activity, hcur, hresult, hchange, rfl⟩ := hchanges _ _ _ hran.mutated
      obtain rfl := mem_unique hcur hran.found
      rw [refresh_lead, map_eq_some_iff] at hcur
      obtain ⟨row, hrow, rfl⟩ := hcur
      obtain ⟨-, hid⟩ := Database.lead_eq_some.mp hrow
      -- the lead read back from memory is the one the mutation recorded there
      obtain rfl : after = result := by
        have hkey : result.id = r.leadId := hresult.trans hid
        rw [record, hkey, Dict.get_set_self] at hafter
        exact (some.inj hafter).symm
      refine .inr ⟨row, after, hrow, hchange, fun leadId => ?_, fun leadId userId => ?_⟩
      · have howner := written_owner hwritten (hid ▸ hrow) (Eq.refl row.read) leadId
        simpa [ApiMutation.stored, mapStoredLead, hid] using howner
      · have hcollaborates := written_collaborates hwritten leadId userId
        have hafterId : after.id = r.leadId := hresult.trans hid
        simpa [ApiMutation.stored, hafterId, mem_activeCollaborators] using hcollaborates
  · exact .inl hdb

/-! ### The operations on owners and collaborators -/

/-- A call of the lead service or of the reassignment service, with what happens
around it. -/
inductive OwnershipCall
  | assign (leadId assignedToId : String) (principal : Principal)
    (correlationId reason assignmentMode : String) (audit : Option AssignmentAudit)
    (c : Circumstances) : OwnershipCall
  | reassign (leadId expectedOwnerId targetUserId : String) (principal : Principal)
    (correlationId reason : String) (c : Circumstances) : OwnershipCall
  | collaborate (leadId targetUserId : String) (action : CollaboratorAction) (role : String)
    (principal : Principal) (correlationId : String) (c : Circumstances) : OwnershipCall
  /-- A call of the reassignment service; after an approval it reads the lead
  again, which may fail. -/
  | reassignment (call : ReassignmentCall) (readFault : Bool) : OwnershipCall

/-- The reassignment service reads the lead after an approval. -/
def ReassignmentCall.reads : ReassignmentCall → Bool
  | .request .. => false
  | .decide _ input .. => input.approved

variable (rt) in
def reassignmentForApi (call : ReassignmentCall) (readFault : Bool) (s : Process) :
    Outcome Unit × Process :=
  match transact rt s.db call with
  | .error e => (.error e, s)
  | .ok (_, db) =>
    let s := { s with db }
    if call.reads then
      match s.refresh readFault with
      | .error e => (.error e, s)
      | .ok s => (.ok (), s)
    else (.ok (), s)

variable (rt) in
/-- A process in which leads are assigned, reassigned and shared. -/
def assignments : Machine Process OwnershipCall (Outcome Unit) where
  step s call := match call with
    | .assign leadId assignedToId principal correlationId reason assignmentMode audit c =>
      (assignLocalLeadForApi rt leadId assignedToId principal correlationId reason assignmentMode
        audit c s).map (fun answer => answer.map fun _ => ()) id
    | .reassign leadId expectedOwnerId targetUserId principal correlationId reason c =>
      (reassignLocalLeadForApi rt leadId expectedOwnerId targetUserId principal correlationId reason
        c s).map (fun answer => answer.map fun _ => ()) id
    | .collaborate leadId targetUserId action role principal correlationId c =>
      (applyCollaboratorForApi rt leadId targetUserId action role principal correlationId c s).map
        (fun answer => answer.map fun _ => ()) id
    | .reassignment call readFault => reassignmentForApi rt call readFault s

/-- The call does not give a lead to one of its collaborators. -/
def Spares (leadId : String) (s : Process) : OwnershipCall → Prop
  | .assign leadId' assignedToId .. =>
    leadId' = leadId → assignedToId ∉ s.db.activeCollaborators leadId
  | .reassign leadId' _ targetUserId .. =>
    leadId' = leadId → targetUserId ∉ s.db.activeCollaborators leadId
  | .collaborate .. => True
  | .reassignment (.request ..) _ => True
  | .reassignment (.decide requestId input ..) _ =>
    input.approved → ∀ r ∈ request? s.db requestId, r.leadId = leadId →
      r.targetUserId ∉ s.db.activeCollaborators leadId

/-- What an operation that gives a lead to a user does to it. -/
def Given (userId : String) (_current result : LeadRecord) : Prop :=
  result.assignedToId = some userId

/-- What an operation on a collaborator does to a lead: its assignee stays, and
is not the user added. -/
def Shared (userId : String) (current result : LeadRecord) : Prop :=
  result.assignedToId = current.assignedToId ∧ current.assignedToId ≠ some userId ∧
    ∀ u ∈ result.collaboratorIds, u ∈ current.collaboratorIds ∨ u = userId

variable {principal : Principal} {result : LeadRecord}

variable {m m' : LeadMemory}

theorem assignLocalLead_ok
    {leadId assignedToId correlationId reason assignmentMode : String} {o : Occasion}
    (h : assignLocalLead m leadId assignedToId principal correlationId reason assignmentMode o =
      .ok (result, m')) :
    ∃ current activity, m.leads.get leadId = some current ∧ result.id = current.id ∧
      Given assignedToId current result ∧ m' = m.record result activity := by
  simp only [assignLocalLead, requireLead, ok_iff] at h
  obtain ⟨-, -, current, hcur, -, -, rfl, rfl⟩ := h
  exact ⟨current, _, hcur, rfl, rfl, rfl⟩

theorem reassignLocalLead_ok
    {leadId expectedOwnerId targetUserId correlationId reason : String} {o : Occasion}
    (h : reassignLocalLead m leadId expectedOwnerId targetUserId principal correlationId reason o =
      .ok (result, m')) :
    ∃ current activity, m.leads.get leadId = some current ∧ result.id = current.id ∧
      Given targetUserId current result ∧ m' = m.record result activity := by
  simp only [reassignLocalLead, requireLead, ok_iff] at h
  obtain ⟨-, -, current, hcur, -, -, -, -, rfl, rfl⟩ := h
  exact ⟨current, _, hcur, rfl, rfl, rfl⟩

theorem applyCollaborator_ok {leadId targetUserId role correlationId : String}
    {action : CollaboratorAction} {o : Occasion}
    (h : applyCollaborator m leadId targetUserId action role principal correlationId o =
      .ok (result, m')) :
    ∃ current activity, m.leads.get leadId = some current ∧ result.id = current.id ∧
      Shared targetUserId current result ∧ m' = m.record result activity := by
  simp only [applyCollaborator, requireLead, ok_iff] at h
  obtain ⟨-, -, current, hcur, -, hprotected, -, -, rfl, rfl⟩ := h
  refine ⟨current, _, hcur, rfl, ⟨rfl, hprotected, fun u hu => ?_⟩, rfl⟩
  rw [sortTexts, mem_insertionSort] at hu
  cases action with
  | ADD => simpa [CollaboratorAction.apply, mem_dedup] using hu
  | REMOVE =>
    have hmem : u ∈ current.collaboratorIds ∧ u ≠ targetUserId := by
      simpa [CollaboratorAction.apply, mem_dedup] using hu
    exact .inl hmem.1

/-! ### The assignee and the collaborators -/

/-- An operation that gives a lead to a user keeps the two apart, when the user
is no collaborator. -/
theorem apart_of_given {c : Circumstances} {userId leadId : String}
    (heff : ∀ result db, r.atomicEffect result db = pure db)
    (hop : r.operation ≠ .COLLABORATOR) (hchanges : Changes r (Given userId))
    (hspares : r.leadId = leadId → userId ∉ s.db.activeCollaborators leadId) (h : Apart leadId s.db) :
    Apart leadId (persistApiMutation rt r c s).2.db := by
  rcases @mutation_cases rt r s _ c heff hchanges with
    hdb | ⟨row, result, -, hgiven, howner, hcollaborates⟩
  · rwa [hdb]
  · intro u hu
    rw [hcollaborates, if_neg fun hc => hop hc.1]
    rw [howner] at hu
    split at hu
    · rename_i hid
      rw [hgiven] at hu
      obtain rfl : userId = u := by simpa using hu
      exact hspares hid.symm
    · exact h u hu

theorem apart_of_shared {c : Circumstances} {userId leadId : String}
    (heff : ∀ result db, r.atomicEffect result db = pure db)
    (hchanges : Changes r (Shared userId)) (h : Apart leadId s.db) :
    Apart leadId (persistApiMutation rt r c s).2.db := by
  rcases @mutation_cases rt r s _ c heff hchanges with
    hdb | ⟨row, result, hrow, ⟨hsame, hprotected, hsub⟩, howner, hcollaborates⟩
  · rwa [hdb]
  · intro u hu
    rw [hcollaborates]
    rw [howner] at hu
    by_cases hid : leadId = r.leadId
    · subst hid
      rw [if_pos rfl] at hu
      have hcur : row.assignedToId = some u := hsame.symm.trans (some.inj hu)
      have hapart : u ∉ s.db.activeCollaborators r.leadId :=
        h u (by rw [owner, hrow, map_some, hcur])
      split
      · -- a collaborator after the operation was one before, or is the user added
        intro hmem
        rcases hsub u hmem with hold | rfl
        · obtain ⟨-, hid⟩ := Database.lead_eq_some.mp hrow
          rw [mapStoredLead, sortTexts, mem_insertionSort, hid] at hold
          exact hapart hold
        · exact hprotected hcur
      · exact hapart
    · rw [if_neg hid] at hu
      rw [if_neg fun hc => hid hc.2]
      exact h u hu

theorem apart_of_reassignment {call : ReassignmentCall} {readFault : Bool} {leadId : String}
    (hspares : Spares leadId s (.reassignment call readFault)) (h : Apart leadId s.db) :
    Apart leadId (reassignmentForApi rt call readFault s).2.db := by
  rw [reassignmentForApi]
  split
  · exact h
  · rename_i row db' htransact
    have hdb : Apart leadId db' := by
      cases call with
      | request leadId' input correlationId auth d =>
        obtain rfl | hrequested := requestForApi_cases htransact
        · exact h
        · intro u hu
          rw [hrequested.owner_eq] at hu
          rw [Database.activeCollaborators, hrequested.collaborators]
          exact h u hu
      | decide requestId input correlationId auth d =>
        obtain rfl | ⟨row, decidedBy, now, hdecided, hid⟩ := decideForApi_cases htransact
        · exact h
        · intro u hu
          rw [hdecided.owner_eq] at hu
          rw [Database.activeCollaborators, hdecided.collaborators]
          split at hu
          · rename_i happroved
            obtain rfl : row.targetUserId = u := by simpa using hu
            exact hspares happroved.2 row hid happroved.1.symm
          · exact h u hu
    dsimp only
    split
    · split
      · exact hdb
      · rename_i s' hrefresh
        obtain ⟨-, rfl⟩ := refresh_ok_iff.mp hrefresh
        exact hdb
    · exact hdb

/-- **One step**: a call that does not give the lead to one of its collaborators
keeps its assignee and its collaborators apart. -/
theorem apart_step {call : OwnershipCall} {leadId : String} (h : Apart leadId s.db)
    (hspares : Spares leadId s call) : Apart leadId ((assignments rt).next s call).db := by
  cases call with
  | assign leadId' assignedToId principal correlationId reason assignmentMode audit c =>
    exact apart_of_given (fun _ _ => rfl) nofun (fun _ _ _ => assignLocalLead_ok) hspares h
  | reassign leadId' expectedOwnerId targetUserId principal correlationId reason c =>
    exact apart_of_given (fun _ _ => rfl) nofun (fun _ _ _ => reassignLocalLead_ok) hspares h
  | collaborate leadId' targetUserId action role principal correlationId c =>
    exact apart_of_shared (fun _ _ => rfl) (fun _ _ _ => applyCollaborator_ok) h
  | reassignment call readFault => exact apart_of_reassignment hspares h

/-- **The assignee is not a collaborator**: from a lead without collaborators, in
any run of assignments, reassignments, requests, decisions and operations on
collaborators, with any failures, that never gives the lead to one of its
collaborators, no assignee of the lead is one of its active collaborators. -/
theorem assignee_not_collaborator (db : Database) (leadId : String)
    (hdb : db.activeCollaborators leadId = []) (calls : List OwnershipCall)
    (hspares : (assignments rt).Meets (Spares leadId) (.start db) calls) :
    (assignments rt).Throughout (fun s => Apart leadId s.db) (.start db) calls := by
  have hstart : Apart leadId (Process.start db).db := fun userId _ hmem => by
    rw [Process.start, hdb] at hmem
    exact absurd hmem not_mem_nil
  exact Machine.throughout_of_meets (I := fun s => Apart leadId s.db)
    (fun s call h hspares => apart_step h hspares) hstart hspares

/-! ### A collaborator who becomes the assignee -/

section Example

def exampleManager : Principal := ⟨"manager-1", [.MANAGER], [.GLOBAL], "session-1"⟩

def exampleUnassigned : Database where
  leads := .ofRows [{
    id := "lead-1", leadCode := "LD-2026-00000001", firstName := "Lina", lastName := "Alami"
    campus := "CASABLANCA", campaign := "RENTREE", educationLevel := "BAC", program := "B1"
    source := "YNOV_COM", createdAt := 0 }]

/-- An adviser is made a collaborator. -/
def exampleAdd : OwnershipCall :=
  .collaborate "lead-1" "adviser-1" .ADD "ADVISER" exampleManager "c-1"
    { activityId := "event-1", outboxId := "outbox-1", now := 10, storedAt := 10 }

def exampleAssign (adviser : String) : OwnershipCall :=
  .assign "lead-1" adviser exampleManager "c-2" "manual" "MANUAL_FIXED" none
    { activityId := "event-2", outboxId := "outbox-2", now := 20, storedAt := 20 }

/-- A lead shared with one adviser and assigned to another. -/
theorem assignee_apart :
    (assignments .plain).Throughout (fun s => Apart "lead-1" s.db) (.start exampleUnassigned)
      [exampleAdd, exampleAssign "adviser-2"] :=
  assignee_not_collaborator exampleUnassigned "lead-1" (by decide)
    [exampleAdd, exampleAssign "adviser-2"] ⟨trivial, fun _ => by decide +kernel, trivial⟩

/-- **A collaborator can become the assignee**: both calls succeed, and the
adviser is the assignee of the lead and one of its active collaborators. -/
theorem assignee_collaborates :
    let calls := [exampleAdd, exampleAssign "adviser-1"]
    let s := (assignments .plain).run (.start exampleUnassigned) calls
    exampleUnassigned.activeCollaborators "lead-1" = [] ∧
      (assignments .plain).trace (.start exampleUnassigned) calls = [.ok (), .ok ()] ∧
      owner s.db "lead-1" = some (some "adviser-1") ∧
      "adviser-1" ∈ s.db.activeCollaborators "lead-1" := by
  decide +kernel

end Example

end CrmYnov.Assignment
