import CrmYnov.Base.Page
import CrmYnov.Commercial.Due

/-!
# The worker is on time

In a database where the reminders are accounted for, a run of the worker returns: a
scheduled follow-up it takes becomes due, with its event and its notification, and a
due one it takes has them and is left (`CrmYnov.Commercial.remindAll_eq`). What a run
takes is what awaits its reminder in the state it saw, so that what was delivered
before takes no place of its page, and what awaits it among the first of its page is
served, unless it was locked or decided meanwhile.

A run takes a page. When everything that awaits its reminder fits on it, a second run
at the same time finds nothing to do; when it does not, the second run takes the next
page.
-/

namespace CrmYnov.Commercial

open Checked Leads FollowUp Table LeadFollowUpRow List

variable {rt : Runtime} {db : Database}

def Awaits (db : Database) (now : Instant) (f : LeadFollowUpRow) : Prop :=
  (∃ l ∈ db.lead f.leadId, ¬l.status.Closed) ∧ f.dueAt ≤ now ∧ f.state = .SCHEDULED
deriving Decidable

/-- What awaits its reminder, in the order of the dates. -/
def awaiting (db : Database) (now : Instant) : List LeadFollowUpRow :=
  sortByInstant dueAt id (db.leadFollowUps.findMany (Awaits db now))

variable {f : LeadFollowUpRow}

theorem mem_awaiting {now : Instant} :
    f ∈ awaiting db now ↔ f ∈ db.leadFollowUps.rows ∧ Awaits db now f := by
  rw [awaiting, sortByInstant, mem_insertionSort, mem_findMany]

/-! ### What a run takes -/

theorem says_dueAudit (hdue : f.state = .DUE) (key : String) :
    SaysOccurrence (dueAudit f key) f ∧ NamesOwner (dueAudit f key) f := by
  have hstate : f.state.text = "DUE" := by rw [hdue]; rfl
  refine ⟨⟨⟨rfl, rfl, rfl, rfl, rfl, ?_⟩, rfl, rfl⟩, rfl⟩
  exact congrArg some hstate

theorem Accounted.delivered (h : Accounted rt (ofDatabase db)) (hf : f ∈ db.leadFollowUps.rows)
    (hdue : f.state = .DUE) : Delivered rt db f := by
  obtain ⟨ha, hn⟩ := h.due f hf hdue
  obtain ⟨hspeaks, hnames⟩ := says_dueAudit hdue (occurrenceKey f.id f.version)
  exact ⟨_, hn, .inl rfl, rfl, rfl, _, ha, rfl, hspeaks, .inr hnames⟩

/-- **A run sees what awaits its reminder**, and nothing that was delivered. -/
theorem Accounted.sighted_eq (h : Accounted rt (ofDatabase db)) (now : Instant) :
    sighted rt db now = awaiting db now := by
  have hfilter : db.leadFollowUps.findMany (Reminding rt db db now) =
      db.leadFollowUps.findMany (Awaits db now) := by
    refine filter_congr fun f hf => ?_
    refine decide_eq_decide.mpr ⟨fun hreminding => ⟨hreminding.1, hreminding.2.1, ?_⟩,
      fun hawaits => ⟨hawaits.1, hawaits.2.1, .inl hawaits.2.2⟩⟩
    rcases hreminding.2.2 with hsched | ⟨hdue, hmissing⟩
    · exact hsched
    · exact absurd (h.delivered hf hdue) hmissing
  rw [sighted, awaiting, hfilter]

theorem open_of_candidate {snapshot : Database} {now : Instant} {limit : ℕ} {locked : List String}
    {id : String} (h : id ∈ candidates rt snapshot db now limit locked) :
    ∃ f ∈ db.leadFollowUps.rows, f.id = id ∧ Reminding rt db snapshot now f := by
  obtain ⟨f, hf, rfl⟩ := mem_map.mp h
  obtain ⟨-, f', hf', hreminding⟩ := of_decide_eq_true
    (mem_filter.mp (mem_of_mem_take hf)).2
  obtain ⟨hmem, hkey⟩ := findUnique_eq_some.mp hf'
  exact ⟨f', hmem, mem_keys_id.mp hkey, hreminding⟩

/-! ### What a run does -/

theorem dueNotificationKey_scheduled (h : Accounted rt (ofDatabase db))
    (hf : f ∈ db.leadFollowUps.rows) (hstate : f.state = .SCHEDULED) :
    dueNotificationKey rt db f = .ok (occurrenceKey f.id (f.version + 1)) := by
  obtain ⟨-, hnone⟩ := h.no_legacy (h.ids f hf)
  have hnone : db.internalNotifications.findUnique (legacyKey f.id) = none := hnone
  rw [dueNotificationKey, require_pos (fun hne => absurd hnone hne), if_pos hstate]
  rfl

theorem dueNotificationKey_due (h : Accounted rt (ofDatabase db)) (hf : f ∈ db.leadFollowUps.rows)
    (hstate : f.state = .DUE) :
    dueNotificationKey rt db f = .ok (occurrenceKey f.id f.version) := by
  obtain ⟨hnoEvent, hnone⟩ := h.no_legacy (h.ids f hf)
  have hnoEvent : db.auditEvents.findUnique (legacyKey f.id) = none := hnoEvent
  have hnone : db.internalNotifications.findUnique (legacyKey f.id) = none := hnone
  have hsched : f.state ≠ .SCHEDULED := by rw [hstate]; decide
  have hevent : ∃ a ∈ db.auditEvents.findUnique (occurrenceKey f.id f.version),
      SaysOccurrence a f ∧ NamesOwner a f :=
    ⟨_, findUnique_of_mem (h.due f hf hstate).1 (mem_singleton.mpr rfl),
      says_dueAudit hstate _⟩
  rw [dueNotificationKey, require_pos (fun hne => absurd hnone hne), if_neg hsched, hnoEvent,
    if_neg (by simp), require_pos hevent]
  rfl

theorem remind_due (h : Accounted rt (ofDatabase db)) (hf : f ∈ db.leadFollowUps.rows)
    (hstate : f.state = .DUE) : remind rt db f.id = .ok (⟨0, 0⟩, db) := by
  have hfound : db.leadFollowUps.findUnique (.id f.id) = some f :=
    findUnique_of_mem hf (mem_keys_id.mpr rfl)
  have hsched : f.state ≠ .SCHEDULED := by rw [hstate]; decide
  have htold : db.internalNotifications.findUnique (occurrenceKey f.id f.version) =
      some (reminder rt f (occurrenceKey f.id f.version)) :=
    findUnique_of_mem (h.due f hf hstate).2 (mem_singleton.mpr rfl)
  rw [remind, hfound, demand_some, ok_bind, dueNotificationKey_due h hf hstate, ok_bind,
    if_neg hsched, notifyDue, createNotificationInTransaction, htold]
  dsimp only
  rw [require_pos ⟨rfl, rfl⟩]
  rfl

theorem remind_scheduled (h : Accounted rt (ofDatabase db)) (hf : f ∈ db.leadFollowUps.rows)
    (hstate : f.state = .SCHEDULED) :
    ∃ db', remind rt db f.id = .ok (⟨1, 1⟩, db') ∧ db'.leads = db.leads ∧
      db'.leadFollowUps = db.leadFollowUps.updateMany (Waiting f) markRow keys_markRow := by
  have hfound : db.leadFollowUps.findUnique (.id f.id) = some f :=
    findUnique_of_mem hf (mem_keys_id.mpr rfl)
  have hwaiting : Waiting f f := ⟨rfl, hstate, rfl⟩
  have hcount : db.leadFollowUps.count (Waiting f) = 1 :=
    count_eq_one hfound hwaiting fun x hx => mem_keys_id.mpr hx.1
  have hmarked : (db.leadFollowUps.updateMany (Waiting f) markRow keys_markRow).findUnique
      (.id f.id) = some (markRow f) := by
    rw [findUnique_updateMany, hfound, Option.map_some, if_pos hwaiting]
  -- the key of the new occurrence is free in both tables
  obtain ⟨hevent, htold⟩ := h.free hf (Nat.lt_succ_self f.version)
  obtain ⟨t, ht⟩ := Option.isSome_iff_exists.mp (create_isSome.mpr fun k hk => by
    obtain rfl := mem_singleton.mp hk
    exact hevent :
      (db.auditEvents.create (dueAudit (markRow f) (occurrenceKey f.id (f.version + 1)))).isSome)
  obtain ⟨u, hu⟩ := Option.isSome_iff_exists.mp (create_isSome.mpr fun k hk => by
    obtain rfl := mem_singleton.mp hk
    exact htold : (db.internalNotifications.create
      ((dueNotification (markRow f).ownerId (markRow f).leadId).row rt
        (occurrenceKey f.id (f.version + 1)))).isSome)
  have htold : db.internalNotifications.findUnique (occurrenceKey f.id (f.version + 1)) = none := htold
  refine ⟨{ db with
    leadFollowUps := db.leadFollowUps.updateMany (Waiting f) markRow keys_markRow
    auditEvents := t, internalNotifications := u }, ?_, rfl, rfl⟩
  rw [remind, hfound, demand_some, ok_bind, dueNotificationKey_scheduled h hf hstate, ok_bind,
    if_pos hstate, if_pos hcount]
  simp only [hmarked, demand_some, ok_bind, Database.audit, insert, ht, pure_bind, notifyDue,
    createNotificationInTransaction, htold, hu]
  rfl

def reminded (ids : List String) (f : LeadFollowUpRow) : LeadFollowUpRow :=
  if f.state = .SCHEDULED ∧ f.id ∈ ids then markRow f else f

theorem remindAll_due (h : Accounted rt (ofDatabase db)) {ids : List String}
    (hids : ∀ id ∈ ids, ∃ f ∈ db.leadFollowUps.rows, f.id = id ∧ f.state = .DUE) :
    remindAll rt db ids = .ok (⟨0, 0⟩, db) := by
  induction ids with
  | nil => rfl
  | cons id ids ih =>
    obtain ⟨f, hf, rfl, hdue⟩ := hids id mem_cons_self
    have hrest := ih fun id hid => hids id (mem_cons_of_mem f.id hid)
    simp only [remindAll, remind_due h hf hdue, ok_bind, hrest]
    rfl

/-- **A run over open follow-ups returns**: what is scheduled of them becomes due, and
nothing else changes. -/
theorem remindAll_open (h : Accounted rt (ofDatabase db)) {ids : List String}
    (hids : ∀ id ∈ ids, ∃ f ∈ db.leadFollowUps.rows, f.id = id ∧ f.state.Open) :
    ∃ marked db', remindAll rt db ids = .ok (marked, db') ∧ db'.leads = db.leads ∧
      db'.leadFollowUps.rows = db.leadFollowUps.rows.map (reminded ids) := by
  induction ids generalizing db with
  | nil =>
    refine ⟨⟨0, 0⟩, db, rfl, rfl, (map_id'' (fun f => ?_) _).symm⟩
    simp [reminded]
  | cons id ids ih =>
    obtain ⟨f, hf, rfl, hopen⟩ := hids id mem_cons_self
    have hrest := fun id hid => hids id (mem_cons_of_mem f.id hid)
    rcases hopen with hsched | hdue
    · obtain ⟨db₁, hremind, hleads, hfollowUps⟩ := remind_scheduled h hf hsched
      have haccounted : Accounted rt (ofDatabase db₁) :=
        (remind_moves hremind).preserve (fun _ _ => Move.accounted) h
      have hrows : db₁.leadFollowUps.rows = db.leadFollowUps.rows.map fun r =>
        if Waiting f r then markRow r else r := by rw [hfollowUps]; rfl
      -- the others are still there and open
      obtain ⟨marked, db', hrun, hleads', hrows'⟩ := ih haccounted fun id hid => by
        obtain ⟨g, hg, hgid, hgopen⟩ := hrest id hid
        refine ⟨_, hrows ▸ mem_map_of_mem hg, ?_⟩
        by_cases hp : Waiting f g
        · rw [if_pos hp]
          exact ⟨hgid, .inr rfl⟩
        · rw [if_neg hp]
          exact ⟨hgid, hgopen⟩
      refine ⟨⟨1 + marked.due, 1 + marked.notifications⟩, db', ?_, hleads'.trans hleads, ?_⟩
      · simp only [remindAll, hremind, ok_bind, hrun]
        rfl
      · rw [hrows', hrows, map_map]
        refine map_congr_left fun r hr => ?_
        by_cases hid : r.id = f.id
        · obtain rfl := db.leadFollowUps.eq_of_key hr hf (mem_keys_id.mpr hid)
            (mem_keys_id.mpr rfl)
          simp [reminded, FollowUp.Waiting, hsched, markRow]
        · simp [reminded, FollowUp.Waiting, hid]
    · obtain ⟨marked, db', hrun, hleads, hrows⟩ := ih h hrest
      refine ⟨⟨0 + marked.due, 0 + marked.notifications⟩, db', ?_, hleads, ?_⟩
      · simp only [remindAll, remind_due h hf hdue, ok_bind, hrun]
        rfl
      · rw [hrows]
        refine map_congr_left fun r hr => ?_
        by_cases hid : r.id = f.id
        · obtain rfl := db.leadFollowUps.eq_of_key hr hf (mem_keys_id.mpr hid)
            (mem_keys_id.mpr rfl)
          simp [reminded, hdue]
        · simp [reminded, hid]

/-! ### A run of the worker -/

section Run

variable {snapshot db' : Database} {now : Instant} {limit : ℤ} {locked : List String}
  {marked : Marked}

/-- **A run of the worker returns**, and marks what it has taken. -/
theorem markDue_ok (h : Accounted rt (ofDatabase db)) (snapshot : Database) (now : Instant)
    (locked : List String) (hlow : 1 ≤ limit) (hhigh : limit ≤ 50) :
    ∃ marked db', FollowUp.markDue rt snapshot db now limit locked = .ok (marked, db') ∧
      db'.leads = db.leads ∧ db'.leadFollowUps.rows =
        db.leadFollowUps.rows.map (reminded (candidates rt snapshot db now limit.toNat locked)) := by
  have hopen : ∀ id ∈ candidates rt snapshot db now limit.toNat locked,
      ∃ f ∈ db.leadFollowUps.rows, f.id = id ∧ f.state.Open := by
    intro id hid
    obtain ⟨f, hf, hfid, hreminding⟩ := open_of_candidate hid
    exact ⟨f, hf, hfid, hreminding.2.2.imp_right And.left⟩
  obtain ⟨marked, db', hrun, hleads, hrows⟩ := remindAll_open h hopen
  refine ⟨marked, db', ?_, hleads, hrows⟩
  rw [FollowUp.markDue, require_pos ⟨hlow, hhigh⟩, ok_bind, hrun]

theorem markDue_limit (h : FollowUp.markDue rt snapshot db now limit locked = .ok (marked, db')) :
    1 ≤ limit ∧ limit ≤ 50 := by
  simp only [FollowUp.markDue, ok_iff] at h
  exact h.choose_spec.1

theorem markDue_rows (h : Accounted rt (ofDatabase db))
    (hrun : FollowUp.markDue rt snapshot db now limit locked = .ok (marked, db')) :
    db'.leads = db.leads ∧ db'.leadFollowUps.rows =
      db.leadFollowUps.rows.map (reminded (candidates rt snapshot db now limit.toNat locked)) := by
  obtain ⟨hlow, hhigh⟩ := markDue_limit hrun
  obtain ⟨marked₁, db₁, hrun₁, hleads, hrows⟩ := markDue_ok h snapshot now locked hlow hhigh
  obtain ⟨-, rfl⟩ := Prod.mk.inj (Except.ok.inj (hrun.symm.trans hrun₁))
  exact ⟨hleads, hrows⟩

/-- **What is first in line is taken**, when it still awaits its reminder and is not
locked. -/
theorem mem_candidates (hsnap : Accounted rt (ofDatabase snapshot)) {n : ℕ}
    {f f' : LeadFollowUpRow} (hf : f ∈ (awaiting snapshot now).take n) (hlocked : f.id ∉ locked)
    (hf' : f' ∈ db.leadFollowUps.rows) (hid : f'.id = f.id) (hawaits : Awaits db now f') :
    f'.id ∈ candidates rt snapshot db now n locked := by
  rw [hid]
  refine mem_map_of_mem (Page.mem_take_filter ?_ ⟨hlocked, f', ?_, hawaits.1, hawaits.2.1,
    .inl hawaits.2.2⟩)
  · rw [hsnap.sighted_eq]
    exact hf
  · exact findUnique_of_mem hf' (mem_keys_id.mpr hid)

/-- **When nothing awaits its reminder, a run does nothing**, whatever state it saw. -/
theorem markDue_of_none_awaiting (h : Accounted rt (ofDatabase db))
    (hnone : ∀ f ∈ db.leadFollowUps.rows, ¬Awaits db now f) (snapshot : Database)
    (locked : List String) (hlow : 1 ≤ limit) (hhigh : limit ≤ 50) :
    FollowUp.markDue rt snapshot db now limit locked = .ok (⟨0, 0⟩, db) := by
  rw [FollowUp.markDue, require_pos ⟨hlow, hhigh⟩, ok_bind]
  refine remindAll_due h fun id hid => ?_
  obtain ⟨f, hf, hfid, hlead, hdate, hsched | ⟨hdue, -⟩⟩ := open_of_candidate hid
  · exact absurd ⟨hlead, hdate, hsched⟩ (hnone f hf)
  · exact ⟨f, hf, hfid, hdue⟩

/-- **A page that holds everything leaves nothing**: after a run that saw the state it
acted on and found nothing locked. -/
theorem none_awaiting_of_markDue (h : Accounted rt (ofDatabase db))
    (hfits : (awaiting db now).length ≤ limit.toNat)
    (hrun : FollowUp.markDue rt db db now limit [] = .ok (marked, db')) :
    ∀ f ∈ db'.leadFollowUps.rows, ¬Awaits db' now f := by
  obtain ⟨hleads, hrows⟩ := markDue_rows h hrun
  intro f hf hawaits
  rw [hrows] at hf
  obtain ⟨g, hg, rfl⟩ := mem_map.mp hf
  by_cases htaken : g.state = .SCHEDULED ∧ g.id ∈ candidates rt db db now limit.toNat []
  · -- what was taken is due
    rw [reminded, if_pos htaken] at hawaits
    cases hawaits.2.2
  · rw [reminded, if_neg htaken] at hawaits
    have hbefore : Awaits db now g := by
      obtain ⟨⟨l, hl, hopen⟩, hdate, hsched⟩ := hawaits
      rw [Database.lead, hleads] at hl
      exact ⟨⟨l, hl, hopen⟩, hdate, hsched⟩
    refine htaken ⟨hbefore.2.2, mem_candidates h (f := g) ?_ not_mem_nil hg rfl hbefore⟩
    rw [take_of_length_le hfits]
    exact mem_awaiting.mpr ⟨hg, hbefore⟩

end Run

/-! ### In every run -/

variable (rt) in
structure OnTime (t : Timeline Database) : Prop where
  /-- What was ever due has one event and one notification. -/
  once : ∀ k, ∀ f ∈ (t.ago k).leadFollowUps.rows, f.state = .DUE →
    t.now.auditEvents.count (OfOccurrence f.id f.version) = 1 ∧
      t.now.internalNotifications.count (TellsOf f.id f.version) = 1
  /-- A run of the worker fails in no way but by its limit. -/
  returns : ∀ k now limit locked, 1 ≤ limit → limit ≤ 50 →
    ∃ marked db', FollowUp.markDue rt (t.ago k) t.now now limit locked = .ok (marked, db')
  /-- What is first in line of all that awaits its reminder becomes due. -/
  serves : ∀ k now limit locked marked db',
    FollowUp.markDue rt (t.ago k) t.now now limit locked = .ok (marked, db') →
      ∀ f ∈ (awaiting (t.ago k) now).take limit.toNat, f.id ∉ locked →
        ∀ f' ∈ t.now.leadFollowUps.rows, f'.id = f.id → Awaits t.now now f' →
          markRow f' ∈ db'.leadFollowUps.rows
  /-- After a run that had room for everything, another one at the same time changes
  nothing. -/
  rests : ∀ now limit marked db', (awaiting t.now now).length ≤ limit.toNat →
    FollowUp.markDue rt t.now t.now now limit [] = .ok (marked, db') →
      ∀ k limit' locked', 1 ≤ limit' → limit' ≤ 50 →
        FollowUp.markDue rt ((t.advance db').ago k) db' now limit' locked' = .ok (⟨0, 0⟩, db')

/-- Nothing was marked yet: no follow-up is due, and nothing speaks of a reminder. -/
structure Unmarked (db : Database) : Prop where
  ids : ∀ f ∈ db.leadFollowUps.rows, Canonical f.id
  due : ∀ f ∈ db.leadFollowUps.rows, f.state ≠ .DUE
  audits : ∀ a ∈ db.auditEvents.rows, ¬a.Reminds
  notifications : ∀ n ∈ db.internalNotifications.rows, ¬n.Reminds

theorem Unmarked.accounted (h : Unmarked db) : Accounted rt (ofDatabase db) :=
  ⟨h.ids, fun a ha hreminds => absurd hreminds (h.audits a ha),
    fun n hn hreminds => absurd hreminds (h.notifications n hn),
    fun f hf hdue => absurd hdue (h.due f hf)⟩

/-- **On a timeline whose states are accounted for, the worker is on time.** -/
theorem onTime_of_held {t : Timeline Database}
    (h : t.Held (fun db => Accounted rt (ofDatabase db)) Ahead) : OnTime rt t where
  once k f hf hdue := by
    obtain ⟨hpast, hahead⟩ := h.ago Ahead.refl k
    obtain ⟨ha, hn⟩ := hpast.due f hf hdue
    have hcanonical := hpast.ids f hf
    exact ⟨h.now.audited_once (hahead.audits ha),
      h.now.notified_once hcanonical (hahead.notifications hn)⟩
  returns k now limit locked hlow hhigh := by
    obtain ⟨marked, db', hrun, -⟩ := markDue_ok h.now (t.ago k) now locked hlow hhigh
    exact ⟨marked, db', hrun⟩
  serves k now limit locked marked db' hrun f hf hlocked f' hf' hid hawaits := by
    obtain ⟨-, hrows⟩ := markDue_rows h.now hrun
    have htaken := mem_candidates (h.ago Ahead.refl k).1 hf hlocked hf' hid hawaits
    rw [hrows]
    exact mem_map.mpr ⟨f', hf', if_pos ⟨hawaits.2.2, htaken⟩⟩
  rests now limit marked db' hfits hrun k limit' locked' hlow hhigh := by
    have hnext : Accounted rt (ofDatabase db') :=
      (markDue_moves hrun).preserve (fun _ _ => Move.accounted) h.now
    exact markDue_of_none_awaiting hnext (none_awaiting_of_markDue h.now hfits hrun) _ _ hlow hhigh

/-- **In every run from a database where nothing was marked, the worker is on
time.** -/
theorem onTime_throughout (hdb : Unmarked db) (calls : List CommercialCall) :
    (commercial rt).Throughout (OnTime rt) ⟨db, []⟩ calls :=
  fun pre hpre => onTime_of_held
    (held_of_move (fun _ _ => Move.accounted) hdb.accounted calls pre hpre)

theorem unmarked_planned : Unmarked Sample.planned where
  ids f hf := by
    obtain rfl := mem_singleton.mp (show f ∈ [Sample.callBack] from hf)
    decide
  due f hf := by
    obtain rfl := mem_singleton.mp (show f ∈ [Sample.callBack] from hf)
    decide
  audits _ ha := absurd ha not_mem_nil
  notifications _ hn := absurd hn not_mem_nil

theorem onTime_throughout_of_planned :
    (commercial .plain).Throughout (OnTime .plain) ⟨Sample.planned, []⟩ Sample.reminders :=
  onTime_throughout unmarked_planned Sample.reminders

namespace Sample

/-- Another lead, with a meeting planned the same day. -/
def visitor : LeadRow := { prospect with
  id := "aaaaaaaa-0000-4000-8000-000000000002", leadCode := "LEAD-2" }

def meeting : LeadFollowUpRow := { callBack with
  id := "cccccccc-0000-4000-8000-000000000002", leadId := visitor.id, dueAt := 1200
  idempotencyKey := "follow-up:schedule:2" }

/-- The call and the meeting are planned. -/
def both : Database :=
  { leads := .ofRows [prospect, visitor], leadFollowUps := .ofRows [callBack, meeting] }

/-- A run that takes one follow-up. -/
def single : CommercialCall := .markDue 0 1500 1 []

end Sample

open Commercial.Sample

/-- **A second run at the same time takes the next page.** -/
theorem second_run_marks : Unmarked both ∧
    ((commercial .plain).run ⟨both, []⟩ [single, single]).now.leadFollowUps.rows ≠
      ((commercial .plain).run ⟨both, []⟩ [single]).now.leadFollowUps.rows := by
  have hrows : both.leadFollowUps.rows = [callBack, meeting] := rfl
  refine ⟨⟨fun f hf => ?_, fun f hf => ?_, fun _ ha => absurd ha not_mem_nil,
    fun _ hn => absurd hn not_mem_nil⟩, by decide +kernel⟩
  · rw [hrows] at hf
    rcases mem_pair.mp hf with rfl | rfl <;> decide
  · rw [hrows] at hf
    rcases mem_pair.mp hf with rfl | rfl <;> decide

end CrmYnov.Commercial
