import CrmYnov.Base.Growth
import CrmYnov.FollowUp.Reminders

/-!
# Leads and follow-ups, move by move

Whatever is done to the leads and the follow-ups is made of a few moves
(`CrmYnov.Commercial.Move`): a lead is written, without being closed; an open
follow-up advances, with the next action of its lead or without; a follow-up is
planned on a lead that has none open and is not closed; a lead is closed, together
with what is open on it; a follow-up becomes due. Every move counts a version of
what it changes. Besides there are the events that are audited and the
notifications; those of the reminders are told from the others.

Three things follow, each by cases on a move: nothing is lost, and what is closed or
settled stays so (`Moves.leads_grow`, `Moves.followUps_grow`); a lead has one open
follow-up at most (`Move.oneOpen`); a lead that is closed along the way has none
(`Move.closedFree`).
-/

namespace CrmYnov

open FollowUp Table Relation LeadFollowUpRow List

/-- The event speaks of a reminder: by its type, or by its key. -/
def AuditEventRow.Reminds (a : AuditEventRow) : Prop :=
  a.eventType = "FOLLOW_UP_DUE" ∨ ∃ rest, a.idempotencyKey = legacyKey rest

/-- The notification speaks of a reminder: by its type, or by its key. -/
def InternalNotificationRow.Reminds (n : InternalNotificationRow) : Prop :=
  n.type = "FOLLOW_UP_DUE" ∨ ∃ rest, n.deduplicationKey = legacyKey rest

namespace Commercial

open Leads

/-- The leads and the follow-ups, with what is recorded and told of them. -/
structure Commerce where
  leads : Table LeadRow LeadRow.keys
  followUps : Table LeadFollowUpRow keys
  audits : Table AuditEventRow AuditEventRow.keys
  notifications : Table InternalNotificationRow InternalNotificationRow.keys

/-- The leads and the follow-ups of a database. -/
def ofDatabase (db : Database) : Commerce :=
  ⟨db.leads, db.leadFollowUps, db.auditEvents, db.internalNotifications⟩

/-- A lead, and the same lead later: its version has grown, and it is still closed
if it was. -/
structure Later (l l' : LeadRow) : Prop where
  keys : l'.keys = l.keys
  version : l.version < l'.version
  closed : l.status.Closed → l'.status = l.status

structure Advance (f f' : LeadFollowUpRow) : Prop where
  open_ : f.state.Open
  keys : f'.keys = f.keys
  lead : f'.leadId = f.leadId
  version : f.version < f'.version

theorem Later.trans {a b c : LeadRow} (h : Later a b) (h' : Later b c) : Later a c where
  keys := h'.keys.trans h.keys
  version := h.version.trans h'.version
  closed hc := (h'.closed (by rw [h.closed hc]; exact hc)).trans (h.closed hc)

theorem Advance.trans {a b c : LeadFollowUpRow} (h : Advance a b) (h' : Advance b c) :
    Advance a c where
  open_ := h.open_
  keys := h'.keys.trans h.keys
  lead := h'.lead.trans h.lead
  version := h.version.trans h'.version

theorem Later.id_eq {l l' : LeadRow} (h : Later l l') : l'.id = l.id := by
  have hmem : LeadRow.Key.id l.id ∈ l'.keys := by
    rw [h.keys]
    exact LeadRow.mem_keys_id.mpr rfl
  exact LeadRow.mem_keys_id.mp hmem

theorem Advance.id_eq {f f' : LeadFollowUpRow} (h : Advance f f') : f'.id = f.id := by
  have hmem : Key.id f.id ∈ f'.keys := by
    rw [h.keys]
    exact mem_keys_id.mpr rfl
  exact mem_keys_id.mp hmem

/-- The next action of a lead is left, or cleared. -/
def Unplanned (l l' : LeadRow) : Prop :=
  l'.nextActionAt = l.nextActionAt ∨ l'.nextActionAt = none

variable (rt : Runtime)

def reminder (f : LeadFollowUpRow) (key : String) : InternalNotificationRow :=
  (dueNotification f.ownerId f.leadId).row rt key

inductive Move : Commerce → Commerce → Prop
  /-- A lead is written: none is closed that was not, and a closed one is given no next
  action. -/
  | write {c : Commerce} (p : LeadRow → Prop) [DecidablePred p] {f : LeadRow → LeadRow}
      (hf : ∀ l, (f l).keys = l.keys) (hlater : ∀ l ∈ c.leads.rows, p l → Later l (f l))
      (hopen : ∀ l ∈ c.leads.rows, p l → (f l).status.Closed →
        l.status.Closed ∧ Unplanned l (f l)) :
      Move c { c with leads := c.leads.updateMany p f hf }
  /-- An open follow-up advances, but not by becoming due. -/
  | advance {c : Commerce} (p : LeadFollowUpRow → Prop) [DecidablePred p]
      {f : LeadFollowUpRow → LeadFollowUpRow} (hf : ∀ r, (f r).keys = r.keys)
      (hadvance : ∀ r ∈ c.followUps.rows, p r → Advance r (f r) ∧ (f r).state ≠ .DUE) :
      Move c { c with followUps := c.followUps.updateMany p f hf }
  /-- An open follow-up advances, and the next action of its lead with it. -/
  | settle {c : Commerce} {r : LeadFollowUpRow} (p : LeadFollowUpRow → Prop) [DecidablePred p]
      {f : LeadFollowUpRow → LeadFollowUpRow} (hf : ∀ r, (f r).keys = r.keys)
      (q : LeadRow → Prop) [DecidablePred q] {g : LeadRow → LeadRow}
      (hg : ∀ l, (g l).keys = l.keys) (hr : r ∈ c.followUps.rows) (hopen : r.state.Open)
      (hadvance : ∀ r ∈ c.followUps.rows, p r → Advance r (f r) ∧ (f r).state ≠ .DUE)
      (hlater : ∀ l ∈ c.leads.rows, q l → Later l (g l) ∧ (g l).status = l.status)
      (hlead : ∀ l, q l → l.id = r.leadId) :
      Move c { c with leads := c.leads.updateMany q g hg
                      followUps := c.followUps.updateMany p f hf }
  /-- A follow-up is planned on an open lead that has none. -/
  | plan {c : Commerce} {row : LeadFollowUpRow} {l : LeadRow}
      {t : Table LeadFollowUpRow keys} (hcreate : c.followUps.create row = some t)
      (hstate : row.state = .SCHEDULED) (hcanonical : Canonical row.id)
      (hlead : l ∈ c.leads.rows) (hid : l.id = row.leadId) (hopen : ¬l.status.Closed)
      (hfree : ∀ r ∈ c.followUps.rows, ¬(r.leadId = row.leadId ∧ r.state.Open)) :
      Move c { c with followUps := t }
  /-- A lead is closed, with what is open on it. -/
  | close {c : Commerce} {leadId : String} (p : LeadRow → Prop) [DecidablePred p]
      {f : LeadRow → LeadRow} (hf : ∀ l, (f l).keys = l.keys)
      {t : Table LeadFollowUpRow keys}
      (hlater : ∀ l ∈ c.leads.rows, p l → Later l (f l)) (hid : ∀ l, p l → l.id = leadId)
      (hnext : ∀ l ∈ c.leads.rows, p l → (f l).nextActionAt = none)
      (hgrows : c.followUps.Grows Advance t)
      (hrows : ∀ r ∈ t.rows, r ∈ c.followUps.rows ∨
        r.state ≠ .DUE ∧ ∃ r₀ ∈ c.followUps.rows, r₀.id = r.id)
      (hopen : ∀ r ∈ t.rows, r.state.Open → r ∈ c.followUps.rows ∧ r.leadId ≠ leadId) :
      Move c { c with leads := c.leads.updateMany p f hf, followUps := t }
  /-- An event is audited that is not one of a reminder. -/
  | audit {c : Commerce} {a : AuditEventRow} {t : Table AuditEventRow AuditEventRow.keys}
      (hquiet : ¬a.Reminds) (hcreate : c.audits.create a = some t) : Move c { c with audits := t }
  /-- Someone is notified of something else than a reminder. -/
  | notify {c : Commerce} {n : InternalNotificationRow}
      {t : Table InternalNotificationRow InternalNotificationRow.keys} (hquiet : ¬n.Reminds)
      (hcreate : c.notifications.create n = some t) : Move c { c with notifications := t }
  /-- A follow-up becomes due: this is audited, and its owner is notified. -/
  | remind {c : Commerce} {r : LeadFollowUpRow} {t : Table AuditEventRow AuditEventRow.keys}
      {u : Table InternalNotificationRow InternalNotificationRow.keys} {key : String}
      (hr : r ∈ c.followUps.rows) (hstate : r.state = .SCHEDULED)
      (hkey : key = occurrenceKey r.id (r.version + 1))
      (haudit : c.audits.create (dueAudit (markRow r) key) = some t)
      (hnotify : c.notifications.create (reminder rt (markRow r) key) = some u ∨
        (c.notifications.findUnique key).isSome ∧ u = c.notifications) :
      Move c { c with followUps := c.followUps.updateMany (Waiting r) markRow keys_markRow
                      audits := t, notifications := u }
  /-- The notification of a due follow-up is repaired. -/
  | repair {c : Commerce} {r : LeadFollowUpRow}
      {u : Table InternalNotificationRow InternalNotificationRow.keys} {key : String}
      (hr : r ∈ c.followUps.rows) (hstate : r.state ≠ .SCHEDULED)
      (hkey : key = legacyKey r.id ∨ key = occurrenceKey r.id r.version)
      (haudit : (c.audits.findUnique key).isSome)
      (hnotify : c.notifications.create (reminder rt r key) = some u) :
      Move c { c with notifications := u }

def Moves : Commerce → Commerce → Prop := ReflTransGen (Move rt)

variable {rt}

theorem Moves.refl (c : Commerce) : Moves rt c c := ReflTransGen.refl

theorem Moves.trans {c c' c'' : Commerce} (h : Moves rt c c') (h' : Moves rt c' c'') :
    Moves rt c c'' := ReflTransGen.trans h h'

variable {c c' : Commerce}

theorem Move.moves (h : Move rt c c') : Moves rt c c' :=
  ReflTransGen.single h

theorem Moves.preserve {P : Commerce → Prop} (hmove : ∀ c c', Move rt c c' → P c → P c')
    (h : Moves rt c c') (hc : P c) : P c' := by
  induction h with
  | refl => exact hc
  | tail _ hlast ih => exact hmove _ _ hlast ih

theorem Moves.audits {t : Table AuditEventRow AuditEventRow.keys}
    (h : c.audits.Appended (fun a => ¬a.Reminds) t) : Moves rt c { c with audits := t } := by
  induction h with
  | refl => exact Moves.refl c
  | tail _ hlast ih =>
    obtain ⟨a, hquiet, hcreate⟩ := hlast
    exact ih.trans (Move.audit (c := { c with audits := _ }) hquiet hcreate).moves

theorem Moves.notifications {t : Table InternalNotificationRow InternalNotificationRow.keys}
    (h : c.notifications.Appended (fun n => ¬n.Reminds) t) :
    Moves rt c { c with notifications := t } := by
  induction h with
  | refl => exact Moves.refl c
  | tail _ hlast ih =>
    obtain ⟨n, hquiet, hcreate⟩ := hlast
    exact ih.trans (Move.notify (c := { c with notifications := _ }) hquiet hcreate).moves

/-! ### Nothing is lost -/

theorem waiting_advance {r f : LeadFollowUpRow} (h : Waiting r f) : Advance f (markRow f) :=
  ⟨.inl h.2.1, rfl, rfl, Nat.lt_succ_self _⟩

theorem Move.leads_grow (h : Move rt c c') : c.leads.Grows Later c'.leads := by
  cases h with
  | write _ hf hlater _ => exact Grows.of_updateMany hf hlater
  | settle _ _ _ hg _ _ _ hlater _ =>
    exact Grows.of_updateMany hg fun l hl hq => (hlater l hl hq).1
  | close _ hf hlater _ _ _ _ _ => exact Grows.of_updateMany hf hlater
  | advance | plan | audit | notify | remind | repair => exact Grows.refl c.leads

theorem Move.followUps_grow (h : Move rt c c') : c.followUps.Grows Advance c'.followUps := by
  cases h with
  | advance _ hf hadvance =>
    exact Grows.of_updateMany hf fun r hr hp => (hadvance r hr hp).1
  | settle _ hf _ _ _ _ hadvance _ _ =>
    exact Grows.of_updateMany hf fun r hr hp => (hadvance r hr hp).1
  | plan hcreate _ _ _ _ _ _ => exact Grows.of_create hcreate
  | close _ _ _ _ _ hgrows _ _ => exact hgrows
  | remind _ _ _ _ _ =>
    exact Grows.of_updateMany keys_markRow fun _ _ hp => waiting_advance hp
  | write | audit | notify | repair => exact Grows.refl c.followUps

theorem leadsGrow_trans {t t' t'' : Table LeadRow LeadRow.keys} (h : t.Grows Later t')
    (h' : t'.Grows Later t'') : t.Grows Later t'' := h.trans (fun _ _ _ => Later.trans) h'

theorem followUpsGrow_trans {t t' t'' : Table LeadFollowUpRow keys}
    (h : t.Grows Advance t') (h' : t'.Grows Advance t'') : t.Grows Advance t'' :=
  h.trans (fun _ _ _ => Advance.trans) h'

theorem Moves.leads_grow (h : Moves rt c c') : c.leads.Grows Later c'.leads := by
  induction h with
  | refl => exact Grows.refl c.leads
  | tail _ hlast ih => exact leadsGrow_trans ih hlast.leads_grow

theorem Moves.followUps_grow (h : Moves rt c c') : c.followUps.Grows Advance c'.followUps := by
  induction h with
  | refl => exact Grows.refl c.followUps
  | tail _ hlast ih => exact followUpsGrow_trans ih hlast.followUps_grow

theorem Move.records_kept (h : Move rt c c') :
    c.audits.rows ⊆ c'.audits.rows ∧ c.notifications.rows ⊆ c'.notifications.rows := by
  have hself : c.audits.rows ⊆ c.audits.rows ∧ c.notifications.rows ⊆ c.notifications.rows :=
    ⟨Subset.refl _, Subset.refl _⟩
  cases h with
  | write | advance | settle | plan | close => exact hself
  | audit _ hcreate => exact ⟨fun x hx => (mem_create hcreate).mpr (.inl hx), hself.2⟩
  | notify _ hcreate => exact ⟨hself.1, fun x hx => (mem_create hcreate).mpr (.inl hx)⟩
  | remind _ _ _ haudit hnotify =>
    refine ⟨fun x hx => (mem_create haudit).mpr (.inl hx), ?_⟩
    rcases hnotify with hcreate | ⟨-, rfl⟩
    · exact fun x hx => (mem_create hcreate).mpr (.inl hx)
    · exact hself.2
  | repair _ _ _ _ hnotify =>
    exact ⟨hself.1, fun x hx => (mem_create hnotify).mpr (.inl hx)⟩

theorem Moves.records_kept (h : Moves rt c c') :
    c.audits.rows ⊆ c'.audits.rows ∧ c.notifications.rows ⊆ c'.notifications.rows := by
  induction h with
  | refl => exact ⟨Subset.refl _, Subset.refl _⟩
  | tail _ hlast ih =>
    exact ⟨Subset.trans ih.1 hlast.records_kept.1, Subset.trans ih.2 hlast.records_kept.2⟩

/-- **A version names one reading of a lead**: a lead found later at the version it
had is as it was. -/
theorem lead_eq_of_version {t t' : Table LeadRow LeadRow.keys} (h : t.Grows Later t') {l l' : LeadRow}
    (hl : l ∈ t.rows) (hl' : l' ∈ t'.rows) (hid : l'.id = l.id) (hver : l'.version = l.version) :
    l' = l :=
  h.eq_of_version (fun _ _ h => h.keys) (fun _ _ h => h.version) hl hl'
    (LeadRow.mem_keys_id.mpr rfl) (LeadRow.mem_keys_id.mpr hid) hver

theorem followUp_eq_of_version {t t' : Table LeadFollowUpRow keys}
    (h : t.Grows Advance t') {f f' : LeadFollowUpRow} (hf : f ∈ t.rows) (hf' : f' ∈ t'.rows)
    (hid : f'.id = f.id) (hver : f'.version = f.version) : f' = f :=
  h.eq_of_version (fun _ _ h => h.keys) (fun _ _ h => h.version) hf hf'
    (mem_keys_id.mpr rfl) (mem_keys_id.mpr hid) hver

/-! ### One open follow-up for a lead -/

/-- A lead has one open follow-up at most. -/
def OneOpen (c : Commerce) : Prop :=
  ∀ r ∈ c.followUps.rows, ∀ r' ∈ c.followUps.rows,
    r.leadId = r'.leadId → r.state.Open → r'.state.Open → r = r'

section Advancing

variable {t : Table LeadFollowUpRow keys} {p : LeadFollowUpRow → Prop}
  [DecidablePred p] {f : LeadFollowUpRow → LeadFollowUpRow}
  (hadvance : ∀ r ∈ t.rows, p r → Advance r (f r))

include hadvance

theorem open_of_advance {r : LeadFollowUpRow} (hr : r ∈ t.rows)
    (hopen : (if p r then f r else r).state.Open) :
    r.state.Open ∧ (if p r then f r else r).leadId = r.leadId := by
  by_cases hp : p r
  · rw [if_pos hp]
    exact ⟨(hadvance r hr hp).open_, (hadvance r hr hp).lead⟩
  · rw [if_neg hp] at hopen ⊢
    exact ⟨hopen, rfl⟩

theorem oneOpen_of_advance (hf : ∀ r, (f r).keys = r.keys)
    (hone : ∀ r ∈ t.rows, ∀ r' ∈ t.rows, r.leadId = r'.leadId → r.state.Open → r'.state.Open → r = r') :
    ∀ r ∈ (t.updateMany p f hf).rows, ∀ r' ∈ (t.updateMany p f hf).rows,
      r.leadId = r'.leadId → r.state.Open → r'.state.Open → r = r' := by
  intro x hx y hy hlead hopen hopen'
  obtain ⟨r, hr, rfl⟩ := mem_map.mp hx
  obtain ⟨s, hs, rfl⟩ := mem_map.mp hy
  obtain ⟨hr', hleadr⟩ := open_of_advance hadvance hr hopen
  obtain ⟨hs', hleads⟩ := open_of_advance hadvance hs hopen'
  rw [hone r hr s hs (by rw [← hleadr, hlead, hleads]) hr' hs']

theorem none_open_of_advance (hf : ∀ r, (f r).keys = r.keys) {leadId : String}
    (hnone : ∀ r ∈ t.rows, ¬(r.leadId = leadId ∧ r.state.Open)) :
    ∀ r ∈ (t.updateMany p f hf).rows, ¬(r.leadId = leadId ∧ r.state.Open) := by
  intro x hx hpend
  obtain ⟨r, hr, rfl⟩ := mem_map.mp hx
  obtain ⟨hopen, hlead⟩ := open_of_advance hadvance hr hpend.2
  exact hnone r hr ⟨hlead.symm.trans hpend.1, hopen⟩

end Advancing

theorem Move.oneOpen (h : Move rt c c') (hc : OneOpen c) : OneOpen c' := by
  cases h with
  | write | audit | notify | repair => exact hc
  | advance _ hf hadvance =>
    exact oneOpen_of_advance (fun r hr hp => (hadvance r hr hp).1) hf hc
  | settle _ hf _ _ _ _ hadvance _ _ =>
    exact oneOpen_of_advance (fun r hr hp => (hadvance r hr hp).1) hf hc
  | remind _ _ _ _ _ =>
    exact oneOpen_of_advance (fun _ _ hp => waiting_advance hp) keys_markRow hc
  | plan hcreate _ _ _ _ _ hfree =>
    intro x hx y hy hlead hopen hopen'
    -- the new follow-up is open beside none of the same lead
    rcases (mem_create hcreate).mp hx with hx | rfl
    · rcases (mem_create hcreate).mp hy with hy | rfl
      · exact hc x hx y hy hlead hopen hopen'
      · exact absurd ⟨hlead, hopen⟩ (hfree x hx)
    · rcases (mem_create hcreate).mp hy with hy | rfl
      · exact absurd ⟨hlead.symm, hopen'⟩ (hfree y hy)
      · rfl
  | close _ _ _ _ _ _ _ hopen_ =>
    intro x hx y hy hlead hopen hopen'
    exact hc x (hopen_ x hx hopen).1 y (hopen_ y hy hopen').1 hlead hopen hopen'

/-! ### Nothing open on a lead that was closed -/

/-- A closed lead has no open follow-up, unless it was spared. -/
def ClosedFree (spared : String → Prop) (c : Commerce) : Prop :=
  ∀ l ∈ c.leads.rows, l.status.Closed → spared l.id ∨
    ∀ r ∈ c.followUps.rows, ¬(r.leadId = l.id ∧ r.state.Open)

theorem ClosedFree.of_write {spared : String → Prop} (hc : ClosedFree spared c) {p : LeadRow → Prop}
    [DecidablePred p] {f : LeadRow → LeadRow} (hf : ∀ l, (f l).keys = l.keys)
    (hlater : ∀ l ∈ c.leads.rows, p l → Later l (f l))
    (hopen : ∀ l ∈ c.leads.rows, p l → (f l).status.Closed → l.status.Closed) :
    ClosedFree spared { c with leads := c.leads.updateMany p f hf } := by
  intro x hx hclosed
  obtain ⟨l, hl, rfl⟩ := mem_map.mp hx
  by_cases hp : p l
  · rw [if_pos hp] at hclosed ⊢
    rw [(hlater l hl hp).id_eq]
    exact hc l hl (hopen l hl hp hclosed)
  · rw [if_neg hp] at hclosed ⊢
    exact hc l hl hclosed

theorem Move.closedFree {spared : String → Prop} (h : Move rt c c') (hc : ClosedFree spared c) :
    ClosedFree spared c' := by
  cases h with
  | audit | notify | repair => exact hc
  | write p hf hlater hopen =>
    exact hc.of_write hf hlater fun l hl hp hclosed => (hopen l hl hp hclosed).1
  | advance p hf hadvance =>
    intro l hl hclosed
    exact (hc l hl hclosed).imp_right
      (none_open_of_advance (fun r hr hp => (hadvance r hr hp).1) hf)
  | settle p hf q hg _ _ hadvance hlater _ =>
    intro l hl hclosed
    have hwritten := hc.of_write hg (fun l hl hq => (hlater l hl hq).1)
      (fun l hl hq hclosed => (hlater l hl hq).2 ▸ hclosed)
    exact (hwritten l hl hclosed).imp_right
      (none_open_of_advance (fun r hr hp => (hadvance r hr hp).1) hf)
  | remind _ _ _ _ _ =>
    intro l hl hclosed
    exact (hc l hl hclosed).imp_right
      (none_open_of_advance (fun _ _ hp => waiting_advance hp) keys_markRow)
  | plan hcreate _ _ hlead hid hopen _ =>
    intro x hx hclosed
    refine (hc x hx hclosed).imp_right fun hnone r hr hpend => ?_
    rcases (mem_create hcreate).mp hr with hr | rfl
    · exact hnone r hr hpend
    · -- the lead that is planned on is the closed one, and it is open
      have heq := c.leads.eq_of_key hx hlead (LeadRow.mem_keys_id.mpr rfl)
        (LeadRow.mem_keys_id.mpr (hid.trans hpend.1))
      exact hopen (heq ▸ hclosed)
  | close p _ hlater hid _ _ _ hopen =>
    intro x hx hclosed
    obtain ⟨l, hl, rfl⟩ := mem_map.mp hx
    by_cases hp : p l
    · rw [if_pos hp] at hclosed ⊢
      refine .inr fun r hr hpend => (hopen r hr hpend.2).2 ?_
      rw [hpend.1, (hlater l hl hp).id_eq, hid l hp]
    · rw [if_neg hp] at hclosed ⊢
      exact (hc l hl hclosed).imp_right fun hnone r hr hpend =>
        hnone r (hopen r hr hpend.2).1 hpend

end Commercial

end CrmYnov
