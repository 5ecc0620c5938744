import CrmYnov.Commercial.Runs

/-!
# Every occurrence is accounted for

An occurrence is a follow-up that became due, with the version it then had. Its event
and its notification are stored under its key, and keys do not clash: the database
writes the identifiers of follow-ups in one length, so that the identifier and the
version are read off the key (`CrmYnov.Commercial.occurrenceKey_inj`).

What every move keeps is `CrmYnov.Commercial.Accounted`: what speaks of a reminder is
under the key of an occurrence that lies in the past of its follow-up, and a follow-up
that is due has its event and its notification. The key of the next occurrence is
therefore free when it is needed, and no key of the earlier format is ever taken.
-/

namespace CrmYnov.Commercial

open Leads FollowUp Table LeadFollowUpRow List

variable {rt : Runtime}

/-! ### Keys -/

/-- **A key names its occurrence.** -/
theorem occurrenceKey_inj {a b : String} (ha : Canonical a) (hb : Canonical b) {v w : ℕ}
    (h : occurrenceKey a v = occurrenceKey b w) : a = b ∧ v = w := by
  have hchars := congrArg String.toList h
  simp only [occurrenceKey, legacyKey, String.toList_append, append_assoc,
    append_cancel_left_eq] at hchars
  obtain ⟨hid, hrest⟩ := append_inj hchars (by rw [ha.length_eq, hb.length_eq])
  exact ⟨String.ext hid, Js.toString_nat_inj (String.ext (append_cancel_left hrest))⟩

theorem legacyKey_ne_occurrenceKey {a b : String} (ha : Canonical a) (hb : Canonical b) (v : ℕ) :
    legacyKey a ≠ occurrenceKey b v := by
  intro h
  have hlen := congrArg (fun s : String => s.toList.length) h
  simp [occurrenceKey, legacyKey, ha.length_eq, hb.length_eq] at hlen

theorem occurrenceKey_eq_legacyKey (id : String) (v : ℕ) :
    ∃ rest, occurrenceKey id v = legacyKey rest :=
  ⟨id ++ ":v" ++ toString v, by simp [occurrenceKey, legacyKey, String.append_assoc]⟩

/-! ### What is accounted for -/

def OfOccurrence (id : String) (version : ℕ) (a : AuditEventRow) : Prop :=
  a.eventType = "FOLLOW_UP_DUE" ∧ (a.after.member "followUpId").bind Js.Json.text? = some id ∧
    (a.after.member "version").bind num? = some (toString version)
deriving Decidable

/-- The notification of an occurrence, under its key or one of the earlier format. -/
def TellsOf (id : String) (version : ℕ) (n : InternalNotificationRow) : Prop :=
  n.deduplicationKey = occurrenceKey id version ∨ n.deduplicationKey = legacyKey id
deriving Decidable

theorem ofOccurrence_dueAudit (f : LeadFollowUpRow) (key : String) :
    OfOccurrence f.id f.version (dueAudit f key) := ⟨rfl, rfl, rfl⟩

variable (rt) in
/-- What is told and recorded of reminders is of occurrences of the past, and what is
due is told and recorded. -/
structure Accounted (c : Commerce) : Prop where
  ids : ∀ f ∈ c.followUps.rows, Canonical f.id
  audited : ∀ a ∈ c.audits.rows, a.Reminds → ∃ f ∈ c.followUps.rows, ∃ v ≤ f.version,
    OfOccurrence f.id v a ∧ a.idempotencyKey = occurrenceKey f.id v
  notified : ∀ n ∈ c.notifications.rows, n.Reminds → ∃ f ∈ c.followUps.rows, ∃ v ≤ f.version,
    n.deduplicationKey = occurrenceKey f.id v
  due : ∀ f ∈ c.followUps.rows, f.state = .DUE →
    dueAudit f (occurrenceKey f.id f.version) ∈ c.audits.rows ∧
      reminder rt f (occurrenceKey f.id f.version) ∈ c.notifications.rows

namespace Accounted

variable {c : Commerce}

/-- **The key of the next occurrence is free**, for any version that is still to
come. -/
theorem free (h : Accounted rt c) {f : LeadFollowUpRow} (hf : f ∈ c.followUps.rows) {v : ℕ}
    (hv : f.version < v) : c.audits.findUnique (occurrenceKey f.id v) = none ∧
      c.notifications.findUnique (occurrenceKey f.id v) = none := by
  -- the follow-up an occurrence of this key belongs to is this one, at a version it has had
  have hpast : ∀ g ∈ c.followUps.rows, ∀ w ≤ g.version, occurrenceKey f.id v ≠ occurrenceKey g.id w := by
    intro g hg w hw hkey
    obtain ⟨hid, rfl⟩ := occurrenceKey_inj (h.ids f hf) (h.ids g hg) hkey
    obtain rfl := c.followUps.eq_of_key hf hg (mem_keys_id.mpr hid)
      (mem_keys_id.mpr rfl)
    omega
  obtain ⟨rest, hrest⟩ := occurrenceKey_eq_legacyKey f.id v
  constructor
  · refine findUnique_eq_none.mpr fun a ha hkey => ?_
    have hkey : occurrenceKey f.id v = a.idempotencyKey := mem_singleton.mp hkey
    obtain ⟨g, hg, w, hw, -, hstored⟩ := h.audited a ha (.inr ⟨rest, hkey ▸ hrest⟩)
    exact hpast g hg w hw (hkey.trans hstored)
  · refine findUnique_eq_none.mpr fun n hn hkey => ?_
    have hkey : occurrenceKey f.id v = n.deduplicationKey := mem_singleton.mp hkey
    obtain ⟨g, hg, w, hw, hstored⟩ := h.notified n hn (.inr ⟨rest, hkey ▸ hrest⟩)
    exact hpast g hg w hw (hkey.trans hstored)

/-- **No key of the earlier format is taken.** -/
theorem no_legacy (h : Accounted rt c) {id : String} (hid : Canonical id) :
    c.audits.findUnique (legacyKey id) = none ∧ c.notifications.findUnique (legacyKey id) = none := by
  constructor
  · refine findUnique_eq_none.mpr fun a ha hkey => ?_
    have hkey : legacyKey id = a.idempotencyKey := mem_singleton.mp hkey
    obtain ⟨g, hg, w, -, -, hstored⟩ := h.audited a ha (.inr ⟨id, hkey.symm⟩)
    exact legacyKey_ne_occurrenceKey hid (h.ids g hg) w (hkey.trans hstored)
  · refine findUnique_eq_none.mpr fun n hn hkey => ?_
    have hkey : legacyKey id = n.deduplicationKey := mem_singleton.mp hkey
    obtain ⟨g, hg, w, -, hstored⟩ := h.notified n hn (.inr ⟨id, hkey.symm⟩)
    exact legacyKey_ne_occurrenceKey hid (h.ids g hg) w (hkey.trans hstored)

theorem later_row {t t' : Table LeadFollowUpRow keys} (h : t.Grows Advance t')
    {f : LeadFollowUpRow} (hf : f ∈ t.rows) : ∃ f' ∈ t'.rows, f'.id = f.id ∧ f.version ≤ f'.version := by
  obtain ⟨f', hf', rfl | hadvance⟩ := h f hf
  · exact ⟨f', hf', rfl, le_refl _⟩
  · exact ⟨f', hf', hadvance.id_eq, hadvance.version.le⟩

theorem of_followUps (h : Accounted rt c) {t : Table LeadFollowUpRow keys}
    (hgrows : c.followUps.Grows Advance t)
    (hrows : ∀ f ∈ t.rows, f ∈ c.followUps.rows ∨ f.state ≠ .DUE ∧ Canonical f.id) :
    Accounted rt { c with followUps := t } := by
  refine ⟨fun f hf => ?_, fun a ha hreminds => ?_, fun n hn hreminds => ?_, fun f hf hdue => ?_⟩
  · rcases hrows f hf with hmem | ⟨-, hcanonical⟩
    · exact h.ids f hmem
    · exact hcanonical
  · obtain ⟨f, hf, v, hv, hoccurrence, hkey⟩ := h.audited a ha hreminds
    obtain ⟨f', hf', hid, hver⟩ := later_row hgrows hf
    exact ⟨f', hf', v, hv.trans hver, by rw [hid]; exact ⟨hoccurrence, hkey⟩⟩
  · obtain ⟨f, hf, v, hv, hkey⟩ := h.notified n hn hreminds
    obtain ⟨f', hf', hid, hver⟩ := later_row hgrows hf
    exact ⟨f', hf', v, hv.trans hver, by rw [hid]; exact hkey⟩
  · rcases hrows f hf with hmem | ⟨hstate, -⟩
    · exact h.due f hmem hdue
    · exact absurd hdue hstate

theorem of_advance (h : Accounted rt c) {p : LeadFollowUpRow → Prop} [DecidablePred p]
    {f : LeadFollowUpRow → LeadFollowUpRow} (hf : ∀ r, (f r).keys = r.keys)
    (hadvance : ∀ r ∈ c.followUps.rows, p r → Advance r (f r) ∧ (f r).state ≠ .DUE) :
    Accounted rt { c with followUps := c.followUps.updateMany p f hf } := by
  refine h.of_followUps (Grows.of_updateMany hf fun r hr hp => (hadvance r hr hp).1)
    fun x hx => ?_
  obtain ⟨r, hr, rfl⟩ := mem_map.mp hx
  by_cases hp : p r
  · rw [if_pos hp]
    refine .inr ⟨(hadvance r hr hp).2, ?_⟩
    rw [(hadvance r hr hp).1.id_eq]
    exact h.ids r hr
  · rw [if_neg hp]
    exact .inl hr

/-- More events and notifications are accounted for, when what they say of reminders
is. -/
theorem of_records (h : Accounted rt c) {t : Table AuditEventRow AuditEventRow.keys}
    {u : Table InternalNotificationRow InternalNotificationRow.keys}
    (haudits : c.audits.rows ⊆ t.rows) (hnotes : c.notifications.rows ⊆ u.rows)
    (haudited : ∀ a ∈ t.rows, a ∈ c.audits.rows ∨ ¬a.Reminds)
    (hnotified : ∀ n ∈ u.rows, n ∈ c.notifications.rows ∨ (n.Reminds → ∃ f ∈ c.followUps.rows,
      ∃ v ≤ f.version, n.deduplicationKey = occurrenceKey f.id v)) :
    Accounted rt { c with audits := t, notifications := u } := by
  refine ⟨h.ids, fun a ha hreminds => ?_, fun n hn hreminds => ?_, fun f hf hdue => ?_⟩
  · exact h.audited a ((haudited a ha).resolve_right (not_not.mpr hreminds)) hreminds
  · rcases hnotified n hn with hmem | hquiet
    · exact h.notified n hmem hreminds
    · exact hquiet hreminds
  · exact ⟨haudits (h.due f hf hdue).1, hnotes (h.due f hf hdue).2⟩

/-- **A follow-up that becomes due is accounted for**, under the key of its new
version. -/
theorem of_remind (h : Accounted rt c) {r : LeadFollowUpRow}
    {t : Table AuditEventRow AuditEventRow.keys}
    {u : Table InternalNotificationRow InternalNotificationRow.keys} (hr : r ∈ c.followUps.rows)
    (hstate : r.state = .SCHEDULED)
    (haudit : c.audits.create (dueAudit (markRow r) (occurrenceKey r.id (r.version + 1))) = some t)
    (hnotify : c.notifications.create
      (reminder rt (markRow r) (occurrenceKey r.id (r.version + 1))) = some u) :
    Accounted rt { c with followUps := c.followUps.updateMany (Waiting r) markRow keys_markRow
                          audits := t, notifications := u } := by
  have hgrows : c.followUps.Grows Advance
      (c.followUps.updateMany (Waiting r) markRow keys_markRow) :=
    Grows.of_updateMany keys_markRow fun _ _ hp => waiting_advance hp
  have hmarked : markRow r ∈ (c.followUps.updateMany (Waiting r) markRow keys_markRow).rows :=
    mem_map.mpr ⟨r, hr, if_pos ⟨rfl, hstate, rfl⟩⟩
  -- a row of the table is one of before, or the one that became due
  have hrows : ∀ x ∈ (c.followUps.updateMany (Waiting r) markRow keys_markRow).rows,
      x ∈ c.followUps.rows ∨ x = markRow r := by
    intro x hx
    obtain ⟨y, hy, rfl⟩ := mem_map.mp hx
    by_cases hp : Waiting r y
    · rw [if_pos hp, c.followUps.eq_of_key hy hr (mem_keys_id.mpr hp.1)
        (mem_keys_id.mpr rfl)]
      exact .inr rfl
    · rw [if_neg hp]
      exact .inl hy
  refine ⟨fun f hf => ?_, fun a ha hreminds => ?_, fun n hn hreminds => ?_, fun f hf hdue => ?_⟩
  · rcases hrows f hf with hmem | rfl
    · exact h.ids f hmem
    · exact h.ids r hr
  · rcases (mem_create haudit).mp ha with ha | rfl
    · obtain ⟨f, hf, v, hv, hoccurrence, hkey⟩ := h.audited a ha hreminds
      obtain ⟨f', hf', hid, hver⟩ := later_row hgrows hf
      exact ⟨f', hf', v, hv.trans hver, by rw [hid]; exact ⟨hoccurrence, hkey⟩⟩
    · exact ⟨markRow r, hmarked, r.version + 1, le_refl _, ofOccurrence_dueAudit _ _, rfl⟩
  · rcases (mem_create hnotify).mp hn with hn | rfl
    · obtain ⟨f, hf, v, hv, hkey⟩ := h.notified n hn hreminds
      obtain ⟨f', hf', hid, hver⟩ := later_row hgrows hf
      exact ⟨f', hf', v, hv.trans hver, by rw [hid]; exact hkey⟩
    · exact ⟨markRow r, hmarked, r.version + 1, le_refl _, rfl⟩
  · rcases hrows f hf with hmem | rfl
    · obtain ⟨ha, hn⟩ := h.due f hmem hdue
      exact ⟨(mem_create haudit).mpr (.inl ha), (mem_create hnotify).mpr (.inl hn)⟩
    · exact ⟨(mem_create haudit).mpr (.inr rfl), (mem_create hnotify).mpr (.inr rfl)⟩

end Accounted

/-- **Every move keeps account.** -/
theorem Move.accounted {c c' : Commerce} (h : Move rt c c') (hc : Accounted rt c) :
    Accounted rt c' := by
  cases h with
  | write _ _ _ _ => exact ⟨hc.ids, hc.audited, hc.notified, hc.due⟩
  | advance _ hf hadvance => exact hc.of_advance hf hadvance
  | settle _ hf _ _ _ _ hadvance _ _ =>
    have hnext := hc.of_advance hf hadvance
    exact ⟨hnext.ids, hnext.audited, hnext.notified, hnext.due⟩
  | plan hcreate hstate hcanonical _ _ _ _ =>
    refine hc.of_followUps (Grows.of_create hcreate) fun f hf => ?_
    rcases (mem_create hcreate).mp hf with hf | rfl
    · exact .inl hf
    · exact .inr ⟨by rw [hstate]; decide, hcanonical⟩
  | close _ _ _ _ _ hgrows hrows _ =>
    have hnext := hc.of_followUps hgrows fun f hf => (hrows f hf).imp_right fun hnew => by
      obtain ⟨hstate, f₀, hf₀, hid⟩ := hnew
      exact ⟨hstate, hid ▸ hc.ids f₀ hf₀⟩
    exact ⟨hnext.ids, hnext.audited, hnext.notified, hnext.due⟩
  | audit hquiet hcreate =>
    refine hc.of_records (fun x hx => (mem_create hcreate).mpr (.inl hx))
      (Subset.refl _) (fun a ha => ?_) fun n hn => .inl hn
    rcases (mem_create hcreate).mp ha with ha | rfl
    · exact .inl ha
    · exact .inr hquiet
  | notify hquiet hcreate =>
    refine hc.of_records (Subset.refl _)
      (fun x hx => (mem_create hcreate).mpr (.inl hx)) (fun a ha => .inl ha) fun n hn => ?_
    rcases (mem_create hcreate).mp hn with hn | rfl
    · exact .inl hn
    · exact .inr fun hreminds => absurd hreminds hquiet
  | remind hr hstate hkey haudit hnotify =>
    subst hkey
    rcases hnotify with hcreate | ⟨htaken, -⟩
    · exact hc.of_remind hr hstate haudit hcreate
    · rw [(hc.free hr (Nat.lt_succ_self _)).2] at htaken
      cases htaken
  | repair hr hstate hkey haudit hnotify =>
    refine hc.of_records (Subset.refl _)
      (fun x hx => (mem_create hnotify).mpr (.inl hx)) (fun a ha => .inl ha) fun n hn => ?_
    rcases (mem_create hnotify).mp hn with hn | rfl
    · exact .inl hn
    · rcases hkey with rfl | rfl
      · -- no event has a key of the earlier format
        rw [(hc.no_legacy (hc.ids _ hr)).1] at haudit
        cases haudit
      · exact .inr fun _ => ⟨_, hr, _, le_refl _, rfl⟩

/-! ### Exactly one event and one notification -/

namespace Accounted

variable {c : Commerce} {f : LeadFollowUpRow}

theorem audited_once (h : Accounted rt c)
    (ha : dueAudit f (occurrenceKey f.id f.version) ∈ c.audits.rows) :
    c.audits.count (OfOccurrence f.id f.version) = 1 := by
  refine count_eq_one_of_rows (findUnique_of_mem ha (mem_singleton.mpr rfl))
    (ofOccurrence_dueAudit f _) fun a ha hoccurrence => ?_
  obtain ⟨g, hg, v, -, hstored, hkey⟩ := h.audited a ha (.inl hoccurrence.1)
  -- the event says of which occurrence it is
  have hid : g.id = f.id := Option.mem_unique hstored.2.1 hoccurrence.2.1
  have hv : v = f.version :=
    Js.toString_nat_inj (Option.mem_unique hstored.2.2 hoccurrence.2.2)
  rw [AuditEventRow.keys, hkey, hid, hv]
  exact mem_singleton.mpr rfl

theorem notified_once (h : Accounted rt c) (hf : Canonical f.id)
    (hn : reminder rt f (occurrenceKey f.id f.version) ∈ c.notifications.rows) :
    c.notifications.count (TellsOf f.id f.version) = 1 := by
  refine count_eq_one_of_rows (findUnique_of_mem hn (mem_singleton.mpr rfl))
    (.inl rfl) fun n hn htells => ?_
  rcases htells with hkey | hlegacy
  · rw [InternalNotificationRow.keys, hkey]
    exact mem_singleton.mpr rfl
  · exact absurd (mem_singleton.mpr hlegacy.symm)
      (findUnique_eq_none.mp (h.no_legacy hf).2 n hn)

end Accounted

end CrmYnov.Commercial
