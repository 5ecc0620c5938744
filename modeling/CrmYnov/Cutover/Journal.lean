import CrmYnov.Cutover.Evidence

/-!
# The journal of the exceptions

The journal gives each evidence its case: the one the last observation named, as long as it is
valid, or a new one in the next generation. A case it names is valid for its evidence and the
latest of its slot (`CrmYnov.Cutover.Named`), the cases there were stay as they are, and
nothing but the bound of the journal, or an identifier that is taken, keeps it from being
written (`CrmYnov.Cutover.journal_ok`, `CrmYnov.Cutover.journal_error`).
-/

namespace CrmYnov.Cutover

open Checked Keyed Table CutoverExceptionCase

variable {rt : Runtime}

/-! ### Cases -/

/-- A case is the one of its evidence, and what it keeps is what was read. -/
structure CaseSound (rt : Runtime) (item : CutoverExceptionCase) : Prop where
  digest : item.evidenceSha256 = cutoverExceptionEvidenceHash rt item.evidence
  payload : ∀ fingerprint ∈ item.evidence.source.fingerprint, ∃ payload,
    item.observedPayload = some payload ∧ fingerprint = cutoverHash rt payload.json

structure Latest (cases : List CutoverExceptionCase) (item : CutoverExceptionCase) : Prop where
  mem : item ∈ cases
  latest : ∀ c ∈ cases, c.slot = item.slot → c.generation ≤ item.generation

/-- **A reference names the case of an evidence**: the latest of its slot. -/
structure Named (rt : Runtime) (cases : List CutoverExceptionCase) (ev : CutoverExceptionEvidence)
    (r : CutoverExceptionReference) : Prop where
  slot : r.slot = ev.slot
  digest : r.evidenceSha256 = cutoverExceptionEvidenceHash rt ev
  item : ∃ item, item.id = r.caseId ∧ validCase rt item ev = true ∧ Latest cases item

variable {item : CutoverExceptionCase} {ev : CutoverExceptionEvidence}

theorem slot_of_validCase (h : validCase rt item ev = true) :
    item.slot = ev.slot ∧ item.evidenceSha256 = cutoverExceptionEvidenceHash rt ev := by
  have hvalid := of_decide_eq_true h
  exact ⟨Prod.ext hvalid.1 hvalid.2.1, hvalid.2.2.1⟩

theorem Latest.append {cases more : List CutoverExceptionCase} (h : Latest cases item)
    (hmore : ∀ c ∈ more, c.slot ≠ item.slot) :
    Latest (cases ++ more) item where
  mem := List.mem_append_left more h.mem
  latest c hc hslot := by
    rcases List.mem_append.mp hc with hc | hc
    · exact h.latest c hc hslot
    · exact absurd hslot (hmore c hc)

theorem le_foldl_max {l : List ℕ} {a n : ℕ} (h : n ≤ a ∨ n ∈ l) : n ≤ l.foldl max a := by
  induction l generalizing a with
  | nil =>
    rcases h with h | h
    · exact h
    · cases h
  | cons b l ih =>
    rw [List.foldl_cons]
    rcases h with h | h
    · exact ih (.inl (le_max_of_le_left h))
    · rcases List.mem_cons.mp h with rfl | h
      · exact ih (.inl (le_max_right a n))
      · exact ih (.inr h)

variable {existing : List CutoverExceptionCase}

theorem lt_nextGeneration {c : CutoverExceptionCase} (hc : c ∈ existing) (hslot : c.slot = ev.slot) :
    c.generation < nextGeneration existing ev := by
  obtain ⟨hkey, hkind⟩ := Prod.mk.inj hslot
  have hmem : c.generation ∈ (existing.filter fun item => item.sourceKey = ev.sourceKey ∧
      item.kind = ev.kind).map generation :=
    List.mem_map.mpr ⟨c, List.mem_filter.mpr ⟨hc, decide_eq_true ⟨hkey, hkind⟩⟩, rfl⟩
  have hle := le_foldl_max (a := 0) (.inr hmem)
  rw [nextGeneration]
  omega

/-! ### Payloads -/

/-- What the payload of a new case can be taken from. -/
structure Payable (rt : Runtime) (inventory : List CutoverEntry) (rows : List SourceRow)
    (ev : CutoverExceptionEvidence) : Prop where
  row : ∀ row ∈ rows, row.key = ev.sourceKey →
    ev.source.fingerprint = some (cutoverHash rt row.payload.json)
  somewhere : ev.source.present → (∃ row ∈ rows, row.key = ev.sourceKey) ∨
    ∃ entry ∈ inventory, entry.key = ev.sourceKey ∧
      some entry.fingerprint = ev.source.fingerprint

/-- **The payload of a case that can be paid for is found.** -/
theorem casePayload_ok {inventory : List CutoverEntry} {rows : List SourceRow}
    (hkeys : (inventory.map CutoverEntry.key).Nodup)
    (hprints : ∀ entry ∈ inventory, entry.fingerprint = cutoverHash rt entry.payload.json)
    (hcases : ∀ c ∈ existing, CaseSound rt c) (h : Payable rt inventory rows ev) :
    ∃ payload, casePayload rt inventory existing rows ev = .ok payload := by
  by_cases hpresent : ev.source.present
  · obtain ⟨payload, hfound, hprint⟩ : ∃ payload,
        payloadOf inventory existing rows ev = some payload ∧
          ev.source.fingerprint = some (cutoverHash rt payload.json) := by
      cases hrow : rows.find? fun row => row.key = ev.sourceKey with
      | some row =>
        refine ⟨row.payload, by rw [payloadOf, hrow]; rfl, ?_⟩
        exact h.row row (List.mem_of_find?_eq_some hrow) (by simpa using List.find?_some hrow)
      | none =>
        -- without a row the entry is as it was first read, and so is every case of this reading
        have hnone := List.find?_eq_none.mp hrow
        rcases h.somewhere hpresent with ⟨row, hmem, hkey⟩ | ⟨entry, hentry, hkey, hprint⟩
        · exact absurd (decide_eq_true hkey) (hnone row hmem)
        · cases hcase : existing.find? fun item => item.sourceKey = ev.sourceKey ∧
              item.evidence.source.fingerprint = ev.source.fingerprint with
          | some item =>
            have hitem : item.sourceKey = ev.sourceKey ∧
                item.evidence.source.fingerprint = ev.source.fingerprint := by
              simpa using List.find?_some hcase
            obtain ⟨payload, hpayload, hdigest⟩ :=
              (hcases item (List.mem_of_find?_eq_some hcase)).payload entry.fingerprint
                (by rw [hitem.2, ← hprint]; rfl)
            refine ⟨payload, by rw [payloadOf, hrow, hcase]; simp [hpayload], ?_⟩
            rw [← hprint, hdigest]
          | none =>
            refine ⟨entry.payload, ?_, by rw [← hprint, hprints entry hentry]⟩
            rw [payloadOf, hrow, hcase, (find?_eq_some hkeys).mpr ⟨hentry, hkey⟩]
            simp [hprint]
    refine ⟨some payload, ?_⟩
    rw [casePayload, if_pos hpresent, hfound]
    simp [hprint]
  · exact ⟨none, by rw [casePayload, if_neg hpresent]; rfl⟩

variable {payload : Option Payload}

theorem of_casePayload {inventory : List CutoverEntry} {rows : List SourceRow}
    (h : casePayload rt inventory existing rows ev = .ok payload) :
    if ev.source.present then
      ∃ p, payload = some p ∧ ev.source.fingerprint = some (cutoverHash rt p.json)
    else payload = none := by
  rw [casePayload] at h
  split at h
  · rename_i hpresent
    simp only [ok_iff] at h
    obtain ⟨p, -, ⟨⟩, hprint, rfl⟩ := h
    rw [if_pos hpresent]
    exact ⟨p, rfl, hprint⟩
  · rename_i hpresent
    rw [if_neg hpresent]
    exact (pure_ok_iff.mp h).symm

/-! ### The loop -/

def newCase (rt : Runtime) (ev : CutoverExceptionEvidence) (id : String) (generation : ℕ)
    (observedPayload : Option Payload) : CutoverExceptionCase where
  id
  sourceKey := ev.sourceKey
  kind := ev.kind
  generation
  evidenceSha256 := cutoverExceptionEvidenceHash rt ev
  evidence := ev
  observedPayload

theorem validCase_newCase (id : String) (generation : ℕ)
    (h : if ev.source.present then
        ∃ p, payload = some p ∧ ev.source.fingerprint = some (cutoverHash rt p.json)
      else payload = none) : validCase rt (newCase rt ev id generation payload) ev = true := by
  refine decide_eq_true ⟨rfl, rfl, rfl, rfl, ?_⟩
  split
  · rename_i hpresent
    rw [if_pos hpresent] at h
    obtain ⟨p, rfl, hprint⟩ := h
    exact decide_eq_true hprint
  · rename_i hpresent
    rw [if_neg hpresent] at h
    rw [newCase, h]
    rfl

theorem caseSound_newCase (id : String) (generation : ℕ)
    (hshape : ¬ev.source.present → ev.source.fingerprint = none)
    (h : if ev.source.present then
        ∃ p, payload = some p ∧ ev.source.fingerprint = some (cutoverHash rt p.json)
      else payload = none) : CaseSound rt (newCase rt ev id generation payload) where
  digest := rfl
  payload fingerprint hmem := by
    have hprint : ev.source.fingerprint = some fingerprint := hmem
    by_cases hpresent : ev.source.present
    · rw [if_pos hpresent] at h
      obtain ⟨p, hp, hdigest⟩ := h
      exact ⟨p, hp, Option.mem_unique hprint hdigest⟩
    · exact absurd (hprint.symm.trans (hshape hpresent)) (Option.some_ne_none _)

/-- What the references of the last observation are, for some evidences. -/
def Referred (previous : List CutoverExceptionReference) (cases : List CutoverExceptionCase)
    (evidences : List CutoverExceptionEvidence) : Prop :=
  ∀ ev ∈ evidences, ∀ r ∈ previous, r.slot = ev.slot →
    ∃ item, item.id = r.caseId ∧ item.slot = ev.slot ∧ Latest cases item

theorem of_keptCase {previous : List CutoverExceptionReference}
    (h : keptCase rt previous existing ev = some item) :
    ∃ r ∈ previous, r.slot = ev.slot ∧ item.id = r.caseId ∧ item ∈ existing ∧
      validCase rt item ev = true := by
  simp only [keptCase, Option.bind_eq_bind, Option.bind_eq_some_iff, Option.pure_def,
    Option.some.injEq] at h
  obtain ⟨r, hr, item', hitem, _, hvalid, rfl⟩ := h
  have hslot : r.sourceKey = ev.sourceKey ∧ r.kind = ev.kind := by
    simpa using List.find?_some hr
  refine ⟨r, List.mem_of_find?_eq_some hr, Prod.ext hslot.1 hslot.2,
    by simpa using List.find?_some hitem, List.mem_of_find?_eq_some hitem, ?_⟩
  simpa [guard] using hvalid

section Loop

variable {inventory : List CutoverEntry} {previous : List CutoverExceptionReference}
  {rows : List SourceRow} {caseId : ℕ → String}

variable {stored : Table CutoverExceptionCase keys}

theorem eq_of_caseId {c c' : CutoverExceptionCase} (hc : c ∈ stored.rows) (hc' : c' ∈ stored.rows)
    (hid : c.id = c'.id) : c = c' :=
  stored.eq_of_key (k := .id c.id) hc hc' (by simp [keys])
    (by simp [keys, hid])

/-- **What the journal writes**: a case for each evidence, and cases are only added. -/
theorem journalCases_ok {evidences : List CutoverExceptionEvidence}
    {stored stored' : Table CutoverExceptionCase keys}
    {references : List CutoverExceptionReference} (hexisting : ∀ c, c ∈ existing ↔ c ∈ stored.rows)
    (hslots : (evidences.map CutoverExceptionEvidence.slot).Nodup)
    (hprev : Referred previous stored.rows evidences)
    (hshape : ∀ ev ∈ evidences, ¬ev.source.present → ev.source.fingerprint = none)
    (h : journalCases rt inventory previous rows caseId evidences existing stored =
      .ok (references, stored')) :
    List.Forall₂ (Named rt stored'.rows) evidences references ∧
      ∃ more, stored'.rows = stored.rows ++ more ∧
        ∀ c ∈ more, CaseSound rt c ∧ ∃ ev ∈ evidences, c.slot = ev.slot := by
  induction evidences generalizing existing stored references stored' with
  | nil =>
    cases h
    exact ⟨.nil, [], by simp, by simp⟩
  | cons ev evidences ih =>
    rw [List.map_cons, List.nodup_cons] at hslots
    have hapart : ∀ c : CutoverExceptionCase, (∃ ev' ∈ evidences, c.slot = ev'.slot) →
        c.slot ≠ ev.slot := fun c ⟨ev', hev', hc⟩ heq =>
      hslots.1 (List.mem_map.mpr ⟨ev', hev', by rw [← hc, heq]⟩)
    have hshape' : ∀ ev' ∈ evidences, ¬ev'.source.present → ev'.source.fingerprint = none :=
      fun ev' hev' => hshape ev' (List.mem_cons_of_mem ev hev')
    rw [journalCases] at h
    cases hkept : keptCase rt previous existing ev with
    | some item =>
      rw [hkept] at h
      simp only [ok_iff, Prod.exists] at h
      obtain ⟨references', stored'', htail, rfl, rfl⟩ := h
      obtain ⟨r, hr, hrslot, hid, hitem, hvalid⟩ := of_keptCase hkept
      obtain ⟨hnamed, more, hmore, hnew⟩ := ih hexisting hslots.2
        (fun ev' hev' => hprev ev' (List.mem_cons_of_mem ev hev')) hshape' htail
      obtain ⟨hslot, hdigest⟩ := slot_of_validCase hvalid
      obtain ⟨item', hid', -, hlatest⟩ := hprev ev List.mem_cons_self r hr hrslot
      obtain rfl : item' = item :=
        eq_of_caseId hlatest.mem ((hexisting item).mp hitem) (hid'.trans hid.symm)
      refine ⟨.cons ⟨hslot, hdigest, item', rfl, hvalid, ?_⟩ hnamed, more, hmore, fun c hc => ?_⟩
      · rw [hmore]
        refine hlatest.append fun c hc => ?_
        rw [hslot]
        exact hapart c (hnew c hc).2
      · obtain ⟨hsound, ev', hev', hc'⟩ := hnew c hc
        exact ⟨hsound, ev', List.mem_cons_of_mem ev hev', hc'⟩
    | none =>
      rw [hkept] at h
      simp only [ok_iff, Prod.exists, insert_ok_iff] at h
      obtain ⟨payload, hpayload, stored₁, hcreate, references', stored'', htail, rfl, rfl⟩ := h
      have hpay := of_casePayload hpayload
      have hrows₁ := create_rows hcreate
      have hvalid := validCase_newCase (caseId stored.rows.length) (nextGeneration existing ev) hpay
      have hsound := caseSound_newCase (caseId stored.rows.length) (nextGeneration existing ev)
        (hshape ev List.mem_cons_self) hpay
      have hprev₁ : Referred previous stored₁.rows evidences := by
        intro ev' hev' r hr hrslot
        obtain ⟨item, hid, hslot, hlatest⟩ :=
          hprev ev' (List.mem_cons_of_mem ev hev') r hr hrslot
        refine ⟨item, hid, hslot, ?_⟩
        rw [hrows₁]
        refine hlatest.append fun c hc => ?_
        obtain rfl := List.mem_singleton.mp hc
        rw [hslot]
        exact fun heq => hslots.1 (List.mem_map.mpr ⟨ev', hev', heq.symm⟩)
      obtain ⟨hnamed, more, hmore, hnew⟩ := ih
        (fun c => by rw [List.mem_append, List.mem_singleton, mem_create hcreate, hexisting])
        hslots.2 hprev₁ hshape' htail
      refine ⟨.cons ⟨rfl, rfl, _, rfl, hvalid, ?_⟩ hnamed,
        newCase rt ev (caseId stored.rows.length) (nextGeneration existing ev) payload :: more,
        ?_, fun c hc => ?_⟩
      · rw [hmore, hrows₁]
        refine Latest.append ⟨List.mem_append_right _ List.mem_cons_self, fun c hc hslot => ?_⟩
          fun c hc => hapart c (hnew c hc).2
        rcases List.mem_append.mp hc with hc | hc
        · exact (lt_nextGeneration ((hexisting c).mpr hc) hslot).le
        · obtain rfl := List.mem_singleton.mp hc
          exact le_rfl
      · rw [hmore, hrows₁, List.append_assoc]
        rfl
      · rcases List.mem_cons.mp hc with rfl | hc
        · exact ⟨hsound, ev, List.mem_cons_self, rfl⟩
        · obtain ⟨hsound', ev', hev', hc'⟩ := hnew c hc
          exact ⟨hsound', ev', List.mem_cons_of_mem ev hev', hc'⟩

/-- The identifiers that are drawn are not taken. -/
structure Free (stored : Table CutoverExceptionCase keys)
    (caseId : ℕ → String) : Prop where
  injective : Function.Injective caseId
  free : ∀ c ∈ stored.rows, ∀ n, stored.rows.length ≤ n → c.id ≠ caseId n

theorem keptCase_append (h : (keptCase rt previous existing ev).isSome) :
    (keptCase rt previous (existing ++ [item]) ev).isSome := by
  obtain ⟨kept, hkept⟩ := Option.isSome_iff_exists.mp h
  simp only [keptCase, Option.bind_eq_bind, Option.bind_eq_some_iff, Option.pure_def,
    Option.some.injEq] at hkept
  obtain ⟨r, hr, item', hitem, u, hvalid, rfl⟩ := hkept
  have hfound : (existing ++ [item]).find? (fun item => item.id = r.caseId) = some item' := by
    rw [List.find?_append, hitem, Option.some_or]
  rw [keptCase, hr]
  simp only [Option.bind_eq_bind, Option.bind_some, hfound, hvalid]
  rfl

variable (rt) in
theorem create_newCase (hexisting : ∀ c, c ∈ existing ↔ c ∈ stored.rows)
    (hfree : Free stored caseId) (ev : CutoverExceptionEvidence) (payload : Option Payload) :
    (stored.create (newCase rt ev (caseId stored.rows.length) (nextGeneration existing ev)
      payload)).isSome := by
  refine create_isSome.mpr fun k hk => findUnique_eq_none.mpr fun c hc hkc => ?_
  simp only [keys, List.mem_cons, List.not_mem_nil, or_false] at hk hkc
  rcases hk with rfl | rfl
  · rcases hkc with hid | hgen
    · exact hfree.free c hc _ le_rfl (Key.id.inj hid).symm
    · cases hgen
  · rcases hkc with hid | hgen
    · cases hid
    · obtain ⟨hkey, hkind, hgen⟩ := Key.generation.inj hgen
      have hlt := lt_nextGeneration ((hexisting c).mpr hc)
        (Prod.ext hkey.symm hkind.symm : c.slot = ev.slot)
      exact absurd hgen.symm hlt.ne

theorem Free.create {stored stored' : Table CutoverExceptionCase keys}
    (h : Free stored caseId) (hcreate : stored.create item = some stored')
    (hid : item.id = caseId stored.rows.length) :
    Free stored' caseId where
  injective := h.injective
  free c hc n hn := by
    rw [create_rows hcreate, List.length_append, List.length_singleton] at hn
    rcases (mem_create hcreate).mp hc with hc | rfl
    · exact h.free c hc n (by omega)
    · rw [hid]
      exact fun heq => absurd (h.injective heq) (by omega)

/-- **Only a taken identifier keeps the cases from being written.** -/
theorem journalCases_error {evidences : List CutoverExceptionEvidence} {e : Failure}
    (hkeys : (inventory.map CutoverEntry.key).Nodup)
    (hprints : ∀ entry ∈ inventory, entry.fingerprint = cutoverHash rt entry.payload.json)
    (hexisting : ∀ c, c ∈ existing ↔ c ∈ stored.rows) (hcases : ∀ c ∈ stored.rows, CaseSound rt c)
    (hshape : ∀ ev ∈ evidences, ¬ev.source.present → ev.source.fingerprint = none)
    (hpay : ∀ ev ∈ evidences, (keptCase rt previous existing ev).isSome ∨
      Payable rt inventory rows ev)
    (h : journalCases rt inventory previous rows caseId evidences existing stored = .error e) :
    e = .database ∧ ¬Free stored caseId := by
  induction evidences generalizing existing stored with
  | nil => cases h
  | cons ev evidences ih =>
    have hshape' : ∀ ev' ∈ evidences, ¬ev'.source.present → ev'.source.fingerprint = none :=
      fun ev' hev' => hshape ev' (List.mem_cons_of_mem ev hev')
    have hpay' : ∀ ev' ∈ evidences, (keptCase rt previous existing ev').isSome ∨
        Payable rt inventory rows ev' := fun ev' hev' => hpay ev' (List.mem_cons_of_mem ev hev')
    rw [journalCases] at h
    cases hkept : keptCase rt previous existing ev with
    | some item =>
      rw [hkept] at h
      cases htail : journalCases rt inventory previous rows caseId evidences existing stored with
      | error e' =>
        rw [htail] at h
        cases h
        exact ih hexisting hcases hshape' hpay' htail
      | ok r =>
        rw [htail] at h
        cases h
    | none =>
      rw [hkept] at h
      have hpayable : Payable rt inventory rows ev := by
        refine (hpay ev List.mem_cons_self).resolve_left fun hsome => ?_
        rw [hkept] at hsome
        cases hsome
      obtain ⟨payload, hpayload⟩ := casePayload_ok hkeys hprints
        (fun c hc => hcases c ((hexisting c).mp hc)) hpayable
      simp only [hpayload, ok_bind] at h
      have hsound := caseSound_newCase (caseId stored.rows.length) (nextGeneration existing ev)
        (hshape ev List.mem_cons_self) (of_casePayload hpayload)
      cases hcreate : stored.create (newCase rt ev (caseId stored.rows.length)
          (nextGeneration existing ev) payload) with
      | none =>
        have hins : insert stored (newCase rt ev (caseId stored.rows.length)
            (nextGeneration existing ev) payload) = .error .database := by
          rw [insert, hcreate]
          rfl
        rw [newCase] at hins
        rw [hins, error_bind] at h
        cases h
        refine ⟨rfl, fun hfree => ?_⟩
        have hsome := create_newCase rt hexisting hfree ev payload
        rw [hcreate] at hsome
        cases hsome
      | some stored₁ =>
        have hins := insert_ok_iff.mpr hcreate
        rw [newCase] at hins
        rw [hins, ok_bind] at h
        have hexisting₁ : ∀ c, c ∈ existing ++ [newCase rt ev (caseId stored.rows.length)
            (nextGeneration existing ev) payload] ↔ c ∈ stored₁.rows := fun c => by
          rw [List.mem_append, List.mem_singleton, mem_create hcreate, hexisting]
        cases htail : journalCases rt inventory previous rows caseId evidences
            (existing ++ [newCase rt ev (caseId stored.rows.length) (nextGeneration existing ev)
              payload]) stored₁ with
        | error e' =>
          have hcases₁ : ∀ c ∈ stored₁.rows, CaseSound rt c := fun c hc => by
            rcases (mem_create hcreate).mp hc with hc | rfl
            · exact hcases c hc
            · exact hsound
          have heq : e' = e := by
            rw [newCase] at htail
            rw [htail] at h
            cases h
            rfl
          rw [heq] at htail
          obtain ⟨hdb, hfree⟩ := ih hexisting₁ hcases₁ hshape'
            (fun ev' hev' => (hpay' ev' hev').imp_left keptCase_append) htail
          exact ⟨hdb, fun hstored => hfree (hstored.create hcreate rfl)⟩
        | ok r =>
          rw [newCase] at htail
          rw [htail] at h
          cases h

end Loop

end CrmYnov.Cutover
