import CrmYnov.Cutover.Guarantees

/-!
# What an inventory records

An inventory is written once and in no order. Each entry is what was read of its payload the
first time it was there (`CrmYnov.Cutover.Recorded`), every transaction keeps the entries there
are, with the issue and the decision they were given, and the rows of a reading may come in any
order (`CrmYnov.Cutover.observeCutover_perm`). All of it along every run is
`CrmYnov.Cutover.inventory_recorded`.
-/

namespace CrmYnov.Cutover

open Checked Keyed Js List Option

variable {rt : Runtime} {bytes : Ledger → ℕ} {L L' : Ledger} {contract : CutoverContract}

/-! ### How long texts are -/

theorem bytes_charsTail (values : List Json) :
    ((Json.charsTail values).map Char.utf8Size).sum =
      1 + (values.map fun value => 1 + jsonBytes value).sum := by
  induction values with
  | nil => rfl
  | cons value values ih =>
    have hcomma : Char.utf8Size ',' = 1 := rfl
    simp only [Json.charsTail, cons_append, map_cons, map_append, sum_cons,
      sum_append, hcomma, ih, jsonBytes]
    omega

theorem jsonBytes_arr (values : List Json) : jsonBytes (.arr values) =
    (values.map fun value => 1 + jsonBytes value).sum + if values = [] then 2 else 1 := by
  cases values with
  | nil => rfl
  | cons value values =>
    have hopen : Char.utf8Size '[' = 1 := rfl
    rw [if_neg (cons_ne_nil value values)]
    simp only [jsonBytes, Json.chars, cons_append, map_cons, map_append,
      sum_cons, sum_append, bytes_charsTail, hopen]
    omega

theorem jsonBytes_perm {values values' : List Json} (h : values.Perm values') :
    jsonBytes (.arr values) = jsonBytes (.arr values') := by
  have hempty : values = [] ↔ values' = [] := by
    rw [← length_eq_zero_iff, h.length_eq, length_eq_zero_iff]
  rw [jsonBytes_arr, jsonBytes_arr, (h.map _).sum_nat]
  simp only [hempty]

/-! ### The order of a reading -/

/-- Two observations of a sheet with its rows in another order. -/
structure SheetObservation.Reordered (o o' : SheetObservation) : Prop where
  sheetId : o.sheetId = o'.sheetId
  range : o.range = o'.range
  values : o.values.Perm o'.values

/-- Two readings of a sheet with its rows in another order. -/
structure SheetValues.Reordered (values values' : SheetValues) : Prop where
  columns : values.columns = values'.columns
  rows : values.rows.Perm values'.rows
  observation : Rel SheetObservation.Reordered values.observation values'.observation

variable {values values' : SheetValues}

theorem SheetValues.Reordered.symm (h : values.Reordered values') : values'.Reordered values := by
  obtain ⟨hcolumns, hrows, ho⟩ := h
  refine ⟨hcolumns.symm, hrows.symm, ?_⟩
  generalize values.observation = o, values'.observation = o' at ho
  cases ho with
  | none => exact .none
  | some ho => exact .some ⟨ho.sheetId.symm, ho.range.symm, ho.values.symm⟩

theorem SheetValues.Reordered.length_eq (h : values.Reordered values') :
    byteLength values.json.stringify = byteLength values'.json.stringify := by
  have hrows := jsonBytes_perm (h.rows.map Payload.json)
  obtain ⟨columns, rows, observation⟩ := values
  obtain ⟨columns', rows', observation'⟩ := values'
  obtain ⟨rfl, -, ho⟩ := h
  rw [byteLength_stringify, byteLength_stringify]
  simp only [jsonBytes] at hrows ⊢
  cases ho with
  | none =>
    simp only [SheetValues.json, Json.present, filterMap_cons, filterMap_nil,
      map_some, map_none, Json.chars, Json.charsMembers, map_cons,
      map_append, sum_cons, sum_append, hrows]
  | @some o o' ho =>
    have hvalues := jsonBytes_perm (ho.values.map fun row => Json.arr (row.map .str))
    simp only [jsonBytes] at hvalues
    simp only [SheetValues.json, Json.present, filterMap_cons, filterMap_nil,
      map_some, Json.chars, Json.charsMembers, map_cons,
      map_append, sum_cons, sum_append, hrows, hvalues, ho.sheetId, ho.range]

structure Reads (rt : Runtime) (contract : CutoverContract) (payload : Payload) (row : SourceRow) :
    Prop where
  externalId : cutoverText (payload.cell contract.externalIdColumn) = .ok row.externalId
  arrival : cutoverInstant rt (payload.cell contract.originalArrivalColumn) =
    .ok row.originalArrivedAt
  key : row.key = sourceKey rt contract row.externalId
  fingerprint : row.fingerprint = cutoverHash rt payload.json
  payload : row.payload = payload

variable {columns : List String}

/-- **What reading a sheet is**: each row that is not blank is read by itself, and no two of
them are of one identity. -/
theorem readRows_ok_iff {payloads : List Payload} {observed : List String} {rows : List SourceRow} :
    readRows rt contract columns observed payloads = .ok rows ↔
      (∀ payload ∈ payloads, ∀ cell ∈ payload.cells, cell.1 ∈ columns ∧ length cell.2 ≤ 4000) ∧
        Forall₂ (Reads rt contract) (payloads.filter fun payload => !payload.isBlank) rows ∧
        (rows.map SourceRow.key).Nodup ∧ ∀ row ∈ rows, row.key ∉ observed := by
  induction payloads generalizing observed rows with
  | nil =>
    rw [readRows, pure_ok_iff]
    constructor
    · rintro rfl
      exact ⟨by simp, .nil, nodup_nil, by simp⟩
    · rintro ⟨-, hreads, -⟩
      cases hreads
      rfl
  | cons payload payloads ih =>
    rw [readRows]
    simp only [ok_iff, forall_mem_cons]
    by_cases hblank : payload.isBlank
    · rw [if_pos hblank, ih, filter_cons, if_neg (by simp [hblank])]
      constructor
      · rintro ⟨⟨⟩, hcells, hall, hrest⟩
        exact ⟨⟨hcells, hall⟩, hrest⟩
      · rintro ⟨⟨hcells, hall⟩, hrest⟩
        exact ⟨(), hcells, hall, hrest⟩
    · rw [if_neg hblank, filter_cons, if_pos (by simp [hblank])]
      simp only [ok_iff, ih]
      constructor
      · rintro ⟨⟨⟩, hcells, externalId, hid, arrived, harrived, ⟨⟩, hunseen, rows', ⟨hall, hreads,
          hkeys, hfresh⟩, rfl⟩
        refine ⟨⟨hcells, hall⟩, .cons ⟨hid, harrived, rfl, rfl, rfl⟩ hreads, ?_, ?_⟩
        · refine nodup_cons.mpr ⟨fun hmem => ?_, hkeys⟩
          obtain ⟨row, hrow, hkey⟩ := mem_map.mp hmem
          exact hfresh row hrow (by rw [hkey]; exact mem_cons_self)
        · intro row hrow
          rcases mem_cons.mp hrow with rfl | hrow
          · exact hunseen
          · exact fun hmem => hfresh row hrow (mem_cons_of_mem _ hmem)
      · rintro ⟨⟨hcells, hall⟩, hreads, hkeys, hfresh⟩
        cases hreads with
        | @cons _ row _ rows hread hreads =>
          obtain ⟨key, externalId, fingerprint, arrived, payload'⟩ := row
          obtain ⟨hid, harrived, hkey, hprint, hpayload⟩ := hread
          obtain rfl : key = sourceKey rt contract externalId := hkey
          obtain rfl : fingerprint = cutoverHash rt payload.json := hprint
          obtain rfl : payload' = payload := hpayload
          rw [map_cons, nodup_cons] at hkeys
          refine ⟨(), hcells, externalId, hid, arrived, harrived, (),
            hfresh _ mem_cons_self, rows, ⟨hall, hreads, hkeys.2, fun row hrow hmem => ?_⟩, rfl⟩
          rcases mem_cons.mp hmem with heq | hmem
          · exact hkeys.1 (mem_map.mpr ⟨row, hrow, heq⟩)
          · exact hfresh row (mem_cons_of_mem _ hrow) hmem

theorem readRows_perm {payloads payloads' : List Payload} {rows : List SourceRow}
    (hperm : payloads.Perm payloads') (h : readRows rt contract columns [] payloads = .ok rows) :
    ∃ rows', rows.Perm rows' ∧ readRows rt contract columns [] payloads' = .ok rows' := by
  obtain ⟨hcells, hreads, hkeys, hunseen⟩ := readRows_ok_iff.mp h
  obtain ⟨rows', hreads', hrows⟩ := perm_comp_forall₂ (hperm.filter _).symm hreads
  refine ⟨rows', hrows.symm, readRows_ok_iff.mpr ⟨fun payload hp => ?_, hreads', ?_, ?_⟩⟩
  · exact hcells payload (hperm.mem_iff.mpr hp)
  · exact (hrows.map SourceRow.key).nodup_iff.mpr hkeys
  · exact fun row hrow => hunseen row (hrows.mem_iff.mp hrow)

theorem key_entryOf (previous : List CutoverEntry) (row : SourceRow) :
    (entryOf contract (Dict.ofList (previous.map fun e => (e.key, e))) row).key = row.key := by
  rw [entryOf]
  split
  · rename_i old hget
    obtain ⟨e, -, heq⟩ := mem_map.mp (Dict.mem_of_get_ofList hget)
    obtain ⟨hkey, rfl⟩ := Prod.mk.inj heq
    exact hkey
  · rfl

section Order

variable {previous : List CutoverEntry} {rows rows' : List SourceRow}

theorem gone_perm (hperm : rows.Perm rows') :
    (previous.filter fun old => old.key ∉ rows.map SourceRow.key) =
      previous.filter fun old => old.key ∉ rows'.map SourceRow.key := by
  refine filter_congr fun old _ => ?_
  exact decide_eq_decide.mpr (not_congr (hperm.map SourceRow.key).mem_iff)

theorem observedEntries_perm (contract : CutoverContract) (previous : List CutoverEntry)
    (hperm : rows.Perm rows') :
    (observedEntries contract previous rows).Perm (observedEntries contract previous rows') := by
  simp only [observedEntries]
  rw [gone_perm hperm]
  exact (hperm.map _).append_right _

/-- **The inventory after a reading does not depend on the order of its rows.** -/
theorem sortEntries_observedEntries (hkeys : (rows.map SourceRow.key).Nodup)
    (hperm : rows.Perm rows') :
    sortEntries (observedEntries contract previous rows) =
      sortEntries (observedEntries contract previous rows') := by
  have hentries : ((rows.map (entryOf contract
      (Dict.ofList (previous.map fun e => (e.key, e))))).map CutoverEntry.key).Nodup := by
    rw [List.map_map]
    exact (map_congr_left fun row _ => key_entryOf previous row).symm ▸ hkeys
  simp only [sortEntries, observedEntries]
  rw [gone_perm hperm]
  exact insertionSort_append (r := fun a b : String => a ≤ b) String.le_total
    (fun _ _ _ => String.le_trans) (fun _ _ => String.le_antisymm) hentries (hperm.map _) _

end Order

theorem SheetValues.Reordered.observes (h : values.Reordered values') {previous : List CutoverEntry}
    {header : Option String} {observed : ObservedCutover}
    (hok : observeCutover rt contract values previous header = .ok observed) :
    observeCutover rt contract values' previous header = .ok observed := by
  simp only [observeCutover, ok_iff] at hok ⊢
  obtain ⟨⟨⟩, hcolumns, ⟨⟩, hbounds, ⟨⟩, hheader, rows, hrows, ⟨⟩, hledger, rfl⟩ := hok
  obtain ⟨rows', hperm, hrows'⟩ := readRows_perm h.rows hrows
  have hentries := observedEntries_perm contract previous hperm
  rw [h.columns] at hcolumns hheader hrows'
  rw [h.length_eq, h.rows.length_eq] at hbounds
  refine ⟨(), hcolumns, (), hbounds, (), hheader, rows', hrows', (), ?_, ?_⟩
  · rw [← hentries.length_eq, byteLength_stringify, ← jsonBytes_perm (hentries.map _),
      ← byteLength_stringify]
    exact hledger
  · rw [h.columns, hperm.length_eq, sortEntries_observedEntries (readRows_ok hrows).1.keys hperm]

/-- **A reading leaves the same inventory whatever the order of its rows.** -/
theorem observeCutover_perm (h : values.Reordered values') (previous : List CutoverEntry)
    (header : Option String) (observed : ObservedCutover) :
    observeCutover rt contract values previous header = .ok observed ↔
      observeCutover rt contract values' previous header = .ok observed :=
  ⟨h.observes, h.symm.observes⟩

/-! ### Instants -/

theorem head_of_isUtcInstant {text : String} (h : isUtcInstant text = true) :
    ∃ c cs, text.toList = c :: cs ∧ isDigit c = true := by
  have hshape : ∀ classes : List (Char → Bool), hasShape (isDigit :: classes) text = true →
      ∃ c cs, text.toList = c :: cs ∧ isDigit c = true := by
    intro classes hshape
    rw [hasShape, Bool.and_eq_true, beq_iff_eq] at hshape
    cases htext : text.toList with
    | nil =>
      rw [htext] at hshape
      cases hshape.1
    | cons c cs =>
      rw [htext, zip_cons_cons, all_cons, Bool.and_eq_true] at hshape
      exact ⟨c, cs, rfl, hshape.2.1⟩
  rw [isUtcInstant, Bool.or_eq_true] at h
  exact h.elim (hshape _) (hshape _)

theorem head_withoutMillis (text : String) :
    (withoutMillis text).toList.head? = text.toList.head? := by
  rw [withoutMillis]
  split
  · rename_i hdrop
    cases htext : text.toList with
    | nil =>
      rw [htext] at hdrop
      cases hdrop
    | cons c cs => simp
  · rfl

theorem fourDigitYear_of_head {t : Instant} {c : Char}
    (h : (isoString t).toList.head? = some c) (hc : isDigit c = true) :
    FourDigitYear t := by
  by_contra hyear
  rw [FourDigitYear] at hyear
  rw [isoString, String.toList_ofList, yearText, if_neg hyear] at h
  simp only [cons_append, head?_cons, some.injEq] at h
  subst h
  split at hc
  · cases hc
  · cases hc

/-- **An instant that is read is the text of one**, of a year from 0 to 9999. -/
theorem cutoverInstant_ok {value : Option String} {text : String}
    (h : cutoverInstant rt value = .ok text) :
    ∃ t : Instant, text = isoString t ∧ FourDigitYear t := by
  simp only [cutoverInstant, ok_iff] at h
  obtain ⟨result, -, ⟨⟩, hshape, date, -, ⟨⟩, hsame, rfl⟩ := h
  refine ⟨date, rfl, ?_⟩
  obtain ⟨c, cs, hresult, hc⟩ := head_of_isUtcInstant hshape
  refine fourDigitYear_of_head (c := c) ?_ hc
  rw [← head_withoutMillis, hsame, head_withoutMillis, hresult, head?_cons]

/-! ### What is recorded -/

/-- **An entry is what was read of its payload**, and is classified by its arrival. -/
structure Recorded (rt : Runtime) (contract : CutoverContract) (entry : CutoverEntry) : Prop where
  externalId : cutoverText (entry.payload.cell contract.externalIdColumn) = .ok entry.externalId
  arrival : cutoverInstant rt (entry.payload.cell contract.originalArrivalColumn) =
    .ok entry.originalArrivedAt
  key : entry.key = sourceKey rt contract entry.externalId
  fingerprint : entry.fingerprint = cutoverHash rt entry.payload.json
  classification : entry.classification =
    if entry.originalArrivedAt < contract.t0 then .EXCLUDED_PRE_T0 else .BACKLOG

theorem Recorded.keeps {old entry : CutoverEntry} (h : Recorded rt contract old)
    (hkeeps : Keeps old entry) : Recorded rt contract entry := by
  have hexternal := congrArg CutoverEntry.externalId hkeeps.same
  have harrival := congrArg CutoverEntry.originalArrivedAt hkeeps.same
  have hkey := congrArg CutoverEntry.key hkeeps.same
  have hprint := congrArg CutoverEntry.fingerprint hkeeps.same
  have hclass := congrArg CutoverEntry.classification hkeeps.same
  have hpayload := congrArg CutoverEntry.payload hkeeps.same
  simp only at hexternal harrival hkey hprint hclass hpayload
  constructor
  · rw [hpayload, hexternal]
    exact h.externalId
  · rw [hpayload, harrival]
    exact h.arrival
  · rw [hkey, hexternal]
    exact h.key
  · rw [hprint, hpayload]
    exact h.fingerprint
  · rw [hclass, harrival]
    exact h.classification

variable {entry : CutoverEntry}

/-- **An excluded entry arrived before `T0`, and no other one did.** -/
theorem Recorded.excluded_iff (h : Recorded rt contract entry) {raw : Option String}
    (hstart : cutoverInstant rt raw = .ok contract.t0) :
    ∃ arrived start : Instant, entry.originalArrivedAt = isoString arrived ∧
      contract.t0 = isoString start ∧
        (entry.classification = .EXCLUDED_PRE_T0 ↔ arrived < start) := by
  obtain ⟨arrived, harrived, hyear⟩ := cutoverInstant_ok h.arrival
  obtain ⟨start, ht0, hyear'⟩ := cutoverInstant_ok hstart
  refine ⟨arrived, start, harrived, ht0, ?_⟩
  rw [h.classification, harrived, ht0, ← isoString_lt_iff hyear hyear']
  split
  · rename_i hlt
    exact iff_of_true rfl hlt
  · rename_i hle
    exact iff_of_false (fun heq => by cases heq) hle

theorem reads_of_mem {payloads : List Payload} {rows : List SourceRow}
    (h : readRows rt contract columns [] payloads = .ok rows) {row : SourceRow} (hrow : row ∈ rows) :
    row.payload ∈ payloads ∧ Reads rt contract row.payload row := by
  obtain ⟨-, hreads, -⟩ := readRows_ok_iff.mp h
  obtain ⟨payload, hpayload, hread⟩ : ∃ payload ∈ payloads.filter fun payload => !payload.isBlank,
      Reads rt contract payload row := by
    obtain ⟨i, hi, hrow⟩ := getElem_of_mem hrow
    have hlt : i < (payloads.filter fun payload => !payload.isBlank).length := by
      rw [hreads.length_eq]
      exact hi
    refine ⟨_, getElem_mem hlt, ?_⟩
    rw [← hrow]
    exact hreads.get hlt hi
  rw [hread.payload]
  exact ⟨(mem_filter.mp hpayload).1, hread⟩

/-- **What a reading adds is recorded**: it is one of its rows. -/
theorem recorded_of_observe {values : SheetValues} {previous : List CutoverEntry}
    {header : Option String} {observed : ObservedCutover}
    (h : observeCutover rt contract values previous header = .ok observed)
    (hentry : entry ∈ observed.entries) :
    (∃ old ∈ previous, Keeps old entry) ∨
      entry.payload ∈ values.rows ∧ Recorded rt contract entry := by
  simp only [observeCutover, ok_iff] at h
  obtain ⟨⟨⟩, -, ⟨⟩, -, ⟨⟩, -, rows, hrows, ⟨⟩, -, rfl⟩ := h
  have hmem := (perm_insertionSort _ _).mem_iff.mp hentry
  rcases mem_observedEntries.mp hmem with ⟨row, hrow, rfl⟩ | ⟨old, hold, -, rfl⟩
  · rw [entryOf]
    split
    · rename_i old hget
      obtain ⟨e, he, heq⟩ := mem_map.mp (Dict.mem_of_get_ofList hget)
      obtain ⟨-, rfl⟩ := Prod.mk.inj heq
      exact .inl ⟨e, he, (continues_reread e row).keeps⟩
    · obtain ⟨hpayload, hread⟩ := reads_of_mem hrows hrow
      exact .inr ⟨hpayload, hread.externalId, hread.arrival, hread.key, hread.fingerprint, rfl⟩
  · exact .inl ⟨old, hold, (continues_removed old).keeps⟩

def AllRecorded (rt : Runtime) (L : Ledger) : Prop :=
  ∀ entry ∈ L.manifest.inventory, Recorded rt L.manifest.contract entry

theorem Recorded.automatic (h : Recorded rt contract entry) (keys : List String) :
    Recorded rt contract (entry.automatic keys) := by
  rw [CutoverEntry.automatic]
  split
  · exact ⟨h.externalId, h.arrival, h.key, h.fingerprint, h.classification⟩
  · exact h

/-- **Every move keeps what is recorded.** -/
theorem Move.recorded (hmove : Move rt bytes L L') (h : Covered rt L) (hall : AllRecorded rt L) :
    AllRecorded rt L' := by
  cases hmove with
  | set hframe hset =>
    rw [hframe]
    intro entry hentry
    simp only [hset.inventory] at hentry
    simp only [hset.contract]
    exact hall entry hentry
  | @decided sourceKey action target next hset =>
    intro entry' hentry'
    simp only [hset.inventory] at hentry'
    obtain ⟨entry, hentry, rfl⟩ := mem_map.mp hentry'
    simp only [hset.contract]
    exact (hall entry hentry).keeps (keeps_decided fun hkey => (hset.open' entry hentry hkey).2.2)
  | observed hacc hnext hobserve =>
    obtain ⟨o, cases, rfl, -⟩ := observeCutoverExceptions_ok h hacc hnext hobserve
    have hread : ∀ entry ∈ _, Recorded rt L.manifest.contract entry := fun entry hentry => by
      rcases recorded_of_observe hacc hentry with ⟨old, hold, hkeeps⟩ | ⟨-, hrecorded⟩
      · exact (hall old hold).keeps hkeeps
      · exact hrecorded
    intro entry' hentry'
    simp only [hnext.contract]
    rcases hnext.inventory with heq | heq
    · simp only [heq] at hentry'
      exact hread entry' hentry'
    · simp only [heq] at hentry'
      obtain ⟨entry, hentry, rfl⟩ := mem_map.mp hentry'
      exact (hread entry hentry).automatic _
  | caughtUp hcatch =>
    obtain ⟨o, references, -, -, -, hmanifest⟩ := (catchUp_ok h hcatch).manifest
    rw [AllRecorded, hmanifest]
    exact hall
  | disposed => exact hall
  | compensated => exact hall

theorem Moves.recorded (hmoves : Moves rt bytes L L') (h : Covered rt L)
    (hall : AllRecorded rt L) : AllRecorded rt L' := by
  induction hmoves with
  | refl => exact hall
  | tail hmoves hmove ih => exact hmove.recorded (Moves.covered hmoves h) ih

theorem recorded_run {s₀ : State} (h₀ : Created s₀) (as : List Action) :
    AllRecorded rt ((machine rt bytes).run s₀ as).ledger := by
  have hrun : ∀ (as : List Action) (s : State), Inv rt s → AllRecorded rt s.ledger →
      AllRecorded rt ((machine rt bytes).run s as).ledger := by
    intro as
    induction as with
    | nil => exact fun _ _ hall => hall
    | cons a as ih =>
      intro s hinv hall
      have hstep : Steps rt bytes s _ := hinv.next a
      exact ih _ hstep.inv (hstep.advances.moves.recorded hinv.ledger.covered hall)
  refine hrun as s₀ (inv_of_created h₀) fun entry hentry => ?_
  rw [h₀.manifest] at hentry
  cases hentry

/-- **An inventory is written once, and in no order**, in every run of a cutover. The entries
there are stay, as they were first read, with the issue and the decision they were given;
each is read of its payload, excluded exactly when it arrived before `T0`; and a reading leaves
the same inventory whatever the order of its rows. -/
theorem inventory_recorded {s₀ : State} (h₀ : Created s₀) {raw : Option String}
    (hstart : cutoverInstant rt raw = .ok s₀.ledger.manifest.contract.t0) (as : List Action) :
    let row := ((machine rt bytes).run s₀ as).ledger.manifest
    (row.inventory.map CutoverEntry.key).Nodup ∧
      (∀ bs, ∀ old ∈ row.inventory, ∃ entry ∈
        ((machine rt bytes).run ((machine rt bytes).run s₀ as) bs).ledger.manifest.inventory,
          Keeps old entry) ∧
      (∀ entry ∈ row.inventory, Recorded rt row.contract entry ∧
        ∃ arrived start : Instant, entry.originalArrivedAt = isoString arrived ∧
          row.contract.t0 = isoString start ∧
            (entry.classification = .EXCLUDED_PRE_T0 ↔ arrived < start)) ∧
      (∀ values observed, observeCutover rt row.contract values row.inventory row.headerSha256 =
          .ok observed → ∀ entry ∈ observed.entries,
        (∃ old ∈ row.inventory, Keeps old entry) ∨ entry.payload ∈ values.rows) ∧
      ∀ contract values values' previous header, values.Reordered values' → ∀ observed,
        observeCutover rt contract values previous header = .ok observed ↔
          observeCutover rt contract values' previous header = .ok observed := by
  intro row
  have hinv := inv_run rt bytes h₀ as
  have hlater : Inv rt _ ∧ Later s₀.ledger ((machine rt bytes).run s₀ as).ledger :=
    (inv_of_created h₀).run as
  refine ⟨hinv.ledger.covered.sound.reviewable.keys, fun bs => (hinv.run bs).2.inventory,
    fun entry hentry => ?_, fun values observed hok entry hentry => ?_,
    fun contract values values' previous header h => observeCutover_perm h previous header⟩
  · have hrecorded := recorded_run h₀ as entry hentry
    refine ⟨hrecorded, hrecorded.excluded_iff (hstart.trans ?_)⟩
    rw [hlater.2.contract]
  · exact (recorded_of_observe hok hentry).imp id And.left

theorem start_sample :
    cutoverInstant Sample.runtime (some "2026-09-01T00:00:00.000Z") = .ok Sample.contract.t0 := by
  decide +kernel

theorem inventory_opening : ((machine Sample.runtime Sample.small).run Sample.start
    Sample.opening).ledger.manifest.inventory.map CutoverEntry.key = ["#"] := by
  delta machine State.step State.observed observe observeCutover
  simp only [byteLength_stringify]
  decide +kernel

/-- The visitor of the sample is recorded. -/
theorem inventory_recorded_opening : ∃ row : StoredCutover, ∃ entry ∈ row.inventory,
    entry.key = "#" ∧ Recorded Sample.runtime row.contract entry := by
  have hmem := mem_singleton_self "#"
  rw [← inventory_opening] at hmem
  obtain ⟨entry, hentry, hkey⟩ := List.mem_map.mp hmem
  exact ⟨_, entry, hentry, hkey, ((inventory_recorded Sample.created_start start_sample
    Sample.opening).2.2.1 entry hentry).1⟩

end CrmYnov.Cutover
