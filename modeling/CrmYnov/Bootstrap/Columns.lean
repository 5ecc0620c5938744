import CrmYnov.Bootstrap.Mapping

/-!
# The columns that are read in a table

The status, the source and the temperature of a row come from a list of values. The text of a
cell is normalized and looked up; when it names nothing the value is missing, and a reason to
review the column is recorded instead. A column is *sound* when its value is one of the list
or missing, and is missing exactly when such a reason is recorded
(`CrmYnov.Bootstrap.SoundColumn`).

The tables are plain objects, and what they are asked for is the text of a cell. The members
every object inherits are therefore found as well: a text that names one of them has no reason
to be reviewed, and its value is no text. These texts are the only ones that are not sound.
-/

namespace CrmYnov.Bootstrap

open Checked

def statuses : List String := ["PROSPECT", "CONTACTED", "QUALIFIED", "ENROLLED", "CLOSED_LOST"]

def temperatures : List String := ["COLD", "WARM", "HOT", "UNEVALUATED"]

/-- The reasons for which a status is still to be established. -/
def statusReviews : List String :=
  ["STATUS_MISSING_REVIEW", "HISTORICAL_MILESTONE_STATUS_REVIEW", "STATUS_UNKNOWN"]

/-- The reasons for which a source is still to be established. -/
def sourceReviews : List String := ["SOURCE_UNKNOWN", "REQUIRED_MAPPING_MISSING:source"]

/-- The reasons for which a temperature is still to be established. -/
def temperatureReviews : List String := ["TEMPERATURE_UNKNOWN"]

/-- The value of a column is one of a list or missing, and it is missing exactly when a reason
to review the column is recorded. -/
structure SoundColumn (mapped : MappedRowOf Members) (key : String)
    (domain reviews : List String) : Prop where
  known : ∀ value, mapped.values.member key = some value → ∃ text ∈ domain, value = .own text
  missing : mapped.values.member key = none ↔ ∃ reason ∈ reviews, reason ∈ mapped.reasons

/-- The row can be mapped, and its three columns are sound. -/
def SoundRow (rt : ImportRuntime) (row : SourceRow) (mapping : HistoricalSheetMapping) : Prop :=
  ∃ mapped, mapHistoricalRow rt row mapping = .ok mapped ∧
    SoundColumn mapped "status" statuses statusReviews ∧
    SoundColumn mapped "source" leadSources sourceReviews ∧
    SoundColumn mapped "temperature" temperatures temperatureReviews

/-- The text of a cell, once it is normalized, names a member that every object inherits. -/
def NamesInherited (rt : ImportRuntime) (text : Option String) : Prop :=
  Js.given text = true ∧ normalized rt (text.getD "") ∈ inheritedMembers
deriving Decidable

variable {rt : ImportRuntime} {row : SourceRow} {mapping : HistoricalSheetMapping}
  {mapped : MappedRowOf Members}

/-! ### What a table finds -/

variable {table : List (String × String)}

theorem memberOf_eq_inherited {key name : String} :
    memberOf table key = some (.inherited name) ↔
      table.lookup key = none ∧ key ∈ inheritedMembers ∧ key = name := by
  rw [memberOf]
  cases table.lookup key with
  | some text => simp
  | none =>
    by_cases hkey : key ∈ inheritedMembers
    · simp [hkey]
    · simp [hkey]

theorem memberOf_of_notMem {key : String} (h : key ∉ inheritedMembers) :
    memberOf table key = (table.lookup key).map .own := by
  rw [memberOf, if_neg h, Option.or_none]

theorem mem_of_lookup {key text : String} (h : table.lookup key = some text) :
    text ∈ table.map Prod.snd := by
  induction table with
  | nil => cases h
  | cons entry table ih =>
    rw [List.lookup_cons] at h
    rw [List.map_cons]
    split at h
    · rw [← Option.some.inj h]
      exact List.mem_cons_self
    · exact List.mem_cons_of_mem _ (ih h)

/-! ### The values of a mapped row -/

section Values

variable (h : mapHistoricalRow rt row mapping = .ok mapped)

include h

theorem member_mapped {key : String} (hkey : key ∉ baselineOptionalInformation) :
    mapped.values.member key = (mappedValues rt row mapping).member key := by
  simp only [mapHistoricalRow, ok_iff] at h
  obtain ⟨-, -, rfl⟩ := h
  have hset : ∀ (values : Members) (name : String), name ∈ baselineOptionalInformation →
      Members.member (if lacks row mapping (mappedValues rt row mapping) name then
        values.set name (some (.own "")) else values) key = values.member key := by
    intro values name hname
    split
    · have hne : key ≠ name := fun heq => hkey (heq ▸ hname)
      rw [Members.member, Dict.get_set_of_ne _ _ hne, Members.member]
    · rfl
  simp only [baselineOptionalInformation, List.foldl_cons, List.foldl_nil]
  rw [hset _ "educationLevel" (by simp [baselineOptionalInformation]),
    hset _ "program" (by simp [baselineOptionalInformation])]

theorem mem_reasons {reason : String} :
    reason ∈ mapped.reasons ↔ reason ∈ mappedReasons rt row mapping := by
  simp only [mapHistoricalRow, ok_iff] at h
  obtain ⟨-, -, rfl⟩ := h
  rw [mem_unique]

end Values

theorem member_status :
    (mappedValues rt row mapping).member "status" =
      mappedStatus rt ((rawValues row mapping).text "status") := by
  simp [mappedValues, Members.member, Dict.get_set]

theorem member_source :
    (mappedValues rt row mapping).member "source" =
      mappedSource rt ((rawValues row mapping).text "source") := by
  simp [mappedValues, Members.member, Dict.get_set]

theorem member_temperature :
    (mappedValues rt row mapping).member "temperature" =
      mappedTemperature (rawTemperature rt (rawValues row mapping)) := by
  simp [mappedValues, Members.member]

/-! ### The reasons of a mapped row -/

@[simp] theorem mem_reasonIf {condition : Bool} {reason name : String} :
    reason ∈ reasonIf condition name ↔ condition = true ∧ reason = name := by
  cases condition <;> simp [reasonIf]

theorem ne_formulaReview {reason : String} (h : reason.toList.head? ≠ some 'F') (field : String) :
    reason ≠ formulaReview field := by
  rintro rfl
  exact h (by delta formulaReview; simp)

variable {rawStatus : Option String}

theorem resolution_cases :
    historicalStatusResolutionReason rt rawStatus = some "STATUS_MISSING_REVIEW" ∨
      historicalStatusResolutionReason rt rawStatus = some "HISTORICAL_MILESTONE_STATUS_REVIEW" ∨
        historicalStatusResolutionReason rt rawStatus = none := by
  rw [historicalStatusResolutionReason]
  split_ifs <;> simp

theorem notMem_of_notMem_statusReviews {reason : String} (hreason : reason ∉ statusReviews)
    (rawStatus : Option String) (missing : Bool) :
    reason ∉ (historicalStatusResolutionReason rt rawStatus).elim
      (reasonIf missing "STATUS_UNKNOWN") fun reason => [reason] := by
  refine fun h => hreason ?_
  rcases @resolution_cases rt rawStatus with hcase | hcase | hcase <;> rw [hcase] at h
  · rw [List.mem_singleton.mp h]
    decide
  · rw [List.mem_singleton.mp h]
    decide
  · rw [(mem_reasonIf.mp h).2]
    decide

theorem exists_statusReview :
    (∃ reason ∈ statusReviews, reason ∈ mappedReasons rt row mapping) ↔
      (historicalStatusResolutionReason rt ((rawValues row mapping).text "status")).isSome ∨
        (mappedValues rt row mapping).member "status" = none := by
  have hmissing := @ne_formulaReview "STATUS_MISSING_REVIEW" (by decide)
  have hmilestone := @ne_formulaReview "HISTORICAL_MILESTONE_STATUS_REVIEW" (by decide)
  have hunknown := @ne_formulaReview "STATUS_UNKNOWN" (by decide)
  rcases @resolution_cases rt ((rawValues row mapping).text "status") with h | h | h <;>
    simp [statusReviews, mappedReasons, importFields, baselineOptionalInformation, hmissing,
      hmilestone, hunknown, h]

theorem exists_sourceReview :
    (∃ reason ∈ sourceReviews, reason ∈ mappedReasons rt row mapping) ↔
      ((rawValues row mapping).has "source" = true ∧
        (mappedValues rt row mapping).member "source" = none) ∨
        (mappedValues rt row mapping).has "source" = false := by
  have hunknown := @ne_formulaReview "SOURCE_UNKNOWN" (by decide)
  have hmissing := @ne_formulaReview "REQUIRED_MAPPING_MISSING:source" (by decide)
  have hfirst := @notMem_of_notMem_statusReviews rt "SOURCE_UNKNOWN" (by decide)
  have hlast := @notMem_of_notMem_statusReviews rt "REQUIRED_MAPPING_MISSING:source" (by decide)
  simp [sourceReviews, mappedReasons, importFields, baselineOptionalInformation, hunknown, hmissing,
    hfirst, hlast]

theorem exists_temperatureReview :
    (∃ reason ∈ temperatureReviews, reason ∈ mappedReasons rt row mapping) ↔
      rawTemperature rt (rawValues row mapping) ≠ "" ∧
        (mappedValues rt row mapping).member "temperature" = none := by
  have hunknown := @ne_formulaReview "TEMPERATURE_UNKNOWN" (by decide)
  have hapart := @notMem_of_notMem_statusReviews rt "TEMPERATURE_UNKNOWN" (by decide)
  simp [temperatureReviews, mappedReasons, importFields, baselineOptionalInformation, hunknown,
    hapart]

/-! ### The three columns -/

variable {value : Member}

theorem mappedStatus_known (hname : ¬NamesInherited rt rawStatus)
    (h : mappedStatus rt rawStatus = some value) : ∃ text ∈ statuses, value = .own text := by
  rw [mappedStatus] at h
  split at h
  · rename_i hgiven
    rw [memberOf_of_notMem fun hmem => hname ⟨hgiven, hmem⟩, Option.map_eq_some_iff] at h
    obtain ⟨text, htext, rfl⟩ := h
    have hall : ∀ text ∈ statusMap.map Prod.snd, text ∈ statuses := by decide
    exact ⟨text, hall text (mem_of_lookup htext), rfl⟩
  · cases h

theorem mappedSource_known {original : Option String}
    (hname : ¬NamesInherited rt original) (h : mappedSource rt original = some value) :
    ∃ text ∈ leadSources, value = .own text := by
  rw [mappedSource] at h
  split at h
  · cases h
  · rename_i hgiven
    simp only [memberOf_of_notMem fun hmem => hname ⟨not_not.mp hgiven, hmem⟩] at h
    rcases Option.or_eq_some_iff.mp h with h | ⟨-, h⟩
    · obtain ⟨text, htext, rfl⟩ := Option.map_eq_some_iff.mp h
      have hall : ∀ text ∈ sourceAliases.map Prod.snd, text ∈ leadSources := by decide
      exact ⟨text, hall text (mem_of_lookup htext), rfl⟩
    · split at h
      · rename_i hupper
        exact ⟨_, hupper, (Option.some.inj h).symm⟩
      · cases h

theorem mappedTemperature_known {text : String} (hname : text ∉ inheritedMembers)
    (h : mappedTemperature text = some value) : ∃ text ∈ temperatures, value = .own text := by
  rw [mappedTemperature, memberOf_of_notMem hname] at h
  rcases Option.or_eq_some_iff.mp h with h | ⟨-, h⟩
  · obtain ⟨text, htext, rfl⟩ := Option.map_eq_some_iff.mp h
    have hall : ∀ text ∈ temperatureMap.map Prod.snd, text ∈ temperatures := by decide
    exact ⟨text, hall text (mem_of_lookup htext), rfl⟩
  · split at h
    · exact ⟨"UNEVALUATED", by decide, (Option.some.inj h).symm⟩
    · cases h

theorem mappedStatus_of_resolution (h : (historicalStatusResolutionReason rt rawStatus).isSome) :
    mappedStatus rt rawStatus = none := by
  rw [historicalStatusResolutionReason] at h
  rw [mappedStatus]
  split
  · rename_i hgiven
    rw [if_neg (not_not.mpr hgiven)] at h
    split at h
    · rename_i hmilestone
      have hall : ∀ text ∈ ["a qualifier", "rdv planifie", "rdv effectue", "dossier ouvert"],
          memberOf statusMap text = none := by decide
      exact hall _ hmilestone
    · cases h
  · rfl

theorem memberOf_of_mem {key : String} (h : key ∈ inheritedMembers)
    (htable : ∀ name ∈ inheritedMembers, table.lookup name = none) :
    memberOf table key = some (.inherited key) :=
  memberOf_eq_inherited.mpr ⟨htable key h, h, rfl⟩

theorem mappedStatus_of_names (h : NamesInherited rt rawStatus) :
    ∃ name, mappedStatus rt rawStatus = some (.inherited name) :=
  ⟨_, by rw [mappedStatus, if_pos h.1, memberOf_of_mem h.2 (by decide)]⟩

theorem mappedSource_of_names {original : Option String} (h : NamesInherited rt original) :
    ∃ name, mappedSource rt original = some (.inherited name) := by
  have hmember := @memberOf_of_mem sourceAliases _ h.2 (by decide)
  refine ⟨normalized rt (original.getD ""), ?_⟩
  rw [mappedSource, if_neg (not_not.mpr h.1)]
  simp only [hmember, Option.some_or]

theorem mappedTemperature_of_names {raw : Values} (h : NamesInherited rt (raw.text "temperature")) :
    ∃ name, mappedTemperature (rawTemperature rt raw) = some (.inherited name) := by
  have hmember : memberOf temperatureMap (normalized rt (raw.textD "temperature")) = _ :=
    memberOf_of_mem h.2 (by decide)
  refine ⟨normalized rt (raw.textD "temperature"), ?_⟩
  rw [rawTemperature, Values.has, if_pos h.1, mappedTemperature, hmember, Option.some_or]

/-! ### Rows that are sound -/

section Sound

variable (h : mapHistoricalRow rt row mapping = .ok mapped)

include h

theorem soundStatus_iff :
    SoundColumn mapped "status" statuses statusReviews ↔
      ¬NamesInherited rt ((rawValues row mapping).text "status") := by
  have hmember : mapped.values.member "status" = _ :=
    (member_mapped h (by decide)).trans member_status
  constructor
  · intro hsound hnames
    obtain ⟨name, hname⟩ := mappedStatus_of_names hnames
    obtain ⟨text, -, htext⟩ := hsound.known _ (hmember.trans hname)
    cases htext
  · refine fun hnames => ⟨fun value hvalue => mappedStatus_known hnames (hmember.symm.trans hvalue), ?_⟩
    simp only [mem_reasons h]
    rw [exists_statusReview, hmember, member_status]
    exact ⟨Or.inr, fun hor => hor.elim mappedStatus_of_resolution id⟩

theorem soundSource_iff :
    SoundColumn mapped "source" leadSources sourceReviews ↔
      ¬NamesInherited rt ((rawValues row mapping).text "source") := by
  have hmember : mapped.values.member "source" = _ :=
    (member_mapped h (by decide)).trans member_source
  constructor
  · intro hsound hnames
    obtain ⟨name, hname⟩ := mappedSource_of_names hnames
    obtain ⟨text, -, htext⟩ := hsound.known _ (hmember.trans hname)
    cases htext
  · intro hnames
    refine ⟨fun value hvalue => mappedSource_known hnames (hmember.symm.trans hvalue), ?_⟩
    simp only [mem_reasons h]
    rw [exists_sourceReview, hmember, member_source, Members.has, Members.text, member_source]
    cases hsource : mappedSource rt ((rawValues row mapping).text "source") with
    | none => simp [Js.given]
    | some value =>
      obtain ⟨text, htext, rfl⟩ := mappedSource_known hnames hsource
      have hall : ∀ text ∈ leadSources, Js.given (some text) = true := by decide
      simp [Member.text?, hall text htext]

theorem soundTemperature_iff :
    SoundColumn mapped "temperature" temperatures temperatureReviews ↔
      ¬NamesInherited rt ((rawValues row mapping).text "temperature") := by
  have hmember : mapped.values.member "temperature" = _ :=
    (member_mapped h (by decide)).trans member_temperature
  constructor
  · intro hsound hnames
    obtain ⟨name, hname⟩ := mappedTemperature_of_names hnames
    obtain ⟨text, -, htext⟩ := hsound.known _ (hmember.trans hname)
    cases htext
  · intro hnames
    have hraw : rawTemperature rt (rawValues row mapping) ∉ inheritedMembers := by
      rw [rawTemperature]
      split
      · rename_i hgiven
        exact fun hmem => hnames ⟨hgiven, hmem⟩
      · decide
    refine ⟨fun value hvalue => mappedTemperature_known hraw (hmember.symm.trans hvalue), ?_⟩
    simp only [mem_reasons h]
    rw [exists_temperatureReview, hmember, member_temperature]
    refine ⟨fun hnone => ⟨fun hempty => ?_, hnone⟩, And.right⟩
    rw [hempty, mappedTemperature] at hnone
    simp at hnone

end Sound

theorem mapHistoricalRow_returns (h : ¬NamesInherited rt ((rawValues row mapping).text "source")) :
    ∃ mapped, mapHistoricalRow rt row mapping = .ok mapped := by
  have htext : ((mappedValues rt row mapping).member "source").all
      (fun value => value.text?.isSome) = true := by
    rw [member_source, Option.all_eq_true]
    intro value hvalue
    obtain ⟨text, -, rfl⟩ := mappedSource_known h hvalue
    rfl
  rw [mapHistoricalRow, require_pos htext]
  exact ⟨_, rfl⟩

/-- **A row is sound exactly when none of its three cells names an inherited member.** -/
theorem soundRow_iff :
    SoundRow rt row mapping ↔ ∀ key ∈ ["status", "source", "temperature"],
      ¬NamesInherited rt ((rawValues row mapping).text key) := by
  constructor
  · rintro ⟨mapped, h, hstatus, hsource, htemperature⟩ key hkey
    simp only [List.mem_cons, List.not_mem_nil, or_false] at hkey
    rcases hkey with rfl | rfl | rfl
    · exact (soundStatus_iff h).mp hstatus
    · exact (soundSource_iff h).mp hsource
    · exact (soundTemperature_iff h).mp htemperature
  · intro hnames
    obtain ⟨mapped, h⟩ := mapHistoricalRow_returns (hnames "source" (by decide))
    exact ⟨mapped, h, (soundStatus_iff h).mpr (hnames "status" (by decide)),
      (soundSource_iff h).mpr (hnames "source" (by decide)),
      (soundTemperature_iff h).mpr (hnames "temperature" (by decide))⟩

namespace Sample

/-- A row whose status is written as the name of a member of every object. -/
def strange : SourceRow where
  rowNumber := 7
  cells := .ofList [("A", ⟨.str "Lovelace", none, "s", none, none⟩),
    ("B", ⟨.str "Ada", none, "s", none, none⟩), ("C", ⟨.str "Constructor", none, "s", none, none⟩)]

def strangeMapping : HistoricalSheetMapping where
  name := "JOBINTECH REACT"
  campaign := "Salon"
  fields := .ofList [("lastName", "A"), ("firstName", "B"), ("status", "C")]
  commentColumns := []
  ownerAliases := .empty

end Sample

/-- The row is mapped: its status is the constructor of all objects, and no reason to review it
is recorded. -/
theorem strange_not_sound :
    (∃ mapped, mapHistoricalRow .plain Sample.strange Sample.strangeMapping = .ok mapped ∧
      mapped.values.member "status" = some (.inherited "constructor") ∧
      ∀ reason ∈ statusReviews, reason ∉ mapped.reasons) ∧
      ¬SoundRow .plain Sample.strange Sample.strangeMapping := by
  have hrun : ∃ mapped, mapHistoricalRow .plain Sample.strange Sample.strangeMapping = .ok mapped ∧
      mapped.values.member "status" = some (.inherited "constructor") ∧
      ∀ reason ∈ statusReviews, reason ∉ mapped.reasons := by
    obtain ⟨mapped, hmapped⟩ := @mapHistoricalRow_returns .plain Sample.strange Sample.strangeMapping
      (by decide +kernel)
    refine ⟨mapped, hmapped, (member_mapped hmapped (by decide)).trans (by decide +kernel), ?_⟩
    simp only [mem_reasons hmapped]
    decide +kernel
  refine ⟨hrun, fun ⟨mapped, hmapped, hstatus, _⟩ => ?_⟩
  obtain ⟨mapped', hmapped', hmember, -⟩ := hrun
  rw [hmapped'] at hmapped
  cases hmapped
  obtain ⟨text, -, htext⟩ := hstatus.known _ hmember
  cases htext

end CrmYnov.Bootstrap
