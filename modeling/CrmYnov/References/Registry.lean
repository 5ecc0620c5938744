import CrmYnov.Auth.Principal
import CrmYnov.Base.Machine
import CrmYnov.References.Resolver

/-!
# The registry of references

References are created and updated by requests. Each of the texts that name a reference – its
code, its labels, old and new, its aliases – is kept as a key, normalized, in the scope of the
reference: everywhere, or one campus. A key belongs to one reference of its kind in its scope, and
`resolveReference` looks for it in both scopes at once; it answers nothing when a reference of
each of them has the key.

`References.Registry.references_resolve` says that this collision is all that can come between a
reference and its texts, in every state that the requests reach, and that nothing but the arrival
of such a key changes what a text resolves to. The collision does occur
(`References.Registry.Sample.collides`): the two scopes are not compared when a key is kept, and a
text that is in both is left to be resolved explicitly.
-/

namespace Table

variable {ρ κ : Type*} {keys : ρ → List κ} [DecidableEq κ]

/-- Rows are changed along with their keys, unless two of them then have one in common. -/
def rewrite (t : Table ρ keys) (f : ρ → ρ) : Option (Table ρ keys) :=
  if h : (t.rows.map f).Pairwise fun r r' => ∀ k ∈ keys r, k ∉ keys r' then
    some ⟨t.rows.map f, h.imp fun h k hk hk' => h k hk hk'⟩
  else none

theorem rewrite_rows {t t' : Table ρ keys} {f : ρ → ρ} (h : t.rewrite f = some t') :
    t'.rows = t.rows.map f := by
  rw [rewrite] at h
  split at h
  · rw [← Option.some.inj h]
  · cases h

end Table

namespace CrmYnov.References

open Checked Table CrmYnov.Runtime List

namespace Registry

inductive State
  | ACTIVE | ARCHIVED | LEGACY
deriving DecidableEq

/-- `ReferenceScope` -/
inductive Scope
  | GLOBAL | CAMPUS
deriving DecidableEq

/-- A row of `crm_references`, with what a request may change of it. -/
structure Reference where
  id : String
  kind : ReferenceKind
  (code label : String)
  scope : Scope
  campusId : Option String
  scopeKey : String
  state : State := .ACTIVE
  version : ℕ := 1
deriving DecidableEq

def Reference.keys (r : Reference) : List CrmReference.Key :=
  [.id r.id, .code r.kind r.scopeKey r.code]

/-- The constraints `crm_references_scope` and `crm_references_global`. -/
def Reference.Constrained (r : Reference) : Prop :=
  (r.scope = .GLOBAL ∧ r.campusId = none ∧ r.scopeKey = "GLOBAL" ∨
      r.scope = .CAMPUS ∧ r.campusId = some r.scopeKey ∧ Canonical r.scopeKey) ∧
    (r.kind ∈ [ReferenceKind.CAMPAIGN, .TAG] ∨ r.scope = .GLOBAL)
deriving Decidable

structure ReferenceInput where
  kind : ReferenceKind
  (code label : String)
  scope : Scope
  campusId : Option String
  aliases : Option (List String) := none

/-- `ReferenceUpdate`; a campus may be left as it is, or be set to none. -/
structure ReferenceUpdate where
  label : Option String := none
  state : Option State := none
  scope : Option Scope := none
  campusId : Option (Option String) := none
  aliases : Option (List String) := none
  expectedVersion : ℤ

structure LeadTexts where
  (campus program campaign : String)

structure Context where
  scope : Scope
  campusKeys : List String
  active : Bool

/-- What the other services and the world answer during a request. -/
structure Circumstances where
  /-- `permissions.assertCan(principal, key, context)` -/
  assertCan : String → Context → Outcome Unit
  /-- A lead has the tag. -/
  tagged : String → Bool
  /-- The texts of the leads, each combination once. -/
  leads : List LeadTexts
  randomUUID : String
  /-- The identifiers that the rows of an inventory draw. -/
  legacyId : ReferenceKind → String → String

/-- The tables of references and of their keys. -/
structure Store where
  references : Table Reference Reference.keys := empty
  keys : Table CrmReferenceKey CrmReferenceKey.keys := empty

section

variable (rt : Runtime) (isWord : Char → Bool)

variable (s : Store)

variable (kind : ReferenceKind)

/-- The rows in which a text is looked up. -/
def found (raw : String) (campusId : Option String) : List CrmReferenceKey :=
  s.keys.findMany fun k =>
    k.kind = kind ∧ k.key = referenceKey rt raw ∧
      (k.scopeKey = "GLOBAL" ∨ campusId = some k.scopeKey)

def resolveReference (raw : String) (campusId : Option String := none) : Option Reference :=
  match found rt s kind raw campusId with
  | [row] => s.references.findUnique (.id row.referenceId)
  | _ => none

def referenceText (value : String) : Outcome String := do
  require (Js.present value ∧ Js.length value ≤ 120 ∧
      ∀ c ∈ value.toList, isWord c ∨ c ∈ " .,%'’()_/-".toList)
    (.badRequest "reference_text_invalid")
  pure (Js.trim value)

def referenceId (value : String) : Outcome Unit :=
  require (isUuidText value) (.badRequest "reference_id_invalid")

def referenceVersion (value : ℤ) : Outcome Unit :=
  require (1 ≤ value ∧ value ≤ 9007199254740991) (.badRequest "reference_version_required")

def validateAliases (aliases : Option (List String)) : Outcome Unit :=
  match aliases with
  | none => pure ()
  | some aliases => do
    require (aliases.length ≤ 20) (.badRequest "reference_alias_invalid")
    let _ ← aliases.mapM (referenceText isWord)
    pure ()

def validateReferenceScope (scope : Scope) (campusId : Option String) : Outcome Unit :=
  match scope, campusId with
  | .GLOBAL, none => pure ()
  | _, _ => do
    require (scope = .CAMPUS ∧ kind ∈ [ReferenceKind.CAMPAIGN, .TAG])
      (.badRequest "reference_scope_invalid")
    referenceId (campusId.getD "")

/-- The code of a new reference: campuses keep their case. -/
def inputCode (code : String) : Outcome String := do
  let text ← referenceText isWord code
  pure (if kind = .CAMPUS then text else referenceKey rt text)

def validateReferenceInput (input : ReferenceInput) : Outcome ReferenceInput := do
  let code ← inputCode rt isWord input.kind input.code
  require (input.kind = .CAMPUS → Js.length code ≤ 80) (.badRequest "reference_text_invalid")
  require (input.kind = .SCHOLARSHIP → code ∈ ["20", "30", "40"])
    (.badRequest "scholarship_rate_invalid")
  validateReferenceScope input.kind input.scope input.campusId
  validateAliases isWord input.aliases
  let label ← referenceText isWord input.label
  pure { input with code, label }

def get (id : String) : Outcome Reference := do
  referenceId id
  demand ((readUuid id).bind fun id => s.references.findUnique (.id id))
    (.notFound "reference_not_found")

def campus (s : Store) (id : String) : Outcome Reference := do
  let campus ← get s id
  require (campus.kind = .CAMPUS ∧ campus.state = .ACTIVE) (unknownReference "campus")
  pure campus

def campusKeys (campus : Reference) : List String :=
  campus.id :: campus.code :: campus.label ::
    (s.keys.findMany fun k => k.referenceId = campus.id).map CrmReferenceKey.key

def definitionContext (scope : Scope) (campusId : Option String) : Outcome Context :=
  match campusId with
  | none => pure ⟨scope, [], true⟩
  | some id => do
    let row ← campus s id
    pure ⟨scope, campusKeys s row, true⟩

def context (reference : Reference) : Outcome Context :=
  match reference.campusId with
  | none => pure ⟨reference.scope, [], reference.state = .ACTIVE⟩
  | some id => do
    let row ← get s id
    pure ⟨reference.scope, campusKeys s row, reference.state = .ACTIVE⟩

def managePermission : String :=
  if kind = .TAG then "lead.tags.manage" else "lead.references.manage"

def campaignInUse (reference : Reference) (leads : List LeadTexts) : Prop :=
  reference.kind = .CAMPAIGN ∧ ∃ lead ∈ leads,
    referenceKey rt lead.campaign ∈
      (s.keys.findMany fun k => k.referenceId = reference.id).map CrmReferenceKey.key
deriving Decidable

/-- The failure of a request whose keys are taken. -/
def canonicalConflict : Failure := .conflict "reference_canonical_conflict"

/-- The failure of a request that the constraints of the database refuse. -/
def unavailable : Failure := .http .serviceUnavailable "reference_store_unavailable"

def claim (row : Reference) (t : Table CrmReferenceKey CrmReferenceKey.keys) (key : String) :
    Outcome (Table CrmReferenceKey CrmReferenceKey.keys) :=
  match t.findUnique (row.kind, row.scopeKey, key) with
  | some existing => do
    require (existing.referenceId = row.id) canonicalConflict
    pure t
  | none => demand (t.create ⟨row.id, row.kind, row.scopeKey, key⟩) canonicalConflict

/-- `keys` -/
def claimKeys (t : Table CrmReferenceKey CrmReferenceKey.keys) (row : Reference)
    (values : List String) : Outcome (Table CrmReferenceKey CrmReferenceKey.keys) :=
  (unique (values.map (referenceKey rt))).foldlM (claim row) t

/-- The row that a creation stores. -/
def created (input : ReferenceInput) (id : String) : Reference where
  id := id
  kind := input.kind
  code := input.code
  label := input.label
  scope := input.scope
  campusId := input.campusId
  scopeKey := input.campusId.getD "GLOBAL"

def create (raw : ReferenceInput) (c : Circumstances) : Outcome (Reference × Store) := do
  let input ← validateReferenceInput rt isWord raw
  let context ← definitionContext s input.scope input.campusId
  c.assertCan (managePermission input.kind) context
  let row := created input c.randomUUID
  require row.Constrained unavailable
  let references ← demand (s.references.create row) canonicalConflict
  let keys ← claimKeys rt s.keys row ([input.code, input.label] ++ input.aliases.getD [])
  pure (row, ⟨references, keys⟩)

variable (current : Reference)

/-- What an update asks for: the scope and the campus that are not given stay. -/
def target (input : ReferenceUpdate) : Scope × Option String :=
  (input.scope.getD current.scope, input.campusId.getD current.campusId)

def mayMove (scope : Scope) (campusId : Option String) (c : Circumstances) : Outcome Unit :=
  if scope = current.scope ∧ campusId = current.campusId then pure ()
  else do
    let context ← definitionContext s scope campusId
    c.assertCan (managePermission current.kind) context
    require (¬c.tagged current.id ∧ ¬campaignInUse rt s current c.leads)
      (.conflict "reference_scope_in_use")

/-- An update that changes the state of a reference needs a permission of its own. -/
def mayArchive (input : ReferenceUpdate) (context : Context) (c : Circumstances) : Outcome Unit :=
  if input.state.isSome ∧ current.kind ≠ .TAG then c.assertCan "lead.references.archive" context
  else pure ()

def nextLabel (input : ReferenceUpdate) : Outcome String :=
  match input.label with
  | none => pure current.label
  | some label => referenceText isWord label

def updated (input : ReferenceUpdate) (label : String) : Reference :=
  let (scope, campusId) := target current input
  { current with
    label
    state := input.state.getD current.state
    scope
    campusId
    scopeKey := campusId.getD "GLOBAL"
    version := current.version + 1 }

def moveKeys (t : Table CrmReferenceKey CrmReferenceKey.keys) (current next : Reference) :
    Outcome (Table CrmReferenceKey CrmReferenceKey.keys) :=
  if next.scopeKey = current.scopeKey then pure t
  else demand (t.rewrite fun k =>
      if k.referenceId = current.id then { k with scopeKey := next.scopeKey } else k)
    canonicalConflict

def update (id : String) (input : ReferenceUpdate) (c : Circumstances) :
    Outcome (Reference × Store) := do
  referenceId id
  referenceVersion input.expectedVersion
  validateAliases isWord input.aliases
  require (input.state ≠ some .LEGACY) (.badRequest "reference_state_invalid")
  let current ← get s id
  let context ← context s current
  c.assertCan (managePermission current.kind) context
  mayArchive current input context c
  require (current.version = input.expectedVersion) (.conflict "reference_version_conflict")
  require (current.state ≠ .LEGACY) (.conflict "reference_legacy_immutable")
  let (scope, campusId) := target current input
  validateReferenceScope current.kind scope campusId
  mayMove rt s current scope campusId c
  let label ← nextLabel isWord current input
  let next := updated current input label
  require next.Constrained unavailable
  let references ← demand (s.references.rewrite fun r => if r.id = current.id then next else r)
    canonicalConflict
  let keys ← moveKeys s.keys current next
  let keys ← claimKeys rt keys next (next.label :: input.aliases.getD [])
  pure (next, ⟨references, keys⟩)

def legacyCode (value : String) : String :=
  "LEGACY_" ++ String.ofList ((rt.sha256 value).toList.take 40)

/-- One text of a lead is inventoried, unless it is blank or resolved. -/
def inventory (c : Circumstances) (lead : LeadTexts) (s : Store)
    (entry : ReferenceKind × String) : Outcome Store :=
  let campus := (resolveReference rt s .CAMPUS lead.campus).map Reference.id
  if ¬Js.present entry.2 ∨ (resolveReference rt s entry.1 entry.2 campus).isSome ∨
      (s.references.findUnique (.code entry.1 "GLOBAL" (legacyCode rt entry.2))).isSome then pure s
  else do
    let row : Reference :=
      { id := c.legacyId entry.1 entry.2, kind := entry.1, code := legacyCode rt entry.2
        label := entry.2, scope := .GLOBAL, campusId := none, scopeKey := "GLOBAL"
        state := .LEGACY }
    let references ← demand (s.references.create row) canonicalConflict
    pure { s with references }

/-- `captureLegacy`: what is answered is how many rows are created. -/
def captureLegacy (c : Circumstances) : Outcome (ℕ × Store) := do
  c.assertCan "settings.global.manage" ⟨.GLOBAL, [], true⟩
  let s' ← c.leads.foldlM (fun s lead => [(ReferenceKind.CAMPUS, lead.campus),
    (.PROGRAM, lead.program), (.CAMPAIGN, lead.campaign)].foldlM (inventory rt c lead) s) s
  pure (s'.references.rows.length - s.references.rows.length, s')

end

inductive Request
  | create (input : ReferenceInput)
  | update (id : String) (input : ReferenceUpdate)
  | captureLegacy

inductive Reply
  | reference (row : Reference)
  | inventoried (created : ℕ)
deriving DecidableEq

/-- One request: one that is refused leaves the tables as they were. -/
def step (rt : Runtime) (isWord : Char → Bool) (s : Store) (c : Circumstances) :
    Request → Outcome Reply × Store
  | .create input =>
    match create rt isWord s input c with
    | .error e => (.error e, s)
    | .ok (row, s) => (.ok (.reference row), s)
  | .update id input =>
    match update rt isWord s id input c with
    | .error e => (.error e, s)
    | .ok (row, s) => (.ok (.reference row), s)
  | .captureLegacy =>
    match captureLegacy rt s c with
    | .error e => (.error e, s)
    | .ok (created, s) => (.ok (.inventoried created), s)

def registry (rt : Runtime) (isWord : Char → Bool) :
    Machine Store (Request × Circumstances) (Outcome Reply) where
  step s a := step rt isWord s a.2 a.1

/-! ### What the requests change -/

def Keyed (rt : Runtime) (s : Store) (r : Reference) (text : String) : Prop :=
  (⟨r.id, r.kind, r.scopeKey, referenceKey rt text⟩ : CrmReferenceKey) ∈ s.keys.rows

/-- **What every reachable registry keeps**: its rows meet their constraints, a key belongs to a
reference of its kind and its scope, and a reference that is not a legacy one has its code and its
label among its keys. -/
structure Sound (rt : Runtime) (s : Store) : Prop where
  constrained : ∀ r ∈ s.references.rows, r.Constrained
  owned : ∀ k ∈ s.keys.rows, ∃ r ∈ s.references.rows,
    r.id = k.referenceId ∧ r.kind = k.kind ∧ r.scopeKey = k.scopeKey
  named : ∀ r ∈ s.references.rows, r.state ≠ .LEGACY →
    Keyed rt s r r.code ∧ Keyed rt s r r.label

/-- **What a creation or an update does**: one reference is new or changed and gains the keys of
some texts, its other keys follow it to its scope, and the other references keep theirs. -/
structure Changed (rt : Runtime) (s s' : Store) (row : Reference) (texts : List String) : Prop where
  constrained : row.Constrained
  current : row.state ≠ .LEGACY
  references : ∀ r, r ∈ s'.references.rows ↔ r = row ∨ r ∈ s.references.rows ∧ r.id ≠ row.id
  others : ∀ k : CrmReferenceKey, k.referenceId ≠ row.id → (k ∈ s'.keys.rows ↔ k ∈ s.keys.rows)
  own : ∀ k ∈ s'.keys.rows, k.referenceId = row.id → k.kind = row.kind ∧ k.scopeKey = row.scopeKey
  kept : ∀ k ∈ s.keys.rows, k.referenceId = row.id →
    { k with scopeKey := row.scopeKey } ∈ s'.keys.rows
  keyed : ∀ text ∈ texts, Keyed rt s' row text
  label : row.label ∈ texts
  code : row.code ∈ texts ∨ ∃ old ∈ s.references.rows,
    old.id = row.id ∧ old.kind = row.kind ∧ old.code = row.code ∧ old.state ≠ .LEGACY

variable {r row : Reference} {texts : List String} {c : Circumstances}

section

variable {rt : Runtime} {isWord : Char → Bool} {s s' : Store}

theorem findUnique_id {t : Table Reference Reference.keys} (hr : r ∈ t.rows) :
    t.findUnique (.id r.id) = some r :=
  findUnique_of_mem hr (mem_cons_self ..)

theorem eq_of_id {t : Table Reference Reference.keys} {r r' : Reference} (hr : r ∈ t.rows)
    (hr' : r' ∈ t.rows) (hid : r.id = r'.id) : r = r' := by
  refine t.eq_of_key (k := .id r.id) hr hr' (mem_cons_self ..) ?_
  rw [hid]
  exact mem_cons_self ..

/-- **A reference that changes keeps the registry sound.** -/
theorem Sound.changed (hs : Sound rt s) (h : Changed rt s s' row texts) : Sound rt s' where
  constrained := by
    intro r hr
    rcases (h.references r).mp hr with rfl | ⟨hr, -⟩
    · exact h.constrained
    · exact hs.constrained r hr
  owned := by
    intro k hk
    by_cases hid : k.referenceId = row.id
    · obtain ⟨hkind, hscope⟩ := h.own k hk hid
      exact ⟨row, (h.references row).mpr (Or.inl rfl), hid.symm, hkind.symm, hscope.symm⟩
    · obtain ⟨r, hr, hrid, hkind, hscope⟩ := hs.owned k ((h.others k hid).mp hk)
      exact ⟨r, (h.references r).mpr (Or.inr ⟨hr, by rwa [hrid]⟩), hrid, hkind, hscope⟩
  named := by
    intro r hr hstate
    rcases (h.references r).mp hr with rfl | ⟨hr, hid⟩
    · refine ⟨?_, h.keyed _ h.label⟩
      rcases h.code with hcode | ⟨old, hold, hid, hkind, hcode, hlegacy⟩
      · exact h.keyed _ hcode
      · have hkept := h.kept _ (hs.named old hold hlegacy).1 hid
        rwa [Keyed, ← hid, ← hkind, ← hcode]
    · exact ⟨(h.others _ hid).mpr (hs.named r hr hstate).1,
        (h.others _ hid).mpr (hs.named r hr hstate).2⟩

theorem claim_ok {t t' : Table CrmReferenceKey CrmReferenceKey.keys} {key : String}
    (h : claim row t key = .ok t') (k : CrmReferenceKey) :
    k ∈ t'.rows ↔ k ∈ t.rows ∨ k = ⟨row.id, row.kind, row.scopeKey, key⟩ := by
  rw [claim] at h
  split at h
  · rename_i existing hexisting
    simp only [ok_iff] at h
    obtain ⟨_, hid, rfl⟩ := h
    obtain ⟨hmem, hkey⟩ := findUnique_eq_some.mp hexisting
    refine ⟨Or.inl, fun hk => hk.elim id ?_⟩
    rintro rfl
    have heq := mem_singleton.mp hkey
    simp only [Prod.mk.injEq] at heq
    obtain ⟨hkind, hscope, hkey⟩ := heq
    rw [← hid, hkind, hscope, hkey]
    exact hmem
  · exact mem_create (demand_ok_iff.mp h)

/-- **The keys of some texts are kept**, and nothing else changes. -/
theorem claimKeys_ok {t t' : Table CrmReferenceKey CrmReferenceKey.keys}
    (h : claimKeys rt t row texts = .ok t') (k : CrmReferenceKey) :
    k ∈ t'.rows ↔ k ∈ t.rows ∨
      ∃ text ∈ texts, k = ⟨row.id, row.kind, row.scopeKey, referenceKey rt text⟩ := by
  have hall : ∀ (keys : List String) (t t' : Table CrmReferenceKey CrmReferenceKey.keys),
      keys.foldlM (claim row) t = .ok t' → (k ∈ t'.rows ↔ k ∈ t.rows ∨
        ∃ key ∈ keys, k = ⟨row.id, row.kind, row.scopeKey, key⟩) := by
    intro keys
    induction keys with
    | nil =>
      intro t t' h
      rw [foldlM_nil, pure_ok_iff] at h
      rw [h]
      simp
    | cons key keys ih =>
      intro t t' h
      rw [foldlM_cons, bind_ok_iff] at h
      obtain ⟨t₁, hclaim, hrest⟩ := h
      rw [ih t₁ t' hrest, claim_ok hclaim, or_assoc]
      simp
  rw [hall _ _ _ h]
  simp

/-- **What a creation does.** -/
theorem create_ok (hs : Sound rt s) {raw : ReferenceInput}
    (h : create rt isWord s raw c = .ok (row, s')) :
    ∃ texts, raw.aliases.getD [] ⊆ texts ∧ Changed rt s s' row texts := by
  simp only [create, ok_iff] at h
  obtain ⟨input, hinput, _, -, _, -, _, hconstrained, references, hcreate, keys, hkeys, rfl, rfl⟩ :=
    h
  have haliases : input.aliases = raw.aliases := by
    simp only [validateReferenceInput, ok_iff] at hinput
    obtain ⟨_, -, _, -, _, -, _, -, _, -, _, -, rfl⟩ := hinput
    rfl
  set row := created input c.randomUUID with hrow
  have hfresh : ∀ r ∈ s.references.rows, r.id ≠ row.id := by
    intro r hr hid
    have hnone := findUnique_of_create hcreate (mem_cons_self .. : _ ∈ row.keys)
    rw [← hid, findUnique_id hr] at hnone
    cases hnone
  have hmem := claimKeys_ok hkeys
  refine ⟨_, ?_, hconstrained, by change State.ACTIVE ≠ _; decide, fun r => ?_, fun k hid => ?_,
    fun k hk hid => ?_, fun k hk hid => ?_,
    fun text htext => (hmem _).mpr (Or.inr ⟨text, htext, rfl⟩), ?_, Or.inl ?_⟩
  · rw [haliases]
    exact subset_append_right _ _
  · rw [mem_create hcreate, or_comm]
    refine or_congr_right ⟨fun hr => ⟨hr, hfresh r hr⟩, And.left⟩
  · rw [hmem]
    refine or_iff_left ?_
    rintro ⟨text, -, rfl⟩
    exact hid rfl
  · rcases (hmem k).mp hk with hk | ⟨text, -, rfl⟩
    · obtain ⟨r, hr, hrid, -, -⟩ := hs.owned k hk
      exact absurd (hrid.trans hid) (hfresh r hr)
    · exact ⟨rfl, rfl⟩
  · obtain ⟨r, hr, hrid, -, -⟩ := hs.owned k hk
    exact absurd (hrid.trans hid) (hfresh r hr)
  · simp [hrow, created]
  · simp [hrow, created]

theorem moveKeys_ok (hs : Sound rt s) {current next : Reference}
    (hcur : current ∈ s.references.rows) {t : Table CrmReferenceKey CrmReferenceKey.keys}
    (h : moveKeys s.keys current next = .ok t) :
    t.rows = s.keys.rows.map fun k =>
      if k.referenceId = current.id then { k with scopeKey := next.scopeKey } else k := by
  rw [moveKeys] at h
  split at h
  · rename_i hsame
    obtain rfl := pure_ok_iff.mp h
    refine ((map_congr_left fun k hk => ?_).trans (map_id _)).symm
    split
    · rename_i hid
      obtain ⟨r, hr, hrid, -, hscope⟩ := hs.owned k hk
      obtain rfl := eq_of_id hr hcur (hrid.trans hid)
      rw [hsame, hscope, id_eq]
    · rfl
  · exact rewrite_rows (demand_ok_iff.mp h)

/-- **What an update does.** -/
theorem update_ok (hs : Sound rt s) {id : String} {input : ReferenceUpdate}
    (h : update rt isWord s id input c = .ok (row, s')) :
    ∃ texts, input.aliases.getD [] ⊆ texts ∧ Changed rt s s' row texts := by
  simp only [update, ok_iff] at h
  obtain ⟨_, -, _, -, _, -, _, hasked, current, hget, _, -, _, -, _, -, _, -, _, hlegacy, _, -, _,
    -, label, -, _, hconstrained, references, hrewrite, moved, hmove, keys, hkeys, rfl, rfl⟩ := h
  have hcur : current ∈ s.references.rows := by
    simp only [get, ok_iff] at hget
    obtain ⟨_, -, hfind⟩ := hget
    obtain ⟨_, -, hfind⟩ := Option.bind_eq_some_iff.mp hfind
    exact (findUnique_eq_some.mp hfind).1
  set row := updated current input label with hrow
  have hid : row.id = current.id := rfl
  have hstate : row.state ≠ .LEGACY := by
    change input.state.getD current.state ≠ _
    cases hs : input.state with
    | none => exact hlegacy
    | some state =>
      rintro rfl
      exact hasked hs
  have hmoved : ∀ k, k ∈ moved.rows ↔ k.referenceId ≠ row.id ∧ k ∈ s.keys.rows ∨
      k.referenceId = row.id ∧ k.scopeKey = row.scopeKey ∧
        ∃ old ∈ s.keys.rows, old.referenceId = row.id ∧ old.kind = k.kind ∧ old.key = k.key := by
    intro k
    rw [moveKeys_ok hs hcur hmove, mem_map]
    constructor
    · rintro ⟨old, hold, rfl⟩
      split
      · rename_i hown
        exact Or.inr ⟨hown, rfl, old, hold, hown, rfl, rfl⟩
      · rename_i hother
        exact Or.inl ⟨hother, hold⟩
    · rintro (⟨hother, hk⟩ | ⟨hown, hscope, old, hold, hid', hkind, hkey⟩)
      · exact ⟨k, hk, if_neg hother⟩
      · refine ⟨old, hold, ?_⟩
        rw [if_pos (by exact hid')]
        cases k
        cases old
        simp_all
  have hmem := claimKeys_ok hkeys
  refine ⟨_, subset_cons_self _ _, hconstrained, hstate, fun r => ?_, fun k hother => ?_,
    fun k hk hown => ?_, fun k hk hown => ?_,
    fun text htext => (hmem _).mpr (Or.inr ⟨text, htext, rfl⟩), mem_cons_self ..,
    Or.inr ⟨current, hcur, rfl, rfl, rfl, hlegacy⟩⟩
  · rw [rewrite_rows hrewrite, mem_map]
    constructor
    · rintro ⟨old, hold, rfl⟩
      split
      · exact Or.inl rfl
      · rename_i hother
        exact Or.inr ⟨hold, hother⟩
    · rintro (rfl | ⟨hr, hother⟩)
      · exact ⟨current, hcur, if_pos rfl⟩
      · exact ⟨r, hr, if_neg hother⟩
  · rw [hmem, hmoved]
    constructor
    · rintro ((⟨-, hk⟩ | ⟨hown, -⟩) | ⟨text, -, rfl⟩)
      · exact hk
      · exact absurd hown hother
      · exact absurd rfl hother
    · intro hk
      exact Or.inl (Or.inl ⟨hother, hk⟩)
  · rcases (hmem k).mp hk with hk | ⟨text, -, rfl⟩
    · rcases (hmoved k).mp hk with ⟨hother, -⟩ | ⟨-, hscope, old, hold, hid', hkind, -⟩
      · exact absurd hown hother
      · obtain ⟨r, hr, hrid, hrkind, -⟩ := hs.owned old hold
        obtain rfl := eq_of_id hr hcur (hrid.trans hid')
        exact ⟨hkind.symm.trans hrkind.symm, hscope⟩
    · exact ⟨rfl, rfl⟩
  · exact (hmem _).mpr (Or.inl ((hmoved _).mpr (Or.inr ⟨hown, rfl, k, hk, hown, rfl, rfl⟩)))

end

/-! ### What a text resolves to -/

/-- The reference answers to its keys in the campus: everywhere if it is global. -/
def Applies (r : Reference) (campusId : Option String) : Prop :=
  r.scopeKey = "GLOBAL" ∨ campusId = some r.scopeKey

/-- Another reference of the kind has the text among its keys, and one of the two is global, the
other one of the campus. -/
structure Rival (rt : Runtime) (s : Store) (r : Reference) (text : String)
    (campusId : Option String) (r' : Reference) : Prop where
  stored : r' ∈ s.references.rows
  kind : r'.kind = r.kind
  keyed : Keyed rt s r' text
  scopes : r.scopeKey = "GLOBAL" ∧ r'.scopeKey ≠ "GLOBAL" ∧ campusId = some r'.scopeKey ∨
    r.scopeKey ≠ "GLOBAL" ∧ r'.scopeKey = "GLOBAL"

/-- The text resolves to the reference, or it has a rival and the text resolves to nothing. -/
def Resolves (rt : Runtime) (s : Store) (r : Reference) (text : String)
    (campusId : Option String) : Prop :=
  resolveReference rt s r.kind text campusId = some r ∧ (¬∃ r', Rival rt s r text campusId r') ∨
    resolveReference rt s r.kind text campusId = none ∧ ∃ r', Rival rt s r text campusId r'

section

variable {rt : Runtime} {isWord : Char → Bool} {s s' : Store}

variable {kind : ReferenceKind} {text : String} {campusId : Option String}

theorem mem_found {k : CrmReferenceKey} : k ∈ found rt s kind text campusId ↔ k ∈ s.keys.rows ∧
      k.kind = kind ∧ k.key = referenceKey rt text ∧
        (k.scopeKey = "GLOBAL" ∨ campusId = some k.scopeKey) :=
  mem_findMany

theorem nodup_found (kind : ReferenceKind) (text : String) (campusId : Option String) :
    (found rt s kind text campusId).Nodup := by
  have hnodup := s.keys.nodup_keys (k := fun k => (k.kind, k.scopeKey, k.key))
    fun k => mem_singleton.mpr rfl
  exact (Nodup.of_map _ hnodup).filter _

theorem eq_of_found {k k' : CrmReferenceKey} (hk : k ∈ found rt s kind text campusId)
    (hk' : k' ∈ found rt s kind text campusId) (hscope : k.scopeKey = k'.scopeKey) : k = k' := by
  obtain ⟨hmem, hkind, hkey, -⟩ := mem_found.mp hk
  obtain ⟨hmem', hkind', hkey', -⟩ := mem_found.mp hk'
  refine s.keys.eq_of_key hmem hmem' (mem_singleton.mpr rfl) (mem_singleton.mpr ?_)
  rw [hkind, hkind', hkey, hkey', hscope]

/-- **A text among the keys of a reference resolves to it, unless the reference has a rival.** -/
theorem resolves (hs : Sound rt s) (hr : r ∈ s.references.rows) (hkeyed : Keyed rt s r text)
    (happlies : Applies r campusId) : Resolves rt s r text campusId := by
  have hown : (⟨r.id, r.kind, r.scopeKey, referenceKey rt text⟩ : CrmReferenceKey) ∈
      found rt s r.kind text campusId := mem_found.mpr ⟨hkeyed, rfl, rfl, happlies⟩
  by_cases hone : found rt s r.kind text campusId =
      [⟨r.id, r.kind, r.scopeKey, referenceKey rt text⟩]
  · refine Or.inl ⟨?_, ?_⟩
    · rw [resolveReference, hone]
      exact findUnique_id hr
    · rintro ⟨r', hstored, hkind, hkeyed', hscopes⟩
      have hother : (⟨r'.id, r'.kind, r'.scopeKey, referenceKey rt text⟩ : CrmReferenceKey) ∈
          found rt s r.kind text campusId := by
        refine mem_found.mpr ⟨hkeyed', hkind, rfl, ?_⟩
        rcases hscopes with ⟨-, -, hcampus⟩ | ⟨-, hglobal⟩
        · exact Or.inr hcampus
        · exact Or.inl hglobal
      rw [hone, mem_singleton, CrmReferenceKey.mk.injEq] at hother
      rcases hscopes with ⟨hglobal, hne, -⟩ | ⟨hne, hglobal⟩
      · exact hne (hother.2.2.1.trans hglobal)
      · exact hne (hother.2.2.1.symm.trans hglobal)
  · obtain ⟨k', hk', hne⟩ : ∃ k' ∈ found rt s r.kind text campusId,
        k' ≠ ⟨r.id, r.kind, r.scopeKey, referenceKey rt text⟩ := by
      by_contra hall
      push Not at hall
      have hsame := eq_replicate_of_mem hall
      have hnodup := @nodup_found rt s r.kind text campusId
      rw [hsame, nodup_replicate] at hnodup
      have hpos := length_pos_of_mem hown
      exact hone (by rwa [show (found rt s r.kind text campusId).length = 1 by omega] at hsame)
    obtain ⟨hmem', hkind', hkey', hscope'⟩ := mem_found.mp hk'
    obtain ⟨r', hr', hid', hrkind', hrscope'⟩ := hs.owned k' hmem'
    have hapart : k'.scopeKey ≠ r.scopeKey := fun heq => hne (eq_of_found hk' hown heq)
    refine Or.inr ⟨?_, r', hr', hrkind'.trans hkind', ?_, ?_⟩
    · rw [resolveReference]
      split
      · rename_i row hrow
        rw [hrow, mem_singleton] at hk' hown
        exact absurd (hk'.trans hown.symm) hne
      · rfl
    · rw [Keyed, hid', hrkind', hrscope', ← hkey']
      exact hmem'
    · rw [hrscope']
      rcases happlies with hglobal | hcampus
      · refine Or.inl ⟨hglobal, fun h => hapart (h.trans hglobal.symm), hscope'.resolve_left ?_⟩
        exact fun h => hapart (h.trans hglobal.symm)
      · by_cases hglobal : r.scopeKey = "GLOBAL"
        · refine Or.inl ⟨hglobal, fun h => hapart (h.trans hglobal.symm), hscope'.resolve_left ?_⟩
          exact fun h => hapart (h.trans hglobal.symm)
        · refine Or.inr ⟨hglobal, hscope'.resolve_right fun h => hapart ?_⟩
          exact Option.some.inj (h.symm.trans hcampus)

theorem of_resolveReference (hs : Sound rt s)
    (h : resolveReference rt s kind text campusId = some r) :
    r ∈ s.references.rows ∧ r.kind = kind ∧ Keyed rt s r text ∧ Applies r campusId := by
  rw [resolveReference] at h
  split at h
  · rename_i row hrow
    have hmem : row ∈ found rt s kind text campusId := by rw [hrow]; exact mem_singleton_self _
    obtain ⟨hstored, hkind, hkey, hscope⟩ := mem_found.mp hmem
    obtain ⟨hr, hid⟩ := findUnique_eq_some.mp h
    obtain ⟨r', hr', hid', hkind', hscope'⟩ := hs.owned row hstored
    have heq : r.id = row.referenceId := by
      rcases mem_cons.mp hid with hid | hid
      · exact (CrmReference.Key.id.inj hid).symm
      · cases mem_singleton.mp hid
    obtain rfl := eq_of_id hr hr' (heq.trans hid'.symm)
    refine ⟨hr, hkind'.trans hkind, ?_, ?_⟩
    · rw [Keyed, heq, hkind', hscope', ← hkey]
      exact hstored
    · rwa [Applies, hscope']
  · cases h

/-- **Another reference does not change what a text resolves to**, unless it becomes a rival of
the one it resolves to; the text then resolves to nothing. -/
theorem Changed.resolves (hs : Sound rt s) (h : Changed rt s s' row texts)
    (hresolves : resolveReference rt s kind text campusId = some r) (hother : r.id ≠ row.id) :
    resolveReference rt s' kind text campusId = some r ∨
      resolveReference rt s' kind text campusId = none ∧ Rival rt s' r text campusId row := by
  obtain ⟨hr, rfl, hkeyed, happlies⟩ := of_resolveReference hs hresolves
  have hnone : ¬∃ r', Rival rt s r text campusId r' := by
    rcases Registry.resolves hs hr hkeyed happlies with ⟨-, hnone⟩ | ⟨hnone, -⟩
    · exact hnone
    · rw [hresolves] at hnone
      cases hnone
  have hr' : r ∈ s'.references.rows := (h.references r).mpr (Or.inr ⟨hr, hother⟩)
  have hkeyed' : Keyed rt s' r text := (h.others _ hother).mpr hkeyed
  rcases Registry.resolves (hs.changed h) hr' hkeyed' happlies with
    ⟨hsome, -⟩ | ⟨hnone', r', hrival⟩
  · exact Or.inl hsome
  · refine Or.inr ⟨hnone', ?_⟩
    rcases (h.references r').mp hrival.stored with rfl | ⟨hold, hapart⟩
    · exact hrival
    · exact absurd ⟨r', hold, hrival.kind, (h.others _ hapart).mp hrival.keyed, hrival.scopes⟩ hnone

theorem Changed.keyed_mono (h : Changed rt s s' row texts) {id text : String}
    (hkeyed : ∃ r ∈ s.references.rows, r.id = id ∧ r.state ≠ .LEGACY ∧ Keyed rt s r text) :
    ∃ r ∈ s'.references.rows, r.id = id ∧ r.state ≠ .LEGACY ∧ Keyed rt s' r text := by
  obtain ⟨r, hr, rfl, hstate, hkeyed⟩ := hkeyed
  by_cases hid : r.id = row.id
  · refine ⟨row, (h.references row).mpr (Or.inl rfl), hid.symm, h.current, ?_⟩
    have hkept := h.kept _ hkeyed hid
    obtain ⟨hkind, -⟩ := h.own _ hkept hid
    rwa [Keyed, ← hid, ← hkind]
  · exact ⟨r, (h.references r).mpr (Or.inr ⟨hr, hid⟩), rfl, hstate, (h.others _ hid).mpr hkeyed⟩

end

/-! ### The runs of the registry -/

/-- An inventory adds legacy references, which have no keys. -/
structure Inventoried (s s' : Store) : Prop where
  keys : s'.keys = s.keys
  kept : ∀ r ∈ s.references.rows, r ∈ s'.references.rows
  added : ∀ r ∈ s'.references.rows, r ∈ s.references.rows ∨ r.state = .LEGACY ∧ r.Constrained

def Request.aliases : Request → List String
  | .create input => input.aliases.getD []
  | .update _ input => input.aliases.getD []
  | .captureLegacy => []

/-- The text is an alias that one of the requests gave a reference. -/
def Accepted (rt : Runtime) (isWord : Char → Bool) (as : List (Request × Circumstances))
    (id text : String) : Prop :=
  ∃ pre a post row, as = pre ++ a :: post ∧
    (registry rt isWord).answer ((registry rt isWord).run {} pre) a = .ok (.reference row) ∧
      row.id = id ∧ text ∈ a.1.aliases

section

variable {rt : Runtime} {isWord : Char → Bool} {s s' : Store}

theorem inventory_ok {lead : LeadTexts} {entry : ReferenceKind × String}
    (h : inventory rt c lead s entry = .ok s') : Inventoried s s' := by
  rw [inventory] at h
  simp only at h
  split at h
  · obtain rfl := pure_ok_iff.mp h
    exact ⟨rfl, fun _ hr => hr, fun _ hr => Or.inl hr⟩
  · simp only [ok_iff] at h
    obtain ⟨references, hcreate, rfl⟩ := h
    refine ⟨rfl, fun r hr => (mem_create hcreate).mpr (Or.inl hr), fun r hr => ?_⟩
    rcases (mem_create hcreate).mp hr with hr | rfl
    · exact Or.inl hr
    · exact Or.inr ⟨rfl, Or.inl ⟨rfl, rfl, rfl⟩, Or.inr rfl⟩

theorem Inventoried.trans {s s₁ s₂ : Store} (h : Inventoried s s₁) (h' : Inventoried s₁ s₂) :
    Inventoried s s₂ where
  keys := h'.keys.trans h.keys
  kept := fun r hr => h'.kept r (h.kept r hr)
  added := fun r hr => (h'.added r hr).elim (h.added r) Or.inr

theorem captureLegacy_ok {count : ℕ} (h : captureLegacy rt s c = .ok (count, s')) :
    Inventoried s s' := by
  simp only [captureLegacy, ok_iff] at h
  obtain ⟨_, -, _, hfold, -, rfl⟩ := h
  have hself : Inventoried s s := ⟨rfl, fun _ hr => hr, fun _ hr => Or.inl hr⟩
  refine foldlM_keeps (fun lead _ s₁ s₂ hs₁ hlead => ?_) hself hfold
  exact foldlM_keeps (fun entry _ s₁ s₂ hs₁ hentry => hs₁.trans (inventory_ok hentry)) hs₁ hlead

/-- **What one request does**: it changes one reference, it adds legacy ones, or nothing. -/
theorem step_cases (hs : Sound rt s) (a : Request × Circumstances) :
    (∃ row texts, (step rt isWord s a.2 a.1).1 = .ok (.reference row) ∧ a.1.aliases ⊆ texts ∧
        Changed rt s (step rt isWord s a.2 a.1).2 row texts) ∨
      (∀ row, (step rt isWord s a.2 a.1).1 ≠ .ok (.reference row)) ∧
        Inventoried s (step rt isWord s a.2 a.1).2 := by
  obtain ⟨request, c⟩ := a
  have hself : Inventoried s s := ⟨rfl, fun _ hr => hr, fun _ hr => Or.inl hr⟩
  delta step
  cases request with
  | create input =>
    cases hcall : create rt isWord s input c with
    | error e =>
      simp only [hcall]
      exact Or.inr ⟨fun _ h => (by cases h), hself⟩
    | ok answer =>
      obtain ⟨row, s'⟩ := answer
      obtain ⟨texts, hsub, hchanged⟩ := create_ok hs hcall
      simp only [hcall]
      exact Or.inl ⟨row, texts, rfl, hsub, hchanged⟩
  | update id input =>
    cases hcall : update rt isWord s id input c with
    | error e =>
      simp only [hcall]
      exact Or.inr ⟨fun _ h => (by cases h), hself⟩
    | ok answer =>
      obtain ⟨row, s'⟩ := answer
      obtain ⟨texts, hsub, hchanged⟩ := update_ok hs hcall
      simp only [hcall]
      exact Or.inl ⟨row, texts, rfl, hsub, hchanged⟩
  | captureLegacy =>
    cases hcall : captureLegacy rt s c with
    | error e =>
      dsimp only
      exact Or.inr ⟨fun _ h => (by cases h), hself⟩
    | ok answer =>
      obtain ⟨count, s'⟩ := answer
      dsimp only
      exact Or.inr ⟨fun _ h => (by cases h), captureLegacy_ok hcall⟩

theorem Inventoried.sound (h : Inventoried s s') (hs : Sound rt s) : Sound rt s' where
  constrained := fun r hr => (h.added r hr).elim (hs.constrained r) And.right
  owned := by
    intro k hk
    obtain ⟨r, hr, hrest⟩ := hs.owned k (by rwa [h.keys] at hk)
    exact ⟨r, h.kept r hr, hrest⟩
  named := by
    intro r hr hstate
    rcases h.added r hr with hold | ⟨hlegacy, -⟩
    · simp only [Keyed, h.keys]
      exact hs.named r hold hstate
    · exact absurd hlegacy hstate

theorem step_sound (hs : Sound rt s) (a : Request × Circumstances) :
    Sound rt (step rt isWord s a.2 a.1).2 ∧ ∀ id text,
      (∃ r ∈ s.references.rows, r.id = id ∧ r.state ≠ .LEGACY ∧ Keyed rt s r text) →
        ∃ r ∈ (step rt isWord s a.2 a.1).2.references.rows,
          r.id = id ∧ r.state ≠ .LEGACY ∧ Keyed rt (step rt isWord s a.2 a.1).2 r text := by
  rcases @step_cases rt isWord s hs a with ⟨row, texts, -, -, h⟩ | ⟨-, h⟩
  · exact ⟨hs.changed h, fun id text hkeyed => h.keyed_mono hkeyed⟩
  · refine ⟨h.sound hs, ?_⟩
    rintro id text ⟨r, hr, hid, hstate, hkeyed⟩
    exact ⟨r, h.kept r hr, hid, hstate, by rw [Keyed, h.keys]; exact hkeyed⟩

theorem sound_run (as : List (Request × Circumstances)) :
    Sound rt ((registry rt isWord).run {} as) := by
  have hstart : Sound rt {} :=
    ⟨fun _ h => (by cases h), fun _ h => (by cases h), fun _ h => (by cases h)⟩
  have hstep : ∀ s a, Sound rt s → Sound rt ((registry rt isWord).next s a) :=
    fun s a hs => (@step_sound rt isWord s hs a).1
  exact (Machine.throughout_of_step hstep hstart as).last

theorem keyed_of_accepted {as : List (Request × Circumstances)} {id text : String}
    (h : Accepted rt isWord as id text) :
    ∃ r ∈ ((registry rt isWord).run {} as).references.rows,
      r.id = id ∧ r.state ≠ .LEGACY ∧ Keyed rt ((registry rt isWord).run {} as) r text := by
  obtain ⟨pre, a, post, row, rfl, hans, rfl, htext⟩ := h
  have hs := @sound_run rt isWord pre
  rw [Machine.run_append, Machine.run_cons]
  have hgiven : ∃ r ∈ ((registry rt isWord).next ((registry rt isWord).run {} pre)
      a).references.rows, r.id = row.id ∧ r.state ≠ .LEGACY ∧
        Keyed rt ((registry rt isWord).next ((registry rt isWord).run {} pre) a) r text := by
    rcases @step_cases rt isWord _ hs a with ⟨row', texts, hrow', hsub, hchanged⟩ | ⟨hnone, -⟩
    · have heq : row' = row := by
        have := hrow'.symm.trans hans
        rw [Except.ok.injEq, Reply.reference.injEq] at this
        exact this
      subst heq
      exact ⟨row', (hchanged.references row').mpr (Or.inl rfl), rfl, hchanged.current,
        hchanged.keyed text (hsub htext)⟩
    · exact absurd hans (hnone row)
  -- the requests that follow keep the key
  let I : Store → Prop := fun s => Sound rt s ∧ ∃ r ∈ s.references.rows,
    r.id = row.id ∧ r.state ≠ .LEGACY ∧ Keyed rt s r text
  have hstep : ∀ s a, I s → I ((registry rt isWord).next s a) := fun s a hI =>
    ⟨(@step_sound rt isWord s hI.1 a).1, (@step_sound rt isWord s hI.1 a).2 _ _ hI.2⟩
  have hstart : I ((registry rt isWord).next ((registry rt isWord).run {} pre) a) :=
    ⟨(@step_sound rt isWord _ hs a).1, hgiven⟩
  exact (Machine.throughout_of_step hstep hstart post).last.2

end

section

variable (rt : Runtime) (isWord : Char → Bool)

/-- **What the texts of references resolve to, over every run**: a reference that is not a legacy
one is what its code, its label and each alias that was given for it resolve to, wherever it
applies, unless a reference of the other scope has the same key, and the text then resolves to
nothing; and a request about another reference leaves what a text resolves to as it was, unless
it gives that reference such a key. -/
theorem references_resolve (as : List (Request × Circumstances)) :
    (∀ r ∈ ((registry rt isWord).run {} as).references.rows, r.state ≠ .LEGACY → ∀ text,
      (text = r.code ∨ text = r.label ∨ Accepted rt isWord as r.id text) → ∀ campusId,
        Applies r campusId → Resolves rt ((registry rt isWord).run {} as) r text campusId) ∧
    ∀ a row, (registry rt isWord).answer ((registry rt isWord).run {} as) a =
        .ok (.reference row) →
      ∀ kind text campusId r, r.id ≠ row.id →
        resolveReference rt ((registry rt isWord).run {} as) kind text campusId = some r →
          let s' := (registry rt isWord).next ((registry rt isWord).run {} as) a
          resolveReference rt s' kind text campusId = some r ∨
            resolveReference rt s' kind text campusId = none ∧
              Rival rt s' r text campusId row := by
  have hs := @sound_run rt isWord as
  refine ⟨fun r hr hstate text htext campusId happlies => resolves hs hr ?_ happlies,
    fun a row hans kind text campusId r hother hresolves => ?_⟩
  · rcases htext with rfl | rfl | hacc
    · exact (hs.named r hr hstate).1
    · exact (hs.named r hr hstate).2
    · obtain ⟨r', hr', hid, -, hkeyed⟩ := keyed_of_accepted hacc
      rwa [eq_of_id hr hr' hid.symm]
  · rcases @step_cases rt isWord _ hs a with ⟨row', texts, hrow', -, hchanged⟩ | ⟨hnone, -⟩
    · have heq : row' = row := by
        have h := hrow'.symm.trans hans
        rw [Except.ok.injEq, Reply.reference.injEq] at h
        exact h
      subst heq
      exact hchanged.resolves hs hresolves hother
    · exact absurd hans (hnone row)

end

namespace Sample

/-- A campus, and two campaigns. -/
def paris : String := "50000000-0000-4000-8000-000000000001"

def salon : String := "50000000-0000-4000-8000-000000000002"

def nearby : String := "50000000-0000-4000-8000-000000000003"

/-- What the world gives to a request. -/
def during (randomUUID : String) : Circumstances where
  assertCan _ _ := .ok ()
  tagged _ := false
  leads := []
  randomUUID := randomUUID
  legacyId _ _ := "50000000-0000-4000-8000-000000000009"

def campusCreated : Request × Circumstances :=
  (.create ⟨.CAMPUS, "PARIS", "Paris", .GLOBAL, none, none⟩, during paris)

def salonCreated : Request × Circumstances :=
  (.create ⟨.CAMPAIGN, "SALON", "Salon de mars", .GLOBAL, none, some ["Foire"]⟩, during salon)

/-- A campaign of the campus is created, under the same code. -/
def nearbyCreated : Request × Circumstances :=
  (.create ⟨.CAMPAIGN, "SALON", "Salon local", .CAMPUS, some paris, none⟩, during nearby)

def salonRow : Reference :=
  ⟨salon, .CAMPAIGN, "SALON", "Salon de mars", .GLOBAL, none, "GLOBAL", .ACTIVE, 1⟩

def nearbyRow : Reference :=
  ⟨nearby, .CAMPAIGN, "SALON", "Salon local", .CAMPUS, some paris, paris, .ACTIVE, 1⟩

def machine : Machine Store (Request × Circumstances) (Outcome Reply) :=
  registry plain Js.isAlnum

/-- Each reference is what its code resolves to, wherever it applies. -/
def CodesResolve (s : Store) : Prop :=
  ∀ r ∈ s.references.rows, r.state ≠ .LEGACY → ∀ campusId, Applies r campusId →
    Registry.resolveReference plain s r.kind r.code campusId = some r

/-- **Two campaigns of one code collide in the campus**: it then resolves to neither. -/
theorem collides : ¬machine.Throughout CodesResolve {} [campusCreated, salonCreated,
    nearbyCreated] := by
  intro h
  have hlost : ∃ r ∈ (machine.run {} [campusCreated, salonCreated, nearbyCreated]).references.rows,
      r.state ≠ .LEGACY ∧ r.scopeKey = "GLOBAL" ∧ Registry.resolveReference plain
        (machine.run {} [campusCreated, salonCreated, nearbyCreated]) r.kind r.code (some paris) ≠
          some r := by
    decide +kernel
  obtain ⟨r, hr, hstate, hglobal, hne⟩ := hlost
  exact hne (h.last r hr hstate (some paris) (Or.inl hglobal))

/-- **An alias still resolves in the campus**, and the campaign that is created there leaves it. -/
theorem references_resolve_regular :
    Resolves plain (machine.run {} [campusCreated, salonCreated]) salonRow "Foire" (some paris) ∧
      (Registry.resolveReference plain (machine.next (machine.run {} [campusCreated,
          salonCreated]) nearbyCreated) .CAMPAIGN "Foire" (some paris) = some salonRow ∨
        Registry.resolveReference plain (machine.next (machine.run {} [campusCreated,
          salonCreated]) nearbyCreated) .CAMPAIGN "Foire" (some paris) = none ∧
            Rival plain (machine.next (machine.run {} [campusCreated, salonCreated])
              nearbyCreated) salonRow "Foire" (some paris) nearbyRow) := by
  obtain ⟨hresolve, hothers⟩ :=
    references_resolve plain Js.isAlnum [campusCreated, salonCreated]
  have hacc : Accepted plain Js.isAlnum [campusCreated, salonCreated] salon "Foire" :=
    ⟨[campusCreated], salonCreated, [], salonRow, rfl, by decide +kernel, rfl, by decide⟩
  exact ⟨hresolve salonRow (by decide +kernel) (by decide) "Foire" (Or.inr (Or.inr hacc))
      (some paris) (Or.inl rfl),
    hothers nearbyCreated nearbyRow (by decide +kernel) .CAMPAIGN "Foire" (some paris) salonRow
      (by decide) (by decide +kernel)⟩

end Sample

end Registry

end CrmYnov.References
