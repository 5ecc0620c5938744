import CrmYnov.Telephony.Types

/-!
# The commands a workstation takes

A workstation asks for the next command that waits for it, or for one command by its identifier.
Both settle the commands whose time is over, and both may be refused afterwards: the settlement
is then undone with the rest of the transaction (`CrmYnov.Telephony.expiry_iff`). A command that
is asked for by its identifier when its time is over is always refused so.
-/

namespace CrmYnov.Telephony

open Checked List Option

structure AgentIdentity where
  (workstationId userId : String)

/-- What the world answers to a workstation: whether it is still known, who may call, and what a
destination reads. -/
structure Occasion where
  now : Instant
  lockedIdentity : Outcome Unit
  evaluatePermission : CallRow → Outcome Bool
  decrypt : String → Outcome String

structure AgentCommandEnvelope where
  (commandId callId destination : String)
  expiresAt : Instant
  maxDurationSeconds : ℕ
  hangupRequested : Bool
deriving DecidableEq

/-- The identifiers a workstation may name. -/
def isAgentUuid (text : String) : Bool :=
  let hex (n : ℕ) : List (Char → Bool) := replicate n Js.isHexDigitAnyCase
  let dash (c : Char) : Bool := c == '-'
  let version (c : Char) : Bool := '1' ≤ c && c ≤ '5'
  let variant (c : Char) : Bool := c ∈ ['8', '9', 'a', 'b', 'A', 'B']
  Js.hasShape (hex 8 ++ dash :: hex 4 ++ dash :: version :: hex 3 ++ dash :: variant :: hex 3 ++
    dash :: hex 12) text

section Operations

variable (o : Occasion) (identity : AgentIdentity) (T : Traffic)

/-- `assertCommandPermission` -/
def assertCommandPermission (call : CallRow) : Outcome Unit := do
  let forbidden : Failure := .forbidden "telephony_agent_command_scope_forbidden"
  require (call.createdBy = identity.userId ∧ call.direction = .OUTBOUND ∧
    call.provider = .LINPHONE) forbidden
  let allowed ← o.evaluatePermission call
  require (allowed = true) forbidden

/-- A command whose time is over, by the state it was found in. -/
def AgentCommandRow.expired (c : AgentCommandRow) (found : CommandState) (now : Instant) :
    AgentCommandRow :=
  { c with
    state := if found = .DELIVERED then .UNCERTAIN else .EXPIRED
    terminalAt := some now }

/-- The end of a command whose time is over, and what it makes of its call. -/
def Traffic.expire (stale : AgentCommandRow) (now : Instant) : Traffic :=
  { T with
    commands := T.commands.updateMany (fun c => c.id = stale.id) fun c => c.expired stale.state now
    calls := T.calls.updateMany
      (fun c => c.id = stale.callId ∧ c.dispatchState ∈ [.PENDING, .ACCEPTED]) fun c =>
      { c with
        dispatchState := .UNCERTAIN
        dispatchErrorCode := some (if stale.state = .DELIVERED then "AGENT_RESULT_UNKNOWN"
          else "AGENT_COMMAND_EXPIRED")
        dispatchUpdatedAt := some now } }

/-- The commands of the workstation whose time is over. -/
def staleCommands : List AgentCommandRow := T.commands.findMany fun c =>
  c.workstationId = identity.workstationId ∧ c.Live ∧ c.expiresAt ≤ o.now

def settleStale : Traffic := (staleCommands o identity T).foldl (fun T c => T.expire c o.now) T

/-- `orderBy: { hangupRequestedAt: "asc" }`, of the rows that have one. -/
def AskedEarlier (c c' : AgentCommandRow) : Prop :=
  c.hangupRequestedAt.getD 0 ≤ c'.hangupRequestedAt.getD 0
deriving Decidable

/-- `orderBy: { createdAt: "asc" }` -/
def MadeEarlier (c c' : AgentCommandRow) : Prop := c.createdAt ≤ c'.createdAt
deriving Decidable

/-- The call to hang up next. -/
def nextHangup : Option AgentCommandRow :=
  ((T.commands.findMany fun c => c.workstationId = identity.workstationId ∧ c.state = .DELIVERED ∧
    c.hangupRequestedAt ≠ none ∧ c.hangupDeliveredAt = none).insertionSort AskedEarlier).head?

def nextPending : Option AgentCommandRow :=
  ((T.commands.findMany fun c => c.workstationId = identity.workstationId ∧ c.state = .PENDING ∧
    o.now < c.expiresAt).insertionSort MadeEarlier).head?

def callOf (c : AgentCommandRow) : Outcome CallRow :=
  demand (T.call c.callId) (.error "Inconsistent query result")

def envelope (c : AgentCommandRow) (call : CallRow) (destination : String)
    (maxDurationSeconds : ℕ) (hangupRequested : Bool) : AgentCommandEnvelope :=
  ⟨call.externalId, c.callId, destination, c.expiresAt, maxDurationSeconds, hangupRequested⟩

def Traffic.deliver (pending : AgentCommandRow) : Traffic := { T with
  commands := T.commands.updateMany (fun c => c.id = pending.id ∧ c.state = .PENDING) fun c =>
    { c with state := .DELIVERED, claimedAt := some o.now } }

/-- `poll` -/
def poll : Outcome (Option AgentCommandEnvelope × Traffic) := do
  o.lockedIdentity
  let T := settleStale o identity T
  match nextHangup identity T with
  | some hangup => do
    let call ← callOf T hangup
    let commands := T.commands.updateMany (fun c => c.id = hangup.id) fun c =>
      { c with hangupDeliveredAt := some o.now }
    pure (some (envelope hangup call "" 0 true), { T with commands })
  | none =>
    match nextPending o identity T with
    | none => pure (none, T)
    | some pending => do
      let call ← callOf T pending
      assertCommandPermission o identity call
      let destination ← o.decrypt pending.destination
      pure (some (envelope pending call destination 7200 false), T.deliver o pending)

/-- The command a workstation names: it is not ended, and its call has the identifier. -/
def namedCommand (externalId : String) : Option AgentCommandRow :=
  (T.commands.findMany fun c => c.workstationId = identity.workstationId ∧ c.Live ∧
    ∃ call ∈ T.call c.callId, call.externalId = externalId).head?

/-- What `claim` makes of the command it has found: its answer, and what it leaves. -/
def claimed (command : AgentCommandRow) (call : CallRow) : Outcome AgentCommandEnvelope × Traffic :=
  if command.expiresAt ≤ o.now then
    (.error (.conflict "telephony_agent_command_expired"), T.expire command o.now)
  else
    ((o.decrypt command.destination).map fun destination =>
      envelope command call destination 7200 false, T.deliver o command)

/-- `claim`: an exception undoes what was written. -/
def claim (commandId : String) : Outcome (AgentCommandEnvelope × Traffic) := do
  require (isAgentUuid commandId = true) (.badRequest "telephony_agent_command_id_invalid")
  o.lockedIdentity
  let command ← demand (namedCommand identity T commandId)
    (.notFound "telephony_agent_command_not_found")
  let call ← callOf T command
  assertCommandPermission o identity call
  let told ← (claimed o T command call).1
  pure (told, (claimed o T command call).2)

end Operations

/-! ### What is settled -/

inductive AgentAction
  | poll
  | claim (commandId : String)

variable {o : Occasion} {identity : AgentIdentity} {T : Traffic}

/-- What an operation leaves: what throws is rolled back. -/
def AgentAction.after (o : Occasion) (identity : AgentIdentity) (T : Traffic) :
    AgentAction → Traffic
  | poll => ((Telephony.poll o identity T).toOption.map Prod.snd).getD T
  | claim commandId => ((Telephony.claim o identity T commandId).toOption.map Prod.snd).getD T

/-- The commands whose time is over that an operation is about: all those of the workstation that
polls, and the one that is claimed. -/
def AgentAction.addressed (o : Occasion) (identity : AgentIdentity) (T : Traffic)
    (action : AgentAction) : List AgentCommandRow :=
  match o.lockedIdentity, action with
  | .error _, _ => []
  | .ok (), poll => staleCommands o identity T
  | .ok (), claim commandId =>
    if isAgentUuid commandId then
      (namedCommand identity T commandId).toList.filter fun c => c.expiresAt ≤ o.now
    else []

/-- The end of the command is recorded. -/
def Settled (T : Traffic) (id : String) : Prop :=
  ∃ c ∈ T.commands.rows, c.id = id ∧ c.state ∈ [.EXPIRED, .UNCERTAIN]

/-- **What a workstation leaves of the commands whose time is over**: their end, and when one is
claimed, the uncertainty of its call. -/
def ExpiryRecorded (o : Occasion) (identity : AgentIdentity) (T : Traffic) (action : AgentAction) :
    Prop :=
  ∀ c ∈ action.addressed o identity T, Settled (action.after o identity T) c.id ∧
    (action ≠ .poll → ∀ call ∈ (action.after o identity T).call c.callId,
      call.dispatchState = .UNCERTAIN)

/-- What is told next cannot be: the call of the command is not there, it may not be dialed, or
its destination cannot be read. -/
def Undeliverable (o : Occasion) (identity : AgentIdentity) (T : Traffic) : Prop :=
  match nextHangup identity T with
  | some hangup => T.call hangup.callId = none
  | none => ∃ pending ∈ nextPending o identity T, ∀ call ∈ T.call pending.callId,
    Refused (assertCommandPermission o identity call) ∨ Refused (o.decrypt pending.destination)

variable {c : AgentCommandRow}

theorem not_settled_of_live (hc : c ∈ T.commands.rows) (hlive : c.Live) : ¬Settled T c.id := by
  rintro ⟨c', hc', hid, hstate⟩
  rw [T.commands.eq_of_key hc' hc (AgentCommandRow.mem_keys_id.mpr hid)
    (AgentCommandRow.mem_keys_id.mpr rfl)] at hstate
  rcases hlive.1 with h | h <;> rw [h] at hstate <;> revert hstate <;> decide

/-- A command stays settled when its row keeps its identifier and such a state. -/
theorem Settled.map {T' : Traffic} {id : String} (h : Settled T id)
    {f : AgentCommandRow → AgentCommandRow} (hrows : T'.commands.rows = T.commands.rows.map f)
    (hf : ∀ c, (f c).id = c.id ∧
      (c.state ∈ [.EXPIRED, .UNCERTAIN] → (f c).state ∈ [.EXPIRED, .UNCERTAIN])) :
    Settled T' id := by
  obtain ⟨c, hc, hid, hstate⟩ := h
  refine ⟨f c, ?_, (hf c).1.trans hid, (hf c).2 hstate⟩
  rw [hrows]
  exact mem_map_of_mem hc

theorem expired_settled (c : AgentCommandRow) (found : CommandState) (now : Instant) :
    (c.expired found now).state ∈ [.EXPIRED, .UNCERTAIN] := by
  rw [AgentCommandRow.expired]
  dsimp only
  split <;> decide

theorem Settled.expire {id : String} (h : Settled T id) (c : AgentCommandRow) (now : Instant) :
    Settled (T.expire c now) id := by
  refine h.map rfl fun x => ?_
  split
  · exact ⟨rfl, fun _ => expired_settled x c.state now⟩
  · exact ⟨rfl, fun hstate => hstate⟩

theorem settled_expire (hc : c.id ∈ T.commands.rows.map AgentCommandRow.id) (now : Instant) :
    Settled (T.expire c now) c.id := by
  obtain ⟨x, hx, hid⟩ := mem_map.mp hc
  refine ⟨x.expired c.state now, ?_, hid, expired_settled x c.state now⟩
  exact mem_map.mpr ⟨x, hx, if_pos hid⟩

/-- The identifiers of the commands stay. -/
theorem expire_ids (c : AgentCommandRow) (now : Instant) :
    (T.expire c now).commands.rows.map AgentCommandRow.id =
      T.commands.rows.map AgentCommandRow.id := by
  refine map_map.trans (map_congr_left fun x _ => ?_)
  rw [Function.comp]
  split <;> rfl

/-- **Every command that is settled in the loop is settled after it.** -/
theorem foldl_expire {stale : List AgentCommandRow} {now : Instant}
    (hstale : ∀ c ∈ stale, c.id ∈ T.commands.rows.map AgentCommandRow.id) :
    (∀ id, Settled T id → Settled (stale.foldl (fun T c => T.expire c now) T) id) ∧
      ∀ c ∈ stale, Settled (stale.foldl (fun T c => T.expire c now) T) c.id := by
  induction stale generalizing T with
  | nil => exact ⟨fun _ h => h, fun _ h => absurd h not_mem_nil⟩
  | cons c stale ih =>
    have hnext := @ih (T.expire c now) fun c' hc' => by
      rw [expire_ids]
      exact hstale c' (mem_cons_of_mem c hc')
    refine ⟨fun id h => hnext.1 id (h.expire c now), fun c' hc' => ?_⟩
    rcases mem_cons.mp hc' with rfl | hc'
    · exact hnext.1 c'.id (settled_expire (hstale c' mem_cons_self) now)
    · exact hnext.2 c' hc'

theorem settleStale_settles (hc : c ∈ staleCommands o identity T) :
    Settled (settleStale o identity T) c.id :=
  (foldl_expire fun _ h => mem_map_of_mem (Table.mem_findMany.mp h).1).2 c hc

/-- What a poll that succeeds leaves settled. -/
theorem poll_settles {T' : Traffic} {answer : Option AgentCommandEnvelope}
    (h : poll o identity T = .ok (answer, T')) {id : String}
    (hid : Settled (settleStale o identity T) id) : Settled T' id := by
  simp only [poll, bind_ok_iff] at h
  obtain ⟨-, -, h⟩ := h
  split at h
  · rename_i hangup _
    simp only [bind_ok_iff, pure_ok_iff, Prod.mk.injEq] at h
    obtain ⟨call, -, -, rfl⟩ := h
    refine hid.map rfl fun x => ?_
    split <;> exact ⟨rfl, fun hstate => hstate⟩
  · split at h
    · cases h
      exact hid
    · rename_i pending _
      simp only [bind_ok_iff, pure_ok_iff, Prod.mk.injEq] at h
      obtain ⟨call, -, -, -, destination, -, -, rfl⟩ := h
      refine hid.map rfl fun x => ?_
      split
      · rename_i hpending
        refine ⟨rfl, fun hstate => absurd hstate ?_⟩
        rw [hpending.2]
        decide
      · exact ⟨rfl, fun hstate => hstate⟩

/-- A poll of a workstation that is known is refused exactly when what is told next cannot be. -/
theorem poll_refused_iff (hidentity : o.lockedIdentity = .ok ()) :
    Refused (poll o identity T) ↔ Undeliverable o identity (settleStale o identity T) := by
  simp only [poll, Undeliverable, hidentity, ok_bind]
  split
  · rename_i hangup hnext
    cases hcall : (settleStale o identity T).call hangup.callId with
    | none => exact iff_of_true ⟨_, by rw [callOf, hcall]; rfl⟩ rfl
    | some call =>
      refine iff_of_false ?_ (by simp)
      rw [callOf, hcall]
      exact not_refused_ok
  · cases hnext : nextPending o identity (settleStale o identity T) with
    | none => exact iff_of_false not_refused_ok (by simp)
    | some pending =>
      simp only [mem_def, some.injEq, exists_eq_left']
      cases hcall : (settleStale o identity T).call pending.callId with
      | none => exact iff_of_true ⟨_, by rw [callOf, hcall]; rfl⟩ (by simp)
      | some call =>
        rw [callOf, hcall, demand_some, ok_bind]
        simp only [some.injEq, forall_eq']
        cases hmay : assertCommandPermission o identity call with
        | error e => exact iff_of_true ⟨e, rfl⟩ (.inl refused_error)
        | ok _ =>
          cases o.decrypt pending.destination with
          | error e => exact iff_of_true ⟨e, rfl⟩ (.inr refused_error)
          | ok destination => exact iff_of_false not_refused_ok (by simp)

/-- A command that is claimed when its time is over is refused, and nothing is left of it. -/
theorem after_claim {commandId : String} (hc : c ∈ namedCommand identity T commandId)
    (hover : c.expiresAt ≤ o.now) : (AgentAction.claim commandId).after o identity T = T := by
  suffices hrefused : Refused (claim o identity T commandId) by
    obtain ⟨e, he⟩ := hrefused
    rw [AgentAction.after, he]
    rfl
  refine refused_iff.mpr fun answer h => ?_
  simp only [claim, bind_ok_iff, demand_ok_iff] at h
  obtain ⟨-, -, -, -, command, hcommand, call, -, -, -, told, htold, -⟩ := h
  rw [mem_def.mp hc, some.injEq] at hcommand
  subst hcommand
  rw [claimed, if_pos hover] at htold
  cases htold

/-- What an operation is about: the workstation is known, and polls or names the command. -/
theorem AgentAction.mem_addressed {action : AgentAction} (hc : c ∈ action.addressed o identity T) :
    o.lockedIdentity = .ok () ∧
      (action = .poll ∧ c ∈ staleCommands o identity T ∨ ∃ commandId, action = .claim commandId ∧
        c ∈ namedCommand identity T commandId ∧ c.expiresAt ≤ o.now) := by
  unfold addressed at hc
  split at hc
  · cases hc
  · rename_i hidentity
    exact ⟨hidentity, .inl ⟨rfl, hc⟩⟩
  · rename_i commandId hidentity
    split at hc
    · obtain ⟨hnamed, hover⟩ := mem_filter.mp hc
      exact ⟨hidentity, .inr ⟨commandId, rfl, mem_toList.mp hnamed, of_decide_eq_true hover⟩⟩
    · cases hc

theorem AgentAction.addressed_live {action : AgentAction} (hc : c ∈ action.addressed o identity T) :
    c ∈ T.commands.rows ∧ c.Live := by
  obtain ⟨-, ⟨-, hstale⟩ | ⟨commandId, -, hnamed, -⟩⟩ := mem_addressed hc
  · obtain ⟨hmem, -, hlive, -⟩ := Table.mem_findMany.mp hstale
    exact ⟨hmem, hlive⟩
  · obtain ⟨hmem, -, hlive, -⟩ := Table.mem_findMany.mp (mem_of_mem_head? hnamed)
    exact ⟨hmem, hlive⟩

/-- **The end of every command is recorded exactly when** none is over, or the workstation polls
and what it is told next can be. -/
theorem expiry_iff {action : AgentAction} :
    ExpiryRecorded o identity T action ↔ action.addressed o identity T = [] ∨
        action = .poll ∧ ¬Undeliverable o identity (settleStale o identity T) := by
  constructor
  · intro h
    refine or_iff_not_imp_left.mpr fun hsome => ?_
    obtain ⟨c, hc⟩ := exists_mem_of_ne_nil _ hsome
    obtain ⟨hmem, hlive⟩ := AgentAction.addressed_live hc
    -- an operation that is refused leaves the command as it was
    have hrolled : action.after o identity T ≠ T := fun hsame =>
      not_settled_of_live hmem hlive (hsame ▸ (h c hc).1)
    obtain ⟨hidentity, ⟨rfl, -⟩ | ⟨commandId, rfl, hnamed, hover⟩⟩ := AgentAction.mem_addressed hc
    · refine ⟨rfl, fun hnext => hrolled ?_⟩
      obtain ⟨e, he⟩ := (poll_refused_iff hidentity).mpr hnext
      rw [AgentAction.after, he]
      rfl
    · exact absurd (after_claim hnamed hover) hrolled
  · rintro (hnone | ⟨rfl, hnext⟩) c hc
    · rw [hnone] at hc
      cases hc
    · refine ⟨?_, fun hne => absurd rfl hne⟩
      obtain ⟨hidentity, ⟨-, hstale⟩ | ⟨_, hne, -⟩⟩ := AgentAction.mem_addressed hc
      · obtain ⟨⟨answer, T'⟩, hok⟩ :=
          exists_ok_of_not_refused ((poll_refused_iff hidentity).not.mpr hnext)
        rw [AgentAction.after, hok]
        exact poll_settles hok (settleStale_settles hstale)
      · cases hne

/-! ### An example -/

namespace Sample

/-- A command that was to wait for forty-five seconds. -/
def command : AgentCommandRow where
  id := "command-1"
  callId := "call-1"
  workstationId := "workstation-1"
  destination := "destination-1"
  expiresAt := 45000
  createdAt := 0

def forgotten : Traffic where
  calls := .ofRows [{
    id := "call-1"
    provider := .LINPHONE
    externalId := "c0000000-0000-4000-8000-000000000001"
    direction := .OUTBOUND
    state := .REQUESTED
    leadId := none
    phoneFingerprint := "fingerprint-1"
    dispatchState := .ACCEPTED
    dispatchUpdatedAt := none
    matchState := .UNMATCHED
    requestedAt := 0
    createdBy := "adviser-1" }]
  commands := .ofRows [command]

/-- Its workstation, after a minute. -/
def occasion : Occasion := ⟨60000, .ok (), fun _ => .ok true, fun _ => .ok "+212600000000"⟩

end Sample

open Telephony.Sample

/-- The command is claimed, refused as expired, and waits on. -/
theorem claim_leaves_pending :
    let identity : AgentIdentity := ⟨"workstation-1", "adviser-1"⟩
    let commandId := "c0000000-0000-4000-8000-000000000001"
    (claim occasion identity forgotten commandId).map Prod.fst =
      .error (.conflict "telephony_agent_command_expired") ∧
    ¬ExpiryRecorded occasion identity forgotten (.claim commandId) := by
  intro identity commandId
  have hnamed : command ∈ namedCommand identity forgotten commandId := by
    decide +kernel
  have haddressed : (AgentAction.claim commandId).addressed occasion identity
      forgotten = [command] := by decide +kernel
  refine ⟨by decide +kernel, fun h => ?_⟩
  have hsettled := (h command (haddressed ▸ mem_singleton_self _)).1
  rw [after_claim hnamed (by decide)] at hsettled
  exact not_settled_of_live (mem_singleton_self _) (by decide) hsettled

end CrmYnov.Telephony
