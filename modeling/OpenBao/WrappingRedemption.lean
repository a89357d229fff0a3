import OpenBao.OneShotEffects
import OpenBao.ReadinessPolling

/-!
# Redemption of a wrapping token

The handle that a wrapped request returns, as a wrapper and after its conversion to a
deferred execution. Each call is cut at its await points; between two of them nothing
can interrupt it, and at each of them its future may be dropped.
-/

namespace OpenBao.WrappingRedemption
open CompatibilityPolicy CompatibilityProbe OneShotEffects ReadinessPolling RegisteredRoutes Utf8Text

structure WrapInfo where
  token : Str
  accessor : Option Str
  deriving DecidableEq, Repr

/-- What is left of the wrapping metadata behind a successful redemption. -/
def WrapInfo.cleared : WrapInfo := ⟨[], none⟩

structure WrappedResponse where
  wrapInfo : WrapInfo
  consumed : Bool
  attempted : Bool
  deriving DecidableEq, Repr

inductive ControlGroupExecutionState where
  | ready | outcomeUnknown | responseReceived
  deriving DecidableEq, Repr

structure ControlGroupExecution where
  wrapped : WrappedResponse
  state : ControlGroupExecutionState
  deriving DecidableEq, Repr

def isVisibleAscii (byte : UInt8) : Bool := 0x21 ≤ byte && byte ≤ 0x7e

def validateExplicitWrappingToken (token : Str) : Except Error Unit :=
  if token = [] ∨ byteLen token > 64 * 1024 ∨ !(asBytes token).all isVisibleAscii then
    .error (.invalidParameter "wrapping token must be 1..=65536 visible ASCII bytes")
  else .ok ()

/-- `Sys::require_control_groups` behind the version check. -/
def requireControlGroups (ensured : Except Error OpenBaoCompatibilityReport) : Except Error Unit := do
  let report ← ensured
  match report.profileVersion.or legacyUnverifiedProfile with
  | none => .error (.internal "no control-group compatibility profile")
  | some version =>
    if version < ⟨2, 7, 0⟩ ∨ ¬ (report.status = .verified ∨ report.status = .assumed) then
      .error (.unsupportedOpenBaoCapability "sys.control-group" version)
    else .ok ()

namespace WrappedResponse

/-- The section of `try_unwrap` before its request. -/
def begin (w : WrappedResponse) : Except Error WrappedResponse :=
  if w.attempted || w.consumed then
    .error (.invalidParameter "wrapping token execution was already attempted")
  else do
    validateExplicitWrappingToken w.wrapInfo.token
    return { w with attempted := true }

/-- The section of `try_unwrap` behind its request, when the response was decoded. -/
def clear (w : WrappedResponse) : WrappedResponse :=
  { w with consumed := true, wrapInfo := .cleared }

def intoControlGroupExecution (w : WrappedResponse) : ControlGroupExecution :=
  ⟨w, if w.consumed then .responseReceived else if w.attempted then .outcomeUnknown else .ready⟩

end WrappedResponse

namespace ControlGroupExecution

def ensureReady (e : ControlGroupExecution) : Except Error Unit :=
  if e.state ≠ .ready then
    .error (.invalidParameter
      "control-group execution was already attempted; do not replay automatically")
  else validateExplicitWrappingToken e.wrapped.wrapInfo.token

/-- The section of `execute_after_profile_check` behind its request. -/
def receive (e : ControlGroupExecution) : ControlGroupExecution :=
  ⟨e.wrapped.clear, .responseReceived⟩

end ControlGroupExecution

/-- Where the wrapper's call is suspended. -/
inductive UnwrapPhase where
  | idle
  | checking
  | sending
  | reading (body : Bytes)
  deriving DecidableEq, Repr

/-- Where the execution's call is suspended; `decodes` tells `try_execute` from
`try_execute_bytes`. -/
inductive ExecutePhase where
  | idle
  | checking (decodes : Bool)
  | sending (decodes : Bool)
  | reading (decodes : Bool) (body : Bytes)
  deriving DecidableEq, Repr

/-- The handle and the call on it. -/
inductive Holder where
  | wrapped (w : WrappedResponse) (phase : UnwrapPhase)
  | execution (e : ControlGroupExecution) (phase : ExecutePhase)
  deriving DecidableEq, Repr

inductive Attempt where
  | unwrap | execute
  deriving DecidableEq, Repr

/-- What an observer of the handle and the network notes. -/
inductive Mark where
  /-- A call was refused before it began an attempt. -/
  | rejected (e : Error)
  | started (attempt : Attempt)
  /-- A `sys/wrapping/unwrap` request went out. -/
  | sentUnwrap
  /-- An accepted response was received completely. -/
  | received (attempt : Attempt) (body : Bytes)
  | ended (result : Except Error Unit)
  | cancelled
  deriving DecidableEq

/-- A client's view of one handle. -/
structure Session where
  holder : Holder
  settled : Option CachedCompatibilityResult
  log : List Mark

inductive Event where
  | tryUnwrap
  | tryExecuteBytes
  | tryExecute
  | intoControlGroupExecution
  /-- The version check answers; `refusal` tells whether the request can be sent. -/
  | checked (probe : HealthExchange) (refusal : Option SendRefusal)
  /-- Too many callers wait for the version check. -/
  | crowded
  | sendFailed (message : String)
  | responded (status : ℕ) (json : Bool) (contentLength : Option ℕ)
  | chunk (bytes : Bytes)
  | bodyFailed (message : String)
  | bodyEnd
  /-- The future of the call is dropped. -/
  | drop

/-- What a session depends on besides its events. -/
structure Setting (α : Type) where
  client : Client
  operations : List OpenBaoOperation
  maxResponseBytes : ℕ
  /-- How the caller's type is decoded. -/
  decode : Bytes → Option α

def acceptedStatuses : List ℕ := [200, 204]

def tooLarge : Error := .decode "OpenBao response exceeds client limit"

def schemaError : Error := .decode "OpenBao response did not match expected schema"

/-- The checks on the head of a response whose body is to be read. -/
def checkHead (maxResponseBytes status : ℕ) (json : Bool) (contentLength : Option ℕ) :
    Except Error Unit :=
  if status ∉ acceptedStatuses then .error (.api status [])
  else if status ≠ 204 && !json then
    .error (.decode "unexpected content-type: expected application/json")
  else if contentLength.any (· > maxResponseBytes) then .error tooLarge
  else .ok ()

/-- The bytes that stand for a response without content. -/
def emptyObject : Bytes := [0x7b, 0x7d]

section stepping

variable {α : Type} (setting : Setting α)

def Session.note (s : Session) (holder : Holder) (marks : List Mark) : Session :=
  { s with holder, log := s.log ++ marks }

/-- The section of `try_unwrap` behind a complete body. -/
def finishUnwrap (s : Session) (w : WrappedResponse) (body : Bytes) : Session :=
  match setting.decode body with
  | some _ => s.note (.wrapped w.clear .idle) [.received .unwrap body, .ended (.ok ())]
  | none => s.note (.wrapped w .idle) [.received .unwrap body, .ended (.error schemaError)]

/-- The end of `try_execute` or `try_execute_bytes` behind a complete body. -/
def finishExecute (s : Session) (e : ControlGroupExecution) (decodes : Bool) (body : Bytes) :
    Session :=
  let result := if decodes && (setting.decode body).isNone then
      .error (.decode "control-group execution response did not match expected schema")
    else .ok ()
  s.note (.execution e.receive .idle) [.received .execute body, .ended result]

def stepUnwrap (s : Session) (w : WrappedResponse) : UnwrapPhase → Event → Option Session
  | .idle, .tryUnwrap =>
    match w.begin with
    | .error e => some (s.note (.wrapped w .idle) [.rejected e])
    | .ok w' => some (s.note (.wrapped w' .checking) [.started .unwrap])
  | .idle, .intoControlGroupExecution =>
    some (s.note (.execution w.intoControlGroupExecution .idle) [])
  | .idle, _ => none
  | .checking, .crowded =>
    some (s.note (.wrapped w .idle) [.ended (.error tooManyWaitersError)])
  | .checking, .checked probe refusal =>
    let result := checkVersion setting.client s.settled probe
    let s := { s with settled := some result }
    match result.mapError compatibilityError, refusal with
    | .error e, _ => some (s.note (.wrapped w .idle) [.ended (.error e)])
    | .ok _, some refusal => some (s.note (.wrapped w .idle) [.ended (.error refusal.error)])
    | .ok _, none => some (s.note (.wrapped w .sending) [.sentUnwrap])
  | .sending, .sendFailed message =>
    some (s.note (.wrapped w .idle) [.ended (.error (.transport message))])
  | .sending, .responded status json contentLength =>
    if status = 204 then some (finishUnwrap setting s w emptyObject)
    else
      match checkHead setting.maxResponseBytes status json contentLength with
      | .error e => some (s.note (.wrapped w .idle) [.ended (.error e)])
      | .ok () => some (s.note (.wrapped w (.reading [])) [])
  | .reading body, .chunk bytes =>
    if body.length + bytes.length > setting.maxResponseBytes then
      some (s.note (.wrapped w .idle) [.ended (.error tooLarge)])
    else some (s.note (.wrapped w (.reading (body ++ bytes))) [])
  | .reading _, .bodyFailed message =>
    some (s.note (.wrapped w .idle) [.ended (.error (.transport message))])
  | .reading body, .bodyEnd => some (finishUnwrap setting s w body)
  | _, .drop => some (s.note (.wrapped w .idle) [.cancelled])
  | _, _ => none

def stepExecute (s : Session) (e : ControlGroupExecution) : ExecutePhase → Event → Option Session
  | .idle, .tryExecuteBytes =>
    match e.ensureReady with
    | .error err => some (s.note (.execution e .idle) [.rejected err])
    | .ok () => some (s.note (.execution e (.checking false)) [])
  | .idle, .tryExecute =>
    match e.ensureReady with
    | .error err => some (s.note (.execution e .idle) [.rejected err])
    | .ok () => some (s.note (.execution e (.checking true)) [])
  | .idle, _ => none
  | .checking _, .crowded =>
    some (s.note (.execution e .idle) [.rejected tooManyWaitersError])
  | .checking decodes, .checked probe refusal =>
    let result := checkVersion setting.client s.settled probe
    let s := { s with settled := some result }
    let ensured := result.mapError compatibilityError
    match requireControlGroups ensured with
    | .error err => some (s.note (.execution e .idle) [.rejected err])
    | .ok () =>
      match e.ensureReady with
      | .error err => some (s.note (.execution e .idle) [.rejected err])
      | .ok () =>
        let e := { e with state := .outcomeUnknown }
        match resolveRegisteredOpenbaoRoute setting.operations setting.client ensured "POST"
            (.exact "/sys/".toList "sys/wrapping/unwrap".toList) [], refusal with
        | .error err, _ =>
          some (s.note (.execution e .idle) [.started .execute, .ended (.error err)])
        | .ok _, some refusal =>
          some (s.note (.execution e .idle) [.started .execute, .ended (.error refusal.error)])
        | .ok _, none =>
          some (s.note (.execution e (.sending decodes)) [.started .execute, .sentUnwrap])
  | .sending _, .sendFailed message =>
    some (s.note (.execution e .idle) [.ended (.error (.transport message))])
  | .sending decodes, .responded status json contentLength =>
    match checkHead setting.maxResponseBytes status json contentLength with
    | .error err => some (s.note (.execution e .idle) [.ended (.error err)])
    | .ok () => some (s.note (.execution e (.reading decodes [])) [])
  | .reading decodes body, .chunk bytes =>
    if body.length + bytes.length > setting.maxResponseBytes then
      some (s.note (.execution e .idle) [.ended (.error tooLarge)])
    else some (s.note (.execution e (.reading decodes (body ++ bytes))) [])
  | .reading _ _, .bodyFailed message =>
    some (s.note (.execution e .idle) [.ended (.error (.transport message))])
  | .reading decodes body, .bodyEnd => some (finishExecute setting s e decodes body)
  | _, .drop => some (s.note (.execution e .idle) [.cancelled])
  | _, _ => none

/-- One section of a call, or the drop of its future; no session where the event cannot
happen. -/
def step (s : Session) (event : Event) : Option Session :=
  match s.holder with
  | .wrapped w phase => stepUnwrap setting s w phase event
  | .execution e phase => stepExecute setting s e phase event

/-- A sequence of events. -/
def run (s : Session) (events : List Event) : Option Session := events.foldlM (step setting) s

end stepping

/-- The handle that a wrapped request returns. -/
def Session.new (wrapInfo : WrapInfo) (settled : Option CachedCompatibilityResult) : Session :=
  ⟨.wrapped ⟨wrapInfo, false, false⟩ .idle, settled, []⟩

/-! ### The stage of a session -/

def Holder.response : Holder → WrappedResponse
  | wrapped w _ => w
  | execution e _ => e.wrapped

/-- The execution state that the handle has, or has once it is converted. -/
def Holder.executionState : Holder → ControlGroupExecutionState
  | wrapped w _ => w.intoControlGroupExecution.state
  | execution e _ => e.state

/-- The marks that tell of the redemption. -/
def sign : Mark → Option (Sign Attempt Bytes)
  | .started attempt => some (.begun attempt)
  | .sentUnwrap => some .sent
  | .received attempt body => some (.received attempt body)
  | _ => none

/-- Where a call may be suspended at each stage. -/
def Holder.Fits : Holder → Stage Attempt Bytes → Prop
  | wrapped _ .checking, stage => stage = .begun .unwrap
  | wrapped _ .sending, stage => stage = .sent .unwrap
  | wrapped _ (.reading _), stage => stage = .sent .unwrap
  | execution _ (.checking _), stage => stage = .fresh
  | execution _ (.sending _), stage => stage = .sent .execute
  | execution _ (.reading _ _), stage => stage = .sent .execute
  | _, _ => True

section stages

variable {α : Type} {setting : Setting α} {info : WrapInfo} {stage : Stage Attempt Bytes}
  {w : WrappedResponse} {e : ControlGroupExecution}

/-- Whether what was received clears the credentials. -/
def clears (setting : Setting α) : Stage Attempt Bytes → Bool
  | .received .execute _ => true
  | .received .unwrap body => (setting.decode body).isSome
  | _ => false

def stageState (setting : Setting α) (stage : Stage Attempt Bytes) : ControlGroupExecutionState :=
  if stage = .fresh then .ready
  else if clears setting stage then .responseReceived
  else .outcomeUnknown

/-- The flags and credentials of a handle at a stage. -/
structure AtStage (setting : Setting α) (info : WrapInfo) (stage : Stage Attempt Bytes)
    (holder : Holder) : Prop where
  wrapInfo : holder.response.wrapInfo = if clears setting stage then .cleared else info
  consumed : holder.response.consumed = clears setting stage
  state : holder.executionState = stageState setting stage
  fits : holder.Fits stage

/-- The log and the handle of a session are at the same stage. -/
def Consistent (setting : Setting α) (info : WrapInfo) (s : Session) : Prop :=
  ∃ stage, Tells sign s.log stage ∧ AtStage setting info stage s.holder

theorem stageState_eq_ready_iff : stageState setting stage = .ready ↔ stage = .fresh := by
  unfold stageState
  split
  · simpa
  · split <;> simpa

/-- A stage with the same consequences for the credentials. -/
theorem AtStage.move {holder holder' : Holder} {stage' : Stage Attempt Bytes}
    (h : AtStage setting info stage holder) (hr : holder'.response = holder.response)
    (hs : holder'.executionState = holder.executionState)
    (hc : clears setting stage' = clears setting stage) (hf : stage' = .fresh ↔ stage = .fresh)
    (hfits : holder'.Fits stage') : AtStage setting info stage' holder' where
  wrapInfo := by rw [hr, hc, h.wrapInfo]
  consumed := by rw [hr, hc, h.consumed]
  state := by simp only [hs, h.state, stageState, hc, hf]
  fits := hfits

theorem AtStage.idle {phase : UnwrapPhase} (h : AtStage setting info stage (.wrapped w phase)) :
    AtStage setting info stage (.wrapped w .idle) :=
  h.move rfl rfl rfl Iff.rfl trivial

theorem AtStage.idleExecution {phase : ExecutePhase}
    (h : AtStage setting info stage (.execution e phase)) :
    AtStage setting info stage (.execution e .idle) :=
  h.move rfl rfl rfl Iff.rfl trivial

theorem AtStage.convert (h : AtStage setting info stage (.wrapped w .idle)) :
    AtStage setting info stage (.execution w.intoControlGroupExecution .idle) :=
  h.move rfl rfl rfl Iff.rfl trivial

/-- A wrapper that lets a call begin is fresh. -/
theorem AtStage.begin {w' : WrappedResponse} (h : AtStage setting info stage (.wrapped w .idle))
    (hb : w.begin = .ok w') :
    stage = .fresh ∧ AtStage setting info (.begun .unwrap) (.wrapped w' .checking) := by
  unfold WrappedResponse.begin at hb
  split at hb
  · cases hb
  · next hflags =>
    obtain ⟨_, -, hb⟩ := bind_eq_ok_iff.mp hb
    cases hb
    simp only [Bool.or_eq_true, not_or, Bool.not_eq_true] at hflags
    have hready : (Holder.wrapped w .idle).executionState = .ready := by
      simp [Holder.executionState, WrappedResponse.intoControlGroupExecution, hflags]
    have hfresh : stage = .fresh := stageState_eq_ready_iff.mp (h.state.symm.trans hready)
    subst hfresh
    refine ⟨rfl, h.wrapInfo, h.consumed, ?_, rfl⟩
    simp [Holder.executionState, WrappedResponse.intoControlGroupExecution, hflags, stageState,
      clears]

theorem AtStage.send (h : AtStage setting info (.begun .unwrap) (.wrapped w .checking)) :
    AtStage setting info (.sent .unwrap) (.wrapped w .sending) :=
  h.move rfl rfl rfl (by simp) rfl

theorem AtStage.clear {body : Bytes} (hbody : (setting.decode body).isSome) :
    AtStage setting info (.received .unwrap body) (.wrapped w.clear .idle) where
  wrapInfo := by simp [Holder.response, WrappedResponse.clear, clears, hbody]
  consumed := by simp [Holder.response, WrappedResponse.clear, clears, hbody]
  state := by
    simp [Holder.executionState, WrappedResponse.intoControlGroupExecution, WrappedResponse.clear,
      stageState, clears, hbody]
  fits := trivial

theorem AtStage.undecoded {phase : UnwrapPhase} {body : Bytes}
    (h : AtStage setting info (.sent .unwrap) (.wrapped w phase))
    (hbody : setting.decode body = none) :
    AtStage setting info (.received .unwrap body) (.wrapped w .idle) :=
  h.move rfl rfl (by simp [clears, hbody]) (by simp) trivial

/-- An execution that passes its own check is fresh. -/
theorem AtStage.fresh_of_ensureReady {phase : ExecutePhase}
    (h : AtStage setting info stage (.execution e phase)) (hready : e.ensureReady = .ok ()) :
    stage = .fresh := by
  unfold ControlGroupExecution.ensureReady at hready
  split at hready
  · cases hready
  · next hstate => exact stageState_eq_ready_iff.mp (h.state.symm.trans (not_not.mp hstate))

theorem AtStage.check {decodes : Bool} (h : AtStage setting info .fresh (.execution e .idle)) :
    AtStage setting info .fresh (.execution e (.checking decodes)) :=
  h.move rfl rfl rfl Iff.rfl rfl

/-- From the start of an execution until its response the credentials stay. -/
theorem AtStage.start {phase phase' : ExecutePhase}
    (h : AtStage setting info .fresh (.execution e phase)) (stage : Stage Attempt Bytes)
    (hstage : stage ≠ .fresh) (hclears : clears setting stage = false)
    (hfits : (Holder.execution { e with state := .outcomeUnknown } phase').Fits stage) :
    AtStage setting info stage (.execution { e with state := .outcomeUnknown } phase') where
  wrapInfo := by rw [hclears]; exact h.wrapInfo
  consumed := by rw [hclears]; exact h.consumed
  state := by simp [Holder.executionState, stageState, hstage, hclears]
  fits := hfits

theorem AtStage.receive {body : Bytes} :
    AtStage setting info (.received .execute body) (.execution e.receive .idle) :=
  ⟨rfl, rfl, rfl, trivial⟩

/-! ### Sections keep a session consistent -/

variable {s s' : Session} {marks : List Mark} {holder : Holder}

theorem Consistent.note {stage' : Stage Attempt Bytes} (htells : Tells sign s.log stage)
    (hmarks : stage.trace ++ marks.filterMap sign = stage'.trace)
    (hat : AtStage setting info stage' holder) :
    Consistent setting info (s.note holder marks) :=
  ⟨stage', htells.append stage' hmarks, hat⟩

theorem Consistent.silent (htells : Tells sign s.log stage) (hmarks : marks.filterMap sign = [])
    (hat : AtStage setting info stage holder) :
    Consistent setting info (s.note holder marks) :=
  ⟨stage, htells.append_silent hmarks, hat⟩

theorem finishUnwrap_consistent {phase : UnwrapPhase} {body : Bytes}
    (htells : Tells sign s.log (.sent .unwrap))
    (hat : AtStage setting info (.sent .unwrap) (.wrapped w phase)) :
    Consistent setting info (finishUnwrap setting s w body) := by
  unfold finishUnwrap
  split
  · next hbody => exact .note htells rfl (.clear (by simp [hbody]))
  · next hbody => exact .note htells rfl (hat.undecoded hbody)

theorem finishExecute_consistent {decodes : Bool} {body : Bytes}
    (htells : Tells sign s.log (.sent .execute)) :
    Consistent setting info (finishExecute setting s e decodes body) :=
  .note htells rfl .receive

theorem stepUnwrap_consistent {phase : UnwrapPhase} {event : Event}
    (htells : Tells sign s.log stage) (hat : AtStage setting info stage (.wrapped w phase))
    (hstep : stepUnwrap setting s w phase event = some s') : Consistent setting info s' := by
  have hfits := hat.fits
  unfold stepUnwrap at hstep
  split at hstep
  · split at hstep <;> cases hstep
    · exact .silent htells rfl hat
    · next hbegin =>
      obtain ⟨rfl, hat'⟩ := hat.begin hbegin
      exact .note htells rfl hat'
  · cases hstep
    exact .silent htells rfl hat.convert
  · cases hstep
  · cases hstep
    exact .silent htells rfl hat.idle
  · obtain rfl : stage = .begun .unwrap := hfits
    dsimp only at hstep
    split at hstep <;> cases hstep
    · exact .silent htells rfl hat.idle
    · exact .silent htells rfl hat.idle
    · exact .note htells rfl hat.send
  · cases hstep
    exact .silent htells rfl hat.idle
  · obtain rfl : stage = .sent .unwrap := hfits
    split at hstep
    · cases hstep
      exact finishUnwrap_consistent htells hat
    · split at hstep <;> cases hstep
      · exact .silent htells rfl hat.idle
      · exact .silent htells rfl (hat.move rfl rfl rfl Iff.rfl rfl)
  · split at hstep <;> cases hstep
    · exact .silent htells rfl hat.idle
    · exact .silent htells rfl (hat.move rfl rfl rfl Iff.rfl hfits)
  · cases hstep
    exact .silent htells rfl hat.idle
  · obtain rfl : stage = .sent .unwrap := hfits
    cases hstep
    exact finishUnwrap_consistent htells hat
  · cases hstep
    exact .silent htells rfl hat.idle
  · cases hstep

theorem stepExecute_consistent {phase : ExecutePhase} {event : Event}
    (htells : Tells sign s.log stage) (hat : AtStage setting info stage (.execution e phase))
    (hstep : stepExecute setting s e phase event = some s') : Consistent setting info s' := by
  have hfits := hat.fits
  unfold stepExecute at hstep
  split at hstep
  · split at hstep <;> cases hstep
    · exact .silent htells rfl hat
    · next hready =>
      obtain rfl := hat.fresh_of_ensureReady hready
      exact .silent htells rfl hat.check
  · split at hstep <;> cases hstep
    · exact .silent htells rfl hat
    · next hready =>
      obtain rfl := hat.fresh_of_ensureReady hready
      exact .silent htells rfl hat.check
  · cases hstep
  · cases hstep
    exact .silent htells rfl hat.idleExecution
  · obtain rfl : stage = .fresh := hfits
    dsimp only at hstep
    split at hstep
    · cases hstep
      exact .silent htells rfl hat.idleExecution
    · split at hstep
      · cases hstep
        exact .silent htells rfl hat.idleExecution
      · split at hstep <;> cases hstep
        · exact .note htells rfl (hat.start (.begun .execute) (by simp) rfl trivial)
        · exact .note htells rfl (hat.start (.begun .execute) (by simp) rfl trivial)
        · exact .note htells rfl (hat.start (.sent .execute) (by simp) rfl rfl)
  · cases hstep
    exact .silent htells rfl hat.idleExecution
  · split at hstep <;> cases hstep
    · exact .silent htells rfl hat.idleExecution
    · exact .silent htells rfl (hat.move rfl rfl rfl Iff.rfl hfits)
  · split at hstep <;> cases hstep
    · exact .silent htells rfl hat.idleExecution
    · exact .silent htells rfl (hat.move rfl rfl rfl Iff.rfl hfits)
  · cases hstep
    exact .silent htells rfl hat.idleExecution
  · obtain rfl : stage = .sent .execute := hfits
    cases hstep
    exact finishExecute_consistent htells
  · cases hstep
    exact .silent htells rfl hat.idleExecution
  · cases hstep

theorem step_consistent {event : Event} (h : Consistent setting info s)
    (hstep : step setting s event = some s') : Consistent setting info s' := by
  obtain ⟨stage, htells, hat⟩ := h
  unfold step at hstep
  split at hstep
  · next hholder => exact stepUnwrap_consistent htells (hholder ▸ hat) hstep
  · next hholder => exact stepExecute_consistent htells (hholder ▸ hat) hstep

theorem run_consistent {events : List Event} (h : Consistent setting info s)
    (hrun : run setting s events = some s') : Consistent setting info s' := by
  induction events generalizing s with
  | nil =>
    cases hrun
    exact h
  | cons event events ih =>
    simp only [run, List.foldlM_cons, Option.bind_eq_bind, Option.bind_eq_some_iff] at hrun
    obtain ⟨s₁, hstep, hrun⟩ := hrun
    exact ih (step_consistent h hstep) hrun

theorem consistent_new (settled : Option CachedCompatibilityResult) :
    Consistent setting info (.new info settled) :=
  ⟨.fresh, rfl, rfl, rfl, rfl, trivial⟩

theorem Consistent.count_sentUnwrap_le (h : Consistent setting info s) :
    s.log.count .sentUnwrap ≤ 1 := by
  obtain ⟨stage, htells, -⟩ := h
  calc s.log.count .sentUnwrap
      ≤ s.log.countP fun mark => sign mark == some .sent :=
        List.countP_mono_left fun mark _ hmark => by
          obtain rfl := eq_of_beq hmark
          rfl
    _ = (s.log.filterMap sign).count .sent := List.count_filterMap.symm
    _ ≤ 1 := htells.sent_once

theorem sign_eq_begun_iff {mark : Mark} {attempt : Attempt} :
    sign mark = some (.begun attempt) ↔ mark = .started attempt := by
  cases mark <;> simp [sign]

theorem sign_eq_received_iff {mark : Mark} {attempt : Attempt} {body : Bytes} :
    sign mark = some (.received attempt body) ↔ mark = .received attempt body := by
  cases mark <;> simp [sign]

theorem started_mem_log_iff (h : Tells sign s.log stage) :
    (∃ attempt, .started attempt ∈ s.log) ↔ stage ≠ .fresh := by
  rw [← Stage.begun_mem_trace_iff]
  refine exists_congr fun attempt => ?_
  rw [← h.mem_iff (.begun attempt)]
  simp only [sign_eq_begun_iff, exists_eq_right]

theorem received_mem_log_iff (h : Tells sign s.log stage) {attempt : Attempt} {body : Bytes} :
    .received attempt body ∈ s.log ↔ stage = .received attempt body := by
  rw [← Stage.received_mem_trace_iff, ← h.mem_iff (.received attempt body)]
  simp only [sign_eq_received_iff, exists_eq_right]

theorem clears_iff : clears setting stage = true ↔ ∃ attempt body,
    stage = .received attempt body ∧ (attempt = .unwrap → (setting.decode body).isSome) := by
  cases stage with
  | received attempt body => cases attempt <;> simp [clears]
  | _ => simp [clears]

/-- Nothing was sent from a handle that is ready. -/
theorem Consistent.unsent_of_ready (h : Consistent setting info s)
    (hready : s.holder.executionState = .ready) : .sentUnwrap ∉ s.log := by
  obtain ⟨stage, htells, hat⟩ := h
  obtain rfl : stage = .fresh := stageState_eq_ready_iff.mp (hat.state.symm.trans hready)
  intro hmem
  have := (htells.mem_iff .sent).mp ⟨_, hmem, rfl⟩
  cases this

theorem Consistent.ready_of_checking {decodes : Bool} (h : Consistent setting info s)
    (hholder : s.holder = .execution e (.checking decodes)) : e.state = .ready := by
  obtain ⟨stage, -, hat⟩ := h
  rw [hholder] at hat
  obtain rfl : stage = .fresh := hat.fits
  exact hat.state

end stages

/-! ### One redemption -/

/-- An accepted response was received completely, and `try_unwrap` decoded it. -/
def Redeemed {α : Type} (setting : Setting α) (s : Session) : Prop :=
  ∃ attempt body, .received attempt body ∈ s.log ∧
    (attempt = .unwrap → (setting.decode body).isSome)

structure RedeemsOnce {α : Type} (setting : Setting α) (info : WrapInfo) (s : Session) : Prop where
  sentOnce : s.log.count .sentUnwrap ≤ 1
  consumed : s.holder.response.consumed = true ↔ Redeemed setting s
  cleared : Redeemed setting s → s.holder.response.wrapInfo = .cleared
  kept : ¬ Redeemed setting s → s.holder.response.wrapInfo = info
  ready : s.holder.executionState = .ready ↔ ¬ ∃ attempt, .started attempt ∈ s.log
  outcomeUnknown : s.holder.executionState = .outcomeUnknown ↔
    (∃ attempt, .started attempt ∈ s.log) ∧ ¬ Redeemed setting s
  responseReceived : s.holder.executionState = .responseReceived ↔ Redeemed setting s
  /-- A conversion is neither an attempt nor forgets one. -/
  converts : ∀ w, s.holder = .wrapped w .idle → ∃ e,
    step setting s .intoControlGroupExecution = some { s with holder := .execution e .idle } ∧
    e.wrapped = w ∧ e.state = s.holder.executionState
  refusesToken : ∀ e error event, s.holder = .execution e .idle → e.state = .ready →
    validateExplicitWrappingToken e.wrapped.wrapInfo.token = .error error →
    (event = .tryExecute ∨ event = .tryExecuteBytes) →
    .sentUnwrap ∉ s.log ∧
    step setting s event = some { s with log := s.log ++ [.rejected error] }
  refusesProfile : ∀ e decodes probe refusal error, s.holder = .execution e (.checking decodes) →
    requireControlGroups
      ((checkVersion setting.client s.settled probe).mapError compatibilityError) = .error error →
    .sentUnwrap ∉ s.log ∧ e.state = .ready ∧
    ∃ s', step setting s (.checked probe refusal) = some s' ∧
      s'.holder = .execution e .idle ∧ s'.log = s.log ++ [.rejected error]

section redemption

variable {α : Type} {setting : Setting α} {info : WrapInfo} {s : Session}
  {stage : Stage Attempt Bytes} {e : ControlGroupExecution} {error : Error}

theorem redeemed_iff (h : Tells sign s.log stage) :
    Redeemed setting s ↔ clears setting stage = true := by
  rw [clears_iff]
  simp only [Redeemed, received_mem_log_iff h]

theorem ensureReady_of_invalidToken (hstate : e.state = .ready)
    (htoken : validateExplicitWrappingToken e.wrapped.wrapInfo.token = .error error) :
    e.ensureReady = .error error := by
  rw [ControlGroupExecution.ensureReady, if_neg (not_not.mpr hstate), htoken]

theorem step_of_invalidToken {event : Event} (hholder : s.holder = .execution e .idle)
    (hstate : e.state = .ready)
    (htoken : validateExplicitWrappingToken e.wrapped.wrapInfo.token = .error error)
    (hevent : event = .tryExecute ∨ event = .tryExecuteBytes) :
    step setting s event = some { s with log := s.log ++ [.rejected error] } := by
  have hready := ensureReady_of_invalidToken hstate htoken
  unfold step
  rw [hholder]
  rcases hevent with rfl | rfl <;>
    simp only [stepExecute, hready, Session.note, ← hholder]

theorem step_of_rejectedProfile {decodes : Bool} {probe : HealthExchange}
    {refusal : Option SendRefusal} (hholder : s.holder = .execution e (.checking decodes))
    (hrequire : requireControlGroups
      ((checkVersion setting.client s.settled probe).mapError compatibilityError) = .error error) :
    ∃ s', step setting s (.checked probe refusal) = some s' ∧
      s'.holder = .execution e .idle ∧ s'.log = s.log ++ [.rejected error] := by
  unfold step
  rw [hholder]
  simp only [stepExecute, hrequire]
  exact ⟨_, rfl, rfl, rfl⟩

theorem Consistent.redeemsOnce (h : Consistent setting info s) : RedeemsOnce setting info s := by
  have h' := h
  obtain ⟨stage, htells, hat⟩ := h'
  have hredeemed : Redeemed setting s ↔ clears setting stage = true := redeemed_iff htells
  have hstarted := started_mem_log_iff htells
  refine
    { sentOnce := h.count_sentUnwrap_le
      consumed := by rw [hat.consumed, hredeemed]
      cleared := fun hr => by rw [hat.wrapInfo, if_pos (hredeemed.mp hr)]
      kept := fun hr => by rw [hat.wrapInfo, if_neg (mt hredeemed.mpr hr)]
      ready := by rw [hat.state, stageState_eq_ready_iff, hstarted, not_not]
      outcomeUnknown := ?_
      responseReceived := ?_
      converts := ?_
      refusesToken := ?_
      refusesProfile := ?_ }
  · rw [hat.state, hstarted, hredeemed, stageState]
    split_ifs <;> simp_all
  · rw [hat.state, hredeemed, stageState]
    split_ifs with hfresh hclears
    · simp [hfresh, clears]
    · simp [hclears]
    · simp [hclears]
  · intro w hholder
    refine ⟨w.intoControlGroupExecution, ?_, rfl, by rw [hholder]; rfl⟩
    unfold step
    rw [hholder]
    simp [stepUnwrap, Session.note]
  · intro e error event hholder hstate htoken hevent
    refine ⟨h.unsent_of_ready (by rwa [hholder]), ?_⟩
    exact step_of_invalidToken hholder hstate htoken hevent
  · intro e decodes probe refusal error hholder hrequire
    have hstate := h.ready_of_checking hholder
    exact ⟨h.unsent_of_ready (by rwa [hholder]), hstate, step_of_rejectedProfile hholder hrequire⟩

/-- One request at most redeems the token of a handle, over any sequence of calls, answers
and drops. -/
theorem run_redeemsOnce {settled : Option CachedCompatibilityResult} {events : List Event}
    (hrun : run setting (.new info settled) events = some s) : RedeemsOnce setting info s :=
  (run_consistent (consistent_new settled) hrun).redeemsOnce

/-! A client without a policy redeems a token for a value whose only encoding is the
empty object. -/

def emptyObjects : Setting Unit :=
  ⟨⟨none, []⟩, [], 1024, fun body => if body = emptyObject then some () else none⟩

def wrapInfo : WrapInfo := ⟨"s.wrapping".toList, some "accessor".toList⟩

/-- A redemption that is dropped behind its request, converted and tried again. -/
def droppedUnwrap : List Event :=
  [.tryUnwrap, .checked .noUrl none, .drop, .intoControlGroupExecution, .tryExecute]

theorem droppedUnwrap_redeemsOnce :
    ∃ s, run emptyObjects (.new wrapInfo none) droppedUnwrap = some s ∧
      s.log.count .sentUnwrap = 1 ∧ s.holder.executionState = .outcomeUnknown ∧
      RedeemsOnce emptyObjects wrapInfo s := by
  have hrun : run emptyObjects (.new wrapInfo none) droppedUnwrap = some _ := rfl
  refine ⟨_, hrun, ?_, ?_, run_redeemsOnce hrun⟩
  · decide +kernel
  · rfl

/-- `try_unwrap` keeps the token when the complete body of an accepted response does not
decode. -/
theorem undecodedUnwrap_keeps_token :
    ∃ s, run emptyObjects (.new wrapInfo none)
        [.tryUnwrap, .checked .noUrl none, .responded 200 true none, .chunk [0x5b, 0x5d],
          .bodyEnd] = some s ∧
      .received .unwrap [0x5b, 0x5d] ∈ s.log ∧ s.holder.response.wrapInfo = wrapInfo ∧
      wrapInfo ≠ .cleared := by
  refine ⟨_, rfl, ?_, ?_, ?_⟩
  · decide +kernel
  · rfl
  · decide +kernel

end redemption

end OpenBao.WrappingRedemption
