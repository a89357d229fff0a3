import Mathlib.Logic.Function.Basic
import Mathlib.Logic.Relation
import OpenBao.ClientErrors

/-!
# The compatibility probe

One client's cached server-version check and its concurrent callers. The sections
that run under the lock of the cache are functions; `Step` interleaves them. The
sections do not panic, as long as cloning and dropping a waker does not, so the lock
is never poisoned and the branches for a poisoned lock are left out.
-/

namespace OpenBao.CompatibilityProbe

inductive OpenBaoCompatibilityPolicy where
  | exact (version : OpenBaoVersion)
  | range (requirement : OpenBaoVersionRequirement)
  | automaticStrict
  | assumed (version : OpenBaoVersion)
  | acknowledgedUnknownNewer
  deriving DecidableEq, Repr

inductive OpenBaoCompatibilityPolicyKind where
  | exact | range | automaticStrict | assumed | acknowledgedUnknownNewer
  deriving DecidableEq, Repr

inductive OpenBaoCompatibilityFailure where
  | versionMismatch (detected : OpenBaoVersion) (requirement : OpenBaoVersionRequirement)
  | unknownVersion (version : OpenBaoVersion)
  deriving DecidableEq, Repr

inductive OpenBaoCompatibilityStatus where
  | unverified | verified | assumed | acknowledgedUnknownNewer
  deriving DecidableEq, Repr

structure OpenBaoCompatibilityReport where
  status : OpenBaoCompatibilityStatus
  policy : Option OpenBaoCompatibilityPolicyKind
  requirement : Option OpenBaoVersionRequirement
  detectedVersion : Option OpenBaoVersion
  profileVersion : Option OpenBaoVersion
  deriving DecidableEq, Repr

namespace OpenBaoCompatibilityReport

def unverified : OpenBaoCompatibilityReport := ⟨.unverified, none, none, none, none⟩

def assumed (version : OpenBaoVersion) : OpenBaoCompatibilityReport :=
  ⟨.assumed, some .assumed, some (.exact version), none, some version⟩

end OpenBaoCompatibilityReport

/-- The report of a policy that needs no probe. -/
def OpenBaoCompatibilityPolicy.immediateReport :
    OpenBaoCompatibilityPolicy → Option OpenBaoCompatibilityReport
  | .assumed version => some (.assumed version)
  | _ => none

inductive CachedCompatibilityFailure where
  | policy (failure : OpenBaoCompatibilityFailure)
  | probe (message : String)
  deriving DecidableEq, Repr

abbrev CachedCompatibilityResult := Except CachedCompatibilityFailure OpenBaoCompatibilityReport

def compatibilityError : CachedCompatibilityFailure → Error
  | .policy (.versionMismatch detected requirement) =>
    .openBaoVersionMismatch detected requirement
  | .policy (.unknownVersion version) => .unknownOpenBaoVersion version
  | .probe message => .openBaoCompatibilityProbe message

def tooManyWaitersError : Error :=
  .openBaoCompatibilityProbe "too many concurrent compatibility waiters"

/-- A task handle as `will_wake` compares it: data pointer and function table. -/
structure Waker where
  data : ℕ
  vtable : ℕ
  deriving DecidableEq, Repr

def Waker.willWake (a b : Waker) : Bool := a.data == b.data && a.vtable == b.vtable

theorem Waker.willWake_iff {a b : Waker} : a.willWake b = true ↔ a = b := by
  cases a
  cases b
  simp [willWake]

/-- The address of a waiter's reference-counted unit. -/
abbrev Token := ℕ

structure CompatibilityWaiter where
  token : Token
  waker : Waker
  deriving DecidableEq, Repr

def maxCompatibilityWaiters : ℕ := 4096

inductive CompatibilityVerificationState where
  | pending
  | running (waiters : List CompatibilityWaiter)
  | complete (result : CachedCompatibilityResult)

/-- The state of a new client. -/
def newVerification : Option OpenBaoCompatibilityPolicy → CompatibilityVerificationState
  | none => .complete (.ok .unverified)
  | some policy =>
    match policy.immediateReport with
    | some report => .complete (.ok report)
    | none => .pending

inductive CompatibilityWaitOutcome where
  | complete (result : CachedCompatibilityResult)
  | retry
  | tooManyWaiters

inductive CompatibilityAction where
  | complete (result : CachedCompatibilityResult)
  | wait
  | lead

namespace CompatibilityVerificationState

/-- The state match of `ensure_compatibility`. -/
def chooseAction : CompatibilityVerificationState →
    CompatibilityAction × CompatibilityVerificationState
  | .complete result => (.complete result, .complete result)
  | .running waiters => (.wait, .running waiters)
  | .pending => (.lead, .running [])

/-- The list with the waker of the first entry for `token` renewed, if there is
such an entry. -/
def renewWaker (token : Token) (waker : Waker) :
    List CompatibilityWaiter → Option (List CompatibilityWaiter)
  | [] => none
  | waiter :: waiters =>
    if waiter.token = token then
      some ((if waiter.waker.willWake waker then waiter else { waiter with waker }) :: waiters)
    else (renewWaker token waker waiters).map (waiter :: ·)

/-- `CompatibilityWait::poll`; no outcome is `Poll::Pending`. -/
def pollWait (token : Token) (waker : Waker) : CompatibilityVerificationState →
    Option CompatibilityWaitOutcome × CompatibilityVerificationState
  | .complete result => (some (.complete result), .complete result)
  | .pending => (some .retry, .pending)
  | .running waiters =>
    match renewWaker token waker waiters with
    | some renewed => (none, .running renewed)
    | none =>
      if waiters.length ≥ maxCompatibilityWaiters then (some .tooManyWaiters, .running waiters)
      else (none, .running (waiters ++ [⟨token, waker⟩]))

/-- `CompatibilityWait::drop`. -/
def dropWait (token : Token) : CompatibilityVerificationState → CompatibilityVerificationState
  | .running waiters => .running (waiters.filter fun waiter => waiter.token ≠ token)
  | state => state

/-- `CompatibilityLeader::complete`: the wakers to fire and the new state. -/
def leaderComplete (result : CachedCompatibilityResult) : CompatibilityVerificationState →
    List Waker × CompatibilityVerificationState
  | .running waiters => (waiters.map (·.waker), .complete result)
  | _ => ([], .complete result)

/-- `CompatibilityLeader::drop` before completion. -/
def leaderDrop : CompatibilityVerificationState → List Waker × CompatibilityVerificationState
  | .running waiters => (waiters.map (·.waker), .pending)
  | previous => ([], previous)

end CompatibilityVerificationState

/-- Where a caller of `ensure_compatibility` is. -/
inductive Phase where
  /-- At the top of the loop. -/
  | start
  /-- The wait exists and has not been polled. -/
  | waiting (token : Token)
  /-- The latest poll was pending; whether its waker has been fired since. -/
  | suspended (token : Token) (waker : Waker) (woken : Bool)
  /-- The poll was ready and the wait is about to be dropped. -/
  | ready (token : Token) (outcome : CompatibilityWaitOutcome)
  /-- The probe is in flight. -/
  | leading
  | returned (result : Except Error OpenBaoCompatibilityReport)
  | cancelled

namespace Phase

/-- The token of the caller's live wait. -/
def token? : Phase → Option Token
  | .waiting token => some token
  | .suspended token _ _ => some token
  | .ready token _ => some token
  | _ => none

/-- The token of a wait that can be polled. -/
def pollable? : Phase → Option Token
  | .waiting token => some token
  | .suspended token _ _ => some token
  | _ => none

/-- Fire wakers: a suspended caller is woken through the waker of its latest poll. -/
def wake (wakers : List Waker) : Phase → Phase
  | .suspended token waker woken => .suspended token waker (woken || decide (waker ∈ wakers))
  | phase => phase

def ofResult (result : CachedCompatibilityResult) : Phase :=
  .returned (result.mapError compatibilityError)

/-- What the caller does with the chosen action; `token` is the new allocation. -/
def ofAction (token : Token) : CompatibilityAction → Phase
  | .complete result => ofResult result
  | .wait => .waiting token
  | .lead => .leading

def ofPoll (token : Token) (waker : Waker) : Option CompatibilityWaitOutcome → Phase
  | none => .suspended token waker false
  | some outcome => .ready token outcome

def ofOutcome : CompatibilityWaitOutcome → Phase
  | .complete result => ofResult result
  | .retry => .start
  | .tooManyWaiters => .returned (.error tooManyWaitersError)

end Phase

/-- One client and its callers. -/
structure ProbeSystem (Caller : Type) where
  verification : CompatibilityVerificationState
  phase : Caller → Phase

variable {Caller : Type} [DecidableEq Caller]

namespace ProbeSystem

def init (policy : Option OpenBaoCompatibilityPolicy) : ProbeSystem Caller :=
  ⟨newVerification policy, fun _ => .start⟩

/-- An address that no live reference has. -/
def Unallocated (s : ProbeSystem Caller) (token : Token) : Prop :=
  (∀ c, (s.phase c).token? ≠ some token) ∧
    ∀ waiters, s.verification = .running waiters → ∀ waiter ∈ waiters, waiter.token ≠ token

/-- Caller `c` moves to a phase. -/
def goto (s : ProbeSystem Caller) (c : Caller) (phase : Phase)
    (verification : CompatibilityVerificationState) : ProbeSystem Caller :=
  ⟨verification, Function.update s.phase c phase⟩

/-- Caller `c` moves to a phase and the wakers are fired. -/
def gotoWaking (s : ProbeSystem Caller) (c : Caller) (phase : Phase)
    (after : List Waker × CompatibilityVerificationState) : ProbeSystem Caller :=
  ⟨after.2, Function.update (fun d => (s.phase d).wake after.1) c phase⟩

end ProbeSystem

/-- One atomic step of one caller. A wait may be polled again at any time and with
another waker. -/
inductive Step : ProbeSystem Caller → ProbeSystem Caller → Prop where
  | enter {s : ProbeSystem Caller} (c : Caller) (token : Token) (hphase : s.phase c = .start)
      (hfresh : s.Unallocated token) :
      Step s (s.goto c (.ofAction token s.verification.chooseAction.1)
        s.verification.chooseAction.2)
  | poll {s : ProbeSystem Caller} (c : Caller) (token : Token) (waker : Waker)
      (hphase : (s.phase c).pollable? = some token) :
      Step s (s.goto c (.ofPoll token waker (s.verification.pollWait token waker).1)
        (s.verification.pollWait token waker).2)
  | dropReady {s : ProbeSystem Caller} (c : Caller) (token : Token)
      (outcome : CompatibilityWaitOutcome) (hphase : s.phase c = .ready token outcome) :
      Step s (s.goto c (.ofOutcome outcome) (s.verification.dropWait token))
  | cancelWait {s : ProbeSystem Caller} (c : Caller) (token : Token) (waker : Waker)
      (woken : Bool) (hphase : s.phase c = .suspended token waker woken) :
      Step s (s.goto c .cancelled (s.verification.dropWait token))
  | complete {s : ProbeSystem Caller} (c : Caller) (result : CachedCompatibilityResult)
      (hphase : s.phase c = .leading) :
      Step s (s.gotoWaking c (.ofResult result) (s.verification.leaderComplete result))
  | cancelLead {s : ProbeSystem Caller} (c : Caller) (hphase : s.phase c = .leading) :
      Step s (s.gotoWaking c .cancelled s.verification.leaderDrop)

abbrev Steps : ProbeSystem Caller → ProbeSystem Caller → Prop := Relation.ReflTransGen Step

def Reachable (policy : Option OpenBaoCompatibilityPolicy) (s : ProbeSystem Caller) : Prop :=
  Steps (.init policy) s

namespace ProbeSystem

@[simp] theorem goto_verification (s : ProbeSystem Caller) (c : Caller) (phase : Phase)
    (verification : CompatibilityVerificationState) :
    (s.goto c phase verification).verification = verification := rfl

@[simp] theorem gotoWaking_verification (s : ProbeSystem Caller) (c : Caller) (phase : Phase)
    (after : List Waker × CompatibilityVerificationState) :
    (s.gotoWaking c phase after).verification = after.2 := rfl

@[simp] theorem goto_phase_self (s : ProbeSystem Caller) (c : Caller) (phase : Phase)
    (verification : CompatibilityVerificationState) :
    (s.goto c phase verification).phase c = phase := Function.update_self ..

@[simp] theorem gotoWaking_phase_self (s : ProbeSystem Caller) (c : Caller) (phase : Phase)
    (after : List Waker × CompatibilityVerificationState) :
    (s.gotoWaking c phase after).phase c = phase := by simp [gotoWaking]

theorem goto_phase_of_ne {c d : Caller} (h : d ≠ c) (s : ProbeSystem Caller) (phase : Phase)
    (verification : CompatibilityVerificationState) :
    (s.goto c phase verification).phase d = s.phase d := Function.update_of_ne h ..

theorem gotoWaking_phase_of_ne {c d : Caller} (h : d ≠ c) (s : ProbeSystem Caller)
    (phase : Phase) (after : List Waker × CompatibilityVerificationState) :
    (s.gotoWaking c phase after).phase d = (s.phase d).wake after.1 := by simp [gotoWaking, h]

end ProbeSystem

end OpenBao.CompatibilityProbe
