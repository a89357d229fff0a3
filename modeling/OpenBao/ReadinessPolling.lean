import Mathlib.Data.Nat.Find
import OpenBao.DeadlineLoops
import OpenBao.RegisteredRoutes

/-!
# Readiness polling

The two startup loops: every poll asks the version check, the registry and the server in
turn. The result of the version check is kept for the life of the client, failures
included.
-/

namespace OpenBao.ReadinessPolling
open CompatibilityPolicy CompatibilityProbe DeadlineLoops RegisteredRoutes Utf8Text

/-- Why a request is refused before it is sent. -/
inductive SendRefusal where
  | baseUrl (message : String)
  | header (message : String)
  | internal (message : String)
  deriving DecidableEq, Repr

def SendRefusal.error : SendRefusal → Error
  | baseUrl message => .invalidBaseUrl message
  | header message => .invalidHeader message
  | internal message => .internal message

/-- What comes back from one JSON request; `errors` is what the client keeps of an
error body. -/
inductive JsonExchange (α : Type) where
  | unsent (refusal : SendRefusal)
  | failed (message : String)
  | response (status : ℕ) (errors : List String) (body : BodyRead α)
  deriving DecidableEq, Repr

/-- The part of `request_json_query_headers_accepting` behind the version check, for a
type that an empty object does not decode to. -/
def readJsonExchange {α : Type} (acceptedStatuses : List ℕ) : JsonExchange α → Except Error α
  | .unsent refusal => .error refusal.error
  | .failed message => .error (.transport message)
  | .response status errors body =>
    if status ∉ acceptedStatuses then .error (.api status errors)
    else if status = 204 then
      .error (.decode "OpenBao response did not match expected schema")
    else
      match body with
      | .value a => .ok a
      | .broken message => .error (.transport message)
      | .unreadable message => .error (.decode message)

structure Health where
  initialized : Bool
  isSealed : Bool
  standby : Bool
  version : Str
  clusterName : Option Str
  clusterId : Option Str
  deriving DecidableEq, Repr

structure SealStatus where
  sealType : Str
  initialized : Bool
  isSealed : Bool
  n : Option ℕ
  t : Option ℕ
  progress : Option ℕ
  version : Str
  deriving DecidableEq, Repr

/-- The server's answers to one poll: to the version probe, if the poll makes it, and
to the request. -/
structure PollAnswer (α : Type) where
  probe : HealthExchange
  exchange : JsonExchange α

/-- What distinguishes the two loops. -/
structure Poller (α : Type) where
  path : Str
  acceptedStatuses : List ℕ
  ready : α → Bool
  zeroTimeout : String
  zeroInterval : String
  expired : String

section polling

variable {α : Type} (poller : Poller α) (operations : List OpenBaoOperation) (client : Client)

/-- The outcome of the version check: the settled one, or that of the probe. -/
def checkVersion (settled : Option CachedCompatibilityResult) (probe : HealthExchange) :
    CachedCompatibilityResult :=
  settled.getD (evaluateCompatibilityPolicy client.policy probe)

/-- One poll, and the check's outcome that the client keeps. `settled` is what the poll
finds once no other caller is probing. -/
def poll (settled : Option CachedCompatibilityResult) (answer : PollAnswer α) :
    Except Error α × Option CachedCompatibilityResult :=
  let result := checkVersion client settled answer.probe
  let ensured := result.mapError compatibilityError
  let polled : Except Error α := do
    let _ ← resolveRegisteredOpenbaoRoute operations client ensured "GET"
      (.exact "/sys/".toList poller.path) []
    let _ ← ensured
    readJsonExchange poller.acceptedStatuses answer.exchange
  (polled, some result)

/-- What a poll settles: a ready status or an error that retrying does not cure. -/
def settles : Except Error α → Option (Except Error α)
  | .ok status => if poller.ready status then some (.ok status) else none
  | .error e => if e.isTemporary then none else some (.error e)

/-- The loop from poll `i` on. -/
def pollLoop (answers : ℕ → PollAnswer α) (elapsed : ℕ → ℕ) (timeout interval : ℕ) :
    ℕ → ℕ → Option CachedCompatibilityResult → History (Except Error α)
  | 0, _, _ => ⟨0, [], none⟩
  | fuel + 1, i, settled =>
    let (polled, settled) := poll poller operations client settled (answers i)
    match settles poller polled with
    | some outcome => .stopped outcome
    | none =>
      if elapsed i ≥ timeout then .stopped (.error (.invalidTimeout poller.expired))
      else
        (pollLoop answers elapsed timeout interval fuel (i + 1) settled).prepend
          (min interval (timeout - elapsed i))

def waitWithDelay (settled : Option CachedCompatibilityResult) (answers : ℕ → PollAnswer α)
    (elapsed : ℕ → ℕ) (timeout interval fuel : ℕ) : History (Except Error α) :=
  if timeout = 0 then ⟨0, [], some (.error (.invalidTimeout poller.zeroTimeout))⟩
  else if interval = 0 then ⟨0, [], some (.error (.invalidTimeout poller.zeroInterval))⟩
  else pollLoop poller operations client answers elapsed timeout interval fuel 0 settled

end polling

def readyPoller : Poller Health where
  path := "sys/health".toList
  acceptedStatuses := [200, 204, 429, 501, 503, 472, 473]
  ready health := health.initialized && !health.isSealed && !health.standby
  zeroTimeout := "OpenBao readiness timeout must be greater than zero"
  zeroInterval := "OpenBao readiness poll interval must be greater than zero"
  expired := "OpenBao did not become ready within timeout"

def unsealedPoller : Poller SealStatus where
  path := "sys/seal-status".toList
  acceptedStatuses := [200, 204]
  ready status := status.initialized && !status.isSealed
  zeroTimeout := "OpenBao unseal wait timeout must be greater than zero"
  zeroInterval := "OpenBao unseal wait poll interval must be greater than zero"
  expired := "OpenBao did not become unsealed within timeout"

/-- `Sys::wait_ready_with_delay`, polling at most `fuel` times. -/
def waitReadyWithDelay := waitWithDelay readyPoller

/-- `Sys::wait_until_unsealed_with_delay`, polling at most `fuel` times. -/
def waitUntilUnsealedWithDelay := waitWithDelay unsealedPoller

/-! ### The two routes -/

/-- The ranges of a route that every generated profile documents. -/
def documentedRanges : List OpenBaoCapabilityRange :=
  [⟨⟨2, 0, 0⟩, ⟨2, 6, 3⟩, .taggedDocumentation, false⟩,
    ⟨⟨2, 6, 4⟩, ⟨2, 6, 4⟩, .taggedDocumentation, false⟩,
    ⟨⟨2, 6, 5⟩, ⟨2, 6, 5⟩, .taggedDocumentation, false⟩,
    ⟨⟨2, 7, 0⟩, ⟨2, 7, 0⟩, .taggedDocumentation, false⟩,
    ⟨⟨2, 7, 1⟩, ⟨2, 7, 1⟩, .taggedDocumentation, false⟩,
    ⟨⟨2, 7, 2⟩, ⟨2, 7, 2⟩, .taggedDocumentation, false⟩]

def sysHealth : OpenBaoOperation where
  id := "openbao.get.sys.health.e507fdd0e65b1259"
  method := .get
  pathTemplate := "/sys/health".toList
  disposition := .typed
  ranges := documentedRanges

def sysSealStatus : OpenBaoOperation where
  id := "openbao.get.sys.seal.status.21c9eeaaf2f76755"
  method := .get
  pathTemplate := "/sys/seal-status".toList
  disposition := .typed
  ranges := documentedRanges

/-- What the generated registry holds for the two requests. -/
structure SysRegistry (operations : List OpenBaoOperation) : Prop where
  health : collectMatches "/sys/".toList "GET" ["sys".toList, "health".toList] [] operations =
    .ok [sysHealth]
  sealStatus : collectMatches "/sys/".toList "GET" ["sys".toList, "seal-status".toList] []
    operations = .ok [sysSealStatus]

/-- One entry that every profile documents is found for the poller's request. -/
structure Documents {α : Type} (operations : List OpenBaoOperation) (poller : Poller α)
    (segments : List Str) (operation : OpenBaoOperation) : Prop where
  path : PathValidation.validateEndpointPath poller.path = .ok segments
  noPlugin : ExternalPluginKind.forPath poller.path = none
  found : collectMatches "/sys/".toList "GET" segments [] operations = .ok [operation]
  method : operation.method = .get
  typed : operation.disposition = .typed
  builtIn : ExternalPluginKind.forPath operation.pathTemplate = none
  available : ∀ version ∈ generatedRoutableProfileVersions,
    operation.availability version = some .documentedRoute

theorem SysRegistry.documents_health {operations : List OpenBaoOperation}
    (h : SysRegistry operations) :
    Documents operations readyPoller ["sys".toList, "health".toList] sysHealth :=
  ⟨by decide +kernel, by decide +kernel, h.health, rfl, rfl, by decide +kernel, by decide +kernel⟩

theorem SysRegistry.documents_sealStatus {operations : List OpenBaoOperation}
    (h : SysRegistry operations) :
    Documents operations unsealedPoller ["sys".toList, "seal-status".toList] sysSealStatus :=
  ⟨by decide +kernel, by decide +kernel, h.sealStatus, rfl, rfl, by decide +kernel,
    by decide +kernel⟩

section outcomes

variable {α : Type} {poller : Poller α} {operations : List OpenBaoOperation} {client : Client}

/-- Under a routable profile the poll's request is dispatched. -/
theorem Documents.resolves {segments : List Str} {operation : OpenBaoOperation}
    (h : Documents operations poller segments operation) {report : OpenBaoCompatibilityReport}
    {version : OpenBaoVersion} (hv : routingProfile report = some version)
    (hr : isRoutableProfile version = true) :
    ∃ route, resolveRegisteredOpenbaoRoute operations client (.ok report) "GET"
      (.exact "/sys/".toList poller.path) [] = .ok route := by
  have hselect : selectOperation [operation] = .ok operation := by simp [selectOperation]
  have hadmit : admitOperation client report version operation none = .ok () := by
    have havailable := h.available version (List.contains_iff_mem.mp hr)
    simp [admitOperation, pluginSelection, h.builtIn, requiresUnverifiedExternalPlugin,
      havailable, h.typed]
  have hmethod : reqwestMethod operation.method = .ok "GET" := by rw [h.method]; rfl
  have hendpoint : resolveRegisteredOpenbaoEndpoint operations client (.ok report) "/sys/".toList
      "GET" poller.path [] none = .ok ⟨operation.id, operation, "GET"⟩ := by
    refine bind_eq_ok_iff.mpr ⟨segments, h.path, bind_eq_ok_iff.mpr ⟨report, rfl, ?_⟩⟩
    simp only [hv, hr, Bool.not_true, Bool.false_eq_true, if_false]
    exact bind_eq_ok_iff.mpr ⟨_, h.found, bind_eq_ok_iff.mpr ⟨_, hselect,
      bind_eq_ok_iff.mpr ⟨(), hadmit, bind_eq_ok_iff.mpr ⟨_, hmethod, rfl⟩⟩⟩⟩
  have hmount : (RegisteredRouteBinding.exact "/sys/".toList poller.path).pluginMount = none := by
    rw [RegisteredRouteBinding.pluginMount, h.noPlugin, Option.map_none]
  refine ⟨⟨⟨operation.id, operation, "GET"⟩, poller.path⟩, ?_⟩
  refine bind_eq_ok_iff.mpr ⟨poller.path, bind_eq_ok_iff.mpr ⟨segments, h.path, rfl⟩, ?_⟩
  rw [hmount]
  exact bind_eq_ok_iff.mpr ⟨_, hendpoint, rfl⟩

/-- A poll under a report: the version check is settled, the request decides. -/
theorem Documents.poll_eq {segments : List Str} {operation : OpenBaoOperation}
    (h : Documents operations poller segments operation) {report : OpenBaoCompatibilityReport}
    {version : OpenBaoVersion} (hv : routingProfile report = some version)
    (hr : isRoutableProfile version = true) (answer : PollAnswer α) :
    (poll poller operations client (some (.ok report)) answer).1 =
      readJsonExchange poller.acceptedStatuses answer.exchange := by
  obtain ⟨route, hroute⟩ := @Documents.resolves α poller operations client segments operation h
    report version hv hr
  change (resolveRegisteredOpenbaoRoute operations client (.ok report) "GET" _ [] >>= fun _ =>
    (Except.ok report : Except Error _) >>= fun _ => readJsonExchange _ _) = _
  rw [hroute]
  rfl

/-- A failed version check fails every poll. -/
theorem poll_of_failure {failure : CachedCompatibilityFailure} {answer : PollAnswer α}
    {segments : List Str} (hpath : PathValidation.validateEndpointPath poller.path = .ok segments) :
    (poll poller operations client (some (.error failure)) answer).1 =
      .error (compatibilityError failure) := by
  have hfailed : resolveRegisteredOpenbaoRoute operations client
      (.error (compatibilityError failure)) "GET" (.exact "/sys/".toList poller.path) [] =
      .error (compatibilityError failure) := by
    simp only [resolveRegisteredOpenbaoRoute, resolveRegisteredOpenbaoEndpoint,
      RegisteredRouteBinding.registryPath, hpath, bind, Except.bind, pure, Except.pure]
  change (resolveRegisteredOpenbaoRoute operations client
    (.error (compatibilityError failure)) "GET" _ [] >>= _) = _
  rw [hfailed]
  rfl

theorem compatibilityError_not_temporary (failure : CachedCompatibilityFailure) :
    (compatibilityError failure).isTemporary = false := by
  rcases failure with (_ | _) | _ <;> rfl

/-! ### The loop as a loop with a deadline -/

/-- Poll `i` of a wait whose version check comes out as `result`. -/
def pollAt (poller : Poller α) (operations : List OpenBaoOperation) (client : Client)
    (result : CachedCompatibilityResult) (answers : ℕ → PollAnswer α) (i : ℕ) : Except Error α :=
  (poll poller operations client (some result) (answers i)).1

def Poller.terms (poller : Poller α) (timeout interval : ℕ) : Terms (Except Error α) :=
  ⟨timeout, interval, .error (.invalidTimeout poller.expired)⟩

theorem pollLoop_eq_run {answers : ℕ → PollAnswer α} {elapsed : ℕ → ℕ} {timeout interval : ℕ}
    {result : CachedCompatibilityResult} {fuel i : ℕ} {settled : Option CachedCompatibilityResult}
    (h : checkVersion client settled (answers i).probe = result) :
    pollLoop poller operations client answers elapsed timeout interval fuel i settled =
      run (poller.terms timeout interval)
        (fun j => settles poller (pollAt poller operations client result answers j)) elapsed
        fuel i := by
  induction fuel generalizing i settled with
  | zero => rfl
  | succ fuel ih =>
    have hpoll : poll poller operations client settled (answers i) =
        (pollAt poller operations client result answers i, some result) := by
      subst h
      rfl
    rw [pollLoop, run, hpoll]
    simp only
    cases settles poller (pollAt poller operations client result answers i) with
    | some outcome => rfl
    | none =>
      have hrest := @ih (i + 1) (some result) rfl
      simp only [ge_iff_le, Poller.terms, Terms.delay] at hrest ⊢
      rw [hrest]
      rfl

/-! ### What every wait keeps to -/

/-- A poll that the loop goes on behind. -/
def PollFails (poller : Poller α) (polled : Except Error α) : Prop :=
  (∃ status, polled = .ok status ∧ poller.ready status = false) ∨
    ∃ e, polled = .error e ∧ e.isTemporary = true

theorem settles_eq_none_iff {polled : Except Error α} :
    settles poller polled = none ↔ PollFails poller polled := by
  cases polled with
  | ok status => simp [settles, PollFails]
  | error e => simp [settles, PollFails]

/-- What a settled poll settles is its own outcome. -/
theorem settles_eq_some {polled outcome : Except Error α}
    (h : settles poller polled = some outcome) :
    outcome = polled ∧ ∀ e, polled = .error e → e.isTemporary = false := by
  cases polled with
  | ok status =>
    simp only [settles, Option.ite_none_right_eq_some, Option.some.injEq] at h
    exact ⟨h.2.symm, nofun⟩
  | error e =>
    simp only [settles, Option.ite_none_left_eq_some, Option.some.injEq] at h
    refine ⟨h.2.symm, fun e' he => ?_⟩
    cases he
    simpa using h.1

/-- The rules of a wait, against the outcomes of its polls. -/
structure KeepsRules (poller : Poller α) (polls : ℕ → Except Error α) (elapsed : ℕ → ℕ)
    (timeout interval : ℕ) (history : History (Except Error α)) : Prop where
  polled : 0 < history.attempts
  delays : ∀ j d, history.delays[j]? = some d → d ≤ interval ∧ d ≤ timeout - elapsed j
  /-- Only the last poll may be ready or fail for good. -/
  goesOn : ∀ j, j + 1 < history.attempts → PollFails poller (polls j) ∧ elapsed j < timeout
  errors : ∀ e, history.outcome = some (.error e) → ∃ last, history.attempts = last + 1 ∧
    (polls last = .error e ∧ e.isTemporary = false ∨
      PollFails poller (polls last) ∧ timeout ≤ elapsed last ∧ e = .invalidTimeout poller.expired)

theorem waitWithDelay_keepsRules {answers : ℕ → PollAnswer α} {elapsed : ℕ → ℕ}
    {timeout interval fuel : ℕ} (settled : Option CachedCompatibilityResult)
    (ht : 0 < timeout) (hi : 0 < interval) (hf : 0 < fuel) :
    KeepsRules poller
      (pollAt poller operations client (checkVersion client settled (answers 0).probe) answers)
      elapsed timeout interval
      (waitWithDelay poller operations client settled answers elapsed timeout interval fuel) := by
  obtain ⟨fuel, rfl⟩ : ∃ n, fuel = n + 1 := ⟨fuel - 1, by omega⟩
  have hrun := @pollLoop_eq_run α poller operations client answers elapsed timeout interval _
    (fuel + 1) 0 settled rfl
  rw [waitWithDelay, if_neg (by omega), if_neg (by omega), hrun]
  constructor
  · exact run_attempts_pos fuel 0
  · intro j d hd
    have hle := run_delay_le hd
    rwa [Nat.zero_add] at hle
  · intro j hj
    have hc := run_continues hj
    rw [Nat.zero_add] at hc
    exact ⟨settles_eq_none_iff.mp hc.1, hc.2⟩
  · intro e he
    obtain ⟨last, hlast, hend⟩ := run_outcome he
    rw [Nat.zero_add] at hend
    refine ⟨last, hlast, ?_⟩
    rcases hend with hsettled | ⟨hfailed, hdeadline, hexpired⟩
    · obtain ⟨heq, hfinal⟩ := settles_eq_some hsettled
      exact .inl ⟨heq.symm, hfinal e heq.symm⟩
    · exact .inr ⟨settles_eq_none_iff.mp hfailed, hdeadline, by
        simpa [Poller.terms] using hexpired⟩

/-! ### Waits that the server answers in the end -/

/-- A response status that a later attempt may cure. -/
def temporaryStatus (status : ℕ) : Bool := (Error.api status []).isTemporary

/-- The answer carries a status of the server. -/
def Reports (poller : Poller α) (exchange : JsonExchange α) (status : α) : Prop :=
  ∃ code errors, exchange = .response code errors (.value status) ∧
    code ∈ poller.acceptedStatuses ∧ code ≠ 204

/-- The transport failed, or the response has a temporary status. -/
def TemporaryFailure (poller : Poller α) : JsonExchange α → Prop
  | .unsent _ => False
  | .failed _ => True
  | .response code _ body => temporaryStatus code = true ∨
    code ∈ poller.acceptedStatuses ∧ code ≠ 204 ∧ ∃ message, body = .broken message

/-- An answer before the server is ready. -/
def Waiting (poller : Poller α) (exchange : JsonExchange α) : Prop :=
  (TemporaryFailure poller exchange ∨ ∃ status, Reports poller exchange status) ∧
    ∀ status, Reports poller exchange status → poller.ready status = false

/-- The server behaves as a wait can expect: it fails temporarily or is not ready before
poll `k`, which it answers with a ready status. -/
structure ReadyAt (poller : Poller α) (answers : ℕ → PollAnswer α) (elapsed : ℕ → ℕ)
    (timeout k : ℕ) (status : α) : Prop where
  waiting : ∀ i < k, Waiting poller (answers i).exchange
  inTime : ∀ i < k, elapsed i < timeout
  reports : Reports poller (answers k).exchange status
  ready : poller.ready status = true

/-- The probe reads a version that the policy accepts. -/
def ReadsAccepted (policy : OpenBaoCompatibilityPolicy) (probe : HealthExchange) : Prop :=
  ∃ code text version report, probe = .response code (.value text) ∧
    compatibilityHealthStatusIsAccepted code = true ∧ parseVersion text = .ok version ∧
    evaluateDetected policy version = .ok report

/-- The check has given a report before, or the client needs no probe, or the first
poll's probe reads a version that its policy accepts. -/
def VersionKnown (client : Client) (settled : Option CachedCompatibilityResult)
    (probe : HealthExchange) : Prop :=
  match settled with
  | some result => ∃ report, result = .ok report
  | none => ∀ policy, client.policy = some policy →
    policy.immediateReport.isSome = true ∨ ReadsAccepted policy probe

/-- No answer is an accepted response with an unreadable body. -/
def Readable (poller : Poller α) : JsonExchange α → Prop
  | .response code _ (.unreadable _) => code ∉ poller.acceptedStatuses
  | _ => True

/-- A client as a caller can have it: built with a public policy, and with a check that is
open or came out as the policy evaluates some probe. -/
structure ClientState (client : Client) (settled : Option CachedCompatibilityResult) : Prop where
  policy : ∀ policy, client.policy = some policy → Constructed policy
  check : ∀ result, settled = some result →
    ∃ probe, evaluateCompatibilityPolicy client.policy probe = result

theorem ClientState.routable {settled : Option CachedCompatibilityResult}
    (h : ClientState client settled) {probe : HealthExchange} {report : OpenBaoCompatibilityReport}
    (hr : checkVersion client settled probe = .ok report) :
    ∃ version, routingProfile report = some version ∧ isRoutableProfile version = true := by
  obtain ⟨probe', he⟩ : ∃ probe', evaluateCompatibilityPolicy client.policy probe' = .ok report := by
    cases settled with
    | none => exact ⟨probe, hr⟩
    | some result =>
      obtain ⟨probe', he⟩ := h.check result rfl
      exact ⟨probe', he.trans hr⟩
  cases hp : client.policy with
  | none =>
    rw [hp] at he
    cases he
    exact ⟨⟨2, 6, 3⟩, legacyUnverifiedProfile_eq, by decide⟩
  | some policy => exact (h.policy policy hp).routable (hp ▸ he)

theorem readsAccepted_iff {policy : OpenBaoCompatibilityPolicy} {probe : HealthExchange} :
    ReadsAccepted policy probe ↔ ∃ version report, probeOpenbaoVersion probe = .ok version ∧
      evaluateDetected policy version = .ok report := by
  constructor
  · rintro ⟨code, text, version, report, rfl, hcode, hparse, hreport⟩
    exact ⟨version, report, by simp [probeOpenbaoVersion, hcode, hparse, Except.mapError], hreport⟩
  · rintro ⟨version, report, hprobe, hreport⟩
    cases probe with
    | noUrl => cases hprobe
    | failed => cases hprobe
    | response code body =>
      unfold probeOpenbaoVersion at hprobe
      simp only at hprobe
      split at hprobe
      · cases hprobe
      · next hcode =>
        cases body with
        | value text =>
          cases hparse : parseVersion text with
          | error e => simp [hparse, Except.mapError] at hprobe
          | ok parsed =>
            obtain rfl : parsed = version := by simpa [hparse, Except.mapError] using hprobe
            exact ⟨code, text, parsed, report, rfl, by simpa using hcode, hparse, hreport⟩
        | broken message => cases hprobe
        | unreadable message => cases hprobe

/-- The version is known exactly when the check gives a report. -/
theorem versionKnown_iff {settled : Option CachedCompatibilityResult} {probe : HealthExchange} :
    VersionKnown client settled probe ↔ ∃ report, checkVersion client settled probe = .ok report := by
  cases settled with
  | some result => rfl
  | none =>
    change _ ↔ ∃ report, evaluateCompatibilityPolicy client.policy probe = .ok report
    constructor
    · intro h
      cases hp : client.policy with
      | none => exact ⟨.unverified, rfl⟩
      | some policy =>
        rcases h policy hp with himmediate | haccepted
        · obtain ⟨report, hreport⟩ := Option.isSome_iff_exists.mp himmediate
          exact ⟨report, by simp [evaluateCompatibilityPolicy, hreport]⟩
        · obtain ⟨version, report, hprobe, hreport⟩ := readsAccepted_iff.mp haccepted
          cases hi : policy.immediateReport with
          | some immediate => exact ⟨immediate, by simp [evaluateCompatibilityPolicy, hi]⟩
          | none =>
            refine ⟨report, ?_⟩
            simp only [evaluateCompatibilityPolicy, hi]
            exact bind_eq_ok_iff.mpr ⟨version, hprobe, by rw [hreport]; rfl⟩
    · rintro ⟨report, hreport⟩ policy hpolicy
      rcases evaluateCompatibilityPolicy_eq_ok hreport with
        ⟨hnone, -⟩ | ⟨version, hassumed, -⟩ | ⟨selected, detected, hselected, hprobe, hdetected⟩
      · cases hnone.symm.trans hpolicy
      · cases hassumed.symm.trans hpolicy
        exact .inl rfl
      · cases hselected.symm.trans hpolicy
        exact .inr (readsAccepted_iff.mpr ⟨detected, report, hprobe, hdetected⟩)

/-- The server's answer decides a poll once the check has given a report. -/
theorem pollAt_eq {segments : List Str} {operation : OpenBaoOperation}
    (hd : Documents operations poller segments operation)
    {settled : Option CachedCompatibilityResult} (hc : ClientState client settled)
    {answers : ℕ → PollAnswer α} {report : OpenBaoCompatibilityReport}
    (hr : checkVersion client settled (answers 0).probe = .ok report) (i : ℕ) :
    pollAt poller operations client (.ok report) answers i =
      readJsonExchange poller.acceptedStatuses (answers i).exchange := by
  obtain ⟨version, hv, hroutable⟩ := hc.routable hr
  exact hd.poll_eq hv hroutable (answers i)

theorem readJsonExchange_of_reports {exchange : JsonExchange α} {status : α}
    (h : Reports poller exchange status) :
    readJsonExchange poller.acceptedStatuses exchange = .ok status := by
  obtain ⟨code, errors, rfl, hmem, hne⟩ := h
  simp [readJsonExchange, hmem, hne]

/-- A readable answer before the server is ready fails the poll. -/
theorem Waiting.pollFails {exchange : JsonExchange α} (h : Waiting poller exchange)
    (hr : Readable poller exchange) :
    PollFails poller (readJsonExchange poller.acceptedStatuses exchange) := by
  by_cases hreports : ∃ status, Reports poller exchange status
  · obtain ⟨status, hstatus⟩ := hreports
    exact .inl ⟨status, readJsonExchange_of_reports hstatus, h.2 status hstatus⟩
  · have hfails := h.1.resolve_right hreports
    cases exchange with
    | unsent refusal => exact hfails.elim
    | failed message => exact .inr ⟨_, rfl, rfl⟩
    | response code errors body =>
      by_cases hmem : code ∈ poller.acceptedStatuses
      · by_cases hne : code = 204
        · subst hne
          rcases hfails with ht | ⟨-, hne, -⟩
          · cases ht
          · exact absurd rfl hne
        · cases body with
          | value status => exact absurd ⟨status, code, errors, rfl, hmem, hne⟩ hreports
          | broken message =>
            exact .inr ⟨.transport message, by simp [readJsonExchange, hmem, hne], rfl⟩
          | unreadable message => exact absurd hmem hr
      · rcases hfails with ht | ⟨hmem', -, -⟩
        · exact .inr ⟨.api code errors, by simp [readJsonExchange, hmem], ht⟩
        · exact absurd hmem' hmem

/-- An accepted response with an unreadable body ends a wait. -/
theorem settles_of_not_readable {exchange : JsonExchange α} (h : Waiting poller exchange)
    (hr : ¬ Readable poller exchange) :
    ∃ message, settles poller (readJsonExchange poller.acceptedStatuses exchange) =
      some (.error (.decode message)) := by
  cases exchange with
  | unsent refusal => exact absurd trivial hr
  | failed message => exact absurd trivial hr
  | response code errors body =>
    cases body with
    | value status => exact absurd trivial hr
    | broken message => exact absurd trivial hr
    | unreadable message =>
      have hmem : code ∈ poller.acceptedStatuses := Decidable.not_not.mp hr
      by_cases hne : code = 204
      · subst hne
        refine ⟨"OpenBao response did not match expected schema", ?_⟩
        simp [readJsonExchange, hmem, settles, Error.isTemporary]
      · exact ⟨message, by simp [readJsonExchange, hmem, hne, settles, Error.isTemporary]⟩

/-- Where no temporary status is accepted, an answer before the server is ready is
readable. -/
theorem Waiting.readable {exchange : JsonExchange α} (h : Waiting poller exchange)
    (hp : ∀ code ∈ poller.acceptedStatuses, temporaryStatus code = false) :
    Readable poller exchange := by
  unfold Readable
  split
  · next code errors message =>
    intro hmem
    rcases h.1 with (ht | ⟨-, -, m, hm⟩) | ⟨status, code', errors', hreports, -⟩
    · exact Bool.false_ne_true ((hp code hmem).symm.trans ht)
    · cases hm
    · cases hreports
  · trivial

/-- A wait whose version check fails ends with that failure. -/
theorem waitWithDelay_of_failure {segments : List Str}
    (hpath : PathValidation.validateEndpointPath poller.path = .ok segments)
    {settled : Option CachedCompatibilityResult} {answers : ℕ → PollAnswer α} {elapsed : ℕ → ℕ}
    {timeout interval fuel : ℕ} (ht : 0 < timeout) (hi : 0 < interval) (hf : 0 < fuel)
    {failure : CachedCompatibilityFailure}
    (h : checkVersion client settled (answers 0).probe = .error failure) :
    (waitWithDelay poller operations client settled answers elapsed timeout interval fuel).outcome =
      some (.error (compatibilityError failure)) := by
  rw [waitWithDelay, if_neg (by omega), if_neg (by omega), pollLoop_eq_run h]
  refine (run_settles (k := 0) hf ?_ fun j hj => absurd hj (Nat.not_lt_zero j)).1
  have hpoll := @poll_of_failure α poller operations client failure (answers 0) segments hpath
  simp only [Nat.zero_add, pollAt, hpoll, settles, compatibilityError_not_temporary,
    Bool.false_eq_true, if_false]

/-- With a server that behaves, a wait returns the ready status exactly when the version
is known and no earlier answer has an unreadable body. -/
theorem waitWithDelay_ready_iff {segments : List Str} {operation : OpenBaoOperation}
    (hd : Documents operations poller segments operation)
    {settled : Option CachedCompatibilityResult} (hc : ClientState client settled)
    {answers : ℕ → PollAnswer α} {elapsed : ℕ → ℕ} {timeout interval k fuel : ℕ} {status : α}
    (hi : 0 < interval) (ht : 0 < timeout)
    (h : ReadyAt poller answers elapsed timeout k status) (hf : k < fuel) :
    (waitWithDelay poller operations client settled answers elapsed timeout interval fuel).outcome =
        some (.ok status) ↔
      VersionKnown client settled (answers 0).probe ∧
        ∀ i < k, Readable poller (answers i).exchange := by
  rw [versionKnown_iff]
  cases hr : checkVersion client settled (answers 0).probe with
  | error failure =>
    have hfailed := @waitWithDelay_of_failure α poller operations client segments hd.path settled
      answers elapsed timeout interval fuel ht hi (by omega) failure hr
    simp [hfailed]
  | ok report =>
    have hpoll := @pollAt_eq α poller operations client segments operation hd settled hc answers
      report hr
    have hcontinues : ∀ j < k, Readable poller (answers j).exchange →
        Continues (poller.terms timeout interval)
          (fun j => settles poller (pollAt poller operations client (.ok report) answers j))
          elapsed (0 + j) := by
      intro j hj hreadable
      rw [Nat.zero_add]
      refine ⟨?_, h.inTime j hj⟩
      simp only [hpoll]
      rw [settles_eq_none_iff]
      exact (h.waiting j hj).pollFails hreadable
    rw [waitWithDelay, if_neg (by omega), if_neg (by omega), pollLoop_eq_run hr]
    constructor
    · intro hready
      refine ⟨⟨report, rfl⟩, ?_⟩
      by_contra hnot
      -- The first unreadable answer ends the wait before poll `k`.
      obtain ⟨i, ⟨hik, hunreadable⟩, hfirst⟩ : ∃ i, (i < k ∧ ¬ Readable poller (answers i).exchange) ∧
          ∀ j < i, ¬ (j < k ∧ ¬ Readable poller (answers j).exchange) := by
        classical
        have hex : ∃ i, i < k ∧ ¬ Readable poller (answers i).exchange := by
          simpa only [not_forall, exists_prop] using hnot
        exact ⟨Nat.find hex, Nat.find_spec hex, fun j hj => Nat.find_min hex hj⟩
      obtain ⟨message, hsettles⟩ := settles_of_not_readable (h.waiting i hik) hunreadable
      have hended : (run (poller.terms timeout interval)
          (fun j => settles poller (pollAt poller operations client (.ok report) answers j))
          elapsed fuel 0).outcome = some (.error (.decode message)) := by
        refine (run_settles (k := i) (hik.trans hf) ?_ fun j hj => ?_).1
        · rw [Nat.zero_add, hpoll]
          exact hsettles
        · refine hcontinues j (hj.trans hik) ?_
          by_contra hunread
          exact hfirst j hj ⟨hj.trans hik, hunread⟩
      rw [hended] at hready
      cases hready
    · rintro ⟨-, hreadable⟩
      refine (run_settles (k := k) hf ?_ fun j hj => hcontinues j hj (hreadable j hj)).1
      simp only [Nat.zero_add, hpoll, readJsonExchange_of_reports h.reports, settles, h.ready,
        if_true]

end outcomes

/-- Both waits keep to their rules in every run, and return the ready status of a server
that behaves exactly when the version is known and, for readiness, no earlier answer has
an accepted status and an unreadable body. -/
theorem waits_survive_iff {operations : List OpenBaoOperation} (hregistry : SysRegistry operations)
    {client : Client} {settled : Option CachedCompatibilityResult}
    (hclient : ClientState client settled) {timeout interval : ℕ} (ht : 0 < timeout)
    (hi : 0 < interval) (elapsed : ℕ → ℕ) :
    (∀ (answers : ℕ → PollAnswer Health) (k : ℕ) (health : Health),
      ReadyAt readyPoller answers elapsed timeout k health → ∀ fuel > k,
        ((waitReadyWithDelay operations client settled answers elapsed timeout interval
            fuel).outcome = some (.ok health) ↔
          VersionKnown client settled (answers 0).probe ∧
            ∀ i < k, Readable readyPoller (answers i).exchange)) ∧
    (∀ (answers : ℕ → PollAnswer SealStatus) (k : ℕ) (status : SealStatus),
      ReadyAt unsealedPoller answers elapsed timeout k status → ∀ fuel > k,
        ((waitUntilUnsealedWithDelay operations client settled answers elapsed timeout interval
            fuel).outcome = some (.ok status) ↔
          VersionKnown client settled (answers 0).probe)) ∧
    (∀ (answers : ℕ → PollAnswer Health) (fuel : ℕ), 0 < fuel →
      KeepsRules readyPoller (pollAt readyPoller operations client
          (checkVersion client settled (answers 0).probe) answers) elapsed timeout interval
        (waitReadyWithDelay operations client settled answers elapsed timeout interval fuel)) ∧
    ∀ (answers : ℕ → PollAnswer SealStatus) (fuel : ℕ), 0 < fuel →
      KeepsRules unsealedPoller (pollAt unsealedPoller operations client
          (checkVersion client settled (answers 0).probe) answers) elapsed timeout interval
        (waitUntilUnsealedWithDelay operations client settled answers elapsed timeout interval
          fuel) := by
  refine ⟨fun answers k health h fuel hf => ?_, fun answers k status h fuel hf => ?_,
    fun answers fuel hf => ?_, fun answers fuel hf => ?_⟩
  · exact waitWithDelay_ready_iff hregistry.documents_health hclient hi ht h hf
  · refine (waitWithDelay_ready_iff hregistry.documents_sealStatus hclient hi ht h hf).trans
      (and_iff_left ?_)
    exact fun i hik => (h.waiting i hik).readable (by decide)
  · exact waitWithDelay_keepsRules settled ht hi hf
  · exact waitWithDelay_keepsRules settled ht hi hf

def strictClient : Client := ⟨some .automaticStrict, []⟩

def health (isSealed : Bool) : Health :=
  ⟨true, isSealed, false, "2.7.2".toList, none, none⟩

theorem strictClient_state : ClientState strictClient none where
  policy := by
    intro policy hp
    cases hp
    exact .automaticStrict
  check := nofun

/-- A server that is sealed at first and then ready. -/
def unsealing (i : ℕ) : PollAnswer Health :=
  if i = 0 then ⟨.response 503 (.value "2.7.2".toList), .response 503 [] (.value (health true))⟩
  else ⟨.failed, .response 200 [] (.value (health false))⟩

theorem unsealing_readyAt :
    ReadyAt readyPoller unsealing (fun _ => 0) 10 1 (health false) where
  waiting := by
    intro i hi
    obtain rfl : i = 0 := by omega
    refine ⟨.inl (.inl rfl), ?_⟩
    rintro status ⟨code, errors, hreports, -, -⟩
    cases hreports
    rfl
  inTime _ _ := Nat.succ_pos 9
  reports := ⟨200, [], rfl, by decide, by decide⟩
  ready := rfl

theorem strictClient_survives_unsealing :
    (waitReadyWithDelay [sysHealth, sysSealStatus] strictClient none unsealing (fun _ => 0) 10 1
      2).outcome = some (.ok (health false)) := by
  have hregistry : SysRegistry [sysHealth, sysSealStatus] :=
    ⟨by decide +kernel, by decide +kernel⟩
  refine ((waits_survive_iff hregistry strictClient_state (by omega) (by omega) _).1 unsealing 1
    (health false) unsealing_readyAt 2 (by omega)).mpr ⟨?_, ?_⟩
  · intro policy hpolicy
    cases hpolicy
    exact .inr ⟨503, "2.7.2".toList, ⟨2, 7, 2⟩, verified .automaticStrict ⟨2, 7, 2⟩, rfl, rfl,
      by decide +kernel, by decide +kernel⟩
  · intro i hi
    obtain rfl : i = 0 := by omega
    trivial

/-- A server that cannot be reached at first and is then ready. -/
def starting (i : ℕ) : PollAnswer Health :=
  if i = 0 then ⟨.failed, .failed "connection failed"⟩
  else ⟨.response 200 (.value "2.7.2".toList), .response 200 [] (.value (health false))⟩

/-- The failure of the first poll's probe ends the wait. -/
theorem strictClient_misses_starting :
    ReadyAt readyPoller starting (fun _ => 0) 10 1 (health false) ∧
      (waitReadyWithDelay [sysHealth, sysSealStatus] strictClient none starting (fun _ => 0) 10 1
        2).outcome =
        some (.error (.openBaoCompatibilityProbe "health request could not be completed")) := by
  refine ⟨⟨?_, fun _ _ => Nat.succ_pos 9, ?_, rfl⟩, ?_⟩
  · intro i hi
    obtain rfl : i = 0 := by omega
    exact ⟨.inl trivial, by rintro status ⟨code, errors, hreports, -⟩; cases hreports⟩
  · exact ⟨200, [], rfl, by decide, by decide⟩
  · decide +kernel

/-- So does a proxy's page behind the status 503, also without a policy. -/
example :
    (waitReadyWithDelay [sysHealth, sysSealStatus] ⟨none, []⟩ none
      (fun i => if i = 0 then ⟨.failed, .response 503 [] (.unreadable "no health status")⟩
        else ⟨.failed, .response 200 [] (.value (health false))⟩) (fun _ => 0) 10 1 2).outcome =
      some (.error (.decode "no health status")) := by
  decide +kernel

end OpenBao.ReadinessPolling
