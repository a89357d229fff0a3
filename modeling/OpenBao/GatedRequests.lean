import OpenBao.DispatchedRequests

/-!
# Requests behind gates

Some requests leave the client only under a report that gates have passed. The report is the one
of the client's cache, whatever the other callers of the client do, and the request is routed
under the report that the gates have seen.
-/

namespace OpenBao.GatedRequests
open CompatibilityPolicy CompatibilityProbe DispatchedRequests PathValidation RequestPrograms
open RegisteredRoutes hiding Client ensureCompatibility
open RequestPrograms.Prog Utf8Text

/-! ### What the cache of a client holds -/

section Cache

variable {Caller : Type} [DecidableEq Caller] {policy : Option OpenBaoCompatibilityPolicy}

/-- A step of the callers of one client. A probe that ends brings what the policy says of its
exchange. -/
structure ProbedStep (policy : Option OpenBaoCompatibilityPolicy) (s s' : ProbeSystem Caller) :
    Prop where
  step : Step s s'
  verdict : ∀ c result, s.phase c = .leading →
    s' = s.gotoWaking c (.ofResult result) (s.verification.leaderComplete result) →
      ∃ exchange, result = evaluateCompatibilityPolicy policy exchange

def ReachableProbed (policy : Option OpenBaoCompatibilityPolicy) (s : ProbeSystem Caller) : Prop :=
  Relation.ReflTransGen (ProbedStep policy) (.init policy) s

/-- A finished verification is what the policy says of some exchange. -/
def Genuine (policy : Option OpenBaoCompatibilityPolicy) (v : CompatibilityVerificationState) : Prop :=
  ∀ result, v = .complete result → ∃ exchange, result = evaluateCompatibilityPolicy policy exchange

theorem genuine_newVerification : Genuine policy (newVerification policy) := by
  intro result h
  cases policy with
  | none =>
    cases h
    exact ⟨.noUrl, rfl⟩
  | some policy =>
    cases himmediate : policy.immediateReport with
    | none =>
      rw [newVerification, himmediate] at h
      cases h
    | some report =>
      rw [newVerification, himmediate] at h
      cases h
      refine ⟨.noUrl, ?_⟩
      rw [evaluateCompatibilityPolicy, himmediate]

/-! Only a leader writes a result. -/

section Writes

variable {v : CompatibilityVerificationState} {result : CachedCompatibilityResult}

theorem chooseAction_complete (h : v.chooseAction.2 = .complete result) : v = .complete result := by
  cases v with
  | complete known => exact h
  | running waiters => cases h
  | pending => cases h

theorem pollWait_complete {token : Token} {waker : Waker}
    (h : (v.pollWait token waker).2 = .complete result) : v = .complete result := by
  cases v with
  | complete known => exact h
  | pending => cases h
  | running waiters =>
    rw [CompatibilityVerificationState.pollWait] at h
    split at h
    · cases h
    · split at h <;> cases h

theorem dropWait_complete {token : Token} (h : v.dropWait token = .complete result) :
    v = .complete result := by
  cases v with
  | complete known => exact h
  | running waiters => cases h
  | pending => cases h

theorem leaderDrop_complete (h : v.leaderDrop.2 = .complete result) : v = .complete result := by
  cases v with
  | complete known => exact h
  | running waiters => cases h
  | pending => cases h

theorem leaderComplete_complete (v : CompatibilityVerificationState)
    (result : CachedCompatibilityResult) : (v.leaderComplete result).2 = .complete result := by
  cases v <;> rfl

end Writes

theorem ProbedStep.genuine {s s' : ProbeSystem Caller} (h : ProbedStep policy s s')
    (hs : Genuine policy s.verification) : Genuine policy s'.verification := by
  obtain ⟨hstep, hverdict⟩ := h
  intro result hresult
  cases hstep with
  | enter c token hphase hfresh => exact hs result (chooseAction_complete hresult)
  | poll c token waker hphase => exact hs result (pollWait_complete hresult)
  | dropReady c token outcome hphase => exact hs result (dropWait_complete hresult)
  | cancelWait c token waker woken hphase => exact hs result (dropWait_complete hresult)
  | cancelLead c hphase => exact hs result (leaderDrop_complete hresult)
  | complete c written hphase =>
    rw [ProbeSystem.gotoWaking_verification, leaderComplete_complete] at hresult
    cases hresult
    exact hverdict c result hphase rfl

theorem ReachableProbed.genuine {s : ProbeSystem Caller} (h : ReachableProbed policy s) :
    Genuine policy s.verification := by
  induction h with
  | refl => exact genuine_newVerification
  | tail _ hstep ih => exact hstep.genuine ih

end Cache

/-! ### Calls -/

/-- A check on the report of the client. -/
abbrev Gate := OpenBaoCompatibilityReport → Except Error Unit

/-- The two ways in which a request is dispatched. -/
inductive Dispatch where
  /-- `request_sys_json_…` and `request_secret_json_internal`. -/
  | json
  /-- `request_registered_secret_json_accepting`. -/
  | registered
  deriving DecidableEq, Repr

/-- A call with what it checks before its request. -/
structure GatedCall where
  /-- The checks before the report is asked for. -/
  checks : Except Error Unit
  gates : List Gate
  target : Except Error RegisteredRouteBinding
  method : Method
  dispatch : Dispatch

variable {α β σ : Type} (operations : List OpenBaoOperation)

/-- `request_registered_secret_json_accepting` behind its binding, without a query. -/
def requestRegistered (client : Client) (binding : RegisteredRouteBinding) (method : Method) :
    Call α α :=
  attempt (binding.registryPath >>= validateEndpointPath) fun _ =>
    (ensureCompatibility client).andThen fun (report, client) =>
      attempt (resolveRegisteredOpenbaoRoute operations client.toClient (.ok report) method
        binding []) fun route =>
        attempt (client.prepare route.resolved.method route.wirePath) fun _ =>
          .send (.operation route.resolved.method route.wirePath) .done

def request (client : Client) (binding : RegisteredRouteBinding) (method : Method) :
    Dispatch → Call α α
  | .json => requestSecretJson operations client binding method
  | .registered => requestRegistered operations client binding method

/-- Each gate asks for the report. -/
def passGates (next : Client → Call α β) : List Gate → Client → Call α β
  | [], client => next client
  | gate :: gates, client =>
    (ensureCompatibility client).andThen fun (report, client) =>
      attempt (gate report) fun _ => passGates next gates client

def GatedCall.program (call : GatedCall) (client : Client) : Call α α :=
  attempt call.checks fun _ =>
    passGates (fun client => attempt call.target fun binding =>
      request operations client binding call.method call.dispatch) call.gates client

/-! ### What a run shows -/

/-- A client whose report is known. -/
def settle (client : Client) (report : OpenBaoCompatibilityReport) : Client :=
  { client with verification := .complete (.ok report) }

/-- The report of a run: the known one, or what the policy says of the exchange of its probe. -/
inductive Learned (client : Client) :
    List (Event (Answer α) σ) → OpenBaoCompatibilityReport → Prop where
  | known {report} (h : settled? client.verification = some (.ok report)) : Learned client [] report
  | probed {report} (before : σ) (exchange : HealthExchange) (after : σ)
      (hunknown : settled? client.verification = none)
      (h : evaluateCompatibilityPolicy client.policy exchange = .ok report) :
      Learned client [⟨.health, before, exchange, after⟩] report

/-- At most one probe, and that of a client whose report is unknown. -/
inductive Probes (client : Client) : List (Event (Answer α) σ) → Prop where
  | none : Probes client []
  | one (before : σ) (exchange : HealthExchange) (after : σ)
      (hunknown : settled? client.verification = none) :
      Probes client [⟨.health, before, exchange, after⟩]

/-- A run asks for the report at most once, and sends one operation, the last request, exactly
where the report that it learns lets the operation pass. -/
inductive Dispatched (client : Client) (Passes : OpenBaoCompatibilityReport → Method → Str → Prop) :
    List (Event (Answer α) σ) → Except Error α → Prop where
  | refused {probes} (e : Error) (hprobes : Probes client probes)
      (h : ∀ report method path, Learned client probes report → ¬ Passes report method path) :
      Dispatched client Passes probes (.error e)
  | sent {probes report method path} (before : σ) (answer : Except Error α) (after : σ)
      (hlearned : Learned client probes report) (h : Passes report method path) :
      Dispatched client Passes (probes ++ [⟨.operation method path, before, answer, after⟩]) answer

/-- A report that a run of the client can learn. -/
def Possible (client : Client) (report : OpenBaoCompatibilityReport) : Prop :=
  ∀ known, settled? client.verification = some known → known = .ok report

theorem Learned.possible {client : Client} {probes : List (Event (Answer α) σ)}
    {report : OpenBaoCompatibilityReport} (h : Learned client probes report) :
    Possible client report := by
  intro known hknown
  cases h with
  | known h => exact Option.some.inj (hknown.symm.trans h)
  | probed before exchange after hunknown h =>
    rw [hunknown] at hknown
    cases hknown

theorem Learned.probes {client : Client} {probes : List (Event (Answer α) σ)}
    {report : OpenBaoCompatibilityReport} (h : Learned client probes report) :
    Probes client probes := by
  cases h with
  | known h => exact .none
  | probed before exchange after hunknown h => exact .one before exchange after hunknown

/-- A run learns one report. -/
theorem Learned.eq {client : Client} {probes : List (Event (Answer α) σ)}
    {report report' : OpenBaoCompatibilityReport} (h : Learned client probes report)
    (h' : Learned client probes report') : report = report' := by
  cases h with
  | known h =>
    cases h' with
    | known h' => exact Except.ok.inj (Option.some.inj (h.symm.trans h'))
  | probed before exchange after hunknown h =>
    cases h' with
    | probed _ _ _ _ h' => exact Except.ok.inj (h.symm.trans h')

theorem settled?_settle (client : Client) (report : OpenBaoCompatibilityReport) :
    settled? (settle client report).verification = some (.ok report) := rfl

theorem possible_settle_iff {client : Client} {report report' : OpenBaoCompatibilityReport} :
    Possible (settle client report) report' ↔ report' = report := by
  constructor
  · intro h
    exact (Except.ok.inj (h _ (settled?_settle client report))).symm
  · rintro rfl known hknown
    exact (Option.some.inj hknown).symm

theorem learned_settle {client : Client} {report report' : OpenBaoCompatibilityReport}
    {probes : List (Event (Answer α) σ)} (h : Learned (settle client report) probes report') :
    probes = [] ∧ report' = report := by
  refine ⟨?_, possible_settle_iff.mp h.possible⟩
  cases h with
  | known h => rfl
  | probed before exchange after hunknown h => cases hunknown

theorem ensureCompatibility_settle (client : Client) (report : OpenBaoCompatibilityReport) :
    (ensureCompatibility (settle client report) : Call α _) = .done (.ok (report, settle client report)) :=
  rfl

/-- A settled verification holds its report. -/
theorem eq_settle_of_settled? {client : Client} {report : OpenBaoCompatibilityReport}
    (h : settled? client.verification = some (.ok report)) : client = settle client report := by
  obtain ⟨configured, verification, prepare⟩ := client
  cases verification with
  | pending => cases h
  | running waiters =>
    rw [settled?] at h
    split at h <;> cases h
  | complete result =>
    cases result with
    | error failure => cases h
    | ok known =>
      obtain rfl : known = report := Except.ok.inj (Option.some.inj h)
      rfl

theorem exec_ensureCompatibility {env : Environment (Answer α) σ} {s s' : σ} {client : Client}
    {trace : List (Event (Answer α) σ)} {result : Except Error (OpenBaoCompatibilityReport × Client)}
    (h : Exec env s (ensureCompatibility client) trace result s') :
    (∃ report, Learned client trace report ∧ result = .ok (report, settle client report)) ∨
      Probes client trace ∧ (∃ e, result = .error e) ∧ ∀ report, ¬ Learned client trace report := by
  cases hsettled : settled? client.verification with
  | some known =>
    rw [ensureCompatibility, hsettled] at h
    obtain ⟨rfl, rfl, -⟩ := exec_done_iff.mp h
    cases known with
    | error e =>
      refine .inr ⟨.none, ⟨e, rfl⟩, fun report hlearned => ?_⟩
      cases hlearned.possible _ hsettled
    | ok report => exact .inl ⟨report, .known hsettled, by rw [← eq_settle_of_settled? hsettled]; rfl⟩
  | none =>
    rw [ensureCompatibility, hsettled] at h
    obtain ⟨before, exchange, after, rest, -, -, hdone, rfl⟩ := exec_send_iff.mp h
    obtain ⟨rfl, rfl, -⟩ := exec_done_iff.mp hdone
    cases hverdict : evaluateCompatibilityPolicy client.policy exchange with
    | error failure =>
      refine .inr ⟨.one before exchange after hsettled, ⟨_, rfl⟩, fun report hlearned => ?_⟩
      cases hlearned with
      | probed _ _ _ _ hreport =>
        rw [hverdict] at hreport
        cases hreport
    | ok report => exact .inl ⟨report, .probed before exchange after hsettled hverdict, rfl⟩

/-- An operation of a run passes under the report that the run has learned. -/
theorem Dispatched.operation {client : Client} {Passes : OpenBaoCompatibilityReport → Method → Str → Prop}
    {trace : List (Event (Answer α) σ)} {result : Except Error α}
    (h : Dispatched client Passes trace result) {event : Event (Answer α) σ} (hmem : event ∈ trace)
    (hevent : event.request ≠ .health) :
    ∃ (probes : List (Event (Answer α) σ)) (report : _) (method : _) (path : _),
      Learned client probes report ∧ Passes report method path ∧
        event.request = .operation method path := by
  have hhealth : ∀ probes : List (Event (Answer α) σ), Probes client probes → event ∉ probes := by
    intro probes hprobes hmem
    cases hprobes with
    | none => cases hmem
    | one before exchange after hunknown =>
      rw [List.mem_singleton] at hmem
      exact hevent (by rw [hmem])
  cases h with
  | refused e hprobes h => exact absurd hmem (hhealth _ hprobes)
  | @sent probes report method path before answer after hlearned hpasses =>
    rcases List.mem_append.mp hmem with hmem | hmem
    · exact absurd hmem (hhealth _ hlearned.probes)
    · rw [List.mem_singleton] at hmem
      exact ⟨probes, report, method, path, hlearned, hpasses, by rw [hmem]⟩

section Settles

variable (env : Environment (Answer α) σ) (client : Client)
  (Passes : OpenBaoCompatibilityReport → Method → Str → Prop)

/-- All runs of a program end as its requests are to be dispatched. -/
def Settles (program : Call α α) : Prop :=
  ∀ s trace result s', Exec env s program trace result s' → Dispatched client Passes trace result

variable {env client Passes}

theorem settles_attempt {x : Except Error β} {next : β → Call α α}
    (hneeded : ∀ report method path, Possible client report → Passes report method path →
      ∃ b, x = .ok b)
    (h : ∀ b, x = .ok b → Settles env client Passes (next b)) :
    Settles env client Passes (attempt x next) := by
  intro s trace result s' hrun
  rcases exec_attempt_iff.mp hrun with ⟨e, hx, rfl, rfl, -⟩ | ⟨b, hx, hrest⟩
  · refine .refused e .none fun report method path hlearned hpasses => ?_
    obtain ⟨b, hb⟩ := hneeded report method path hlearned.possible hpasses
    rw [hx] at hb
    cases hb
  · exact h b hx s trace result s' hrest

theorem settles_send {report : OpenBaoCompatibilityReport} {method : Method} {path : Str}
    (h : Passes report method path) :
    Settles env (settle client report) Passes (.send (.operation method path) .done) := by
  intro s trace result s' hrun
  obtain ⟨before, answer, after, rest, -, -, hdone, rfl⟩ := exec_send_iff.mp hrun
  obtain ⟨rfl, rfl, -⟩ := exec_done_iff.mp hdone
  exact @Dispatched.sent α σ _ Passes [] report method path before _ after (.known rfl) h

/-- What is settled under each report is settled behind the question for it. -/
theorem settles_ensureCompatibility {next : OpenBaoCompatibilityReport × Client → Call α α}
    (h : ∀ report, Possible client report →
      Settles env (settle client report) Passes (next (report, settle client report))) :
    Settles env client Passes ((ensureCompatibility client).andThen next) := by
  intro s trace result s' hrun
  rcases exec_andThen_iff.mp hrun with ⟨e, hfail, rfl⟩ | ⟨a, probes, s₁, rest, hfirst, hrest, rfl⟩
  · rcases exec_ensureCompatibility hfail with ⟨report, -, hresult⟩ | ⟨hprobes, -, hnone⟩
    · cases hresult
    · exact .refused e hprobes fun report method path hlearned => absurd hlearned (hnone report)
  · rcases exec_ensureCompatibility hfirst with ⟨report, hlearned, hresult⟩ | ⟨-, ⟨e, hresult⟩, -⟩
    · obtain rfl := Except.ok.inj hresult
      cases h report hlearned.possible _ _ _ _ hrest with
      | refused e hprobes hnever =>
        cases hprobes with
        | none =>
          rw [List.append_nil]
          refine .refused e hlearned.probes fun report' method path hlearned' => ?_
          rw [hlearned'.eq hlearned]
          exact hnever report method path (.known rfl)
        | one before exchange after hunknown => cases hunknown
      | sent before answer after hsame hpasses =>
        obtain ⟨rfl, rfl⟩ := learned_settle hsame
        exact .sent before _ after hlearned hpasses
    · cases hresult

end Settles

/-! ### Runs of a call -/

/-- The request of a route goes out under a report. -/
def Goes (client : Client) (binding : RegisteredRouteBinding) (requested : Method)
    (report : OpenBaoCompatibilityReport) (method : Method) (path : Str) : Prop :=
  ∃ route, resolveRegisteredOpenbaoRoute operations client.toClient (.ok report) requested binding [] =
    .ok route ∧ client.prepare route.resolved.method route.wirePath = .ok () ∧
      method = route.resolved.method ∧ path = route.wirePath

/-- What lets the operation of a call go out. -/
structure GatedCall.Passes (call : GatedCall) (client : Client) (report : OpenBaoCompatibilityReport)
    (method : Method) (path : Str) : Prop where
  checks : call.checks = .ok ()
  gates : ∀ gate ∈ call.gates, gate report = .ok ()
  goes : ∃ binding, call.target = .ok binding ∧
    Goes operations client binding call.method report method path

variable {operations} {env : Environment (Answer α) σ} {client : Client}

theorem Goes.segments {binding : RegisteredRouteBinding} {requested method : Method}
    {report : OpenBaoCompatibilityReport} {path : Str}
    (h : Goes operations client binding requested report method path) :
    ∃ segments, (binding.registryPath >>= validateEndpointPath) = .ok segments := by
  obtain ⟨route, hroute, -⟩ := h
  obtain ⟨registryPath, hregistry, hroute⟩ := bind_eq_ok_iff.mp hroute
  obtain ⟨resolved, hresolved, -⟩ := bind_eq_ok_iff.mp hroute
  obtain ⟨segments, hsegments, -⟩ := bind_eq_ok_iff.mp hresolved
  exact ⟨segments, bind_eq_ok_iff.mpr ⟨registryPath, hregistry, hsegments⟩⟩

section Request

variable {Passes : OpenBaoCompatibilityReport → Method → Str → Prop} {binding : RegisteredRouteBinding}
  {requested : Method}

/-- The last steps of both ways to dispatch, under a known report. -/
theorem settles_route {report : OpenBaoCompatibilityReport}
    (hpasses : ∀ method path, Passes report method path ↔
      Goes operations client binding requested report method path) :
    Settles env (settle client report) Passes
      (attempt (resolveRegisteredOpenbaoRoute operations client.toClient (.ok report) requested
        binding []) fun route =>
          attempt (client.prepare route.resolved.method route.wirePath) fun _ =>
            .send (.operation route.resolved.method route.wirePath) .done) := by
  refine settles_attempt ?_ fun route hroute => settles_attempt ?_ fun _ hprepare => ?_
  · intro report' method path hpossible h
    obtain rfl := possible_settle_iff.mp hpossible
    obtain ⟨route, hroute, -⟩ := (hpasses method path).mp h
    exact ⟨route, hroute⟩
  · intro report' method path hpossible h
    obtain rfl := possible_settle_iff.mp hpossible
    obtain ⟨found, hfound, hprepare, -⟩ := (hpasses method path).mp h
    obtain rfl := Except.ok.inj (hroute.symm.trans hfound)
    exact ⟨(), hprepare⟩
  · exact settles_send ((hpasses _ _).mpr ⟨route, hroute, hprepare, rfl, rfl⟩)

theorem settles_request (dispatch : Dispatch)
    (hpasses : ∀ report method path, Possible client report → (Passes report method path ↔
      Goes operations client binding requested report method path)) :
    Settles env client Passes (request operations client binding requested dispatch) := by
  have hpath : ∀ report method path, Possible client report → Passes report method path →
      ∃ segments, (binding.registryPath >>= validateEndpointPath) = .ok segments :=
    fun report method path hpossible h => ((hpasses report method path hpossible).mp h).segments
  cases dispatch with
  | json =>
    refine settles_attempt hpath fun _ _ => settles_ensureCompatibility fun report hpossible => ?_
    exact settles_route fun method path => hpasses report method path hpossible
  | registered =>
    refine settles_attempt hpath fun _ _ => settles_ensureCompatibility fun report hpossible => ?_
    exact settles_route fun method path => hpasses report method path hpossible

theorem settles_target {target : Except Error RegisteredRouteBinding} (dispatch : Dispatch)
    (hpasses : ∀ report method path, Possible client report → (Passes report method path ↔
      ∃ binding, target = .ok binding ∧
        Goes operations client binding requested report method path)) :
    Settles env client Passes
      (attempt target fun binding => request operations client binding requested dispatch) := by
  refine settles_attempt ?_ fun binding htarget => settles_request dispatch ?_
  · intro report method path hpossible h
    obtain ⟨binding, htarget, -⟩ := (hpasses report method path hpossible).mp h
    exact ⟨binding, htarget⟩
  · intro report method path hpossible
    rw [hpasses report method path hpossible, htarget]
    simp

/-- Every gate sees the report that the request is routed under. -/
theorem settles_passGates {target : Except Error RegisteredRouteBinding} (dispatch : Dispatch)
    {gates : List Gate}
    (hpasses : ∀ report method path, Possible client report → (Passes report method path ↔
      (∀ gate ∈ gates, gate report = .ok ()) ∧ ∃ binding, target = .ok binding ∧
        Goes operations client binding requested report method path)) :
    Settles env client Passes (passGates (fun client =>
      attempt target fun binding => request operations client binding requested dispatch)
        gates client) := by
  induction gates generalizing client with
  | nil =>
    refine settles_target dispatch fun report method path hpossible => ?_
    rw [hpasses report method path hpossible]
    simp
  | cons gate gates ih =>
    refine settles_ensureCompatibility fun report hpossible => settles_attempt ?_ fun _ hgate => ih ?_
    · intro report' method path hpossible' h
      obtain rfl := possible_settle_iff.mp hpossible'
      exact ⟨(), ((hpasses report' method path hpossible).mp h).1 gate (List.mem_cons_self ..)⟩
    · intro report' method path hpossible'
      obtain rfl := possible_settle_iff.mp hpossible'
      rw [hpasses report' method path hpossible, List.forall_mem_cons]
      simp only [hgate, true_and]
      rfl

end Request

theorem GatedCall.settles (call : GatedCall) :
    Settles env client (call.Passes operations client) (call.program operations client) := by
  refine settles_attempt (fun report method path _ h => ⟨(), h.checks⟩) fun _ hchecks => ?_
  refine settles_passGates call.dispatch fun report method path _ => ?_
  exact ⟨fun h => ⟨h.gates, h.goes⟩, fun h => ⟨hchecks, h.1, h.2⟩⟩

/-- Under a known report that lets it pass, a call is its one request. -/
theorem GatedCall.program_settle {call : GatedCall} {report : OpenBaoCompatibilityReport}
    {method : Method} {path : Str} (h : call.Passes operations client report method path) :
    (call.program operations (settle client report) : Call α α) =
      .send (.operation method path) .done := by
  obtain ⟨hchecks, hgates, binding, htarget, hgoes⟩ := h
  obtain ⟨segments, hsegments⟩ := hgoes.segments
  obtain ⟨route, hroute, hprepare, rfl, rfl⟩ := hgoes
  have hrequest : (request operations (settle client report) binding call.method call.dispatch :
      Call α α) = .send (.operation route.resolved.method route.wirePath) .done := by
    cases call.dispatch with
    | json =>
      rw [request, requestSecretJson, hsegments, attempt_ok, ensureCompatibility_settle, done_andThen,
        attempt_ok]
      change attempt (resolveRegisteredOpenbaoRoute operations client.toClient _ _ _ _) _ = _
      rw [hroute, attempt_ok, ensureCompatibility_settle, done_andThen, attempt_ok]
      change attempt (client.prepare _ _) _ = _
      rw [hprepare, attempt_ok]
    | registered =>
      rw [request, requestRegistered, hsegments, attempt_ok, ensureCompatibility_settle, done_andThen,
        attempt_ok]
      change attempt (resolveRegisteredOpenbaoRoute operations client.toClient _ _ _ _) _ = _
      rw [hroute, attempt_ok]
      change attempt (client.prepare _ _) _ = _
      rw [hprepare, attempt_ok]
  rw [GatedCall.program, hchecks, attempt_ok]
  generalize call.gates = gates at hgates
  induction gates with
  | nil => rw [passGates, htarget, attempt_ok, hrequest]
  | cons gate gates ih =>
    rw [List.forall_mem_cons] at hgates
    rw [passGates, ensureCompatibility_settle, done_andThen, attempt_ok]
    dsimp only
    rw [hgates.1, attempt_ok]
    exact ih hgates.2

/-- The report of a run is what the policy says of an exchange, of the run or of the past. -/
theorem Learned.genuine {report : OpenBaoCompatibilityReport} {probes : List (Event (Answer α) σ)}
    (h : Learned client probes report) (hclient : Genuine client.policy client.verification) :
    ∃ exchange, evaluateCompatibilityPolicy client.policy exchange = .ok report := by
  cases h with
  | probed before exchange after hunknown hreport => exact ⟨exchange, hreport⟩
  | known hknown =>
    have hverification : client.verification = .complete (.ok report) :=
      congrArg Client.verification (eq_settle_of_settled? hknown)
    obtain ⟨exchange, hreport⟩ := hclient _ hverification
    exact ⟨exchange, hreport.symm⟩

end OpenBao.GatedRequests
