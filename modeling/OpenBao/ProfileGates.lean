import OpenBao.DurationText
import OpenBao.GatedRequests
import OpenBao.RegistryPathBinding

/-!
# Controls of single releases

Calls that use a control which only some releases have. Workflow writes with check-and-set and the
selection of the latest plugin need a reviewed release that the server was found to be.
-/

namespace OpenBao.ProfileGates
open CompatibilityPolicy CompatibilityProbe DispatchedRequests DurationText GatedRequests
  PathValidation RequestPrograms Utf8Text
open RegisteredRoutes hiding Client ensureCompatibility

/-! ### Gates -/

def reviewed : List OpenBaoVersion := [⟨2, 7, 0⟩, ⟨2, 7, 1⟩, ⟨2, 7, 2⟩]

/-- The check that the two strict controls share. -/
def validateReviewedProfile (message : String) (report : OpenBaoCompatibilityReport) :
    Except Error Unit :=
  if report.status ≠ .verified ||
      !(report.policy = some .exact || report.policy = some .automaticStrict) ||
      !report.profileVersion.any (reviewed.contains ·) ||
      report.detectedVersion ≠ report.profileVersion then
    .error (.invalidParameter message)
  else .ok ()

def validateWorkflowCasProfile : Gate :=
  validateReviewedProfile "workflow CAS requires an exact verified reviewed OpenBao 2.7 profile"

def validateLatestPluginProfile : Gate :=
  validateReviewedProfile
    "latest plugin selection requires an exact verified reviewed OpenBao 2.7 profile"

/-- The check that the controls of 2.7 share. -/
def requireStagedProfile (endpoint message : String) (report : OpenBaoCompatibilityReport) :
    Except Error Unit :=
  match report.profileVersion.or legacyUnverifiedProfile with
  | none => .error (.internal message)
  | some version =>
    if version < ⟨2, 7, 0⟩ ∨ ¬ (report.status = .verified ∨ report.status = .assumed) then
      .error (.unsupportedOpenBaoCapability endpoint version)
    else .ok ()

/-- What the strict gates ask for: a server that was found to be a reviewed release, under a policy
that names the release or leaves it to the probe. -/
structure ReviewedRelease (policy : Option OpenBaoCompatibilityPolicy) (exchange : HealthExchange)
    (version : OpenBaoVersion) : Prop where
  mem : version ∈ reviewed
  detected : probeOpenbaoVersion exchange = .ok version
  policy : policy = some (.exact version) ∨ policy = some .automaticStrict

/-- What the gates of 2.7 ask for: the release is assumed, or the server was found to be it. -/
structure StagedRelease (policy : Option OpenBaoCompatibilityPolicy) (exchange : HealthExchange)
    (version : OpenBaoVersion) : Prop where
  minimum : ⟨2, 7, 0⟩ ≤ version
  policy : policy = some (.assumed version) ∨ probeOpenbaoVersion exchange = .ok version ∧
    ∃ selected, policy = some selected ∧ evaluateDetected selected version = .ok (verified selected version)

section Gates

variable {policy : Option OpenBaoCompatibilityPolicy} {exchange : HealthExchange}
  {report : OpenBaoCompatibilityReport} {version : OpenBaoVersion} {message endpoint : String}

theorem reviewed_routable (h : version ∈ reviewed) : isRoutableProfile version = true := by
  have hall : ∀ version ∈ reviewed, isRoutableProfile version = true := by decide
  exact hall version h

theorem validateReviewedProfile_eq_ok_iff :
    validateReviewedProfile message report = .ok () ↔
      report.status = .verified ∧ (report.policy = some .exact ∨ report.policy = some .automaticStrict) ∧
        (∃ version, report.profileVersion = some version ∧ version ∈ reviewed) ∧
        report.detectedVersion = report.profileVersion := by
  unfold validateReviewedProfile
  have hany : report.profileVersion.any (reviewed.contains ·) = true ↔
      ∃ version, report.profileVersion = some version ∧ version ∈ reviewed := by
    cases report.profileVersion <;> simp
  rw [← hany]
  split
  · next h =>
    refine iff_of_false nofun fun ⟨hstatus, hpolicy, hprofile, hdetected⟩ => ?_
    rw [hprofile, hstatus, hdetected] at h
    rcases hpolicy with hpolicy | hpolicy <;> simp [hpolicy] at h
  · next h =>
    simp only [Bool.or_eq_true, not_or, decide_eq_true_eq, Bool.not_eq_true', Bool.not_eq_false,
      Classical.not_not, ne_eq] at h
    obtain ⟨⟨⟨hstatus, hpolicy⟩, hprofile⟩, hdetected⟩ := h
    exact iff_of_true rfl ⟨hstatus, hpolicy, hprofile, hdetected⟩

theorem requireStagedProfile_eq_ok_iff :
    requireStagedProfile endpoint message report = .ok () ↔
      (report.status = .verified ∨ report.status = .assumed) ∧
        ∃ version, report.profileVersion = some version ∧ ⟨2, 7, 0⟩ ≤ version := by
  have hlegacy : ¬ (⟨2, 7, 0⟩ : OpenBaoVersion) ≤ ⟨2, 6, 3⟩ := by decide
  rw [requireStagedProfile, legacyUnverifiedProfile_eq]
  cases report.profileVersion with
  | none => simp [lt_of_not_ge hlegacy]
  | some version =>
    rw [Option.some_or]
    dsimp only
    split
    · next h =>
      refine iff_of_false nofun fun ⟨hstatus, found, hfound, hle⟩ => ?_
      obtain rfl := Option.some.inj hfound
      rcases h with hless | hother
      · exact absurd hle (not_le.mpr hless)
      · exact hother hstatus
    · next h =>
      rw [not_or, Classical.not_not, not_lt] at h
      exact iff_of_true rfl ⟨h.2, version, rfl, h.1⟩

/-- A probe's report is one of the selected policy. -/
theorem evaluateCompatibilityPolicy_detected {selected : OpenBaoCompatibilityPolicy}
    (hselected : selected.immediateReport = none) (hdetected : probeOpenbaoVersion exchange = .ok version)
    (h : evaluateDetected selected version = .ok report) :
    evaluateCompatibilityPolicy (some selected) exchange = .ok report := by
  unfold evaluateCompatibilityPolicy
  simp only [hselected, hdetected, bind, Except.bind, h, Except.mapError]

theorem reviewed_of_evaluated (heval : evaluateCompatibilityPolicy policy exchange = .ok report)
    (hgate : validateReviewedProfile message report = .ok ()) :
    ∃ version, ReviewedRelease policy exchange version ∧ report.profileVersion = some version := by
  obtain ⟨hstatus, hpolicy, ⟨version, hprofile, hmem⟩, -⟩ :=
    validateReviewedProfile_eq_ok_iff.mp hgate
  refine ⟨version, ?_, hprofile⟩
  rcases evaluateCompatibilityPolicy_eq_ok heval with
    ⟨-, rfl⟩ | ⟨assumed, -, rfl⟩ | ⟨selected, detected, rfl, hprobe, hdetected⟩
  · cases hstatus
  · cases hstatus
  · rcases evaluateDetected_eq_ok hdetected with
      ⟨assumed, -, rfl⟩ | ⟨rfl, -, -⟩ | ⟨latest, -, -, -, rfl⟩
    · cases hstatus
    · obtain rfl : detected = version := Option.some.inj hprofile
      refine ⟨hmem, hprobe, ?_⟩
      cases selected with
      | exact expected =>
        rw [evaluateDetected] at hdetected
        split at hdetected
        · cases hdetected
        · next hsame => exact .inl (by rw [Classical.not_not.mp hsame])
      | automaticStrict => exact .inr rfl
      | range requirement => rcases hpolicy with hpolicy | hpolicy <;> cases hpolicy
      | assumed expected => rcases hpolicy with hpolicy | hpolicy <;> cases hpolicy
      | acknowledgedUnknownNewer => rcases hpolicy with hpolicy | hpolicy <;> cases hpolicy
    · cases hstatus

/-- The strict gates pass exactly the reports of a reviewed release. -/
theorem evaluated_reviewed_iff (policy : Option OpenBaoCompatibilityPolicy) (exchange : HealthExchange) :
    (∃ report, evaluateCompatibilityPolicy policy exchange = .ok report ∧
      validateReviewedProfile message report = .ok ()) ↔
        ∃ version, ReviewedRelease policy exchange version := by
  constructor
  · rintro ⟨report, heval, hgate⟩
    obtain ⟨version, hrelease, -⟩ := reviewed_of_evaluated heval hgate
    exact ⟨version, hrelease⟩
  · rintro ⟨version, hmem, hprobe, rfl | rfl⟩
    · refine ⟨verified (.exact version) version, ?_, ?_⟩
      · refine evaluateCompatibilityPolicy_detected rfl hprobe ?_
        simp [evaluateDetected]
      · exact validateReviewedProfile_eq_ok_iff.mpr ⟨rfl, .inl rfl, ⟨version, rfl, hmem⟩, rfl⟩
    · refine ⟨verified .automaticStrict version, ?_, ?_⟩
      · refine evaluateCompatibilityPolicy_detected rfl hprobe ?_
        simp [evaluateDetected, reviewed_routable hmem]
      · exact validateReviewedProfile_eq_ok_iff.mpr ⟨rfl, .inr rfl, ⟨version, rfl, hmem⟩, rfl⟩

theorem staged_of_evaluated (heval : evaluateCompatibilityPolicy policy exchange = .ok report)
    (hgate : requireStagedProfile endpoint message report = .ok ()) :
    ∃ version, StagedRelease policy exchange version ∧ report.profileVersion = some version := by
  obtain ⟨hstatus, version, hprofile, hminimum⟩ := requireStagedProfile_eq_ok_iff.mp hgate
  refine ⟨version, ⟨hminimum, ?_⟩, hprofile⟩
  rcases evaluateCompatibilityPolicy_eq_ok heval with
    ⟨-, rfl⟩ | ⟨assumed, rfl, rfl⟩ | ⟨selected, detected, rfl, hprobe, hdetected⟩
  · rcases hstatus with hstatus | hstatus <;> cases hstatus
  · obtain rfl : assumed = version := Option.some.inj hprofile
    exact .inl rfl
  · rcases evaluateDetected_eq_ok hdetected with
      ⟨assumed, rfl, rfl⟩ | ⟨rfl, -, -⟩ | ⟨latest, -, -, -, rfl⟩
    · obtain rfl : assumed = version := Option.some.inj hprofile
      exact .inl rfl
    · obtain rfl : detected = version := Option.some.inj hprofile
      exact .inr ⟨hprobe, selected, rfl, hdetected⟩
    · rcases hstatus with hstatus | hstatus <;> cases hstatus

/-- The gates of 2.7 pass exactly the reports of an assumed or detected release that has their
controls. -/
theorem evaluated_staged_iff (policy : Option OpenBaoCompatibilityPolicy) (exchange : HealthExchange) :
    (∃ report, evaluateCompatibilityPolicy policy exchange = .ok report ∧
      requireStagedProfile endpoint message report = .ok ()) ↔
        ∃ version, StagedRelease policy exchange version := by
  constructor
  · rintro ⟨report, heval, hgate⟩
    obtain ⟨version, hrelease, -⟩ := staged_of_evaluated heval hgate
    exact ⟨version, hrelease⟩
  · rintro ⟨version, hminimum, rfl | ⟨hprobe, selected, rfl, hdetected⟩⟩
    · exact ⟨.assumed version, rfl, requireStagedProfile_eq_ok_iff.mpr ⟨.inr rfl, version, rfl, hminimum⟩⟩
    · have himmediate : selected.immediateReport = none := by
        cases selected with
        | assumed expected => cases hdetected
        | exact expected => rfl
        | range requirement => rfl
        | automaticStrict => rfl
        | acknowledgedUnknownNewer => rfl
      exact ⟨_, evaluateCompatibilityPolicy_detected himmediate hprobe hdetected,
        requireStagedProfile_eq_ok_iff.mpr ⟨.inl rfl, version, rfl, hminimum⟩⟩

theorem routingProfile_of_profileVersion (h : report.profileVersion = some version) :
    routingProfile report = some version := by
  rw [routingProfile, h]

end Gates

/-! ### Workflows and plugins -/

def maxWorkflowDefinitionBytes : ℕ := 1024 * 1024

def validateWorkflowDefinition (workflow : Str) : Except Error Unit :=
  if workflow = [] then .error (.invalidParameter "workflow definition must not be empty")
  else if maxWorkflowDefinitionBytes < byteLen workflow then
    .error (.invalidParameter "workflow definition exceeds byte limit")
  else if '\x00' ∈ workflow then
    .error (.invalidParameter "workflow definition must not contain NUL")
  else .ok ()

/-- A write of a workflow. Its other fields are only serialized. -/
structure WorkflowWriteRequest where
  workflow : Str
  cas : Option ℤ
  casRequired : Bool
  definition : validateWorkflowDefinition workflow = .ok ()
  versions : ∀ version, cas = some version → -1 ≤ version

namespace WorkflowWriteRequest

def new (workflow : Str) : Except Error WorkflowWriteRequest :=
  match h : validateWorkflowDefinition workflow with
  | .error e => .error e
  | .ok () => .ok ⟨workflow, none, false, h, nofun⟩

def withCas (request : WorkflowWriteRequest) (version : ℤ) : Except Error WorkflowWriteRequest :=
  if h : version < -1 then
    .error (.invalidParameter "workflow cas must be -1 or a non-negative version")
  else
    .ok { request with
      cas := some version
      versions := fun _ hversion => Option.some.inj hversion ▸ not_lt.mp h }

def requireCas (request : WorkflowWriteRequest) (required : Bool) : WorkflowWriteRequest :=
  { request with casRequired := required }

end WorkflowWriteRequest

def workflowPath (base path : Str) : Except Error Str := do
  let segments ← validateEndpointPath path
  if segments = [] then .error (.invalidPath "workflow path must not be empty")
  else return base ++ '/' :: join '/' segments

def sysPath (base mountPath : Str) (suffix : Option Str) : Except Error Str := do
  let segments ← validateMountPath mountPath
  return join '/' (base :: segments ++ suffix.toList)

def sysScope : Str := "/sys/".toList

/-- A call that builds its path first and sends it through `request_sys_json_…`. -/
def sysCall (path : Except Error Str) (gates : List Gate) (method : Method) : GatedCall where
  checks := path.map fun _ => ()
  gates
  target := path.map (.exact sysScope)
  method
  dispatch := .json

def writeWorkflow (path : Str) (request : WorkflowWriteRequest) : GatedCall where
  checks := do
    validateWorkflowDefinition request.workflow
    let _ ← workflowPath "sys/workflows/manage".toList path
  gates := if request.cas.isSome || request.casRequired then [validateWorkflowCasProfile] else []
  target := do
    let path ← workflowPath "sys/workflows/manage".toList path
    RegisteredRouteBinding.registered sysScope path path
  method := "POST"
  dispatch := .registered

/-- The field of a mount's configuration that is checked. -/
structure MountConfig where
  pluginVersion : Option Str
  deriving DecidableEq, Repr

/-- `validate_latest_plugin_selection`, whose check is made only for this version. -/
def selectsLatestPlugin (config : Option MountConfig) : Bool :=
  config.bind (·.pluginVersion) = some "latest".toList

def validateLatestPluginSelection (config : Option MountConfig) : List Gate :=
  if selectsLatestPlugin config then [validateLatestPluginProfile] else []

def enableMount (mountPath : Str) (config : Option MountConfig) : GatedCall :=
  sysCall (sysPath "sys/mounts".toList mountPath none) (validateLatestPluginSelection config) "POST"

def tuneMount (mountPath : Str) (config : MountConfig) : GatedCall :=
  sysCall (sysPath "sys/mounts".toList mountPath (some "tune".toList))
    (validateLatestPluginSelection (some config)) "POST"

def enableAuthMethod (mountPath : Str) (config : Option MountConfig) : GatedCall :=
  sysCall (sysPath "sys/auth".toList mountPath none) (validateLatestPluginSelection config) "POST"

def tuneAuthMethod (mountPath : Str) (config : MountConfig) : GatedCall :=
  sysCall (sysPath "sys/auth".toList mountPath (some "tune".toList))
    (validateLatestPluginSelection (some config)) "POST"

/-- The calls that can use a strict control. -/
inductive ReviewedCall where
  | writeWorkflow (path : Str) (request : WorkflowWriteRequest)
  | enableMount (mountPath : Str) (config : Option MountConfig)
  | tuneMount (mountPath : Str) (config : MountConfig)
  | enableAuthMethod (mountPath : Str) (config : Option MountConfig)
  | tuneAuthMethod (mountPath : Str) (config : MountConfig)

namespace ReviewedCall

def gated : ReviewedCall → GatedCall
  | writeWorkflow path request => ProfileGates.writeWorkflow path request
  | enableMount mountPath config => ProfileGates.enableMount mountPath config
  | tuneMount mountPath config => ProfileGates.tuneMount mountPath config
  | enableAuthMethod mountPath config => ProfileGates.enableAuthMethod mountPath config
  | tuneAuthMethod mountPath config => ProfileGates.tuneAuthMethod mountPath config

/-- The call uses a strict control. -/
def selects : ReviewedCall → Bool
  | writeWorkflow _ request => request.cas.isSome || request.casRequired
  | enableMount _ config | enableAuthMethod _ config => selectsLatestPlugin config
  | tuneMount _ config | tuneAuthMethod _ config => selectsLatestPlugin (some config)

/-- A call that uses a strict control has one strict gate. -/
theorem gates_of_selects {call : ReviewedCall} (h : call.selects = true) :
    ∃ message, call.gated.gates = [validateReviewedProfile message] := by
  cases call with
  | writeWorkflow path request => exact ⟨_, if_pos h⟩
  | enableMount mountPath config => exact ⟨_, if_pos h⟩
  | tuneMount mountPath config => exact ⟨_, if_pos h⟩
  | enableAuthMethod mountPath config => exact ⟨_, if_pos h⟩
  | tuneAuthMethod mountPath config => exact ⟨_, if_pos h⟩

end ReviewedCall

/-- Whatever the callers of a client do, a call that uses a strict control sends its request only
where the server was found to be a reviewed release, under a policy that stands for this release,
and routes it by the profile of the release. -/
theorem reviewedRelease_law {Caller α σ : Type} [DecidableEq Caller]
    (operations : List RegisteredRoutes.OpenBaoOperation) (env : Environment (Answer α) σ)
    (client : Client) (system : ProbeSystem Caller) (hsystem : ReachableProbed client.policy system)
    (hclient : client.verification = system.verification) (call : ReviewedCall)
    (s s' : σ) (trace : List (Event (Answer α) σ)) (result : Except Error α)
    (hrun : Exec env s (call.gated.program operations client) trace result s') :
    Dispatched client (call.gated.Passes operations client) trace result ∧
    (call.selects = true →
      (∀ exchange, (∃ report, evaluateCompatibilityPolicy client.policy exchange = .ok report ∧
          ∀ gate ∈ call.gated.gates, gate report = .ok ()) ↔
        ∃ version, ReviewedRelease client.policy exchange version) ∧
      ∀ event ∈ trace, event.request ≠ .health → ∃ exchange version report method path,
        ReviewedRelease client.policy exchange version ∧ routingProfile report = some version ∧
          call.gated.Passes operations client report method path ∧
            event.request = .operation method path) := by
  have hgenuine : Genuine client.policy client.verification := hclient ▸ hsystem.genuine
  have hdispatched := call.gated.settles s trace result s' hrun
  refine ⟨hdispatched, fun hselects => ?_⟩
  obtain ⟨message, hgates⟩ := ReviewedCall.gates_of_selects hselects
  refine ⟨fun exchange => ?_, fun event hmem hevent => ?_⟩
  · simp only [hgates, List.mem_singleton, forall_eq]
    exact evaluated_reviewed_iff client.policy exchange
  · obtain ⟨probes, report, method, path, hlearned, hpasses, hrequest⟩ :=
      hdispatched.operation hmem hevent
    obtain ⟨exchange, heval⟩ := hlearned.genuine hgenuine
    have hgate : validateReviewedProfile message report = .ok () :=
      hpasses.gates _ (by rw [hgates]; exact List.mem_singleton_self _)
    obtain ⟨version, hrelease, hprofile⟩ := reviewed_of_evaluated heval hgate
    exact ⟨exchange, version, report, method, path, hrelease, routingProfile_of_profileVersion hprofile,
      hpasses, hrequest⟩

section Tuning

/-- The entry of the generated registry for a tuning, with its range for the release. -/
def tuneOperation : RegisteredRoutes.OpenBaoOperation :=
  ⟨"openbao.post.sys.mounts.path.tune.e8bd04a7074c1ef4", .post, "/sys/mounts/:path/tune".toList, .typed,
    [⟨⟨2, 7, 2⟩, ⟨2, 7, 2⟩, .taggedDocumentation, false⟩]⟩

def exactPolicy : OpenBaoCompatibilityPolicy := .exact ⟨2, 7, 2⟩

def exactReport : OpenBaoCompatibilityReport := verified exactPolicy ⟨2, 7, 2⟩

def exactClient : Client := ⟨⟨some exactPolicy, []⟩, .pending, fun _ _ => .ok ()⟩

def latestTuning : ReviewedCall := .tuneMount "secret".toList ⟨some "latest".toList⟩

theorem latestTuning_passes : latestTuning.gated.Passes [tuneOperation] exactClient exactReport "POST"
    "sys/mounts/secret/tune".toList where
  checks := by decide +kernel
  gates := by
    have hgates : latestTuning.gated.gates = [validateLatestPluginProfile] := by rfl
    rw [hgates]
    simp only [List.mem_singleton, forall_eq]
    decide
  goes := ⟨.exact sysScope "sys/mounts/secret/tune".toList, by decide +kernel,
    ⟨⟨tuneOperation.id, tuneOperation, "POST"⟩, "sys/mounts/secret/tune".toList⟩,
    by decide +kernel, rfl, rfl, rfl⟩

/-- The probe of a single caller. -/
theorem exactClient_probed : ∃ system : ProbeSystem Unit, ReachableProbed (some exactPolicy) system ∧
    (settle exactClient exactReport).verification = system.verification := by
  have hverdict : evaluateCompatibilityPolicy (some exactPolicy) (.response 200 (.value "2.7.2".toList)) =
      .ok exactReport := by decide +kernel
  let led : ProbeSystem Unit := (ProbeSystem.init (some exactPolicy)).goto () .leading (.running [])
  refine ⟨led.gotoWaking () (.ofResult (.ok exactReport)) (led.verification.leaderComplete (.ok exactReport)),
    .tail (.single ⟨.enter () 0 rfl ⟨nofun, nofun⟩, ?_⟩) ⟨.complete () _ rfl, ?_⟩, rfl⟩
  · intro c result hphase
    cases hphase
  · intro c result hphase hsame
    have hresult := congrArg ProbeSystem.verification hsame
    simp only [ProbeSystem.gotoWaking_verification, leaderComplete_complete] at hresult
    cases hresult
    exact ⟨_, hverdict.symm⟩

/-- A tuning that selects the latest plugin, behind a probe that has found 2.7.2. -/
theorem reviewedRelease_law_tune : ∃ exchange version report method path,
    ReviewedRelease (some exactPolicy) exchange version ∧ routingProfile report = some version ∧
      latestTuning.gated.Passes [tuneOperation] (settle exactClient exactReport) report method path ∧
        Request.operation "POST" "sys/mounts/secret/tune".toList = .operation method path := by
  obtain ⟨system, hsystem, hclient⟩ := exactClient_probed
  have hrun : Exec (⟨fun _ _ _ _ => True, fun _ _ => True⟩ : Environment (Answer Unit) Unit) ()
      (latestTuning.gated.program [tuneOperation] (settle exactClient exactReport))
      [⟨.operation "POST" "sys/mounts/secret/tune".toList, (), .ok (), ()⟩] (.ok ()) () := by
    rw [GatedCall.program_settle latestTuning_passes]
    exact .send trivial trivial (.done _ _)
  have hlaw := reviewedRelease_law [tuneOperation] _ (settle exactClient exactReport) system hsystem hclient
    latestTuning () () _ _ hrun
  exact (hlaw.2 (by decide +kernel)).2 _ (List.mem_singleton_self _) nofun

end Tuning

/-! ### Policies -/

section Policies

/-- The fields of a policy's metadata. -/
def policyField (field : String) : VersionedRequestField := .since "sys.policy.write" field ⟨2, 3, 1⟩

def policyOverride (field : String) : VersionedRequestField := .since "sys.policy.write" field ⟨2, 6, 0⟩

/-- The metadata that writes and patches of a policy share. -/
structure PolicyMetadata where
  expiration : Option Str
  ttl : Option Str
  cas : Option ℤ
  casRequired : Option Bool
  deriving DecidableEq, Repr

def PolicyMetadata.fields (metadata : PolicyMetadata) : List (VersionedRequestField × Bool) :=
  [(policyField "expiration", metadata.expiration.isSome), (policyField "ttl", metadata.ttl.isSome),
    (policyField "cas", metadata.cas.isSome), (policyField "cas_required", metadata.casRequired.isSome)]

/-- The checks on the lifetime of a policy. -/
def PolicyMetadata.validateLifetime (metadata : PolicyMetadata) : Except Error Unit :=
  if metadata.expiration.isSome && metadata.ttl.isSome then
    .error (.invalidParameter "policy expiration and ttl are mutually exclusive")
  else
    match metadata.ttl with
    | some ttl => validateDurationParameter ttl "policy ttl"
    | none => .ok ()

structure PolicyWriteRequest extends PolicyMetadata where
  policy : Str
  deriving DecidableEq, Repr

structure PolicyPatchRequest extends PolicyMetadata where
  policy : Option Str
  deriving DecidableEq, Repr

def PolicyWriteRequest.validate (request : PolicyWriteRequest) : Except Error Unit :=
  request.validateLifetime

def PolicyPatchRequest.validate (request : PolicyPatchRequest) : Except Error Unit :=
  if request.policy.isNone && request.expiration.isNone && request.ttl.isNone && request.cas.isNone &&
      request.casRequired.isNone then
    .error (.invalidParameter "ACL policy patch must select at least one field")
  else do
    request.validateLifetime
    if request.cas.any (· < 1) then
      .error (.invalidParameter "ACL policy PATCH cas must be a positive existing policy version")
    else .ok ()

/-- The delimiters that are acknowledged, one of them at least. -/
structure AclIdentityTemplateOverrides where
  allowSlashes : Bool
  allowWildcards : Bool
  acknowledged : (allowSlashes || allowWildcards) = true

namespace AclIdentityTemplateOverrides

def acknowledgeSlashes : AclIdentityTemplateOverrides := ⟨true, false, rfl⟩
def acknowledgeWildcards : AclIdentityTemplateOverrides := ⟨false, true, rfl⟩
def acknowledgeSlashesAndWildcards : AclIdentityTemplateOverrides := ⟨true, true, rfl⟩

def fields (overrides : AclIdentityTemplateOverrides) : List (VersionedRequestField × Bool) :=
  [(policyOverride "allow_slashes_in_identity_templates", overrides.allowSlashes),
    (policyOverride "allow_wildcards_in_identity_templates", overrides.allowWildcards)]

end AclIdentityTemplateOverrides

/-- The writes and patches of a policy: the path is built behind the gate. -/
def policyCall (valid : Except Error Unit) (fields : List (VersionedRequestField × Bool)) (name : Str)
    (method : Method) : GatedCall where
  checks := valid
  gates := [fun report => checkRequestFields report fields]
  target := (sysPath "sys/policies/acl".toList name none).map (.exact sysScope)
  method
  dispatch := .json

def writePolicy (name : Str) (request : PolicyWriteRequest) : GatedCall :=
  policyCall request.validate request.fields name "POST"

def patchPolicy (name : Str) (request : PolicyPatchRequest) : GatedCall :=
  policyCall request.validate request.fields name "PATCH"

def writePolicyWithIdentityTemplateOverrides (name : Str) (request : PolicyWriteRequest)
    (overrides : AclIdentityTemplateOverrides) : GatedCall :=
  policyCall request.validate (request.fields ++ overrides.fields) name "POST"

def patchPolicyWithIdentityTemplateOverrides (name : Str) (request : PolicyPatchRequest)
    (overrides : AclIdentityTemplateOverrides) : GatedCall :=
  policyCall request.validate (request.fields ++ overrides.fields) name "PATCH"

inductive PolicyCall where
  | write (name : Str) (request : PolicyWriteRequest) (overrides : Option AclIdentityTemplateOverrides)
  | patch (name : Str) (request : PolicyPatchRequest) (overrides : Option AclIdentityTemplateOverrides)

namespace PolicyCall

def gated : PolicyCall → GatedCall
  | write name request none => writePolicy name request
  | write name request (some overrides) => writePolicyWithIdentityTemplateOverrides name request overrides
  | patch name request none => patchPolicy name request
  | patch name request (some overrides) => patchPolicyWithIdentityTemplateOverrides name request overrides

def metadata : PolicyCall → PolicyMetadata
  | write _ request _ => request.toPolicyMetadata
  | patch _ request _ => request.toPolicyMetadata

def overrides : PolicyCall → Option AclIdentityTemplateOverrides
  | write _ _ overrides => overrides
  | patch _ _ overrides => overrides

end PolicyCall

variable {report : OpenBaoCompatibilityReport}

theorem validateRequestFields_eq_ok_iff {version : OpenBaoVersion}
    {fields : List (VersionedRequestField × Bool)} :
    validateRequestFields version fields = .ok () ↔
      ∀ field ∈ fields, field.2 = true → field.1.supports version = true := by
  induction fields with
  | nil => simp [validateRequestFields]
  | cons field fields ih =>
    obtain ⟨rule, selected⟩ := field
    rw [validateRequestFields, List.forall_mem_cons]
    cases selected with
    | false => simpa using ih
    | true =>
      cases hsupports : rule.supports version with
      | false => simp
      | true => simpa using ih

/-- A request behind the check of its fields is routed by a profile that has the selected ones. -/
theorem supports_of_checkRequestFields {fields : List (VersionedRequestField × Bool)}
    (h : checkRequestFields report fields = .ok ()) :
    ∃ version, routingProfile report = some version ∧ isRoutableProfile version = true ∧
      ∀ field ∈ fields, field.2 = true → field.1.supports version = true := by
  unfold checkRequestFields at h
  cases hprofile : routingProfile report with
  | none =>
    rw [hprofile] at h
    cases h
  | some version =>
    simp only [hprofile] at h
    cases hroutable : isRoutableProfile version with
    | false => simp [hroutable] at h
    | true =>
      simp only [hroutable, Bool.not_true, Bool.false_eq_true, if_false] at h
      obtain ⟨_, -, hfields⟩ := bind_eq_ok_iff.mp h
      exact ⟨version, rfl, hroutable, validateRequestFields_eq_ok_iff.mp hfields⟩

theorem minimum_of_supports {endpoint field : String} {minimum version : OpenBaoVersion}
    (h : (VersionedRequestField.since endpoint field minimum).supports version = true) :
    minimum ≤ version := by
  simpa [VersionedRequestField.since, VersionedRequestField.supports] using h

/-- What a policy call that sends its request says of the lifetime of the policy. -/
structure PolicyMetadata.Valid (metadata : PolicyMetadata) : Prop where
  exclusive : metadata.expiration = none ∨ metadata.ttl = none
  duration : ∀ ttl, metadata.ttl = some ttl → validateDurationString ttl false = true

theorem PolicyMetadata.valid_of_validateLifetime {metadata : PolicyMetadata}
    (h : metadata.validateLifetime = .ok ()) : metadata.Valid := by
  obtain ⟨expiration, ttl, cas, casRequired⟩ := metadata
  unfold validateLifetime at h
  cases ttl with
  | none => exact ⟨.inr rfl, nofun⟩
  | some ttl =>
    cases expiration with
    | some expiration => cases h
    | none =>
      refine ⟨.inl rfl, fun found hfound => ?_⟩
      obtain rfl := Option.some.inj hfound
      exact validateDurationParameter_eq_ok_iff.mp h

/-- A patch changes something, and its version exists. -/
theorem PolicyPatchRequest.valid_of_validate {request : PolicyPatchRequest}
    (h : request.validate = .ok ()) :
    request.Valid ∧ (request.policy ≠ none ∨ request.fields.any (·.2) = true) ∧
      ∀ version, request.cas = some version → 1 ≤ version := by
  unfold validate at h
  split at h
  · cases h
  · next hsome =>
    obtain ⟨_, hlifetime, hcas⟩ := bind_eq_ok_iff.mp h
    refine ⟨PolicyMetadata.valid_of_validateLifetime hlifetime, ?_, fun version hversion => ?_⟩
    · rw [or_iff_not_imp_left]
      intro hpolicy
      rw [Classical.not_not] at hpolicy
      cases hexpiration : request.expiration <;> cases httl : request.ttl <;>
        cases hcas : request.cas <;> cases hrequired : request.casRequired <;>
          simp_all [PolicyMetadata.fields]
    · rw [hversion] at hcas
      by_contra hless
      simp [not_le.mp hless] at hcas

namespace PolicyCall

/-- What a call that sends its request says. -/
def Valid : PolicyCall → Prop
  | write _ request _ => request.Valid
  | patch _ request _ => request.Valid ∧ (request.policy ≠ none ∨ request.fields.any (·.2) = true) ∧
      ∀ version, request.cas = some version → 1 ≤ version

theorem valid_of_checks {call : PolicyCall} (h : call.gated.checks = .ok ()) : call.Valid := by
  cases call with
  | write name request overrides => cases overrides <;> exact PolicyMetadata.valid_of_validateLifetime h
  | patch name request overrides => cases overrides <;> exact PolicyPatchRequest.valid_of_validate h

def fields (call : PolicyCall) : List (VersionedRequestField × Bool) :=
  call.metadata.fields ++ (call.overrides.map AclIdentityTemplateOverrides.fields).getD []

theorem gates_eq (call : PolicyCall) :
    call.gated.gates = [fun report => checkRequestFields report call.fields] := by
  cases call with
  | write name request overrides => cases overrides <;> simp [gated, writePolicy, policyCall, fields,
      metadata, PolicyCall.overrides, writePolicyWithIdentityTemplateOverrides]
  | patch name request overrides => cases overrides <;> simp [gated, patchPolicy, policyCall, fields,
      metadata, PolicyCall.overrides, patchPolicyWithIdentityTemplateOverrides]

/-- The fields came with two releases. -/
theorem minimum_of_fields {call : PolicyCall} {version : OpenBaoVersion}
    (h : ∀ field ∈ call.fields, field.2 = true → field.1.supports version = true) :
    (call.metadata.fields.any (·.2) = true → ⟨2, 3, 1⟩ ≤ version) ∧
      (call.overrides ≠ none → ⟨2, 6, 0⟩ ≤ version) := by
  constructor
  · intro hany
    obtain ⟨field, hmem, hselected⟩ := List.any_eq_true.mp hany
    have hsupports := h field (List.mem_append_left _ hmem) hselected
    simp only [PolicyMetadata.fields, List.mem_cons, List.not_mem_nil, or_false] at hmem
    rcases hmem with rfl | rfl | rfl | rfl <;> exact minimum_of_supports hsupports
  · intro hsome
    obtain ⟨overrides, hoverrides⟩ := Option.ne_none_iff_exists'.mp hsome
    have hmem : ∀ field ∈ overrides.fields, field ∈ call.fields := by
      intro field hfield
      refine List.mem_append_right _ ?_
      rw [hoverrides]
      exact hfield
    rcases Bool.or_eq_true_iff.mp overrides.acknowledged with hflag | hflag
    · exact minimum_of_supports (h _ (hmem _ (List.mem_cons_self ..)) hflag)
    · exact minimum_of_supports (h _ (hmem _ (List.mem_cons_of_mem _ (List.mem_cons_self ..))) hflag)

end PolicyCall

/-- Whatever the callers of a client do, a write or patch of a policy that is sent is well formed,
and is routed by a profile that has the metadata and the overrides that it uses. -/
theorem policyFields_law {Caller α σ : Type} [DecidableEq Caller]
    (operations : List RegisteredRoutes.OpenBaoOperation) (env : Environment (Answer α) σ)
    (client : Client) (system : ProbeSystem Caller) (hsystem : ReachableProbed client.policy system)
    (hclient : client.verification = system.verification) (call : PolicyCall)
    (s s' : σ) (trace : List (Event (Answer α) σ)) (result : Except Error α)
    (hrun : Exec env s (call.gated.program operations client) trace result s') :
    Dispatched client (call.gated.Passes operations client) trace result ∧
    ∀ event ∈ trace, event.request ≠ .health → call.Valid ∧
      ∃ exchange version report method path,
        ProfileJustified client.policy exchange report version ∧
          routingProfile report = some version ∧ isRoutableProfile version = true ∧
          (call.metadata.fields.any (·.2) = true → ⟨2, 3, 1⟩ ≤ version) ∧
          (call.overrides ≠ none → ⟨2, 6, 0⟩ ≤ version) ∧
          call.gated.Passes operations client report method path ∧
            event.request = .operation method path := by
  have hgenuine : Genuine client.policy client.verification := hclient ▸ hsystem.genuine
  have hdispatched := call.gated.settles s trace result s' hrun
  refine ⟨hdispatched, fun event hmem hevent => ?_⟩
  obtain ⟨probes, report, method, path, hlearned, hpasses, hrequest⟩ := hdispatched.operation hmem hevent
  obtain ⟨exchange, heval⟩ := hlearned.genuine hgenuine
  have hgate : checkRequestFields report call.fields = .ok () :=
    hpasses.gates (fun report => checkRequestFields report call.fields) (by rw [call.gates_eq]; simp)
  obtain ⟨version, hprofile, hroutable, hsupports⟩ := supports_of_checkRequestFields hgate
  obtain ⟨hmetadata, hoverrides⟩ := PolicyCall.minimum_of_fields hsupports
  exact ⟨PolicyCall.valid_of_checks hpasses.checks, exchange, version, report, method, path,
    routingProfile_justified heval hprofile, hprofile, hroutable, hmetadata, hoverrides, hpasses,
    hrequest⟩

/-- A write under the legacy profile that sets a lifetime. -/
def ttlWrite : PolicyCall :=
  .write "team".toList ⟨⟨none, some "30s".toList, none, none⟩, "path".toList⟩ none

def writeOperation : RegisteredRoutes.OpenBaoOperation :=
  ⟨"openbao.post.sys.policies.acl.name.6d65929a2c57a8d0", .post, "/sys/policies/acl/:name".toList, .typed,
    [⟨⟨2, 0, 0⟩, ⟨2, 6, 3⟩, .taggedDocumentation, false⟩]⟩

def plainClient : Client := ⟨⟨none, []⟩, .pending, fun _ _ => .ok ()⟩

theorem ttlWrite_passes : ttlWrite.gated.Passes [writeOperation] plainClient .unverified "POST"
    "sys/policies/acl/team".toList where
  checks := by decide +kernel
  gates := by
    rw [PolicyCall.gates_eq]
    simp only [List.mem_singleton, forall_eq]
    decide +kernel
  goes := ⟨.exact sysScope "sys/policies/acl/team".toList, by decide +kernel,
    ⟨⟨writeOperation.id, writeOperation, "POST"⟩, "sys/policies/acl/team".toList⟩,
    by decide +kernel, rfl, rfl, rfl⟩

theorem policyFields_law_ttl : ttlWrite.Valid ∧ ∃ exchange version report method path,
    ProfileJustified none exchange report version ∧ routingProfile report = some version ∧
      isRoutableProfile version = true ∧
      (ttlWrite.metadata.fields.any (·.2) = true → ⟨2, 3, 1⟩ ≤ version) ∧
      (ttlWrite.overrides ≠ none → ⟨2, 6, 0⟩ ≤ version) ∧
      ttlWrite.gated.Passes [writeOperation] (settle plainClient .unverified) report method path ∧
        Request.operation "POST" "sys/policies/acl/team".toList = .operation method path := by
  have hrun : Exec (⟨fun _ _ _ _ => True, fun _ _ => True⟩ : Environment (Answer Unit) Unit) ()
      (ttlWrite.gated.program [writeOperation] (settle plainClient .unverified))
      [⟨.operation "POST" "sys/policies/acl/team".toList, (), .ok (), ()⟩] (.ok ()) () := by
    rw [GatedCall.program_settle ttlWrite_passes]
    exact .send trivial trivial (.done _ _)
  have hlaw := policyFields_law [writeOperation] _ (settle plainClient .unverified)
    (.init none : ProbeSystem Unit) .refl rfl ttlWrite () () _ _ hrun
  exact hlaw.2 _ (List.mem_singleton_self _) nofun

end Policies

end OpenBao.ProfileGates
