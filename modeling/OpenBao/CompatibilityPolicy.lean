import Mathlib.Data.Prod.Lex
import Mathlib.Order.Lattice
import OpenBao.CompatibilityProbe
import OpenBao.Utf8Text

/-!
# Compatibility policies

How a client's policy turns the version that a server reports into the profile that
requests are routed by.
-/

namespace OpenBao

instance : LinearOrder OpenBaoVersion :=
  LinearOrder.lift' (fun v => toLex (v.major, toLex (v.minor, v.patch))) fun v w h => by
    cases v
    cases w
    simpa using h

namespace OpenBaoVersionRequirement

def minimum : OpenBaoVersionRequirement → OpenBaoVersion
  | exact version => version
  | inclusive minimum _ => minimum

def maximum : OpenBaoVersionRequirement → OpenBaoVersion
  | exact version => version
  | inclusive _ maximum => maximum

end OpenBaoVersionRequirement

def versionInClosedInterval (version minimum maximum : OpenBaoVersion) : Bool :=
  version ≥ minimum && version ≤ maximum

def OpenBaoVersionRequirement.contains (requirement : OpenBaoVersionRequirement)
    (version : OpenBaoVersion) : Bool :=
  versionInClosedInterval version requirement.minimum requirement.maximum

namespace CompatibilityPolicy
open CompatibilityProbe Utf8Text

/-- The exact releases that requests can be routed by. The releases with generated
evidence are the same. -/
def generatedRoutableProfileVersions : List OpenBaoVersion :=
  [⟨2, 0, 0⟩, ⟨2, 0, 1⟩, ⟨2, 0, 2⟩, ⟨2, 0, 3⟩, ⟨2, 1, 0⟩, ⟨2, 1, 1⟩, ⟨2, 2, 0⟩, ⟨2, 2, 1⟩,
    ⟨2, 2, 2⟩, ⟨2, 3, 1⟩, ⟨2, 3, 2⟩, ⟨2, 4, 0⟩, ⟨2, 4, 1⟩, ⟨2, 4, 3⟩, ⟨2, 4, 4⟩, ⟨2, 5, 0⟩,
    ⟨2, 5, 1⟩, ⟨2, 5, 2⟩, ⟨2, 5, 3⟩, ⟨2, 5, 4⟩, ⟨2, 5, 5⟩, ⟨2, 6, 0⟩, ⟨2, 6, 1⟩, ⟨2, 6, 2⟩,
    ⟨2, 6, 3⟩, ⟨2, 6, 4⟩, ⟨2, 6, 5⟩, ⟨2, 7, 0⟩, ⟨2, 7, 1⟩, ⟨2, 7, 2⟩]

def generatedProfileVersions : List OpenBaoVersion := generatedRoutableProfileVersions

-- The source searches the sorted tables by bisection.
def isRoutableProfile (version : OpenBaoVersion) : Bool :=
  generatedRoutableProfileVersions.contains version

def isGeneratedProfile (version : OpenBaoVersion) : Bool :=
  generatedProfileVersions.contains version

def legacyUnverifiedProfile : Option OpenBaoVersion :=
  if isRoutableProfile ⟨2, 6, 3⟩ then some ⟨2, 6, 3⟩ else none

def latestRoutableProfile : Option OpenBaoVersion := generatedRoutableProfileVersions.getLast?

def requireRoutableProfile (version : OpenBaoVersion) : Except Error Unit :=
  if isRoutableProfile version then .ok ()
  else .error (.invalidOpenBaoVersionRequirement
    "compatibility policy version is absent from the runtime-approved release inventory")

/-! The public constructors. -/

def exact (version : OpenBaoVersion) : Except Error OpenBaoCompatibilityPolicy := do
  requireRoutableProfile version
  return .exact version

def range (requirement : OpenBaoVersionRequirement) : Except Error OpenBaoCompatibilityPolicy := do
  requireRoutableProfile requirement.minimum
  requireRoutableProfile requirement.maximum
  return .range requirement

def automaticStrict : OpenBaoCompatibilityPolicy := .automaticStrict

def assume (version : OpenBaoVersion) : Except Error OpenBaoCompatibilityPolicy := do
  requireRoutableProfile version
  return .assumed version

def automaticAllowUnknownNewer : OpenBaoCompatibilityPolicy := .acknowledgedUnknownNewer

/-- The policies that a caller can build. -/
inductive Constructed : OpenBaoCompatibilityPolicy → Prop where
  | exact {version policy} (h : exact version = .ok policy) : Constructed policy
  | range {requirement policy} (h : range requirement = .ok policy) : Constructed policy
  | automaticStrict : Constructed automaticStrict
  | assume {version policy} (h : assume version = .ok policy) : Constructed policy
  | automaticAllowUnknownNewer : Constructed automaticAllowUnknownNewer

def kind : OpenBaoCompatibilityPolicy → OpenBaoCompatibilityPolicyKind
  | .exact _ => .exact
  | .range _ => .range
  | .automaticStrict => .automaticStrict
  | .assumed _ => .assumed
  | .acknowledgedUnknownNewer => .acknowledgedUnknownNewer

def requirement : OpenBaoCompatibilityPolicy → Option OpenBaoVersionRequirement
  | .exact version => some (.exact version)
  | .assumed version => some (.exact version)
  | .range requirement => some requirement
  | .automaticStrict => none
  | .acknowledgedUnknownNewer => none

/-- `OpenBaoCompatibilityReport::verified` with the policy's own kind and requirement. -/
def verified (policy : OpenBaoCompatibilityPolicy) (detected : OpenBaoVersion) :
    OpenBaoCompatibilityReport :=
  ⟨.verified, some (kind policy), requirement policy, some detected, some detected⟩

def acknowledgedUnknownNewer (detected profile : OpenBaoVersion) : OpenBaoCompatibilityReport :=
  ⟨.acknowledgedUnknownNewer, some .acknowledgedUnknownNewer, none, some detected, some profile⟩

def evaluateDetected (policy : OpenBaoCompatibilityPolicy) (detected : OpenBaoVersion) :
    Except OpenBaoCompatibilityFailure OpenBaoCompatibilityReport :=
  match policy with
  | .exact expected =>
    if detected ≠ expected then .error (.versionMismatch detected (.exact expected))
    else .ok (verified policy detected)
  | .range requirement =>
    if !requirement.contains detected then .error (.versionMismatch detected requirement)
    else if !isRoutableProfile detected then .error (.unknownVersion detected)
    else .ok (verified policy detected)
  | .automaticStrict =>
    if !isRoutableProfile detected then .error (.unknownVersion detected)
    else .ok (verified policy detected)
  | .assumed version => .ok (.assumed version)
  | .acknowledgedUnknownNewer =>
    if isRoutableProfile detected then .ok (verified policy detected)
    else match latestRoutableProfile with
      | none => .error (.unknownVersion detected)
      | some latest =>
        if detected > latest then .ok (acknowledgedUnknownNewer detected latest)
        else .error (.unknownVersion detected)

/-! The text of a stable version. -/

def maxVersionBytes : ℕ := 64

def u32Max : ℕ := 2 ^ 32 - 1

/-- The value of ASCII digits. -/
def decimalValue (digits : Bytes) : ℕ := digits.foldl (fun n d => 10 * n + (d - 0x30).toNat) 0

def parseComponent (component : Str) : Except Error ℕ :=
  if component = [] then .error (.invalidOpenBaoVersion "version components must not be empty")
  else if 1 < byteLen component ∧ component.head? = some '0' then
    .error (.invalidOpenBaoVersion "version components must use canonical decimal form")
  else if !(asBytes component).all isAsciiDigit then
    .error (.invalidOpenBaoVersion "version components must be decimal integers")
  else if u32Max < decimalValue (asBytes component) then
    .error (.invalidOpenBaoVersion "version component exceeds u32")
  else .ok (decimalValue (asBytes component))

/-- `OpenBaoVersion::from_str`. -/
def parseVersion (input : Str) : Except Error OpenBaoVersion :=
  if input = [] then .error (.invalidOpenBaoVersion "version must not be empty")
  else if maxVersionBytes < byteLen input then
    .error (.invalidOpenBaoVersion "version exceeds the input limit")
  else if !isAscii input then
    .error (.invalidOpenBaoVersion "version must contain only ASCII digits and dots")
  else match input.splitOn '.' with
    | [major, minor, patch] => do
      return ⟨← parseComponent major, ← parseComponent minor, ← parseComponent patch⟩
    | _ => .error (.invalidOpenBaoVersion "version must contain three components")

/-! The probe of the public health endpoint. -/

/-- What reading a response's JSON body gives. -/
inductive BodyRead (α : Type) where
  | value (body : α)
  /-- The transport failed before the end of the body. -/
  | broken (message : String)
  /-- A wrong content type, an oversized body, or one that the schema does not fit. -/
  | unreadable (message : String)
  deriving DecidableEq, Repr

/-- What comes back from one probe. -/
inductive HealthExchange where
  | noUrl
  | failed
  /-- `version` is what the body yields under `CompatibilityHealth`. -/
  | response (status : ℕ) (version : BodyRead Str)
  deriving DecidableEq, Repr

def compatibilityHealthStatusIsAccepted (status : ℕ) : Bool :=
  [200, 429, 472, 473, 501, 503].contains status

def probeOpenbaoVersion : HealthExchange → Except CachedCompatibilityFailure OpenBaoVersion
  | .noUrl => .error (.probe "health URL could not be built")
  | .failed => .error (.probe "health request could not be completed")
  | .response status version =>
    if !compatibilityHealthStatusIsAccepted status then
      .error (.probe "health endpoint returned an unexpected status")
    else match version with
      | .value text =>
        (parseVersion text).mapError fun _ =>
          .probe "health response contained an invalid stable server version"
      | _ => .error (.probe "health response did not match the expected schema")

def evaluateCompatibilityPolicy (policy : Option OpenBaoCompatibilityPolicy)
    (health : HealthExchange) : CachedCompatibilityResult :=
  match policy with
  | none => .ok .unverified
  | some policy =>
    match policy.immediateReport with
    | some report => .ok report
    | none => do
      let detected ← probeOpenbaoVersion health
      (evaluateDetected policy detected).mapError .policy

/-- The profile that requests under a report are routed by. -/
def routingProfile (report : OpenBaoCompatibilityReport) : Option OpenBaoVersion :=
  match report.profileVersion with
  | some version => some version
  | none => if report.status = .unverified then legacyUnverifiedProfile else none

theorem legacyUnverifiedProfile_eq : legacyUnverifiedProfile = some ⟨2, 6, 3⟩ := by decide

theorem isRoutableProfile_latest {latest : OpenBaoVersion} (h : latestRoutableProfile = some latest) :
    isRoutableProfile latest = true :=
  List.contains_iff_mem.mpr (List.mem_of_getLast? h)

theorem contains_exact (version : OpenBaoVersion) :
    (OpenBaoVersionRequirement.exact version).contains version = true := by
  simp [OpenBaoVersionRequirement.contains, versionInClosedInterval,
    OpenBaoVersionRequirement.minimum, OpenBaoVersionRequirement.maximum]

/-- What an accepted version means for each kind of policy. -/
theorem evaluateDetected_eq_ok {policy : OpenBaoCompatibilityPolicy} {detected : OpenBaoVersion}
    {report : OpenBaoCompatibilityReport} (h : evaluateDetected policy detected = .ok report) :
    (∃ version, policy = .assumed version ∧ report = .assumed version) ∨
      (report = verified policy detected ∧
        (policy = .exact detected ∨ isRoutableProfile detected = true) ∧
        ∀ r, requirement policy = some r → r.contains detected = true) ∨
      ∃ latest, policy = .acknowledgedUnknownNewer ∧ latestRoutableProfile = some latest ∧
        latest < detected ∧ report = acknowledgedUnknownNewer detected latest := by
  cases policy with
  | exact expected =>
    simp only [evaluateDetected, ne_eq, ite_not] at h
    split at h
    · next heq =>
      subst heq
      cases h
      refine .inr (.inl ⟨rfl, .inl rfl, fun r hr => ?_⟩)
      cases hr
      exact contains_exact detected
    · cases h
  | range req =>
    simp only [evaluateDetected] at h
    split at h
    · cases h
    · next hc =>
      split at h
      · cases h
      · next hr =>
        cases h
        refine .inr (.inl ⟨rfl, .inr (by simpa using hr), fun r hr => ?_⟩)
        cases hr
        simpa using hc
  | automaticStrict =>
    simp only [evaluateDetected] at h
    split at h
    · cases h
    · next hr =>
      cases h
      exact .inr (.inl ⟨rfl, .inr (by simpa using hr), nofun⟩)
  | assumed version =>
    cases h
    exact .inl ⟨version, rfl, rfl⟩
  | acknowledgedUnknownNewer =>
    simp only [evaluateDetected] at h
    split at h
    · next hr =>
      cases h
      exact .inr (.inl ⟨rfl, .inr hr, nofun⟩)
    · split at h
      · cases h
      · next latest hl =>
        split at h
        · next hlt =>
          cases h
          exact .inr (.inr ⟨latest, rfl, hl, hlt, rfl⟩)
        · cases h

/-- Where a report comes from: no policy, an assumption, or an evaluated probe. -/
theorem evaluateCompatibilityPolicy_eq_ok {policy : Option OpenBaoCompatibilityPolicy}
    {health : HealthExchange} {report : OpenBaoCompatibilityReport}
    (h : evaluateCompatibilityPolicy policy health = .ok report) :
    (policy = none ∧ report = .unverified) ∨
      (∃ version, policy = some (.assumed version) ∧ report = .assumed version) ∨
      ∃ selected detected, policy = some selected ∧ probeOpenbaoVersion health = .ok detected ∧
        evaluateDetected selected detected = .ok report := by
  cases policy with
  | none =>
    cases h
    exact .inl ⟨rfl, rfl⟩
  | some policy =>
    unfold evaluateCompatibilityPolicy at h
    simp only at h
    split at h
    · next immediate hi =>
      cases h
      cases policy <;> simp [OpenBaoCompatibilityPolicy.immediateReport] at hi
      exact .inr (.inl ⟨_, rfl, hi.symm⟩)
    · obtain ⟨detected, hprobe, he⟩ := bind_eq_ok_iff.mp h
      refine .inr (.inr ⟨policy, detected, rfl, hprobe, ?_⟩)
      cases hv : evaluateDetected policy detected with
      | error e => simp [hv, Except.mapError] at he
      | ok r => simpa [hv, Except.mapError] using he

/-- What the profile that requests are routed by stands for, by the status of the report. -/
def ProfileJustified (policy : Option OpenBaoCompatibilityPolicy) (health : HealthExchange)
    (report : OpenBaoCompatibilityReport) (profile : OpenBaoVersion) : Prop :=
  match report.status with
  | .verified =>
    report.detectedVersion = some profile ∧ probeOpenbaoVersion health = .ok profile ∧
      ∀ r, policy.bind requirement = some r → r.contains profile = true
  | .assumed => policy = some (.assumed profile) ∧ report.detectedVersion = none
  | .acknowledgedUnknownNewer =>
    latestRoutableProfile = some profile ∧ ∃ detected, report.detectedVersion = some detected ∧
      probeOpenbaoVersion health = .ok detected ∧ profile < detected
  | .unverified =>
    policy = none ∧ legacyUnverifiedProfile = some profile ∧ report.detectedVersion = none

theorem routingProfile_justified {policy : Option OpenBaoCompatibilityPolicy}
    {health : HealthExchange} {report : OpenBaoCompatibilityReport} {profile : OpenBaoVersion}
    (h : evaluateCompatibilityPolicy policy health = .ok report)
    (hp : routingProfile report = some profile) :
    ProfileJustified policy health report profile := by
  rcases evaluateCompatibilityPolicy_eq_ok h with
    ⟨rfl, rfl⟩ | ⟨version, rfl, rfl⟩ | ⟨selected, detected, rfl, hprobe, he⟩
  · exact ⟨rfl, hp, rfl⟩
  · cases hp
    exact ⟨rfl, rfl⟩
  · rcases evaluateDetected_eq_ok he with
      ⟨version, rfl, rfl⟩ | ⟨rfl, -, hreq⟩ | ⟨latest, rfl, hl, hlt, rfl⟩
    · cases hp
      exact ⟨rfl, rfl⟩
    · cases hp
      exact ⟨rfl, hprobe, hreq⟩
    · cases hp
      exact ⟨hl, detected, rfl, hprobe, hlt⟩

theorem requireRoutableProfile_eq_ok_iff {version : OpenBaoVersion} :
    requireRoutableProfile version = .ok () ↔ isRoutableProfile version = true := by
  unfold requireRoutableProfile
  split <;> simp_all

/-- A policy that a caller can build never selects a profile outside the inventory. -/
theorem Constructed.routable {policy : OpenBaoCompatibilityPolicy} (hc : Constructed policy)
    {health : HealthExchange} {report : OpenBaoCompatibilityReport}
    (h : evaluateCompatibilityPolicy (some policy) health = .ok report) :
    ∃ profile, routingProfile report = some profile ∧ isRoutableProfile profile = true := by
  have hexact : ∀ version, policy = .exact version ∨ policy = .assumed version →
      isRoutableProfile version = true := by
    intro version hv
    cases hc with
    | exact hp =>
      obtain ⟨_, hr, hp⟩ := bind_eq_ok_iff.mp hp
      cases hp
      rcases hv with hv | hv <;> cases hv
      exact requireRoutableProfile_eq_ok_iff.mp hr
    | range hp =>
      obtain ⟨_, -, hp⟩ := bind_eq_ok_iff.mp hp
      obtain ⟨_, -, hp⟩ := bind_eq_ok_iff.mp hp
      cases hp
      rcases hv with hv | hv <;> cases hv
    | assume hp =>
      obtain ⟨_, hr, hp⟩ := bind_eq_ok_iff.mp hp
      cases hp
      rcases hv with hv | hv <;> cases hv
      exact requireRoutableProfile_eq_ok_iff.mp hr
    | automaticStrict => rcases hv with hv | hv <;> cases hv
    | automaticAllowUnknownNewer => rcases hv with hv | hv <;> cases hv
  rcases evaluateCompatibilityPolicy_eq_ok h with
    ⟨hn, -⟩ | ⟨version, hp, rfl⟩ | ⟨selected, detected, hs, -, he⟩
  · cases hn
  · cases hp
    exact ⟨version, rfl, hexact version (.inr rfl)⟩
  · cases hs
    rcases evaluateDetected_eq_ok he with ⟨version, rfl, rfl⟩ | ⟨rfl, hr, -⟩ | ⟨latest, rfl, hl, -, rfl⟩
    · exact ⟨version, rfl, hexact version (.inr rfl)⟩
    · exact ⟨detected, rfl, hr.elim (fun hp => hexact detected (.inl hp)) id⟩
    · exact ⟨latest, rfl, isRoutableProfile_latest hl⟩

end CompatibilityPolicy
end OpenBao
