import OpenBao.ConsistencyContexts
import OpenBao.Durations
import OpenBao.LoopbackHttp

/-!
# Client configurations

A configuration starts from a base URL and is changed by the public methods, each of which
takes it and gives the changed one or an error. What every configuration satisfies that can
be reached in this way, and which of them a client is built from.
-/

namespace OpenBao.ClientConfigs
open CompatibilityPolicy CompatibilityProbe ConsistencyContexts Durations LoopbackHttp
  PathValidation RegisteredRoutes Utf8Text

def maxResponseBytes : ℕ := 32 * 1024 * 1024
def minResponseBytes : ℕ := 1024
def defaultMaxRequestBytes : ℕ := 8 * 1024 * 1024
def maxRequestBytes : ℕ := 32 * 1024 * 1024
def minRequestBytes : ℕ := 1024
def maxRequestTimeout : Duration := .fromSecs 300
def maxConnectTimeout : Duration := .fromSecs 300
def maxUserAgentBytes : ℕ := 512

/-- An error of the validation or of another part of the crate. -/
inductive SetupError where
  | config (error : ConfigError)
  | other (error : Error)

/-- The URL and TLS libraries as they are compiled in. The last two read a revocation list
and count the lists of a bundle. -/
structure Build where
  parseUrl : Str → Except String Url
  serializeIpv6 : BitVec 128 → Str
  tls12Acknowledged : Bool
  crlFromPem : Bytes → Except Error Unit
  crlsFromPemBundle : Bytes → Except Error ℕ

variable {Certificate Identity : Type}

/-- All fields, above those that the validation reads. -/
structure OpenBaoConfig (Certificate Identity : Type) extends LoopbackHttp.OpenBaoConfig where
  timeout : Duration := .fromSecs 30
  connectTimeout : Duration := .fromSecs 5
  maxRequestBytes : ℕ := defaultMaxRequestBytes
  maxResponseBytes : ℕ := ClientConfigs.maxResponseBytes
  userAgent : Str := "openbao-rust-client".toList
  namespacePath : Option Str := none
  headerMode : HeaderMode := .vaultToken
  rootCertificates : List Certificate := []
  clientIdentity : Option Identity := none
  compatibilityPolicy : Option OpenBaoCompatibilityPolicy := none
  externalPlugins : List ExternalPluginSelection := []
  sensitiveLocalHttpForTests : Bool := false

def validateUserAgent (userAgent : Str) : Except Error Unit :=
  if userAgent = [] then .error (.invalidParameter "user agent must not be empty")
  else if maxUserAgentBytes < byteLen userAgent then
    .error (.invalidParameter "user agent exceeds maximum allowed length")
  else if !isAscii userAgent then
    .error (.invalidParameter "user agent must contain only ASCII characters")
  else if (asBytes userAgent).any fun byte => byte < 0x20 || byte == 0x7f then
    .error (.invalidParameter "user agent must not contain control characters")
  else .ok ()

/-- The check that both timeouts share. -/
def checkTimeout (timeout limit : Duration) (zero tooLong : String) : Except SetupError Unit :=
  if timeout.isZero then .error (.other (.invalidTimeout zero))
  else if limit < timeout then .error (.other (.invalidTimeout tooLong))
  else .ok ()

/-- The check that both body sizes share. -/
def checkBodyLimit (bytes minimum maximum : ℕ) (low high : String) : Except SetupError Unit :=
  if bytes < minimum then .error (.other (.invalidParameter low))
  else if maximum < bytes then .error (.other (.invalidParameter high))
  else .ok ()

namespace OpenBaoConfig

variable (build : Build) (this : OpenBaoConfig Certificate Identity)

def new (baseUrl : Str) : Except SetupError (OpenBaoConfig Certificate Identity) :=
  match build.parseUrl baseUrl with
  | .error message => .error (.config (.invalidBaseUrl message))
  | .ok url =>
    match LoopbackHttp.OpenBaoConfig.new url with
    | .error e => .error (.config e)
    | .ok config => .ok { toOpenBaoConfig := config }

def validate : Except SetupError Unit :=
  (this.toOpenBaoConfig.validate build.serializeIpv6 build.tls12Acknowledged).mapError .config

def allowLocalhostHttp : Except SetupError (OpenBaoConfig Certificate Identity) :=
  let this := { this with httpPolicy := .localhostHttpAllowed }
  this.validate build >>= fun _ => .ok this

def allowSensitiveLocalHttpForTests : Except SetupError (OpenBaoConfig Certificate Identity) :=
  this.allowLocalhostHttp build >>= fun this =>
    .ok { this with sensitiveLocalHttpForTests := true }

def setTimeout (timeout : Duration) : Except SetupError (OpenBaoConfig Certificate Identity) :=
  checkTimeout timeout maxRequestTimeout "request timeout must be non-zero"
    "request timeout exceeds maximum allowed value" >>= fun _ => .ok { this with timeout := timeout }

def setConnectTimeout (timeout : Duration) :
    Except SetupError (OpenBaoConfig Certificate Identity) :=
  checkTimeout timeout maxConnectTimeout "connect timeout must be non-zero"
    "connect timeout exceeds maximum allowed value" >>= fun _ =>
      .ok { this with connectTimeout := timeout }

def setMaxResponseBytes (bytes : ℕ) : Except SetupError (OpenBaoConfig Certificate Identity) :=
  checkBodyLimit bytes minResponseBytes ClientConfigs.maxResponseBytes
    "maximum response size must be at least 1024 bytes"
    "maximum response size cannot exceed 32 MiB" >>= fun _ =>
      .ok { this with maxResponseBytes := bytes }

def setMaxRequestBytes (bytes : ℕ) : Except SetupError (OpenBaoConfig Certificate Identity) :=
  checkBodyLimit bytes minRequestBytes ClientConfigs.maxRequestBytes
    "maximum request size must be at least 1024 bytes"
    "maximum request size cannot exceed 32 MiB" >>= fun _ =>
      .ok { this with maxRequestBytes := bytes }

def setMaxAuthTokenBytes (bytes : ℕ) : Except SetupError (OpenBaoConfig Certificate Identity) :=
  (validateMaxAuthTokenBytes bytes).mapError .config >>= fun _ =>
    .ok { this with maxAuthTokenBytes := bytes }

def setUserAgent (userAgent : Str) : Except SetupError (OpenBaoConfig Certificate Identity) :=
  (validateUserAgent userAgent).mapError .other >>= fun _ => .ok { this with userAgent := userAgent }

/-- The path is kept in its canonical spelling. -/
def setNamespace (path : Str) : Except SetupError (OpenBaoConfig Certificate Identity) :=
  (validateMountPath path).mapError .other >>= fun segments =>
    .ok { this with namespacePath := some (join '/' segments) }

def setHeaderMode (headerMode : HeaderMode) : OpenBaoConfig Certificate Identity :=
  { this with headerMode := headerMode }

def setCompatibilityPolicy (policy : OpenBaoCompatibilityPolicy) :
    OpenBaoConfig Certificate Identity :=
  { this with compatibilityPolicy := some policy }

def externalPlugin (selection : ExternalPluginSelection) :
    Except SetupError (OpenBaoConfig Certificate Identity) :=
  (RegisteredRoutes.externalPlugin this.externalPlugins selection).mapError .other >>=
    fun selections => .ok { this with externalPlugins := selections }

def setMinTlsVersion (version : TlsVersion) : OpenBaoConfig Certificate Identity :=
  { this with minTlsVersion := version }

def addRootCertificate (certificate : Certificate) : OpenBaoConfig Certificate Identity :=
  { this with rootCertificates := this.rootCertificates ++ [certificate] }

def onlyRootCertificates (certificates : List Certificate) :
    Except SetupError (OpenBaoConfig Certificate Identity) :=
  if certificates.isEmpty then
    .error (.config (.invalidTlsConfig
      "at least one root certificate is required when system roots are disabled"))
  else
    .ok { this with rootCertificates := certificates, rootCertificateMode := .onlyConfigured }

/-- What both methods for revocation lists end with. -/
def pushCrlBundle (bundle : Bytes) : Except SetupError (OpenBaoConfig Certificate Identity) :=
  let this := { this with crlPemBundles := this.crlPemBundles ++ [bundle] }
  this.validate build >>= fun _ => .ok this

def addCertificateRevocationListPem (pem : Bytes) :
    Except SetupError (OpenBaoConfig Certificate Identity) :=
  (build.crlFromPem pem).mapError .other >>= fun _ => this.pushCrlBundle build pem

def addCertificateRevocationListPemBundle (pemBundle : Bytes) :
    Except SetupError (OpenBaoConfig Certificate Identity) :=
  (build.crlsFromPemBundle pemBundle).mapError .other >>= fun count =>
    if count = 0 then
      .error (.config (.invalidTlsConfig
        "certificate revocation list bundle must contain at least one CRL"))
    else this.pushCrlBundle build pemBundle

def setClientIdentity (identity : Identity) : OpenBaoConfig Certificate Identity :=
  { this with clientIdentity := some identity }

end OpenBaoConfig

/-- A call of a public method. -/
inductive Call (Certificate Identity : Type) where
  | allowLocalhostHttp
  | allowSensitiveLocalHttpForTests
  | timeout (timeout : Duration)
  | connectTimeout (timeout : Duration)
  | maxResponseBytes (bytes : ℕ)
  | maxRequestBytes (bytes : ℕ)
  | maxAuthTokenBytes (bytes : ℕ)
  | userAgent (userAgent : Str)
  | namespacePath (path : Str)
  | headerMode (headerMode : HeaderMode)
  | compatibilityPolicy (policy : OpenBaoCompatibilityPolicy)
  | externalPlugin (selection : ExternalPluginSelection)
  | minTlsVersion (version : TlsVersion)
  | addRootCertificate (certificate : Certificate)
  | onlyRootCertificates (certificates : List Certificate)
  | addCertificateRevocationListPem (pem : Bytes)
  | addCertificateRevocationListPemBundle (pemBundle : Bytes)
  | clientIdentity (identity : Identity)

def Call.apply (build : Build) (config : OpenBaoConfig Certificate Identity) :
    Call Certificate Identity → Except SetupError (OpenBaoConfig Certificate Identity)
  | .allowLocalhostHttp => config.allowLocalhostHttp build
  | .allowSensitiveLocalHttpForTests => config.allowSensitiveLocalHttpForTests build
  | .timeout duration => config.setTimeout duration
  | .connectTimeout duration => config.setConnectTimeout duration
  | .maxResponseBytes bytes => config.setMaxResponseBytes bytes
  | .maxRequestBytes bytes => config.setMaxRequestBytes bytes
  | .maxAuthTokenBytes bytes => config.setMaxAuthTokenBytes bytes
  | .userAgent text => config.setUserAgent text
  | .namespacePath path => config.setNamespace path
  | .headerMode mode => .ok (config.setHeaderMode mode)
  | .compatibilityPolicy policy => .ok (config.setCompatibilityPolicy policy)
  | .externalPlugin selection => config.externalPlugin selection
  | .minTlsVersion version => .ok (config.setMinTlsVersion version)
  | .addRootCertificate certificate => .ok (config.addRootCertificate certificate)
  | .onlyRootCertificates certificates => config.onlyRootCertificates certificates
  | .addCertificateRevocationListPem pem => config.addCertificateRevocationListPem build pem
  | .addCertificateRevocationListPemBundle bundle =>
    config.addCertificateRevocationListPemBundle build bundle
  | .clientIdentity identity => .ok (config.setClientIdentity identity)

/-- A configuration that a caller can hold: a call that fails leaves nothing, and a call on a
clone leaves the original. -/
inductive Reachable (build : Build) : OpenBaoConfig Certificate Identity → Prop where
  | new {baseUrl config} (h : OpenBaoConfig.new build baseUrl = .ok config) :
      Reachable build config
  | call {config next} (hconfig : Reachable build config) (call : Call Certificate Identity)
      (h : call.apply build config = .ok next) : Reachable build next

/-- The base URL is one that requests may go to. -/
def TransportAllowed (build : Build) (config : OpenBaoConfig Certificate Identity) : Prop :=
  config.baseUrl.scheme = "https".toList ∨
    config.baseUrl.scheme = "http".toList ∧ config.httpPolicy = .localhostHttpAllowed ∧
      isLoopbackUrl build.serializeIpv6 config.baseUrl = true

/-- What holds of every configuration. -/
structure Valid (build : Build) (config : OpenBaoConfig Certificate Identity) : Prop where
  components : validateBaseUrlComponents config.baseUrl = .ok ()
  timeout : config.timeout.isZero = false ∧ config.timeout ≤ maxRequestTimeout
  connectTimeout : config.connectTimeout.isZero = false ∧ config.connectTimeout ≤ maxConnectTimeout
  requestBytes : minRequestBytes ≤ config.maxRequestBytes ∧
    config.maxRequestBytes ≤ ClientConfigs.maxRequestBytes
  responseBytes : minResponseBytes ≤ config.maxResponseBytes ∧
    config.maxResponseBytes ≤ ClientConfigs.maxResponseBytes
  tokenBytes : validateMaxAuthTokenBytes config.maxAuthTokenBytes = .ok ()
  userAgent : validateUserAgent config.userAgent = .ok ()
  namespacePath : ∀ path, config.namespacePath = some path →
    ∃ segments, validateMountPath path = .ok segments ∧ path = join '/' segments
  plugins : Configured config.externalPlugins
  roots : config.rootCertificateMode = .onlyConfigured → config.rootCertificates ≠ []
  revocation : config.crlPemBundles = [] ∨ config.rootCertificateMode = .onlyConfigured
  optIn : config.httpPolicy = .localhostHttpAllowed → TransportAllowed build config
  testOnly : config.sensitiveLocalHttpForTests = true →
    config.httpPolicy = .localhostHttpAllowed

section Checks

variable {build : Build} {config next : OpenBaoConfig Certificate Identity}

theorem mapError_eq_ok_iff {ε ε' α : Type} {f : ε → ε'} {x : Except ε α} {a : α} :
    x.mapError f = .ok a ↔ x = .ok a := by
  cases x <;> simp [Except.mapError]

theorem validateTransport_eq_ok_iff (config : LoopbackHttp.OpenBaoConfig)
    (serializeIpv6 : BitVec 128 → Str) :
    config.validateTransport serializeIpv6 = .ok () ↔
      (config.crlPemBundles = [] ∨ config.rootCertificateMode = .onlyConfigured) ∧
        (config.baseUrl.scheme = "https".toList ∨
          config.baseUrl.scheme = "http".toList ∧ config.httpPolicy = .localhostHttpAllowed ∧
            isLoopbackUrl serializeIpv6 config.baseUrl = true) := by
  have hrevocation : (!config.crlPemBundles.isEmpty &&
      config.rootCertificateMode ≠ .onlyConfigured) = true ↔
      ¬ (config.crlPemBundles = [] ∨ config.rootCertificateMode = .onlyConfigured) := by
    simp
  have hschemes : "https".toList ≠ "http".toList := by decide
  unfold LoopbackHttp.OpenBaoConfig.validateTransport
  split
  · next h => exact iff_of_false (by intro h; cases h) fun hok => hrevocation.mp h hok.1
  · next h =>
    rw [hrevocation, not_not] at h
    rw [and_iff_right h]
    split
    · next hhttps => exact iff_of_true rfl (.inl hhttps)
    · next hhttps =>
      rw [or_iff_right hhttps]
      split
      · next hhttp =>
        rw [and_iff_right hhttp]
        split
        · next hloop => exact iff_of_true rfl hloop
        · next hloop => exact iff_of_false (by intro h; cases h) hloop
      · next hhttp => exact iff_of_false (by intro h; cases h) fun h => hhttp h.1

theorem validate_eq_ok_iff : config.validate build = .ok () ↔
    validateBaseUrlComponents config.baseUrl = .ok () ∧
      validateMinTlsVersion build.tls12Acknowledged config.minTlsVersion = .ok () ∧
      validateMaxAuthTokenBytes config.maxAuthTokenBytes = .ok () ∧
      (config.crlPemBundles = [] ∨ config.rootCertificateMode = .onlyConfigured) ∧
      TransportAllowed build config := by
  rw [OpenBaoConfig.validate, mapError_eq_ok_iff, LoopbackHttp.OpenBaoConfig.validate,
    bind_unit_eq_ok_iff, bind_unit_eq_ok_iff, bind_unit_eq_ok_iff, validateTransport_eq_ok_iff]
  exact Iff.rfl

theorem checkTimeout_eq_ok {timeout limit : Duration} {zero tooLong : String}
    (h : checkTimeout timeout limit zero tooLong = .ok ()) :
    timeout.isZero = false ∧ timeout ≤ limit := by
  unfold checkTimeout at h
  split at h
  · cases h
  · next hzero =>
    split at h
    · cases h
    · next hlong => exact ⟨Bool.eq_false_iff.mpr hzero, not_lt.mp hlong⟩

theorem checkBodyLimit_eq_ok {bytes minimum maximum : ℕ} {low high : String}
    (h : checkBodyLimit bytes minimum maximum low high = .ok ()) :
    minimum ≤ bytes ∧ bytes ≤ maximum := by
  unfold checkBodyLimit at h
  split at h
  · cases h
  · next hlow =>
    split at h
    · cases h
    · next hhigh => exact ⟨not_lt.mp hlow, not_lt.mp hhigh⟩

/-- The opt-in is kept only behind a validation. -/
theorem allowLocalhostHttp_eq_ok (h : config.allowLocalhostHttp build = .ok next) :
    next = { config with httpPolicy := .localhostHttpAllowed } ∧ TransportAllowed build next := by
  obtain ⟨hvalidate, hnext⟩ := bind_unit_eq_ok_iff.mp h
  obtain rfl := Except.ok.inj hnext
  exact ⟨rfl, (validate_eq_ok_iff.mp hvalidate).2.2.2.2⟩

/-- So is a revocation list. -/
theorem pushCrlBundle_eq_ok {bundle : Bytes} (h : config.pushCrlBundle build bundle = .ok next) :
    next = { config with crlPemBundles := config.crlPemBundles ++ [bundle] } ∧
      (next.crlPemBundles = [] ∨ next.rootCertificateMode = .onlyConfigured) := by
  obtain ⟨hvalidate, hnext⟩ := bind_unit_eq_ok_iff.mp h
  obtain rfl := Except.ok.inj hnext
  exact ⟨rfl, (validate_eq_ok_iff.mp hvalidate).2.2.2.1⟩

end Checks

section Runs

variable {build : Build} {config next : OpenBaoConfig Certificate Identity}

theorem validateUserAgent_default : validateUserAgent "openbao-rust-client".toList = .ok () := by
  decide +kernel

theorem valid_new {baseUrl : Str} (h : OpenBaoConfig.new build baseUrl = .ok config) :
    Valid build config := by
  unfold OpenBaoConfig.new at h
  split at h
  · cases h
  · next url hurl =>
    split at h
    · cases h
    · next checked hchecked =>
      obtain rfl := Except.ok.inj h
      obtain ⟨hcomponents, hnew⟩ := bind_unit_eq_ok_iff.mp hchecked
      obtain rfl := Except.ok.inj hnew
      exact
        { components := hcomponents
          timeout := (by decide : (Duration.fromSecs 30).isZero = false ∧
            Duration.fromSecs 30 ≤ maxRequestTimeout)
          connectTimeout := (by decide : (Duration.fromSecs 5).isZero = false ∧
            Duration.fromSecs 5 ≤ maxConnectTimeout)
          requestBytes := (by decide : minRequestBytes ≤ defaultMaxRequestBytes ∧
            defaultMaxRequestBytes ≤ ClientConfigs.maxRequestBytes)
          responseBytes := (by decide : minResponseBytes ≤ ClientConfigs.maxResponseBytes ∧
            ClientConfigs.maxResponseBytes ≤ ClientConfigs.maxResponseBytes)
          tokenBytes := rfl
          userAgent := validateUserAgent_default
          namespacePath := by simp
          plugins := .none
          roots := by simp
          revocation := .inl rfl
          optIn := by simp
          testOnly := by simp }

/-- The opt-in as one step of a run. -/
theorem Valid.allowLocalhostHttp (hvalid : Valid build config)
    (h : config.allowLocalhostHttp build = .ok next) : Valid build next := by
  obtain ⟨rfl, htransport⟩ := allowLocalhostHttp_eq_ok h
  exact { hvalid with optIn := fun _ => htransport, testOnly := fun _ => rfl }

theorem Valid.pushCrlBundle {bundle : Bytes} (hvalid : Valid build config)
    (h : config.pushCrlBundle build bundle = .ok next) : Valid build next := by
  obtain ⟨rfl, hrevocation⟩ := pushCrlBundle_eq_ok h
  exact { hvalid with revocation := hrevocation }

/-- Every call keeps what holds of a configuration. -/
theorem Valid.apply (hvalid : Valid build config) {call : Call Certificate Identity}
    (h : call.apply build config = .ok next) : Valid build next := by
  cases call with
  | allowLocalhostHttp => exact hvalid.allowLocalhostHttp h
  | allowSensitiveLocalHttpForTests =>
    obtain ⟨allowed, hallowed, hnext⟩ := bind_eq_ok_iff.mp h
    obtain rfl := Except.ok.inj hnext
    have hpolicy : allowed.httpPolicy = .localhostHttpAllowed := by
      rw [(allowLocalhostHttp_eq_ok hallowed).1]
    exact { hvalid.allowLocalhostHttp hallowed with testOnly := fun _ => hpolicy }
  | timeout duration =>
    obtain ⟨hcheck, hnext⟩ := bind_unit_eq_ok_iff.mp h
    obtain rfl := Except.ok.inj hnext
    exact { hvalid with timeout := checkTimeout_eq_ok hcheck }
  | connectTimeout duration =>
    obtain ⟨hcheck, hnext⟩ := bind_unit_eq_ok_iff.mp h
    obtain rfl := Except.ok.inj hnext
    exact { hvalid with connectTimeout := checkTimeout_eq_ok hcheck }
  | maxResponseBytes bytes =>
    obtain ⟨hcheck, hnext⟩ := bind_unit_eq_ok_iff.mp h
    obtain rfl := Except.ok.inj hnext
    exact { hvalid with responseBytes := checkBodyLimit_eq_ok hcheck }
  | maxRequestBytes bytes =>
    obtain ⟨hcheck, hnext⟩ := bind_unit_eq_ok_iff.mp h
    obtain rfl := Except.ok.inj hnext
    exact { hvalid with requestBytes := checkBodyLimit_eq_ok hcheck }
  | maxAuthTokenBytes bytes =>
    obtain ⟨hcheck, hnext⟩ := bind_unit_eq_ok_iff.mp h
    obtain rfl := Except.ok.inj hnext
    exact { hvalid with tokenBytes := mapError_eq_ok_iff.mp hcheck }
  | userAgent text =>
    obtain ⟨hcheck, hnext⟩ := bind_unit_eq_ok_iff.mp h
    obtain rfl := Except.ok.inj hnext
    exact { hvalid with userAgent := mapError_eq_ok_iff.mp hcheck }
  | namespacePath path =>
    obtain ⟨segments, hcheck, hnext⟩ := bind_eq_ok_iff.mp h
    obtain rfl := Except.ok.inj hnext
    refine { hvalid with namespacePath := fun path' hpath => ?_ }
    obtain rfl := Option.some.inj hpath
    exact ⟨segments, validateMountPath_idem (mapError_eq_ok_iff.mp hcheck), rfl⟩
  | headerMode mode =>
    obtain rfl := Except.ok.inj h
    exact { hvalid with }
  | compatibilityPolicy policy =>
    obtain rfl := Except.ok.inj h
    exact { hvalid with }
  | externalPlugin selection =>
    obtain ⟨selections, hcheck, hnext⟩ := bind_eq_ok_iff.mp h
    obtain rfl := Except.ok.inj hnext
    exact { hvalid with plugins := .externalPlugin hvalid.plugins (mapError_eq_ok_iff.mp hcheck) }
  | minTlsVersion version =>
    obtain rfl := Except.ok.inj h
    exact { hvalid with }
  | addRootCertificate certificate =>
    obtain rfl := Except.ok.inj h
    exact { hvalid with roots := fun _ => List.concat_ne_nil certificate config.rootCertificates }
  | onlyRootCertificates certificates =>
    change config.onlyRootCertificates certificates = .ok next at h
    unfold OpenBaoConfig.onlyRootCertificates at h
    split at h
    · cases h
    · next hsome =>
      obtain rfl := Except.ok.inj h
      rw [List.isEmpty_iff] at hsome
      exact { hvalid with roots := fun _ => hsome, revocation := .inr rfl }
  | addCertificateRevocationListPem pem =>
    obtain ⟨-, hpush⟩ := bind_unit_eq_ok_iff.mp h
    exact hvalid.pushCrlBundle hpush
  | addCertificateRevocationListPemBundle bundle =>
    obtain ⟨count, -, hpush⟩ := bind_eq_ok_iff.mp h
    split at hpush
    · cases hpush
    · exact hvalid.pushCrlBundle hpush
  | clientIdentity identity =>
    obtain rfl := Except.ok.inj h
    exact { hvalid with }

theorem Reachable.valid (h : Reachable build config) : Valid build config := by
  induction h with
  | new hnew => exact valid_new hnew
  | call _ call hcall ih => exact ih.apply hcall

/-- A client is built from a configuration unless its TLS version or its scheme is refused:
no sequence of calls leaves another reason. -/
theorem Valid.validate_iff (hvalid : Valid build config) : config.validate build = .ok () ↔
    validateMinTlsVersion build.tls12Acknowledged config.minTlsVersion = .ok () ∧
      (config.baseUrl.scheme = "https".toList ∨ config.httpPolicy = .localhostHttpAllowed) := by
  rw [validate_eq_ok_iff]
  constructor
  · rintro ⟨-, htls, -, -, htransport⟩
    exact ⟨htls, htransport.imp id fun h => h.2.1⟩
  · rintro ⟨htls, htransport⟩
    exact ⟨hvalid.components, htls, hvalid.tokenBytes, hvalid.revocation,
      htransport.elim .inl hvalid.optIn⟩

theorem setNamespace_of_ok {path : Str} {segments : List Str}
    (h : validateMountPath path = .ok segments) :
    config.setNamespace path = .ok { config with namespacePath := some (join '/' segments) } := by
  rw [OpenBaoConfig.setNamespace, h]
  rfl

theorem Valid.setNamespace_eq (hvalid : Valid build config) {path : Str}
    (h : config.namespacePath = some path) : config.setNamespace path = .ok config := by
  obtain ⟨segments, hpath, hjoin⟩ := hvalid.namespacePath path h
  rw [setNamespace_of_ok hpath, ← hjoin, ← h]

theorem Configured.length_le {selections : List ExternalPluginSelection}
    (h : Configured selections) : selections.length ≤ 32 := by
  cases h with
  | none => exact Nat.zero_le _
  | @externalPlugin selections selection next hc h =>
    unfold RegisteredRoutes.externalPlugin at h
    split at h
    · cases h
    · next hroom =>
      obtain rfl := Except.ok.inj h
      rw [Bool.or_eq_true, not_or, decide_eq_true_eq] at hroom
      rw [List.length_append, List.length_singleton]
      omega

/-- Whatever public calls led to a configuration: its limits are kept, its plugins are at most
32 at distinct mounts, its revocation lists come with configured roots, its local HTTP stays
on loopback addresses and its namespace is canonical, so that setting it again changes
nothing. A client is refused only for its TLS version or its scheme. -/
theorem reachable_config (h : Reachable build config) :
    Valid build config ∧
      (config.externalPlugins.length ≤ 32 ∧
        config.externalPlugins.Pairwise fun a b => a.sameMount b = false) ∧
      (∀ path, config.namespacePath = some path → config.setNamespace path = .ok config) ∧
      (config.validate build = .ok () ↔
        validateMinTlsVersion build.tls12Acknowledged config.minTlsVersion = .ok () ∧
          (config.baseUrl.scheme = "https".toList ∨ config.httpPolicy = .localhostHttpAllowed)) :=
  ⟨h.valid, ⟨Configured.length_le h.valid.plugins, h.valid.plugins.pairwise⟩,
    fun _ hpath => h.valid.setNamespace_eq hpath, h.valid.validate_iff⟩

end Runs

/-- The addresses of the examples. -/
def serverUrl : Url := { scheme := "https".toList, host := some (.ipv4 0x0a000001) }
def loopbackUrl : Url := { scheme := "http".toList, host := some (.ipv4 0x7f000001) }
def secureLoopbackUrl : Url := { loopbackUrl with scheme := "https".toList }

/-- The libraries on the texts of these addresses; no text of an example is a revocation list. -/
def exampleBuild : Build where
  parseUrl text :=
    if text = "https://10.0.0.1".toList then .ok serverUrl
    else if text = "http://127.0.0.1".toList then .ok loopbackUrl
    else if text = "https://127.0.0.1".toList then .ok secureLoopbackUrl
    else .error "relative URL without a base"
  serializeIpv6 _ := "::1".toList
  tls12Acknowledged := false
  crlFromPem _ := .error (.transport "request failed before an OpenBao response was received")
  crlsFromPemBundle _ := .ok 0

/-- Its own roots and a namespace that was not spelled canonically. -/
def teamConfig : OpenBaoConfig Unit Unit where
  baseUrl := serverUrl
  rootCertificates := [()]
  rootCertificateMode := .onlyConfigured
  namespacePath := some "team/a".toList

theorem reachable_teamConfig : Reachable exampleBuild teamConfig := by
  have hpath : validateMountPath "/team/a/".toList = .ok ["team".toList, "a".toList] := by
    decide +kernel
  have hjoin : join '/' ["team".toList, "a".toList] = "team/a".toList := by decide +kernel
  have hserver : OpenBaoConfig.new exampleBuild "https://10.0.0.1".toList =
      .ok ({ baseUrl := serverUrl } : OpenBaoConfig Unit Unit) := rfl
  have hroots : Reachable exampleBuild { teamConfig with namespacePath := none } :=
    .call (.new hserver) (.onlyRootCertificates [()]) rfl
  have hset := @setNamespace_of_ok _ _ { teamConfig with namespacePath := none } _ _ hpath
  rw [hjoin] at hset
  exact .call hroots (.namespacePath "/team/a/".toList) hset

theorem reachable_config_team :
    teamConfig.setNamespace "team/a".toList = .ok teamConfig ∧
      teamConfig.validate exampleBuild = .ok () := by
  obtain ⟨-, -, hspace, hvalidate⟩ := reachable_config reachable_teamConfig
  exact ⟨hspace _ rfl, hvalidate.mpr ⟨rfl, .inl rfl⟩⟩

end OpenBao.ClientConfigs
