import OpenBao.ClientErrors
import OpenBao.IpAddresses
import OpenBao.Utf8Text

/-!
# Plain HTTP to loopback hosts

A configuration may allow plain HTTP for numeric loopback addresses. The host is taken from
the text that the URL has for it and read back as an address, and the text of an IPv6 host
stands in brackets.
-/

namespace OpenBao.LoopbackHttp
open IpAddresses Utf8Text

/-- A host name, as URLs of `http` have it: no colon, and no number as its last label. -/
structure DomainName where
  text : Str
  noColon : ':' ∉ text
  noNumber : ∀ front last, text = front ++ '.' :: last →
    ¬ (last ≠ [] ∧ ∀ c ∈ last, isDigitOf 10 c = true)

def localhost : DomainName where
  text := "localhost".toList
  noColon := by decide
  noNumber := by
    intro front last hsplit
    have hdot : '.' ∈ "localhost".toList := hsplit ▸ List.mem_append_cons_self
    exact absurd hdot (by decide)

inductive Host where
  | domain (name : DomainName)
  | ipv4 (address : BitVec 32)
  | ipv6 (address : BitVec 128)

/-- The parts of a parsed URL that the client reads. -/
structure Url where
  scheme : Str
  username : Str := []
  password : Option Str := none
  host : Option Host
  path : Str := ['/']
  query : Option Str := none
  fragment : Option Str := none

inductive HttpPolicy where
  | httpsOnly | localhostHttpAllowed
  deriving DecidableEq

inductive TlsVersion where
  | tls10 | tls11 | tls12 | tls13
  deriving DecidableEq

inductive RootCertificateMode where
  | mergeWithSystem | onlyConfigured
  deriving DecidableEq

def defaultMaxAuthTokenBytes : ℕ := 16 * 1024
def absoluteMaxAuthTokenBytes : ℕ := 1024 * 1024

/-- The fields that the validation reads. -/
structure OpenBaoConfig where
  baseUrl : Url
  maxAuthTokenBytes : ℕ := defaultMaxAuthTokenBytes
  httpPolicy : HttpPolicy := .httpsOnly
  minTlsVersion : TlsVersion := .tls13
  rootCertificateMode : RootCertificateMode := .mergeWithSystem
  crlPemBundles : List Bytes := []

inductive ConfigError where
  | invalidBaseUrl (message : String)
  | invalidTlsConfig (message : String)
  | invalidParameter (message : String)

section Validation

-- How the URL crate writes an IPv6 address, and whether TLS 1.2 is compiled in.
variable (serializeIpv6 : BitVec 128 → Str) (tls12Acknowledged : Bool)

/-- `Url::host_str`. -/
def Host.text : Host → Str
  | domain name => name.text
  | ipv4 address => showIpv4 address
  | ipv6 address => '[' :: serializeIpv6 address ++ [']']

def isLoopbackUrl (url : Url) : Bool :=
  match url.host with
  | some host => (parseIpAddr (host.text serializeIpv6)).any IpAddr.isLoopback
  | none => false

def validateBaseUrlComponents (url : Url) : Except ConfigError Unit :=
  if !url.username.isEmpty || url.password.isSome then
    .error (.invalidBaseUrl "base URL must not contain user credentials")
  else if url.query.isSome || url.fragment.isSome then
    .error (.invalidBaseUrl "base URL must not contain a query or fragment")
  else if !(url.path.isEmpty || url.path == ['/']) then
    .error (.invalidBaseUrl "base URL must not contain an application path")
  else .ok ()

def validateMinTlsVersion (version : TlsVersion) : Except ConfigError Unit :=
  if version = .tls10 ∨ version = .tls11 then
    .error (.invalidTlsConfig "TLS versions below 1.2 are not supported by this crate")
  else if !tls12Acknowledged && version = .tls12 then
    .error (.invalidTlsConfig "TLS 1.2 requires the tls12-acknowledged feature")
  else .ok ()

def validateMaxAuthTokenBytes (bytes : ℕ) : Except ConfigError Unit :=
  if ¬ (1 ≤ bytes ∧ bytes ≤ absoluteMaxAuthTokenBytes) then
    .error (.invalidParameter "authentication token limit must be between 1 byte and 1 MiB")
  else .ok ()

namespace OpenBaoConfig

/-- The certificate check and the scheme, behind the other checks. -/
def validateTransport (this : OpenBaoConfig) : Except ConfigError Unit :=
  if !this.crlPemBundles.isEmpty && this.rootCertificateMode ≠ .onlyConfigured then
    .error (.invalidTlsConfig "certificate revocation lists require only_root_certificates")
  else if this.baseUrl.scheme = "https".toList then .ok ()
  else if this.baseUrl.scheme = "http".toList then
    if this.httpPolicy = .localhostHttpAllowed ∧ isLoopbackUrl serializeIpv6 this.baseUrl = true then
      .ok ()
    else .error (.invalidBaseUrl
      "plain HTTP is only allowed for explicit numeric loopback development")
  else .error (.invalidBaseUrl
    ("unsupported URL scheme `" ++ String.ofList this.baseUrl.scheme ++ "`"))

def validate (this : OpenBaoConfig) : Except ConfigError Unit :=
  validateBaseUrlComponents this.baseUrl >>= fun _ =>
    validateMinTlsVersion tls12Acknowledged this.minTlsVersion >>= fun _ =>
      validateMaxAuthTokenBytes this.maxAuthTokenBytes >>= fun _ =>
        this.validateTransport serializeIpv6

/-- `OpenBaoConfig::new` on a URL that was parsed. -/
def new (url : Url) : Except ConfigError OpenBaoConfig :=
  validateBaseUrlComponents url >>= fun _ => .ok { baseUrl := url }

/-- The configuration after the opt-in. -/
def optedIn (this : OpenBaoConfig) : OpenBaoConfig :=
  { this with httpPolicy := .localhostHttpAllowed }

def allowLocalhostHttp (this : OpenBaoConfig) : Except ConfigError OpenBaoConfig :=
  this.optedIn.validate serializeIpv6 tls12Acknowledged >>= fun _ => .ok this.optedIn

end OpenBaoConfig

/-- The documented hosts: `127.0.0.0/8` and `::1`. -/
def LoopbackHost : Option Host → Prop
  | some (.ipv4 address) => 127 * 2 ^ 24 ≤ address.toNat ∧ address.toNat < 128 * 2 ^ 24
  | some (.ipv6 address) => address = 1
  | _ => False

/-- An `http` URL without credentials, query, fragment and application path. -/
structure PlainBase (url : Url) : Prop where
  scheme : url.scheme = "http".toList
  components : validateBaseUrlComponents url = .ok ()

/-- The settings beside the URL are accepted. -/
structure AcceptedSettings (config : OpenBaoConfig) : Prop where
  tls : validateMinTlsVersion tls12Acknowledged config.minTlsVersion = .ok ()
  token : validateMaxAuthTokenBytes config.maxAuthTokenBytes = .ok ()
  revocation : config.crlPemBundles = [] ∨ config.rootCertificateMode = .onlyConfigured

variable {serializeIpv6 : BitVec 128 → Str} {tls12Acknowledged : Bool}
variable {config : OpenBaoConfig} {url : Url}

/-- A new configuration starts with accepted settings. -/
theorem new_accepted (h : OpenBaoConfig.new url = .ok config) :
    config.baseUrl = url ∧ validateBaseUrlComponents url = .ok () ∧
      AcceptedSettings tls12Acknowledged config := by
  obtain ⟨_, hcomponents, hconfig⟩ := bind_eq_ok_iff.mp h
  obtain rfl := Except.ok.inj hconfig
  exact ⟨rfl, hcomponents, by cases tls12Acknowledged <;> rfl, rfl, .inl rfl⟩

/-! ## What is read of a host -/

theorem parseIpAddr_domain (name : DomainName) : parseIpAddr name.text = none := by
  cases h : parseIpAddr name.text with
  | none => rfl
  | some address =>
    rcases parseIpAddr_shape h with hcolon | ⟨front, last, htext, hlast⟩
    · exact absurd hcolon name.noColon
    · exact absurd hlast (name.noNumber front last htext)

/-- No address begins with a bracket. -/
theorem parseIpAddr_bracketed (text : Str) : parseIpAddr ('[' :: text) = none := by
  cases h : parseIpAddr ('[' :: text) with
  | none => rfl
  | some address =>
    have hbracket := isAddressChar_of_parseIpAddr h '[' List.mem_cons_self
    exact absurd hbracket (by decide)

/-- Only IPv4 hosts are recognized. -/
theorem isLoopbackUrl_iff : isLoopbackUrl serializeIpv6 url = true ↔
    ∃ address, url.host = some (.ipv4 address) ∧ LoopbackHost url.host := by
  unfold isLoopbackUrl
  cases url.host with
  | none => exact iff_of_false (fun h => nomatch h) fun ⟨_, h, _⟩ => nomatch h
  | some host =>
    cases host with
    | domain name =>
      change (parseIpAddr name.text).any IpAddr.isLoopback = true ↔ _
      rw [parseIpAddr_domain]
      exact iff_of_false (fun h => nomatch h) fun ⟨_, h, _⟩ => nomatch h
    | ipv6 address =>
      change (parseIpAddr ('[' :: (serializeIpv6 address ++ [']']))).any IpAddr.isLoopback = true ↔ _
      rw [parseIpAddr_bracketed]
      exact iff_of_false (fun h => nomatch h) fun ⟨_, h, _⟩ => nomatch h
    | ipv4 address =>
      change (parseIpAddr (showIpv4 address)).any IpAddr.isLoopback = true ↔ _
      rw [parseIpAddr_showIpv4, Option.any_some, IpAddr.isLoopback, beq_iff_eq]
      constructor
      · intro h
        refine ⟨address, rfl, ?_⟩
        rw [LoopbackHost]
        omega
      · rintro ⟨-, -, h⟩
        rw [LoopbackHost] at h
        omega

example : isLoopbackUrl (fun _ => "::1".toList)
    ⟨"http".toList, [], none, some (.domain localhost), ['/'], none, none⟩ = false := by
  decide +kernel

theorem validate_eq_ok_iff (hurl : PlainBase config.baseUrl)
    (hsettings : AcceptedSettings tls12Acknowledged config) :
    config.validate serializeIpv6 tls12Acknowledged = .ok () ↔
      config.httpPolicy = .localhostHttpAllowed ∧
        isLoopbackUrl serializeIpv6 config.baseUrl = true := by
  have hrevocation : ¬ (!config.crlPemBundles.isEmpty &&
      config.rootCertificateMode ≠ .onlyConfigured) = true := by
    rcases hsettings.revocation with h | h
    · simp [h]
    · simp [h]
  have htransport : config.validate serializeIpv6 tls12Acknowledged =
      config.validateTransport serializeIpv6 := by
    rw [OpenBaoConfig.validate, hurl.components, hsettings.tls, hsettings.token]
    rfl
  rw [htransport, OpenBaoConfig.validateTransport, if_neg hrevocation, hurl.scheme,
    if_neg (by decide), if_pos rfl]
  split_ifs with h
  · exact iff_of_true rfl h
  · exact iff_of_false (fun h => nomatch h) h

/-- The opt-in and the validation behind it accept exactly the documented hosts, on every host
but the IPv6 loopback address: that one is documented and refused. -/
theorem allowLocalhostHttp_exact_iff (hurl : PlainBase config.baseUrl)
    (hsettings : AcceptedSettings tls12Acknowledged config) :
    (((∃ allowed, config.allowLocalhostHttp serializeIpv6 tls12Acknowledged = .ok allowed) ↔
        LoopbackHost config.baseUrl.host) ∧
      (config.optedIn.validate serializeIpv6 tls12Acknowledged = .ok () ↔
        LoopbackHost config.baseUrl.host)) ↔
      config.baseUrl.host ≠ some (.ipv6 1) := by
  have hvalidate : config.optedIn.validate serializeIpv6 tls12Acknowledged = .ok () ↔
      ∃ address, config.baseUrl.host = some (.ipv4 address) ∧
        LoopbackHost config.baseUrl.host := by
    have hsettings' : AcceptedSettings tls12Acknowledged config.optedIn :=
      ⟨hsettings.tls, hsettings.token, hsettings.revocation⟩
    have hurl' : PlainBase config.optedIn.baseUrl := hurl
    rw [validate_eq_ok_iff hurl' hsettings']
    exact (and_iff_right rfl).trans isLoopbackUrl_iff
  have hallow : (∃ allowed, config.allowLocalhostHttp serializeIpv6 tls12Acknowledged =
      .ok allowed) ↔ config.optedIn.validate serializeIpv6 tls12Acknowledged = .ok () := by
    unfold OpenBaoConfig.allowLocalhostHttp
    cases config.optedIn.validate serializeIpv6 tls12Acknowledged with
    | ok _ => exact iff_of_true ⟨_, rfl⟩ rfl
    | error e => exact iff_of_false (fun ⟨_, h⟩ => nomatch h) fun h => nomatch h
  rw [hallow, hvalidate, and_self]
  constructor
  · intro hexact hhost
    obtain ⟨address, hipv4, -⟩ := hexact.mpr (by rw [hhost, LoopbackHost])
    rw [hhost] at hipv4
    cases hipv4
  · intro hhost
    refine ⟨fun ⟨_, _, hloopback⟩ => hloopback, fun hloopback => ?_⟩
    match hconfig : config.baseUrl.host, hloopback with
    | some (.ipv4 address), hloopback => exact ⟨address, rfl, hloopback⟩
    | some (.ipv6 address), hloopback =>
      rw [LoopbackHost] at hloopback
      rw [hconfig, hloopback] at hhost
      exact absurd rfl hhost

end Validation

/-- A configuration for a host. -/
def hostConfig (host : Host) : OpenBaoConfig :=
  { baseUrl := { scheme := "http".toList, host := some host } }

theorem allowLocalhostHttp_exact_loopback :
    ((∃ allowed, (hostConfig (.ipv4 0x7f000002)).allowLocalhostHttp (fun _ => "::1".toList) false =
        .ok allowed) ↔ LoopbackHost (some (.ipv4 0x7f000002))) ∧
      ((hostConfig (.ipv4 0x7f000002)).optedIn.validate (fun _ => "::1".toList) false = .ok () ↔
        LoopbackHost (some (.ipv4 0x7f000002))) :=
  (@allowLocalhostHttp_exact_iff (fun _ => "::1".toList) false (hostConfig (.ipv4 0x7f000002))
    ⟨rfl, rfl⟩ ⟨rfl, rfl, .inl rfl⟩).mpr fun h => nomatch h

/-- `http://[::1]` is refused, although its host is a documented one. -/
theorem allowLocalhostHttp_refuses_ipv6 :
    LoopbackHost (some (.ipv6 1)) ∧
      ¬ ∃ allowed, (hostConfig (.ipv6 1)).allowLocalhostHttp (fun _ => "::1".toList) false =
        .ok allowed := by
  refine ⟨rfl, ?_⟩
  rintro ⟨allowed, h⟩
  have hread : isLoopbackUrl (fun _ => "::1".toList) (hostConfig (.ipv6 1)).optedIn.baseUrl =
      false := by
    decide +kernel
  obtain ⟨_, hvalid, -⟩ := bind_eq_ok_iff.mp h
  have hloopback := ((@validate_eq_ok_iff (fun _ => "::1".toList) false
    (hostConfig (.ipv6 1)).optedIn ⟨rfl, rfl⟩ ⟨rfl, rfl, .inl rfl⟩).mp hvalid).2
  rw [hread] at hloopback
  cases hloopback

end OpenBao.LoopbackHttp
