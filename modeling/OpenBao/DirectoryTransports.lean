import OpenBao.ClientErrors
import OpenBao.Utf8Text

/-!
# Transports to directories

Three configurations tell the server which directory to ask and how to reach it: of the LDAP login,
of the Kerberos login and of the LDAP engine. A certificate that is not verified, or a connection
in clear, is only accepted by a build that acknowledges it and for a configuration that holds no
credentials.
-/

namespace OpenBao.DirectoryTransports
open Utf8Text

def maxExternalEndpointBytes : ℕ := 4 * 1024

/-- What the URL library reads from an address. -/
structure ParsedUrl where
  scheme : Str
  host : Option Str
  port : Option ℕ
  username : Str
  password : Option Str
  fragment : Option Str
  deriving DecidableEq, Repr

def ldap : Str := ['l', 'd', 'a', 'p']

def ldaps : Str := ['l', 'd', 'a', 'p', 's']

section Checks

variable (parse : Str → Option ParsedUrl)

def schemeIsSafe (usesStarttls requireEncryptedTransport : Bool) (scheme : Str) : Bool :=
  if usesStarttls then scheme == ldap
  else if requireEncryptedTransport then scheme == ldaps
  else scheme == ldap || scheme == ldaps

/-- The loop over the pieces of the list, and whether one of them was an address. -/
def visitUrls (usesStarttls requireEncryptedTransport : Bool) (label : String) :
    Bool → List Str → Except Error Bool
  | found, [] => .ok found
  | found, value :: values =>
    if (trim value).isEmpty then visitUrls usesStarttls requireEncryptedTransport label found values
    else
      match parse (trim value) with
      | none => .error (.invalidParameter (label ++ " URL must be an absolute LDAP URL"))
      | some endpoint =>
        if !schemeIsSafe usesStarttls requireEncryptedTransport endpoint.scheme ||
            endpoint.host.isNone || endpoint.port == some 0 || !endpoint.username.isEmpty ||
            endpoint.password.isSome || endpoint.fragment.isSome then
          .error (.invalidParameter (label ++ " URL is not safe for the selected LDAP TLS mode"))
        else visitUrls usesStarttls requireEncryptedTransport label true values

def validateLdapUrls (urls : Option Str) (starttls : Option Bool) (label : String)
    (requireEncryptedTransport : Bool) : Except Error Unit :=
  let usesStarttls := starttls == some true
  match urls with
  | none =>
    if usesStarttls || !requireEncryptedTransport then .ok ()
    else .error (.invalidParameter (label ++ " URL must use ldaps:// or starttls=true"))
  | some urls =>
    if maxExternalEndpointBytes < byteLen urls then
      .error (.invalidParameter (label ++ " URL list exceeds the endpoint length limit"))
    else do
      let found ← visitUrls parse usesStarttls requireEncryptedTransport label false (urls.splitOn ',')
      if found then .ok ()
      else .error (.invalidParameter (label ++ " URL must not be empty"))

/-- The fields of a configuration that the transport checks read. -/
structure DirectoryConfig where
  url : Option Str
  starttls : Option Bool
  insecureTls : Option Bool
  bindpass : Option Str
  clientTlsKey : Option Str
  deriving DecidableEq, Repr

/-- The checks of the transport. A build acknowledges insecure transports by a feature. -/
def validateTransport (acknowledged credentials : Bool) (label unacknowledged combined : String)
    (config : DirectoryConfig) : Except Error Unit :=
  if !acknowledged && config.insecureTls == some true then .error (.invalidParameter unacknowledged)
  else if config.insecureTls == some true && credentials then .error (.invalidParameter combined)
  else validateLdapUrls parse config.url config.starttls label (!acknowledged || credentials)

/-- The beginning of `LdapAuthConfig::validate`. -/
def validateLdapAuth (acknowledged : Bool) (config : DirectoryConfig) : Except Error Unit :=
  validateTransport parse acknowledged (config.bindpass.isSome || config.clientTlsKey.isSome)
    "LDAP auth"
    "LDAP auth insecure_tls=true requires the insecure-ldap-tls-acknowledged Cargo feature because it disables LDAP TLS certificate verification"
    "LDAP auth insecure_tls=true must not be combined with bindpass or client_tls_key because credentials would cross an unverified TLS connection"
    config

/-- The beginning of `KerberosLdapConfig::validate`. -/
def validateKerberosLdap (acknowledged : Bool) (config : DirectoryConfig) : Except Error Unit :=
  validateTransport parse acknowledged config.bindpass.isSome "Kerberos LDAP"
    "Kerberos LDAP insecure_tls=true requires the insecure-ldap-tls-acknowledged Cargo feature because it disables LDAP TLS certificate verification"
    "Kerberos LDAP insecure_tls=true must not be combined with bindpass because credentials would cross an unverified TLS connection"
    config

/-- The beginning of `LdapConfig::validate`. The engine always has a password. -/
def validateLdapConfig (acknowledged : Bool) (config : DirectoryConfig) : Except Error Unit :=
  if (config.bindpass.getD []).isEmpty then
    .error (.invalidParameter "LDAP configuration writes require an explicit bind password")
  else
    validateTransport parse acknowledged true "LDAP"
      "ldap insecure_tls=true requires the insecure-ldap-tls-acknowledged Cargo feature because it disables LDAP TLS certificate verification"
      "ldap insecure_tls=true must not be combined with bindpass because credentials would cross an unverified TLS connection"
      config

end Checks

/-! ### What is accepted -/

/-- The addresses of a list, without the blanks around them. -/
def Lists (urls address : Str) : Prop := address ≠ [] ∧ ∃ piece ∈ urls.splitOn ',', trim piece = address

/-- An address that names a host and neither a user nor a port that nothing listens on. -/
structure Bare (endpoint : ParsedUrl) : Prop where
  host : endpoint.host ≠ none
  port : endpoint.port ≠ some 0
  username : endpoint.username = []
  password : endpoint.password = none
  fragment : endpoint.fragment = none

/-- A connection that is encrypted from its beginning, or upgraded before anything else is sent. -/
def Encrypted (starttls : Option Bool) (endpoint : ParsedUrl) : Prop :=
  if starttls = some true then endpoint.scheme = ldap else endpoint.scheme = ldaps

/-- A connection in clear, by the wish of the configuration. -/
def InClear (starttls : Option Bool) (endpoint : ParsedUrl) : Prop :=
  starttls ≠ some true ∧ endpoint.scheme = ldap

/-- What the addresses of a configuration come to, with or without connections in clear. Without
a list the server takes a default, which is only encrypted if it is upgraded. -/
structure Reaches (parse : Str → Option ParsedUrl) (clear : Prop) (urls : Option Str)
    (starttls : Option Bool) : Prop where
  default : urls = none → starttls = some true ∨ clear
  bounded : ∀ text ∈ urls, byteLen text ≤ maxExternalEndpointBytes
  listed : ∀ text ∈ urls, ∃ address, Lists text address
  reached : ∀ text ∈ urls, ∀ address, Lists text address → ∃ endpoint, parse address = some endpoint ∧
    Bare endpoint ∧ (Encrypted starttls endpoint ∨ clear ∧ InClear starttls endpoint)

section Acceptance

variable {parse : Str → Option ParsedUrl} {starttls : Option Bool} {label : String}
  {require found : Bool} {urls : Str} {values : List Str}

theorem schemeIsSafe_iff {endpoint : ParsedUrl} :
    schemeIsSafe (starttls == some true) require endpoint.scheme = true ↔
      Encrypted starttls endpoint ∨ require = false ∧ InClear starttls endpoint := by
  unfold schemeIsSafe Encrypted InClear
  cases hstarttls : starttls == some true with
  | true =>
    rw [beq_iff_eq] at hstarttls
    simp [hstarttls]
  | false =>
    rw [beq_eq_false_iff_ne] at hstarttls
    cases require <;> simp [hstarttls, or_comm]

/-- An address that the loop goes past. -/
def Passes (parse : Str → Option ParsedUrl) (starttls : Option Bool) (require : Bool)
    (address : Str) : Prop :=
  ∃ endpoint, parse address = some endpoint ∧ Bare endpoint ∧
    (Encrypted starttls endpoint ∨ require = false ∧ InClear starttls endpoint)

theorem refused_iff {endpoint : ParsedUrl} :
    (!schemeIsSafe (starttls == some true) require endpoint.scheme || endpoint.host.isNone ||
        endpoint.port == some 0 || !endpoint.username.isEmpty || endpoint.password.isSome ||
        endpoint.fragment.isSome) = false ↔
      Bare endpoint ∧ (Encrypted starttls endpoint ∨ require = false ∧ InClear starttls endpoint) := by
  rw [← schemeIsSafe_iff]
  simp only [Bool.or_eq_false_iff, Bool.not_eq_false', Option.isNone_eq_false_iff,
    Option.isSome_eq_false_iff, beq_eq_false_iff_ne, Option.isSome_iff_ne_none, List.isEmpty_iff,
    Option.isNone_iff_eq_none]
  constructor
  · rintro ⟨⟨⟨⟨⟨hscheme, hhost⟩, hport⟩, husername⟩, hpassword⟩, hfragment⟩
    exact ⟨⟨hhost, hport, husername, hpassword, hfragment⟩, hscheme⟩
  · rintro ⟨⟨hhost, hport, husername, hpassword, hfragment⟩, hscheme⟩
    exact ⟨⟨⟨⟨⟨hscheme, hhost⟩, hport⟩, husername⟩, hpassword⟩, hfragment⟩

theorem visitUrls_eq_ok_iff {result : Bool} :
    visitUrls parse (starttls == some true) require label found values = .ok result ↔
      (∀ value ∈ values, trim value ≠ [] → Passes parse starttls require (trim value)) ∧
        result = (found || values.any fun value => !(trim value).isEmpty) := by
  induction values generalizing found with
  | nil =>
    rw [visitUrls, Except.ok.injEq, List.any_nil, Bool.or_false]
    exact ⟨fun h => ⟨fun _ hmem => absurd hmem List.not_mem_nil, h.symm⟩, fun h => h.2.symm⟩
  | cons value values ih =>
    rw [visitUrls, List.forall_mem_cons, List.any_cons]
    by_cases hblank : trim value = []
    · rw [hblank, List.isEmpty_nil, if_pos rfl, ih]
      simp
    · have hempty : (trim value).isEmpty = false := by simpa using hblank
      rw [hempty, if_neg Bool.false_ne_true]
      cases hparse : parse (trim value) with
      | none =>
        constructor
        · intro h
          cases h
        · intro h
          obtain ⟨endpoint, hsome, -⟩ := h.1.1 hblank
          rw [hparse] at hsome
          cases hsome
      | some endpoint =>
        dsimp only
        have hpasses : Passes parse starttls require (trim value) ↔ Bare endpoint ∧
            (Encrypted starttls endpoint ∨ require = false ∧ InClear starttls endpoint) := by
          refine ⟨?_, fun h => ⟨endpoint, hparse, h⟩⟩
          rintro ⟨other, hother, h⟩
          rw [hparse] at hother
          cases hother
          exact h
        split
        · next hrefused =>
          constructor
          · intro h
            cases h
          · intro h
            rw [refused_iff.mpr (hpasses.mp (h.1.1 hblank))] at hrefused
            cases hrefused
        · next hrefused =>
          rw [Bool.not_eq_true] at hrefused
          rw [ih, and_iff_right fun _ => hpasses.mpr (refused_iff.mp hrefused)]
          simp

theorem validateLdapUrls_eq_ok_iff {urls : Option Str} :
    validateLdapUrls parse urls starttls label require = .ok () ↔
      Reaches parse (require = false) urls starttls := by
  unfold validateLdapUrls
  cases urls with
  | none =>
    dsimp only
    have hdefault : (starttls == some true || !require) = true ↔
        starttls = some true ∨ require = false := by simp
    split
    · next h =>
      refine ⟨fun _ => ⟨fun _ => hdefault.mp h, ?_, ?_, ?_⟩, fun _ => rfl⟩
      · rintro _ ⟨⟩
      · rintro _ ⟨⟩
      · rintro _ ⟨⟩
    · next h =>
      constructor
      · intro hok
        cases hok
      · exact fun hreaches => absurd (hdefault.mpr (hreaches.default rfl)) h
  | some text =>
    dsimp only
    split
    · next hlong =>
      constructor
      · intro hok
        cases hok
      · exact fun h => absurd (h.bounded text rfl) (Nat.not_le.mpr hlong)
    · next hshort =>
      have hlists : ((text.splitOn ',').any fun value => !(trim value).isEmpty) = true ↔
          ∃ address, Lists text address := by
        simp [Lists, and_comm]
      constructor
      · intro h
        cases hvisit : visitUrls parse (starttls == some true) require label false
            (text.splitOn ',') with
        | error e =>
          rw [hvisit] at h
          cases h
        | ok found =>
          rw [hvisit] at h
          obtain ⟨hpasses, hfound⟩ := visitUrls_eq_ok_iff.mp hvisit
          have htrue : found = true := by
            cases found with
            | true => rfl
            | false => cases h
          rw [Bool.false_or, htrue, eq_comm] at hfound
          refine ⟨?_, ?_, ?_, ?_⟩
          · intro hnone
            cases hnone
          · rintro _ ⟨⟩
            exact Nat.not_lt.mp hshort
          · rintro _ ⟨⟩
            exact hlists.mp hfound
          · rintro _ ⟨⟩ address ⟨hne, piece, hpiece, rfl⟩
            exact hpasses piece hpiece hne
      · intro h
        have hfound := hlists.mpr (h.listed text rfl)
        have hvisit : visitUrls parse (starttls == some true) require label false
            (text.splitOn ',') = .ok true :=
          visitUrls_eq_ok_iff.mpr ⟨fun piece hpiece hne =>
            h.reached text rfl _ ⟨hne, piece, hpiece, rfl⟩, by rw [hfound]; rfl⟩
        rw [hvisit]
        rfl

end Acceptance

/-- What the transport checks accept. -/
structure Acceptable (parse : Str → Option ParsedUrl) (acknowledged credentials : Bool)
    (config : DirectoryConfig) : Prop where
  verified : config.insecureTls = some true → acknowledged = true ∧ credentials = false
  reaches : Reaches parse (acknowledged = true ∧ credentials = false) config.url config.starttls

section Laws

variable {parse : Str → Option ParsedUrl} {acknowledged credentials : Bool} {config : DirectoryConfig}

theorem validateTransport_eq_ok_iff {label unacknowledged combined : String} :
    validateTransport parse acknowledged credentials label unacknowledged combined config = .ok () ↔
      Acceptable parse acknowledged credentials config := by
  have hrequire : ((!acknowledged || credentials) = false) =
      (acknowledged = true ∧ credentials = false) := by
    rw [Bool.or_eq_false_iff, Bool.not_eq_false']
  unfold validateTransport
  split
  · next h =>
    rw [Bool.and_eq_true, Bool.not_eq_true', beq_iff_eq] at h
    constructor
    · intro hok
      cases hok
    · intro haccept
      rw [(haccept.verified h.2).1] at h
      cases h.1
  · next hunacknowledged =>
    split
    · next h =>
      rw [Bool.and_eq_true, beq_iff_eq] at h
      constructor
      · intro hok
        cases hok
      · intro haccept
        rw [(haccept.verified h.1).2] at h
        cases h.2
    · next hcombined =>
      rw [validateLdapUrls_eq_ok_iff, hrequire]
      refine ⟨fun hreaches => ⟨fun hinsecure => ?_, hreaches⟩, Acceptable.reaches⟩
      rw [hinsecure] at hunacknowledged hcombined
      exact ⟨by simpa using hunacknowledged, by simpa using hcombined⟩

/-- Where connections in clear are not wanted, none is made. -/
theorem Reaches.encrypted {clear : Prop} {urls : Option Str} {starttls : Option Bool}
    (h : Reaches parse clear urls starttls) (hclear : ¬ clear) : Reaches parse False urls starttls := by
  refine ⟨fun hnone => ?_, h.bounded, h.listed, fun text htext address hlists => ?_⟩
  · exact (h.default hnone).imp_right hclear
  · obtain ⟨endpoint, hparse, hbare, hscheme⟩ := h.reached text htext address hlists
    exact ⟨endpoint, hparse, hbare, hscheme.imp_right fun hc => absurd hc.1 hclear⟩

/-- Which configurations are accepted. Without the feature, or with a credential in the
configuration, the server verifies the certificate of every directory that it reaches and speaks
to none in clear. -/
theorem directoryTransport_law (parse : Str → Option ParsedUrl) (acknowledged : Bool)
    (config : DirectoryConfig) :
    (validateLdapAuth parse acknowledged config = .ok () ↔ Acceptable parse acknowledged
      (config.bindpass.isSome || config.clientTlsKey.isSome) config) ∧
    (validateKerberosLdap parse acknowledged config = .ok () ↔
      Acceptable parse acknowledged config.bindpass.isSome config) ∧
    (validateLdapConfig parse acknowledged config = .ok () ↔
      config.bindpass.getD [] ≠ [] ∧ Acceptable parse acknowledged true config) ∧
    ∀ credentials, Acceptable parse acknowledged credentials config →
      acknowledged = false ∨ credentials = true →
      config.insecureTls ≠ some true ∧ Reaches parse False config.url config.starttls := by
  refine ⟨validateTransport_eq_ok_iff, validateTransport_eq_ok_iff, ?_,
    fun credentials haccept hstrict => ?_⟩
  · rw [validateLdapConfig]
    cases hpassword : config.bindpass.getD [] with
    | nil =>
      constructor
      · intro hok
        cases hok
      · exact fun h => absurd rfl h.1
    | cons c password =>
      rw [List.isEmpty_cons, if_neg Bool.false_ne_true, validateTransport_eq_ok_iff]
      exact (and_iff_right (List.cons_ne_nil _ _)).symm
  · have hstrict' : ¬ (acknowledged = true ∧ credentials = false) := by
      rintro ⟨hacknowledged, hcredentials⟩
      rcases hstrict with hstrict | hstrict
      · rw [hstrict] at hacknowledged
        cases hacknowledged
      · rw [hstrict] at hcredentials
        cases hcredentials
    exact ⟨fun hinsecure => hstrict' (haccept.verified hinsecure), haccept.reaches.encrypted hstrict'⟩

end Laws

end OpenBao.DirectoryTransports
