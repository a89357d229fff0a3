import OpenBao.DispatchedRequests
import OpenBao.RequestContents
import OpenBao.SecretRoutes

/-!
# Token requests to an OIDC provider

The token endpoint of a provider takes a form, and the credentials of its caller either in the
form or in a Basic header. What a server makes of the request that leaves the client is the
request that the caller put together.
-/

namespace OpenBao.OidcTokenRequests
open ClientConfigs ClientTransport CompatibilityProbe DelimitedLists DispatchedRequests InsertionTables
  LoopbackHttp PathValidation PercentCoding SecretRoutes Utf8Text

inductive IdentityOidcGrantType where
  | authorizationCode
  | clientCredentials
  deriving DecidableEq, Repr

structure IdentityOidcProviderTokenRequest where
  grantType : IdentityOidcGrantType
  code : Option Str := none
  redirectUri : Option Str := none
  clientId : Option Str := none
  clientSecret : Option Str := none
  codeVerifier : Option Str := none
  scope : Option Str := none
  basicAuth : Bool := false

/-- `u8::is_ascii_whitespace` of a character. -/
def isAsciiWhitespace (c : Char) : Bool :=
  c == ' ' || c == '\t' || c == '\n' || c == '\x0c' || c == '\r'

def IdentityOidcGrantType.text : IdentityOidcGrantType → Str
  | authorizationCode => "authorization_code".toList
  | clientCredentials => "client_credentials".toList

def optionalField (name : String) (value : Option Str) : List (Str × Str) :=
  value.toList.map fun text => (name.toList, text)

namespace IdentityOidcProviderTokenRequest

def authorizationCode (code redirectUri : Str) : IdentityOidcProviderTokenRequest :=
  { grantType := .authorizationCode, code := some code, redirectUri := some redirectUri }

def clientCredentials (scope : Str) : IdentityOidcProviderTokenRequest :=
  { grantType := .clientCredentials, scope := some scope }

variable (request : IdentityOidcProviderTokenRequest)

def withPostCredentials (clientId : Str) (clientSecret : Option Str) :
    IdentityOidcProviderTokenRequest :=
  { request with clientId := some clientId, clientSecret, basicAuth := false }

def withBasicCredentials (clientId clientSecret : Str) : IdentityOidcProviderTokenRequest :=
  { request with clientId := some clientId, clientSecret := some clientSecret, basicAuth := true }

def withCodeVerifier (verifier : Str) : IdentityOidcProviderTokenRequest :=
  { request with codeVerifier := some verifier }

/-- The grant lacks what it needs. -/
def incomplete : Option String :=
  match request.grantType with
  | .authorizationCode =>
    if request.code.all (·.isEmpty) || request.redirectUri.all (·.isEmpty) then
      some "identity OIDC authorization_code requires code and redirect_uri"
    else none
  | .clientCredentials =>
    if request.scope.all fun scope => !(scope.splitOnP isAsciiWhitespace).contains "openid".toList
    then some "identity OIDC client_credentials requires openid scope"
    else none

def validate : Except Error Unit :=
  match request.incomplete with
  | some message => .error (.invalidParameter message)
  | none =>
    if request.basicAuth &&
        (request.clientId.all (·.isEmpty) || request.clientSecret.all (·.isEmpty)) then
      .error (.invalidParameter
        "identity OIDC Basic authentication requires client ID and secret")
    else .ok ()

/-- The form. Credentials that go into the header are left out. -/
def fields : List (Str × Str) :=
  ("grant_type".toList, request.grantType.text) ::
    (optionalField "code" request.code ++ optionalField "redirect_uri" request.redirectUri ++
      optionalField "code_verifier" request.codeVerifier ++ optionalField "scope" request.scope ++
      if request.basicAuth then []
      else optionalField "client_id" request.clientId ++
        optionalField "client_secret" request.clientSecret)

end IdentityOidcProviderTokenRequest

def identityProviderTokenScope : VersionedRequestField :=
  .since "identity.oidc.provider.token" "scope" ⟨2, 5, 0⟩

section Token

variable (encodeSecret : Bytes → Option Str)

/-- The bytes of the credentials, which the Base64 library encodes unless they are too many. -/
def basicCredentials (clientId clientSecret : Str) : Bytes :=
  (componentPieces clientId).flatten ++ asBytes [':'] ++ (componentPieces clientSecret).flatten

def oidcBasicHeader (request : IdentityOidcProviderTokenRequest) : Except Error Bytes :=
  match request.clientId, request.clientSecret with
  | none, _ => .error (.internal "validated OIDC Basic request has no client ID")
  | some _, none => .error (.internal "validated OIDC Basic request has no client secret")
  | some clientId, some clientSecret =>
    match encodeSecret (basicCredentials clientId clientSecret) with
    | none => .error (.invalidParameter "OIDC Basic credentials are too large")
    | some encoded => ConsistencyContexts.sensitiveHeaderValue ("Basic ".toList ++ encoded)

def oidcProviderPath (mount : List Str) (provider : Str) (operation : Str) : Except Error Str := do
  let names ← validateMountPath provider
  let rest ← validateEndpointPath operation
  return join '/' (mount ++ ["oidc".toList, "provider".toList] ++ names ++ rest)

def tokenHeaders (request : IdentityOidcProviderTokenRequest) : Except Error HeaderMap :=
  if request.basicAuth then
    (oidcBasicHeader encodeSecret request).map fun header => [("authorization", header)]
  else .ok []

/-- `IdentityOidcProvider::token` behind the report of the compatibility policy and up to its
form request, whose registry path is the same names behind the default mount. -/
def token (report : OpenBaoCompatibilityReport) (mount : List Str)
    (provider : Str) (request : IdentityOidcProviderTokenRequest) :
    Except Error ClientTransport.Call := do
  request.validate
  checkRequestFields report [(identityProviderTokenScope, request.scope.isSome)]
  let headers ← tokenHeaders encodeSecret request
  let path ← oidcProviderPath mount provider "token".toList
  return .form "POST" path headers request.fields

end Token

/-! ### What a server makes of it -/

/-- A token request as a server reads it. -/
structure Received where
  grantType : Option Bytes
  code : Option Bytes
  redirectUri : Option Bytes
  clientId : Option Bytes
  clientSecret : Option Bytes
  codeVerifier : Option Bytes
  scope : Option Bytes
  basicAuth : Bool
  deriving DecidableEq

def IdentityOidcProviderTokenRequest.received (request : IdentityOidcProviderTokenRequest) :
    Received where
  grantType := some (asBytes request.grantType.text)
  code := request.code.map asBytes
  redirectUri := request.redirectUri.map asBytes
  clientId := request.clientId.map asBytes
  clientSecret := request.clientSecret.map asBytes
  codeVerifier := request.codeVerifier.map asBytes
  scope := request.scope.map asBytes
  basicAuth := request.basicAuth

section Server

variable (decode : Bytes → Option Bytes)

/-- The two parts of a Basic header, each form encoded, around the first colon. -/
def readBasic (header : Bytes) : Option (Bytes × Bytes) := do
  let encoded ← header.dropPrefix? (asBytes "Basic ".toList)
  let bytes ← decode encoded
  let text ← fromUtf8 bytes
  let parts ← splitOnce ':' text
  return (readComponent parts.1, readComponent parts.2)

def readForm (request : HttpRequest) : Option (List (Bytes × Bytes)) :=
  match request.body with
  | some (.bytes body) => (fromUtf8 body).map parseForm
  | _ => none

/-- A server takes the credentials from one place and refuses a request that has a secret in
both. -/
def receive (request : HttpRequest) : Option Received := do
  let form ← readForm request
  let value := fun name : String => get (asBytes name.toList) form
  match get "authorization" request.headers with
  | none =>
    return ⟨value "grant_type", value "code", value "redirect_uri", value "client_id",
      value "client_secret", value "code_verifier", value "scope", false⟩
  | some header =>
    if (value "client_secret").isSome then none
    else do
      let credentials ← readBasic decode header
      return ⟨value "grant_type", value "code", value "redirect_uri", some credentials.1,
        some credentials.2, value "code_verifier", value "scope", true⟩

end Server

section Reading

variable {encodeSecret : Bytes → Option Str} {decode : Bytes → Option Bytes}
  {request : IdentityOidcProviderTokenRequest}

theorem readBasic_header {clientId clientSecret encoded : Str}
    (hdecode : decode (asBytes encoded) = some (basicCredentials clientId clientSecret)) :
    readBasic decode (asBytes ("Basic ".toList ++ encoded)) =
      some (asBytes clientId, asBytes clientSecret) := by
  have htext : basicCredentials clientId clientSecret =
      asBytes (formComponent (asBytes clientId) ++ ':' :: formComponent (asBytes clientSecret)) := by
    rw [basicCredentials, flatten_componentPieces, flatten_componentPieces, ← asBytes_append,
      ← asBytes_append, List.append_assoc]
    rfl
  have hcolon := not_mem_formComponent (show ':' ∈ ['&', '=', ':'] by decide) (asBytes clientId)
  have hprefix : (asBytes ("Basic ".toList ++ encoded)).dropPrefix? (asBytes "Basic ".toList) =
      some (asBytes encoded) := by
    rw [dropPrefix?_eq_some, asBytes_append]
  simp only [readBasic, hprefix, hdecode, htext, fromUtf8_asBytes, splitOnce_append hcolon,
    readComponent_formComponent, Option.bind_eq_bind, Option.bind_some, Option.pure_def]

theorem get_optionalField (name key : String) (value : Option Str) :
    get (asBytes key.toList) ((optionalField name value).map pairBytes) =
      if name = key then value.map asBytes else none := by
  cases value with
  | none => simp [optionalField]
  | some text =>
    have hkey : asBytes name.toList = asBytes key.toList ↔ name = key := by
      rw [asBytes_inj, String.toList_inj]
    simp only [optionalField, Option.toList_some, List.map_singleton, pairBytes, get_cons, get_nil,
      hkey, Option.map_some]

/-- What stands in the form under a name. -/
theorem get_fields (name : String) : get (asBytes name.toList) (request.fields.map pairBytes) =
    if "grant_type" = name then some (asBytes request.grantType.text)
    else if "code" = name then request.code.map asBytes
    else if "redirect_uri" = name then request.redirectUri.map asBytes
    else if "code_verifier" = name then request.codeVerifier.map asBytes
    else if "scope" = name then request.scope.map asBytes
    else if request.basicAuth then none
    else if "client_id" = name then request.clientId.map asBytes
    else if "client_secret" = name then request.clientSecret.map asBytes
    else none := by
  have hgrant : asBytes "grant_type".toList = asBytes name.toList ↔ "grant_type" = name := by
    rw [asBytes_inj, String.toList_inj]
  have hcredentials : get (asBytes name.toList) ((if request.basicAuth then [] else
      optionalField "client_id" request.clientId ++
        optionalField "client_secret" request.clientSecret).map pairBytes) =
      if request.basicAuth then none
      else if "client_id" = name then request.clientId.map asBytes
      else if "client_secret" = name then request.clientSecret.map asBytes else none := by
    split
    · rfl
    · rw [List.map_append, get_append, get_optionalField, get_optionalField]
      by_cases hid : "client_id" = name
      · rw [← hid]
        simp
      · simp [hid]
  rw [IdentityOidcProviderTokenRequest.fields, List.map_cons, get_cons, List.map_append, get_append,
    hcredentials]
  simp only [pairBytes, hgrant, List.map_append, get_append, get_optionalField]
  by_cases hcode : "code" = name
  · simp [← hcode]
  by_cases huri : "redirect_uri" = name
  · simp [← huri]
  by_cases hverifier : "code_verifier" = name
  · simp [← hverifier]
  by_cases hscope : "scope" = name
  · simp [← hscope]
  simp only [hcode, huri, hverifier, hscope, if_false, Option.none_or]

theorem oidcBasicHeader_eq_ok {header : Bytes} (h : oidcBasicHeader encodeSecret request = .ok header) :
    ∃ clientId clientSecret encoded, request.clientId = some clientId ∧
      request.clientSecret = some clientSecret ∧
      encodeSecret (basicCredentials clientId clientSecret) = some encoded ∧
      header = asBytes ("Basic ".toList ++ encoded) := by
  unfold oidcBasicHeader at h
  cases hid : request.clientId with
  | none => simp [hid] at h
  | some clientId =>
    cases hsecret : request.clientSecret with
    | none => simp [hid, hsecret] at h
    | some clientSecret =>
      simp only [hid, hsecret] at h
      cases hencoded : encodeSecret (basicCredentials clientId clientSecret) with
      | none => simp [hencoded] at h
      | some encoded =>
        simp only [hencoded] at h
        exact ⟨_, _, encoded, rfl, rfl, hencoded, sensitiveHeaderValue_eq_ok h⟩

theorem tokenHeaders_eq_ok {headers : HeaderMap} (h : tokenHeaders encodeSecret request = .ok headers) :
    request.basicAuth = false ∧ headers = [] ∨
      request.basicAuth = true ∧ ∃ clientId clientSecret encoded,
        request.clientId = some clientId ∧ request.clientSecret = some clientSecret ∧
          encodeSecret (basicCredentials clientId clientSecret) = some encoded ∧
          headers = [("authorization", asBytes ("Basic ".toList ++ encoded))] := by
  unfold tokenHeaders at h
  split at h
  · next hbasic =>
    cases hheader : oidcBasicHeader encodeSecret request with
    | error e =>
      rw [hheader] at h
      cases h
    | ok header =>
      rw [hheader] at h
      obtain rfl := Except.ok.inj h
      obtain ⟨clientId, clientSecret, encoded, hid, hsecret, hencoded, rfl⟩ :=
        oidcBasicHeader_eq_ok hheader
      exact .inr ⟨hbasic, clientId, clientSecret, encoded, hid, hsecret, hencoded, rfl⟩
  · next hbasic =>
    obtain rfl := Except.ok.inj h
    exact .inl ⟨Bool.eq_false_iff.mpr hbasic, rfl⟩

theorem token_eq_ok_iff {report : OpenBaoCompatibilityReport} {mount : List Str} {provider : Str}
    {call : ClientTransport.Call} : token encodeSecret report mount provider request = .ok call ↔
      request.validate = .ok () ∧
      checkRequestFields report [(identityProviderTokenScope, request.scope.isSome)] = .ok () ∧
      ∃ headers names, tokenHeaders encodeSecret request = .ok headers ∧
        validateMountPath provider = .ok names ∧
        call = .form "POST" (join '/' (mount ++ ["oidc".toList, "provider".toList] ++ names ++
          ["token".toList])) headers request.fields := by
  have hoperation : validateEndpointPath "token".toList = .ok ["token".toList] := by
    decide +kernel
  have hpath : ∀ path, oidcProviderPath mount provider "token".toList = .ok path ↔
      ∃ names, validateMountPath provider = .ok names ∧
        path = join '/' (mount ++ ["oidc".toList, "provider".toList] ++ names ++
          ["token".toList]) := by
    intro path
    rw [oidcProviderPath, bind_eq_ok_iff]
    refine exists_congr fun names => and_congr_right fun _ => ?_
    rw [hoperation]
    change Except.ok _ = .ok path ↔ _
    rw [Except.ok.injEq]
    exact eq_comm
  unfold token
  rw [bind_unit_eq_ok_iff, bind_unit_eq_ok_iff, bind_eq_ok_iff]
  refine and_congr_right fun _ => and_congr_right fun _ => exists_congr fun headers => ?_
  rw [bind_eq_ok_iff]
  simp only [hpath]
  constructor
  · rintro ⟨hheaders, path, ⟨names, hnames, rfl⟩, hcall⟩
    exact ⟨names, hheaders, hnames, (Except.ok.inj hcall).symm⟩
  · rintro ⟨names, hheaders, hnames, rfl⟩
    exact ⟨hheaders, _, ⟨names, hnames, rfl⟩, rfl⟩

variable {Certificate Identity : Type} {build : Build} {library : HttpLibrary Certificate Identity}
  {client : ClientTransport.Client Certificate Identity} {prepared : Prepared Certificate Identity}

/-- A client without a token sends the supplied headers of a form, and its namespace. -/
theorem get_header_form {method : RegisteredRoutes.Method} {path : Str} {headers : HeaderMap}
    {fields : List (Str × Str)} (hnone : client.token = none)
    (h : prepare build library client (.form method path headers fields) = .ok prepared)
    {name : String} (hname : name ∉ ["x-vault-namespace", "x-vault-request", "accept", "content-type"]) :
    get name prepared.2.headers = get name headers.reverse := by
  have hsensitive : (Call.form method path headers fields).sensitive client = true := rfl
  obtain ⟨_, -, -, hheaders⟩ := prepare_sensitive hsensitive h
  simp only [List.mem_cons, List.not_mem_nil, or_false, not_or] at hname
  obtain ⟨hspace, hmarker, haccept, htype⟩ := hname
  have hidentity : get name (identityHeaders client).reverse = none := by
    rw [identityHeaders, hnone]
    cases client.config.namespacePath with
    | none => rfl
    | some path => simp [get_cons, Ne.symm hspace]
  rw [hheaders, expectedHeader, hidentity]
  simp [Call.forced, Call.supplied, Call.defaults, formHeaders, marker, get_cons,
    Ne.symm hmarker, Ne.symm haccept, Ne.symm htype]

theorem receive_post {sent : HttpRequest} (hbasic : request.basicAuth = false)
    (hform : readForm sent = some (request.fields.map pairBytes))
    (hheader : get "authorization" sent.headers = none) :
    receive decode sent = some request.received := by
  simp only [receive, hform, hheader, get_fields, hbasic, Option.bind_eq_bind, Option.bind_some,
    Option.pure_def, String.reduceEq, reduceIte, Bool.false_eq_true]
  rw [IdentityOidcProviderTokenRequest.received, hbasic]

theorem receive_basic {sent : HttpRequest} {header : Bytes} {clientId clientSecret : Str}
    (hbasic : request.basicAuth = true) (hid : request.clientId = some clientId)
    (hsecret : request.clientSecret = some clientSecret)
    (hform : readForm sent = some (request.fields.map pairBytes))
    (hheader : get "authorization" sent.headers = some header)
    (hread : readBasic decode header = some (asBytes clientId, asBytes clientSecret)) :
    receive decode sent = some request.received := by
  simp only [receive, hform, hheader, hread, get_fields, hbasic, Option.bind_eq_bind,
    Option.bind_some, Option.pure_def, String.reduceEq, reduceIte, Option.isSome_none,
    Bool.false_eq_true]
  rw [IdentityOidcProviderTokenRequest.received, hbasic, hid, hsecret]
  rfl

def routeWords : List Str := ["oidc".toList, "provider".toList, "token".toList]

theorem canonical_words : ∀ word ∈ routeWords, CanonicalSegment word := by
  have hnonempty : ∀ word ∈ routeWords, word ≠ [] := by decide
  have hallowed : ∀ word ∈ routeWords, word.all allowedChar = true := by decide
  have hslash : ∀ word ∈ routeWords, '/' ∉ word := by decide
  have hperiod : ∀ word ∈ routeWords, word.getLast? ≠ some '.' := by decide
  exact fun word hword => ⟨hnonempty word hword, List.all_eq_true.mp (hallowed word hword),
    hslash word hword, hperiod word hword⟩

theorem tokenPath_segments {mount names : List Str} (hmount : PathSegments mount)
    (hnames : PathSegments names) :
    PathSegments (mount ++ ["oidc".toList, "provider".toList] ++ names ++ ["token".toList]) := by
  have hwords := canonical_words
  rw [routeWords, List.forall_mem_cons, List.forall_mem_cons, List.forall_mem_singleton] at hwords
  obtain ⟨hoidc, hprovider, htoken⟩ := hwords
  refine pathSegments_append (pathSegments_append (pathSegments_append hmount ?_) hnames.segment) ?_
  · exact List.forall_mem_cons.mpr ⟨hoidc, List.forall_mem_singleton.mpr hprovider⟩
  · exact List.forall_mem_singleton.mpr htoken

/-- A provider receives the request that the caller put together, under its own path, with the
credentials in the one place that was asked for and with no token of the client, whatever
characters the texts are made of. -/
theorem token_received (hurls : UrlRules library) (hclient : Built build library client)
    (hnone : client.token = none)
    (hcodec : ∀ bytes text, encodeSecret bytes = some text → decode (asBytes text) = some bytes)
    {report : OpenBaoCompatibilityReport} {name provider : Str} {mount : List Str}
    {call : ClientTransport.Call} (hmount : validateMountPath name = .ok mount)
    (h : token encodeSecret report mount provider request = .ok call)
    (hprepare : prepare build library client call = .ok prepared) :
    receive decode prepared.2 = some request.received ∧
      get "x-vault-token" prepared.2.headers = none ∧
      ∃ names, validateMountPath provider = .ok names ∧
        readPath prepared.2.url.path = ("v1".toList :: (mount ++ ["oidc".toList, "provider".toList] ++
          names ++ ["token".toList])).map asBytes := by
  obtain ⟨-, -, headers, names, hheaders, hnames, rfl⟩ := token_eq_ok_iff.mp h
  obtain ⟨⟨segments, hpath, -, -, hread⟩, -, -, hform⟩ := request_reads_back hurls hclient hprepare
  obtain ⟨text, htext, hparse⟩ := hform _ _ _ _ rfl
  have hreceived : readForm prepared.2 = some (request.fields.map pairBytes) := by
    rw [readForm, htext]
    dsimp only
    rw [fromUtf8_asBytes, Option.map_some, hparse]
  have hauthorization : get "authorization" prepared.2.headers = get "authorization" headers.reverse :=
    get_header_form hnone hprepare (by decide)
  have hvault : get "x-vault-token" prepared.2.headers = get "x-vault-token" headers.reverse :=
    get_header_form hnone hprepare (by decide)
  have hsegments := tokenPath_segments (validateMountPath_canonical hmount).toPathSegments
    (validateMountPath_canonical hnames).toPathSegments
  obtain rfl := validateEndpointPath_join hsegments hpath
  rcases tokenHeaders_eq_ok hheaders with ⟨hbasic, rfl⟩ |
    ⟨hbasic, clientId, clientSecret, encoded, hid, hsecret, hencoded, rfl⟩
  · exact ⟨receive_post hbasic hreceived hauthorization, hvault, names, hnames, hread⟩
  · have hbasicHeader := readBasic_header (hcodec _ _ hencoded)
    exact ⟨receive_basic hbasic hid hsecret hreceived hauthorization hbasicHeader, hvault, names,
      hnames, hread⟩

end Reading

/-- Credentials with a colon and a blank, encoded and decoded as the Base64 library does. -/
def exampleCredentials : Bytes := asBytes "id%3A1:s+p".toList

def exampleEncode (bytes : Bytes) : Option Str :=
  if bytes = exampleCredentials then some "aWQlM0ExOnMrcA==".toList else none

def exampleDecode (bytes : Bytes) : Option Bytes :=
  if bytes = asBytes "aWQlM0ExOnMrcA==".toList then some exampleCredentials else none

def exampleRequest : IdentityOidcProviderTokenRequest :=
  (IdentityOidcProviderTokenRequest.authorizationCode "a&b".toList "app://x".toList).withBasicCredentials
    "id:1".toList "s p".toList

def exampleCall : ClientTransport.Call :=
  .form "POST" "identity/oidc/provider/default/token".toList
    [("authorization", asBytes "Basic aWQlM0ExOnMrcA==".toList)] exampleRequest.fields

theorem token_received_basic : ∃ call prepared,
    token exampleEncode (.assumed ⟨2, 6, 0⟩) ["identity".toList] "default".toList exampleRequest =
        .ok call ∧
      prepare exampleBuild exampleLibrary teamClient.cloneWithoutState call = .ok prepared ∧
      receive exampleDecode prepared.2 = some exampleRequest.received := by
  have hbuilt : Built exampleBuild exampleLibrary teamClient.cloneWithoutState :=
    .cloneWithoutState built_teamClient
  have hcodec : ∀ bytes text, exampleEncode bytes = some text →
      exampleDecode (asBytes text) = some bytes := by
    intro bytes text h
    rw [exampleEncode] at h
    split at h
    · next hbytes =>
      rw [← Option.some.inj h, hbytes, exampleDecode, if_pos rfl]
    · cases h
  have hmount : validateMountPath "identity".toList = .ok ["identity".toList] := by
    decide +kernel
  have hprovider : validateMountPath "default".toList = .ok ["default".toList] := by
    decide +kernel
  have hheaders : tokenHeaders exampleEncode exampleRequest =
      .ok [("authorization", asBytes "Basic aWQlM0ExOnMrcA==".toList)] := by
    decide +kernel
  have hcall : token exampleEncode (.assumed ⟨2, 6, 0⟩) ["identity".toList] "default".toList
      exampleRequest = .ok exampleCall :=
    token_eq_ok_iff.mpr ⟨by decide +kernel, by decide +kernel, _, _, hheaders, hprovider, rfl⟩
  have hok : (prepare exampleBuild exampleLibrary teamClient.cloneWithoutState exampleCall).isOk =
      true := by
    decide +kernel
  cases hprepare : prepare exampleBuild exampleLibrary teamClient.cloneWithoutState exampleCall with
  | error e =>
    rw [hprepare] at hok
    cases hok
  | ok prepared =>
    exact ⟨exampleCall, prepared, hcall, hprepare,
      (token_received exampleLibrary_rules hbuilt rfl hcodec hmount hcall hprepare).1⟩

end OpenBao.OidcTokenRequests
