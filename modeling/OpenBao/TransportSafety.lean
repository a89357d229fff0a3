import OpenBao.ClientTransport

/-!
# What leaves a client

Clients are built from reachable configurations and take tokens. Over any run of such calls:
what they send without encryption, and which headers their other requests carry.
-/

namespace OpenBao.ClientTransport
open BoundedLogs ClientConfigs ConsistencyContexts InsertionTables LoopbackHttp PathValidation
  PercentCoding RegisteredRoutes RequestBodyBuffers Utf8Text

variable {Certificate Identity : Type}

/-- What holds of every client. -/
structure Sound (build : Build) (client : Client Certificate Identity) : Prop where
  config : Reachable build client.config
  valid : client.config.validate build = .ok ()
  http : client.http.httpsOnly = decide (client.config.httpPolicy = .httpsOnly)
  sensitiveHttp : client.sensitiveHttp.httpsOnly = true
  token : ∀ token, client.token = some token → client.validateTokenForHeader token = .ok ()

section Transport

variable {build : Build} {library : HttpLibrary Certificate Identity}
  {client : Client Certificate Identity} {call : Call}
  {prepared : Prepared Certificate Identity}

theorem buildHttpClient_eq_ok {config : OpenBaoConfig Certificate Identity} {httpsOnly : Bool}
    {built : HttpClient Certificate Identity × TlsBackend}
    (h : buildHttpClient build library config httpsOnly = .ok built) :
    built.1.httpsOnly = httpsOnly := by
  unfold buildHttpClient at h
  split at h
  · cases h
  · obtain ⟨_, -, h⟩ := bind_eq_ok_iff.mp h
    obtain ⟨_, -, h⟩ := bind_eq_ok_iff.mp h
    rw [← Except.ok.inj h]

theorem Built.sound (h : Built build library client) : Sound build client := by
  induction h with
  | @buildClient config client hconfig h =>
    obtain ⟨hvalid, h⟩ := bind_unit_eq_ok_iff.mp h
    obtain ⟨http, hhttp, h⟩ := bind_eq_ok_iff.mp h
    obtain ⟨sensitive, hsensitive, h⟩ := bind_eq_ok_iff.mp h
    split at h
    · cases h
    · obtain rfl := Except.ok.inj h
      exact ⟨hconfig, hvalid, buildHttpClient_eq_ok hhttp, buildHttpClient_eq_ok hsensitive,
        by simp⟩
  | @tryWithToken client token next _ h ih =>
    obtain ⟨hvalid, h⟩ := bind_unit_eq_ok_iff.mp h
    obtain rfl := Except.ok.inj h
    refine ⟨ih.config, ih.valid, ih.http, ih.sensitiveHttp, fun token' htoken => ?_⟩
    rw [← Option.some.inj htoken]
    exact hvalid
  | cloneWithoutState _ ih => exact ⟨ih.config, ih.valid, ih.http, ih.sensitiveHttp, by simp [Client.cloneWithoutState]⟩

/-- The server of a URL, without its path and query. -/
structure SameServer (url base : Url) : Prop where
  scheme : url.scheme = base.scheme
  host : url.host = base.host
  username : url.username = base.username
  password : url.password = base.password
  fragment : url.fragment = base.fragment

theorem urlForPath_eq_ok {path : Str} {url : Url} (h : urlForPath library client path = .ok url) :
    ∃ segments, validateEndpointPath path = .ok segments ∧
      url = { client.config.baseUrl with path := pathText library ("v1".toList :: segments) } := by
  unfold urlForPath at h
  dsimp only at h
  split at h
  · cases h
  · cases hpath : validateEndpointPath path with
    | error e =>
      rw [hpath] at h
      cases h
    | ok segments =>
      rw [hpath] at h
      exact ⟨segments, rfl, (Except.ok.inj h).symm⟩

theorem withQuery_sameServer (url : Url) (query : List (Str × Str)) :
    SameServer (withQuery url query) url := by
  unfold withQuery
  split
  · exact ⟨rfl, rfl, rfl, rfl, rfl⟩
  · exact ⟨rfl, rfl, rfl, rfl, rfl⟩

theorem address_sameServer (call : Call) (url : Url) : SameServer (call.address url) url := by
  cases call with
  | monitor => exact ⟨rfl, rfl, rfl, rfl, rfl⟩
  | probe | json | secretJson | bytes | form | upload => exact withQuery_sameServer url _

theorem address_of_public (hcall : call.sensitive client = false) (hquery : call.query = [])
    (url : Url) : call.address url = url := by
  cases call with
  | monitor => cases hcall
  | probe | json | secretJson | bytes | form | upload =>
    change withQuery url _ = url
    rw [hquery]
    rfl

/-- Every request goes to the configured server. -/
theorem prepare_url (h : prepare build library client call = .ok prepared) :
    ∃ segments, validateEndpointPath call.path = .ok segments ∧
      prepared.2.url = call.address { client.config.baseUrl with
        path := pathText library ("v1".toList :: segments) } := by
  cases hcall : call.sensitive client with
  | true =>
    obtain ⟨url, hurl, hout, -⟩ := prepare_sensitive hcall h
    obtain ⟨segments, hpath, rfl⟩ := urlForPath_eq_ok hurl
    exact ⟨segments, hpath, hout.url⟩
  | false =>
    obtain ⟨url, hurl, hquery, rfl⟩ := prepare_public hcall h
    obtain ⟨segments, hpath, rfl⟩ := urlForPath_eq_ok hurl
    exact ⟨segments, hpath, (address_of_public hcall hquery _).symm⟩

theorem prepare_sameServer (h : prepare build library client call = .ok prepared) :
    SameServer prepared.2.url client.config.baseUrl := by
  obtain ⟨segments, -, hurl⟩ := prepare_url h
  have hserver := address_sameServer call { client.config.baseUrl with
    path := pathText library ("v1".toList :: segments) }
  rw [hurl]
  exact ⟨hserver.scheme, hserver.host, hserver.username, hserver.password, hserver.fragment⟩

/-- A request that shows nothing of its caller but its method and path. -/
structure Bare (request : HttpRequest) : Prop where
  query : request.url.query = none
  headers : request.headers = [("accept", json), marker]
  body : request.body = none

/-- A base URL has no query of its own. -/
theorem Sound.base_query (h : Sound build client) : client.config.baseUrl.query = none := by
  have hcomponents := h.config.valid.components
  unfold validateBaseUrlComponents at hcomponents
  split at hcomponents
  · cases hcomponents
  · split at hcomponents
    · cases hcomponents
    · next hquery =>
      rw [Bool.or_eq_true, not_or] at hquery
      simpa using hquery.1

theorem bare_of_public (hsound : Sound build client) (hcall : call.sensitive client = false)
    (h : prepare build library client call = .ok prepared) : Bare prepared.2 := by
  obtain ⟨url, hurl, -, rfl⟩ := prepare_public hcall h
  obtain ⟨segments, -, rfl⟩ := urlForPath_eq_ok hurl
  exact ⟨hsound.base_query, rfl, rfl⟩

/-- Only the public sender uses the client that may speak plain HTTP. -/
theorem bare_of_sends (hsound : Sound build client)
    (hproduction : client.config.sensitiveLocalHttpForTests = false)
    (h : prepare build library client call = .ok prepared)
    (hsends : prepared.1.sends prepared.2 = true) (hclear : isCleartextUrl prepared.2.url = true) :
    Bare prepared.2 := by
  cases hcall : call.sensitive client with
  | true =>
    obtain ⟨url, -, hout, -⟩ := prepare_sensitive hcall h
    rw [HttpClient.sends, hclear, hout.http, httpForSensitiveRequest, hproduction,
      if_neg (by decide), hsound.sensitiveHttp] at hsends
    cases hsends
  | false => exact bare_of_public hsound hcall h

/-- Nothing but bare requests to loopback addresses ever leaves a client over plain HTTP, and
those only behind the opt-in, whatever public calls made the configuration, the client and the
request. Only the opt-in for tests lets a loopback request show more. -/
theorem cleartext_bare (hclient : Built build library client)
    (h : prepare build library client call = .ok prepared)
    (hsends : prepared.1.sends prepared.2 = true) (hclear : isCleartextUrl prepared.2.url = true) :
    client.config.httpPolicy = .localhostHttpAllowed ∧ prepared.2.url.scheme = "http".toList ∧
      (∃ address, prepared.2.url.host = some (.ipv4 address) ∧ LoopbackHost prepared.2.url.host) ∧
      (client.config.sensitiveLocalHttpForTests = false → Bare prepared.2) := by
  have hsound := hclient.sound
  have hserver := prepare_sameServer h
  have hscheme : client.config.baseUrl.scheme ≠ "https".toList := by
    rw [← hserver.scheme]
    exact of_decide_eq_true hclear
  have htransport := (ClientConfigs.validate_eq_ok_iff.mp hsound.valid).2.2.2.2
  obtain ⟨hhttp, hpolicy, hloopback⟩ := htransport.resolve_left hscheme
  refine ⟨hpolicy, hserver.scheme.trans hhttp, ?_, fun hproduction =>
    bare_of_sends hsound hproduction h hsends hclear⟩
  rw [hserver.host]
  exact isLoopbackUrl_iff.mp hloopback

theorem token_expected {token : Str} (h : client.token = some token) :
    expectedHeader client call (tokenEntry token client.config.headerMode).1 =
      some (tokenEntry token client.config.headerMode).2 := by
  rw [expectedHeader, identityHeaders, h, Option.toList_some, List.map_singleton,
    List.reverse_append, List.reverse_singleton, List.singleton_append, get_cons, if_pos rfl,
    Option.some_or]

theorem namespace_expected {path : Str} (h : client.config.namespacePath = some path) :
    expectedHeader client call "x-vault-namespace" = some (asBytes path) := by
  have hspace : get "x-vault-namespace" (identityHeaders client).reverse = some (asBytes path) := by
    rw [identityHeaders, h, Option.toList_some, List.map_singleton, List.reverse_append,
      List.reverse_singleton]
    cases client.token with
    | none => rfl
    | some token =>
      have hname : (tokenEntry token client.config.headerMode).1 ≠ "x-vault-namespace" := by
        rcases tokenEntry_name token client.config.headerMode with h | h
        · rw [h]
          decide
        · rw [h]
          decide
      rw [Option.toList_some, List.map_singleton, List.reverse_singleton, List.singleton_append,
        get_cons, if_neg hname]
      rfl
  rw [expectedHeader, hspace, Option.some_or]

/-- The headers of every sensitive request of a client's own senders: one value for a name; the
token and the namespace of the client whatever headers the caller supplies; else the last header
that the caller supplies, unless the kind of the call forces another, and the defaults last. -/
theorem sensitive_headers (hclient : Built build library client)
    (hcall : call.sensitive client = true)
    (h : prepare build library client call = .ok prepared) :
    (prepared.2.headers.map Prod.fst).Nodup ∧
      (∀ name, get name prepared.2.headers = expectedHeader client call name) ∧
      (∀ token, client.token = some token →
        client.validateTokenForHeader token = .ok () ∧
          get (tokenEntry token client.config.headerMode).1 prepared.2.headers =
            some (tokenEntry token client.config.headerMode).2) ∧
      ∀ path, client.config.namespacePath = some path →
        (∃ segments, validateMountPath path = .ok segments ∧ path = join '/' segments) ∧
          get "x-vault-namespace" prepared.2.headers = some (asBytes path) := by
  have hsound := hclient.sound
  obtain ⟨_, -, hout, hheaders⟩ := prepare_sensitive hcall h
  refine ⟨hout.names, hheaders, fun token htoken => ⟨hsound.token token htoken, ?_⟩,
    fun path hpath => ⟨hsound.config.valid.namespacePath path hpath, ?_⟩⟩
  · rw [hheaders, token_expected htoken]
  · rw [hheaders, namespace_expected hpath]

end Transport

/-- Libraries that finish every client. -/
def exampleLibrary : HttpLibrary Unit Unit where
  tlsBackend := .rustls
  finish _ := .ok ()
  cannotBeABase _ := false
  keepsInSegment := byteSerializedUnchanged
  platform := platform64

/-- A client for a server on a loopback address. -/
def loopbackConfig : OpenBaoConfig Unit Unit where
  baseUrl := loopbackUrl
  httpPolicy := .localhostHttpAllowed

def httpOf (config : OpenBaoConfig Unit Unit) (httpsOnly : Bool) : HttpClient Unit Unit where
  timeout := config.timeout
  connectTimeout := config.connectTimeout
  userAgent := config.userAgent
  httpsOnly
  minTlsVersion := config.minTlsVersion
  rootCertificateMode := config.rootCertificateMode
  rootCertificates := config.rootCertificates
  crlPemBundles := config.crlPemBundles
  clientIdentity := config.clientIdentity

def loopbackClient : Client Unit Unit where
  config := loopbackConfig
  http := httpOf loopbackConfig false
  sensitiveHttp := httpOf loopbackConfig true
  tlsBackend := .rustls
  token := none

theorem loopbackConfig_valid : loopbackConfig.validate exampleBuild = .ok () := by
  have hloopback : LoopbackHost loopbackUrl.host := by
    constructor
    · decide
    · decide
  exact ClientConfigs.validate_eq_ok_iff.mpr
    ⟨rfl, rfl, rfl, .inl rfl, .inr ⟨rfl, rfl, isLoopbackUrl_iff.mpr ⟨_, rfl, hloopback⟩⟩⟩

theorem built_loopbackClient : Built exampleBuild exampleLibrary loopbackClient := by
  have hserver : OpenBaoConfig.new exampleBuild "http://127.0.0.1".toList =
      .ok ({ baseUrl := loopbackUrl } : OpenBaoConfig Unit Unit) := rfl
  have hreach : Reachable exampleBuild loopbackConfig :=
    .call (.new hserver) .allowLocalhostHttp
      (bind_unit_eq_ok_iff.mpr ⟨loopbackConfig_valid, rfl⟩)
  have hbuilt : buildClient exampleBuild exampleLibrary loopbackConfig = .ok loopbackClient :=
    bind_unit_eq_ok_iff.mpr ⟨loopbackConfig_valid, rfl⟩
  exact .buildClient hreach hbuilt

theorem cleartext_bare_probe : ∃ prepared,
    prepare exampleBuild exampleLibrary loopbackClient .probe = .ok prepared ∧
      prepared.1.sends prepared.2 = true ∧ isCleartextUrl prepared.2.url = true ∧
        Bare prepared.2 := by
  have hpath : validateEndpointPath "sys/health".toList = .ok ["sys".toList, "health".toList] := by
    decide +kernel
  have hurl : urlForPath exampleLibrary loopbackClient "sys/health".toList =
      .ok { loopbackUrl with
        path := pathText exampleLibrary ["v1".toList, "sys".toList, "health".toList] } := by
    rw [urlForPath, hpath]
    rfl
  have hprepare : prepare exampleBuild exampleLibrary loopbackClient .probe = .ok _ :=
    congrArg (Except.map _) hurl
  have hclear : isCleartextUrl loopbackUrl = true := by decide
  have hbare := cleartext_bare built_loopbackClient hprepare rfl hclear
  exact ⟨_, hprepare, rfl, hclear, hbare.2.2.2 rfl⟩

def teamClient : Client Unit Unit where
  config := teamConfig
  http := httpOf teamConfig true
  sensitiveHttp := httpOf teamConfig true
  tlsBackend := .rustls
  token := some "s.token".toList

theorem built_teamClient : Built exampleBuild exampleLibrary teamClient := by
  have hbuilt : buildClient exampleBuild exampleLibrary teamConfig =
      .ok { teamClient with token := none } :=
    bind_unit_eq_ok_iff.mpr ⟨reachable_teamConfig.valid.validate_iff.mpr ⟨rfl, .inl rfl⟩, rfl⟩
  have htoken : ({ teamClient with token := none } : Client Unit Unit).validateTokenForHeader
      "s.token".toList = .ok () := by
    decide +kernel
  exact .tryWithToken (.buildClient reachable_teamConfig hbuilt)
    (bind_unit_eq_ok_iff.mpr ⟨htoken, rfl⟩)

/-- A token header of the caller does not count. -/
theorem sensitive_headers_team : ∃ prepared,
    prepare exampleBuild exampleLibrary teamClient
        (.json "GET" "sys/health".toList [] [("x-vault-token", [0x78])] none) = .ok prepared ∧
      get "x-vault-token" prepared.2.headers = some (asBytes "s.token".toList) ∧
      get "x-vault-namespace" prepared.2.headers = some (asBytes "team/a".toList) := by
  have hok : (prepare exampleBuild exampleLibrary teamClient
      (.json "GET" "sys/health".toList [] [("x-vault-token", [0x78])] none)).isOk = true := by
    decide +kernel
  cases hprepare : prepare exampleBuild exampleLibrary teamClient
      (.json "GET" "sys/health".toList [] [("x-vault-token", [0x78])] none) with
  | error e =>
    rw [hprepare] at hok
    cases hok
  | ok prepared =>
    obtain ⟨-, -, htoken, hspace⟩ := sensitive_headers built_teamClient rfl hprepare
    exact ⟨prepared, rfl, (htoken _ rfl).2, (hspace _ rfl).2⟩

end OpenBao.ClientTransport
