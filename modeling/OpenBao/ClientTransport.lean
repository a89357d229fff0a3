import OpenBao.ClientConfigs
import OpenBao.InsertionTables
import OpenBao.PercentCoding
import OpenBao.RequestBodyBuffers

/-!
# The transport of a client

A client owns two HTTP clients: one that may speak plain HTTP to a loopback address, and one
for sensitive requests. How the client builds the request of every kind of call, with its
address, headers and body, and which of the two HTTP clients it hands it to.
-/

namespace OpenBao.ClientTransport
open BoundedLogs ClientConfigs ConsistencyContexts Durations InsertionTables LoopbackHttp
  PathValidation PercentCoding RegisteredRoutes RequestBodyBuffers Utf8Text

inductive TlsBackend where
  | rustls | native
  deriving DecidableEq, Repr

/-- What an HTTP client of the library is built with. It follows no redirect, retries nothing
and sends no request over plain HTTP when it is `httpsOnly`. -/
structure HttpClient (Certificate Identity : Type) where
  timeout : Duration
  connectTimeout : Duration
  userAgent : Str
  httpsOnly : Bool
  minTlsVersion : TlsVersion
  rootCertificateMode : RootCertificateMode
  rootCertificates : List Certificate
  crlPemBundles : List Bytes
  clientIdentity : Option Identity

/-- The HTTP and URL libraries as they are compiled in: whether a client can be finished,
which URLs have no path segments, and the bytes that a segment shows as they are. -/
structure HttpLibrary (Certificate Identity : Type) where
  tlsBackend : TlsBackend
  finish : HttpClient Certificate Identity → Except Error Unit
  cannotBeABase : Url → Bool
  keepsInSegment : UInt8 → Bool
  platform : Platform

variable {Certificate Identity : Type}

structure Client (Certificate Identity : Type) where
  config : OpenBaoConfig Certificate Identity
  http : HttpClient Certificate Identity
  sensitiveHttp : HttpClient Certificate Identity
  tlsBackend : TlsBackend
  token : Option Str

/-! ### Clients -/

section Clients

variable (build : Build) (library : HttpLibrary Certificate Identity)

def buildHttpClient (config : OpenBaoConfig Certificate Identity) (httpsOnly : Bool) :
    Except SetupError (HttpClient Certificate Identity × TlsBackend) :=
  if !config.crlPemBundles.isEmpty && library.tlsBackend ≠ .rustls then
    .error (.config (.invalidTlsConfig
      "certificate revocation lists require the selected Rustls TLS backend"))
  else
    (config.crlPemBundles.forM fun bundle =>
      (build.crlsFromPemBundle bundle >>= fun _ => .ok ()).mapError SetupError.other) >>= fun _ =>
        let client :=
          { timeout := config.timeout
            connectTimeout := config.connectTimeout
            userAgent := config.userAgent
            httpsOnly
            minTlsVersion := config.minTlsVersion
            rootCertificateMode := config.rootCertificateMode
            rootCertificates := config.rootCertificates
            crlPemBundles := config.crlPemBundles
            clientIdentity := config.clientIdentity }
        (library.finish client).mapError .other >>= fun _ => .ok (client, library.tlsBackend)

/-- `ClientBuilder::build`. -/
def buildClient (config : OpenBaoConfig Certificate Identity) :
    Except SetupError (Client Certificate Identity) :=
  config.validate build >>= fun _ =>
    buildHttpClient build library config (config.httpPolicy = .httpsOnly) >>= fun http =>
      buildHttpClient build library config true >>= fun sensitive =>
        if http.2 ≠ sensitive.2 then
          .error (.other (.internal "OpenBao HTTP clients selected different TLS backends"))
        else .ok ⟨config, http.1, sensitive.1, http.2, none⟩

namespace Client

variable (client : Client Certificate Identity)

def validateTokenForHeader (token : Str) : Except Error Unit :=
  (tokenHeaderForValue token client.config.headerMode client.config.maxAuthTokenBytes).map fun _ => ()

def tryWithToken (token : Str) : Except Error (Client Certificate Identity) :=
  client.validateTokenForHeader token >>= fun _ => .ok { client with token := some token }

def cloneWithoutState : Client Certificate Identity := { client with token := none }

end Client

/-- The clients that a caller can hold. -/
inductive Built : Client Certificate Identity → Prop where
  | buildClient {config client} (hconfig : Reachable build config)
      (h : buildClient build library config = .ok client) : Built client
  | tryWithToken {client token next} (hclient : Built client)
      (h : client.tryWithToken token = .ok next) : Built next
  | cloneWithoutState {client} (hclient : Built client) : Built client.cloneWithoutState

end Clients

/-! ### Requests -/

abbrev HeaderMap := List (String × Bytes)

/-- The bytes of a body, or a stream of a declared length. -/
inductive Body where
  | bytes (bytes : Bytes)
  | stream (contentLength : ℕ)
  deriving DecidableEq, Repr

structure HttpRequest where
  method : Method
  url : Url
  headers : HeaderMap
  body : Option Body

def octetStream : Bytes := asBytes "application/octet-stream".toList
def formUrlencoded : Bytes := asBytes "application/x-www-form-urlencoded".toList

/-- `x-vault-request: true`. -/
def marker : String × Bytes := ("x-vault-request", asBytes "true".toList)

def isCleartextUrl (url : Url) : Bool := url.scheme ≠ "https".toList

/-- The library does not send it. -/
def HttpClient.sends (http : HttpClient Certificate Identity) (request : HttpRequest) : Bool :=
  !(http.httpsOnly && isCleartextUrl request.url)

section Requests

variable (build : Build) (library : HttpLibrary Certificate Identity)
  (client : Client Certificate Identity)

/-- A path segment as the URL shows it. -/
def encodeSegment (segment : Str) : Str := percentEncode library.keepsInSegment (asBytes segment)

def pathText (segments : List Str) : Str := '/' :: join '/' (segments.map (encodeSegment library))

def urlForPath (path : Str) : Except Error Url :=
  let url := client.config.baseUrl
  if library.cannotBeABase url then
    .error (.invalidBaseUrl "base URL cannot be a cannot-be-a-base URL")
  else
    (validateEndpointPath path).map fun segments =>
      { url with path := pathText library ("v1".toList :: segments) }

/-- `append_pair` for each pair. -/
def appendPairs (url : Url) (query : List (Str × Str)) : Url :=
  { url with query := some (serializeForm (query.map fun pair => (asBytes pair.1, asBytes pair.2))) }

def withQuery (url : Url) (query : List (Str × Str)) : Url :=
  if query = [] then url else appendPairs url query

def httpForSensitiveRequest : HttpClient Certificate Identity :=
  if client.config.sensitiveLocalHttpForTests then client.http else client.sensitiveHttp

def requireEncryptedTransportForSensitiveRequest (url : Url) : Except Error Unit :=
  if client.config.sensitiveLocalHttpForTests && isLoopbackUrl build.serializeIpv6 url then .ok ()
  else if isCleartextUrl url then
    .error (.invalidBaseUrl "refusing to send credentials or request bodies over plain HTTP")
  else .ok ()

/-- The namespace and the token, which every sender puts behind its other headers. -/
def insertIdentity (headers : HeaderMap) : Except Error HeaderMap :=
  let spaced : Except Error HeaderMap :=
    match client.config.namespacePath with
    | none => .ok headers
    | some path =>
      (sensitiveHeaderValue path).map fun value => insert "x-vault-namespace" value headers
  spaced >>= fun headers =>
    match client.token with
    | none => .ok headers
    | some token =>
      (tokenHeaderForValue token client.config.headerMode client.config.maxAuthTokenBytes).map
        fun header => insert header.1 header.2 headers

/-- A request and the HTTP client it is handed to. -/
abbrev Prepared (Certificate Identity : Type) := HttpClient Certificate Identity × HttpRequest

def sendNonSensitiveJsonRequest (method : Method) (url : Url) : Prepared Certificate Identity :=
  (client.http, ⟨method, url, insertAll [] [("accept", json), marker], none⟩)

def sendSensitiveJsonRequest (method : Method) (url : Url) (headers : HeaderMap)
    (body : Option Serialization) : Except Error (Prepared Certificate Identity) :=
  requireEncryptedTransportForSensitiveRequest build client url >>= fun _ =>
    insertIdentity client (insertAll (insertAll [] [("accept", json), marker]) headers) >>= fun table =>
      match body with
      | none => .ok (httpForSensitiveRequest client, ⟨method, url, table, none⟩)
      | some payload =>
        encodeBoundedJsonBody library.platform payload (.new client.config.maxRequestBytes) >>=
          fun encoded =>
            let hasContentType := headers.any fun header => header.1 == "content-type"
            let table := if hasContentType then table else insert "content-type" json table
            .ok (httpForSensitiveRequest client, ⟨method, url, table, some (.bytes encoded)⟩)

/-- The buffer is filled in one piece. -/
def encodeBytesBody (body : Bytes) : Except Error Bytes :=
  match SanitizingBodyBuffer.tryExtend library.platform (.new client.config.maxRequestBytes) body with
  | (.ok _, buffer) => .ok buffer.bytes.bytes
  | (.error e, _) => .error e

def sendSensitiveBytesRequest (method : Method) (url : Url) (headers : HeaderMap)
    (body : Option Bytes) : Except Error (Prepared Certificate Identity) :=
  requireEncryptedTransportForSensitiveRequest build client url >>= fun _ =>
    insertIdentity client (insertAll (insertAll [] headers) [marker]) >>= fun table =>
      match body with
      | none => .ok (httpForSensitiveRequest client, ⟨method, url, table, none⟩)
      | some body =>
        if client.config.maxRequestBytes < body.length then .error requestBodyTooLarge
        else
          let table :=
            if (get "content-type" table).isSome then table
            else insert "content-type" octetStream table
          (encodeBytesBody library client body).map fun encoded =>
            (httpForSensitiveRequest client, ⟨method, url, table, some (.bytes encoded)⟩)

/-- The transport was checked by the caller. -/
def sendSensitivePrevalidatedBodyRequest (method : Method) (url : Url) (headers : HeaderMap)
    (body : Body) : Except Error (Prepared Certificate Identity) :=
  (insertIdentity client (insertAll (insertAll [] headers) [marker])).map fun table =>
    (httpForSensitiveRequest client, ⟨method, url, table, some body⟩)

/-- What `append_form_component` hands to the buffer. -/
def componentPieces (value : Str) : List Bytes := (byteSerialize (asBytes value)).map asBytes

/-- What the loop over the fields hands to the buffer; it stops at the first refusal. -/
def formPieces : ℕ → List (Str × Str) → List Bytes
  | _, [] => []
  | index, (name, value) :: fields =>
    (if index ≠ 0 then [asBytes ['&']] else []) ++ componentPieces name ++
      asBytes ['='] :: componentPieces value ++ formPieces (index + 1) fields

def encodeFormBody (fields : List (Str × Str)) : Except Error Bytes :=
  match writePieces (SanitizingBodyBuffer.tryExtend library.platform)
      (.new client.config.maxRequestBytes) (formPieces 0 fields) with
  | (.ok (), buffer) => .ok buffer.bytes.bytes
  | (.error e, _) => .error e

/-- The calls of the senders of the client itself, behind the compatibility gate and the
resolution of their routes. `secretJson` stands for the three that read a JSON answer into a
secret buffer. A consistency context has a sender of its own, `ConsistencyContexts.execute`,
which may repeat a header. -/
inductive Call where
  | probe
  | json (method : Method) (path : Str) (query : List (Str × Str)) (headers : HeaderMap)
      (body : Option Serialization)
  | secretJson (method : Method) (path : Str) (query : List (Str × Str)) (headers : HeaderMap)
      (body : Option Serialization)
  | bytes (method : Method) (path : Str) (query : List (Str × Str)) (headers : HeaderMap)
      (body : Option Bytes)
  | form (method : Method) (path : Str) (headers : HeaderMap) (fields : List (Str × Str))
  | upload (method : Method) (path : Str) (contentLength : ℕ)
  | monitor (method : Method) (path : Str) (query : List (Str × Str))

def uploadHeaders (contentLength : ℕ) : HeaderMap :=
  [("content-type", octetStream), ("content-length", asBytes (Nat.toDigits 10 contentLength))]

def formHeaders (headers : HeaderMap) : HeaderMap :=
  headers ++ [("accept", json), ("content-type", formUrlencoded)]

/-- `is_sensitive` of a JSON request. -/
def isSensitive (query : List (Str × Str)) (headers : HeaderMap) (body : Option Serialization) :
    Bool :=
  client.token.isSome || client.config.namespacePath.isSome || !query.isEmpty ||
    !headers.isEmpty || body.isSome

def prepare : Call → Except Error (Prepared Certificate Identity)
  | .probe =>
    (urlForPath library client "sys/health".toList).map (sendNonSensitiveJsonRequest client "GET")
  | .json method path query headers body =>
    urlForPath library client path >>= fun url =>
      let url := withQuery url query
      if isSensitive client query headers body then
        sendSensitiveJsonRequest build library client method url headers body
      else .ok (sendNonSensitiveJsonRequest client method url)
  | .secretJson method path query headers body =>
    urlForPath library client path >>= fun url =>
      sendSensitiveJsonRequest build library client method (withQuery url query) headers body
  | .bytes method path query headers body =>
    urlForPath library client path >>= fun url =>
      sendSensitiveBytesRequest build library client method (withQuery url query) headers body
  | .form method path headers fields =>
    encodeFormBody library client fields >>= fun body =>
      urlForPath library client path >>= fun url =>
        requireEncryptedTransportForSensitiveRequest build client url >>= fun _ =>
          sendSensitivePrevalidatedBodyRequest client method url (formHeaders headers) (.bytes body)
  | .upload method path contentLength =>
    urlForPath library client path >>= fun url =>
      requireEncryptedTransportForSensitiveRequest build client url >>= fun _ =>
        sendSensitivePrevalidatedBodyRequest client method url (uploadHeaders contentLength)
          (.stream contentLength)
  | .monitor method path query =>
    urlForPath library client path >>= fun url =>
      sendSensitiveBytesRequest build library client method (appendPairs url query) [] none

end Requests

/-! ### What a call says about its request -/

namespace Call

def method : Call → Method
  | probe => "GET"
  | json method .. | secretJson method .. | bytes method .. | form method .. | upload method ..
  | monitor method .. => method

def path : Call → Str
  | probe => "sys/health".toList
  | json _ path .. | secretJson _ path .. | bytes _ path .. | form _ path .. | upload _ path ..
  | monitor _ path .. => path

def query : Call → List (Str × Str)
  | json _ _ query .. | secretJson _ _ query .. | bytes _ _ query .. | monitor _ _ query => query
  | probe | form .. | upload .. => []

/-- The headers that a caller or the kind of the call supplies. -/
def supplied : Call → HeaderMap
  | json _ _ _ headers _ | secretJson _ _ _ headers _ | bytes _ _ _ headers _ => headers
  | form _ _ headers _ => formHeaders headers
  | upload _ _ contentLength => uploadHeaders contentLength
  | probe | monitor .. => []

/-- The headers that override the supplied ones. -/
def forced : Call → HeaderMap
  | probe | json .. | secretJson .. => []
  | bytes .. | form .. | upload .. | monitor .. => [marker]

/-- The headers that a supplied one overrides. -/
def defaults : Call → HeaderMap
  | probe => [("accept", ConsistencyContexts.json), marker]
  | json _ _ _ _ body | secretJson _ _ _ _ body =>
    [("accept", ConsistencyContexts.json), marker] ++
      if body.isSome then [("content-type", ConsistencyContexts.json)] else []
  | bytes _ _ _ _ body => if body.isSome then [("content-type", octetStream)] else []
  | form .. | upload .. | monitor .. => []

/-- The call goes to the sensitive client. -/
def sensitive (client : Client Certificate Identity) : Call → Bool
  | probe => false
  | json _ _ query headers body => isSensitive client query headers body
  | _ => true

end Call

def tokenEntry (token : Str) : HeaderMode → String × Bytes
  | .vaultToken => ("x-vault-token", asBytes token)
  | .bearer => ("authorization", asBytes ("Bearer ".toList ++ token))

/-- The headers that say who the client is. -/
def identityHeaders (client : Client Certificate Identity) : HeaderMap :=
  (client.config.namespacePath.toList.map fun path => ("x-vault-namespace", asBytes path)) ++
    client.token.toList.map fun token => tokenEntry token client.config.headerMode

section Headers

variable {build : Build} {library : HttpLibrary Certificate Identity}
  {client : Client Certificate Identity}

theorem sensitiveHeaderValue_eq_ok {value : Str} {bytes : Bytes}
    (h : sensitiveHeaderValue value = .ok bytes) : bytes = asBytes value := by
  unfold sensitiveHeaderValue ConsistencyIndices.headerValueFromStr at h
  split at h
  · next value' hvalue =>
    obtain rfl := Except.ok.inj h
    split at hvalue
    · exact (Option.some.inj hvalue).symm
    · cases hvalue
  · cases h

/-- The header of an accepted token. -/
theorem tokenHeaderForValue_eq_ok {token : Str} {headerMode : HeaderMode} {limit : ℕ}
    {header : String × Bytes} (h : tokenHeaderForValue token headerMode limit = .ok header) :
    header = tokenEntry token headerMode := by
  unfold tokenHeaderForValue at h
  split at h
  · cases h
  split at h
  · cases h
  split at h
  · cases h
  cases headerMode with
  | vaultToken =>
    dsimp only at h
    cases hvalue : sensitiveHeaderValue token with
    | error e => rw [hvalue] at h; cases h
    | ok value =>
      rw [hvalue] at h
      rw [← Except.ok.inj h, sensitiveHeaderValue_eq_ok hvalue]
      rfl
  | bearer =>
    dsimp only at h
    split at h
    · next value hvalue =>
      rw [← Except.ok.inj h, sensitiveHeaderValue_eq_ok hvalue]
      rfl
    · cases h

/-- Every part of the identity is inserted. -/
theorem insertIdentity_eq_ok {headers table : HeaderMap} (h : insertIdentity client headers = .ok table) :
    table = insertAll headers (identityHeaders client) := by
  obtain ⟨spaced, hspaced, h⟩ := bind_eq_ok_iff.mp h
  have hspace : spaced = insertAll headers (client.config.namespacePath.toList.map fun path =>
      ("x-vault-namespace", asBytes path)) := by
    cases hpath : client.config.namespacePath with
    | none =>
      rw [hpath] at hspaced
      exact (Except.ok.inj hspaced).symm
    | some path =>
      rw [hpath] at hspaced
      dsimp only at hspaced
      cases hvalue : sensitiveHeaderValue path with
      | error e => rw [hvalue] at hspaced; cases hspaced
      | ok value =>
        rw [hvalue] at hspaced
        rw [← Except.ok.inj hspaced, sensitiveHeaderValue_eq_ok hvalue]
        rfl
  rw [identityHeaders, insertAll_append, ← hspace]
  cases htoken : client.token with
  | none =>
    rw [htoken] at h
    exact (Except.ok.inj h).symm
  | some token =>
    rw [htoken] at h
    dsimp only at h
    cases hheader : tokenHeaderForValue token client.config.headerMode
        client.config.maxAuthTokenBytes with
    | error e => rw [hheader] at h; cases h
    | ok header =>
      rw [hheader] at h
      rw [← Except.ok.inj h, tokenHeaderForValue_eq_ok hheader]
      rfl

/-- What stands under a name: the identity of the client, before the forced headers, before
the supplied ones, of which the last counts, before the defaults. -/
def expectedHeader (client : Client Certificate Identity) (call : Call) (name : String) :
    Option Bytes :=
  (get name (identityHeaders client).reverse).or
    ((get name call.forced).or ((get name call.supplied.reverse).or (get name call.defaults)))

/-- The table of a request that was put together in the order of the JSON sender. -/
theorem get_table_defaults (headers identity : HeaderMap) (name : String) :
    get name (insertAll (insertAll (insertAll [] [("accept", json), marker]) headers) identity) =
      (get name identity.reverse).or ((get name headers.reverse).or
        (get name [("accept", json), marker])) := by
  have hdefaults : insertAll [] [("accept", json), marker] = [("accept", json), marker] := rfl
  rw [hdefaults, get_insertAll, get_insertAll]

/-- And in the order of the others. -/
theorem get_table_forced (headers identity : HeaderMap) (name : String) :
    get name (insertAll (insertAll (insertAll [] headers) [marker]) identity) =
      (get name identity.reverse).or ((get name [marker]).or (get name headers.reverse)) := by
  rw [get_insertAll, get_insertAll, get_insertAll, get_nil, Option.or_none]
  rfl

theorem tokenEntry_name (token : Str) (headerMode : HeaderMode) :
    (tokenEntry token headerMode).1 = "x-vault-token" ∨
      (tokenEntry token headerMode).1 = "authorization" := by
  cases headerMode with
  | vaultToken => exact .inl rfl
  | bearer => exact .inr rfl

theorem contentType_not_identity : get "content-type" (identityHeaders client).reverse = none := by
  have hnot : "content-type" ∉ (identityHeaders client).reverse.map Prod.fst := by
    intro hmem
    obtain ⟨entry, hentry, hname⟩ := List.mem_map.mp hmem
    rw [List.mem_reverse, identityHeaders, List.mem_append] at hentry
    rcases hentry with hentry | hentry
    · obtain ⟨path, -, rfl⟩ := List.mem_map.mp hentry
      have heq : "x-vault-namespace" = "content-type" := hname
      exact absurd heq (by decide)
    · obtain ⟨token, -, rfl⟩ := List.mem_map.mp hentry
      rcases tokenEntry_name token client.config.headerMode with h | h
      · exact absurd (h.symm.trans hname) (by decide)
      · exact absurd (h.symm.trans hname) (by decide)
  rw [← get_isSome_iff] at hnot
  simpa using hnot

theorem get_contentType_isSome_iff {headers : HeaderMap} :
    (get "content-type" headers.reverse).isSome =
      headers.any fun header => header.1 == "content-type" := by
  rw [Bool.eq_iff_iff, get_isSome_iff, List.any_eq_true]
  simp

/-- A content type that is inserted unless there is one is a default. -/
theorem get_insert_contentType {table : HeaderMap} {value : Bytes} {name : String} :
    get name (if (get "content-type" table).isSome then table
      else insert "content-type" value table) =
        (get name table).or (get name [("content-type", value)]) := by
  split
  · next hsome =>
    rw [get_cons, get_nil]
    split
    · next hname =>
      rw [← hname]
      obtain ⟨bytes, hbytes⟩ := Option.isSome_iff_exists.mp hsome
      rw [hbytes, Option.some_or]
    · rw [Option.or_none]
  · next hnone =>
    rw [get_insert, get_cons, get_nil]
    split
    · next hname =>
      rw [Option.not_isSome_iff_eq_none] at hnone
      rw [← hname, hnone, Option.none_or]
    · rw [Option.or_none]

theorem names_nodup (headers more identity : HeaderMap) :
    ((insertAll (insertAll (insertAll [] headers) more) identity).map Prod.fst).Nodup :=
  keys_insertAll_nodup (keys_insertAll_nodup (keys_insertAll_nodup List.nodup_nil))

/-- What every sensitive sender keeps: the checked transport, the address, one value for each
header name. -/
structure Outgoing (build : Build) (client : Client Certificate Identity) (method : Method)
    (url : Url) (prepared : Prepared Certificate Identity) : Prop where
  encrypted : requireEncryptedTransportForSensitiveRequest build client url = .ok ()
  http : prepared.1 = httpForSensitiveRequest client
  method : prepared.2.method = method
  url : prepared.2.url = url
  names : (prepared.2.headers.map Prod.fst).Nodup

variable {method : Method} {url : Url} {headers : HeaderMap}
  {prepared : Prepared Certificate Identity}

theorem sendSensitiveJsonRequest_eq_ok {body : Option Serialization}
    (h : sendSensitiveJsonRequest build library client method url headers body = .ok prepared) :
    Outgoing build client method url prepared ∧
      ∀ name, get name prepared.2.headers = (get name (identityHeaders client).reverse).or
        ((get name headers.reverse).or (get name ([("accept", json), marker] ++
          if body.isSome then [("content-type", json)] else []))) := by
  obtain ⟨hencrypted, h⟩ := bind_unit_eq_ok_iff.mp h
  obtain ⟨table, htable, h⟩ := bind_eq_ok_iff.mp h
  have htable := insertIdentity_eq_ok htable
  have hnames := names_nodup [("accept", json), marker] headers (identityHeaders client)
  rw [← htable] at hnames
  cases body with
  | none =>
    obtain rfl := Except.ok.inj h
    refine ⟨⟨hencrypted, rfl, rfl, rfl, hnames⟩, fun name => ?_⟩
    rw [htable]
    exact get_table_defaults _ _ name
  | some payload =>
    obtain ⟨encoded, -, h⟩ := bind_eq_ok_iff.mp h
    obtain rfl := Except.ok.inj h
    have hany : (headers.any fun header => header.1 == "content-type") =
        (get "content-type" table).isSome := by
      rw [htable, get_table_defaults, contentType_not_identity, Option.none_or, Option.isSome_or,
        get_contentType_isSome_iff]
      exact (Bool.or_false _).symm
    have hname : ∀ name, get name (if headers.any fun header => header.1 == "content-type" then table
        else insert "content-type" json table) =
          (get name table).or (get name [("content-type", json)]) := by
      rw [hany]
      exact fun name => get_insert_contentType
    refine ⟨⟨hencrypted, rfl, rfl, rfl, ?_⟩, fun name => ?_⟩
    · dsimp only
      split
      · exact hnames
      · exact keys_insert_nodup hnames
    · refine (hname name).trans ?_
      rw [htable, get_table_defaults, Option.or_assoc, Option.or_assoc, ← get_append]
      rfl

theorem sendSensitiveBytesRequest_eq_ok {body : Option Bytes}
    (h : sendSensitiveBytesRequest build library client method url headers body = .ok prepared) :
    Outgoing build client method url prepared ∧
      ∀ name, get name prepared.2.headers = (get name (identityHeaders client).reverse).or
        ((get name [marker]).or ((get name headers.reverse).or
          (get name (if body.isSome then [("content-type", octetStream)] else [])))) := by
  obtain ⟨hencrypted, h⟩ := bind_unit_eq_ok_iff.mp h
  obtain ⟨table, htable, h⟩ := bind_eq_ok_iff.mp h
  have htable := insertIdentity_eq_ok htable
  have hnames := names_nodup headers [marker] (identityHeaders client)
  rw [← htable] at hnames
  cases body with
  | none =>
    obtain rfl := Except.ok.inj h
    refine ⟨⟨hencrypted, rfl, rfl, rfl, hnames⟩, fun name => ?_⟩
    refine (congrArg (get name) htable).trans ?_
    rw [get_table_forced]
    change _ = (get name _).or ((get name [marker]).or ((get name headers.reverse).or none))
    rw [Option.or_none]
  | some body =>
    dsimp only at h
    split at h
    · cases h
    · cases hencoded : encodeBytesBody library client body with
      | error e =>
        rw [hencoded] at h
        cases h
      | ok encoded =>
        rw [hencoded] at h
        obtain rfl := Except.ok.inj h
        refine ⟨⟨hencrypted, rfl, rfl, rfl, ?_⟩, fun name => ?_⟩
        · dsimp only
          split
          · exact hnames
          · exact keys_insert_nodup hnames
        · refine get_insert_contentType.trans ?_
          rw [htable, get_table_forced, Option.or_assoc, Option.or_assoc]
          rfl

theorem sendSensitivePrevalidatedBodyRequest_eq_ok {body : Body}
    (hencrypted : requireEncryptedTransportForSensitiveRequest build client url = .ok ())
    (h : sendSensitivePrevalidatedBodyRequest client method url headers body = .ok prepared) :
    Outgoing build client method url prepared ∧ prepared.2.body = some body ∧
      ∀ name, get name prepared.2.headers = (get name (identityHeaders client).reverse).or
        ((get name [marker]).or (get name headers.reverse)) := by
  unfold sendSensitivePrevalidatedBodyRequest at h
  cases htable : insertIdentity client (insertAll (insertAll [] headers) [marker]) with
  | error e =>
    rw [htable] at h
    cases h
  | ok table =>
    rw [htable] at h
    obtain rfl := Except.ok.inj h
    have htable := insertIdentity_eq_ok htable
    have hnames := names_nodup headers [marker] (identityHeaders client)
    rw [← htable] at hnames
    refine ⟨⟨hencrypted, rfl, rfl, rfl, hnames⟩, rfl, fun name => ?_⟩
    refine (congrArg (get name) htable).trans ?_
    rw [get_table_forced]

/-- The address of a call behind the path. -/
def Call.address (url : Url) : Call → Url
  | .monitor _ _ query => appendPairs url query
  | call => withQuery url call.query

/-- What leaves the client for a sensitive call. -/
theorem prepare_sensitive {call : Call} (hcall : call.sensitive client = true)
    (h : prepare build library client call = .ok prepared) :
    ∃ url, urlForPath library client call.path = .ok url ∧
      Outgoing build client call.method (call.address url) prepared ∧
      ∀ name, get name prepared.2.headers = expectedHeader client call name := by
  cases call with
  | probe => cases hcall
  | json method path query headers body =>
    obtain ⟨url, hurl, h⟩ := bind_eq_ok_iff.mp h
    rw [show isSensitive client query headers body = true from hcall, if_pos rfl] at h
    obtain ⟨hout, hheaders⟩ := sendSensitiveJsonRequest_eq_ok h
    exact ⟨url, hurl, hout, hheaders⟩
  | secretJson method path query headers body =>
    obtain ⟨url, hurl, h⟩ := bind_eq_ok_iff.mp h
    obtain ⟨hout, hheaders⟩ := sendSensitiveJsonRequest_eq_ok h
    exact ⟨url, hurl, hout, hheaders⟩
  | bytes method path query headers body =>
    obtain ⟨url, hurl, h⟩ := bind_eq_ok_iff.mp h
    obtain ⟨hout, hheaders⟩ := sendSensitiveBytesRequest_eq_ok h
    exact ⟨url, hurl, hout, hheaders⟩
  | form method path headers fields =>
    obtain ⟨body, hbody, h⟩ := bind_eq_ok_iff.mp h
    obtain ⟨url, hurl, h⟩ := bind_eq_ok_iff.mp h
    obtain ⟨hencrypted, h⟩ := bind_unit_eq_ok_iff.mp h
    obtain ⟨hout, -, hheaders⟩ := sendSensitivePrevalidatedBodyRequest_eq_ok hencrypted h
    refine ⟨url, hurl, hout, fun name => (hheaders name).trans ?_⟩
    change _ = (get name _).or ((get name [marker]).or ((get name _).or none))
    rw [Option.or_none]
    rfl
  | upload method path contentLength =>
    obtain ⟨url, hurl, h⟩ := bind_eq_ok_iff.mp h
    obtain ⟨hencrypted, h⟩ := bind_unit_eq_ok_iff.mp h
    obtain ⟨hout, -, hheaders⟩ := sendSensitivePrevalidatedBodyRequest_eq_ok hencrypted h
    refine ⟨url, hurl, hout, fun name => (hheaders name).trans ?_⟩
    change _ = (get name _).or ((get name [marker]).or ((get name _).or none))
    rw [Option.or_none]
    rfl
  | monitor method path query =>
    obtain ⟨url, hurl, h⟩ := bind_eq_ok_iff.mp h
    obtain ⟨hout, hheaders⟩ := sendSensitiveBytesRequest_eq_ok h
    exact ⟨url, hurl, hout, hheaders⟩

/-- What leaves it for another. -/
theorem prepare_public {call : Call} (hcall : call.sensitive client = false)
    (h : prepare build library client call = .ok prepared) :
    ∃ url, urlForPath library client call.path = .ok url ∧ call.query = [] ∧
      prepared = sendNonSensitiveJsonRequest client call.method url := by
  cases call with
  | probe =>
    change (urlForPath library client _).map _ = _ at h
    cases hurl : urlForPath library client "sys/health".toList with
    | error e =>
      rw [hurl] at h
      cases h
    | ok url =>
      rw [hurl] at h
      exact ⟨url, hurl, rfl, (Except.ok.inj h).symm⟩
  | json method path query headers body =>
    obtain ⟨url, hurl, h⟩ := bind_eq_ok_iff.mp h
    have hplain : isSensitive client query headers body = false := hcall
    rw [hplain, if_neg (by decide)] at h
    have hquery : query = [] := by
      simp only [isSensitive, Bool.or_eq_false_iff, Bool.not_eq_false', List.isEmpty_iff] at hplain
      exact hplain.1.1.2
    refine ⟨url, hurl, hquery, ?_⟩
    rw [hquery] at h
    exact (Except.ok.inj h).symm
  | secretJson | bytes | form | upload | monitor => cases hcall

end Headers

end OpenBao.ClientTransport
