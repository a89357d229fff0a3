import OpenBao.TransportSafety

/-!
# What a request says

A prepared request spells the path of its call, the query and the body so that a server reads
back what the caller gave, and a client prepares every call whose path, transport and body
allow it.
-/

namespace OpenBao.ClientTransport
open BoundedLogs ClientConfigs ConsistencyContexts ConsistencyIndices InsertionTables LoopbackHttp
  PathValidation PercentCoding RegisteredRoutes RequestBodyBuffers Utf8Text

variable {Certificate Identity : Type}

/-- What the documentation of the URL library says: a segment shows no slash and no percent
sign as it is, and the URLs of a web server have segments. -/
structure UrlRules (library : HttpLibrary Certificate Identity) : Prop where
  plain : ∀ byte, Plain library.keepsInSegment byte
  slash : ∀ byte, library.keepsInSegment byte = true → Char.ofNat byte.toNat ≠ '/'
  base : ∀ url : Url, url.scheme = "https".toList ∨ url.scheme = "http".toList →
    library.cannotBeABase url = false

/-- The segments of a path as a server reads them. -/
def readPath (path : Str) : List Bytes := ((path.drop 1).splitOn '/').map percentDecode

def readQuery (url : Url) : List (Bytes × Bytes) := (url.query.map parseForm).getD []

def pairBytes (pair : Str × Str) : Bytes × Bytes := (asBytes pair.1, asBytes pair.2)

section Addresses

variable {build : Build} {library : HttpLibrary Certificate Identity}
  {client : Client Certificate Identity} {call : Call}
  {prepared : Prepared Certificate Identity}

theorem percentDecode_encodeSegment (hurls : UrlRules library) (segment : Str) :
    percentDecode (encodeSegment library segment) = asBytes segment :=
  percentDecode_percentEncode fun byte _ => hurls.plain byte

theorem slash_not_mem_encodeSegment (hurls : UrlRules library) (segment : Str) :
    '/' ∉ encodeSegment library segment :=
  not_mem_percentEncode (by decide) (by decide) fun byte _ => hurls.slash byte

/-- Escaping keeps the segments apart. -/
theorem readPath_pathText (hurls : UrlRules library) {segments : List Str} (h : segments ≠ []) :
    readPath (pathText library segments) = segments.map asBytes := by
  have hsplit : (join '/' (segments.map (encodeSegment library))).splitOn '/' =
      segments.map (encodeSegment library) := by
    refine List.splitOn_intercalate '/' (fun piece hpiece => ?_) (by simpa using h)
    obtain ⟨segment, -, rfl⟩ := List.mem_map.mp hpiece
    exact slash_not_mem_encodeSegment hurls segment
  rw [readPath, pathText, List.drop_one, List.tail_cons, hsplit, List.map_map]
  exact List.map_congr_left fun segment _ => percentDecode_encodeSegment hurls segment

theorem readQuery_appendPairs (url : Url) (query : List (Str × Str)) :
    readQuery (appendPairs url query) = query.map pairBytes :=
  parseForm_serializeForm _

theorem readQuery_address {url : Url} (hurl : url.query = none) :
    readQuery (call.address url) = call.query.map pairBytes := by
  have hwith : ∀ query, readQuery (withQuery url query) = query.map pairBytes := by
    intro query
    unfold withQuery
    split
    · next hempty =>
      rw [hempty, readQuery, hurl]
      rfl
    · exact readQuery_appendPairs url query
  cases call with
  | monitor => exact readQuery_appendPairs url _
  | probe | json | secretJson | bytes | form | upload => exact hwith _

theorem address_path (url : Url) : (call.address url).path = url.path := by
  have hwith : ∀ query, (withQuery url query).path = url.path := by
    intro query
    unfold withQuery
    split <;> rfl
  cases call with
  | monitor => rfl
  | probe | json | secretJson | bytes | form | upload => exact hwith _

/-- Where a request goes: to the configured server, under `v1`, to the segments of the path
that was validated, with the pairs that the caller gave. -/
theorem read_address (hurls : UrlRules library) (hsound : Sound build client)
    (h : prepare build library client call = .ok prepared) :
    ∃ segments, validateEndpointPath call.path = .ok segments ∧
      SameServer prepared.2.url client.config.baseUrl ∧
      readPath prepared.2.url.path = ("v1".toList :: segments).map asBytes ∧
      readQuery prepared.2.url = call.query.map pairBytes := by
  obtain ⟨segments, hpath, hurl⟩ := prepare_url h
  refine ⟨segments, hpath, prepare_sameServer h, ?_, ?_⟩
  · rw [hurl, address_path]
    exact readPath_pathText hurls (List.cons_ne_nil _ _)
  · rw [hurl]
    exact readQuery_address hsound.base_query

end Addresses

/-! ### Bodies -/

/-- The payload that a call serializes. -/
def Call.payload : Call → Option Serialization
  | .json _ _ _ _ body | .secretJson _ _ _ _ body => body
  | .probe | .bytes .. | .form .. | .upload .. | .monitor .. => none

/-- The body of a call. -/
def Call.content : Call → Option Body
  | .json _ _ _ _ body | .secretJson _ _ _ _ body =>
    body.map fun payload => .bytes payload.pieces.flatten
  | .bytes _ _ _ _ body => body.map .bytes
  | .form _ _ _ fields => some (.bytes (asBytes (serializeForm (fields.map pairBytes))))
  | .upload _ _ contentLength => some (.stream contentLength)
  | .probe | .monitor .. => none

/-- The body can be serialized and is within the limit of the client. -/
structure Call.Sendable (limit : ℕ) (call : Call) : Prop where
  complete : ∀ payload, call.payload = some payload → payload.fails = false
  fits : ∀ bytes, call.content = some (.bytes bytes) → bytes.length ≤ limit

section Bodies

variable {build : Build} {library : HttpLibrary Certificate Identity}
  {client : Client Certificate Identity} {call : Call}
  {prepared : Prepared Certificate Identity}

theorem flatten_componentPieces (value : Str) :
    (componentPieces value).flatten = asBytes (formComponent (asBytes value)) := by
  rw [componentPieces, ← byteSerialize_flatten, asBytes_flatten]

theorem flatten_fieldPieces (field : Str × Str) (rest : List Bytes) :
    (componentPieces field.1 ++ asBytes ['='] :: componentPieces field.2 ++ rest).flatten =
      asBytes (formPair (pairBytes field)) ++ rest.flatten := by
  have hpair : asBytes (formPair (pairBytes field)) =
      (componentPieces field.1).flatten ++ (asBytes ['='] ++ (componentPieces field.2).flatten) := by
    rw [flatten_componentPieces, flatten_componentPieces, ← asBytes_append, ← asBytes_append]
    rfl
  rw [hpair]
  simp

/-- A field after another one brings its ampersand. -/
theorem asBytes_serializeForm_cons (index : ℕ) (field : Str × Str) (fields : List (Str × Str)) :
    asBytes (serializeForm (pairBytes field :: fields.map pairBytes)) =
      asBytes (formPair (pairBytes field)) ++ (formPieces (index + 1) fields).flatten := by
  induction fields generalizing index field with
  | nil => simp [serializeForm, formPieces, join]
  | cons next fields ih =>
    have hjoin : serializeForm (pairBytes field :: (next :: fields).map pairBytes) =
        formPair (pairBytes field) ++
          (['&'] ++ serializeForm (pairBytes next :: fields.map pairBytes)) := by
      simp [serializeForm, join, List.intercalate_cons_cons]
    have hpieces : (formPieces (index + 1) (next :: fields)).flatten = asBytes ['&'] ++
        (componentPieces next.1 ++ asBytes ['='] :: componentPieces next.2 ++
          formPieces (index + 1 + 1) fields).flatten := by
      simp [formPieces]
    rw [hjoin, asBytes_append, asBytes_append, ih (index + 1), hpieces, flatten_fieldPieces]

/-- What the loop hands to the buffer is the form. -/
theorem flatten_formPieces (fields : List (Str × Str)) :
    (formPieces 0 fields).flatten = asBytes (serializeForm (fields.map pairBytes)) := by
  cases fields with
  | nil => rfl
  | cons field fields =>
    rw [List.map_cons, asBytes_serializeForm_cons 0, formPieces, if_neg (by simp), List.nil_append,
      flatten_fieldPieces]

theorem encodeFormBody_eq (fields : List (Str × Str)) : encodeFormBody library client fields =
    if (asBytes (serializeForm (fields.map pairBytes))).length ≤ client.config.maxRequestBytes then
      .ok (asBytes (serializeForm (fields.map pairBytes)))
    else .error requestBodyTooLarge := by
  have hbuffer := sanitizingBodyBuffer_implements library.platform client.config.maxRequestBytes
  have hstart : SanitizingBodyBuffer.Represents (.new client.config.maxRequestBytes)
      (.empty : BoundedLog UInt8 client.config.maxRequestBytes) := ⟨rfl, rfl, rfl⟩
  have hadmits : (BoundedLog.empty : BoundedLog UInt8 client.config.maxRequestBytes).Admits
      (formPieces 0 fields).flatten ↔
        (asBytes (serializeForm (fields.map pairBytes))).length ≤ client.config.maxRequestBytes := by
    rw [flatten_formPieces, BoundedLog.Admits, BoundedLog.empty, List.length_nil, Nat.zero_add]
  rw [encodeFormBody]
  split_ifs with hfits
  · obtain ⟨buffer, log, hwrite, hlog, hheld, -⟩ := hbuffer.writePieces_ok hstart (hadmits.mpr hfits)
    rw [hwrite]
    dsimp only
    rw [hlog.1, hheld, flatten_formPieces]
    rfl
  · obtain ⟨buffer, log, hwrite, -, -⟩ := hbuffer.writePieces_error hstart (mt hadmits.mp hfits)
    rw [hwrite]

/-- Within the limit, which the caller has checked. -/
theorem encodeBytesBody_of_le {body : Bytes} (h : body.length ≤ client.config.maxRequestBytes) :
    encodeBytesBody library client body = .ok body := by
  have hbuffer := sanitizingBodyBuffer_implements library.platform client.config.maxRequestBytes
  have hstart : SanitizingBodyBuffer.Represents (.new client.config.maxRequestBytes)
      (.empty : BoundedLog UInt8 client.config.maxRequestBytes) := ⟨rfl, rfl, rfl⟩
  have hadmits : (BoundedLog.empty : BoundedLog UInt8 client.config.maxRequestBytes).Admits body := by
    rwa [BoundedLog.Admits, BoundedLog.empty, List.length_nil, Nat.zero_add]
  have hresult := hbuffer.result _ _ body hstart
  have hstep := hbuffer.step _ _ body hstart
  rw [if_pos hadmits] at hresult
  rw [encodeBytesBody, ← Prod.eta (SanitizingBodyBuffer.tryExtend _ _ _), hresult]
  dsimp only
  rw [hstep.1, (BoundedLog.offer_of_admits hadmits).1]
  rfl

theorem encodeBoundedJsonBody_law (platform : Platform) (limit : ℕ) :
    EncodeLaw (encodeBoundedJsonBody platform · (.new limit)) limit :=
  encodeLaw_of_implements (sanitizingBodyBuffer_implements platform limit)
    (show SanitizingBodyBuffer.Represents (.new limit) .empty from ⟨rfl, rfl, rfl⟩)
    (fun _ _ h => ⟨h.1, h.2.1⟩) fun _ => rfl

end Bodies

/-! ### Which calls are prepared -/

section Success

variable {build : Build} {library : HttpLibrary Certificate Identity}
  {client : Client Certificate Identity} {call : Call} {method : Method} {url : Url}
  {headers : HeaderMap} {prepared : Prepared Certificate Identity}

theorem isHeaderByte_of_allowed {c : Char} (h : allowedChar c = true) :
    isHeaderByte (asciiByte c) = true := by
  have hall : ∀ n : Fin 256, pathByteIsForbidden (UInt8.ofNat n) = false →
      isHeaderByte (UInt8.ofNat n) = true := by decide +kernel
  obtain ⟨-, hbyte⟩ := Bool.and_eq_true_iff.mp h
  have hresult := hall ⟨(asciiByte c).toNat, UInt8.toNat_lt_size _⟩
  rw [UInt8.ofNat_toNat] at hresult
  exact hresult (by simpa using hbyte)

/-- A namespace that was validated can be a header. -/
theorem sensitiveHeaderValue_of_path {path : Str} {segments : List Str}
    (h : validateMountPath path = .ok segments) : sensitiveHeaderValue path = .ok (asBytes path) := by
  obtain ⟨-, hallowed, -, -⟩ := validatePath_eq_ok_iff.mp h
  have hascii : isAscii path = true := isAscii_iff.mpr fun c hc => by
    have hchar := hallowed c hc
    simp only [allowedChar, Bool.and_eq_true, decide_eq_true_eq] at hchar
    exact hchar.1
  have hbytes : (asBytes path).all isHeaderByte = true := by
    rw [asBytes_eq_map hascii, List.all_map, List.all_eq_true]
    exact fun c hc => isHeaderByte_of_allowed (hallowed c hc)
  rw [sensitiveHeaderValue, headerValueFromStr, if_pos hbytes]

/-- The identity of a client is never refused. -/
theorem insertIdentity_of_sound (h : Sound build client) (headers : HeaderMap) :
    insertIdentity client headers = .ok (insertAll headers (identityHeaders client)) := by
  have hpaths : ∀ path, client.config.namespacePath = some path →
      ∃ value, sensitiveHeaderValue path = .ok value := by
    intro path hpath
    obtain ⟨segments, hsegments, -⟩ := h.config.valid.namespacePath path hpath
    exact ⟨_, sensitiveHeaderValue_of_path hsegments⟩
  have htokens : ∀ token, client.token = some token → ∃ header, tokenHeaderForValue token
      client.config.headerMode client.config.maxAuthTokenBytes = .ok header := by
    intro token htoken
    have hheader := h.token token htoken
    rw [Client.validateTokenForHeader] at hheader
    cases hvalue : tokenHeaderForValue token client.config.headerMode
        client.config.maxAuthTokenBytes with
    | error e =>
      rw [hvalue] at hheader
      cases hheader
    | ok header => exact ⟨header, rfl⟩
  have hok : ∃ table, insertIdentity client headers = .ok table := by
    simp only [insertIdentity, bind_eq_ok_iff]
    cases hpath : client.config.namespacePath with
    | none =>
      cases htoken : client.token with
      | none => exact ⟨_, _, rfl, rfl⟩
      | some token =>
        obtain ⟨header, hheader⟩ := htokens token htoken
        exact ⟨_, _, rfl, by dsimp only; rw [hheader]; rfl⟩
    | some path =>
      obtain ⟨value, hvalue⟩ := hpaths path hpath
      simp only [hvalue]
      cases htoken : client.token with
      | none => exact ⟨_, _, rfl, rfl⟩
      | some token =>
        obtain ⟨header, hheader⟩ := htokens token htoken
        exact ⟨_, _, rfl, by dsimp only; rw [hheader]; rfl⟩
  obtain ⟨table, htable⟩ := hok
  rw [htable, insertIdentity_eq_ok htable]

theorem Sound.base_scheme (h : Sound build client) :
    client.config.baseUrl.scheme = "https".toList ∨ client.config.baseUrl.scheme = "http".toList :=
  (ClientConfigs.validate_eq_ok_iff.mp h.valid).2.2.2.2.imp id fun hhttp => hhttp.1

/-- A path is refused only by its own validation. -/
theorem urlForPath_of_sound (hurls : UrlRules library) (h : Sound build client) (path : Str) :
    (∃ url, urlForPath library client path = .ok url) ↔
      ∃ segments, validateEndpointPath path = .ok segments := by
  have hbase := hurls.base _ h.base_scheme
  constructor
  · rintro ⟨url, hurl⟩
    obtain ⟨segments, hsegments, -⟩ := urlForPath_eq_ok hurl
    exact ⟨segments, hsegments⟩
  · rintro ⟨segments, hsegments⟩
    rw [urlForPath, hbase, hsegments]
    exact ⟨_, rfl⟩

/-- The check of the transport asks for HTTPS or the opt-in for tests. -/
theorem requireEncryptedTransport_iff (h : Sound build client)
    (hserver : SameServer url client.config.baseUrl) :
    requireEncryptedTransportForSensitiveRequest build client url = .ok () ↔
      client.config.baseUrl.scheme = "https".toList ∨
        client.config.sensitiveLocalHttpForTests = true := by
  have hloopback : isLoopbackUrl build.serializeIpv6 url =
      isLoopbackUrl build.serializeIpv6 client.config.baseUrl := by
    rw [isLoopbackUrl, isLoopbackUrl, hserver.host]
  unfold requireEncryptedTransportForSensitiveRequest
  rw [hloopback]
  split_ifs with htests hclear
  · rw [Bool.and_eq_true] at htests
    exact iff_of_true rfl (.inr htests.1)
  · rw [isCleartextUrl, decide_eq_true_eq, hserver.scheme] at hclear
    refine iff_of_false (by intro h; cases h) fun hallowed => ?_
    have htest := hallowed.resolve_left hclear
    have htransport := (h.config.valid.optIn (h.config.valid.testOnly htest)).resolve_left hclear
    rw [htest, htransport.2.2] at htests
    exact htests rfl
  · rw [isCleartextUrl, decide_eq_true_eq, not_not, hserver.scheme] at hclear
    exact iff_of_true rfl (.inl hclear)

/-- What a payload needs, and the body that it becomes. -/
theorem sendSensitiveJsonRequest_iff (h : Sound build client) {body : Option Serialization} :
    (∃ prepared, sendSensitiveJsonRequest build library client method url headers body =
      .ok prepared) ↔
        requireEncryptedTransportForSensitiveRequest build client url = .ok () ∧
          ∀ payload, body = some payload → payload.fails = false ∧
            payload.pieces.flatten.length ≤ client.config.maxRequestBytes := by
  have hlaw := encodeBoundedJsonBody_law library.platform client.config.maxRequestBytes
  constructor
  · rintro ⟨prepared, hsend⟩
    obtain ⟨hencrypted, hsend⟩ := bind_unit_eq_ok_iff.mp hsend
    obtain ⟨table, -, hsend⟩ := bind_eq_ok_iff.mp hsend
    refine ⟨hencrypted, ?_⟩
    rintro payload rfl
    obtain ⟨encoded, hencoded, -⟩ := bind_eq_ok_iff.mp hsend
    obtain ⟨hcomplete, -, hfits⟩ := (hlaw.complete payload encoded).mp hencoded
    exact ⟨hcomplete, hfits⟩
  · rintro ⟨hencrypted, hbody⟩
    cases body with
    | none =>
      exact ⟨_, bind_unit_eq_ok_iff.mpr ⟨hencrypted,
        bind_eq_ok_iff.mpr ⟨_, insertIdentity_of_sound h _, rfl⟩⟩⟩
    | some payload =>
      obtain ⟨hcomplete, hfits⟩ := hbody payload rfl
      have hencoded := (hlaw.complete payload _).mpr ⟨hcomplete, rfl, hfits⟩
      exact ⟨_, bind_unit_eq_ok_iff.mpr ⟨hencrypted, bind_eq_ok_iff.mpr
        ⟨_, insertIdentity_of_sound h _, bind_eq_ok_iff.mpr ⟨_, hencoded, rfl⟩⟩⟩⟩

theorem sendSensitiveJsonRequest_body {body : Option Serialization}
    (h : sendSensitiveJsonRequest build library client method url headers body = .ok prepared) :
    prepared.2.body = body.map fun payload => .bytes payload.pieces.flatten := by
  have hlaw := encodeBoundedJsonBody_law library.platform client.config.maxRequestBytes
  obtain ⟨-, h⟩ := bind_unit_eq_ok_iff.mp h
  obtain ⟨table, -, h⟩ := bind_eq_ok_iff.mp h
  cases body with
  | none =>
    obtain rfl := Except.ok.inj h
    rfl
  | some payload =>
    obtain ⟨encoded, hencoded, h⟩ := bind_eq_ok_iff.mp h
    obtain rfl := Except.ok.inj h
    rw [((hlaw.complete payload encoded).mp hencoded).2.1]
    rfl

theorem sendSensitiveBytesRequest_iff (h : Sound build client) {body : Option Bytes} :
    (∃ prepared, sendSensitiveBytesRequest build library client method url headers body =
      .ok prepared) ↔
        requireEncryptedTransportForSensitiveRequest build client url = .ok () ∧
          ∀ bytes, body = some bytes → bytes.length ≤ client.config.maxRequestBytes := by
  constructor
  · rintro ⟨prepared, hsend⟩
    obtain ⟨hencrypted, hsend⟩ := bind_unit_eq_ok_iff.mp hsend
    obtain ⟨table, -, hsend⟩ := bind_eq_ok_iff.mp hsend
    refine ⟨hencrypted, ?_⟩
    rintro bytes rfl
    dsimp only at hsend
    split at hsend
    · cases hsend
    · next hfits => exact not_lt.mp hfits
  · rintro ⟨hencrypted, hbody⟩
    cases body with
    | none =>
      exact ⟨_, bind_unit_eq_ok_iff.mpr ⟨hencrypted,
        bind_eq_ok_iff.mpr ⟨_, insertIdentity_of_sound h _, rfl⟩⟩⟩
    | some bytes =>
      have hfits := hbody bytes rfl
      rw [sendSensitiveBytesRequest, hencrypted, insertIdentity_of_sound h]
      change ∃ prepared, (if client.config.maxRequestBytes < bytes.length then .error _
        else Except.map _ _) = Except.ok prepared
      rw [if_neg (not_lt.mpr hfits), encodeBytesBody_of_le hfits]
      exact ⟨_, rfl⟩

theorem sendSensitiveBytesRequest_body {body : Option Bytes}
    (h : sendSensitiveBytesRequest build library client method url headers body = .ok prepared) :
    prepared.2.body = body.map .bytes := by
  obtain ⟨-, h⟩ := bind_unit_eq_ok_iff.mp h
  obtain ⟨table, -, h⟩ := bind_eq_ok_iff.mp h
  cases body with
  | none =>
    obtain rfl := Except.ok.inj h
    rfl
  | some bytes =>
    dsimp only at h
    split at h
    · cases h
    · next hfits =>
      rw [encodeBytesBody_of_le (not_lt.mp hfits)] at h
      obtain rfl := Except.ok.inj h
      rfl

theorem sendSensitivePrevalidatedBodyRequest_of_sound (h : Sound build client) (body : Body) :
    ∃ prepared, sendSensitivePrevalidatedBodyRequest client method url headers body =
      .ok prepared ∧ prepared.2.body = some body := by
  rw [sendSensitivePrevalidatedBodyRequest, insertIdentity_of_sound h]
  exact ⟨_, rfl, rfl⟩

theorem exists_send_iff {path : Str} {send : Url → Except Error (Prepared Certificate Identity)}
    {P : Prop} (hurls : UrlRules library) (h : Sound build client)
    (hsend : ∀ url, SameServer url client.config.baseUrl →
      ((∃ prepared, send url = .ok prepared) ↔ P)) :
    (∃ prepared, (urlForPath library client path >>= send) = .ok prepared) ↔
      (∃ segments, validateEndpointPath path = .ok segments) ∧ P := by
  have hserver : ∀ url, urlForPath library client path = .ok url →
      SameServer url client.config.baseUrl := by
    intro url hurl
    obtain ⟨segments, -, rfl⟩ := urlForPath_eq_ok hurl
    exact ⟨rfl, rfl, rfl, rfl, rfl⟩
  rw [← urlForPath_of_sound hurls h]
  constructor
  · rintro ⟨prepared, hok⟩
    obtain ⟨url, hurl, hprepared⟩ := bind_eq_ok_iff.mp hok
    exact ⟨⟨url, hurl⟩, (hsend url (hserver url hurl)).mp ⟨prepared, hprepared⟩⟩
  · rintro ⟨⟨url, hurl⟩, hP⟩
    obtain ⟨prepared, hprepared⟩ := (hsend url (hserver url hurl)).mpr hP
    exact ⟨prepared, bind_eq_ok_iff.mpr ⟨url, hurl, hprepared⟩⟩

/-- What a sensitive call asks of the server's address. -/
def SensitiveAllowed (client : Client Certificate Identity) : Prop :=
  client.config.baseUrl.scheme = "https".toList ∨ client.config.sensitiveLocalHttpForTests = true

theorem SameServer.withQuery {base : Url} (h : SameServer url base) (query : List (Str × Str)) :
    SameServer (ClientTransport.withQuery url query) base := by
  have hsame := withQuery_sameServer url query
  exact ⟨hsame.scheme.trans h.scheme, hsame.host.trans h.host, hsame.username.trans h.username,
    hsame.password.trans h.password, hsame.fragment.trans h.fragment⟩

theorem map_ok_iff {α β ε : Type} {x : Except ε α} {f : α → β} :
    (∃ b, x.map f = .ok b) ↔ ∃ b, (x >>= fun a => .ok (f a)) = .ok b := by
  cases x <;> exact Iff.rfl

variable {limit : ℕ}

theorem sendable_of_free (hpayload : call.payload = none)
    (hcontent : ∀ bytes, call.content ≠ some (.bytes bytes)) : call.Sendable limit :=
  ⟨by simp [hpayload], fun bytes h => absurd h (hcontent bytes)⟩

theorem sendable_payload_iff (body : Option Serialization) (hpayload : call.payload = body)
    (hcontent : call.content = body.map fun payload => .bytes payload.pieces.flatten) :
    call.Sendable limit ↔ ∀ payload, body = some payload →
      payload.fails = false ∧ payload.pieces.flatten.length ≤ limit := by
  constructor
  · rintro ⟨hcomplete, hfits⟩ payload rfl
    exact ⟨hcomplete payload hpayload, hfits _ hcontent⟩
  · intro hbody
    refine ⟨fun payload hsome => (hbody payload (hpayload.symm.trans hsome)).1, fun bytes hsome => ?_⟩
    rw [hcontent] at hsome
    obtain ⟨payload, hpayload, hbytes⟩ := Option.map_eq_some_iff.mp hsome
    rw [← Body.bytes.inj hbytes]
    exact (hbody payload hpayload).2

theorem sendable_bytes_iff (body : Option Bytes) (hpayload : call.payload = none)
    (hcontent : call.content = body.map .bytes) :
    call.Sendable limit ↔ ∀ bytes, body = some bytes → bytes.length ≤ limit := by
  constructor
  · rintro ⟨-, hfits⟩ bytes rfl
    exact hfits bytes hcontent
  · intro hbody
    refine ⟨by simp [hpayload], fun bytes hsome => ?_⟩
    rw [hcontent] at hsome
    obtain ⟨bytes', hbytes, heq⟩ := Option.map_eq_some_iff.mp hsome
    rw [← Body.bytes.inj heq]
    exact hbody bytes' hbytes

/-- Behind the check of the transport nothing is refused. -/
theorem checked_iff (h : Sound build client) (body : Body) :
    (∃ prepared, (requireEncryptedTransportForSensitiveRequest build client url >>= fun _ =>
      sendSensitivePrevalidatedBodyRequest client method url headers body) = .ok prepared) ↔
        requireEncryptedTransportForSensitiveRequest build client url = .ok () := by
  obtain ⟨prepared, hprepared, -⟩ := @sendSensitivePrevalidatedBodyRequest_of_sound _ _ build client
    method url headers h body
  constructor
  · rintro ⟨prepared, hok⟩
    exact (bind_unit_eq_ok_iff.mp hok).1
  · intro hencrypted
    exact ⟨prepared, bind_unit_eq_ok_iff.mpr ⟨hencrypted, hprepared⟩⟩

/-- A client prepares exactly the calls whose path is valid, whose body can be sent and, when
they are sensitive, whose server is reached over HTTPS. -/
theorem prepare_iff (hurls : UrlRules library) (h : Sound build client) :
    (∃ prepared, prepare build library client call = .ok prepared) ↔
      (∃ segments, validateEndpointPath call.path = .ok segments) ∧
        (call.sensitive client = true → SensitiveAllowed client) ∧
        call.Sendable client.config.maxRequestBytes := by
  have hencrypted : ∀ url, SameServer url client.config.baseUrl →
      (requireEncryptedTransportForSensitiveRequest build client url = .ok () ↔
        SensitiveAllowed client) := fun url => requireEncryptedTransport_iff h
  cases call with
  | probe =>
    have hfree : Call.probe.Sendable client.config.maxRequestBytes :=
      sendable_of_free rfl fun _ => by simp [Call.content]
    have hpublic : Call.probe.sensitive client = true → SensitiveAllowed client := by
      intro h
      cases h
    rw [prepare, map_ok_iff]
    exact exists_send_iff hurls h fun url _ => iff_of_true ⟨_, rfl⟩ ⟨hpublic, hfree⟩
  | json method path query headers body =>
    rw [sendable_payload_iff body rfl rfl]
    refine exists_send_iff hurls h fun url hserver => ?_
    dsimp only
    cases hsensitive : isSensitive client query headers body with
    | true =>
      rw [if_pos rfl, sendSensitiveJsonRequest_iff h, hencrypted _ (hserver.withQuery query)]
      simp [Call.sensitive, hsensitive]
    | false =>
      have hbody : body = none := by
        simp only [isSensitive, Bool.or_eq_false_iff] at hsensitive
        simpa using hsensitive.2
      rw [if_neg (by decide), hbody]
      refine iff_of_true ⟨_, rfl⟩ ⟨?_, by simp⟩
      rw [hbody] at hsensitive
      simp [Call.sensitive, hsensitive]
  | secretJson method path query headers body =>
    rw [sendable_payload_iff body rfl rfl]
    refine exists_send_iff hurls h fun url hserver => ?_
    rw [sendSensitiveJsonRequest_iff h, hencrypted _ (hserver.withQuery query)]
    simp [Call.sensitive]
  | bytes method path query headers body =>
    rw [sendable_bytes_iff body rfl rfl]
    refine exists_send_iff hurls h fun url hserver => ?_
    rw [sendSensitiveBytesRequest_iff h, hencrypted _ (hserver.withQuery query)]
    simp [Call.sensitive]
  | form method path headers fields =>
    rw [sendable_bytes_iff (some (asBytes (serializeForm (fields.map pairBytes)))) rfl rfl]
    have hform : prepare build library client (.form method path headers fields) =
        (encodeFormBody library client fields >>= fun body =>
          urlForPath library client path >>= fun url =>
            requireEncryptedTransportForSensitiveRequest build client url >>= fun _ =>
              sendSensitivePrevalidatedBodyRequest client method url (formHeaders headers)
                (.bytes body)) := rfl
    rw [hform, encodeFormBody_eq]
    by_cases hfits : (asBytes (serializeForm (fields.map pairBytes))).length ≤
        client.config.maxRequestBytes
    · rw [if_pos hfits]
      refine exists_send_iff hurls h fun url hserver => ?_
      rw [checked_iff h, hencrypted url hserver]
      simp [Call.sensitive, hfits]
    · rw [if_neg hfits]
      refine iff_of_false (by rintro ⟨_, h⟩; cases h) fun hall => hfits (hall.2.2 _ rfl)
  | upload method path contentLength =>
    have hfree : (Call.upload method path contentLength).Sendable client.config.maxRequestBytes :=
      sendable_of_free rfl fun _ => by simp [Call.content]
    refine exists_send_iff hurls h fun url hserver => ?_
    rw [checked_iff h, hencrypted url hserver]
    simp [Call.sensitive, hfree]
  | monitor method path query =>
    have hfree : (Call.monitor method path query).Sendable client.config.maxRequestBytes :=
      sendable_of_free rfl fun _ => by simp [Call.content]
    refine exists_send_iff hurls h fun url hserver => ?_
    rw [sendSensitiveBytesRequest_iff h, hencrypted]
    · simp [Call.sensitive, hfree]
    · exact ⟨hserver.scheme, hserver.host, hserver.username, hserver.password, hserver.fragment⟩

/-- A request carries the body of its call. -/
theorem prepare_body (h : prepare build library client call = .ok prepared) :
    prepared.2.body = call.content := by
  cases call with
  | probe =>
    obtain ⟨url, -, -, rfl⟩ := prepare_public rfl h
    rfl
  | json method path query headers body =>
    cases hsensitive : isSensitive client query headers body with
    | true =>
      obtain ⟨url, -, h⟩ := bind_eq_ok_iff.mp h
      rw [hsensitive, if_pos rfl] at h
      exact sendSensitiveJsonRequest_body h
    | false =>
      have hbody : body = none := by
        simp only [isSensitive, Bool.or_eq_false_iff] at hsensitive
        simpa using hsensitive.2
      have hcall : (Call.json method path query headers body).sensitive client = false := hsensitive
      obtain ⟨url, -, -, rfl⟩ := prepare_public hcall h
      rw [hbody]
      rfl
  | secretJson method path query headers body =>
    obtain ⟨url, -, h⟩ := bind_eq_ok_iff.mp h
    exact sendSensitiveJsonRequest_body h
  | bytes method path query headers body =>
    obtain ⟨url, -, h⟩ := bind_eq_ok_iff.mp h
    exact sendSensitiveBytesRequest_body h
  | form method path headers fields =>
    obtain ⟨body, hbody, h⟩ := bind_eq_ok_iff.mp h
    obtain ⟨url, -, h⟩ := bind_eq_ok_iff.mp h
    obtain ⟨hencrypted, h⟩ := bind_unit_eq_ok_iff.mp h
    rw [(sendSensitivePrevalidatedBodyRequest_eq_ok hencrypted h).2.1]
    rw [encodeFormBody_eq] at hbody
    split at hbody
    · rw [← Except.ok.inj hbody]
      rfl
    · cases hbody
  | upload method path contentLength =>
    obtain ⟨url, -, h⟩ := bind_eq_ok_iff.mp h
    obtain ⟨hencrypted, h⟩ := bind_unit_eq_ok_iff.mp h
    exact (sendSensitivePrevalidatedBodyRequest_eq_ok hencrypted h).2.1
  | monitor method path query =>
    obtain ⟨url, -, h⟩ := bind_eq_ok_iff.mp h
    exact sendSensitiveBytesRequest_body h

/-- A built client refuses a call only for its path, for a body that does not serialize or is
too long, or for secrets that would leave in clear text. -/
theorem prepares_iff (hurls : UrlRules library) (hclient : Built build library client) :
    (∃ prepared, prepare build library client call = .ok prepared) ↔
      (∃ segments, validateEndpointPath call.path = .ok segments) ∧
        (call.sensitive client = true → SensitiveAllowed client) ∧
        call.Sendable client.config.maxRequestBytes :=
  prepare_iff hurls hclient.sound

/-- What a server reads from a request is what the caller gave: the segments of the path that
was validated, under `v1` on the configured server, the pairs of the query in their order, and
the body, which for a form are its fields, whatever characters they are made of. -/
theorem request_reads_back (hurls : UrlRules library) (hclient : Built build library client)
    (h : prepare build library client call = .ok prepared) :
    (∃ segments, validateEndpointPath call.path = .ok segments ∧
      (∀ segment ∈ segments, CanonicalSegment segment) ∧
      SameServer prepared.2.url client.config.baseUrl ∧
      readPath prepared.2.url.path = ("v1".toList :: segments).map asBytes) ∧
    readQuery prepared.2.url = call.query.map pairBytes ∧
    prepared.2.body = call.content ∧
    ∀ method path headers fields, call = .form method path headers fields →
      ∃ text, prepared.2.body = some (.bytes (asBytes text)) ∧
        parseForm text = fields.map pairBytes := by
  obtain ⟨segments, hsegments, hserver, hpath, hquery⟩ := read_address hurls hclient.sound h
  have hbody := prepare_body h
  refine ⟨⟨segments, hsegments, (validateEndpointPath_segments hsegments).2, hserver, hpath⟩,
    hquery, hbody, ?_⟩
  rintro method path headers fields rfl
  exact ⟨_, hbody, parseForm_serializeForm _⟩

end Success

theorem exampleLibrary_rules : UrlRules exampleLibrary where
  plain := plain_unchanged
  slash byte := by
    have hall : ∀ n : Fin 256, byteSerializedUnchanged (UInt8.ofNat n) = true →
        Char.ofNat n ≠ '/' := by decide +kernel
    have hbyte := hall ⟨byte.toNat, UInt8.toNat_lt_size byte⟩
    rw [UInt8.ofNat_toNat] at hbyte
    exact hbyte
  base _ _ := rfl

theorem snapshotPath_valid : validateEndpointPath "sys/storage/raft/snapshot".toList =
    .ok ["sys".toList, "storage".toList, "raft".toList, "snapshot".toList] := by
  decide +kernel

theorem prepares_iff_upload : ∃ prepared, prepare exampleBuild exampleLibrary teamClient
    (.upload "POST" "sys/storage/raft/snapshot".toList 17) = .ok prepared :=
  (prepares_iff exampleLibrary_rules built_teamClient).mpr
    ⟨⟨_, snapshotPath_valid⟩, fun _ => .inl rfl, sendable_of_free rfl fun _ => by simp [Call.content]⟩

/-- A query whose value holds separators. -/
def snapshotQuery : Call :=
  .json "GET" "sys/storage/raft/snapshot".toList [("a b".toList, "c&d=+%".toList)] [] none

theorem request_reads_back_query : ∃ prepared,
    prepare exampleBuild exampleLibrary teamClient snapshotQuery = .ok prepared ∧
      readQuery prepared.2.url = [(asBytes "a b".toList, asBytes "c&d=+%".toList)] := by
  have hfree : snapshotQuery.Sendable teamConfig.maxRequestBytes :=
    sendable_of_free rfl fun _ => by simp [snapshotQuery, Call.content]
  have hprepares : ∃ prepared, prepare exampleBuild exampleLibrary teamClient snapshotQuery =
      .ok prepared :=
    (prepare_iff exampleLibrary_rules built_teamClient.sound).mpr
      ⟨⟨_, snapshotPath_valid⟩, fun _ => .inl rfl, hfree⟩
  obtain ⟨prepared, hprepared⟩ := hprepares
  exact ⟨prepared, hprepared,
    (request_reads_back exampleLibrary_rules built_teamClient hprepared).2.1⟩

end OpenBao.ClientTransport
