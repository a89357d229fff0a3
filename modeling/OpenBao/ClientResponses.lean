import OpenBao.BoundedReaders
import OpenBao.JsonTrees
import OpenBao.PkiKeyExport
import OpenBao.TransportSafety
import Mathlib.Algebra.GroupWithZero.Nat

/-!
# Exchanges of a client

What a client makes of the answer to a request: the check of its status and of its content
type, the collection of its body within a limit, and the errors that it reports. Whatever a
server sends, its words reach the caller of a sensitive request only in a decoded answer.
-/

namespace OpenBao.ClientResponses
open BoundedLogs BoundedReaders ClientConfigs ClientTransport ConsistencyContexts JsonTrees
  LoopbackHttp PathValidation RegisteredRoutes RequestBodyBuffers Utf8Text

/-- What the HTTP library says of a request that failed. -/
inductive TransportFailure where
  | timeout | connect | redirect | body | decode | request | other
  deriving DecidableEq, Repr

/-- `classify_http_transport_error`. -/
def TransportFailure.text : TransportFailure → String
  | timeout => "request timed out"
  | connect => "connection failed"
  | redirect => "redirect failed"
  | body => "request or response body failed"
  | decode => "response body could not be decoded"
  | request => "request could not be sent"
  | other => "request failed before an OpenBao response was received"

def TransportFailure.error (failure : TransportFailure) : Error := .transport failure.text

/-- An answer, with the chunks of its body as they arrive and what may end it early. -/
structure Response where
  status : ℕ
  contentType : Option Bytes
  contentLength : Option ℕ
  chunks : List Bytes
  failure : Option TransportFailure
  deriving DecidableEq, Repr

/-! ### Bodies -/

def tooLarge : Error := .decode "OpenBao response exceeds client limit"

def schemaMismatch : Error := .decode "OpenBao response did not match expected schema"

/-- A chunk behind the bytes collected so far, with `usize::saturating_add`. -/
def extendBody (limit : ℕ) (body chunk : Bytes) : Except Error Unit × Bytes :=
  if limit < min (body.length + chunk.length) (2 ^ 64 - 1) then (.error tooLarge, body)
  else (.ok (), body ++ chunk)

def readResponseBytes (response : Response) (maxResponseBytes : ℕ) : Except Error Bytes :=
  if response.contentLength.any (maxResponseBytes < ·) then .error tooLarge
  else
    match writePieces (extendBody maxResponseBytes) [] response.chunks with
    | (.error e, _) => .error e
    | (.ok (), body) =>
      match response.failure with
      | some failure => .error failure.error
      | none => .ok body

/-- `HeaderValue::to_str`. -/
def headerToStr (value : Bytes) : Option Str :=
  if value.all fun byte => 0x20 ≤ byte && byte < 0x7f || byte == 0x09 then fromUtf8 value else none

def toStrError : String := "failed to convert header to a str"

def missingContentType : Error := .decode "missing content-type header"

def validateJsonContentType (response : Response) : Except Error Unit :=
  match response.contentType with
  | none => .error missingContentType
  | some value =>
    match headerToStr value with
    | none => .error (.decode ("invalid content-type header: " ++ toStrError))
    | some contentType =>
      if (contentType.splitOn ';').head?.any fun value =>
          PkiKeyExport.eqIgnoreAsciiCase (trim value) "application/json".toList then .ok ()
      else .error (.decode "unexpected content-type: expected application/json")

def headerMediaType (value : Bytes) (label : String) : Except Error Str :=
  match headerToStr value with
  | none => .error (.decode ("invalid " ++ label ++ " header: " ++ toStrError))
  | some value =>
    let mediaType := (value.splitOn ',').head?.bind fun value =>
      (value.splitOn ';').head?.map trim
    match mediaType.filter (· ≠ []) with
    | some mediaType => .ok mediaType
    | none => .error (.decode ("missing " ++ label ++ " header"))

def validateBytesContentType (response : Response) (expectedContentType : Bytes) :
    Except Error Unit :=
  headerMediaType expectedContentType "expected binary content-type" >>= fun expected =>
    if expected = "*/*".toList then .ok ()
    else
      match response.contentType with
      | none => .error missingContentType
      | some actual =>
        headerMediaType actual "binary response content-type" >>= fun actual =>
          if PkiKeyExport.eqIgnoreAsciiCase actual expected then .ok ()
          else .error (.decode ("unexpected content-type: expected " ++ String.ofList expected))

def readJsonResponse {T : Type} (decode : Bytes → Option T) (response : Response)
    (maxResponseBytes : ℕ) : Except Error T :=
  validateJsonContentType response >>= fun _ =>
    readResponseBytes response maxResponseBytes >>= fun body =>
      match decode body with
      | some value => .ok value
      | none => .error schemaMismatch

/-! ### Errors of the server -/

def maxApiErrors : ℕ := 16
def maxApiErrorBytes : ℕ := 512

/-- `char::is_control`, or a mark that changes the direction of text. -/
def isDisplayControl (character : Char) : Bool :=
  let n := character.toNat
  n ≤ 0x1f || (0x7f ≤ n && n ≤ 0x9f) || n == 0x061c || n == 0x200e || n == 0x200f ||
    (0x202a ≤ n && n ≤ 0x202e) || (0x2066 ≤ n && n ≤ 0x2069)

def sanitizeApiError (error : Str) : Str :=
  takeFitting (fun character => byteLen [character]) maxApiErrorBytes 0
    (error.filter fun character => !isDisplayControl character)

section Envelopes

variable {N : Type}

/-- An element that has to be a string. -/
def nextString : Json Span N → Except Unit Str
  | .string _ text => .ok text
  | _ => .error ()

/-- `ErrorListVisitor`: what is beyond the limit is skipped. -/
def errorList : Json Span N → Except Unit (List Str)
  | .array _ items => readItems maxApiErrors nextString .ok [] items
  | _ => .error ()

/-- `ErrorEnvelope::deserialize`: an object without the field has no errors, and so has an
empty array. -/
def errorEnvelope : Json Span N → Option (List Str)
  | .object _ members =>
    match members.filter fun m => m.1 == "errors".toList with
    | [] => some []
    | [m] => (errorList m.2).toOption
    | _ => none
  | .array _ [] => some []
  | .array _ [value] => (errorList value).toOption
  | _ => none

def readPublicApiErrors (parse : Parser N) (response : Response) (maxResponseBytes : ℕ) : List String :=
  match readJsonResponse (fun body => (parse body).bind errorEnvelope) response maxResponseBytes with
  | .ok errors => errors.map fun error => String.ofList (sanitizeApiError error)
  | .error _ => []

end Envelopes

/-! ### Exchanges -/

def maxLiteralSecretBytes : ℕ := 512 * 1024

/-- The calls with what they accept. -/
inductive Exchange where
  | jsonQueryHeadersAccepting (method : Method) (path : Str) (query : List (Str × Str))
      (headers : HeaderMap) (body : Option Serialization) (accepted : List ℕ)
  | authSecretJsonHeadersAccepting (method : Method) (path : Str) (headers : HeaderMap)
      (body : Option Serialization) (accepted : List ℕ)
  | literalEndpointSecretJson (method : Method) (path : Str)
  | registeredSecretJsonAccepting (method : Method) (path : Str) (query : List (Str × Str))
      (body : Option Serialization) (accepted : List ℕ)
  | bytesHeadersAccepting (method : Method) (path : Str) (query : List (Str × Str))
      (headers : HeaderMap) (body : Option Bytes) (accepted : List ℕ)
  | formJsonHeadersAccepting (method : Method) (path : Str) (headers : HeaderMap)
      (fields : List (Str × Str)) (accepted : List ℕ)
  | exactStreamAccepting (method : Method) (path : Str) (contentLength : ℕ) (accepted : List ℕ)
  | stream (method : Method) (path : Str) (query : List (Str × Str)) (accepted : List ℕ)

/-- What an exchange gives to its caller: a decoded value, the body, nothing, or the answer
with its body to come. -/
inductive Answer (T : Type) where
  | value (value : T)
  | body (body : Bytes)
  | done
  | stream (response : Response)
  deriving DecidableEq, Repr

namespace Exchange

def call : Exchange → Call
  | jsonQueryHeadersAccepting method path query headers body _ => .json method path query headers body
  | authSecretJsonHeadersAccepting method path headers body _ => .secretJson method path [] headers body
  | literalEndpointSecretJson method path => .secretJson method path [] [] none
  | registeredSecretJsonAccepting method path query body _ => .secretJson method path query [] body
  | bytesHeadersAccepting method path query headers body _ => .bytes method path query headers body
  | formJsonHeadersAccepting method path headers fields _ => .form method path headers fields
  | exactStreamAccepting method path contentLength _ => .upload method path contentLength
  | stream method path query _ => .monitor method path query

/-- The statuses that an exchange goes on with. -/
def accepts : Exchange → ℕ → Bool
  | literalEndpointSecretJson .., status => status == 200
  | jsonQueryHeadersAccepting _ _ _ _ _ accepted, status
  | authSecretJsonHeadersAccepting _ _ _ _ accepted, status
  | registeredSecretJsonAccepting _ _ _ _ accepted, status
  | bytesHeadersAccepting _ _ _ _ _ accepted, status
  | formJsonHeadersAccepting _ _ _ _ accepted, status
  | exactStreamAccepting _ _ _ accepted, status
  | stream _ _ _ accepted, status => accepted.contains status

end Exchange

section Finish

variable {T N : Type} (decode : Bytes → Option T) (parse : Parser N)

def decodeEmpty : Except Error (Answer T) :=
  match decode (asBytes "{}".toList) with
  | some value => .ok (.value value)
  | none => .error schemaMismatch

/-- What an accepted answer becomes. -/
def finishAccepted (limit : ℕ) (response : Response) : Exchange → Except Error (Answer T)
  | .jsonQueryHeadersAccepting .. | .authSecretJsonHeadersAccepting .. =>
    if response.status = 204 then decodeEmpty decode
    else (readJsonResponse decode response limit).map .value
  | .literalEndpointSecretJson .. =>
    validateJsonContentType response >>= fun _ =>
      (readResponseBytes response (min limit maxLiteralSecretBytes)).map .body
  | .registeredSecretJsonAccepting .. =>
    (if response.status ≠ 204 then validateJsonContentType response else .ok ()) >>= fun _ =>
      (readResponseBytes response limit).map .body
  | .bytesHeadersAccepting _ _ _ headers _ _ =>
    (match headers.find? fun header => header.1 == "accept" with
      | some (_, expected) => validateBytesContentType response expected
      | none => .ok ()) >>= fun _ => (readResponseBytes response limit).map .body
  | .formJsonHeadersAccepting .. => (readJsonResponse decode response limit).map .value
  | .exactStreamAccepting .. => .ok .done
  | .stream .. => .ok (.stream response)

/-- What any other answer becomes: a sensitive exchange drops it. -/
def refuse (sensitive : Bool) (limit : ℕ) (response : Response) : Error :=
  if sensitive then .api response.status []
  else .api response.status (readPublicApiErrors parse response limit)

variable {Certificate Identity : Type} (build : Build) (library : HttpLibrary Certificate Identity)
  (client : Client Certificate Identity)
  (send : Prepared Certificate Identity → Except TransportFailure Response)

/-- An exchange with a server, behind the resolution of its route. -/
def perform (exchange : Exchange) : Except Error (Answer T) :=
  match prepare build library client exchange.call with
  | .error e => .error e
  | .ok prepared =>
    match send prepared with
    | .error failure => .error failure.error
    | .ok response =>
      if exchange.accepts response.status then
        finishAccepted decode client.config.maxResponseBytes response exchange
      else
        .error (refuse parse (exchange.call.sensitive client) client.config.maxResponseBytes response)

end Finish

/-! ### What is read -/

section Reading

variable {response : Response} {limit : ℕ}

theorem extendBody_of_log (h : limit < 2 ^ 64 - 1) (log : BoundedLog UInt8 limit) (chunk : Bytes) :
    extendBody limit log.held chunk =
      if log.Admits chunk then (.ok (), log.held ++ chunk) else (.error tooLarge, log.held) := by
  have hiff : limit < min (log.held.length + chunk.length) (2 ^ 64 - 1) ↔ ¬log.Admits chunk := by
    rw [BoundedLog.Admits, lt_min_iff, and_iff_left h, not_le]
  rw [extendBody]
  by_cases hfits : log.Admits chunk
  · rw [if_neg (mt hiff.mp (not_not.mpr hfits)), if_pos hfits]
  · rw [if_pos (hiff.mpr hfits), if_neg hfits]

/-- Collecting chunks is a log of bounded length. -/
theorem extendBody_implements (h : limit < 2 ^ 64 - 1) :
    Implements (extendBody limit) (fun body (log : BoundedLog UInt8 limit) => body = log.held)
      tooLarge where
  result body log chunk hbody := by
    rw [hbody, extendBody_of_log h]
    split <;> rfl
  step body log chunk hbody := by
    rw [hbody, extendBody_of_log h, BoundedLog.offer_held]
    split <;> rfl

/-- Only the bytes of a body count, not how they are cut into chunks. -/
theorem readResponseBytes_eq (h : limit < 2 ^ 64 - 1) : readResponseBytes response limit =
    if response.contentLength.any (limit < ·) = true ∨ limit < response.chunks.flatten.length then
      .error tooLarge
    else
      match response.failure with
      | some failure => .error failure.error
      | none => .ok response.chunks.flatten := by
  have hbody := extendBody_implements h
  have hstart : [] = (BoundedLog.empty : BoundedLog UInt8 limit).held := rfl
  have hadmits : (BoundedLog.empty : BoundedLog UInt8 limit).Admits response.chunks.flatten ↔
      ¬limit < response.chunks.flatten.length := by
    rw [BoundedLog.Admits, BoundedLog.empty, List.length_nil, Nat.zero_add, not_lt]
  rw [readResponseBytes]
  by_cases hdeclared : response.contentLength.any (limit < ·) = true
  · rw [if_pos hdeclared, if_pos (.inl hdeclared)]
  rw [if_neg hdeclared]
  by_cases hlong : limit < response.chunks.flatten.length
  · obtain ⟨body, log, hwrite, -, -⟩ :=
      hbody.writePieces_error hstart (mt hadmits.mp (not_not.mpr hlong))
    rw [hwrite, if_pos (.inr hlong)]
  · obtain ⟨body, log, hwrite, hlog, hheld, -⟩ :=
      hbody.writePieces_ok hstart (hadmits.mpr hlong)
    rw [hwrite, if_neg (not_or.mpr ⟨hdeclared, hlong⟩), hlog, hheld]
    rfl

/-! ### What is reported -/

/-- A text that can be shown. -/
structure Clean (text : Str) : Prop where
  bytes : byteLen text ≤ maxApiErrorBytes
  controls : ∀ character ∈ text, isDisplayControl character = false

theorem byteLen_eq_total (text : Str) : byteLen text = total (fun character => byteLen [character]) text := by
  induction text with
  | nil => rfl
  | cons character text ih =>
    have hcons : byteLen (character :: text) = byteLen [character] + byteLen text :=
      byteLen_append [character] text
    rw [hcons, ih]
    rfl

theorem sanitizeApiError_clean (error : Str) : Clean (sanitizeApiError error) where
  bytes := by
    have htotal := @total_takeFitting _ (fun character => byteLen [character]) _ 0
      (error.filter fun character => !isDisplayControl character) (Nat.zero_le maxApiErrorBytes)
    rwa [Nat.zero_add, ← byteLen_eq_total] at htotal
  controls character hmem := by
    have hfilter := (takeFitting_beginning 0 _).subset hmem
    simpa using (List.mem_filter.mp hfilter).2

/-- What can be shown is shown as it is. -/
theorem sanitizeApiError_of_clean {text : Str} (h : Clean text) : sanitizeApiError text = text := by
  have hfilter : text.filter (fun character => !isDisplayControl character) = text :=
    List.filter_eq_self.mpr fun character hmem => by rw [h.controls character hmem]; rfl
  have hbytes := h.bytes
  rw [byteLen_eq_total] at hbytes
  rw [sanitizeApiError, hfilter]
  exact takeFitting_of_fits 0 text (by rwa [Nat.zero_add])

section Envelopes

variable {N : Type} {parse : Parser N}

theorem length_errorList {value : Json Span N} {errors : List Str} (h : errorList value = .ok errors) :
    errors.length ≤ maxApiErrors := by
  cases value with
  | array span items =>
    rw [errorList, readItems_eq [] items (Nat.zero_le _)] at h
    split at h
    · cases h
    · next more hmore =>
      have hlength := decodeAll_eq_ok_length hmore
      rw [List.length_take] at hlength
      split at h
      · rw [← Except.ok.inj h, List.nil_append]
        exact hlength.trans_le (min_le_left _ _)
      · rw [← Except.ok.inj h, List.nil_append]
        exact hlength.trans_le (min_le_left _ _)
  | null | bool | number | string | object => cases h

theorem length_errorEnvelope {value : Json Span N} {errors : List Str}
    (h : errorEnvelope value = some errors) : errors.length ≤ maxApiErrors := by
  have hlist : ∀ value : Json Span N, (errorList value).toOption = some errors →
      errors.length ≤ maxApiErrors := by
    intro value h
    cases hvalue : errorList value with
    | error e =>
      rw [hvalue] at h
      cases h
    | ok errors' =>
      rw [hvalue] at h
      rw [← Option.some.inj h]
      exact length_errorList hvalue
  unfold errorEnvelope at h
  split at h
  · split at h
    · rw [← Option.some.inj h]
      exact Nat.zero_le _
    · exact hlist _ h
    · cases h
  · rw [← Option.some.inj h]
    exact Nat.zero_le _
  · exact hlist _ h
  · cases h

/-- At most sixteen texts of at most 512 bytes, without control characters. -/
theorem readPublicApiErrors_clean (parse : Parser N) (response : Response) (limit : ℕ) :
    (readPublicApiErrors parse response limit).length ≤ maxApiErrors ∧
      ∀ error ∈ readPublicApiErrors parse response limit, Clean error.toList := by
  rw [readPublicApiErrors]
  split
  · next errors hread =>
    constructor
    · rw [List.length_map]
      obtain ⟨-, hread⟩ := bind_unit_eq_ok_iff.mp hread
      obtain ⟨body, -, hdecode⟩ := bind_eq_ok_iff.mp hread
      split at hdecode
      · next errors' hsome =>
        obtain ⟨value, -, hvalue⟩ := Option.bind_eq_some_iff.mp hsome
        rw [← Except.ok.inj hdecode]
        exact length_errorEnvelope hvalue
      · cases hdecode
    · intro error hmem
      obtain ⟨text, -, rfl⟩ := List.mem_map.mp hmem
      rw [String.toList_ofList]
      exact sanitizeApiError_clean text
  · exact ⟨Nat.zero_le _, by simp⟩

end Envelopes

def fixedTexts : List String :=
  ["OpenBao response exceeds client limit", "OpenBao response did not match expected schema",
    "missing content-type header", "invalid content-type header: " ++ toStrError,
    "unexpected content-type: expected application/json",
    "invalid " ++ "expected binary content-type" ++ " header: " ++ toStrError,
    "missing " ++ "expected binary content-type" ++ " header",
    "invalid " ++ "binary response content-type" ++ " header: " ++ toStrError,
    "missing " ++ "binary response content-type" ++ " header"]

/-- An error that says no more of an answer than its status: its text is fixed or names what
the caller asked for. -/
inductive Blind (headers : HeaderMap) : Error → Prop where
  | transport (failure : TransportFailure) : Blind headers failure.error
  | refused (status : ℕ) : Blind headers (.api status [])
  | fixed {message} (h : message ∈ fixedTexts) : Blind headers (.decode message)
  | expected {accept mediaType} (hmem : ("accept", accept) ∈ headers)
      (h : headerMediaType accept "expected binary content-type" = .ok mediaType) :
      Blind headers (.decode ("unexpected content-type: expected " ++ String.ofList mediaType))

variable {headers : HeaderMap} {e : Error}

theorem blind_of_readResponseBytes (hlimit : limit < 2 ^ 64 - 1)
    (h : readResponseBytes response limit = .error e) : Blind headers e := by
  rw [readResponseBytes_eq hlimit] at h
  split at h
  · rw [← Except.error.inj h]
    exact .fixed (by simp [fixedTexts])
  · split at h
    · rw [← Except.error.inj h]
      exact .transport _
    · cases h

theorem blind_of_validateJsonContentType (h : validateJsonContentType response = .error e) :
    Blind headers e := by
  unfold validateJsonContentType at h
  split at h
  · rw [← Except.error.inj h]
    exact .fixed (by simp [fixedTexts])
  · split at h
    · rw [← Except.error.inj h]
      exact .fixed (by simp [fixedTexts])
    · split at h
      · cases h
      · rw [← Except.error.inj h]
        exact .fixed (by simp [fixedTexts])

theorem headerMediaType_error {value : Bytes} {label : String}
    (h : headerMediaType value label = .error e) :
    e = .decode ("invalid " ++ label ++ " header: " ++ toStrError) ∨
      e = .decode ("missing " ++ label ++ " header") := by
  unfold headerMediaType at h
  split at h
  · exact .inl (Except.error.inj h).symm
  · dsimp only at h
    split at h
    · cases h
    · exact .inr (Except.error.inj h).symm

theorem blind_of_validateBytesContentType {expected : Bytes} (hmem : ("accept", expected) ∈ headers)
    (h : validateBytesContentType response expected = .error e) : Blind headers e := by
  unfold validateBytesContentType at h
  cases hexpected : headerMediaType expected "expected binary content-type" with
  | error e' =>
    rw [hexpected] at h
    rw [← Except.error.inj h]
    rcases headerMediaType_error hexpected with rfl | rfl
    · exact .fixed (by simp [fixedTexts])
    · exact .fixed (by simp [fixedTexts])
  | ok mediaType =>
    rw [hexpected] at h
    change (if mediaType = "*/*".toList then _ else _) = _ at h
    split at h
    · cases h
    split at h
    · rw [← Except.error.inj h]
      exact .fixed (by simp [fixedTexts])
    · next actual _ =>
      cases hactual : headerMediaType actual "binary response content-type" with
      | error e' =>
        rw [hactual] at h
        rw [← Except.error.inj h]
        rcases headerMediaType_error hactual with rfl | rfl
        · exact .fixed (by simp [fixedTexts])
        · exact .fixed (by simp [fixedTexts])
      | ok actual =>
        rw [hactual] at h
        change (if _ then _ else _) = _ at h
        split at h
        · cases h
        · rw [← Except.error.inj h]
          exact .expected hmem hexpected

/-- Where the error of a sequence of steps comes from. -/
theorem bind_eq_error {ε α β : Type} {x : Except ε α} {f : α → Except ε β} {e : ε}
    (h : (x >>= f) = .error e) : x = .error e ∨ ∃ a, x = .ok a ∧ f a = .error e := by
  cases x with
  | error e' => exact .inl (congrArg Except.error (Except.error.inj h))
  | ok a => exact .inr ⟨a, rfl, h⟩

theorem blind_of_readJsonResponse {T : Type} {decode : Bytes → Option T} (hlimit : limit < 2 ^ 64 - 1)
    (h : readJsonResponse decode response limit = .error e) : Blind headers e := by
  rcases bind_eq_error h with h | ⟨-, -, h⟩
  · exact blind_of_validateJsonContentType h
  rcases bind_eq_error h with h | ⟨body, -, h⟩
  · exact blind_of_readResponseBytes hlimit h
  split at h
  · cases h
  · rw [← Except.error.inj h]
    exact .fixed (by simp [fixedTexts])

theorem map_eq_error {ε α β : Type} {x : Except ε α} {f : α → β} {e : ε} (h : x.map f = .error e) :
    x = .error e := by
  cases x with
  | error e' => exact congrArg Except.error (Except.error.inj h)
  | ok a => cases h

theorem blind_of_finishAccepted {T : Type} {decode : Bytes → Option T} {exchange : Exchange}
    (hlimit : limit < 2 ^ 64 - 1) (h : finishAccepted decode limit response exchange = .error e) :
    Blind exchange.call.supplied e := by
  have hvalue : ∀ headers, (if response.status = 204 then decodeEmpty decode
      else (readJsonResponse decode response limit).map .value) = .error e → Blind headers e := by
    intro headers h
    split at h
    · unfold decodeEmpty at h
      split at h
      · cases h
      · rw [← Except.error.inj h]
        exact .fixed (by simp [fixedTexts])
    · exact blind_of_readJsonResponse hlimit (map_eq_error h)
  cases exchange with
  | jsonQueryHeadersAccepting | authSecretJsonHeadersAccepting => exact hvalue _ h
  | literalEndpointSecretJson method path =>
    rcases bind_eq_error h with h | ⟨-, -, h⟩
    · exact blind_of_validateJsonContentType h
    · exact blind_of_readResponseBytes (lt_of_le_of_lt (min_le_left _ _) hlimit) (map_eq_error h)
  | registeredSecretJsonAccepting method path query body accepted =>
    rcases bind_eq_error h with h | ⟨-, -, h⟩
    · split at h
      · exact blind_of_validateJsonContentType h
      · cases h
    · exact blind_of_readResponseBytes hlimit (map_eq_error h)
  | bytesHeadersAccepting method path query headers body accepted =>
    rcases bind_eq_error h with h | ⟨-, -, h⟩
    · split at h
      · next name expected hfind =>
        have hname : name = "accept" := by simpa using List.find?_some hfind
        have hmem := List.mem_of_find?_eq_some hfind
        rw [hname] at hmem
        exact blind_of_validateBytesContentType hmem h
      · cases h
    · exact blind_of_readResponseBytes hlimit (map_eq_error h)
  | formJsonHeadersAccepting => exact blind_of_readJsonResponse hlimit (map_eq_error h)
  | exactStreamAccepting | stream => cases h

end Reading

/-! ### The laws -/

section Laws

variable {Certificate Identity T N : Type} {decode : Bytes → Option T} {parse : Parser N}
  {build : Build} {library : HttpLibrary Certificate Identity} {client : Client Certificate Identity}
  {send : Prepared Certificate Identity → Except TransportFailure Response} {exchange : Exchange}

theorem responseLimit_lt (hclient : Built build library client) :
    client.config.maxResponseBytes < 2 ^ 64 - 1 := by
  have hlimit := hclient.sound.config.valid.responseBytes.2
  have hmax : ClientConfigs.maxResponseBytes < 2 ^ 64 - 1 := by decide
  exact lt_of_le_of_lt hlimit hmax

/-- Whatever a server answers, an exchange of a client fails with an error of its own, with
one that tells no more of the answer than its status, or, where the request was bare, with at
most sixteen of the server's texts, cut to 512 bytes and stripped of control characters. -/
theorem perform_error {e : Error} (hclient : Built build library client)
    (h : perform decode parse build library client send exchange = .error e) :
    prepare build library client exchange.call = .error e ∨
      Blind exchange.call.supplied e ∨
        ∃ prepared response errors, prepare build library client exchange.call = .ok prepared ∧
          Bare prepared.2 ∧ send prepared = .ok response ∧ e = .api response.status errors ∧
          errors.length ≤ maxApiErrors ∧ ∀ error ∈ errors, Clean error.toList := by
  unfold perform at h
  split at h
  · next e' hprepare =>
    rw [← Except.error.inj h]
    exact .inl hprepare
  next prepared hprepare =>
  split at h
  · rw [← Except.error.inj h]
    exact .inr (.inl (.transport _))
  next response hsend =>
  split at h
  · exact .inr (.inl (blind_of_finishAccepted (responseLimit_lt hclient) h))
  · rw [← Except.error.inj h]
    cases hcall : exchange.call.sensitive client with
    | true => exact .inr (.inl (.refused _))
    | false =>
      obtain ⟨hlength, hclean⟩ :=
        readPublicApiErrors_clean parse response client.config.maxResponseBytes
      exact .inr (.inr ⟨prepared, response, _, hprepare, bare_of_public hclient.sound hcall hprepare,
        hsend, rfl, hlength, hclean⟩)

/-- A body that has arrived whole and within the limit. -/
structure Whole (response : Response) (limit : ℕ) : Prop where
  ended : response.failure = none
  declared : response.contentLength.any (limit < ·) = false
  fits : response.chunks.flatten.length ≤ limit

namespace Exchange

/-- A JSON exchange that takes an answer without content for an empty object. -/
def allowsNoContent : Exchange → Bool
  | jsonQueryHeadersAccepting .. | authSecretJsonHeadersAccepting .. => true
  | _ => false

/-- The exchange decodes its answer. -/
def decodes : Exchange → Bool
  | jsonQueryHeadersAccepting .. | authSecretJsonHeadersAccepting ..
  | formJsonHeadersAccepting .. => true
  | _ => false

/-- The exchange sends a stream and reads no answer. -/
def uploads : Exchange → Bool
  | exactStreamAccepting .. => true
  | _ => false

/-- A stream is handed on as it comes. -/
def streams : Exchange → Bool
  | stream .. => true
  | _ => false

/-- The length up to which an exchange collects a body. -/
def bodyLimit (limit : ℕ) : Exchange → ℕ
  | literalEndpointSecretJson .. => min limit maxLiteralSecretBytes
  | _ => limit

/-- The exchange gives the body of an answer with this content type. -/
def TakesBody (response : Response) : Exchange → Prop
  | literalEndpointSecretJson .. => validateJsonContentType response = .ok ()
  | registeredSecretJsonAccepting .. =>
    response.status ≠ 204 → validateJsonContentType response = .ok ()
  | bytesHeadersAccepting _ _ _ headers _ _ =>
    ∀ expected ∈ headers.find? fun header => header.1 == "accept",
      validateBytesContentType response expected.2 = .ok ()
  | _ => False

end Exchange

/-- What an exchange makes of an accepted answer. -/
inductive Reads (decode : Bytes → Option T) (limit : ℕ) (response : Response)
    (exchange : Exchange) : Answer T → Prop where
  | empty {value} (hexchange : exchange.allowsNoContent = true) (hstatus : response.status = 204)
      (h : decode (asBytes "{}".toList) = some value) : Reads decode limit response exchange (.value value)
  | value {value} (hexchange : exchange.decodes = true)
      (hstatus : exchange.allowsNoContent = true → response.status ≠ 204)
      (htype : validateJsonContentType response = .ok ()) (hwhole : Whole response limit)
      (h : decode response.chunks.flatten = some value) :
      Reads decode limit response exchange (.value value)
  | body (hexchange : exchange.TakesBody response) (hwhole : Whole response (exchange.bodyLimit limit)) :
      Reads decode limit response exchange (.body response.chunks.flatten)
  | done (hexchange : exchange.uploads = true) : Reads decode limit response exchange .done
  | stream (hexchange : exchange.streams = true) :
      Reads decode limit response exchange (.stream response)

variable {limit : ℕ} {response : Response}

theorem readResponseBytes_eq_ok_iff {body : Bytes} (hlimit : limit < 2 ^ 64 - 1) :
    readResponseBytes response limit = .ok body ↔
      Whole response limit ∧ response.chunks.flatten = body := by
  rw [readResponseBytes_eq hlimit]
  constructor
  · intro h
    split at h
    · cases h
    · next hfits =>
      rw [not_or] at hfits
      split at h
      · cases h
      · next hended =>
        exact ⟨⟨hended, by simpa using hfits.1, not_lt.mp hfits.2⟩, Except.ok.inj h⟩
  · rintro ⟨hwhole, rfl⟩
    have hfits : ¬(response.contentLength.any (limit < ·) = true ∨
        limit < response.chunks.flatten.length) := by
      rw [hwhole.declared, not_or, not_lt]
      exact ⟨Bool.false_ne_true, hwhole.fits⟩
    rw [if_neg hfits, hwhole.ended]

theorem map_eq_ok_iff {ε α β : Type} {x : Except ε α} {f : α → β} {b : β} :
    x.map f = .ok b ↔ ∃ a, x = .ok a ∧ f a = b := by
  cases x with
  | error e =>
    constructor
    · intro h
      cases h
    · rintro ⟨_, ⟨⟩, -⟩
  | ok a =>
    constructor
    · exact fun h => ⟨a, rfl, Except.ok.inj h⟩
    · rintro ⟨_, ⟨⟩, rfl⟩
      rfl

theorem readJsonResponse_eq_ok_iff {value : T} (hlimit : limit < 2 ^ 64 - 1) :
    readJsonResponse decode response limit = .ok value ↔
      validateJsonContentType response = .ok () ∧ Whole response limit ∧
        decode response.chunks.flatten = some value := by
  refine bind_unit_eq_ok_iff.trans (and_congr_right fun _ => bind_eq_ok_iff.trans ?_)
  constructor
  · rintro ⟨body, hbody, h⟩
    obtain ⟨hwhole, rfl⟩ := (readResponseBytes_eq_ok_iff hlimit).mp hbody
    refine ⟨hwhole, ?_⟩
    split at h
    · next hdecode => rw [hdecode, Except.ok.inj h]
    · cases h
  · rintro ⟨hwhole, hdecode⟩
    exact ⟨_, (readResponseBytes_eq_ok_iff hlimit).mpr ⟨hwhole, rfl⟩, by rw [hdecode]⟩

theorem value_eq_ok_iff {answer : Answer T} (hlimit : limit < 2 ^ 64 - 1) :
    (readJsonResponse decode response limit).map .value = .ok answer ↔
      ∃ value, answer = .value value ∧ validateJsonContentType response = .ok () ∧
        Whole response limit ∧ decode response.chunks.flatten = some value := by
  rw [map_eq_ok_iff]
  constructor
  · rintro ⟨value, hread, rfl⟩
    exact ⟨value, rfl, (readJsonResponse_eq_ok_iff hlimit).mp hread⟩
  · rintro ⟨value, rfl, hread⟩
    exact ⟨value, (readJsonResponse_eq_ok_iff hlimit).mpr hread, rfl⟩

theorem body_eq_ok_iff {answer : Answer T} (hlimit : limit < 2 ^ 64 - 1) :
    (readResponseBytes response limit).map .body = .ok answer ↔
      answer = .body response.chunks.flatten ∧ Whole response limit := by
  rw [map_eq_ok_iff]
  constructor
  · rintro ⟨body, hread, rfl⟩
    obtain ⟨hwhole, rfl⟩ := (readResponseBytes_eq_ok_iff hlimit).mp hread
    exact ⟨rfl, hwhole⟩
  · rintro ⟨rfl, hwhole⟩
    exact ⟨_, (readResponseBytes_eq_ok_iff hlimit).mpr ⟨hwhole, rfl⟩, rfl⟩

theorem decodeEmpty_eq_ok_iff {answer : Answer T} :
    decodeEmpty decode = .ok answer ↔
      ∃ value, answer = .value value ∧ decode (asBytes "{}".toList) = some value := by
  unfold decodeEmpty
  cases decode (asBytes "{}".toList) with
  | none =>
    constructor
    · intro h
      cases h
    · rintro ⟨_, -, ⟨⟩⟩
  | some value =>
    constructor
    · exact fun h => ⟨value, (Except.ok.inj h).symm, rfl⟩
    · rintro ⟨_, rfl, ⟨⟩⟩
      rfl

theorem reads_body_iff {answer : Answer T} (hempty : exchange.allowsNoContent = false)
    (hdecodes : exchange.decodes = false) (huploads : exchange.uploads = false)
    (hstreams : exchange.streams = false) :
    Reads decode limit response exchange answer ↔ exchange.TakesBody response ∧
      answer = .body response.chunks.flatten ∧ Whole response (exchange.bodyLimit limit) := by
  constructor
  · intro h
    cases h with
    | body htype hwhole => exact ⟨htype, rfl, hwhole⟩
    | empty h => cases hempty.symm.trans h
    | value h => cases hdecodes.symm.trans h
    | done h => cases huploads.symm.trans h
    | stream h => cases hstreams.symm.trans h
  · rintro ⟨htype, rfl, hwhole⟩
    exact .body htype hwhole

/-- An accepted answer becomes what its exchange reads, and nothing else. -/
theorem finishAccepted_eq_ok_iff {answer : Answer T} (hlimit : limit < 2 ^ 64 - 1) :
    finishAccepted decode limit response exchange = .ok answer ↔
      Reads decode limit response exchange answer := by
  cases exchange with
  | jsonQueryHeadersAccepting | authSecretJsonHeadersAccepting =>
    change (if response.status = 204 then decodeEmpty decode else _) = _ ↔ _
    by_cases hstatus : response.status = 204
    · rw [if_pos hstatus, decodeEmpty_eq_ok_iff]
      constructor
      · rintro ⟨value, rfl, h⟩
        exact .empty rfl hstatus h
      · intro h
        cases h with
        | empty _ _ h => exact ⟨_, rfl, h⟩
        | value _ hcontent => exact absurd hstatus (hcontent rfl)
        | body h => exact h.elim
        | done h | stream h => cases h
    · rw [if_neg hstatus, value_eq_ok_iff hlimit]
      constructor
      · rintro ⟨value, rfl, htype, hwhole, h⟩
        exact .value rfl (fun _ => hstatus) htype hwhole h
      · intro h
        cases h with
        | empty _ hempty => exact absurd hempty hstatus
        | value _ _ htype hwhole h => exact ⟨_, rfl, htype, hwhole, h⟩
        | body h => exact h.elim
        | done h | stream h => cases h
  | formJsonHeadersAccepting =>
    refine (value_eq_ok_iff hlimit).trans ?_
    constructor
    · rintro ⟨value, rfl, htype, hwhole, h⟩
      refine .value rfl (fun h => ?_) htype hwhole h
      cases h
    · intro h
      cases h with
      | value _ _ htype hwhole h => exact ⟨_, rfl, htype, hwhole, h⟩
      | body h => exact h.elim
      | empty h | done h | stream h => cases h
  | literalEndpointSecretJson =>
    have hsmaller := lt_of_le_of_lt (min_le_left limit maxLiteralSecretBytes) hlimit
    rw [reads_body_iff rfl rfl rfl rfl]
    exact bind_unit_eq_ok_iff.trans (and_congr_right fun _ => body_eq_ok_iff hsmaller)
  | registeredSecretJsonAccepting =>
    have htype : (if response.status ≠ 204 then validateJsonContentType response else .ok ()) =
        .ok () ↔ (response.status ≠ 204 → validateJsonContentType response = .ok ()) := by
      by_cases hstatus : response.status ≠ 204
      · rw [if_pos hstatus, forall_prop_of_true hstatus]
      · rw [if_neg hstatus, forall_prop_of_false hstatus, eq_self_iff_true]
    rw [reads_body_iff rfl rfl rfl rfl]
    exact bind_unit_eq_ok_iff.trans (and_congr htype (body_eq_ok_iff hlimit))
  | bytesHeadersAccepting method path query headers body accepted =>
    rw [reads_body_iff rfl rfl rfl rfl]
    refine bind_unit_eq_ok_iff.trans (and_congr ?_ (body_eq_ok_iff hlimit))
    unfold Exchange.TakesBody
    cases hfind : headers.find? fun header => header.1 == "accept" with
    | none => simp [hfind]
    | some expected => simp [hfind]
  | exactStreamAccepting =>
    constructor
    · intro h
      obtain rfl := Except.ok.inj h
      exact .done rfl
    · intro h
      cases h with
      | done => rfl
      | body h => exact h.elim
      | empty h | value h | stream h => cases h
  | stream =>
    constructor
    · intro h
      obtain rfl := Except.ok.inj h
      exact .stream rfl
    · intro h
      cases h with
      | stream => rfl
      | body h => exact h.elim
      | empty h | value h | done h => cases h

/-- The answer with its body in one piece. -/
def Response.whole (response : Response) : Response :=
  { response with chunks := [response.chunks.flatten] }

theorem readResponseBytes_whole (hlimit : limit < 2 ^ 64 - 1) :
    readResponseBytes response.whole limit = readResponseBytes response limit := by
  rw [readResponseBytes_eq hlimit, readResponseBytes_eq hlimit, Response.whole, List.flatten_singleton]

theorem readJsonResponse_whole {T : Type} {decode : Bytes → Option T} (hlimit : limit < 2 ^ 64 - 1) :
    readJsonResponse decode response.whole limit = readJsonResponse decode response limit := by
  rw [readJsonResponse, readResponseBytes_whole hlimit]
  rfl

theorem finishAccepted_whole (hlimit : limit < 2 ^ 64 - 1) (hstreams : exchange.streams = false) :
    finishAccepted decode limit response.whole exchange =
      finishAccepted decode limit response exchange := by
  have hbytes : ∀ smaller ≤ limit, readResponseBytes response.whole smaller =
      readResponseBytes response smaller := fun smaller hle =>
    readResponseBytes_whole (lt_of_le_of_lt hle hlimit)
  cases exchange with
  | jsonQueryHeadersAccepting | authSecretJsonHeadersAccepting =>
    rw [finishAccepted, readJsonResponse_whole hlimit]
    rfl
  | formJsonHeadersAccepting => rw [finishAccepted, readJsonResponse_whole hlimit]; rfl
  | literalEndpointSecretJson => rw [finishAccepted, hbytes _ (min_le_left _ _)]; rfl
  | registeredSecretJsonAccepting | bytesHeadersAccepting =>
    rw [finishAccepted, hbytes _ le_rfl]
    rfl
  | exactStreamAccepting => rfl
  | stream => cases hstreams

/-- What an exchange of a client gives comes from one accepted answer to the request that was
prepared: from the whole body, within the limit of the client, under a content type of its own
kind. How the body was cut into chunks makes no difference. -/
theorem perform_answer (hclient : Built build library client) :
    (∀ answer, perform decode parse build library client send exchange = .ok answer ↔
      ∃ prepared response, prepare build library client exchange.call = .ok prepared ∧
        send prepared = .ok response ∧ exchange.accepts response.status = true ∧
        Reads decode client.config.maxResponseBytes response exchange answer) ∧
    (exchange.streams = false →
      perform decode parse build library client (fun prepared => (send prepared).map .whole)
          exchange =
        perform decode parse build library client send exchange) := by
  have hlimit := responseLimit_lt hclient
  constructor
  · intro answer
    unfold perform
    constructor
    · intro h
      split at h
      · cases h
      next prepared hprepare =>
      split at h
      · cases h
      next response hsend =>
      split at h
      · next haccepts =>
        exact ⟨prepared, response, hprepare, hsend, haccepts,
          (finishAccepted_eq_ok_iff hlimit).mp h⟩
      · cases h
    · rintro ⟨prepared, response, hprepare, hsend, haccepts, hreads⟩
      simp only [hprepare, hsend, haccepts, if_true]
      exact (finishAccepted_eq_ok_iff hlimit).mpr hreads
  · intro hstreams
    unfold perform
    cases prepare build library client exchange.call with
    | error e => rfl
    | ok prepared =>
      dsimp only
      cases send prepared with
      | error failure => rfl
      | ok response =>
        have haccepted := @finishAccepted_whole T decode exchange client.config.maxResponseBytes
          response hlimit hstreams
        have hrefused : refuse parse (exchange.call.sensitive client)
            client.config.maxResponseBytes response.whole =
              refuse parse (exchange.call.sensitive client) client.config.maxResponseBytes
                response := by
          rw [refuse, readPublicApiErrors, readJsonResponse_whole hlimit]
          rfl
        change (if exchange.accepts response.status = true then
          finishAccepted decode _ response.whole exchange else .error _) = _
        rw [haccepted, hrefused]

end Laws

/-- A server that refuses a request in two chunks, one of them inside of its text. -/
def refusal (text : Bytes) : Response where
  status := 403
  contentType := some (asBytes "application/json; charset=utf-8".toList)
  contentLength := none
  chunks := [text.take 7, text.drop 7]
  failure := none

/-- A reader of texts that are all one envelope. -/
def exampleParser : Parser ℕ := fun body =>
  (fromUtf8 body).map fun text =>
    .object ⟨0, 0⟩ [("errors".toList, .array ⟨0, 0⟩ [.string ⟨0, 0⟩ text])]

theorem perform_refusal :
    perform (fun _ => some ()) exampleParser exampleBuild exampleLibrary loopbackClient
        (fun _ => .ok (refusal (asBytes "no\u0007 access".toList)))
        (.jsonQueryHeadersAccepting "GET" "sys/health".toList [] [] none [200]) =
      .error (.api 403 ["no access"]) := by
  decide +kernel

theorem perform_error_refusal : ∃ errors,
    perform (fun _ => some ()) exampleParser exampleBuild exampleLibrary loopbackClient
        (fun _ => .ok (refusal (asBytes "no\u0007 access".toList)))
        (.jsonQueryHeadersAccepting "GET" "sys/health".toList [] [] none [200]) =
      .error (.api 403 errors) ∧ errors ≠ [] ∧ ∀ error ∈ errors, Clean error.toList := by
  refine ⟨_, perform_refusal, by decide, ?_⟩
  rcases perform_error built_loopbackClient perform_refusal with h | h | h
  · have hprepare : (prepare exampleBuild exampleLibrary loopbackClient
        (.json "GET" "sys/health".toList [] [] none)).isOk = true := by decide +kernel
    change prepare exampleBuild exampleLibrary loopbackClient
      (.json "GET" "sys/health".toList [] [] none) = _ at h
    rw [h] at hprepare
    cases hprepare
  · cases h
  · obtain ⟨prepared, response, errors, -, -, -, heq, -, hclean⟩ := h
    obtain ⟨-, rfl⟩ := Error.api.inj heq
    exact hclean

/-- An answer in three chunks. -/
def cutAnswer : Response := { refusal [] with status := 200, chunks := [[1], [], [2, 3]] }

theorem perform_answer_cut :
    perform (fun _ => some ()) exampleParser exampleBuild exampleLibrary loopbackClient
        (fun _ => .ok { cutAnswer with chunks := [[1, 2, 3]] })
        (.jsonQueryHeadersAccepting "GET" "sys/health".toList [] [] none [200]) =
      perform (fun _ => some ()) exampleParser exampleBuild exampleLibrary loopbackClient
        (fun _ => .ok cutAnswer)
        (.jsonQueryHeadersAccepting "GET" "sys/health".toList [] [] none [200]) :=
  (@perform_answer Unit Unit Unit ℕ (fun _ => some ()) exampleParser exampleBuild exampleLibrary
    loopbackClient (fun _ => .ok cutAnswer) _ built_loopbackClient).2 rfl

end OpenBao.ClientResponses
