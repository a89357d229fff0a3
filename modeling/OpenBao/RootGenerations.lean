import OpenBao.ClientResponses
import OpenBao.EndpointVariants

/-!
# Generation of root tokens

The routes of the ceremony and the shape of its answers moved between releases. A client follows
the profile of its report, and undoes with the one-time password of the attempt what the server
did to the token.
-/

namespace OpenBao.RootGenerations
open ClientConfigs ClientResponses ClientTransport CompatibilityPolicy CompatibilityProbe
  ConsistencyContexts EndpointVariants JsonTrees RangeTables RegisteredRoutes RequestBodyBuffers
  Utf8Text

/-! ### Tokens under a one-time password -/

section Tokens

def maxGeneratedTokenBytes : ℕ := 16 * 1024

structure DecodeTokenRequest where
  encodedToken : Str
  otp : Str

/-- The bytes of one text under the bytes of another as long. -/
def xorBytes (bytes pad : Bytes) : Bytes := List.zipWith (fun byte padByte => byte ^^^ padByte) bytes pad

variable (decodeSecret : Bytes → Option Bytes)

/-- `decode_operator_token` over the Base64 library's reader of unpadded text. -/
def decodeOperatorToken (request : DecodeTokenRequest) : Except Error Str :=
  if request.encodedToken.isEmpty || byteLen request.encodedToken > maxGeneratedTokenBytes * 2 then
    .error (.invalidParameter "encoded operator token is empty or exceeds the supported limit")
  else if request.otp.isEmpty || byteLen request.otp > maxGeneratedTokenBytes then
    .error (.invalidParameter "operator token OTP is empty or exceeds the supported limit")
  else
    match decodeSecret (asBytes request.encodedToken) with
    | none => .error (.decode "encoded operator token is not valid unpadded base64")
    | some decoded =>
      if decoded.length ≠ byteLen request.otp then
        .error (.invalidParameter "decoded operator token and OTP lengths differ")
      else
        match fromUtf8 (xorBytes decoded (asBytes request.otp)) with
        | none => .error (.decode "decoded operator token is not valid UTF-8")
        | some token => .ok token

variable {decodeSecret} {bytes other pad : Bytes} {encoded otp token : Str}

theorem length_xorBytes (h : bytes.length = pad.length) : (xorBytes bytes pad).length = pad.length := by
  rw [xorBytes, List.length_zipWith, h, Nat.min_self]

theorem xorBytes_xorBytes (h : bytes.length = pad.length) : xorBytes (xorBytes bytes pad) pad = bytes := by
  induction bytes generalizing pad with
  | nil => rfl
  | cons byte bytes ih =>
    cases pad with
    | nil => cases h
    | cons padByte pad =>
      have hrest : xorBytes (xorBytes bytes pad) pad = bytes := ih (Nat.succ.inj h)
      have hbyte : (byte ^^^ padByte) ^^^ padByte = byte := by
        rw [UInt8.xor_assoc, UInt8.xor_self, UInt8.xor_zero]
      change ((byte ^^^ padByte) ^^^ padByte) :: xorBytes (xorBytes bytes pad) pad = _
      rw [hbyte, hrest]

theorem xorBytes_comm (bytes pad : Bytes) : xorBytes bytes pad = xorBytes pad bytes :=
  List.zipWith_comm_of_comm fun byte padByte => UInt8.xor_comm byte padByte

theorem decodeOperatorToken_eq_ok_iff :
    decodeOperatorToken decodeSecret ⟨encoded, otp⟩ = .ok token ↔
      (encoded ≠ [] ∧ byteLen encoded ≤ maxGeneratedTokenBytes * 2) ∧
      (otp ≠ [] ∧ byteLen otp ≤ maxGeneratedTokenBytes) ∧ byteLen token = byteLen otp ∧
      decodeSecret (asBytes encoded) = some (xorBytes (asBytes token) (asBytes otp)) := by
  have hbounds : ∀ (text : Str) (bound : ℕ), (text.isEmpty || byteLen text > bound) = true ↔
      ¬ (text ≠ [] ∧ byteLen text ≤ bound) := by
    intro text bound
    rw [Bool.or_eq_true, List.isEmpty_iff, decide_eq_true_eq, not_and_or, Classical.not_not, not_le]
  unfold decodeOperatorToken
  dsimp only
  split
  · next h =>
    constructor
    · intro hok
      cases hok
    · exact fun hall => absurd hall.1 ((hbounds _ _).mp h)
  next hencoded =>
  rw [hbounds, Classical.not_not] at hencoded
  split
  · next h =>
    constructor
    · intro hok
      cases hok
    · exact fun hall => absurd hall.2.1 ((hbounds _ _).mp h)
  next hotp =>
  rw [hbounds, Classical.not_not] at hotp
  simp only [hencoded, hotp, ne_eq, not_false_eq_true, and_self, true_and]
  cases decodeSecret (asBytes encoded) with
  | none => simp
  | some decoded =>
    simp only [Option.some.injEq]
    have hlength : (asBytes otp).length = byteLen otp := rfl
    have htokenLength : (asBytes token).length = byteLen token := rfl
    split
    · next h =>
      constructor
      · intro hok
        cases hok
      · intro hall
        refine absurd ?_ h
        rw [hall.2, length_xorBytes (by omega), hlength]
    · next h =>
      rw [Classical.not_not] at h
      have hdecoded : decoded.length = (asBytes otp).length := by omega
      cases htext : fromUtf8 (xorBytes decoded (asBytes otp)) with
      | none =>
        constructor
        · intro hok
          cases hok
        · intro hall
          rw [hall.2, xorBytes_xorBytes (by omega), fromUtf8_asBytes] at htext
          cases htext
      | some text =>
        have hbytes := fromUtf8_eq_some_iff.mp htext
        rw [Except.ok.injEq]
        constructor
        · rintro rfl
          have hsame : byteLen text = byteLen otp := by
            rw [byteLen, ← hbytes, length_xorBytes hdecoded, hlength]
          refine ⟨hsame, ?_⟩
          rw [← hbytes, xorBytes_xorBytes hdecoded]
        · rintro ⟨hsame, rfl⟩
          rw [xorBytes_xorBytes (by omega)] at hbytes
          exact (asBytes_inj.mp hbytes).symm

/-- A token is given out for one password and one encoding: exactly where the password undoes what
was encoded, whatever the encoding is made of, and for no other password. -/
theorem operatorToken_law (decodeSecret : Bytes → Option Bytes) (encoded otp token : Str) :
    (decodeOperatorToken decodeSecret ⟨encoded, otp⟩ = .ok token ↔
      (encoded ≠ [] ∧ byteLen encoded ≤ maxGeneratedTokenBytes * 2) ∧
      (otp ≠ [] ∧ byteLen otp ≤ maxGeneratedTokenBytes) ∧ byteLen token = byteLen otp ∧
      decodeSecret (asBytes encoded) = some (xorBytes (asBytes token) (asBytes otp))) ∧
    ∀ guess, decodeOperatorToken decodeSecret ⟨encoded, otp⟩ = .ok token →
      decodeOperatorToken decodeSecret ⟨encoded, guess⟩ = .ok token → guess = otp := by
  refine ⟨decodeOperatorToken_eq_ok_iff, fun guess h hguess => ?_⟩
  obtain ⟨-, -, hlength, hdecode⟩ := decodeOperatorToken_eq_ok_iff.mp h
  obtain ⟨-, -, hguessLength, hguessDecode⟩ := decodeOperatorToken_eq_ok_iff.mp hguess
  have hsame : xorBytes (asBytes guess) (asBytes token) = xorBytes (asBytes otp) (asBytes token) := by
    rw [xorBytes_comm (asBytes guess), xorBytes_comm (asBytes otp)]
    exact Option.some.inj (hguessDecode.symm.trans hdecode)
  have hguessBytes := xorBytes_xorBytes hguessLength.symm
  rw [hsame, xorBytes_xorBytes hlength.symm] at hguessBytes
  exact asBytes_inj.mp hguessBytes.symm

end Tokens

/-! ### Routes of the ceremony -/

/-- A route that is documented from one release to another. -/
def tagged (minimum maximum : OpenBaoVersion) : OpenBaoCapabilityRange :=
  ⟨minimum, maximum, .taggedDocumentation, false⟩

def laterRanges : List OpenBaoCapabilityRange :=
  [tagged ⟨2, 6, 4⟩ ⟨2, 6, 4⟩, tagged ⟨2, 6, 5⟩ ⟨2, 6, 5⟩, tagged ⟨2, 7, 0⟩ ⟨2, 7, 0⟩,
    tagged ⟨2, 7, 1⟩ ⟨2, 7, 1⟩, tagged ⟨2, 7, 2⟩ ⟨2, 7, 2⟩]

/-- The old routes stay documented in the new releases. -/
def legacyOperation (id : String) (method : OpenBaoHttpMethod) (template : String) : OpenBaoOperation :=
  ⟨id, method, template.toList, .typedGated, tagged ⟨2, 0, 0⟩ ⟨2, 6, 3⟩ :: laterRanges⟩

def tokenOperation (id : String) (method : OpenBaoHttpMethod) (template : String) : OpenBaoOperation :=
  ⟨id, method, template.toList, .typedGated,
    ⟨⟨2, 0, 0⟩, ⟨2, 5, 5⟩, .none, false⟩ :: tagged ⟨2, 6, 0⟩ ⟨2, 6, 3⟩ :: laterRanges⟩

/-- The entries of the generated registry that the ceremony names. -/
def rootGenerationOperations : List OpenBaoOperation :=
  [legacyOperation "openbao.delete.sys.generate.root.attempt.a9b55a062f0bddfd" .delete
      "/sys/generate-root/attempt",
    tokenOperation "openbao.delete.sys.generate.root.token.attempt.76b869404ef9c2aa" .delete
      "/sys/generate-root-token/attempt",
    legacyOperation "openbao.get.sys.generate.root.attempt.f6f4fd06542ba4f7" .get
      "/sys/generate-root/attempt",
    tokenOperation "openbao.get.sys.generate.root.token.attempt.4c6a9904e9da8d8a" .get
      "/sys/generate-root-token/attempt",
    legacyOperation "openbao.post.sys.generate.root.attempt.970bb5dfc6bba2b2" .post
      "/sys/generate-root/attempt",
    tokenOperation "openbao.post.sys.generate.root.token.attempt.532d9c8f9c22306d" .post
      "/sys/generate-root-token/attempt",
    tokenOperation "openbao.post.sys.generate.root.token.update.741304409be7b3ee" .post
      "/sys/generate-root-token/update",
    legacyOperation "openbao.post.sys.generate.root.update.1b76d7f10b884e9e" .post
      "/sys/generate-root/update"]

/-- The generated tables switch routes behind 2.5.5. -/
def switchedEndpoint (id legacy current : String) : OpenBaoEndpointSpec :=
  ⟨id, [⟨legacy, ⟨2, 0, 0⟩, ⟨2, 5, 5⟩⟩, ⟨current, ⟨2, 6, 0⟩, ⟨2, 7, 0⟩⟩,
    ⟨current, ⟨2, 7, 1⟩, ⟨2, 7, 1⟩⟩, ⟨current, ⟨2, 7, 2⟩, ⟨2, 7, 2⟩⟩]⟩

def generatedSysGenerateRootCancel : OpenBaoEndpointSpec :=
  switchedEndpoint "sys.generate-root.cancel" "openbao.delete.sys.generate.root.attempt.a9b55a062f0bddfd"
    "openbao.delete.sys.generate.root.token.attempt.76b869404ef9c2aa"

def generatedSysGenerateRootStart : OpenBaoEndpointSpec :=
  switchedEndpoint "sys.generate-root.start" "openbao.post.sys.generate.root.attempt.970bb5dfc6bba2b2"
    "openbao.post.sys.generate.root.token.attempt.532d9c8f9c22306d"

def generatedSysGenerateRootStatus : OpenBaoEndpointSpec :=
  switchedEndpoint "sys.generate-root.status" "openbao.get.sys.generate.root.attempt.f6f4fd06542ba4f7"
    "openbao.get.sys.generate.root.token.attempt.4c6a9904e9da8d8a"

def generatedSysGenerateRootUpdate : OpenBaoEndpointSpec :=
  switchedEndpoint "sys.generate-root.update" "openbao.post.sys.generate.root.update.1b76d7f10b884e9e"
    "openbao.post.sys.generate.root.token.update.741304409be7b3ee"

/-- How an answer holds its data. -/
inductive AnswerShape where
  | plain | enveloped
  deriving DecidableEq, Repr

/-- The shape that the client expects behind a route. -/
def answerShape (path : Str) : Except Error AnswerShape :=
  if ["sys/generate-root/attempt".toList, "sys/generate-root/update".toList].contains path then
    .ok .plain
  else if ["sys/generate-root-token/attempt".toList, "sys/generate-root-token/update".toList].contains
      path then
    .ok .enveloped
  else .error (.internal "root generation selected an unreviewed route")

section Ceremony

variable {T N Certificate Identity : Type} (operations : List OpenBaoOperation)
  (decode : AnswerShape → Bytes → Option T) (parse : Parser N) (build : Build)
  (library : HttpLibrary Certificate Identity) (client : ClientTransport.Client Certificate Identity)
  (send : Prepared Certificate Identity → Except TransportFailure Response)
  (ensured : Except Error OpenBaoCompatibilityReport)

def requestResolvedLiteralEndpointJsonAccepting (decode : Bytes → Option T)
    (resolved : ResolvedOpenBaoEndpoint) (path : Str) (body : Option Serialization)
    (accepted : List ℕ) : Except Error (Answer T) :=
  match resolved.operation.pathTemplate with
  | '/' :: expected =>
    if path ≠ expected then
      .error (.internal "resolved literal OpenBao endpoint path changed before dispatch")
    else
      perform decode parse build library client send
        (.jsonQueryHeadersAccepting resolved.method path [] [] body accepted)
  | _ => .error (.internal "literal OpenBao endpoint template must be absolute")

/-- `request_generate_root_json`, behind the report of the compatibility policy. -/
def requestGenerateRootJson (endpoint : OpenBaoEndpointSpec) (body : Option Serialization) :
    Except Error (Answer T) := do
  let (resolved, path) ← resolveOpenbaoLiteralEndpoint operations ensured endpoint
  let shape ← answerShape path
  requestResolvedLiteralEndpointJsonAccepting parse build library client send (decode shape) resolved
    path body [200]

def operatorGenerateRootStatus : Except Error (Answer T) :=
  requestGenerateRootJson operations decode parse build library client send ensured
    generatedSysGenerateRootStatus none

def operatorGenerateRootStart (request : Serialization) : Except Error (Answer T) :=
  requestGenerateRootJson operations decode parse build library client send ensured
    generatedSysGenerateRootStart (some request)

/-- The payload is the share and the nonce of the attempt. -/
def operatorGenerateRootUpdate (payload : Serialization) : Except Error (Answer T) :=
  requestGenerateRootJson operations decode parse build library client send ensured
    generatedSysGenerateRootUpdate (some payload)

def operatorGenerateRootCancel : Except Error (Answer T) := do
  let (resolved, path) ← resolveOpenbaoLiteralEndpoint operations ensured generatedSysGenerateRootCancel
  requestResolvedLiteralEndpointJsonAccepting parse build library client send (decode .plain) resolved
    path none [200, 204]

end Ceremony

/-! The old releases answer under `sys/generate-root` with the data itself. -/

def currentRoutes (version : OpenBaoVersion) : Bool := ⟨2, 6, 0⟩ ≤ version

def attemptPath (version : OpenBaoVersion) : Str :=
  if currentRoutes version then "sys/generate-root-token/attempt".toList
  else "sys/generate-root/attempt".toList

def updatePath (version : OpenBaoVersion) : Str :=
  if currentRoutes version then "sys/generate-root-token/update".toList
  else "sys/generate-root/update".toList

def shapeOf (version : OpenBaoVersion) : AnswerShape :=
  if currentRoutes version then .enveloped else .plain

section Routes

variable {operations : List OpenBaoOperation} {endpoint : OpenBaoEndpointSpec}
  {report : OpenBaoCompatibilityReport} {version : OpenBaoVersion}

/-- The registry holds the entries of the ceremony under their names. -/
def HoldsCeremony (operations : List OpenBaoOperation) : Prop :=
  ∀ operation ∈ rootGenerationOperations, openbaoOperation operations operation.id = some operation

/-- Where a step of the ceremony goes on a profile. -/
def goesTo (endpoint : OpenBaoEndpointSpec) (method : Method) (path : Str) (version : OpenBaoVersion) :
    Bool :=
  match resolveOpenbaoLiteralEndpoint rootGenerationOperations (.ok (.assumed version)) endpoint with
  | .ok (resolved, found) =>
    resolved.method == method && resolved.operation.pathTemplate == '/' :: path && found == path
  | .error _ => false

theorem ceremony_goesTo : generatedRoutableProfileVersions.all (fun version =>
    goesTo generatedSysGenerateRootStatus "GET" (attemptPath version) version &&
    goesTo generatedSysGenerateRootStart "POST" (attemptPath version) version &&
    goesTo generatedSysGenerateRootUpdate "POST" (updatePath version) version &&
    goesTo generatedSysGenerateRootCancel "DELETE" (attemptPath version) version) = true := by
  decide +kernel

def ceremonyEndpoints : List OpenBaoEndpointSpec :=
  [generatedSysGenerateRootStatus, generatedSysGenerateRootStart, generatedSysGenerateRootUpdate,
    generatedSysGenerateRootCancel]

theorem ceremony_named : ∀ endpoint ∈ ceremonyEndpoints, ∀ variant ∈ endpoint.variants,
    ∃ operation ∈ rootGenerationOperations, operation.id = variant.operationId := by
  decide +kernel

theorem holdsCeremony_self : HoldsCeremony rootGenerationOperations := by
  unfold HoldsCeremony
  decide +kernel

theorem lookup_ceremony (hregistry : HoldsCeremony operations) (hmem : endpoint ∈ ceremonyEndpoints) :
    ∀ variant ∈ endpoint.variants, openbaoOperation operations variant.operationId =
      openbaoOperation rootGenerationOperations variant.operationId := by
  intro variant hvariant
  obtain ⟨operation, hoperation, hid⟩ := ceremony_named endpoint hmem variant hvariant
  rw [← hid, hregistry operation hoperation, holdsCeremony_self operation hoperation]

/-- Where the report of the policy only tells the profile. -/
theorem resolve_of_goesTo {method : Method} {path : Str}
    (hregistry : HoldsCeremony operations) (hmem : endpoint ∈ ceremonyEndpoints)
    (hprofile : routingProfile report = some version) (h : goesTo endpoint method path version = true) :
    ∃ resolved, resolveOpenbaoLiteralEndpoint operations (.ok report) endpoint = .ok (resolved, path) ∧
      resolved.method = method ∧ resolved.operation.pathTemplate = '/' :: path := by
  have hreport : routedVersion report = routedVersion (.assumed version) := by
    rw [routedVersion, routedVersion, hprofile]
    rfl
  have hsame : resolveOpenbaoLiteralEndpoint operations (.ok report) endpoint =
      resolveOpenbaoLiteralEndpoint rootGenerationOperations (.ok (.assumed version)) endpoint := by
    rw [resolveOpenbaoLiteralEndpoint_congr (lookup_ceremony hregistry hmem), resolveOpenbaoLiteralEndpoint,
      resolveOpenbaoLiteralEndpoint]
    refine congrArg _ (funext fun _ => ?_)
    change (routedVersion report >>= _) = (routedVersion (.assumed version) >>= _)
    rw [hreport]
  unfold goesTo at h
  rw [hsame]
  split at h
  · next resolved found hresolved =>
    simp only [Bool.and_eq_true, beq_iff_eq] at h
    obtain ⟨⟨hmethod, htemplate⟩, rfl⟩ := h
    exact ⟨resolved, hresolved, hmethod, htemplate⟩
  · cases h

theorem answerShape_attemptPath (version : OpenBaoVersion) :
    answerShape (attemptPath version) = .ok (shapeOf version) := by
  unfold attemptPath shapeOf
  split
  · decide +kernel
  · decide +kernel

theorem answerShape_updatePath (version : OpenBaoVersion) :
    answerShape (updatePath version) = .ok (shapeOf version) := by
  unfold updatePath shapeOf
  split
  · decide +kernel
  · decide +kernel

variable {T N Certificate Identity : Type} {decode : AnswerShape → Bytes → Option T}
  {parse : Parser N} {build : Build} {library : HttpLibrary Certificate Identity}
  {client : ClientTransport.Client Certificate Identity}
  {send : Prepared Certificate Identity → Except TransportFailure Response}

theorem requestResolved_eq {decode : Bytes → Option T} {resolved : ResolvedOpenBaoEndpoint} {path : Str}
    (h : resolved.operation.pathTemplate = '/' :: path) (body : Option Serialization)
    (accepted : List ℕ) :
    requestResolvedLiteralEndpointJsonAccepting parse build library client send decode resolved path
        body accepted =
      perform decode parse build library client send
        (.jsonQueryHeadersAccepting resolved.method path [] [] body accepted) := by
  rw [requestResolvedLiteralEndpointJsonAccepting, h]
  exact if_neg (not_not_intro rfl)

theorem requestGenerateRootJson_eq {method : Method} {path : Str} {shape : AnswerShape}
    (h : ∃ resolved, resolveOpenbaoLiteralEndpoint operations (.ok report) endpoint =
        .ok (resolved, path) ∧ resolved.method = method ∧
        resolved.operation.pathTemplate = '/' :: path)
    (hshape : answerShape path = .ok shape) (body : Option Serialization) :
    requestGenerateRootJson operations decode parse build library client send (.ok report) endpoint
        body =
      perform (decode shape) parse build library client send
        (.jsonQueryHeadersAccepting method path [] [] body [200]) := by
  obtain ⟨resolved, hresolved, rfl, htemplate⟩ := h
  rw [requestGenerateRootJson, hresolved]
  change (answerShape path >>= _) = _
  rw [hshape]
  exact requestResolved_eq htemplate body [200]

/-- Under any report that routes by a profile, each step of the ceremony is one exchange, at the
route of that profile and read in the shape that its releases answer in. The checks that guard
the way there never stop it. -/
theorem rootGeneration_law (hregistry : HoldsCeremony operations)
    (hprofile : routingProfile report = some version) (hroutable : isRoutableProfile version = true)
    (payload : Serialization) :
    operatorGenerateRootStatus operations decode parse build library client send (.ok report) =
        perform (decode (shapeOf version)) parse build library client send
          (.jsonQueryHeadersAccepting "GET" (attemptPath version) [] [] none [200]) ∧
      operatorGenerateRootStart operations decode parse build library client send (.ok report) payload =
        perform (decode (shapeOf version)) parse build library client send
          (.jsonQueryHeadersAccepting "POST" (attemptPath version) [] [] (some payload) [200]) ∧
      operatorGenerateRootUpdate operations decode parse build library client send (.ok report) payload =
        perform (decode (shapeOf version)) parse build library client send
          (.jsonQueryHeadersAccepting "POST" (updatePath version) [] [] (some payload) [200]) ∧
      operatorGenerateRootCancel operations decode parse build library client send (.ok report) =
        perform (decode .plain) parse build library client send
          (.jsonQueryHeadersAccepting "DELETE" (attemptPath version) [] [] none [200, 204]) := by
  have hsteps := List.all_eq_true.mp ceremony_goesTo version (List.contains_iff_mem.mp hroutable)
  simp only [Bool.and_eq_true] at hsteps
  obtain ⟨⟨⟨hstatus, hstart⟩, hupdate⟩, hcancel⟩ := hsteps
  refine ⟨?_, ?_, ?_, ?_⟩
  · exact requestGenerateRootJson_eq
      (resolve_of_goesTo hregistry (by simp [ceremonyEndpoints]) hprofile hstatus)
      (answerShape_attemptPath version) none
  · exact requestGenerateRootJson_eq
      (resolve_of_goesTo hregistry (by simp [ceremonyEndpoints]) hprofile hstart)
      (answerShape_attemptPath version) (some payload)
  · exact requestGenerateRootJson_eq
      (resolve_of_goesTo hregistry (by simp [ceremonyEndpoints]) hprofile hupdate)
      (answerShape_updatePath version) (some payload)
  · obtain ⟨resolved, hresolved, hmethod, htemplate⟩ :=
      resolve_of_goesTo hregistry (by simp [ceremonyEndpoints]) hprofile hcancel
    rw [operatorGenerateRootCancel, hresolved, ← hmethod]
    exact requestResolved_eq htemplate none [200, 204]

end Routes

theorem rootGeneration_law_legacy :
    operatorGenerateRootStatus rootGenerationOperations (fun _ _ => some ()) exampleParser exampleBuild
        exampleLibrary loopbackClient (fun _ => .ok cutAnswer) (.ok (.assumed ⟨2, 5, 5⟩)) =
      perform (fun _ => some ()) exampleParser exampleBuild exampleLibrary loopbackClient
        (fun _ => .ok cutAnswer)
        (.jsonQueryHeadersAccepting "GET" "sys/generate-root/attempt".toList [] [] none [200]) :=
  have hroutable : isRoutableProfile ⟨2, 5, 5⟩ = true := by decide
  (rootGeneration_law holdsCeremony_self rfl hroutable ⟨[], false⟩).1

end OpenBao.RootGenerations
