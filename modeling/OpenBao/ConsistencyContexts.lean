import OpenBao.ConsistencyIndices
import OpenBao.OwnedAddresses
import OpenBao.ProgramPaths
import OpenBao.RegisteredRoutes

/-!
# Consistency contexts

Requests that carry the index of an earlier answer. A context belongs to one client and one
cluster; it takes back only the indices it returned, which it knows by the address of its
identity. Any number of contexts and of their calls run at the same time.
-/

namespace OpenBao.ConsistencyContexts
open CompatibilityPolicy CompatibilityProbe ConsistencyIndices OwnedAddresses RegisteredRoutes
  RequestPrograms RequestPrograms.Prog Utf8Text

def reviewedVersions : List OpenBaoVersion := [⟨2, 7, 0⟩, ⟨2, 7, 1⟩, ⟨2, 7, 2⟩]

def requireConsistencyProfile (report : OpenBaoCompatibilityReport) : Except Error OpenBaoVersion :=
  let reviewed := report.profileVersion.filter fun version =>
    reviewedVersions.contains version && isRoutableProfile version
  if report.status ≠ .verified ∨ ¬ (report.policy = some .exact ∨
      report.policy = some .automaticStrict) ∨ reviewed = none ∨
      report.detectedVersion ≠ reviewed then
    .error (.invalidParameter
      "consistency requires a verified, promoted and reviewed server profile")
  else
    match reviewed with
    | some version => .ok version
    | none => .error (.invalidParameter "consistency requires a reviewed server profile")

inductive HeaderMode where
  | vaultToken | bearer
  deriving DecidableEq, Repr

/-- The parts of a client that these requests read. -/
structure Client where
  /-- The features `raw-api` and `raw-api-acknowledged`. -/
  rawApiEnabled : Bool
  /-- The cached result of the compatibility check. -/
  ensured : Except Error OpenBaoCompatibilityReport
  urlForPath : Str → Except Error Str
  requireEncryptedTransport : Str → Except Error Unit
  namespacePath : Option Str
  /-- What reading the retained token gives. -/
  token : Option (Except Error Str)
  headerMode : HeaderMode
  maxAuthTokenBytes : ℕ

structure HttpRequest where
  method : Method
  url : Str
  headers : List (String × Bytes)
  body : Option Bytes
  deriving DecidableEq, Repr

inductive Request where
  | health (request : HttpRequest)
  | operation (request : HttpRequest)
  deriving DecidableEq, Repr

structure ClusterHealth where
  clusterId : Str
  version : Str
  initialized : Bool
  sealed : Bool
  deriving DecidableEq, Repr

/-- An answer of the health endpoint, with what its body is read as. -/
structure HealthAnswer where
  status : ℕ
  health : Except Error ClusterHealth

/-- An answer of the operation, with the values of its `X-Vault-Index` headers. -/
structure OperationAnswer (T : Type) where
  status : ℕ
  indexHeaders : List Bytes
  payload : Except Error T

/-- What comes back for a request, or the failure of the transport. -/
abbrev Answer (T : Type) : Request → Type
  | .health _ => Except Error HealthAnswer
  | .operation _ => Except Error (OperationAnswer T)

abbrev Address := ℕ

structure ConsistencyContext where
  client : Client
  cluster : Str
  version : OpenBaoVersion
  identity : Address

variable {N : Type} (codec : Codec N) {T : Type}

structure ScopedConsistencyIndex where
  index : ConsistencyIndex codec
  identity : Address

structure ConsistencyResponse (T : Type) where
  response : T
  index : Option (ScopedConsistencyIndex codec)

/-- The arguments of `request_json`, with the encoded body and with what `{}` is read as. -/
structure Arguments (T : Type) where
  method : Method
  path : Str
  body : Option (Except Error Bytes)
  after : Option (ScopedConsistencyIndex codec)
  policy : ConsistencyPolicy
  emptyObject : Option T

abbrev Program (T α : Type) := Prog Request (Answer T) (Except Error α)

/-! ### Health -/

def json : Bytes := asBytes "application/json".toList

def healthRequest (url : Str) : HttpRequest where
  method := "GET"
  url := url
  headers := [("accept", json), ("x-vault-request", asBytes "true".toList)]
  body := none

def checkHealth (version : OpenBaoVersion) (answer : Except Error HealthAnswer) :
    Except Error Str := do
  let answer ← answer
  if ¬ [200, 429, 472, 473].contains answer.status then
    .error (.openBaoCompatibilityProbe "consistency health unavailable")
  else
    match answer.health with
    | .error _ => .error (.openBaoCompatibilityProbe "invalid consistency health response")
    | .ok health =>
      if !health.initialized || health.sealed || parseVersion health.version ≠ .ok version ||
          !isBoundedText 256 health.clusterId then
        .error (.openBaoCompatibilityProbe "invalid consistency cluster identity or state")
      else .ok health.clusterId

def discoverCluster (client : Client) (version : OpenBaoVersion) : Program T Str :=
  attempt (client.urlForPath "sys/health".toList) fun url =>
    attempt (client.requireEncryptedTransport url) fun _ =>
      .send (.health (healthRequest url)) fun answer => .done (checkHealth version answer)

/-- `Client::consistency`, up to the identity of the new context. -/
def consistency (client : Client) : Program T (OpenBaoVersion × Str) :=
  attempt (client.ensured >>= requireConsistencyProfile) fun version =>
    (discoverCluster client version).andThen fun cluster => .done (.ok (version, cluster))

/-! ### The operation -/

def sensitiveHeaderValue (value : Str) : Except Error Bytes :=
  match headerValueFromStr (asBytes value) with
  | some value => .ok value
  | none => .error (.invalidHeader "failed to parse header value")

def tokenHeaderForValue (token : Str) (headerMode : HeaderMode) (maxAuthTokenBytes : ℕ) :
    Except Error (String × Bytes) :=
  if maxAuthTokenBytes < byteLen token then
    .error (.invalidHeader "authentication token exceeds configured maximum length")
  else if trim token = [] then
    .error (.invalidHeader "authentication token must not be empty")
  else if byteLen (trim token) ≠ byteLen token then
    .error (.invalidHeader
      "authentication token must not contain leading or trailing whitespace")
  else
    match headerMode with
    | .vaultToken => (sensitiveHeaderValue token).map fun value => ("x-vault-token", value)
    | .bearer =>
      match sensitiveHeaderValue ("Bearer ".toList ++ token) with
      | .ok value => .ok ("authorization", value)
      | .error _ => .error (.invalidHeader "token must be valid for Authorization header use")

variable {codec}

def validateIndex (context : ConsistencyContext) (after : Option (ScopedConsistencyIndex codec)) :
    Except Error Unit :=
  if after.any fun after =>
      after.identity != context.identity || !after.index.matchesCluster context.cluster then
    .error (.invalidParameter "consistency index belongs to another context")
  else .ok ()

def indexHeader (after : Option (ScopedConsistencyIndex codec)) :
    Except Error (List (String × Bytes)) :=
  match after with
  | none => .ok []
  | some after => after.index.toHeaderValue.map fun value => [("x-vault-index", value)]

def namespaceHeader (client : Client) : Except Error (List (String × Bytes)) :=
  match client.namespacePath with
  | none => .ok []
  | some path => (sensitiveHeaderValue path).map fun value => [("x-vault-namespace", value)]

def tokenHeader (client : Client) : Except Error (String × Bytes) :=
  match client.token with
  | none => .error .missingToken
  | some token => do
    tokenHeaderForValue (← token) client.headerMode client.maxAuthTokenBytes

def buildRequest (context : ConsistencyContext) (url : Str) (arguments : Arguments codec T) :
    Except Error HttpRequest := do
  validateIndex context arguments.after
  let inconsistent := arguments.policy.headerValues.map fun value =>
    ("x-vault-inconsistent", asBytes value.toList)
  let index ← indexHeader arguments.after
  let space ← namespaceHeader context.client
  let token ← tokenHeader context.client
  let headers := [("accept", json), ("x-vault-request", asBytes "true".toList)] ++ inconsistent ++
    index ++ space ++ [token]
  match arguments.body with
  | none => return ⟨arguments.method, url, headers, none⟩
  | some encoded => do
    return ⟨arguments.method, url, headers ++ [("content-type", json)], some (← encoded)⟩

def readPayload (arguments : Arguments codec T) (answer : OperationAnswer T) : Except Error T :=
  if answer.status = 204 then
    match arguments.emptyObject with
    | some payload => .ok payload
    | none => .error (.decode "OpenBao response did not match expected schema")
  else answer.payload

/-- What the call makes of the answer to its operation. -/
def receive (context : ConsistencyContext) (arguments : Arguments codec T)
    (answer : Except Error (OperationAnswer T)) : Except Error (ConsistencyResponse codec T) := do
  let answer ← answer
  if answer.status ≠ 200 ∧ answer.status ≠ 204 then .error (.api answer.status [])
  else do
    let index ← ConsistencyIndex.fromHeaders codec answer.indexHeaders
    if index.any fun index => !index.matchesCluster context.cluster then
      .error (.decode "consistency response belongs to another cluster")
    else do
      let payload ← readPayload arguments answer
      return ⟨payload, index.map fun index => ⟨index, context.identity⟩⟩

def execute (context : ConsistencyContext) (arguments : Arguments codec T) :
    Program T (ConsistencyResponse codec T) :=
  attempt (validateIndex context arguments.after) fun _ =>
    attempt (context.client.urlForPath arguments.path) fun url =>
      attempt (context.client.requireEncryptedTransport url) fun _ =>
        (discoverCluster context.client context.version).andThen fun cluster =>
          attempt (if cluster ≠ context.cluster then
            .error (.openBaoCompatibilityProbe "consistency cluster changed") else .ok ()) fun _ =>
            attempt (buildRequest context url arguments) fun request =>
              .send (.operation request) fun answer => .done (receive context arguments answer)

def requestJson (context : ConsistencyContext) (arguments : Arguments codec T) :
    Program T (ConsistencyResponse codec T) :=
  attempt (if context.client.rawApiEnabled then .ok () else .error .rawApiDisabled) fun _ =>
    attempt (context.client.ensured >>= requireConsistencyProfile) fun version =>
      attempt (if version ≠ context.version then
        .error (.openBaoCompatibilityProbe "consistency profile changed") else .ok ()) fun _ =>
        execute context arguments

/-! ### What one call does -/

/-- No header of the request carries a token. -/
def HttpRequest.Tokenless (request : HttpRequest) : Prop :=
  ∀ header ∈ request.headers, header.1 ≠ "x-vault-token" ∧ header.1 ≠ "authorization"

/-- The answer shows the server of the context: initialised, unsealed, of its version and of
its cluster. -/
def Confirms (context : ConsistencyContext) (answer : Except Error HealthAnswer) : Prop :=
  ∃ status health, answer = .ok ⟨status, .ok health⟩ ∧ status ∈ [200, 429, 472, 473] ∧
    health.initialized = true ∧ health.sealed = false ∧
      parseVersion health.version = .ok context.version ∧ health.clusterId = context.cluster

theorem healthRequest_tokenless (url : Str) : (healthRequest url).Tokenless := by
  simp [HttpRequest.Tokenless, healthRequest]

theorem checkHealth_eq_ok {context : ConsistencyContext} {answer : Except Error HealthAnswer}
    (h : checkHealth context.version answer = .ok context.cluster) : Confirms context answer := by
  obtain ⟨⟨status, body⟩, rfl, hstatus⟩ := bind_eq_ok_iff.mp h
  clear h
  split at hstatus
  · cases hstatus
  · next haccepted =>
    cases body with
    | error e => cases hstatus
    | ok health =>
      simp only at hstatus
      split at hstatus
      · cases hstatus
      · next hstate =>
        simp only [Bool.or_eq_true, Bool.not_eq_true', decide_eq_true_eq, not_or, not_not,
          Bool.not_eq_false, Bool.not_eq_true, ne_eq] at hstate
        rw [not_not, List.contains_iff_mem] at haccepted
        exact ⟨status, health, rfl, haccepted, hstate.1.1.1, hstate.1.1.2, hstate.1.2,
          Except.ok.inj hstatus⟩

theorem validateIndex_some {context : ConsistencyContext} {after : ScopedConsistencyIndex codec}
    (h : validateIndex context (some after) = .ok ()) : after.identity = context.identity := by
  unfold validateIndex at h
  split at h
  · cases h
  · next hsame => 
    simp only [Option.any_some, Bool.or_eq_true, bne_iff_ne, not_or, ne_eq, not_not] at hsame
    exact hsame.1

theorem indexHeader_eq_ok {after : Option (ScopedConsistencyIndex codec)}
    {headers : List (String × Bytes)} (h : indexHeader after = .ok headers) :
    ∀ header ∈ headers, ∃ index, after = some index ∧ header.2 = index.index.encoded := by
  cases after with
  | none =>
    cases h
    nofun
  | some index =>
    rw [indexHeader] at h
    cases hv : index.index.toHeaderValue with
    | error e => simp [hv, Except.map] at h
    | ok value =>
      simp only [hv, Except.map, Except.ok.injEq] at h
      subst h
      rintro header hheader
      obtain rfl := List.mem_singleton.mp hheader
      exact ⟨index, rfl, ConsistencyIndex.toHeaderValue_eq_ok hv⟩

theorem namespaceHeader_name {client : Client} {headers : List (String × Bytes)}
    (h : namespaceHeader client = .ok headers) :
    ∀ header ∈ headers, header.1 = "x-vault-namespace" := by
  unfold namespaceHeader at h
  split at h
  · cases h
    nofun
  · next path _ =>
    cases hv : sensitiveHeaderValue path with
    | error e => simp [hv, Except.map] at h
    | ok value =>
      simp only [hv, Except.map, Except.ok.injEq] at h
      subst h
      simp

theorem tokenHeader_name {client : Client} {header : String × Bytes}
    (h : tokenHeader client = .ok header) :
    header.1 = "x-vault-token" ∨ header.1 = "authorization" := by
  unfold tokenHeader at h
  split at h
  · cases h
  · obtain ⟨token, -, h⟩ := bind_eq_ok_iff.mp h
    unfold tokenHeaderForValue at h
    split at h <;> try cases h
    split at h <;> try cases h
    split at h <;> try cases h
    split at h
    · cases hv : sensitiveHeaderValue token with
      | error e => simp [hv, Except.map] at h
      | ok value =>
        simp only [hv, Except.map, Except.ok.injEq] at h
        exact .inl (h ▸ rfl)
    · split at h
      · cases h
        exact .inr rfl
      · cases h

/-- The index that a request carries is the one that the caller handed to its context. -/
theorem buildRequest_eq_ok {context : ConsistencyContext} {url : Str}
    {arguments : Arguments codec T} {request : HttpRequest} {value : Bytes}
    (h : buildRequest context url arguments = .ok request)
    (hvalue : ("x-vault-index", value) ∈ request.headers) :
    ∃ after, arguments.after = some after ∧ after.identity = context.identity ∧
      value = after.index.encoded := by
  obtain ⟨_, hvalid, h⟩ := bind_eq_ok_iff.mp h
  obtain ⟨index, hindex, h⟩ := bind_eq_ok_iff.mp h
  obtain ⟨space, hspace, h⟩ := bind_eq_ok_iff.mp h
  obtain ⟨token, htoken, h⟩ := bind_eq_ok_iff.mp h
  have hcommon : ("x-vault-index", value) ∈
      [("accept", json), ("x-vault-request", asBytes "true".toList)] ++
        (arguments.policy.headerValues.map fun value =>
          ("x-vault-inconsistent", asBytes value.toList)) ++ index ++ space ++ [token] →
        ("x-vault-index", value) ∈ index := by
    simp only [List.mem_append]
    rintro ((((hfixed | hpolicy) | hindex) | hspaced) | htokened)
    · simp at hfixed
    · simp at hpolicy
    · exact hindex
    · exact absurd (namespaceHeader_name hspace _ hspaced) (by simp)
    · obtain rfl := List.mem_singleton.mp htokened
      simpa using tokenHeader_name htoken
  have hmem : ("x-vault-index", value) ∈ index := by
    simp only at h
    split at h
    · cases h
      exact hcommon hvalue
    · obtain ⟨body, -, h⟩ := bind_eq_ok_iff.mp h
      cases h
      rcases List.mem_append.mp hvalue with hvalue | hvalue
      · exact hcommon hvalue
      · simp at hvalue
  obtain ⟨after, hafter, hencoded⟩ := indexHeader_eq_ok hindex _ hmem
  rw [hafter] at hvalid
  exact ⟨after, hafter, validateIndex_some hvalid, hencoded⟩

/-- The response comes from an accepted answer, and its index, if any, from the answer's only
index header: text of an envelope for the cluster of the context, kept as it is. -/
def Received (context : ConsistencyContext) (answer : Except Error (OperationAnswer T))
    (response : ConsistencyResponse codec T) : Prop :=
  ∃ status headers payload, answer = .ok ⟨status, headers, payload⟩ ∧
    (status = 200 ∨ status = 204) ∧
      ((headers = [] ∧ response.index = none) ∨
        ∃ value index, headers = [value] ∧ ConsistencyIndex.fromEncoded codec value = .ok index ∧
          index.cluster = context.cluster ∧ index.encoded = value ∧
            response.index = some ⟨index, context.identity⟩)

theorem receive_eq_ok {context : ConsistencyContext} {arguments : Arguments codec T}
    {answer : Except Error (OperationAnswer T)} {response : ConsistencyResponse codec T}
    (h : receive context arguments answer = .ok response) : Received context answer response := by
  obtain ⟨⟨status, headers, payload⟩, hanswer, hreceived⟩ := bind_eq_ok_iff.mp h
  split at hreceived
  · cases hreceived
  · next hstatus =>
    obtain ⟨index, hindex, hreceived⟩ := bind_eq_ok_iff.mp hreceived
    split at hreceived
    · cases hreceived
    · next hcluster =>
      obtain ⟨payload', -, hreceived⟩ := bind_eq_ok_iff.mp hreceived
      cases hreceived
      refine ⟨status, headers, payload, hanswer, ?_, ?_⟩
      · simpa only [not_and_or, ne_eq, not_not] using hstatus
      · rcases ConsistencyIndex.fromHeaders_eq_ok hindex with
          ⟨hnone, rfl⟩ | ⟨value, index, hone, rfl, hencoded⟩
        · exact .inl ⟨hnone, rfl⟩
        · have hmatches : index.cluster = context.cluster := by
            simpa [ConsistencyIndex.matchesCluster] using hcluster
          exact .inr ⟨value, index, hone, hencoded, hmatches,
            ConsistencyIndex.fromEncoded_encoded hencoded, rfl⟩

/-- How far a call is that has not sent its operation. -/
inductive Unsent : List (Mark (Answer T)) → Prop where
  | start : Unsent []
  | asked {first : HttpRequest} (h : first.Tokenless) : Unsent [.sent (.health first)]
  | told {first : HttpRequest} (h : first.Tokenless) (answer : Answer T (.health first)) :
      Unsent [.sent (.health first), .answered (.health first) answer]

/-- The marks of a call up to its operation. -/
structure Preflighted (context : ConsistencyContext) (arguments : Arguments codec T)
    (request : HttpRequest) (marks : List (Mark (Answer T))) : Prop where
  shape : ∃ first, ∃ answer : Answer T (.health first), first.Tokenless ∧ Confirms context answer ∧
    marks = [.sent (.health first), .answered (.health first) answer]
  built : ∃ url, buildRequest context url arguments = .ok request

/-- What a call does with the answer about the server's health. -/
def executeConfirmed (context : ConsistencyContext) (url : Str) (arguments : Arguments codec T)
    (answer : Except Error HealthAnswer) : Program T (ConsistencyResponse codec T) :=
  attempt (checkHealth context.version answer) fun cluster =>
    attempt (if cluster ≠ context.cluster then
      .error (.openBaoCompatibilityProbe "consistency cluster changed") else .ok ()) fun _ =>
      attempt (buildRequest context url arguments) fun request =>
        .send (.operation request) fun answer => .done (receive context arguments answer)

section

variable {context : ConsistencyContext} {arguments : Arguments codec T} {url healthUrl : Str}
  {marks : List (Mark (Answer T))}
  {thread : Thread Request (Answer T) (Except Error (ConsistencyResponse codec T))}

/-- A call ends before it has sent anything, or asks for the server's health. -/
theorem path_requestJson_asks (h : Path (requestJson context arguments) marks thread) :
    (marks = [] ∧ ∃ e, thread = .running (.done (.error e))) ∨
      ∃ url healthUrl, Path (.send (.health (healthRequest healthUrl))
        (executeConfirmed context url arguments)) marks thread := by
  simp only [requestJson, execute, discoverCluster, attempt_andThen, send_andThen,
    done_andThen] at h
  rcases h.attempt with hfailed | ⟨_, -, h⟩
  · exact .inl hfailed
  rcases h.attempt with hfailed | ⟨_, -, h⟩
  · exact .inl hfailed
  rcases h.attempt with hfailed | ⟨_, -, h⟩
  · exact .inl hfailed
  rcases h.attempt with hfailed | ⟨_, -, h⟩
  · exact .inl hfailed
  rcases h.attempt with hfailed | ⟨url, -, h⟩
  · exact .inl hfailed
  rcases h.attempt with hfailed | ⟨_, -, h⟩
  · exact .inl hfailed
  rcases h.attempt with hfailed | ⟨healthUrl, -, h⟩
  · exact .inl hfailed
  rcases h.attempt with hfailed | ⟨_, -, h⟩
  · exact .inl hfailed
  exact .inr ⟨url, healthUrl, h⟩

/-- Behind an answer about the server's health a call stops, or the answer confirms the server
and the operation goes out. -/
theorem path_executeConfirmed {answer : Except Error HealthAnswer}
    (h : Path (executeConfirmed context url arguments answer) marks thread) :
    (marks = [] ∧ ∀ response, thread ≠ .running (.done (.ok response))) ∨
      ∃ request, Confirms context answer ∧ buildRequest context url arguments = .ok request ∧
        ((marks = [.sent (.operation request)] ∧
            ∀ response, thread ≠ .running (.done (.ok response))) ∨
          ∃ result : Answer T (.operation request),
            marks = [.sent (.operation request), .answered (.operation request) result] ∧
              thread = .running (.done (receive context arguments result))) := by
  have hstopped : (marks = [] ∧ ∃ e, thread = .running (.done (.error e))) →
      marks = [] ∧ ∀ response, thread ≠ .running (.done (.ok response)) := by
    rintro ⟨rfl, e, rfl⟩
    exact ⟨rfl, by simp⟩
  rcases h.attempt with hfailed | ⟨cluster, hcluster, h⟩
  · exact .inl (hstopped hfailed)
  rcases h.attempt with hfailed | ⟨_, hsame, h⟩
  · exact .inl (hstopped hfailed)
  rcases h.attempt with hfailed | ⟨request, hbuilt, h⟩
  · exact .inl (hstopped hfailed)
  have hconfirms : Confirms context answer := by
    split at hsame
    · cases hsame
    · next heq => exact checkHealth_eq_ok (of_not_not heq ▸ hcluster)
  rcases path_send_iff.mp h with ⟨rfl, rfl⟩ | ⟨rfl, rfl⟩ | ⟨result, rest, rfl, hdone⟩
  · exact .inl ⟨rfl, nofun⟩
  · exact .inr ⟨request, hconfirms, hbuilt, .inl ⟨rfl, nofun⟩⟩
  · obtain ⟨rfl, rfl⟩ := path_done_iff.mp hdone
    exact .inr ⟨request, hconfirms, hbuilt, .inr ⟨result, rfl, rfl⟩⟩

/-- A call asks for the server's health, and sends its operation behind a confirmation. -/
theorem path_requestJson (h : Path (requestJson context arguments) marks thread) :
    (Unsent marks ∧ ∀ response, thread ≠ .running (.done (.ok response))) ∨
      ∃ request preflight, Preflighted context arguments request preflight ∧
        ((marks = preflight ++ [.sent (.operation request)] ∧
            ∀ response, thread ≠ .running (.done (.ok response))) ∨
          ∃ answer : Answer T (.operation request),
            marks = preflight ++
                [.sent (.operation request), .answered (.operation request) answer] ∧
              thread = .running (.done (receive context arguments answer))) := by
  rcases path_requestJson_asks h with ⟨rfl, e, rfl⟩ | ⟨url, healthUrl, hasks⟩
  · exact .inl ⟨.start, by simp⟩
  have htokenless := healthRequest_tokenless healthUrl
  rcases path_send_iff.mp hasks with ⟨rfl, rfl⟩ | ⟨rfl, rfl⟩ | ⟨answer, rest, rfl, hrest⟩
  · exact .inl ⟨.start, nofun⟩
  · exact .inl ⟨.asked htokenless, nofun⟩
  · rcases path_executeConfirmed hrest with
      ⟨rfl, hnot⟩ | ⟨request, hconfirms, hbuilt, ⟨rfl, hnot⟩ | ⟨result, rfl, hdone⟩⟩
    · exact .inl ⟨.told htokenless answer, hnot⟩
    · exact .inr ⟨request, _, ⟨⟨_, answer, htokenless, hconfirms, rfl⟩, url, hbuilt⟩,
        .inl ⟨rfl, hnot⟩⟩
    · exact .inr ⟨request, _, ⟨⟨_, answer, htokenless, hconfirms, rfl⟩, url, hbuilt⟩,
        .inr ⟨result, rfl, hdone⟩⟩

/-- A call whose checks pass asks for the server's health. -/
theorem requestJson_sends (hraw : context.client.rawApiEnabled = true)
    (hprofile : (context.client.ensured >>= requireConsistencyProfile) = .ok context.version)
    (hvalid : validateIndex context arguments.after = .ok ())
    (hurl : context.client.urlForPath arguments.path = .ok url)
    (htransport : context.client.requireEncryptedTransport url = .ok ())
    (hhealth : context.client.urlForPath "sys/health".toList = .ok healthUrl)
    (hencrypted : context.client.requireEncryptedTransport healthUrl = .ok ()) :
    requestJson context arguments =
      .send (.health (healthRequest healthUrl)) (executeConfirmed context url arguments) := by
  simp only [requestJson, execute, discoverCluster, hraw, hprofile, hvalid, hurl, htransport,
    hhealth, hencrypted, if_true, ne_eq, not_true, if_false, attempt_ok, send_andThen, done_andThen]
  rfl

end

end OpenBao.ConsistencyContexts
