import OpenBao.CompatibilityPolicy
import OpenBao.PathValidation
import OpenBao.RouteTemplates

/-!
# Registered dispatch

How a typed request is bound to one operation of the generated registry. The registry
itself is the argument `operations`.
-/

namespace OpenBao.RegisteredRoutes
open CompatibilityPolicy CompatibilityProbe PathValidation RouteTemplates Utf8Text

inductive OpenBaoHttpMethod where
  | acme | delete | get | head | list | patch | post | put | scan
  deriving DecidableEq, Repr

/-- `reqwest::Method`, by its token. -/
abbrev Method := String

def reqwestMethod : OpenBaoHttpMethod → Except Error Method
  | .delete => .ok "DELETE"
  | .get => .ok "GET"
  | .head => .ok "HEAD"
  | .list => .ok "LIST"
  | .patch => .ok "PATCH"
  | .post => .ok "POST"
  | .put => .ok "PUT"
  | .scan => .ok "SCAN"
  | .acme => .error (.internal "ACME protocol operations cannot use typed HTTP dispatch")

inductive OpenBaoOperationDisposition where
  | typed | typedGated | securityBlocked
  deriving DecidableEq, Repr

inductive OpenBaoCapabilityEvidence where
  | none | taggedDocumentation | lockedOpenApi | correctedCurrentContract
  deriving DecidableEq, Repr

inductive OpenBaoCapabilityAvailability where
  | documentedRoute | notDocumented | securityBlocked
  deriving DecidableEq, Repr

structure OpenBaoCapabilityRange where
  minimum : OpenBaoVersion
  maximum : OpenBaoVersion
  evidence : OpenBaoCapabilityEvidence
  securityBlocked : Bool
  deriving DecidableEq, Repr

structure OpenBaoOperation where
  id : String
  method : OpenBaoHttpMethod
  pathTemplate : Str
  disposition : OpenBaoOperationDisposition
  ranges : List OpenBaoCapabilityRange
  deriving DecidableEq, Repr

inductive ExternalPluginKind where
  | ldapAuth | kerberosAuth | radiusAuth | ldapSecrets
  deriving DecidableEq, Repr

namespace ExternalPluginKind

def binarySha256 : ExternalPluginKind → String
  | ldapAuth => "b323b200b2dec50199f36de7dc95a661ce6662da3d53905973c0d7700b4185bb"
  | kerberosAuth => "57ac030fea755adf791600eb2b30aa410d2e848ab7ec7bb54cc515cdce4b89ae"
  | radiusAuth => "ae2ac43287ed297a9536456b0cbb79c8749a82ffe74a54e3fe886d3285443f07"
  | ldapSecrets => "4b24d4deec624d76bd8f950dfaf6f59822de14cfb9bd344e2e7c4c492cc77789"

def pluginVersion : ExternalPluginKind → String
  | ldapAuth | radiusAuth => "v0.2.0"
  | kerberosAuth => "v0.1.0"
  | ldapSecrets => "v0.1.1"

def isAuth (kind : ExternalPluginKind) : Bool := kind ≠ ldapSecrets

def documentedMount : ExternalPluginKind → Str
  | ldapAuth | ldapSecrets => "ldap".toList
  | kerberosAuth => "kerberos".toList
  | radiusAuth => "radius".toList

/-- Whether a path is `base` or lies below it. -/
def isBelow (base path : Str) : Bool :=
  path == base || (base ++ ['/']).isPrefixOf path

/-- The engine of a removed built-in route. -/
def forPath (path : Str) : Option ExternalPluginKind :=
  ([("/auth/ldap".toList, ldapAuth), ("/auth/kerberos".toList, kerberosAuth),
    ("/auth/radius".toList, radiusAuth), ("/ldap".toList, ldapSecrets)].find?
      fun entry => isBelow entry.1 path).map (·.2)

end ExternalPluginKind

/-- Since 2.7 the server no longer has the removed engines built in. -/
def requiresUnverifiedExternalPlugin (path : Str) (version : OpenBaoVersion) : Bool :=
  version ≥ ⟨2, 7, 0⟩ && (ExternalPluginKind.forPath path).isSome

def selectCapabilityRange (ranges : List OpenBaoCapabilityRange) (version : OpenBaoVersion) :
    Option OpenBaoCapabilityRange :=
  ranges.find? fun range => versionInClosedInterval version range.minimum range.maximum

def OpenBaoOperation.availability (operation : OpenBaoOperation) (version : OpenBaoVersion) :
    Option OpenBaoCapabilityAvailability :=
  if !isGeneratedProfile version then none
  else if requiresUnverifiedExternalPlugin operation.pathTemplate version then
    some .securityBlocked
  else
    match selectCapabilityRange operation.ranges version with
    | none => none
    | some range =>
      if range.evidence = .none then some .notDocumented
      else if range.securityBlocked ∨ operation.disposition = .securityBlocked then
        some .securityBlocked
      else some .documentedRoute

/-- The server releases that plugin artifacts were reviewed against. -/
def reviewedServers : List OpenBaoVersion := [⟨2, 7, 0⟩, ⟨2, 7, 1⟩, ⟨2, 7, 2⟩]

/-- The plugin expected at one mount. -/
structure ExternalPluginSelection where
  kind : ExternalPluginKind
  server : OpenBaoVersion
  mount : Str
  reviewed : server ∈ reviewedServers
  canonical : ∃ segments, validateMountPath mount = .ok segments ∧ join '/' segments = mount

namespace ExternalPluginSelection

/-- `ExternalPluginSelection::new`. -/
def new (kind : ExternalPluginKind) (server : OpenBaoVersion) (mount : Str)
    (pluginVersion binarySha256 : String) : Except Error ExternalPluginSelection :=
  if hserver : server ∉ reviewedServers ∨ pluginVersion ≠ kind.pluginVersion ∨
      binarySha256 ≠ kind.binarySha256 then
    .error (.invalidParameter "external plugin identity has no reviewed artifact")
  else
    match hmount : validateMountPath mount with
    | .error e => .error e
    | .ok segments =>
      if hjoin : join '/' segments ≠ mount then
        .error (.invalidParameter "external plugin mount must be canonical")
      else
        .ok
          { kind
            server
            mount
            reviewed := Decidable.not_not.mp (not_or.mp hserver).1
            canonical := ⟨segments, hmount, Decidable.not_not.mp hjoin⟩ }

def sameMount (selection other : ExternalPluginSelection) : Bool :=
  selection.kind.isAuth == other.kind.isAuth && selection.mount == other.mount

def matchesMountScope (selection : ExternalPluginSelection) (kind : ExternalPluginKind)
    (mount : Str) : Bool :=
  selection.kind.isAuth == kind.isAuth && selection.mount == mount

end ExternalPluginSelection

def reviewedOperations (kind : ExternalPluginKind) (server : OpenBaoVersion) : List String :=
  if server ∉ reviewedServers then []
  else
    match kind with
    | .ldapAuth =>
      ["openbao.delete.auth.ldap.groups.name.b950122721b5ebc7",
        "openbao.delete.auth.ldap.users.username.9c70ff08aa396e53",
        "openbao.get.auth.ldap.config.811840bd137c6235",
        "openbao.get.auth.ldap.groups.name.7f1eeb5b0127592d",
        "openbao.get.auth.ldap.users.username.d1685a846a236f11",
        "openbao.list.auth.ldap.groups.9a02185a1de217e9",
        "openbao.list.auth.ldap.users.c9811a9743a6d433",
        "openbao.post.auth.ldap.config.47513ec572cc61ae",
        "openbao.post.auth.ldap.groups.name.6dfccb47849561ea",
        "openbao.post.auth.ldap.login.username.f98effef801d364e",
        "openbao.post.auth.ldap.users.username.32b8480ab9dc3473"]
    | .ldapSecrets =>
      ["openbao.delete.ldap.library.set.name.b93f2cc7bd993d6c",
        "openbao.get.ldap.library.set.name.ac0b1f32711a1b17",
        "openbao.get.ldap.library.set.name.status.7ad9c35d9646b86c",
        "openbao.list.ldap.library.98e0afea05f266ad",
        "openbao.post.ldap.library.manage.set.name.check.in.31d9758041b60487",
        "openbao.post.ldap.library.set.name.b42bbb4ad1f4da44",
        "openbao.post.ldap.library.set.name.check.in.060342e4eeb9c95d",
        "openbao.post.ldap.library.set.name.check.out.8336f9c1d2da5f75",
        "openbao.delete.ldap.config.ecee1bad1781c163",
        "openbao.delete.ldap.role.role.name.62b78b0e2b96da27",
        "openbao.delete.ldap.static.role.role.name.cb104610a05417a6",
        "openbao.get.ldap.config.2bbeeb0df9593a92",
        "openbao.get.ldap.creds.role.name.5da4ac8dcf228fae",
        "openbao.get.ldap.role.role.name.55c21b25fd8400cc",
        "openbao.get.ldap.static.cred.role.name.a69cdc5eca90bb18",
        "openbao.get.ldap.static.role.7b331d6e6718beed",
        "openbao.get.ldap.static.role.role.name.973bea91096ad800",
        "openbao.post.ldap.config.5878fff52f427697",
        "openbao.post.ldap.role.role.name.c0c49e3483cfce41",
        "openbao.post.ldap.rotate.role.role.name.f6a539a049514645",
        "openbao.post.ldap.rotate.root.9c563cec09292028",
        "openbao.post.ldap.static.role.role.name.00febb1527662b40"]
    | .kerberosAuth =>
      ["openbao.delete.auth.kerberos.groups.name.531b18e6c0502640",
        "openbao.get.auth.kerberos.config.a8df007535cf11c8",
        "openbao.get.auth.kerberos.config.ldap.70521a241b0f202f",
        "openbao.get.auth.kerberos.groups.name.954ae92b9ea6a64f",
        "openbao.list.auth.kerberos.groups.fad52108a9209f19",
        "openbao.post.auth.kerberos.config.e23ef3bccd4f8768",
        "openbao.post.auth.kerberos.config.ldap.09ea51fb665e0383",
        "openbao.post.auth.kerberos.groups.name.9a59741aa62e99af",
        "openbao.post.auth.kerberos.login.a1f715e91255582a"]
    | .radiusAuth =>
      ["openbao.delete.auth.radius.users.username.5bf54869a30eb190",
        "openbao.get.auth.radius.users.username.8ebc6cbe7282bb10",
        "openbao.list.auth.radius.users.93ed6d488978f259",
        "openbao.post.auth.radius.config.0243019420859d7b",
        "openbao.post.auth.radius.login.username.385de898f4d8b839",
        "openbao.post.auth.radius.users.username.b61e40a07dc19c14"]

/-- Whether the plugin's reviewed contract covers an operation under a report. -/
def ExternalPluginSelection.supports (selection : ExternalPluginSelection)
    (report : OpenBaoCompatibilityReport) (operation : OpenBaoOperation) : Bool :=
  report.status = .verified && report.detectedVersion = some selection.server &&
    report.profileVersion = some selection.server &&
    ExternalPluginKind.forPath operation.pathTemplate = some selection.kind &&
    (reviewedOperations selection.kind selection.server).contains operation.id

/-- The parts of a client's configuration that dispatch reads. -/
structure Client where
  policy : Option OpenBaoCompatibilityPolicy
  externalPlugins : List ExternalPluginSelection

/-- `OpenBaoConfig::external_plugin` on the selections made so far. -/
def externalPlugin (externalPlugins : List ExternalPluginSelection)
    (selection : ExternalPluginSelection) : Except Error (List ExternalPluginSelection) :=
  if externalPlugins.length ≥ 32 || externalPlugins.any (·.sameMount selection) then
    .error (.invalidParameter
      "external plugin mount selection is duplicate or exceeds its limit")
  else .ok (externalPlugins ++ [selection])

structure ResolvedOpenBaoEndpoint where
  endpoint : String
  operation : OpenBaoOperation
  method : Method
  deriving DecidableEq

structure RegisteredOpenBaoRoute where
  resolved : ResolvedOpenBaoEndpoint
  wirePath : Str
  deriving DecidableEq

/-- The loop over the registry, which collects the operations that match. -/
def collectMatches (scopePrefix : Str) (requestedMethod : Method) (pathSegments : List Str)
    (query : List (Str × Str)) : List OpenBaoOperation → Except Error (List OpenBaoOperation)
  | [] => .ok []
  | operation :: operations =>
    let rest := collectMatches scopePrefix requestedMethod pathSegments query operations
    if !scopePrefix.isPrefixOf operation.pathTemplate then rest
    else
      match reqwestMethod operation.method with
      | .error _ => rest
      | .ok method =>
        if method ≠ requestedMethod then rest
        else do
          if ← routeTemplateMatches operation.pathTemplate pathSegments query then
            return operation :: (← rest)
          else rest

/-- The only match of maximal specificity. -/
def selectOperation (found : List OpenBaoOperation) : Except Error OpenBaoOperation :=
  match (found.map fun operation => routeTemplateSpecificity operation.pathTemplate).max? with
  | none => .error (.internal "typed OpenBao request has no matching registry operation")
  | some maximumSpecificity =>
    match found.filter fun operation =>
        routeTemplateSpecificity operation.pathTemplate == maximumSpecificity with
    | [] => .error (.internal "typed OpenBao request has no matching registry operation")
    | [operation] => .ok operation
    | _ => .error (.internal "typed OpenBao request matches multiple registry operations")

/-- The selection configured at the mount for the engine of a removed route. -/
def pluginSelection (client : Client) (operation : OpenBaoOperation) (pluginMount : Option Str) :
    Option ExternalPluginSelection :=
  match ExternalPluginKind.forPath operation.pathTemplate, pluginMount with
  | some kind, some mount =>
    client.externalPlugins.find? fun selection => selection.matchesMountScope kind mount
  | _, _ => none

/-- The checks on the selected operation. -/
def admitOperation (client : Client) (report : OpenBaoCompatibilityReport)
    (version : OpenBaoVersion) (operation : OpenBaoOperation) (pluginMount : Option Str) :
    Except Error Unit :=
  let serverVersion := report.detectedVersion.getD version
  let selection := pluginSelection client operation pluginMount
  let requiresPlugin := selection.isSome ||
    requiresUnverifiedExternalPlugin operation.pathTemplate serverVersion
  let pluginContract := selection.any fun selection => selection.supports report operation
  if requiresPlugin && !pluginContract then
    .error (.unsupportedOpenBaoCapability operation.id serverVersion)
  else if (!pluginContract && operation.availability version ≠ some .documentedRoute) ||
      !(operation.disposition = .typed || operation.disposition = .typedGated) then
    .error (.unsupportedOpenBaoCapability operation.id version)
  else .ok ()

/-- The `ensure_compatibility` that makes the probe; later calls return its result. -/
def ensureCompatibility (client : Client) (health : HealthExchange) :
    Except Error OpenBaoCompatibilityReport :=
  (evaluateCompatibilityPolicy client.policy health).mapError compatibilityError

variable (operations : List OpenBaoOperation)

/-- The source asks `ensure_compatibility` for `ensured` behind the path check. -/
def resolveRegisteredOpenbaoEndpoint (client : Client)
    (ensured : Except Error OpenBaoCompatibilityReport) (scopePrefix : Str)
    (requestedMethod : Method) (registryPath : Str) (query : List (Str × Str)) (pluginMount : Option Str) :
    Except Error ResolvedOpenBaoEndpoint := do
  let pathSegments ← validateEndpointPath registryPath
  let report ← ensured
  match routingProfile report with
  | none => .error (.internal "OpenBao compatibility report has no routing profile")
  | some version =>
    if !isRoutableProfile version then .error (.unsupportedOpenBaoVersion version)
    else do
      let found ← collectMatches scopePrefix requestedMethod pathSegments query operations
      let operation ← selectOperation found
      admitOperation client report version operation pluginMount
      let method ← reqwestMethod operation.method
      return ⟨operation.id, operation, method⟩

inductive RegisteredRouteBinding where
  | exact (scopePrefix path : Str)
  | authMount (documentedMount actualMount wirePath : Str)
  | secretMount (scopePrefix documentedMount actualMount wirePath : Str)
  | identityMount (registryPath wirePath : Str)
  deriving DecidableEq, Repr

def authRegistryPath (documentedMount actualMount path : Str) : Except Error Str := do
  let documentedMount ← validateMountPath documentedMount
  match documentedMount with
  | [documented] =>
    let actualMount ← validateMountPath actualMount
    let path ← validateEndpointPath path
    if path.head? ≠ some "auth".toList ∨ ¬ actualMount.isPrefixOf path.tail then
      .error (.internal "typed auth request path does not match its validated mount")
    else
      return join '/' ("auth".toList :: documented :: path.drop (1 + actualMount.length))
  | _ => .error (.internal "documented auth mount must contain exactly one path segment")

/-- The second segments behind which documentation requires a further one. -/
def rootOperations : List Str :=
  ["data".toList, "delete".toList, "destroy".toList, "undelete".toList, "metadata".toList,
    "detailed-metadata".toList, "subkeys".toList]

/-- The marker for an operation at the root of a mount. -/
def markRoot (normalized : List Str) : List Str :=
  match normalized with
  | [_] => normalized ++ ["__openbao_root__".toList]
  | [_, operation] =>
    if operation ∈ rootOperations then normalized ++ ["__openbao_root__".toList] else normalized
  | _ => normalized

def secretRegistryPath (documentedMount actualMount path : Str) : Except Error Str := do
  let documentedMount ← validateMountPath documentedMount
  match documentedMount with
  | [documented] =>
    let actualMount ← validateMountPath actualMount
    let path ← validateEndpointPath path
    if ¬ actualMount.isPrefixOf path then
      .error (.internal "typed secret request path does not match its validated mount")
    else return join '/' (markRoot (documented :: path.drop actualMount.length))
  | _ => .error (.internal "documented secret mount must contain exactly one path segment")

namespace RegisteredRouteBinding

/-- The mount whose plugin selection a request falls under. -/
def pluginMount : RegisteredRouteBinding → Option Str
  | authMount _ actualMount _ => some actualMount
  | secretMount _ _ actualMount _ => some actualMount
  | exact _ path => (ExternalPluginKind.forPath path).map (·.documentedMount)
  | identityMount _ _ => none

def scopePrefix : RegisteredRouteBinding → Str
  | exact scopePrefix _ => scopePrefix
  | authMount _ _ _ => "/auth/".toList
  | secretMount scopePrefix _ _ _ => scopePrefix
  | identityMount _ _ => "/identity/".toList

def wirePath : RegisteredRouteBinding → Str
  | exact _ path => path
  | authMount _ _ wirePath => wirePath
  | secretMount _ _ _ wirePath => wirePath
  | identityMount _ wirePath => wirePath

/-- The path that is looked up in the registry. -/
def registryPath : RegisteredRouteBinding → Except Error Str
  | exact _ path => do
    let _ ← validateEndpointPath path
    return path
  | authMount documentedMount actualMount wirePath =>
    authRegistryPath documentedMount actualMount wirePath
  | secretMount _ documentedMount actualMount wirePath =>
    secretRegistryPath documentedMount actualMount wirePath
  | identityMount registryPath _ => .ok registryPath

end RegisteredRouteBinding

def resolveRegisteredOpenbaoRoute (client : Client)
    (ensured : Except Error OpenBaoCompatibilityReport) (requestedMethod : Method) (binding : RegisteredRouteBinding) (query : List (Str × Str)) :
    Except Error RegisteredOpenBaoRoute := do
  let registryPath ← binding.registryPath
  let resolved ← resolveRegisteredOpenbaoEndpoint operations client ensured binding.scopePrefix
    requestedMethod registryPath query binding.pluginMount
  return ⟨resolved, binding.wirePath⟩

section selection

variable {operations}

/-- An operation that a request can mean. -/
def isCandidate (scopePrefix : Str) (requestedMethod : Method) (pathSegments : List Str)
    (query : List (Str × Str)) (operation : OpenBaoOperation) : Bool :=
  scopePrefix.isPrefixOf operation.pathTemplate &&
    reqwestMethod operation.method = .ok requestedMethod &&
    routeTemplateMatches operation.pathTemplate pathSegments query = .ok true

theorem collectMatches_eq_ok {scopePrefix : Str} {requestedMethod : Method}
    {pathSegments : List Str} {query : List (Str × Str)} {found : List OpenBaoOperation}
    (h : collectMatches scopePrefix requestedMethod pathSegments query operations = .ok found) :
    found = operations.filter (isCandidate scopePrefix requestedMethod pathSegments query) := by
  induction operations generalizing found with
  | nil =>
    cases h
    rfl
  | cons operation operations ih =>
    simp only [collectMatches] at h
    split at h
    · next hscope =>
      rw [List.filter_cons_of_neg (by simp_all [isCandidate]), ih h]
    · next hscope =>
      split at h
      · next e hm => rw [List.filter_cons_of_neg (by simp [isCandidate, hm]), ih h]
      · next method hm =>
        split at h
        · next hne => rw [List.filter_cons_of_neg (by simp [isCandidate, hm, hne]), ih h]
        · next heq =>
          obtain ⟨hit, hmatch, h⟩ := bind_eq_ok_iff.mp h
          cases hit with
          | false =>
            rw [List.filter_cons_of_neg (by simp [isCandidate, hmatch])]
            exact ih h
          | true =>
            obtain ⟨rest, hrest, h⟩ := bind_eq_ok_iff.mp h
            cases h
            rw [List.filter_cons_of_pos (by simp_all [isCandidate]), ← ih hrest]

theorem selectOperation_eq_ok {found : List OpenBaoOperation} {operation : OpenBaoOperation}
    (h : selectOperation found = .ok operation) :
    found.filter (fun other => routeTemplateSpecificity operation.pathTemplate ≤
      routeTemplateSpecificity other.pathTemplate) = [operation] := by
  unfold selectOperation at h
  split at h
  · cases h
  · next maximum hmax =>
    split at h
    · cases h
    · next only hone =>
      cases h
      have hspec : routeTemplateSpecificity operation.pathTemplate = maximum := by
        have hmem : operation ∈ found.filter fun operation =>
            routeTemplateSpecificity operation.pathTemplate == maximum := by simp [hone]
        simpa using (List.mem_filter.mp hmem).2
      rw [← hone]
      refine List.filter_congr fun other hother => ?_
      have hle := (List.max?_eq_some_iff.mp hmax).2 _ (List.mem_map_of_mem hother)
      rw [hspec, Bool.eq_iff_iff, decide_eq_true_eq, beq_iff_eq]
      omega
    · cases h

/-- The operation is the one that the registry documents for the request. -/
structure Selects (operations : List OpenBaoOperation) (scopePrefix : Str) (method : Method)
    (segments : List Str) (query : List (Str × Str)) (operation : OpenBaoOperation) : Prop where
  mem : operation ∈ operations
  scope : scopePrefix <+: operation.pathTemplate
  sendsMethod : reqwestMethod operation.method = .ok method
  routeMatches : routeTemplateMatches operation.pathTemplate segments query = .ok true
  /-- No other candidate is as specific. -/
  only : (operations.filter (isCandidate scopePrefix method segments query)).filter (fun other =>
    routeTemplateSpecificity operation.pathTemplate ≤
      routeTemplateSpecificity other.pathTemplate) = [operation]

theorem selects_of_eq_ok {scopePrefix : Str} {method : Method} {segments : List Str}
    {query : List (Str × Str)} {found : List OpenBaoOperation} {operation : OpenBaoOperation}
    (hc : collectMatches scopePrefix method segments query operations = .ok found)
    (hs : selectOperation found = .ok operation) :
    Selects operations scopePrefix method segments query operation := by
  have honly := selectOperation_eq_ok hs
  rw [collectMatches_eq_ok hc] at honly
  have hmem := (List.mem_filter.mp (honly ▸ List.mem_singleton_self operation)).1
  obtain ⟨hmem, hcand⟩ := List.mem_filter.mp hmem
  simp only [isCandidate, Bool.and_eq_true, decide_eq_true_eq, List.isPrefixOf_iff_prefix] at hcand
  exact ⟨hmem, hcand.1.1, hcand.1.2, hcand.2, honly⟩

end selection

theorem isAuth_of_forPath {path : Str} {kind : ExternalPluginKind}
    (h : ExternalPluginKind.forPath path = some kind) :
    kind.isAuth = "/auth/".toList.isPrefixOf path := by
  obtain ⟨entry, hentry, rfl⟩ := Option.map_eq_some_iff.mp h
  have hmem := List.mem_of_find?_eq_some hentry
  have hbelow := List.find?_some hentry
  have hbase : entry.1 <+: path := by
    simp only [ExternalPluginKind.isBelow, Bool.or_eq_true, beq_iff_eq,
      List.isPrefixOf_iff_prefix] at hbelow
    rcases hbelow with rfl | hbelow
    · exact List.prefix_rfl
    · exact (List.prefix_append _ _).trans hbelow
  have hauth : ∀ base : Str, "/auth/".toList <+: base → base <+: path →
      true = "/auth/".toList.isPrefixOf path :=
    fun base hb hp => (List.isPrefixOf_iff_prefix.mpr (hb.trans hp)).symm
  simp only [List.mem_cons, List.not_mem_nil, or_false] at hmem
  rcases hmem with rfl | rfl | rfl | rfl
  · exact hauth _ (by decide +kernel) hbase
  · exact hauth _ (by decide +kernel) hbase
  · exact hauth _ (by decide +kernel) hbase
  · obtain ⟨tail, rfl⟩ := hbase
    rfl

/-- A configured plugin covers the operation at the request's mount. -/
structure PluginContract (client : Client) (report : OpenBaoCompatibilityReport)
    (operation : OpenBaoOperation) (pluginMount : Option Str)
    (selection : ExternalPluginSelection) : Prop where
  configured : selection ∈ client.externalPlugins
  mount : pluginMount = some selection.mount
  family : selection.kind.isAuth = "/auth/".toList.isPrefixOf operation.pathTemplate
  kind : ExternalPluginKind.forPath operation.pathTemplate = some selection.kind
  reviewed : operation.id ∈ reviewedOperations selection.kind selection.server
  verified : report.status = .verified
  detected : report.detectedVersion = some selection.server
  profile : report.profileVersion = some selection.server

theorem pluginContract_of_supports {client : Client} {report : OpenBaoCompatibilityReport}
    {operation : OpenBaoOperation} {pluginMount : Option Str} {selection : ExternalPluginSelection}
    (hs : pluginSelection client operation pluginMount = some selection)
    (h : selection.supports report operation = true) :
    PluginContract client report operation pluginMount selection := by
  simp only [ExternalPluginSelection.supports, Bool.and_eq_true, decide_eq_true_eq,
    List.contains_iff_mem] at h
  obtain ⟨⟨⟨⟨hverified, hdetected⟩, hprofile⟩, hkind⟩, hreviewed⟩ := h
  unfold pluginSelection at hs
  split at hs
  · next kind mount hk =>
    have hscope := List.find?_some hs
    simp only [ExternalPluginSelection.matchesMountScope, Bool.and_eq_true, beq_iff_eq] at hscope
    exact ⟨List.mem_of_find?_eq_some hs, by rw [hscope.2], isAuth_of_forPath hkind, hkind,
      hreviewed, hverified, hdetected, hprofile⟩
  · cases hs

/-- The lists of selections that a caller can configure. -/
inductive Configured : List ExternalPluginSelection → Prop where
  | none : Configured []
  | externalPlugin {selections selection next} (hc : Configured selections)
      (h : externalPlugin selections selection = .ok next) : Configured next

/-- At most one selection is configured for a mount of one family. -/
theorem Configured.pairwise {selections : List ExternalPluginSelection}
    (h : Configured selections) : selections.Pairwise fun a b => a.sameMount b = false := by
  induction h with
  | none => exact .nil
  | @externalPlugin selections selection next hc h ih =>
    unfold RegisteredRoutes.externalPlugin at h
    split at h
    · cases h
    · next hdistinct =>
      cases h
      simp only [Bool.or_eq_true, not_or, Bool.not_eq_true, List.any_eq_false] at hdistinct
      exact List.pairwise_append.mpr
        ⟨ih, List.pairwise_singleton _ _, fun a ha b hb => List.mem_singleton.mp hb ▸ hdistinct.2 a ha⟩

/-- What the checks on the selected operation leave. -/
theorem admitOperation_eq_ok {client : Client} {report : OpenBaoCompatibilityReport}
    {version : OpenBaoVersion} {operation : OpenBaoOperation} {pluginMount : Option Str}
    (h : admitOperation client report version operation pluginMount = .ok ()) :
    (operation.disposition = .typed ∨ operation.disposition = .typedGated) ∧
      ((∃ selection, PluginContract client report operation pluginMount selection) ∨
        operation.availability version = some .documentedRoute ∧
          requiresUnverifiedExternalPlugin operation.pathTemplate
            (report.detectedVersion.getD version) = false ∧
          pluginSelection client operation pluginMount = none) := by
  unfold admitOperation at h
  simp only at h
  split at h
  · cases h
  · next hrequired =>
    split at h
    · cases h
    · next hadmitted =>
      rw [Bool.or_eq_true, not_or] at hadmitted
      refine ⟨Decidable.or_iff_not_imp_left.mpr (by simpa using hadmitted.2), ?_⟩
      cases hsel : pluginSelection client operation pluginMount with
      | some selection =>
        simp only [hsel, Option.isSome_some, Bool.true_or, Option.any_some, Bool.true_and,
          Bool.not_eq_true', Bool.not_eq_false] at hrequired
        exact .inl ⟨selection, pluginContract_of_supports hsel hrequired⟩
      | none =>
        simp only [hsel, Option.isSome_none, Bool.false_or, Option.any_none, Bool.not_false,
          Bool.and_true, Bool.not_eq_true, Bool.true_and] at hrequired hadmitted
        exact .inr ⟨by simpa using hadmitted.1, hrequired, rfl⟩

theorem ensureCompatibility_eq_ok {client : Client} {health : HealthExchange}
    {report : OpenBaoCompatibilityReport} (h : ensureCompatibility client health = .ok report) :
    evaluateCompatibilityPolicy client.policy health = .ok report := by
  unfold ensureCompatibility at h
  cases he : evaluateCompatibilityPolicy client.policy health with
  | error e => simp [he, Except.mapError] at h
  | ok r => simpa [he, Except.mapError] using h

/-- Dispatch succeeds only with the documented operation, a justified profile, and the
documentation of that profile or a plugin contract behind it. -/
theorem resolveRegisteredOpenbaoRoute_failsClosed {client : Client} {health : HealthExchange}
    {requestedMethod : Method} {binding : RegisteredRouteBinding} {query : List (Str × Str)}
    {route : RegisteredOpenBaoRoute}
    (h : resolveRegisteredOpenbaoRoute operations client (ensureCompatibility client health)
      requestedMethod binding query = .ok route) :
    ∃ report profile path segments,
      ensureCompatibility client health = .ok report ∧ routingProfile report = some profile ∧
      binding.registryPath = .ok path ∧ validateEndpointPath path = .ok segments ∧
      (isRoutableProfile profile = true ∧
        ProfileJustified client.policy health report profile) ∧
      (Selects operations binding.scopePrefix requestedMethod segments query
          route.resolved.operation ∧
        (route.resolved.operation.disposition = .typed ∨
          route.resolved.operation.disposition = .typedGated)) ∧
      (route.resolved.operation.availability profile = some .documentedRoute ∧
          requiresUnverifiedExternalPlugin route.resolved.operation.pathTemplate
            (report.detectedVersion.getD profile) = false ∧
          pluginSelection client route.resolved.operation binding.pluginMount = none ∨
        ∃ selection,
          PluginContract client report route.resolved.operation binding.pluginMount selection) ∧
      route.resolved.method = requestedMethod ∧ route.wirePath = binding.wirePath := by
  obtain ⟨path, hpath, h⟩ := bind_eq_ok_iff.mp h
  obtain ⟨resolved, hresolved, h⟩ := bind_eq_ok_iff.mp h
  cases h
  obtain ⟨segments, hsegments, hresolved⟩ := bind_eq_ok_iff.mp hresolved
  obtain ⟨report, hreport, hresolved⟩ := bind_eq_ok_iff.mp hresolved
  split at hresolved
  · cases hresolved
  · next profile hprofile =>
    split at hresolved
    · cases hresolved
    · next hroutable =>
      obtain ⟨found, hfound, hresolved⟩ := bind_eq_ok_iff.mp hresolved
      obtain ⟨operation, hselect, hresolved⟩ := bind_eq_ok_iff.mp hresolved
      obtain ⟨_, hadmit, hresolved⟩ := bind_eq_ok_iff.mp hresolved
      obtain ⟨method, hmethod, hresolved⟩ := bind_eq_ok_iff.mp hresolved
      cases hresolved
      have hsel := selects_of_eq_ok hfound hselect
      obtain ⟨hdisposition, hcontract⟩ := admitOperation_eq_ok hadmit
      have hsent : method = requestedMethod := Except.ok.inj (hmethod.symm.trans hsel.sendsMethod)
      exact ⟨report, profile, path, segments, hreport, hprofile, hpath, hsegments,
        ⟨by simpa using hroutable,
          routingProfile_justified (ensureCompatibility_eq_ok hreport) hprofile⟩,
        ⟨hsel, hdisposition⟩, hcontract.symm, hsent, rfl⟩

/-- A verified 2.7.1 client with the reviewed LDAP plugin at the mount `team/ldap`. -/
def ldapClient : Client where
  policy := some .automaticStrict
  externalPlugins :=
    [{ kind := .ldapSecrets
       server := ⟨2, 7, 1⟩
       mount := "team/ldap".toList
       reviewed := by decide
       canonical := ⟨["team".toList, "ldap".toList], by decide +kernel, by decide +kernel⟩ }]

/-- The registry entry that reads the LDAP configuration. -/
def ldapConfig : OpenBaoOperation where
  id := "openbao.get.ldap.config.2bbeeb0df9593a92"
  method := .get
  pathTemplate := "/ldap/config".toList
  disposition := .typed
  ranges :=
    [⟨⟨2, 0, 0⟩, ⟨2, 6, 3⟩, .taggedDocumentation, false⟩,
      ⟨⟨2, 6, 4⟩, ⟨2, 6, 4⟩, .taggedDocumentation, false⟩,
      ⟨⟨2, 6, 5⟩, ⟨2, 6, 5⟩, .taggedDocumentation, false⟩,
      ⟨⟨2, 7, 0⟩, ⟨2, 7, 0⟩, .none, false⟩, ⟨⟨2, 7, 1⟩, ⟨2, 7, 1⟩, .none, false⟩,
      ⟨⟨2, 7, 2⟩, ⟨2, 7, 2⟩, .none, false⟩]

def ldapBinding : RegisteredRouteBinding :=
  .secretMount "/ldap/".toList "ldap".toList "team/ldap".toList "team/ldap/config".toList

theorem ldapConfig_failsClosed :
    ∃ report profile path segments,
      ensureCompatibility ldapClient (.response 200 (.value "2.7.1".toList)) = .ok report ∧
      routingProfile report = some profile ∧ ldapBinding.registryPath = .ok path ∧
      validateEndpointPath path = .ok segments ∧
      (isRoutableProfile profile = true ∧
        ProfileJustified ldapClient.policy (.response 200 (.value "2.7.1".toList)) report profile) ∧
      (Selects [ldapConfig] ldapBinding.scopePrefix "GET" segments [] ldapConfig ∧
        (ldapConfig.disposition = .typed ∨ ldapConfig.disposition = .typedGated)) ∧
      (ldapConfig.availability profile = some .documentedRoute ∧
          requiresUnverifiedExternalPlugin ldapConfig.pathTemplate
            (report.detectedVersion.getD profile) = false ∧
          pluginSelection ldapClient ldapConfig ldapBinding.pluginMount = none ∨
        ∃ selection,
          PluginContract ldapClient report ldapConfig ldapBinding.pluginMount selection) ∧
      "GET" = "GET" ∧ "team/ldap/config".toList = ldapBinding.wirePath :=
  have h : resolveRegisteredOpenbaoRoute [ldapConfig] ldapClient
      (ensureCompatibility ldapClient (.response 200 (.value "2.7.1".toList))) "GET" ldapBinding [] =
        .ok ⟨⟨ldapConfig.id, ldapConfig, "GET"⟩, "team/ldap/config".toList⟩ := by
    decide +kernel
  resolveRegisteredOpenbaoRoute_failsClosed [ldapConfig] h

end OpenBao.RegisteredRoutes
