import OpenBao.DispatchedRequests
import OpenBao.PkiRoutes

/-!
# Exported keys of the PKI engine

The methods whose answer holds a private key that the server generated. In the format
`pem_bundle` the server writes that key into the certificate field.
-/

namespace OpenBao.PkiKeyExport
open DispatchedRequests PathValidation PkiRoutes RequestPrograms RequestPrograms.Prog Utf8Text
open RegisteredRoutes hiding Client

/-- `str::eq_ignore_ascii_case`. -/
def eqIgnoreAsciiCase (a b : Str) : Bool :=
  (asBytes a).map toAsciiLowercase == (asBytes b).map toAsciiLowercase

/-- The format is a spelling of `pem_bundle`. -/
def isPemBundle (format : Option Str) : Bool :=
  format.any fun value => eqIgnoreAsciiCase value "pem_bundle".toList

def pemBundleError : Error :=
  .invalidParameter "PKI key export cannot use pem_bundle; use pem or der to keep private keys out of public fields"

def validatePrivateKeyOutputFormat (format : Option Str) (exportsPrivateKey : Bool) :
    Except Error Unit :=
  if exportsPrivateKey && isPemBundle format then .error pemBundleError else .ok ()

structure PkiIssueRequest where
  format : Option Str
  deriving DecidableEq, Repr

structure PkiGenerateRootRequest where
  format : Option Str
  privateKeyFormat : Option Str
  keyType : Option Str
  keyBits : Option ℕ
  keyRef : Option Str
  notBefore : Option Str
  deriving DecidableEq, Repr

/-- The checks read the same fields of both requests. -/
abbrev PkiGenerateIntermediateRequest := PkiGenerateRootRequest

structure PkiGenerateKeyRequest where
  keyType : Option Str
  keyBits : Option ℕ
  deriving DecidableEq, Repr

/-- Handle for a mounted engine. -/
structure Pki where
  client : Client
  mount : List Str
  validated : ∃ text, validateMountPath text = .ok mount

/-! The checks of the key settings. -/

def selectsMldsa (keyType : Option Str) (keyBits : Option ℕ) : Except Error Bool :=
  if !keyType.any fun value => eqIgnoreAsciiCase value "mldsa".toList then .ok false
  else if keyBits.all ([0, 44, 65, 87].contains ·) then .ok true
  else .error (.invalidParameter "PKI ML-DSA key_bits must be 0, 44, 65 or 87")

def validateKmsFields (keyType : Option Str) (keyBits : Option ℕ) (keyRef : Option Str)
    (privateKeyFormat : Option Str) : Except Error Unit :=
  if keyType.isSome || keyBits.isSome || keyRef.isSome || privateKeyFormat.isSome then
    .error (.invalidParameter
      "PKI KMS generation cannot set key_type, key_bits, key_ref or private_key_format")
  else .ok ()

/-- `PkiAuthorityKeySource::validate`. -/
def validateSource (source : PkiAuthorityKeySource) (keyType : Option Str) (keyBits : Option ℕ)
    (keyRef : Option Str) (privateKeyFormat : Option Str) : Except Error Unit :=
  match source with
  | .kms => validateKmsFields keyType keyBits keyRef privateKeyFormat
  | .existing =>
    if keyType.isSome || keyBits.isSome || privateKeyFormat.isSome then
      .error (.invalidParameter
        "existing PKI keys cannot set key_type, key_bits or private_key_format")
    else
      match keyRef with
      | none =>
        .error (.invalidParameter "existing PKI generation requires an explicit key_ref")
      | some reference =>
        let unbounded : Error :=
          .invalidParameter "existing PKI key_ref must be a bounded single reference"
        if reference = [] ∨ 256 < byteLen reference then .error unbounded
        else do
          let segments ← validateMountPath reference
          if segments.length ≠ 1 ∨ '/' ∈ reference then .error unbounded else .ok ()
  | .internal | .exported =>
    if keyRef.isSome then .error (.invalidParameter "new PKI key generation cannot set key_ref")
    else .ok ()

def mldsaField : VersionedRequestField := .since "pki.key" "key_type=mldsa" ⟨2, 7, 0⟩

def signingOptionsField : VersionedRequestField :=
  .since "pki.signing" "signing_options" ⟨2, 7, 0⟩

def pkiAuthorityNotBefore : VersionedRequestField :=
  .since "pki.authority.generate" "not_before" ⟨2, 1, 0⟩

variable {Answered : Type}

def validatePkiKeyAlgorithm (client : Client) (keyType : Option Str) (keyBits : Option ℕ) :
    Call Answered Client :=
  attempt (selectsMldsa keyType keyBits) fun selected =>
    if selected then validateVersionedRequestFields client [(mldsaField, true)]
    else .done (.ok client)

def requireSigningOptionsProfile (client : Client) : Call Answered Client :=
  validateVersionedRequestFields client [(signingOptionsField, true)]

def validateAuthorityRequestFields (client : Client) (notBeforeIsSet : Bool) :
    Call Answered Client :=
  validateVersionedRequestFields client [(pkiAuthorityNotBefore, notBeforeIsSet)]

/-! The methods. -/

/-- `RegisteredRouteBinding::SecretMount` for a path of the handle. -/
def binding (pki : Pki) (wirePath : Str) : RegisteredRouteBinding :=
  .secretMount "/pki/".toList "pki".toList (join '/' pki.mount) wirePath

variable (operations : List OpenBaoOperation) (pki : Pki)

/-- `enveloped` with the client as the checks before left it. -/
def enveloped (client : Client) (method : Method) (path : Str) : Call Answered Answered :=
  requestSecretJson operations client (binding pki path) method

/-- `issue` and `issue_with_issuer`, by their path. -/
def issueAt (path : PkiCall) (request : PkiIssueRequest) : Call Answered Answered :=
  attempt (validatePrivateKeyOutputFormat request.format true) fun _ =>
    attempt (path.path pki.mount) fun path => enveloped operations pki pki.client "POST" path

def issue (role : Str) (request : PkiIssueRequest) : Call Answered Answered :=
  issueAt operations pki (.issue role) request

def issueWithIssuer (issuerRef role : Str) (request : PkiIssueRequest) : Call Answered Answered :=
  issueAt operations pki (.issueWithIssuer issuerRef role) request

/-- `issue_with_key` and `issue_with_issuer_and_key`. The selected key is only sent. -/
def issueWithKeyAt (path : PkiCall) (request : PkiIssueRequest) : Call Answered Answered :=
  attempt (validatePrivateKeyOutputFormat request.format true) fun _ =>
    attempt (path.path pki.mount) fun path =>
      (requireSigningOptionsProfile pki.client).andThen fun client =>
        enveloped operations pki client "POST" path

def issueWithKey (role : Str) (request : PkiIssueRequest) : Call Answered Answered :=
  issueWithKeyAt operations pki (.issueWithKey role) request

def issueWithIssuerAndKey (issuerRef role : Str) (request : PkiIssueRequest) :
    Call Answered Answered :=
  issueWithKeyAt operations pki (.issueWithIssuerAndKey issuerRef role) request

def celIssue (role : Str) (_request : PkiIssueRequest) : Call Answered Answered :=
  attempt (PkiCall.path pki.mount (.celIssue role)) fun path =>
    enveloped operations pki pki.client "POST" path

/-- The key and signature options are only sent. -/
def celIssueWithOptions (role : Str) (_request : PkiIssueRequest) : Call Answered Answered :=
  attempt (PkiCall.path pki.mount (.celIssueWithOptions role)) fun path =>
    (requireSigningOptionsProfile pki.client).andThen fun client =>
      enveloped operations pki client "POST" path

/-- The generation of an authority's key, by its path. -/
def generateAt (path : PkiCall) (generationType : PkiKeyGenerationType)
    (request : PkiGenerateRootRequest) : Call Answered Answered :=
  attempt (validatePrivateKeyOutputFormat request.format (generationType == .exported)) fun _ =>
    (validatePkiKeyAlgorithm pki.client request.keyType request.keyBits).andThen fun client =>
      (validateAuthorityRequestFields client request.notBefore.isSome).andThen fun client =>
        attempt (path.path pki.mount) fun path => enveloped operations pki client "POST" path

def generateRoot (generationType : PkiKeyGenerationType) (request : PkiGenerateRootRequest) :
    Call Answered Answered :=
  generateAt operations pki (.generateRoot generationType) generationType request

def generateIssuerRoot (generationType : PkiKeyGenerationType)
    (request : PkiGenerateRootRequest) : Call Answered Answered :=
  generateAt operations pki (.generateIssuerRoot generationType) generationType request

def rotateRoot (generationType : PkiKeyGenerationType) (request : PkiGenerateRootRequest) :
    Call Answered Answered :=
  generateAt operations pki (.rotateRoot generationType) generationType request

def generateIntermediate (generationType : PkiKeyGenerationType)
    (request : PkiGenerateIntermediateRequest) : Call Answered Answered :=
  generateAt operations pki (.generateIntermediate generationType) generationType request

def generateIssuerIntermediate (generationType : PkiKeyGenerationType)
    (request : PkiGenerateIntermediateRequest) : Call Answered Answered :=
  generateAt operations pki (.generateIssuerIntermediate generationType) generationType request

def generateKey (generationType : PkiKeyGenerationType) (request : PkiGenerateKeyRequest) :
    Call Answered Answered :=
  (validatePkiKeyAlgorithm pki.client request.keyType request.keyBits).andThen fun client =>
    attempt (PkiCall.path pki.mount (.generateKey generationType)) fun path =>
      enveloped operations pki client "POST" path

/-- `generate_root_signed` and `generate_intermediate_signed`, by their path. The signature
options and the provider's key reference are only sent. -/
def generateSigned (path : PkiCall) (source : PkiAuthorityKeySource)
    (request : PkiGenerateRootRequest) : Call Answered Answered :=
  attempt (validatePrivateKeyOutputFormat request.format (source == .exported)) fun _ =>
    attempt (validateSource source request.keyType request.keyBits request.keyRef
      request.privateKeyFormat) fun _ =>
      (requireSigningOptionsProfile pki.client).andThen fun client =>
        (validatePkiKeyAlgorithm client request.keyType request.keyBits).andThen fun client =>
          (validateAuthorityRequestFields client request.notBefore.isSome).andThen fun client =>
            attempt (path.path pki.mount) fun path =>
              enveloped operations pki client "POST" path

def generateRootWithSignatureOptions (source : PkiAuthorityKeySource)
    (request : PkiGenerateRootRequest) : Call Answered Answered :=
  generateSigned operations pki (.generateRootWithSignatureOptions source) source request

def generateIssuerRootWithSignatureOptions (source : PkiAuthorityKeySource)
    (request : PkiGenerateRootRequest) : Call Answered Answered :=
  generateSigned operations pki (.generateIssuerRootWithSignatureOptions source) source request

def rotateRootWithSignatureOptions (source : PkiAuthorityKeySource)
    (request : PkiGenerateRootRequest) : Call Answered Answered :=
  generateSigned operations pki (.rotateRootWithSignatureOptions source) source request

def generateIntermediateWithSignatureOptions (source : PkiAuthorityKeySource)
    (request : PkiGenerateIntermediateRequest) : Call Answered Answered :=
  generateSigned operations pki (.generateIntermediateWithSignatureOptions source) source request

def generateIssuerIntermediateWithSignatureOptions (source : PkiAuthorityKeySource)
    (request : PkiGenerateIntermediateRequest) : Call Answered Answered :=
  generateSigned operations pki (.generateIssuerIntermediateWithSignatureOptions source) source
    request

/-- One call of a method whose answer can hold a generated private key. -/
inductive KeyCall where
  | issue (role : Str) (request : PkiIssueRequest)
  | issueWithIssuer (issuerRef role : Str) (request : PkiIssueRequest)
  | issueWithKey (role : Str) (request : PkiIssueRequest)
  | issueWithIssuerAndKey (issuerRef role : Str) (request : PkiIssueRequest)
  | celIssue (role : Str) (request : PkiIssueRequest)
  | celIssueWithOptions (role : Str) (request : PkiIssueRequest)
  | generateRoot (generationType : PkiKeyGenerationType) (request : PkiGenerateRootRequest)
  | generateIssuerRoot (generationType : PkiKeyGenerationType) (request : PkiGenerateRootRequest)
  | rotateRoot (generationType : PkiKeyGenerationType) (request : PkiGenerateRootRequest)
  | generateIntermediate (generationType : PkiKeyGenerationType)
    (request : PkiGenerateIntermediateRequest)
  | generateIssuerIntermediate (generationType : PkiKeyGenerationType)
    (request : PkiGenerateIntermediateRequest)
  | generateKey (generationType : PkiKeyGenerationType) (request : PkiGenerateKeyRequest)
  | generateRootWithSignatureOptions (source : PkiAuthorityKeySource)
    (request : PkiGenerateRootRequest)
  | generateIssuerRootWithSignatureOptions (source : PkiAuthorityKeySource)
    (request : PkiGenerateRootRequest)
  | rotateRootWithSignatureOptions (source : PkiAuthorityKeySource)
    (request : PkiGenerateRootRequest)
  | generateIntermediateWithSignatureOptions (source : PkiAuthorityKeySource)
    (request : PkiGenerateIntermediateRequest)
  | generateIssuerIntermediateWithSignatureOptions (source : PkiAuthorityKeySource)
    (request : PkiGenerateIntermediateRequest)
  deriving DecidableEq, Repr

namespace KeyCall

def run : KeyCall → Call Answered Answered
  | issue role request => PkiKeyExport.issue operations pki role request
  | issueWithIssuer issuerRef role request =>
    PkiKeyExport.issueWithIssuer operations pki issuerRef role request
  | issueWithKey role request => PkiKeyExport.issueWithKey operations pki role request
  | issueWithIssuerAndKey issuerRef role request =>
    PkiKeyExport.issueWithIssuerAndKey operations pki issuerRef role request
  | celIssue role request => PkiKeyExport.celIssue operations pki role request
  | celIssueWithOptions role request =>
    PkiKeyExport.celIssueWithOptions operations pki role request
  | generateRoot generationType request =>
    PkiKeyExport.generateRoot operations pki generationType request
  | generateIssuerRoot generationType request =>
    PkiKeyExport.generateIssuerRoot operations pki generationType request
  | rotateRoot generationType request =>
    PkiKeyExport.rotateRoot operations pki generationType request
  | generateIntermediate generationType request =>
    PkiKeyExport.generateIntermediate operations pki generationType request
  | generateIssuerIntermediate generationType request =>
    PkiKeyExport.generateIssuerIntermediate operations pki generationType request
  | generateKey generationType request =>
    PkiKeyExport.generateKey operations pki generationType request
  | generateRootWithSignatureOptions source request =>
    PkiKeyExport.generateRootWithSignatureOptions operations pki source request
  | generateIssuerRootWithSignatureOptions source request =>
    PkiKeyExport.generateIssuerRootWithSignatureOptions operations pki source request
  | rotateRootWithSignatureOptions source request =>
    PkiKeyExport.rotateRootWithSignatureOptions operations pki source request
  | generateIntermediateWithSignatureOptions source request =>
    PkiKeyExport.generateIntermediateWithSignatureOptions operations pki source request
  | generateIssuerIntermediateWithSignatureOptions source request =>
    PkiKeyExport.generateIssuerIntermediateWithSignatureOptions operations pki source request

/-- The `format` field of the request; a standalone key has none. -/
def format : KeyCall → Option Str
  | issue _ request | issueWithIssuer _ _ request | issueWithKey _ request
  | issueWithIssuerAndKey _ _ request | celIssue _ request | celIssueWithOptions _ request =>
    request.format
  | generateRoot _ request | generateIssuerRoot _ request | rotateRoot _ request
  | generateIntermediate _ request | generateIssuerIntermediate _ request
  | generateRootWithSignatureOptions _ request
  | generateIssuerRootWithSignatureOptions _ request | rotateRootWithSignatureOptions _ request
  | generateIntermediateWithSignatureOptions _ request
  | generateIssuerIntermediateWithSignatureOptions _ request => request.format
  | generateKey _ _ => none

/-- The answer holds the private key. -/
def exportsPrivateKey : KeyCall → Bool
  | issue _ _ | issueWithIssuer _ _ _ | issueWithKey _ _ | issueWithIssuerAndKey _ _ _
  | celIssue _ _ | celIssueWithOptions _ _ => true
  | generateRoot generationType _ | generateIssuerRoot generationType _
  | rotateRoot generationType _ | generateIntermediate generationType _
  | generateIssuerIntermediate generationType _ | generateKey generationType _ =>
    generationType == .exported
  | generateRootWithSignatureOptions source _ | generateIssuerRootWithSignatureOptions source _
  | rotateRootWithSignatureOptions source _ | generateIntermediateWithSignatureOptions source _
  | generateIssuerIntermediateWithSignatureOptions source _ => source == .exported

end KeyCall

/-- A call of a CEL role that nothing stops before a request is sent. -/
def ReachesServer : KeyCall → Prop
  | .celIssue role _ => ∃ path, PkiCall.path pki.mount (.celIssue role) = .ok path ∧
      Dispatches operations pki.client (binding pki path) "POST"
  | .celIssueWithOptions role _ =>
    ∃ path, PkiCall.path pki.mount (.celIssueWithOptions role) = .ok path ∧
      (settled? pki.client.verification = none ∨
        ∃ report, settled? pki.client.verification = some (.ok report) ∧
          checkRequestFields report [(signingOptionsField, true)] = .ok () ∧
            Dispatches operations pki.client (binding pki path) "POST")
  | _ => False

section refusal

variable {operations pki}

/-- A method that begins with the check of the format refuses a key in `pem_bundle`. -/
theorem refusedUnsent_pemBundle {format : Option Str} {exportsPrivateKey : Bool}
    {next : Unit → Call Answered Answered} (hexports : exportsPrivateKey = true)
    (hformat : isPemBundle format = true) :
    RefusedUnsent (attempt (validatePrivateKeyOutputFormat format exportsPrivateKey) next) := by
  have herror : validatePrivateKeyOutputFormat format exportsPrivateKey = .error pemBundleError := by
    simp [validatePrivateKeyOutputFormat, hexports, hformat]
  rw [herror]
  exact refusedUnsent_error pemBundleError

theorem refusedUnsent_celIssue_iff {role : Str} {request : PkiIssueRequest} :
    RefusedUnsent (celIssue operations pki role request : Call Answered Answered) ↔
      ¬ ReachesServer operations pki (.celIssue role request) := by
  rw [celIssue, refusedUnsent_attempt_iff, ReachesServer, not_exists]
  refine forall_congr' fun path => ?_
  rw [not_and]
  exact forall_congr' fun _ => refusedUnsent_requestSecretJson_iff operations

theorem refusedUnsent_celIssueWithOptions_iff {role : Str} {request : PkiIssueRequest} :
    RefusedUnsent (celIssueWithOptions operations pki role request : Call Answered Answered) ↔
      ¬ ReachesServer operations pki (.celIssueWithOptions role request) := by
  rw [celIssueWithOptions, refusedUnsent_attempt_iff, ReachesServer, not_exists]
  refine forall_congr' fun path => ?_
  rw [not_and]
  refine forall_congr' fun _ => ?_
  rw [requireSigningOptionsProfile, refusedUnsent_validateVersionedRequestFields_iff, not_or,
    not_exists]
  refine and_congr_right fun _ => forall_congr' fun report => ?_
  rw [not_and, not_and]
  exact forall₂_congr fun _ _ => refusedUnsent_requestSecretJson_iff operations

end refusal

/-- A call that asks for the exported key in the format `pem_bundle` is refused unsent,
except by the methods of CEL roles, which send what no other check stops. -/
theorem pemBundle_refusedUnsent_iff (call : KeyCall) (hexports : call.exportsPrivateKey = true)
    (hformat : isPemBundle call.format = true) :
    RefusedUnsent (call.run operations pki : Call Answered Answered) ↔
      ¬ ReachesServer operations pki call := by
  cases call with
  | celIssue role request => exact refusedUnsent_celIssue_iff
  | celIssueWithOptions role request => exact refusedUnsent_celIssueWithOptions_iff
  | generateKey generationType request => cases hformat
  | _ => exact iff_of_true (refusedUnsent_pemBundle hexports hformat) id

/-- The registry entry for issuing through a CEL role. -/
def celIssueOperation : OpenBaoOperation where
  id := "openbao.post.pki.cel.issue.name.e3ad2c729d6500de"
  method := .post
  pathTemplate := "/pki/cel/issue/:name".toList
  disposition := .typed
  ranges :=
    [⟨⟨2, 0, 0⟩, ⟨2, 3, 2⟩, .none, false⟩, ⟨⟨2, 4, 0⟩, ⟨2, 6, 3⟩, .taggedDocumentation, false⟩,
      ⟨⟨2, 6, 4⟩, ⟨2, 6, 4⟩, .taggedDocumentation, false⟩,
      ⟨⟨2, 6, 5⟩, ⟨2, 6, 5⟩, .taggedDocumentation, false⟩,
      ⟨⟨2, 7, 0⟩, ⟨2, 7, 0⟩, .taggedDocumentation, false⟩,
      ⟨⟨2, 7, 1⟩, ⟨2, 7, 1⟩, .taggedDocumentation, false⟩,
      ⟨⟨2, 7, 2⟩, ⟨2, 7, 2⟩, .taggedDocumentation, false⟩]

/-- The engine at `pki`, by a client without a compatibility policy. -/
def plainPki : Pki where
  client :=
    { policy := none
      externalPlugins := []
      verification := CompatibilityProbe.newVerification none
      prepare := fun _ _ => .ok () }
  mount := ["pki".toList]
  validated := ⟨"pki".toList, by decide +kernel⟩

def pemBundleRequest : PkiIssueRequest := ⟨some "PEM_BUNDLE".toList⟩

theorem issue_pemBundle_refusedUnsent :
    RefusedUnsent ((KeyCall.issue "web".toList pemBundleRequest).run [celIssueOperation] plainPki :
      Call Unit Unit) ↔
      ¬ ReachesServer [celIssueOperation] plainPki (.issue "web".toList pemBundleRequest) :=
  pemBundle_refusedUnsent_iff _ _ _ rfl (by decide +kernel)

/-- A CEL role is asked for a key in `PEM_BUNDLE`. -/
theorem celIssue_sends_pemBundle :
    (KeyCall.celIssue "web".toList pemBundleRequest).exportsPrivateKey = true ∧
      isPemBundle (KeyCall.celIssue "web".toList pemBundleRequest).format = true ∧
        ¬ RefusedUnsent ((KeyCall.celIssue "web".toList pemBundleRequest).run [celIssueOperation]
          plainPki : Call Unit Unit) := by
  refine ⟨rfl, by decide +kernel, ?_⟩
  rw [KeyCall.run, refusedUnsent_celIssue_iff, not_not]
  have hpath : PkiCall.path plainPki.mount (.celIssue "web".toList) =
      .ok "pki/cel/issue/web".toList := by decide +kernel
  have hsegments : ((binding plainPki "pki/cel/issue/web".toList).registryPath >>=
      validateEndpointPath) =
        .ok ["pki".toList, "cel".toList, "issue".toList, "web".toList] := by decide +kernel
  have hroute : resolveRegisteredOpenbaoRoute [celIssueOperation] plainPki.client.toClient
      (.ok .unverified) "POST" (binding plainPki "pki/cel/issue/web".toList) [] =
        .ok ⟨⟨celIssueOperation.id, celIssueOperation, "POST"⟩, "pki/cel/issue/web".toList⟩ := by
    decide +kernel
  exact ⟨_, hpath, ⟨_, hsegments⟩, .inr ⟨_, rfl, _, hroute, rfl⟩⟩

end OpenBao.PkiKeyExport
