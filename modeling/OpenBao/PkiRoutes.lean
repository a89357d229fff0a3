import OpenBao.SecretRoutes

/-!
# Paths of the PKI engine

The calls of both PKI handles whose documented route has a placeholder. The methods that
only return a URL of the ACME directory send no request.
-/

namespace OpenBao.PkiRoutes
open PathValidation RegisteredRoutes RouteForms RouteTemplates SecretRoutes Utf8Text

inductive PkiKeyGenerationType where
  | internal | exported | existing
  deriving DecidableEq, Repr

def PkiKeyGenerationType.asPathSegment : PkiKeyGenerationType → Str
  | internal => "internal".toList
  | exported => "exported".toList
  | existing => "existing".toList

theorem PkiKeyGenerationType.plain (a : PkiKeyGenerationType) :
    a.asPathSegment ≠ [] ∧ '/' ∉ a.asPathSegment := by
  cases a <;> decide +kernel

def PkiKeyGenerationType.argument (a : PkiKeyGenerationType) : Argument :=
  .choice a.asPathSegment a.plain

/-- The source of an authority's key, without the reference of a provider key. -/
inductive PkiAuthorityKeySource where
  | internal | exported | existing | kms
  deriving DecidableEq, Repr

def PkiAuthorityKeySource.segment : PkiAuthorityKeySource → Str
  | internal => "internal".toList
  | exported => "exported".toList
  | existing => "existing".toList
  | kms => "kms".toList

theorem PkiAuthorityKeySource.plain (a : PkiAuthorityKeySource) :
    a.segment ≠ [] ∧ '/' ∉ a.segment := by
  cases a <;> decide +kernel

def PkiAuthorityKeySource.argument (a : PkiAuthorityKeySource) : Argument :=
  .choice a.segment a.plain

inductive PkiPublicFormat where
  | der | pem | json
  deriving DecidableEq, Repr

/-- `Pki::path`. -/
def path (mount tail : List Str) : Except Error Str := enginePath mount tail

/-- `PkiPublic::path`. -/
def publicPath (mount tail : List Str) : Except Error Str := enginePath mount tail

def isUrlSafeBase64 (byte : UInt8) : Bool :=
  isAsciiAlphanumeric byte || byte == 0x2d || byte == 0x5f

def checkEncodedRequest (encodedRequest : Str) : Except Error Unit :=
  if encodedRequest = [] ∨ !(asBytes encodedRequest).all isUrlSafeBase64 then
    .error (.invalidParameter "encoded OCSP request must be unpadded URL-safe base64")
  else .ok ()

inductive PkiCall where
  | generateRoot (generationType : PkiKeyGenerationType) | generateRootKms
  | generateRootWithSignatureOptions (source : PkiAuthorityKeySource)
  | generateIssuerRoot (generationType : PkiKeyGenerationType) | generateIssuerRootKms
  | generateIssuerRootWithSignatureOptions (source : PkiAuthorityKeySource)
  | rotateRoot (generationType : PkiKeyGenerationType) | rotateRootKms
  | rotateRootWithSignatureOptions (source : PkiAuthorityKeySource)
  | generateKey (generationType : PkiKeyGenerationType) | generateKeyKms
  | generateIntermediate (generationType : PkiKeyGenerationType) | generateIntermediateKms
  | generateIntermediateWithSignatureOptions (source : PkiAuthorityKeySource)
  | generateIssuerIntermediate (generationType : PkiKeyGenerationType)
  | generateIssuerIntermediateKms
  | generateIssuerIntermediateWithSignatureOptions (source : PkiAuthorityKeySource)
  | signIntermediateWithIssuer (issuerRef : Str)
  | signIntermediateWithIssuerAndSignatureOptions (issuerRef : Str)
  | signSelfIssuedWithIssuer (issuerRef : Str)
  | writeRole (name : Str) | writeRoleWithIdentityTemplateGlobs (name : Str)
  | writeRoleWithSigningOptions (name : Str)
  | patchRole (name : Str) | patchRoleWithIdentityTemplateGlobs (name : Str)
  | patchRoleWithSigningOptions (name : Str)
  | readRole (name : Str) | readRoleDetails (name : Str) | readRoleSigningDetails (name : Str)
  | deleteRole (name : Str)
  | issue (role : Str) | issueWithKey (role : Str)
  | issueWithIssuer (issuerRef role : Str) | issueWithIssuerAndKey (issuerRef role : Str)
  | sign (role : Str) | signWithIssuer (issuerRef role : Str)
  | signVerbatim | signVerbatimAtRole (role : Str)
  | signVerbatimWithIssuer (issuerRef : Str) | signVerbatimWithIssuerAtRole (issuerRef role : Str)
  | readCertificate (serial : Str) | resignCrls (issuerRef : Str)
  | signRevocationList (issuerRef : Str)
  | readIssuer (issuerRef : Str) | deleteIssuer (issuerRef : Str) | patchIssuer (issuerRef : Str)
  | revokeIssuer (issuerRef : Str)
  | readKey (keyRef : Str) | deleteKey (keyRef : Str) | renameKey (keyRef : Str)
  | generateIssuerAcmeEab (issuerRef : Str) | generateRoleAcmeEab (role : Str)
  | generateIssuerRoleAcmeEab (issuerRef role : Str) | deleteAcmeEabToken (keyId : Str)
  | writeCelRole (name : Str) | patchCelRole (name : Str) | readCelRole (name : Str)
  | deleteCelRole (name : Str)
  | celIssue (role : Str) | celIssueWithOptions (role : Str)
  | celSign (role : Str) | celSignWithSignatureOptions (role : Str)
  | certificateDer (serial : Str) | certificatePem (serial : Str)
  | issuerCertificate (issuerRef : Str) (format : PkiPublicFormat)
  | issuerCrl (issuerRef : Str) (delta : Bool) (format : PkiPublicFormat)
  | ocspGetEncoded (encodedRequest : Str)
  deriving DecidableEq, Repr

namespace PkiCall

def httpMethod : PkiCall → Method
  | patchRole _ | patchRoleWithIdentityTemplateGlobs _ | patchRoleWithSigningOptions _
  | patchIssuer _ | patchCelRole _ => "PATCH"
  | readRole _ | readRoleDetails _ | readRoleSigningDetails _ | readCertificate _ | readIssuer _
  | readKey _ | readCelRole _ | certificateDer _ | certificatePem _ | issuerCertificate _ _
  | issuerCrl _ _ _ | ocspGetEncoded _ => "GET"
  | deleteRole _ | deleteIssuer _ | deleteKey _ | deleteAcmeEabToken _ | deleteCelRole _ => "DELETE"
  | _ => "POST"

def path (mount : List Str) : PkiCall → Except Error Str
  | generateRoot generationType =>
    PkiRoutes.path mount ["root".toList, "generate".toList, generationType.asPathSegment]
  | generateRootKms => PkiRoutes.path mount ["root".toList, "generate".toList, "kms".toList]
  | generateRootWithSignatureOptions source =>
    PkiRoutes.path mount (["root".toList, "generate".toList] ++ [source.segment])
  | generateIssuerRoot generationType =>
    PkiRoutes.path mount
      ["issuers".toList, "generate".toList, "root".toList, generationType.asPathSegment]
  | generateIssuerRootKms =>
    PkiRoutes.path mount ["issuers".toList, "generate".toList, "root".toList, "kms".toList]
  | generateIssuerRootWithSignatureOptions source =>
    PkiRoutes.path mount (["issuers".toList, "generate".toList, "root".toList] ++ [source.segment])
  | rotateRoot generationType =>
    PkiRoutes.path mount ["root".toList, "rotate".toList, generationType.asPathSegment]
  | rotateRootKms => PkiRoutes.path mount ["root".toList, "rotate".toList, "kms".toList]
  | rotateRootWithSignatureOptions source =>
    PkiRoutes.path mount (["root".toList, "rotate".toList] ++ [source.segment])
  | generateKey generationType =>
    PkiRoutes.path mount ["keys".toList, "generate".toList, generationType.asPathSegment]
  | generateKeyKms => PkiRoutes.path mount ["keys".toList, "generate".toList, "kms".toList]
  | generateIntermediate generationType =>
    PkiRoutes.path mount ["intermediate".toList, "generate".toList, generationType.asPathSegment]
  | generateIntermediateKms =>
    PkiRoutes.path mount ["intermediate".toList, "generate".toList, "kms".toList]
  | generateIntermediateWithSignatureOptions source =>
    PkiRoutes.path mount ["intermediate".toList, "generate".toList, source.segment]
  | generateIssuerIntermediate generationType =>
    PkiRoutes.path mount
      ["issuers".toList, "generate".toList, "intermediate".toList, generationType.asPathSegment]
  | generateIssuerIntermediateKms =>
    PkiRoutes.path mount ["issuers".toList, "generate".toList, "intermediate".toList, "kms".toList]
  | generateIssuerIntermediateWithSignatureOptions source =>
    PkiRoutes.path mount
      ["issuers".toList, "generate".toList, "intermediate".toList, source.segment]
  | signIntermediateWithIssuer issuerRef | signIntermediateWithIssuerAndSignatureOptions issuerRef =>
    PkiRoutes.path mount ["issuer".toList, issuerRef, "sign-intermediate".toList]
  | signSelfIssuedWithIssuer issuerRef =>
    PkiRoutes.path mount ["issuer".toList, issuerRef, "sign-self-issued".toList]
  | writeRole name | writeRoleWithIdentityTemplateGlobs name | writeRoleWithSigningOptions name
  | patchRole name | patchRoleWithIdentityTemplateGlobs name | patchRoleWithSigningOptions name
  | readRole name | readRoleDetails name | readRoleSigningDetails name | deleteRole name =>
    PkiRoutes.path mount ["roles".toList, name]
  | issue role | issueWithKey role => PkiRoutes.path mount ["issue".toList, role]
  | issueWithIssuer issuerRef role | issueWithIssuerAndKey issuerRef role =>
    PkiRoutes.path mount ["issuer".toList, issuerRef, "issue".toList, role]
  | sign role => PkiRoutes.path mount ["sign".toList, role]
  | signWithIssuer issuerRef role =>
    PkiRoutes.path mount ["issuer".toList, issuerRef, "sign".toList, role]
  | signVerbatim => PkiRoutes.path mount ["sign-verbatim".toList]
  | signVerbatimAtRole role => PkiRoutes.path mount ["sign-verbatim".toList, role]
  | signVerbatimWithIssuer issuerRef =>
    PkiRoutes.path mount ["issuer".toList, issuerRef, "sign-verbatim".toList]
  | signVerbatimWithIssuerAtRole issuerRef role =>
    PkiRoutes.path mount ["issuer".toList, issuerRef, "sign-verbatim".toList, role]
  | readCertificate serial => PkiRoutes.path mount ["cert".toList, serial]
  | resignCrls issuerRef => PkiRoutes.path mount ["issuer".toList, issuerRef, "resign-crls".toList]
  | signRevocationList issuerRef =>
    PkiRoutes.path mount ["issuer".toList, issuerRef, "sign-revocation-list".toList]
  | readIssuer issuerRef | deleteIssuer issuerRef | patchIssuer issuerRef =>
    PkiRoutes.path mount ["issuer".toList, issuerRef]
  | revokeIssuer issuerRef => PkiRoutes.path mount ["issuer".toList, issuerRef, "revoke".toList]
  | readKey keyRef | deleteKey keyRef | renameKey keyRef =>
    PkiRoutes.path mount ["key".toList, keyRef]
  | generateIssuerAcmeEab issuerRef =>
    PkiRoutes.path mount ["issuer".toList, issuerRef, "acme".toList, "new-eab".toList]
  | generateRoleAcmeEab role =>
    PkiRoutes.path mount ["roles".toList, role, "acme".toList, "new-eab".toList]
  | generateIssuerRoleAcmeEab issuerRef role =>
    PkiRoutes.path mount
      ["issuer".toList, issuerRef, "roles".toList, role, "acme".toList, "new-eab".toList]
  | deleteAcmeEabToken keyId => PkiRoutes.path mount ["eab".toList, keyId]
  | writeCelRole name | patchCelRole name | readCelRole name | deleteCelRole name =>
    PkiRoutes.path mount ["cel".toList, "roles".toList, name]
  | celIssue role | celIssueWithOptions role =>
    PkiRoutes.path mount ["cel".toList, "issue".toList, role]
  | celSign role | celSignWithSignatureOptions role =>
    PkiRoutes.path mount ["cel".toList, "sign".toList, role]
  | certificateDer serial => publicPath mount ["cert".toList, serial, "raw".toList]
  | certificatePem serial => publicPath mount ["cert".toList, serial, "raw".toList, "pem".toList]
  | issuerCertificate issuerRef format =>
    let suffix := match format with
      | .der => "der".toList
      | .pem => "pem".toList
      | .json => "json".toList
    publicPath mount ["issuer".toList, issuerRef, suffix]
  | issuerCrl issuerRef delta format =>
    let suffix := match format with
      | .der => some "der".toList
      | .pem => some "pem".toList
      | .json => none
    publicPath mount (["issuer".toList, issuerRef, "crl".toList] ++
      (if delta then ["delta".toList] else []) ++ suffix.toList)
  | ocspGetEncoded encodedRequest => do
    checkEncodedRequest encodedRequest
    publicPath mount ["ocsp".toList, encodedRequest]

end PkiCall

/-! ### Documented routes -/

/-- The entries of the generated registry below `/pki/`. -/
def pkiRegistry : List (OpenBaoHttpMethod × Str) :=
  [(.acme, "/pki/acme/directory".toList),
    (.acme, "/pki/issuer/:issuer_ref/acme/directory".toList),
    (.acme, "/pki/issuer/:issuer_ref/roles/:role/acme/directory".toList),
    (.acme, "/pki/roles/:role/acme/directory".toList),
    (.delete, "/pki/cel/roles/:name".toList),
    (.delete, "/pki/eab/:key_id".toList),
    (.delete, "/pki/issuer/:issuer_ref".toList),
    (.delete, "/pki/key/:key_ref".toList),
    (.delete, "/pki/roles/:name".toList),
    (.delete, "/pki/root".toList),
    (.get, "/pki/ca".toList),
    (.get, "/pki/ca_chain".toList),
    (.get, "/pki/ca/pem".toList),
    (.get, "/pki/cel/roles/:name".toList),
    (.get, "/pki/cert/ca_chain".toList),
    (.get, "/pki/cert/ca".toList),
    (.get, "/pki/cert/crl".toList),
    (.get, "/pki/cert/delta-crl".toList),
    (.get, "/pki/cert/:serial".toList),
    (.get, "/pki/cert/:serial/raw".toList),
    (.get, "/pki/cert/:serial/raw/pem".toList),
    (.get, "/pki/config/acme".toList),
    (.get, "/pki/config/auto-tidy".toList),
    (.get, "/pki/config/cluster".toList),
    (.get, "/pki/config/crl".toList),
    (.get, "/pki/config/issuers".toList),
    (.get, "/pki/config/keys".toList),
    (.get, "/pki/config/urls".toList),
    (.get, "/pki/crl".toList),
    (.get, "/pki/crl/delta".toList),
    (.get, "/pki/crl/delta/pem".toList),
    (.get, "/pki/crl/pem".toList),
    (.get, "/pki/crl/rotate".toList),
    (.get, "/pki/crl/rotate-delta".toList),
    (.get, "/pki/issuer/:issuer_ref/crl/delta/der".toList),
    (.get, "/pki/issuer/:issuer_ref/crl/delta".toList),
    (.get, "/pki/issuer/:issuer_ref/crl/delta/pem".toList),
    (.get, "/pki/issuer/:issuer_ref/crl/der".toList),
    (.get, "/pki/issuer/:issuer_ref/crl".toList),
    (.get, "/pki/issuer/:issuer_ref/crl/pem".toList),
    (.get, "/pki/issuer/:issuer_ref/der".toList),
    (.get, "/pki/issuer/:issuer_ref".toList),
    (.get, "/pki/issuer/:issuer_ref/json".toList),
    (.get, "/pki/issuer/:issuer_ref/pem".toList),
    (.get, "/pki/key/:key_ref".toList),
    (.get, "/pki/ocsp/<base 64+URL encoded ocsp DER request>".toList),
    (.get, "/pki/roles/:name".toList),
    (.get, "/pki/tidy-status".toList),
    (.list, "/pki/cel/roles".toList),
    (.list, "/pki/certs".toList),
    (.list, "/pki/certs/detailed?detailed=true".toList),
    (.list, "/pki/certs/revocation-queue".toList),
    (.list, "/pki/certs/revoked".toList),
    (.list, "/pki/eab".toList),
    (.list, "/pki/issuers".toList),
    (.list, "/pki/keys".toList),
    (.list, "/pki/roles".toList),
    (.patch, "/pki/cel/roles/:name".toList),
    (.patch, "/pki/issuer/:issuer_ref".toList),
    (.patch, "/pki/roles/:name".toList),
    (.post, "/pki/acme/new-eab".toList),
    (.post, "/pki/cel/issue/:name".toList),
    (.post, "/pki/cel/roles/:name".toList),
    (.post, "/pki/cel/sign/:name".toList),
    (.post, "/pki/config/acme".toList),
    (.post, "/pki/config/auto-tidy".toList),
    (.post, "/pki/config/ca".toList),
    (.post, "/pki/config/cluster".toList),
    (.post, "/pki/config/crl".toList),
    (.post, "/pki/config/issuers".toList),
    (.post, "/pki/config/keys".toList),
    (.post, "/pki/config/urls".toList),
    (.post, "/pki/intermediate/cross-sign".toList),
    (.post, "/pki/intermediate/generate/:type".toList),
    (.post, "/pki/intermediate/set-signed".toList),
    (.post, "/pki/issue/:name".toList),
    (.post, "/pki/issuer/:issuer_ref".toList),
    (.post, "/pki/issuer/:issuer_ref/acme/new-eab".toList),
    (.post, "/pki/issuer/:issuer_ref/issue/:name".toList),
    (.post, "/pki/issuer/:issuer_ref/resign-crls".toList),
    (.post, "/pki/issuer/:issuer_ref/revoke".toList),
    (.post, "/pki/issuer/:issuer_ref/roles/:role/acme/new-eab".toList),
    (.post, "/pki/issuer/:issuer_ref/sign-intermediate".toList),
    (.post, "/pki/issuer/:issuer_ref/sign/:name".toList),
    (.post, "/pki/issuer/:issuer_ref/sign-revocation-list".toList),
    (.post, "/pki/issuer/:issuer_ref/sign-self-issued".toList),
    (.post, "/pki/issuer/:issuer_ref/sign-verbatim(/:name)".toList),
    (.post, "/pki/issuers/generate/intermediate/:type".toList),
    (.post, "/pki/issuers/generate/root/:type".toList),
    (.post, "/pki/issuers/import/bundle".toList),
    (.post, "/pki/issuers/import/cert".toList),
    (.post, "/pki/key/:key_ref".toList),
    (.post, "/pki/keys/generate/:type".toList),
    (.post, "/pki/keys/import".toList),
    (.post, "/pki/ocsp".toList),
    (.post, "/pki/revoke".toList),
    (.post, "/pki/revoke-with-key".toList),
    (.post, "/pki/roles/:name".toList),
    (.post, "/pki/roles/:role/acme/new-eab".toList),
    (.post, "/pki/root/generate/:type".toList),
    (.post, "/pki/root/replace".toList),
    (.post, "/pki/root/rotate/:type".toList),
    (.post, "/pki/root/sign-intermediate".toList),
    (.post, "/pki/root/sign-self-issued".toList),
    (.post, "/pki/sign/:name".toList),
    (.post, "/pki/sign-verbatim(/:name)".toList),
    (.post, "/pki/tidy".toList),
    (.post, "/pki/tidy-cancel".toList)]

/-- The documented routes, one for each form that a call can take. -/
inductive PkiRoute where
  | generateRoot | generateIssuerRoot | rotateRoot | generateKey | generateIntermediate
  | generateIssuerIntermediate | signIntermediateWithIssuer | signSelfIssuedWithIssuer
  | writeRole | patchRole | readRole | deleteRole | issue | issueWithIssuer | sign
  | signWithIssuer | signVerbatim | signVerbatimAtRole | signVerbatimWithIssuer
  | signVerbatimWithIssuerAtRole | readCertificate | resignCrls | signRevocationList
  | readIssuer | deleteIssuer | patchIssuer | revokeIssuer | readKey | deleteKey | renameKey
  | generateIssuerAcmeEab | generateRoleAcmeEab | generateIssuerRoleAcmeEab | deleteAcmeEabToken
  | writeCelRole | patchCelRole | readCelRole | deleteCelRole | celIssue | celSign
  | certificateDer | certificatePem | issuerDer | issuerPem | issuerJson | issuerCrl
  | issuerCrlDer | issuerCrlPem | issuerDeltaCrl | issuerDeltaCrlDer | issuerDeltaCrlPem
  | ocspGetEncoded
  deriving DecidableEq, Repr

def PkiRoute.routes : List PkiRoute :=
  [.generateRoot, .generateIssuerRoot, .rotateRoot, .generateKey, .generateIntermediate,
    .generateIssuerIntermediate, .signIntermediateWithIssuer, .signSelfIssuedWithIssuer,
    .writeRole, .patchRole, .readRole, .deleteRole, .issue, .issueWithIssuer, .sign,
    .signWithIssuer, .signVerbatim, .signVerbatimAtRole, .signVerbatimWithIssuer,
    .signVerbatimWithIssuerAtRole, .readCertificate, .resignCrls, .signRevocationList,
    .readIssuer, .deleteIssuer, .patchIssuer, .revokeIssuer, .readKey, .deleteKey, .renameKey,
    .generateIssuerAcmeEab, .generateRoleAcmeEab, .generateIssuerRoleAcmeEab,
    .deleteAcmeEabToken, .writeCelRole, .patchCelRole, .readCelRole, .deleteCelRole, .celIssue,
    .celSign, .certificateDer, .certificatePem, .issuerDer, .issuerPem, .issuerJson, .issuerCrl,
    .issuerCrlDer, .issuerCrlPem, .issuerDeltaCrl, .issuerDeltaCrlDer, .issuerDeltaCrlPem,
    .ocspGetEncoded]

def PkiRoute.documentation : PkiRoute → DocumentedRoute
  | generateRoot =>
    ⟨.post, "/pki/root/generate/:type".toList, [lit "root", lit "generate", hole ":type"], []⟩
  | generateIssuerRoot =>
    ⟨.post, "/pki/issuers/generate/root/:type".toList,
      [lit "issuers", lit "generate", lit "root", hole ":type"], []⟩
  | rotateRoot =>
    ⟨.post, "/pki/root/rotate/:type".toList, [lit "root", lit "rotate", hole ":type"], []⟩
  | generateKey =>
    ⟨.post, "/pki/keys/generate/:type".toList, [lit "keys", lit "generate", hole ":type"], []⟩
  | generateIntermediate =>
    ⟨.post, "/pki/intermediate/generate/:type".toList,
      [lit "intermediate", lit "generate", hole ":type"], []⟩
  | generateIssuerIntermediate =>
    ⟨.post, "/pki/issuers/generate/intermediate/:type".toList,
      [lit "issuers", lit "generate", lit "intermediate", hole ":type"], []⟩
  | signIntermediateWithIssuer =>
    ⟨.post, "/pki/issuer/:issuer_ref/sign-intermediate".toList,
      [lit "issuer", hole ":issuer_ref", lit "sign-intermediate"], []⟩
  | signSelfIssuedWithIssuer =>
    ⟨.post, "/pki/issuer/:issuer_ref/sign-self-issued".toList,
      [lit "issuer", hole ":issuer_ref", lit "sign-self-issued"], []⟩
  | writeRole => ⟨.post, "/pki/roles/:name".toList, [lit "roles", hole ":name"], []⟩
  | patchRole => ⟨.patch, "/pki/roles/:name".toList, [lit "roles", hole ":name"], []⟩
  | readRole => ⟨.get, "/pki/roles/:name".toList, [lit "roles", hole ":name"], []⟩
  | deleteRole => ⟨.delete, "/pki/roles/:name".toList, [lit "roles", hole ":name"], []⟩
  | issue => ⟨.post, "/pki/issue/:name".toList, [lit "issue", hole ":name"], []⟩
  | issueWithIssuer =>
    ⟨.post, "/pki/issuer/:issuer_ref/issue/:name".toList,
      [lit "issuer", hole ":issuer_ref", lit "issue", hole ":name"], []⟩
  | sign => ⟨.post, "/pki/sign/:name".toList, [lit "sign", hole ":name"], []⟩
  | signWithIssuer =>
    ⟨.post, "/pki/issuer/:issuer_ref/sign/:name".toList,
      [lit "issuer", hole ":issuer_ref", lit "sign", hole ":name"], []⟩
  | signVerbatim => ⟨.post, "/pki/sign-verbatim(/:name)".toList, [lit "sign-verbatim"], []⟩
  | signVerbatimAtRole =>
    ⟨.post, "/pki/sign-verbatim(/:name)".toList, [lit "sign-verbatim", hole ":name"], []⟩
  | signVerbatimWithIssuer =>
    ⟨.post, "/pki/issuer/:issuer_ref/sign-verbatim(/:name)".toList,
      [lit "issuer", hole ":issuer_ref", lit "sign-verbatim"], []⟩
  | signVerbatimWithIssuerAtRole =>
    ⟨.post, "/pki/issuer/:issuer_ref/sign-verbatim(/:name)".toList,
      [lit "issuer", hole ":issuer_ref", lit "sign-verbatim", hole ":name"], []⟩
  | readCertificate =>
    ⟨.get, "/pki/cert/:serial".toList, [lit "cert", hole ":serial"],
      ["/pki/cert/ca".toList, "/pki/cert/ca_chain".toList, "/pki/cert/crl".toList,
        "/pki/cert/delta-crl".toList]⟩
  | resignCrls =>
    ⟨.post, "/pki/issuer/:issuer_ref/resign-crls".toList,
      [lit "issuer", hole ":issuer_ref", lit "resign-crls"], []⟩
  | signRevocationList =>
    ⟨.post, "/pki/issuer/:issuer_ref/sign-revocation-list".toList,
      [lit "issuer", hole ":issuer_ref", lit "sign-revocation-list"], []⟩
  | readIssuer => ⟨.get, "/pki/issuer/:issuer_ref".toList, [lit "issuer", hole ":issuer_ref"], []⟩
  | deleteIssuer =>
    ⟨.delete, "/pki/issuer/:issuer_ref".toList, [lit "issuer", hole ":issuer_ref"], []⟩
  | patchIssuer =>
    ⟨.patch, "/pki/issuer/:issuer_ref".toList, [lit "issuer", hole ":issuer_ref"], []⟩
  | revokeIssuer =>
    ⟨.post, "/pki/issuer/:issuer_ref/revoke".toList,
      [lit "issuer", hole ":issuer_ref", lit "revoke"], []⟩
  | readKey => ⟨.get, "/pki/key/:key_ref".toList, [lit "key", hole ":key_ref"], []⟩
  | deleteKey => ⟨.delete, "/pki/key/:key_ref".toList, [lit "key", hole ":key_ref"], []⟩
  | renameKey => ⟨.post, "/pki/key/:key_ref".toList, [lit "key", hole ":key_ref"], []⟩
  | generateIssuerAcmeEab =>
    ⟨.post, "/pki/issuer/:issuer_ref/acme/new-eab".toList,
      [lit "issuer", hole ":issuer_ref", lit "acme", lit "new-eab"], []⟩
  | generateRoleAcmeEab =>
    ⟨.post, "/pki/roles/:role/acme/new-eab".toList,
      [lit "roles", hole ":role", lit "acme", lit "new-eab"], []⟩
  | generateIssuerRoleAcmeEab =>
    ⟨.post, "/pki/issuer/:issuer_ref/roles/:role/acme/new-eab".toList,
      [lit "issuer", hole ":issuer_ref", lit "roles", hole ":role", lit "acme", lit "new-eab"], []⟩
  | deleteAcmeEabToken => ⟨.delete, "/pki/eab/:key_id".toList, [lit "eab", hole ":key_id"], []⟩
  | writeCelRole =>
    ⟨.post, "/pki/cel/roles/:name".toList, [lit "cel", lit "roles", hole ":name"], []⟩
  | patchCelRole =>
    ⟨.patch, "/pki/cel/roles/:name".toList, [lit "cel", lit "roles", hole ":name"], []⟩
  | readCelRole => ⟨.get, "/pki/cel/roles/:name".toList, [lit "cel", lit "roles", hole ":name"], []⟩
  | deleteCelRole =>
    ⟨.delete, "/pki/cel/roles/:name".toList, [lit "cel", lit "roles", hole ":name"], []⟩
  | celIssue => ⟨.post, "/pki/cel/issue/:name".toList, [lit "cel", lit "issue", hole ":name"], []⟩
  | celSign => ⟨.post, "/pki/cel/sign/:name".toList, [lit "cel", lit "sign", hole ":name"], []⟩
  | certificateDer =>
    ⟨.get, "/pki/cert/:serial/raw".toList, [lit "cert", hole ":serial", lit "raw"], []⟩
  | certificatePem =>
    ⟨.get, "/pki/cert/:serial/raw/pem".toList,
      [lit "cert", hole ":serial", lit "raw", lit "pem"], []⟩
  | issuerDer =>
    ⟨.get, "/pki/issuer/:issuer_ref/der".toList, [lit "issuer", hole ":issuer_ref", lit "der"], []⟩
  | issuerPem =>
    ⟨.get, "/pki/issuer/:issuer_ref/pem".toList, [lit "issuer", hole ":issuer_ref", lit "pem"], []⟩
  | issuerJson =>
    ⟨.get, "/pki/issuer/:issuer_ref/json".toList,
      [lit "issuer", hole ":issuer_ref", lit "json"], []⟩
  | issuerCrl =>
    ⟨.get, "/pki/issuer/:issuer_ref/crl".toList, [lit "issuer", hole ":issuer_ref", lit "crl"], []⟩
  | issuerCrlDer =>
    ⟨.get, "/pki/issuer/:issuer_ref/crl/der".toList,
      [lit "issuer", hole ":issuer_ref", lit "crl", lit "der"], []⟩
  | issuerCrlPem =>
    ⟨.get, "/pki/issuer/:issuer_ref/crl/pem".toList,
      [lit "issuer", hole ":issuer_ref", lit "crl", lit "pem"], []⟩
  | issuerDeltaCrl =>
    ⟨.get, "/pki/issuer/:issuer_ref/crl/delta".toList,
      [lit "issuer", hole ":issuer_ref", lit "crl", lit "delta"], []⟩
  | issuerDeltaCrlDer =>
    ⟨.get, "/pki/issuer/:issuer_ref/crl/delta/der".toList,
      [lit "issuer", hole ":issuer_ref", lit "crl", lit "delta", lit "der"], []⟩
  | issuerDeltaCrlPem =>
    ⟨.get, "/pki/issuer/:issuer_ref/crl/delta/pem".toList,
      [lit "issuer", hole ":issuer_ref", lit "crl", lit "delta", lit "pem"], []⟩
  | ocspGetEncoded =>
    ⟨.get, "/pki/ocsp/<base 64+URL encoded ocsp DER request>".toList,
      [lit "ocsp", hole "<base 64+URL encoded ocsp DER request>"], []⟩

/-- The documented route of a method, and what fills its placeholders. -/
def PkiCall.documented : PkiCall → PkiRoute × List Argument
  | generateRoot generationType => (.generateRoot, [generationType.argument])
  | generateRootKms => (.generateRoot, [PkiAuthorityKeySource.kms.argument])
  | generateRootWithSignatureOptions source => (.generateRoot, [source.argument])
  | generateIssuerRoot generationType => (.generateIssuerRoot, [generationType.argument])
  | generateIssuerRootKms => (.generateIssuerRoot, [PkiAuthorityKeySource.kms.argument])
  | generateIssuerRootWithSignatureOptions source => (.generateIssuerRoot, [source.argument])
  | rotateRoot generationType => (.rotateRoot, [generationType.argument])
  | rotateRootKms => (.rotateRoot, [PkiAuthorityKeySource.kms.argument])
  | rotateRootWithSignatureOptions source => (.rotateRoot, [source.argument])
  | generateKey generationType => (.generateKey, [generationType.argument])
  | generateKeyKms => (.generateKey, [PkiAuthorityKeySource.kms.argument])
  | generateIntermediate generationType => (.generateIntermediate, [generationType.argument])
  | generateIntermediateKms => (.generateIntermediate, [PkiAuthorityKeySource.kms.argument])
  | generateIntermediateWithSignatureOptions source => (.generateIntermediate, [source.argument])
  | generateIssuerIntermediate generationType =>
    (.generateIssuerIntermediate, [generationType.argument])
  | generateIssuerIntermediateKms =>
    (.generateIssuerIntermediate, [PkiAuthorityKeySource.kms.argument])
  | generateIssuerIntermediateWithSignatureOptions source =>
    (.generateIssuerIntermediate, [source.argument])
  | signIntermediateWithIssuer issuerRef | signIntermediateWithIssuerAndSignatureOptions issuerRef =>
    (.signIntermediateWithIssuer, [.text issuerRef])
  | signSelfIssuedWithIssuer issuerRef => (.signSelfIssuedWithIssuer, [.text issuerRef])
  | writeRole name | writeRoleWithIdentityTemplateGlobs name | writeRoleWithSigningOptions name =>
    (.writeRole, [.text name])
  | patchRole name | patchRoleWithIdentityTemplateGlobs name | patchRoleWithSigningOptions name =>
    (.patchRole, [.text name])
  | readRole name | readRoleDetails name | readRoleSigningDetails name =>
    (.readRole, [.text name])
  | deleteRole name => (.deleteRole, [.text name])
  | issue role | issueWithKey role => (.issue, [.text role])
  | issueWithIssuer issuerRef role | issueWithIssuerAndKey issuerRef role =>
    (.issueWithIssuer, [.text issuerRef, .text role])
  | sign role => (.sign, [.text role])
  | signWithIssuer issuerRef role => (.signWithIssuer, [.text issuerRef, .text role])
  | signVerbatim => (.signVerbatim, [])
  | signVerbatimAtRole role => (.signVerbatimAtRole, [.text role])
  | signVerbatimWithIssuer issuerRef => (.signVerbatimWithIssuer, [.text issuerRef])
  | signVerbatimWithIssuerAtRole issuerRef role =>
    (.signVerbatimWithIssuerAtRole, [.text issuerRef, .text role])
  | readCertificate serial => (.readCertificate, [.text serial])
  | resignCrls issuerRef => (.resignCrls, [.text issuerRef])
  | signRevocationList issuerRef => (.signRevocationList, [.text issuerRef])
  | readIssuer issuerRef => (.readIssuer, [.text issuerRef])
  | deleteIssuer issuerRef => (.deleteIssuer, [.text issuerRef])
  | patchIssuer issuerRef => (.patchIssuer, [.text issuerRef])
  | revokeIssuer issuerRef => (.revokeIssuer, [.text issuerRef])
  | readKey keyRef => (.readKey, [.text keyRef])
  | deleteKey keyRef => (.deleteKey, [.text keyRef])
  | renameKey keyRef => (.renameKey, [.text keyRef])
  | generateIssuerAcmeEab issuerRef => (.generateIssuerAcmeEab, [.text issuerRef])
  | generateRoleAcmeEab role => (.generateRoleAcmeEab, [.text role])
  | generateIssuerRoleAcmeEab issuerRef role =>
    (.generateIssuerRoleAcmeEab, [.text issuerRef, .text role])
  | deleteAcmeEabToken keyId => (.deleteAcmeEabToken, [.text keyId])
  | writeCelRole name => (.writeCelRole, [.text name])
  | patchCelRole name => (.patchCelRole, [.text name])
  | readCelRole name => (.readCelRole, [.text name])
  | deleteCelRole name => (.deleteCelRole, [.text name])
  | celIssue role | celIssueWithOptions role => (.celIssue, [.text role])
  | celSign role | celSignWithSignatureOptions role => (.celSign, [.text role])
  | certificateDer serial => (.certificateDer, [.text serial])
  | certificatePem serial => (.certificatePem, [.text serial])
  | issuerCertificate issuerRef .der => (.issuerDer, [.text issuerRef])
  | issuerCertificate issuerRef .pem => (.issuerPem, [.text issuerRef])
  | issuerCertificate issuerRef .json => (.issuerJson, [.text issuerRef])
  | issuerCrl issuerRef false .json => (.issuerCrl, [.text issuerRef])
  | issuerCrl issuerRef false .der => (.issuerCrlDer, [.text issuerRef])
  | issuerCrl issuerRef false .pem => (.issuerCrlPem, [.text issuerRef])
  | issuerCrl issuerRef true .json => (.issuerDeltaCrl, [.text issuerRef])
  | issuerCrl issuerRef true .der => (.issuerDeltaCrlDer, [.text issuerRef])
  | issuerCrl issuerRef true .pem => (.issuerDeltaCrlPem, [.text issuerRef])
  | ocspGetEncoded encodedRequest => (.ocspGetEncoded, [.text encodedRequest])

def pki : SecretEngine where
  Call := PkiCall
  Route := PkiRoute
  scopePrefix := "/pki/".toList
  documentedMount := "pki".toList
  httpMethod := PkiCall.httpMethod
  path := PkiCall.path
  registry := pkiRegistry
  routes := PkiRoute.routes
  documentation := PkiRoute.documentation
  documented := PkiCall.documented

theorem PkiRoute.mem_routes (r : PkiRoute) : r ∈ PkiRoute.routes := by
  cases r <;> decide

theorem pki_documents : pki.Documents where
  mount := by decide +kernel
  complete := PkiRoute.mem_routes
  checked := by
    simp only [pki, PkiRoute.routes, List.map_cons, List.map_nil, PkiRoute.documentation,
      pkiRegistry, lit, hole]
    simp (disch := exact rfl) only [toList_eq_of]
    decide +kernel

/-! ### The calls against their documentation -/

theorem pki_sends (c : PkiCall) :
    reqwestMethod (pki.route c).method = .ok c.httpMethod := by
  change reqwestMethod c.documented.1.documentation.method = _
  unfold PkiCall.documented
  split <;> rfl

theorem pki_arity (c : PkiCall) :
    (pki.arguments c).length = RouteForms.arity (pki.route c).form := by
  change c.documented.2.length = RouteForms.arity c.documented.1.documentation.form
  unfold PkiCall.documented
  split <;> rfl

theorem pki_forms_disjoint :
    (PkiRoute.routes.all fun r => PkiRoute.routes.all fun r' =>
      r == r' || r.documentation.method != r'.documentation.method ||
        !overlap r.documentation.form r'.documentation.form) = true := by
  decide +kernel

variable {mount : List Str} {p : Str}

theorem pki_builds (c : PkiCall) (hmount : PathSegments mount)
    (hargs : pki.OneSegmentArguments c) (hpath : c.path mount = .ok p) :
    p = join '/' (mount ++ pki.filled c) ∧ PathSegments (mount ++ pki.filled c) := by
  have hbuilt := fun h => pki_documents.filled_of_enginePath (c := c) (p := p) hmount hargs h
  cases c with
  | ocspGetEncoded encodedRequest =>
    obtain ⟨_, -, hpath⟩ := bind_eq_ok_iff.mp hpath
    exact hbuilt hpath
  | issuerCertificate issuerRef format => cases format <;> exact hbuilt hpath
  | issuerCrl issuerRef delta format => cases delta <;> cases format <;> exact hbuilt hpath
  | _ => exact hbuilt hpath

theorem pki_distinct (c c' : PkiCall) (hmethod : (pki.route c).method = (pki.route c').method)
    (hfilled : pki.filled c = pki.filled c') : c.documented.1 = c'.documented.1 := by
  have hsame := pki_documents.check_of_filled_eq pki_forms_disjoint (pki_arity c) (pki_arity c')
    hmethod hfilled
  exact beq_iff_eq.mp hsame

theorem pki_sound : pki.Sound where
  toDocuments := pki_documents
  sends := pki_sends
  arity := pki_arity
  builds c _ _ hmount hargs hpath := pki_builds c hmount hargs hpath
  distinct := pki_distinct

end OpenBao.PkiRoutes
