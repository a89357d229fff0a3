import Mathlib.Data.List.AList
import OpenBao.Utf8Text

/-!
# Requests and readbacks of the bootstrap steps

The records that a bootstrap plan carries and those that the server is read as. Field
defaults are those of the derived `Default`. A `BTreeMap` with text keys is an
association list without repeated keys.
-/

namespace OpenBao.BootstrapRecords
open Utf8Text

abbrev TextMap (V : Type) := AList fun _ : Str => V

/-! ## Mounts, auth methods and keys -/

structure MountInfo where
  backendType : Str
  description : Option Str := none
  options : Option (TextMap Str) := none

structure MountEnableRequest where
  backendType : Str
  description : Option Str := none
  options : TextMap Str := ∅

namespace MountEnableRequest

def new (backendType : Str) : MountEnableRequest := { backendType }

def kv2 : MountEnableRequest :=
  { backendType := "kv".toList, options := AList.singleton "version".toList "2".toList }

def withOptionalDescription (request : MountEnableRequest) (description : Option Str) :
    MountEnableRequest := { request with description }

end MountEnableRequest

structure AuthEnableRequest where
  backendType : Str
  description : Option Str := none

namespace AuthEnableRequest

def new (backendType : Str) : AuthEnableRequest := { backendType }

def withOptionalDescription (request : AuthEnableRequest) (description : Option Str) :
    AuthEnableRequest := { request with description }

end AuthEnableRequest

inductive TransitKeyType where
  | aes128Gcm96 | aes256Gcm96 | chaCha20Poly1305 | xChaCha20Poly1305 | ed25519
  | ecdsaP256 | ecdsaP384 | ecdsaP521 | rsa2048 | rsa3072 | rsa4096 | hmac
  deriving DecidableEq, Repr

structure TransitCreateKeyRequest where
  keyType : Option TransitKeyType := none
  convergentEncryption : Option Bool := none
  derived : Option Bool := none
  exportable : Option Bool := none
  allowPlaintextBackup : Option Bool := none
  autoRotatePeriod : Option Str := none

structure TransitKeyInfo where
  name : Option Str := none
  keyType : Str

/-! ## ACL policies -/

structure PolicyInfo where
  name : Str := []
  rules : Str
  expiration : Option Str := none
  modified : Option Str := none
  version : Option ℕ := none
  casRequired : Bool := false

structure PolicyInfoDetails where
  policy : PolicyInfo
  allowSlashesInIdentityTemplates : Bool := false
  allowWildcardsInIdentityTemplates : Bool := false

/-! ## KV v2 secrets -/

/-- A secret read as a service configuration, with its version. -/
structure Kv2Secret where
  data : TextMap Str
  version : ℕ

structure Kv2WriteOptions where
  cas : Option ℕ

structure Kv2WriteResponse where
  version : ℕ

/-! ## Roles -/

structure PkiRole where
  issuerRef : Option Str := none
  allowedDomains : List Str := []
  allowedDomainsTemplate : Option Bool := none
  allowBareDomains : Option Bool := none
  allowSubdomains : Option Bool := none
  allowGlobDomains : Option Bool := none
  allowAnyName : Option Bool := none
  enforceHostnames : Option Bool := none
  allowIpSans : Option Bool := none
  allowedIpSansCidr : List Str := []
  allowedUriSans : List Str := []
  allowedUriSansTemplate : Option Bool := none
  allowedOtherSans : List Str := []
  allowedSerialNumbers : List Str := []
  allowLocalhost : Option Bool := none
  allowWildcardCertificates : Option Bool := none
  keyUsage : List Str := []
  extKeyUsage : List Str := []
  extKeyUsageOids : List Str := []
  serverFlag : Option Bool := none
  clientFlag : Option Bool := none
  codeSigningFlag : Option Bool := none
  emailProtectionFlag : Option Bool := none
  keyType : Option Str := none
  keyBits : Option ℕ := none
  ttl : Option Str := none
  maxTtl : Option Str := none
  notBeforeDuration : Option Str := none
  notBeforeBound : Option Str := none
  notBefore : Option Str := none
  notAfterBound : Option Str := none
  notAfter : Option Str := none
  keyUsageCritical : Option Bool := none
  basicConstraintsValidForNonCa : Option Bool := none
  noStore : Option Bool := none
  generateLease : Option Bool := none
  requireCn : Option Bool := none
  policyIdentifiers : List Str := []
  cnValidations : List Str := []
  allowedUserIds : List Str := []
  ou : List Str := []
  organization : List Str := []
  country : List Str := []
  locality : List Str := []
  province : List Str := []
  streetAddress : List Str := []
  postalCode : List Str := []
  useCsrCommonName : Option Bool := none
  useCsrSans : Option Bool := none

structure PkiRoleDetails where
  role : PkiRole
  allowGlobsInIdentityTemplates : Bool := false

structure DatabaseRole where
  dbName : Str := []
  creationStatements : List Str := []
  defaultTtl : Option Str := none
  maxTtl : Option Str := none
  revocationStatements : List Str := []
  rollbackStatements : List Str := []
  renewStatements : List Str := []
  credentialType : Option Str := none
  credentialConfig : TextMap Str := ∅

structure DatabaseStaticRole where
  dbName : Str := []
  username : Str := []
  rotationPeriod : Option Str := none
  rotationStatements : List Str := []
  credentialType : Option Str := none
  credentialConfig : TextMap Str := ∅

inductive SshRoleKeyType where
  | otp | ca
  deriving DecidableEq, Repr

structure SshRoleRequest where
  algorithmSigner : Option Str := none
  defaultUser : Option Str := none
  defaultUserTemplate : Option Bool := none
  cidrList : Option Str := none
  port : Option ℕ := none
  keyType : Option SshRoleKeyType := none
  allowedUsers : Option Str := none
  allowedUsersTemplate : Option Bool := none
  allowUserCertificates : Option Bool := none
  allowHostCertificates : Option Bool := none
  allowBareDomains : Option Bool := none
  allowSubdomains : Option Bool := none
  allowEmptyPrincipals : Option Bool := none
  allowUserKeyIds : Option Bool := none
  allowedDomains : Option Str := none
  allowedDomainsTemplate : Option Bool := none
  allowedUserKeyLengths : TextMap (List ℕ) := ∅
  defaultExtensions : TextMap Str := ∅
  defaultExtensionsTemplate : Option Bool := none
  allowedExtensions : Option Str := none
  defaultCriticalOptions : TextMap Str := ∅
  allowedCriticalOptions : Option Str := none
  ttl : Option Str := none
  maxTtl : Option Str := none
  excludeCidrList : Option Str := none
  keyIdFormat : Option Str := none
  notBeforeDuration : Option Str := none
  issuerRef : Option Str := none

structure SshRoleInfo where
  algorithmSigner : Option Str := none
  defaultUser : Option Str := none
  defaultUserTemplate : Option Bool := none
  cidrList : Option Str := none
  port : Option ℕ := none
  keyType : Option SshRoleKeyType := none
  allowedUsers : Option Str := none
  allowedUsersTemplate : Option Bool := none
  allowUserCertificates : Option Bool := none
  allowHostCertificates : Option Bool := none
  allowBareDomains : Option Bool := none
  allowSubdomains : Option Bool := none
  allowEmptyPrincipals : Option Bool := none
  allowUserKeyIds : Option Bool := none
  allowedDomains : Option Str := none
  allowedDomainsTemplate : Option Bool := none
  allowedUserKeyLengths : TextMap (List ℕ) := ∅
  defaultExtensions : TextMap Str := ∅
  defaultExtensionsTemplate : Option Bool := none
  allowedExtensions : Option Str := none
  defaultCriticalOptions : TextMap Str := ∅
  allowedCriticalOptions : Option Str := none
  ttl : Option Str := none
  maxTtl : Option Str := none
  excludeCidrList : Option Str := none
  keyIdFormat : Option Str := none
  notBeforeDuration : Option Str := none
  issuerRef : Option Str := none

structure SshRoleTemplateDetails where
  role : SshRoleInfo
  allowCommasInIdentityTemplates : Bool := false
  allowWildcardsInIdentityTemplates : Bool := false

structure AppRoleRoleRequest where
  bindSecretId : Option Bool := none
  secretIdBoundCidrs : List Str := []
  secretIdNumUses : Option ℕ := none
  secretIdTtl : Option Str := none
  localSecretIds : Option Bool := none
  tokenTtl : Option Str := none
  tokenMaxTtl : Option Str := none
  tokenPolicies : List Str := []
  policies : List Str := []
  tokenBoundCidrs : List Str := []
  tokenStrictlyBindIp : Option Bool := none
  tokenExplicitMaxTtl : Option Str := none
  tokenNoDefaultPolicy : Option Bool := none
  tokenNumUses : Option ℕ := none
  tokenPeriod : Option Str := none
  tokenType : Option Str := none

/-! ## Identities -/

structure IdentityEntityRequest where
  name : Option Str := none
  metadata : TextMap Str := ∅
  policies : List Str := []
  disabled : Option Bool := none

structure IdentityEntityInfo where
  id : Str := []
  name : Option Str := none
  metadata : TextMap Str := ∅
  policies : List Str := []
  directGroupIds : List Str := []
  inheritedGroupIds : List Str := []
  disabled : Bool := false

inductive IdentityGroupType where
  | internal | external
  deriving DecidableEq, Repr

structure IdentityGroupRequest where
  name : Option Str := none
  groupType : Option IdentityGroupType := none
  policies : List Str := []
  memberEntityIds : List Str := []
  memberGroupIds : List Str := []
  metadata : TextMap Str := ∅

structure IdentityGroupInfo where
  id : Str := []
  name : Option Str := none
  groupType : Option IdentityGroupType := none
  policies : List Str := []
  memberEntityIds : List Str := []
  memberGroupIds : List Str := []
  parentGroupIds : List Str := []
  metadata : TextMap Str := ∅

/-! ## Issued credentials -/

structure TokenCreateRequest where
  id : Option Str := none
  entityAlias : Option Str := none
  roleName : Option Str := none
  policies : List Str := []
  tokenMeta : TextMap Str := ∅
  displayName : Option Str := none
  ttl : Option Str := none
  lease : Option Str := none
  explicitMaxTtl : Option Str := none
  period : Option Str := none
  numUses : Option ℕ := none
  renewable : Option Bool := none
  noParent : Option Bool := none
  noDefaultPolicy : Option Bool := none
  tokenType : Option Str := none

structure TokenAuth where
  clientToken : Str
  accessor : Str
  policies : List Str := []
  tokenPolicies : List Str := []
  metadata : TextMap Str := ∅
  leaseDuration : ℕ := 0
  renewable : Bool := false
  entityId : Option Str := none
  tokenType : Option Str := none
  orphan : Bool := false

structure AppRoleSecretIdRequest where
  metadata : Option Str := none
  cidrList : List Str := []
  tokenBoundCidrs : List Str := []
  numUses : Option ℕ := none
  ttl : Option Str := none

structure AppRoleSecretId where
  secretId : Str
  secretIdAccessor : Str
  secretIdTtl : ℕ := 0
  secretIdNumUses : ℕ := 0

end OpenBao.BootstrapRecords
