import OpenBao.BootstrapComparisons

/-!
# Supplied fields

A request supplies a field that it would serialise: an option with a value, a list or
map that is not empty. A readback holds a supplied field when its value is the
request's; of a map, when it contains the request's entries.
-/

namespace OpenBao.BootstrapFields
open AclPolicy BootstrapComparisons BootstrapRecords Utf8Text

section Fields

variable {α : Type}

def OptionHeld (existing desired : Option α) : Prop := ∀ value ∈ desired, existing = some value

def ListHeld (existing desired : List α) : Prop := desired ≠ [] → existing = desired

def MapHeld (existing desired : TextMap α) : Prop :=
  ∀ entry ∈ desired.entries, existing.lookup entry.1 = some entry.2

@[simp] theorem optionHeld_none (existing : Option α) : OptionHeld existing none := by
  simp [OptionHeld]

@[simp] theorem none_optionHeld_iff {desired : Option α} :
    OptionHeld none desired ↔ desired = none := by
  cases desired <;> simp [OptionHeld]

@[simp] theorem optionHeld_self (desired : Option α) : OptionHeld desired desired :=
  fun _ h => h

@[simp] theorem listHeld_self (desired : List α) : ListHeld desired desired := fun _ => rfl

@[simp] theorem mapHeld_self (desired : TextMap α) : MapHeld desired desired :=
  fun _ h => AList.mem_lookup_iff.mpr h

@[simp] theorem listHeld_nil (existing : List α) : ListHeld existing [] := by simp [ListHeld]

@[simp] theorem nil_listHeld_iff {desired : List α} : ListHeld [] desired ↔ desired = [] := by
  cases desired <;> simp [ListHeld]

@[simp] theorem mapHeld_empty (existing : TextMap α) : MapHeld existing ∅ := by simp [MapHeld]

@[simp] theorem empty_mapHeld_iff {desired : TextMap α} : MapHeld ∅ desired ↔ desired = ∅ := by
  constructor
  · intro h
    apply AList.ext
    apply List.eq_nil_iff_forall_not_mem.mpr
    intro entry hentry
    simpa using h entry hentry
  · rintro rfl
    simp

@[simp] theorem noneOrEqual_iff [DecidableEq α] {existing desired : Option α} :
    noneOrEqual existing desired = true ↔ OptionHeld existing desired := by
  cases desired <;> simp [noneOrEqual, OptionHeld]

@[simp] theorem vecEmptyOrEqual_iff {existing desired : List Str} :
    vecEmptyOrEqual existing desired = true ↔ ListHeld existing desired := by
  simp [vecEmptyOrEqual, ListHeld, or_iff_not_imp_left]

@[simp] theorem noneOrEqual_some_iff [DecidableEq α] {existing : α} {desired : Option α} :
    (desired.all fun value => existing = value) = true ↔ OptionHeld (some existing) desired := by
  cases desired <;> simp [OptionHeld]

@[simp] theorem textEmptyOrEqual_iff {existing desired : Str} :
    (decide (desired = []) || decide (existing = desired)) = true ↔ ListHeld existing desired := by
  simp [ListHeld, or_iff_not_imp_left]

@[simp] theorem mapEmptyOrContains_iff {existing desired : TextMap Str} :
    mapEmptyOrContains existing desired = true ↔ MapHeld existing desired := by
  simp [mapEmptyOrContains, MapHeld]

theorem databaseSecretValuesEqual_iff {current desired : Str} :
    databaseSecretValuesEqual current desired = true ↔ current = desired := by
  simp only [databaseSecretValuesEqual, Bool.and_eq_true, decide_eq_true_eq, asBytes_inj]
  constructor
  · exact And.right
  · rintro rfl
    exact ⟨rfl, rfl⟩

@[simp] theorem secretMapEmptyOrContains_iff {existing desired : TextMap Str} :
    secretMapEmptyOrContains existing desired = true ↔ MapHeld existing desired := by
  simp only [secretMapEmptyOrContains, MapHeld, List.all_eq_true]
  refine forall₂_congr fun entry _ => ?_
  cases existing.lookup entry.1 <;> simp [databaseSecretValuesEqual_iff]

end Fields

/-! ## The fields of the roles -/

@[mk_iff] structure PkiRoleHeld (existing : PkiRole) (desired : PkiRole) : Prop where
  issuerRef : OptionHeld existing.issuerRef desired.issuerRef
  allowedDomains : ListHeld existing.allowedDomains desired.allowedDomains
  allowedDomainsTemplate : OptionHeld existing.allowedDomainsTemplate desired.allowedDomainsTemplate
  allowBareDomains : OptionHeld existing.allowBareDomains desired.allowBareDomains
  allowSubdomains : OptionHeld existing.allowSubdomains desired.allowSubdomains
  allowGlobDomains : OptionHeld existing.allowGlobDomains desired.allowGlobDomains
  allowAnyName : OptionHeld existing.allowAnyName desired.allowAnyName
  enforceHostnames : OptionHeld existing.enforceHostnames desired.enforceHostnames
  allowIpSans : OptionHeld existing.allowIpSans desired.allowIpSans
  allowedIpSansCidr : ListHeld existing.allowedIpSansCidr desired.allowedIpSansCidr
  allowedUriSans : ListHeld existing.allowedUriSans desired.allowedUriSans
  allowedUriSansTemplate : OptionHeld existing.allowedUriSansTemplate desired.allowedUriSansTemplate
  allowedOtherSans : ListHeld existing.allowedOtherSans desired.allowedOtherSans
  allowedSerialNumbers : ListHeld existing.allowedSerialNumbers desired.allowedSerialNumbers
  allowLocalhost : OptionHeld existing.allowLocalhost desired.allowLocalhost
  allowWildcardCertificates : OptionHeld existing.allowWildcardCertificates desired.allowWildcardCertificates
  keyUsage : ListHeld existing.keyUsage desired.keyUsage
  extKeyUsage : ListHeld existing.extKeyUsage desired.extKeyUsage
  extKeyUsageOids : ListHeld existing.extKeyUsageOids desired.extKeyUsageOids
  serverFlag : OptionHeld existing.serverFlag desired.serverFlag
  clientFlag : OptionHeld existing.clientFlag desired.clientFlag
  codeSigningFlag : OptionHeld existing.codeSigningFlag desired.codeSigningFlag
  emailProtectionFlag : OptionHeld existing.emailProtectionFlag desired.emailProtectionFlag
  keyType : OptionHeld existing.keyType desired.keyType
  keyBits : OptionHeld existing.keyBits desired.keyBits
  ttl : OptionHeld existing.ttl desired.ttl
  maxTtl : OptionHeld existing.maxTtl desired.maxTtl
  notBeforeDuration : OptionHeld existing.notBeforeDuration desired.notBeforeDuration
  notBeforeBound : OptionHeld existing.notBeforeBound desired.notBeforeBound
  notBefore : OptionHeld existing.notBefore desired.notBefore
  notAfterBound : OptionHeld existing.notAfterBound desired.notAfterBound
  notAfter : OptionHeld existing.notAfter desired.notAfter
  keyUsageCritical : OptionHeld existing.keyUsageCritical desired.keyUsageCritical
  basicConstraintsValidForNonCa : OptionHeld existing.basicConstraintsValidForNonCa desired.basicConstraintsValidForNonCa
  noStore : OptionHeld existing.noStore desired.noStore
  generateLease : OptionHeld existing.generateLease desired.generateLease
  requireCn : OptionHeld existing.requireCn desired.requireCn
  policyIdentifiers : ListHeld existing.policyIdentifiers desired.policyIdentifiers
  cnValidations : ListHeld existing.cnValidations desired.cnValidations
  allowedUserIds : ListHeld existing.allowedUserIds desired.allowedUserIds
  ou : ListHeld existing.ou desired.ou
  organization : ListHeld existing.organization desired.organization
  country : ListHeld existing.country desired.country
  locality : ListHeld existing.locality desired.locality
  province : ListHeld existing.province desired.province
  streetAddress : ListHeld existing.streetAddress desired.streetAddress
  postalCode : ListHeld existing.postalCode desired.postalCode
  useCsrCommonName : OptionHeld existing.useCsrCommonName desired.useCsrCommonName
  useCsrSans : OptionHeld existing.useCsrSans desired.useCsrSans

@[mk_iff] structure DatabaseRoleHeld (existing : DatabaseRole) (desired : DatabaseRole) : Prop where
  dbName : ListHeld existing.dbName desired.dbName
  creationStatements : ListHeld existing.creationStatements desired.creationStatements
  defaultTtl : OptionHeld existing.defaultTtl desired.defaultTtl
  maxTtl : OptionHeld existing.maxTtl desired.maxTtl
  revocationStatements : ListHeld existing.revocationStatements desired.revocationStatements
  rollbackStatements : ListHeld existing.rollbackStatements desired.rollbackStatements
  renewStatements : ListHeld existing.renewStatements desired.renewStatements
  credentialType : OptionHeld existing.credentialType desired.credentialType
  credentialConfig : MapHeld existing.credentialConfig desired.credentialConfig

@[mk_iff] structure DatabaseStaticRoleHeld (existing : DatabaseStaticRole) (desired : DatabaseStaticRole) : Prop where
  dbName : ListHeld existing.dbName desired.dbName
  username : ListHeld existing.username desired.username
  rotationPeriod : OptionHeld existing.rotationPeriod desired.rotationPeriod
  rotationStatements : ListHeld existing.rotationStatements desired.rotationStatements
  credentialType : OptionHeld existing.credentialType desired.credentialType
  credentialConfig : MapHeld existing.credentialConfig desired.credentialConfig

@[mk_iff] structure SshRoleHeld (existing : SshRoleInfo) (desired : SshRoleRequest) : Prop where
  algorithmSigner : OptionHeld existing.algorithmSigner desired.algorithmSigner
  defaultUser : OptionHeld existing.defaultUser desired.defaultUser
  defaultUserTemplate : OptionHeld existing.defaultUserTemplate desired.defaultUserTemplate
  cidrList : OptionHeld existing.cidrList desired.cidrList
  port : OptionHeld existing.port desired.port
  keyType : OptionHeld existing.keyType desired.keyType
  allowedUsers : OptionHeld existing.allowedUsers desired.allowedUsers
  allowedUsersTemplate : OptionHeld existing.allowedUsersTemplate desired.allowedUsersTemplate
  allowUserCertificates : OptionHeld existing.allowUserCertificates desired.allowUserCertificates
  allowHostCertificates : OptionHeld existing.allowHostCertificates desired.allowHostCertificates
  allowBareDomains : OptionHeld existing.allowBareDomains desired.allowBareDomains
  allowSubdomains : OptionHeld existing.allowSubdomains desired.allowSubdomains
  allowEmptyPrincipals : OptionHeld existing.allowEmptyPrincipals desired.allowEmptyPrincipals
  allowUserKeyIds : OptionHeld existing.allowUserKeyIds desired.allowUserKeyIds
  allowedDomains : OptionHeld existing.allowedDomains desired.allowedDomains
  allowedDomainsTemplate : OptionHeld existing.allowedDomainsTemplate desired.allowedDomainsTemplate
  allowedUserKeyLengths : MapHeld existing.allowedUserKeyLengths desired.allowedUserKeyLengths
  defaultExtensions : MapHeld existing.defaultExtensions desired.defaultExtensions
  defaultExtensionsTemplate : OptionHeld existing.defaultExtensionsTemplate desired.defaultExtensionsTemplate
  allowedExtensions : OptionHeld existing.allowedExtensions desired.allowedExtensions
  defaultCriticalOptions : MapHeld existing.defaultCriticalOptions desired.defaultCriticalOptions
  allowedCriticalOptions : OptionHeld existing.allowedCriticalOptions desired.allowedCriticalOptions
  ttl : OptionHeld existing.ttl desired.ttl
  maxTtl : OptionHeld existing.maxTtl desired.maxTtl
  excludeCidrList : OptionHeld existing.excludeCidrList desired.excludeCidrList
  keyIdFormat : OptionHeld existing.keyIdFormat desired.keyIdFormat
  notBeforeDuration : OptionHeld existing.notBeforeDuration desired.notBeforeDuration
  issuerRef : OptionHeld existing.issuerRef desired.issuerRef

@[mk_iff] structure AppRoleRoleHeld (existing : AppRoleRoleRequest) (desired : AppRoleRoleRequest) : Prop where
  bindSecretId : OptionHeld existing.bindSecretId desired.bindSecretId
  secretIdBoundCidrs : ListHeld existing.secretIdBoundCidrs desired.secretIdBoundCidrs
  secretIdNumUses : OptionHeld existing.secretIdNumUses desired.secretIdNumUses
  secretIdTtl : OptionHeld existing.secretIdTtl desired.secretIdTtl
  localSecretIds : OptionHeld existing.localSecretIds desired.localSecretIds
  tokenTtl : OptionHeld existing.tokenTtl desired.tokenTtl
  tokenMaxTtl : OptionHeld existing.tokenMaxTtl desired.tokenMaxTtl
  tokenPolicies : ListHeld existing.tokenPolicies desired.tokenPolicies
  policies : ListHeld existing.policies desired.policies
  tokenBoundCidrs : ListHeld existing.tokenBoundCidrs desired.tokenBoundCidrs
  tokenStrictlyBindIp : OptionHeld existing.tokenStrictlyBindIp desired.tokenStrictlyBindIp
  tokenExplicitMaxTtl : OptionHeld existing.tokenExplicitMaxTtl desired.tokenExplicitMaxTtl
  tokenNoDefaultPolicy : OptionHeld existing.tokenNoDefaultPolicy desired.tokenNoDefaultPolicy
  tokenNumUses : OptionHeld existing.tokenNumUses desired.tokenNumUses
  tokenPeriod : OptionHeld existing.tokenPeriod desired.tokenPeriod
  tokenType : OptionHeld existing.tokenType desired.tokenType

@[mk_iff] structure IdentityEntityHeld (existing : IdentityEntityInfo) (desired : IdentityEntityRequest) : Prop where
  name : OptionHeld existing.name desired.name
  metadata : MapHeld existing.metadata desired.metadata
  policies : ListHeld existing.policies desired.policies
  disabled : OptionHeld (some existing.disabled) desired.disabled

@[mk_iff] structure IdentityGroupHeld (existing : IdentityGroupInfo) (desired : IdentityGroupRequest) : Prop where
  name : OptionHeld existing.name desired.name
  groupType : OptionHeld existing.groupType desired.groupType
  policies : ListHeld existing.policies desired.policies
  memberEntityIds : ListHeld existing.memberEntityIds desired.memberEntityIds
  memberGroupIds : ListHeld existing.memberGroupIds desired.memberGroupIds
  metadata : MapHeld existing.metadata desired.metadata

/-! ## The compared fields -/

/-- The fields of a PKI role that the comparison looks at. -/
def comparedPkiRole (role : PkiRole) : PkiRole where
  issuerRef := role.issuerRef
  allowedDomains := role.allowedDomains
  allowSubdomains := role.allowSubdomains
  keyType := role.keyType
  keyBits := role.keyBits
  ttl := role.ttl
  maxTtl := role.maxTtl

def comparedSshRole (request : SshRoleRequest) : SshRoleRequest where
  defaultUser := request.defaultUser
  cidrList := request.cidrList
  port := request.port
  keyType := request.keyType
  allowedUsers := request.allowedUsers
  ttl := request.ttl
  maxTtl := request.maxTtl
  issuerRef := request.issuerRef

def comparedAppRoleRole (request : AppRoleRoleRequest) : AppRoleRoleRequest :=
  { request with policies := [] }

theorem pkiRoleMatchesDesired_iff {existing : PkiRoleDetails} {desired : PkiRole} :
    pkiRoleMatchesDesired existing desired = true ↔
      pkiRoleHasUnsafeTemplateOverride existing = false ∧
        PkiRoleHeld existing.role (comparedPkiRole desired) := by
  simp only [pkiRoleMatchesDesired, Bool.and_eq_true, Bool.not_eq_true', noneOrEqual_iff,
    vecEmptyOrEqual_iff, pkiRoleHeld_iff, comparedPkiRole, optionHeld_none, listHeld_nil]
  tauto

theorem sshRoleMatchesDesired_iff {existing : SshRoleTemplateDetails} {desired : SshRoleRequest} :
    sshRoleMatchesDesired existing desired = true ↔
      sshRoleHasUnsafeTemplateOverride existing = false ∧
        SshRoleHeld existing.role (comparedSshRole desired) := by
  simp only [sshRoleMatchesDesired, Bool.and_eq_true, Bool.not_eq_true', noneOrEqual_iff,
    sshRoleHeld_iff, comparedSshRole, optionHeld_none, mapHeld_empty]
  tauto

theorem approleRoleMatchesDesired_iff {existing desired : AppRoleRoleRequest} :
    approleRoleMatchesDesired existing desired = true ↔
      AppRoleRoleHeld existing (comparedAppRoleRole desired) := by
  simp only [approleRoleMatchesDesired, Bool.and_eq_true, noneOrEqual_iff, vecEmptyOrEqual_iff,
    appRoleRoleHeld_iff, comparedAppRoleRole, listHeld_nil]
  tauto

theorem databaseRoleMatchesDesired_iff {existing desired : DatabaseRole} :
    databaseRoleMatchesDesired existing desired = true ↔ DatabaseRoleHeld existing desired := by
  simp only [databaseRoleMatchesDesired, Bool.and_eq_true, textEmptyOrEqual_iff, noneOrEqual_iff,
    vecEmptyOrEqual_iff, secretMapEmptyOrContains_iff, databaseRoleHeld_iff]
  tauto

theorem databaseStaticRoleMatchesDesired_iff {existing desired : DatabaseStaticRole} :
    databaseStaticRoleMatchesDesired existing desired = true ↔
      DatabaseStaticRoleHeld existing desired := by
  simp only [databaseStaticRoleMatchesDesired, Bool.and_eq_true, textEmptyOrEqual_iff,
    noneOrEqual_iff, vecEmptyOrEqual_iff, secretMapEmptyOrContains_iff, databaseStaticRoleHeld_iff]
  tauto

theorem identityEntityMatchesDesired_iff {existing : IdentityEntityInfo}
    {desired : IdentityEntityRequest} :
    identityEntityMatchesDesired existing desired = true ↔
      IdentityEntityHeld existing desired := by
  simp only [identityEntityMatchesDesired, Bool.and_eq_true, noneOrEqual_iff, noneOrEqual_some_iff,
    vecEmptyOrEqual_iff, mapEmptyOrContains_iff, identityEntityHeld_iff]
  tauto

theorem identityGroupMatchesDesired_iff {existing : IdentityGroupInfo}
    {desired : IdentityGroupRequest} :
    identityGroupMatchesDesired existing desired = true ↔
      IdentityGroupHeld existing desired := by
  simp only [identityGroupMatchesDesired, Bool.and_eq_true, noneOrEqual_iff, vecEmptyOrEqual_iff,
    mapEmptyOrContains_iff, identityGroupHeld_iff]
  tauto

/-! ## What a match says of the supplied fields -/

/-- The readback holds every supplied field that it carries. -/
def FieldsHeld : (kind : ObjectKind) → kind.Existing → kind.Desired → Prop
  | .policy => fun existing desired => existing.policy.rules = desired
  | .pkiRole => fun existing desired => PkiRoleHeld existing.role desired
  | .databaseRole => DatabaseRoleHeld
  | .databaseStaticRole => DatabaseStaticRoleHeld
  | .sshRole => fun existing desired => SshRoleHeld existing.role desired
  | .identityEntity => IdentityEntityHeld
  | .identityGroup => IdentityGroupHeld
  | .approleRole => AppRoleRoleHeld

/-- The request without the fields that the comparison leaves out. -/
def comparedFields : (kind : ObjectKind) → kind.Desired → kind.Desired
  | .pkiRole => comparedPkiRole
  | .sshRole => comparedSshRole
  | .approleRole => comparedAppRoleRole
  | .policy => id
  | .databaseRole => id
  | .databaseStaticRole => id
  | .identityEntity => id
  | .identityGroup => id

theorem refusal_eq_none_iff {refused : Bool} {message : String} :
    (if refused = true then some message else none) = none ↔ refused = false := by
  cases refused <;> simp

/-- A comparison is what its compared fields and the override guard say. -/
theorem matchesDesired_iff {kind : ObjectKind} (hpolicy : kind ≠ .policy)
    {existing : kind.Existing} {desired : kind.Desired} :
    kind.matchesDesired existing desired = true ↔
      kind.unsafeConfiguration existing = none ∧
        FieldsHeld kind existing (comparedFields kind desired) := by
  cases kind with
  | policy => exact absurd rfl hpolicy
  | pkiRole =>
    exact pkiRoleMatchesDesired_iff.trans (and_congr_left' refusal_eq_none_iff.symm)
  | sshRole =>
    exact sshRoleMatchesDesired_iff.trans (and_congr_left' refusal_eq_none_iff.symm)
  | databaseRole => exact databaseRoleMatchesDesired_iff.trans (and_iff_right rfl).symm
  | databaseStaticRole => exact databaseStaticRoleMatchesDesired_iff.trans (and_iff_right rfl).symm
  | identityEntity => exact identityEntityMatchesDesired_iff.trans (and_iff_right rfl).symm
  | identityGroup => exact identityGroupMatchesDesired_iff.trans (and_iff_right rfl).symm
  | approleRole => exact approleRoleMatchesDesired_iff.trans (and_iff_right rfl).symm

/-- The compared part of a role holds no supplied field beyond it. -/
theorem comparedPkiRole_held_iff {role : PkiRole} :
    PkiRoleHeld (comparedPkiRole role) role ↔ comparedPkiRole role = role := by
  cases role
  simp only [pkiRoleHeld_iff, comparedPkiRole, PkiRole.mk.injEq, optionHeld_self, listHeld_self,
    none_optionHeld_iff, nil_listHeld_iff, true_and, eq_comm (a := none), eq_comm (a := [])]

/-- A readback with the compared fields of a request. -/
def comparedSshInfo (request : SshRoleRequest) : SshRoleInfo where
  defaultUser := request.defaultUser
  cidrList := request.cidrList
  port := request.port
  keyType := request.keyType
  allowedUsers := request.allowedUsers
  ttl := request.ttl
  maxTtl := request.maxTtl
  issuerRef := request.issuerRef

theorem comparedSshInfo_held_iff {request : SshRoleRequest} :
    SshRoleHeld (comparedSshInfo request) request ↔ comparedSshRole request = request := by
  cases request
  simp only [sshRoleHeld_iff, comparedSshRole, comparedSshInfo, SshRoleRequest.mk.injEq,
    optionHeld_self, none_optionHeld_iff, empty_mapHeld_iff, true_and, eq_comm (a := none),
    eq_comm (a := ∅)]

theorem comparedAppRoleRole_held_iff {request : AppRoleRoleRequest} :
    AppRoleRoleHeld (comparedAppRoleRole request) request ↔
      comparedAppRoleRole request = request := by
  cases request
  simp only [appRoleRoleHeld_iff, comparedAppRoleRole, AppRoleRoleRequest.mk.injEq,
    optionHeld_self, listHeld_self, nil_listHeld_iff, true_and, and_true, eq_comm (a := [])]

/-- The size that the comparison of policies is limited to. -/
def Bounded : (kind : ObjectKind) → kind.Desired → Prop
  | .policy => fun desired => byteLen desired ≤ maxPolicyBytes
  | .pkiRole => fun _ => True
  | .databaseRole => fun _ => True
  | .databaseStaticRole => fun _ => True
  | .sshRole => fun _ => True
  | .identityEntity => fun _ => True
  | .identityGroup => fun _ => True
  | .approleRole => fun _ => True

theorem PkiRoleHeld.compared {existing desired : PkiRole} (h : PkiRoleHeld existing desired) :
    PkiRoleHeld existing (comparedPkiRole desired) := by
  simp only [pkiRoleHeld_iff, comparedPkiRole, optionHeld_none, listHeld_nil, true_and, and_true]
  exact ⟨h.issuerRef, h.allowedDomains, h.allowSubdomains, h.keyType, h.keyBits, h.ttl, h.maxTtl⟩

theorem SshRoleHeld.compared {existing : SshRoleInfo} {desired : SshRoleRequest}
    (h : SshRoleHeld existing desired) : SshRoleHeld existing (comparedSshRole desired) := by
  simp only [sshRoleHeld_iff, comparedSshRole, optionHeld_none, mapHeld_empty, true_and]
  exact ⟨h.defaultUser, h.cidrList, h.port, h.keyType, h.allowedUsers, h.ttl, h.maxTtl,
    h.issuerRef⟩

theorem AppRoleRoleHeld.compared {existing desired : AppRoleRoleRequest}
    (h : AppRoleRoleHeld existing desired) :
    AppRoleRoleHeld existing (comparedAppRoleRole desired) :=
  { h with policies := listHeld_nil _ }

theorem fieldsHeld_compared {kind : ObjectKind} {existing : kind.Existing} {desired : kind.Desired}
    (h : FieldsHeld kind existing desired) :
    FieldsHeld kind existing (comparedFields kind desired) := by
  cases kind with
  | pkiRole => exact PkiRoleHeld.compared h
  | sshRole => exact SshRoleHeld.compared h
  | approleRole => exact AppRoleRoleHeld.compared h
  | policy | databaseRole | databaseStaticRole | identityEntity | identityGroup => exact h

/-- A safe readback that holds the supplied fields matches. -/
theorem matchesDesired_of_fieldsHeld {kind : ObjectKind} {existing : kind.Existing}
    {desired : kind.Desired} (hbounded : Bounded kind desired)
    (hsafe : kind.unsafeConfiguration existing = none) (h : FieldsHeld kind existing desired) :
    kind.matchesDesired existing desired = true := by
  by_cases hpolicy : kind = .policy
  · subst hpolicy
    refine Bool.and_eq_true_iff.mpr ⟨?_, ?_⟩
    · exact (policyRulesEqual_iff hbounded).mpr h
    · exact Bool.not_eq_true' _ ▸ refusal_eq_none_iff.mp hsafe
  · exact (matchesDesired_iff hpolicy).mpr ⟨hsafe, fieldsHeld_compared h⟩

/-- A request without uncompared fields is held by every readback that matches it. -/
theorem fieldsHeld_of_matchesDesired {kind : ObjectKind} {existing : kind.Existing}
    {desired : kind.Desired} (hcompared : comparedFields kind desired = desired)
    (h : kind.matchesDesired existing desired = true) : FieldsHeld kind existing desired := by
  by_cases hpolicy : kind = .policy
  · subst hpolicy
    have hrules : policyRulesEqual existing.policy.rules desired = true := (Bool.and_eq_true_iff.mp h).1
    exact asBytes_injective (constantTimeBoundedBytesEqual_iff.mp hrules).2
  · have hheld := ((matchesDesired_iff hpolicy).mp h).2
    rwa [hcompared] at hheld

/-- A match is sound for a request exactly when the request supplies compared fields only. -/
theorem matchesDesired_sound_iff (kind : ObjectKind) (desired : kind.Desired) :
    (∀ existing : kind.Existing, kind.matchesDesired existing desired = true →
        FieldsHeld kind existing desired) ↔
      comparedFields kind desired = desired := by
  refine ⟨fun h => ?_, fun hcompared existing => fieldsHeld_of_matchesDesired hcompared⟩
  cases kind with
  | pkiRole =>
    refine comparedPkiRole_held_iff.mp (h { role := comparedPkiRole desired } ?_)
    exact pkiRoleMatchesDesired_iff.mpr ⟨rfl, by simp [pkiRoleHeld_iff]⟩
  | sshRole =>
    refine comparedSshInfo_held_iff.mp (h { role := comparedSshInfo desired } ?_)
    refine sshRoleMatchesDesired_iff.mpr ⟨rfl, ?_⟩
    simp [sshRoleHeld_iff, comparedSshRole, comparedSshInfo]
  | approleRole =>
    refine comparedAppRoleRole_held_iff.mp (h (comparedAppRoleRole desired) ?_)
    exact approleRoleMatchesDesired_iff.mpr (by simp [appRoleRoleHeld_iff])
  | policy => rfl
  | databaseRole => rfl
  | databaseStaticRole => rfl
  | identityEntity => rfl
  | identityGroup => rfl

/-- A role that forbids arbitrary names matches one that allows them. -/
theorem pkiRole_allowAnyName_unnoticed :
    ∃ (existing : PkiRoleDetails) (desired : PkiRole),
      desired.allowAnyName = some false ∧ existing.role.allowAnyName = some true ∧
        pkiRoleMatchesDesired existing desired = true ∧
        ¬ FieldsHeld .pkiRole existing desired := by
  refine ⟨{ role := { allowAnyName := some true } }, { allowAnyName := some false }, rfl, rfl,
    rfl, fun h => ?_⟩
  have hname : some true = some false := PkiRoleHeld.allowAnyName h false rfl
  cases hname

end OpenBao.BootstrapFields
