import OpenBao.AclPolicy
import OpenBao.BootstrapRecords

/-!
# Comparisons of the bootstrap steps

Each converging step reads its target and compares the readback with the desired
fields. `ObjectKind` collects the targets that share one read-compare-write-verify
sequence, with their records and comparisons.
-/

namespace OpenBao.BootstrapComparisons
open AclPolicy BootstrapRecords Utf8Text

def maxBootstrapSecretValueBytes : ℕ := 4 * 1024

/-- The loop visits every index below `maxBytes`, whatever it has found so far. -/
def constantTimeBoundedBytesEqual (current desired : Bytes) (maxBytes : ℕ) : Bool :=
  if maxBytes < current.length ∨ maxBytes < desired.length then false
  else
    (List.range maxBytes).foldl
      (fun equal index => equal && current.getD index 0 == desired.getD index 0)
      (current.length == desired.length)

def secretValuesEqual (current desired : Str) : Bool :=
  constantTimeBoundedBytesEqual (asBytes current) (asBytes desired) maxBootstrapSecretValueBytes

def policyRulesEqual (current desired : Str) : Bool :=
  constantTimeBoundedBytesEqual (asBytes current) (asBytes desired) maxPolicyBytes

theorem foldl_and_eq_true {α : Type*} (p : α → Bool) (items : List α) (b : Bool) :
    items.foldl (fun equal item => equal && p item) b = true ↔
      b = true ∧ ∀ item ∈ items, p item = true := by
  induction items generalizing b with
  | nil => simp
  | cons item items ih =>
    rw [List.foldl_cons, ih]
    simp [and_assoc]

/-- Within the bound the comparison is equality, beyond it false. -/
theorem constantTimeBoundedBytesEqual_iff {current desired : Bytes} {maxBytes : ℕ} :
    constantTimeBoundedBytesEqual current desired maxBytes = true ↔
      current.length ≤ maxBytes ∧ current = desired := by
  rw [constantTimeBoundedBytesEqual]
  split_ifs with hlong
  · simp only [false_iff, not_and]
    rintro hc rfl
    omega
  · simp only [foldl_and_eq_true, beq_iff_eq, List.mem_range]
    constructor
    · rintro ⟨hlen, hbytes⟩
      refine ⟨by omega, List.ext_getElem hlen fun i hi hi' => ?_⟩
      have hb := hbytes i (by omega)
      simpa [hi, hi'] using hb
    · rintro ⟨-, rfl⟩
      exact ⟨rfl, fun _ _ => rfl⟩

/-- A desired text within the bound is compared as a whole. -/
theorem boundedTextsEqual_iff {current desired : Str} {maxBytes : ℕ}
    (h : byteLen desired ≤ maxBytes) :
    constantTimeBoundedBytesEqual (asBytes current) (asBytes desired) maxBytes = true ↔
      current = desired := by
  rw [constantTimeBoundedBytesEqual_iff, asBytes_inj]
  constructor
  · exact And.right
  · rintro rfl
    exact ⟨h, rfl⟩

theorem secretValuesEqual_iff {current desired : Str}
    (h : byteLen desired ≤ maxBootstrapSecretValueBytes) :
    secretValuesEqual current desired = true ↔ current = desired :=
  boundedTextsEqual_iff h

theorem policyRulesEqual_iff {current desired : Str} (h : byteLen desired ≤ maxPolicyBytes) :
    policyRulesEqual current desired = true ↔ current = desired :=
  boundedTextsEqual_iff h

def vecEmptyOrEqual (existing desired : List Str) : Bool := desired = [] || existing = desired

/-- `desired.is_none_or(|value| existing == Some(value))`. -/
def noneOrEqual {α : Type} [DecidableEq α] (existing desired : Option α) : Bool :=
  desired.all fun value => existing = some value

def mapEmptyOrContains (existing desired : TextMap Str) : Bool :=
  desired.entries.all fun entry => existing.lookup entry.1 = some entry.2

def databaseSecretValuesEqual (current desired : Str) : Bool :=
  byteLen current = byteLen desired && asBytes current = asBytes desired

def secretMapEmptyOrContains (existing desired : TextMap Str) : Bool :=
  desired.entries.all fun entry =>
    (existing.lookup entry.1).any fun current => databaseSecretValuesEqual current entry.2

def policyHasUnsafeTemplateOverrides (existing : PolicyInfoDetails) : Bool :=
  existing.allowSlashesInIdentityTemplates || existing.allowWildcardsInIdentityTemplates

def policyMatchesDesired (existing : PolicyInfoDetails) (desired : Str) : Bool :=
  policyRulesEqual existing.policy.rules desired && !policyHasUnsafeTemplateOverrides existing

def pkiRoleHasUnsafeTemplateOverride (existing : PkiRoleDetails) : Bool :=
  existing.allowGlobsInIdentityTemplates

def pkiRoleMatchesDesired (existing : PkiRoleDetails) (desired : PkiRole) : Bool :=
  !pkiRoleHasUnsafeTemplateOverride existing &&
    noneOrEqual existing.role.issuerRef desired.issuerRef &&
    vecEmptyOrEqual existing.role.allowedDomains desired.allowedDomains &&
    noneOrEqual existing.role.allowSubdomains desired.allowSubdomains &&
    noneOrEqual existing.role.ttl desired.ttl &&
    noneOrEqual existing.role.maxTtl desired.maxTtl &&
    noneOrEqual existing.role.keyType desired.keyType &&
    noneOrEqual existing.role.keyBits desired.keyBits

def databaseRoleMatchesDesired (existing desired : DatabaseRole) : Bool :=
  (desired.dbName = [] || existing.dbName = desired.dbName) &&
    vecEmptyOrEqual existing.creationStatements desired.creationStatements &&
    noneOrEqual existing.defaultTtl desired.defaultTtl &&
    noneOrEqual existing.maxTtl desired.maxTtl &&
    vecEmptyOrEqual existing.revocationStatements desired.revocationStatements &&
    vecEmptyOrEqual existing.rollbackStatements desired.rollbackStatements &&
    vecEmptyOrEqual existing.renewStatements desired.renewStatements &&
    noneOrEqual existing.credentialType desired.credentialType &&
    secretMapEmptyOrContains existing.credentialConfig desired.credentialConfig

def databaseStaticRoleMatchesDesired (existing desired : DatabaseStaticRole) : Bool :=
  (desired.dbName = [] || existing.dbName = desired.dbName) &&
    (desired.username = [] || existing.username = desired.username) &&
    noneOrEqual existing.rotationPeriod desired.rotationPeriod &&
    vecEmptyOrEqual existing.rotationStatements desired.rotationStatements &&
    noneOrEqual existing.credentialType desired.credentialType &&
    secretMapEmptyOrContains existing.credentialConfig desired.credentialConfig

def sshRoleHasUnsafeTemplateOverride (existing : SshRoleTemplateDetails) : Bool :=
  existing.allowCommasInIdentityTemplates || existing.allowWildcardsInIdentityTemplates

def sshRoleMatchesDesired (existing : SshRoleTemplateDetails) (desired : SshRoleRequest) : Bool :=
  !sshRoleHasUnsafeTemplateOverride existing &&
    noneOrEqual existing.role.defaultUser desired.defaultUser &&
    noneOrEqual existing.role.cidrList desired.cidrList &&
    noneOrEqual existing.role.port desired.port &&
    noneOrEqual existing.role.keyType desired.keyType &&
    noneOrEqual existing.role.allowedUsers desired.allowedUsers &&
    noneOrEqual existing.role.ttl desired.ttl &&
    noneOrEqual existing.role.maxTtl desired.maxTtl &&
    noneOrEqual existing.role.issuerRef desired.issuerRef

def identityEntityMatchesDesired (existing : IdentityEntityInfo)
    (desired : IdentityEntityRequest) : Bool :=
  noneOrEqual existing.name desired.name &&
    vecEmptyOrEqual existing.policies desired.policies &&
    mapEmptyOrContains existing.metadata desired.metadata &&
    desired.disabled.all fun value => existing.disabled = value

def identityGroupMatchesDesired (existing : IdentityGroupInfo)
    (desired : IdentityGroupRequest) : Bool :=
  noneOrEqual existing.name desired.name &&
    noneOrEqual existing.groupType desired.groupType &&
    vecEmptyOrEqual existing.policies desired.policies &&
    vecEmptyOrEqual existing.memberEntityIds desired.memberEntityIds &&
    vecEmptyOrEqual existing.memberGroupIds desired.memberGroupIds &&
    mapEmptyOrContains existing.metadata desired.metadata

def approleRoleMatchesDesired (existing desired : AppRoleRoleRequest) : Bool :=
  noneOrEqual existing.bindSecretId desired.bindSecretId &&
    vecEmptyOrEqual existing.secretIdBoundCidrs desired.secretIdBoundCidrs &&
    noneOrEqual existing.secretIdNumUses desired.secretIdNumUses &&
    noneOrEqual existing.secretIdTtl desired.secretIdTtl &&
    noneOrEqual existing.localSecretIds desired.localSecretIds &&
    noneOrEqual existing.tokenTtl desired.tokenTtl &&
    noneOrEqual existing.tokenMaxTtl desired.tokenMaxTtl &&
    vecEmptyOrEqual existing.tokenPolicies desired.tokenPolicies &&
    vecEmptyOrEqual existing.tokenBoundCidrs desired.tokenBoundCidrs &&
    noneOrEqual existing.tokenStrictlyBindIp desired.tokenStrictlyBindIp &&
    noneOrEqual existing.tokenExplicitMaxTtl desired.tokenExplicitMaxTtl &&
    noneOrEqual existing.tokenNoDefaultPolicy desired.tokenNoDefaultPolicy &&
    noneOrEqual existing.tokenNumUses desired.tokenNumUses &&
    noneOrEqual existing.tokenPeriod desired.tokenPeriod &&
    noneOrEqual existing.tokenType desired.tokenType

/-- The targets that are read, compared, written and read again. -/
inductive ObjectKind where
  | policy | pkiRole | databaseRole | databaseStaticRole | sshRole | identityEntity
  | identityGroup | approleRole
  deriving DecidableEq, Repr

namespace ObjectKind

/-- What the read returns. -/
def Existing : ObjectKind → Type
  | policy => PolicyInfoDetails
  | pkiRole => PkiRoleDetails
  | databaseRole => DatabaseRole
  | databaseStaticRole => DatabaseStaticRole
  | sshRole => SshRoleTemplateDetails
  | identityEntity => IdentityEntityInfo
  | identityGroup => IdentityGroupInfo
  | approleRole => AppRoleRoleRequest

/-- What the plan carries and the write sends. -/
def Desired : ObjectKind → Type
  | policy => Str
  | pkiRole => PkiRole
  | databaseRole => DatabaseRole
  | databaseStaticRole => DatabaseStaticRole
  | sshRole => SshRoleRequest
  | identityEntity => IdentityEntityRequest
  | identityGroup => IdentityGroupRequest
  | approleRole => AppRoleRoleRequest

def matchesDesired : (kind : ObjectKind) → kind.Existing → kind.Desired → Bool
  | policy => policyMatchesDesired
  | pkiRole => pkiRoleMatchesDesired
  | databaseRole => databaseRoleMatchesDesired
  | databaseStaticRole => databaseStaticRoleMatchesDesired
  | sshRole => sshRoleMatchesDesired
  | identityEntity => identityEntityMatchesDesired
  | identityGroup => identityGroupMatchesDesired
  | approleRole => approleRoleMatchesDesired

/-- The message with which a step refuses to replace an unsafe readback. -/
def unsafeConfiguration : (kind : ObjectKind) → kind.Existing → Option String
  | policy => fun existing =>
    if policyHasUnsafeTemplateOverrides existing then
      some <| "ACL policy has identity-template delimiter overrides enabled; disable them with a " ++
        "state-preserving operation before bootstrap"
    else none
  | pkiRole => fun existing =>
    if pkiRoleHasUnsafeTemplateOverride existing then
      some <| "PKI role has allow_globs_in_identity_templates enabled; disable it with a " ++
        "state-preserving operation before bootstrap"
    else none
  | sshRole => fun existing =>
    if sshRoleHasUnsafeTemplateOverride existing then
      some <| "SSH role has an identity-template override enabled; disable it with a " ++
        "state-preserving operation before bootstrap"
    else none
  | _ => fun _ => none

end ObjectKind

end OpenBao.BootstrapComparisons
