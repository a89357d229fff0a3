import OpenBao.BootstrapComparisons
import OpenBao.PolicyRendering

/-!
# Bootstrap plans

A plan is the list of operations that its builder accepted, with the checks the
builder made.
-/

namespace OpenBao.BootstrapPlan
open AclPolicy BootstrapComparisons BootstrapRecords PathValidation PolicyRendering Utf8Text

def maxBootstrapOperations : ℕ := 512

inductive BootstrapOperation where
  | authMethod (path backendType : Str) (description : Option Str)
  | kv2Mount (path : Str) (description : Option Str)
  | transitMount (path : Str) (description : Option Str)
  | pkiMount (path : Str) (description : Option Str)
  | databaseMount (path : Str) (description : Option Str)
  | sshMount (path : Str) (description : Option Str)
  | transitKey (mount name : Str) (request : TransitCreateKeyRequest)
  | policy (name policy : Str)
  | kv2SecretValues (mount path : Str) (values : TextMap Str)
  | pkiRole (mount name : Str) (role : PkiRole)
  | databaseRole (mount name : Str) (role : DatabaseRole)
  | databaseStaticRole (mount name : Str) (role : DatabaseStaticRole)
  | sshRole (mount name : Str) (request : SshRoleRequest)
  | identityEntity (mount name : Str) (request : IdentityEntityRequest)
  | identityGroup (mount name : Str) (request : IdentityGroupRequest)
  | serviceToken (name : Str) (request : TokenCreateRequest)
  | approleRole (mount name : Str) (request : AppRoleRoleRequest)
  | approleSecretId (name mount roleName : Str) (request : AppRoleSecretIdRequest)

/-- The content checks of the builder. -/
def BootstrapOperation.Accepted : BootstrapOperation → Prop
  | .policy _ document => byteLen document ≤ maxPolicyBytes
  | .kv2SecretValues _ _ values =>
    ∀ entry ∈ values.entries, byteLen entry.2 ≤ maxBootstrapSecretValueBytes
  | .identityEntity _ name request => request.name = some name ∨ request.name = none
  | .identityGroup _ name request => request.name = some name ∨ request.name = none
  | _ => True

structure AdminBootstrap where
  operations : List BootstrapOperation
  count : operations.length ≤ maxBootstrapOperations
  accepted : ∀ operation ∈ operations, operation.Accepted

/-- `validate_mount_path(value)?.join("/")`. -/
def mountPath (value : Str) : Except Error Str := (validateMountPath value).map (join '/')

/-- `validate_endpoint_path(value)?.join("/")`. -/
def endpointPath (value : Str) : Except Error Str := (validateEndpointPath value).map (join '/')

namespace AdminBootstrap

def new : AdminBootstrap := ⟨[], Nat.zero_le _, by simp⟩

def pushOperation (plan : AdminBootstrap) (operation : BootstrapOperation)
    (h : operation.Accepted) : Except Error AdminBootstrap :=
  if hlen : maxBootstrapOperations ≤ plan.operations.length then
    .error (.invalidParameter "bootstrap plan exceeds maximum allowed operation count")
  else
    .ok
      { operations := plan.operations ++ [operation]
        count := by
          rw [List.length_append, List.length_singleton]
          omega
        accepted := fun o ho => (List.mem_append.mp ho).elim (plan.accepted o) fun hm =>
          List.mem_singleton.mp hm ▸ h }

def ensureAuthMethod (plan : AdminBootstrap) (path backendType : Str) (description : Option Str) :
    Except Error AdminBootstrap := do
  let path ← mountPath path
  let backendType ← mountPath backendType
  plan.pushOperation (.authMethod path backendType description) trivial

def ensureApproleAuthMethod (plan : AdminBootstrap) (path : Str) (description : Option Str) :
    Except Error AdminBootstrap :=
  plan.ensureAuthMethod path "approle".toList description

def ensureKv2Mount (plan : AdminBootstrap) (path : Str) (description : Option Str) :
    Except Error AdminBootstrap := do
  let path ← mountPath path
  plan.pushOperation (.kv2Mount path description) trivial

def ensureTransitMount (plan : AdminBootstrap) (path : Str) (description : Option Str) :
    Except Error AdminBootstrap := do
  let path ← mountPath path
  plan.pushOperation (.transitMount path description) trivial

def ensurePkiMount (plan : AdminBootstrap) (path : Str) (description : Option Str) :
    Except Error AdminBootstrap := do
  let path ← mountPath path
  plan.pushOperation (.pkiMount path description) trivial

def ensureDatabaseMount (plan : AdminBootstrap) (path : Str) (description : Option Str) :
    Except Error AdminBootstrap := do
  let path ← mountPath path
  plan.pushOperation (.databaseMount path description) trivial

def ensureSshMount (plan : AdminBootstrap) (path : Str) (description : Option Str) :
    Except Error AdminBootstrap := do
  let path ← mountPath path
  plan.pushOperation (.sshMount path description) trivial

def ensureTransitKey (plan : AdminBootstrap) (mount name : Str)
    (request : TransitCreateKeyRequest) : Except Error AdminBootstrap := do
  let mount ← mountPath mount
  let name ← mountPath name
  plan.pushOperation (.transitKey mount name request) trivial

def ensurePolicyDocument (plan : AdminBootstrap) (name policy : Str) :
    Except Error AdminBootstrap := do
  let name ← mountPath name
  if h : byteLen policy ≤ maxPolicyBytes then plan.pushOperation (.policy name policy) h
  else
    .error (.invalidParameter "bootstrap ACL policy document exceeds maximum allowed length")

def ensurePolicy (plan : AdminBootstrap) (name : Str) (policy : AclPolicyBuilder) :
    Except Error AdminBootstrap := do
  let policy ← build policy
  plan.ensurePolicyDocument name policy

def ensureKv2SecretValues (plan : AdminBootstrap) (mount path : Str) (values : TextMap Str) :
    Except Error AdminBootstrap := do
  let mount ← mountPath mount
  let path ← endpointPath path
  if h : ∀ entry ∈ values.entries, byteLen entry.2 ≤ maxBootstrapSecretValueBytes then
    plan.pushOperation (.kv2SecretValues mount path values) h
  else .error (.invalidParameter "bootstrap KV v2 secret value exceeds maximum allowed size")

def ensurePkiRole (plan : AdminBootstrap) (mount name : Str) (role : PkiRole) :
    Except Error AdminBootstrap := do
  let mount ← mountPath mount
  let name ← mountPath name
  plan.pushOperation (.pkiRole mount name role) trivial

def ensureDatabaseRole (plan : AdminBootstrap) (mount name : Str) (role : DatabaseRole) :
    Except Error AdminBootstrap := do
  let mount ← mountPath mount
  let name ← mountPath name
  plan.pushOperation (.databaseRole mount name role) trivial

def ensureDatabaseStaticRole (plan : AdminBootstrap) (mount name : Str)
    (role : DatabaseStaticRole) : Except Error AdminBootstrap := do
  let mount ← mountPath mount
  let name ← mountPath name
  plan.pushOperation (.databaseStaticRole mount name role) trivial

def ensureSshRole (plan : AdminBootstrap) (mount name : Str) (request : SshRoleRequest) :
    Except Error AdminBootstrap := do
  let mount ← mountPath mount
  let name ← mountPath name
  plan.pushOperation (.sshRole mount name request) trivial

def ensureIdentityEntityAt (plan : AdminBootstrap) (mount name : Str)
    (request : IdentityEntityRequest) : Except Error AdminBootstrap := do
  let mount ← mountPath mount
  let name ← mountPath name
  if h : request.name = some name ∨ request.name = none then
    plan.pushOperation (.identityEntity mount name request) h
  else
    .error (.invalidParameter "identity entity request name must match bootstrap target name")

def ensureIdentityEntity (plan : AdminBootstrap) (name : Str) (request : IdentityEntityRequest) :
    Except Error AdminBootstrap :=
  plan.ensureIdentityEntityAt "identity".toList name request

def ensureIdentityGroupAt (plan : AdminBootstrap) (mount name : Str)
    (request : IdentityGroupRequest) : Except Error AdminBootstrap := do
  let mount ← mountPath mount
  let name ← mountPath name
  if h : request.name = some name ∨ request.name = none then
    plan.pushOperation (.identityGroup mount name request) h
  else .error (.invalidParameter "identity group request name must match bootstrap target name")

def ensureIdentityGroup (plan : AdminBootstrap) (name : Str) (request : IdentityGroupRequest) :
    Except Error AdminBootstrap :=
  plan.ensureIdentityGroupAt "identity".toList name request

def issueServiceToken (plan : AdminBootstrap) (name : Str) (request : TokenCreateRequest) :
    Except Error AdminBootstrap := do
  let name ← mountPath name
  plan.pushOperation (.serviceToken name request) trivial

def ensureApproleRole (plan : AdminBootstrap) (mount name : Str) (request : AppRoleRoleRequest) :
    Except Error AdminBootstrap := do
  let mount ← mountPath mount
  let name ← mountPath name
  plan.pushOperation (.approleRole mount name request) trivial

def issueApproleSecretId (plan : AdminBootstrap) (name mount roleName : Str)
    (request : AppRoleSecretIdRequest) : Except Error AdminBootstrap := do
  let name ← mountPath name
  let mount ← mountPath mount
  let roleName ← mountPath roleName
  plan.pushOperation (.approleSecretId name mount roleName request) trivial

end AdminBootstrap

/-! ## Built plans -/

/-- A call of the builder with its arguments. -/
inductive PlanCall where
  | ensureAuthMethod (path backendType : Str) (description : Option Str)
  | ensureApproleAuthMethod (path : Str) (description : Option Str)
  | ensureKv2Mount (path : Str) (description : Option Str)
  | ensureTransitMount (path : Str) (description : Option Str)
  | ensurePkiMount (path : Str) (description : Option Str)
  | ensureDatabaseMount (path : Str) (description : Option Str)
  | ensureSshMount (path : Str) (description : Option Str)
  | ensureTransitKey (mount name : Str) (request : TransitCreateKeyRequest)
  | ensurePolicyDocument (name policy : Str)
  | ensurePolicy (name : Str) (policy : AclPolicyBuilder)
  | ensureKv2SecretValues (mount path : Str) (values : TextMap Str)
  | ensurePkiRole (mount name : Str) (role : PkiRole)
  | ensureDatabaseRole (mount name : Str) (role : DatabaseRole)
  | ensureDatabaseStaticRole (mount name : Str) (role : DatabaseStaticRole)
  | ensureSshRole (mount name : Str) (request : SshRoleRequest)
  | ensureIdentityEntityAt (mount name : Str) (request : IdentityEntityRequest)
  | ensureIdentityEntity (name : Str) (request : IdentityEntityRequest)
  | ensureIdentityGroupAt (mount name : Str) (request : IdentityGroupRequest)
  | ensureIdentityGroup (name : Str) (request : IdentityGroupRequest)
  | issueServiceToken (name : Str) (request : TokenCreateRequest)
  | ensureApproleRole (mount name : Str) (request : AppRoleRoleRequest)
  | issueApproleSecretId (name mount roleName : Str) (request : AppRoleSecretIdRequest)

def PlanCall.method (plan : AdminBootstrap) : PlanCall → Except Error AdminBootstrap
  | .ensureAuthMethod path backendType description =>
    plan.ensureAuthMethod path backendType description
  | .ensureApproleAuthMethod path description => plan.ensureApproleAuthMethod path description
  | .ensureKv2Mount path description => plan.ensureKv2Mount path description
  | .ensureTransitMount path description => plan.ensureTransitMount path description
  | .ensurePkiMount path description => plan.ensurePkiMount path description
  | .ensureDatabaseMount path description => plan.ensureDatabaseMount path description
  | .ensureSshMount path description => plan.ensureSshMount path description
  | .ensureTransitKey mount name request => plan.ensureTransitKey mount name request
  | .ensurePolicyDocument name policy => plan.ensurePolicyDocument name policy
  | .ensurePolicy name policy => plan.ensurePolicy name policy
  | .ensureKv2SecretValues mount path values => plan.ensureKv2SecretValues mount path values
  | .ensurePkiRole mount name role => plan.ensurePkiRole mount name role
  | .ensureDatabaseRole mount name role => plan.ensureDatabaseRole mount name role
  | .ensureDatabaseStaticRole mount name role => plan.ensureDatabaseStaticRole mount name role
  | .ensureSshRole mount name request => plan.ensureSshRole mount name request
  | .ensureIdentityEntityAt mount name request => plan.ensureIdentityEntityAt mount name request
  | .ensureIdentityEntity name request => plan.ensureIdentityEntity name request
  | .ensureIdentityGroupAt mount name request => plan.ensureIdentityGroupAt mount name request
  | .ensureIdentityGroup name request => plan.ensureIdentityGroup name request
  | .issueServiceToken name request => plan.issueServiceToken name request
  | .ensureApproleRole mount name request => plan.ensureApproleRole mount name request
  | .issueApproleSecretId name mount roleName request =>
    plan.issueApproleSecretId name mount roleName request

/-- The plans that calls of the builder produce; a failed call leaves the plan alone. -/
inductive Built : AdminBootstrap → Prop where
  | new : Built .new
  | call {plan plan' : AdminBootstrap} (call : PlanCall) (hplan : Built plan)
      (h : call.method plan = .ok plan') : Built plan'

/-- The path of an auth method is as its validation leaves it. -/
def BootstrapOperation.CanonicalPath : BootstrapOperation → Prop
  | .authMethod path _ _ => path.getLast? ≠ some '/'
  | _ => True

theorem mountPath_getLast? {value path : Str} (h : mountPath value = .ok path) :
    path.getLast? ≠ some '/' := by
  rw [mountPath] at h
  cases hsegments : validateMountPath value with
  | error e => rw [hsegments] at h; cases h
  | ok segments =>
    rw [hsegments] at h
    obtain rfl := Except.ok.inj h
    obtain ⟨segment, hsegment, hlast⟩ :=
      (validateMountPath_canonical hsegments).toPathSegments.join_getLast?
    intro hslash
    have hends := hsegment.ends.2 '/' (hlast ▸ hslash)
    simp at hends

namespace AdminBootstrap

/-- The plan with one more operation, whose path is canonical. -/
def Extends (plan plan' : AdminBootstrap) : Prop :=
  ∃ operation, plan'.operations = plan.operations ++ [operation] ∧ operation.CanonicalPath

variable {plan plan' : AdminBootstrap}

theorem pushOperation_extends {operation : BootstrapOperation} {ha : operation.Accepted}
    (h : plan.pushOperation operation ha = .ok plan') (hpath : operation.CanonicalPath) :
    plan.Extends plan' := by
  unfold pushOperation at h
  split at h
  · cases h
  · obtain rfl := Except.ok.inj h
    exact ⟨operation, rfl, hpath⟩

theorem ensureAuthMethod_extends {path backendType : Str} {description : Option Str}
    (h : plan.ensureAuthMethod path backendType description = .ok plan') :
    plan.Extends plan' := by
  obtain ⟨path', hpath, h⟩ := bind_eq_ok_iff.mp h
  obtain ⟨backendType', -, h⟩ := bind_eq_ok_iff.mp h
  exact pushOperation_extends h (mountPath_getLast? hpath)

theorem ensurePolicyDocument_extends {name policy : Str}
    (h : plan.ensurePolicyDocument name policy = .ok plan') : plan.Extends plan' := by
  obtain ⟨name', -, h⟩ := bind_eq_ok_iff.mp h
  split at h
  · exact pushOperation_extends h trivial
  · cases h

theorem ensureIdentityEntityAt_extends {mount name : Str} {request : IdentityEntityRequest}
    (h : plan.ensureIdentityEntityAt mount name request = .ok plan') : plan.Extends plan' := by
  obtain ⟨mount', -, h⟩ := bind_eq_ok_iff.mp h
  obtain ⟨name', -, h⟩ := bind_eq_ok_iff.mp h
  split at h
  · exact pushOperation_extends h trivial
  · cases h

theorem ensureIdentityGroupAt_extends {mount name : Str} {request : IdentityGroupRequest}
    (h : plan.ensureIdentityGroupAt mount name request = .ok plan') : plan.Extends plan' := by
  obtain ⟨mount', -, h⟩ := bind_eq_ok_iff.mp h
  obtain ⟨name', -, h⟩ := bind_eq_ok_iff.mp h
  split at h
  · exact pushOperation_extends h trivial
  · cases h

theorem method_extends {call : PlanCall} (h : call.method plan = .ok plan') :
    plan.Extends plan' := by
  cases call with
  | ensureAuthMethod | ensureApproleAuthMethod => exact ensureAuthMethod_extends h
  | ensurePolicyDocument => exact ensurePolicyDocument_extends h
  | ensurePolicy name policy =>
    obtain ⟨document, -, h⟩ := bind_eq_ok_iff.mp h
    exact ensurePolicyDocument_extends h
  | ensureIdentityEntityAt | ensureIdentityEntity => exact ensureIdentityEntityAt_extends h
  | ensureIdentityGroupAt | ensureIdentityGroup => exact ensureIdentityGroupAt_extends h
  | ensureKv2SecretValues mount path values =>
    obtain ⟨mount', -, h⟩ := bind_eq_ok_iff.mp h
    obtain ⟨path', -, h⟩ := bind_eq_ok_iff.mp h
    split at h
    · exact pushOperation_extends h trivial
    · cases h
  | ensureKv2Mount | ensureTransitMount | ensurePkiMount | ensureDatabaseMount | ensureSshMount
  | issueServiceToken =>
    obtain ⟨path', -, h⟩ := bind_eq_ok_iff.mp h
    exact pushOperation_extends h trivial
  | ensureTransitKey | ensurePkiRole | ensureDatabaseRole | ensureDatabaseStaticRole
  | ensureSshRole | ensureApproleRole =>
    obtain ⟨mount', -, h⟩ := bind_eq_ok_iff.mp h
    obtain ⟨name', -, h⟩ := bind_eq_ok_iff.mp h
    exact pushOperation_extends h trivial
  | issueApproleSecretId =>
    obtain ⟨name', -, h⟩ := bind_eq_ok_iff.mp h
    obtain ⟨mount', -, h⟩ := bind_eq_ok_iff.mp h
    obtain ⟨roleName', -, h⟩ := bind_eq_ok_iff.mp h
    exact pushOperation_extends h trivial

end AdminBootstrap

/-- The auth methods of a built plan have canonical paths. -/
theorem Built.canonicalPath {plan : AdminBootstrap} (h : Built plan) :
    ∀ operation ∈ plan.operations, operation.CanonicalPath := by
  induction h with
  | new => simp [AdminBootstrap.new]
  | call call _ hcall ih =>
    obtain ⟨added, hadded, hpath⟩ := AdminBootstrap.method_extends hcall
    intro operation hoperation
    rw [hadded] at hoperation
    rcases List.mem_append.mp hoperation with hm | hm
    · exact ih operation hm
    · rw [List.mem_singleton.mp hm]
      exact hpath

end OpenBao.BootstrapPlan
