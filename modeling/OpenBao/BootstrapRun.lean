import OpenBao.BootstrapPlan
import OpenBao.RequestPrograms

/-!
# The bootstrap run

Every operation of a plan is a program of server requests. A call of the client that
fails before anything is sent is a request that was refused.
-/

namespace OpenBao.BootstrapRun
open BootstrapComparisons BootstrapPlan BootstrapRecords RequestPrograms Utf8Text

/-- A policy has a name only, a role or identity also a mount. -/
structure ObjectAddress where
  mount : Option Str
  name : Str
  deriving DecidableEq

inductive BootstrapRequest where
  | listAuthMethods
  | enableAuthMethod (path : Str) (request : AuthEnableRequest)
  | readMount (path : Str)
  | enableMount (path : Str) (request : MountEnableRequest)
  | readKey (mount name : Str)
  | createKey (mount name : Str) (request : TransitCreateKeyRequest)
  | readObject (kind : ObjectKind) (address : ObjectAddress)
  | writeObject (kind : ObjectKind) (address : ObjectAddress) (desired : kind.Desired)
  | readSecret (mount path : Str)
  | writeSecret (mount path : Str) (data : TextMap Str) (options : Option Kv2WriteOptions)
  | patchSecret (mount path : Str) (data : TextMap Str) (options : Option Kv2WriteOptions)
  | createToken (request : TokenCreateRequest)
  | generateSecretId (mount roleName : Str) (request : AppRoleSecretIdRequest)

/-- The body of a successful answer. -/
def Reply : BootstrapRequest → Type
  | .listAuthMethods => TextMap MountInfo
  | .readMount _ => MountInfo
  | .readKey .. => TransitKeyInfo
  | .readObject kind _ => kind.Existing
  | .readSecret .. => Kv2Secret
  | .writeSecret .. => Kv2WriteResponse
  | .patchSecret .. => Kv2WriteResponse
  | .createToken _ => TokenAuth
  | .generateSecretId .. => AppRoleSecretId
  | _ => Unit

abbrev Answer (request : BootstrapRequest) : Type := Except Error (Reply request)

abbrev Action (α : Type) : Type := Prog BootstrapRequest Answer (Except Error α)

/-! ## The calls of the client -/

abbrev listAuthMethods : Action (TextMap MountInfo) := Prog.call BootstrapRequest.listAuthMethods

abbrev enableAuthMethod (path : Str) (request : AuthEnableRequest) : Action Unit :=
  Prog.call (BootstrapRequest.enableAuthMethod path request)

abbrev readMount (path : Str) : Action MountInfo := Prog.call (BootstrapRequest.readMount path)

abbrev enableMount (path : Str) (request : MountEnableRequest) : Action Unit :=
  Prog.call (BootstrapRequest.enableMount path request)

abbrev readKey (mount name : Str) : Action TransitKeyInfo :=
  Prog.call (BootstrapRequest.readKey mount name)

abbrev createKey (mount name : Str) (request : TransitCreateKeyRequest) : Action Unit :=
  Prog.call (BootstrapRequest.createKey mount name request)

abbrev readObject (kind : ObjectKind) (address : ObjectAddress) : Action kind.Existing :=
  Prog.call (BootstrapRequest.readObject kind address)

abbrev writeObject (kind : ObjectKind) (address : ObjectAddress) (desired : kind.Desired) :
    Action Unit := Prog.call (BootstrapRequest.writeObject kind address desired)

abbrev readSecret (mount path : Str) : Action Kv2Secret :=
  Prog.call (BootstrapRequest.readSecret mount path)

abbrev writeWithOptions (mount path : Str) (data : TextMap Str)
    (options : Option Kv2WriteOptions) : Action Kv2WriteResponse :=
  Prog.call (BootstrapRequest.writeSecret mount path data options)

abbrev patchWithOptions (mount path : Str) (data : TextMap Str)
    (options : Option Kv2WriteOptions) : Action Kv2WriteResponse :=
  Prog.call (BootstrapRequest.patchSecret mount path data options)

abbrev createToken (request : TokenCreateRequest) : Action TokenAuth :=
  Prog.call (BootstrapRequest.createToken request)

abbrev generateSecretId (mount roleName : Str) (request : AppRoleSecretIdRequest) :
    Action AppRoleSecretId := Prog.call (BootstrapRequest.generateSecretId mount roleName request)

/-! ## Steps and reports -/

abbrev succeed {α : Type} (a : α) : Action α := .done (.ok a)

abbrev fail {α : Type} (e : Error) : Action α := .done (.error e)

inductive BootstrapStepStatus where
  | unchanged | created | updated | issued
  deriving DecidableEq, Repr

structure BootstrapStepReport where
  targetType : String
  target : Str
  status : BootstrapStepStatus

structure BootstrapIssuedToken where
  name : Str
  auth : TokenAuth

structure BootstrapIssuedAppRoleSecretId where
  name : Str
  secretId : AppRoleSecretId

structure BootstrapReport where
  steps : List BootstrapStepReport := []
  issuedTokens : List BootstrapIssuedToken := []
  issuedApproleSecretIds : List BootstrapIssuedAppRoleSecretId := []

def isCreationRaceResponse (error : Error) : Bool :=
  error.status = some 400 || error.status = some 409

def bootstrapContentionError : Error :=
  .bootstrapContention <|
    "bootstrap convergence write was overwritten or changed by a concurrent writer; rerun with " ++
      "external serialization and investigate concurrent writers"

/-- The error of a path that is taken by another backend type. -/
def backendTypeError (what : String) (path found expectedType : Str) : Error :=
  .invalidParameter (what ++ " `" ++ String.ofList path ++ "` exists with type `" ++
    String.ofList found ++ "` instead of `" ++ String.ofList expectedType ++ "`")

def mountOptionError (path : Str) (option : Str × Str) : Error :=
  .invalidParameter ("mount `" ++ String.ofList path ++ "` exists without required option `" ++
    String.ofList option.1 ++ "=" ++ String.ofList option.2 ++ "`")

/-- The entry of an auth method, listed with or without a final slash. -/
def authMethodAt (authMethods : TextMap MountInfo) (path : Str) : Option MountInfo :=
  (authMethods.lookup (path ++ ['/'])).or (authMethods.lookup path)

def ensureAuthMethod (path expectedType : Str) (request : AuthEnableRequest) :
    Action BootstrapStepStatus :=
  listAuthMethods.andThen fun authMethods =>
    match authMethodAt authMethods path with
    | some auth =>
      if auth.backendType ≠ expectedType then
        fail (backendTypeError "auth method" path auth.backendType expectedType)
      else succeed .unchanged
    | none => (enableAuthMethod path request).bind fun
      | .ok _ => listAuthMethods.andThen fun authMethods =>
        match authMethodAt authMethods path with
        | none => fail bootstrapContentionError
        | some auth =>
          if auth.backendType ≠ expectedType then fail bootstrapContentionError
          else succeed .created
      | .error error =>
        if isCreationRaceResponse error then
          listAuthMethods.andThen fun authMethods =>
            match authMethodAt authMethods path with
            | some auth => if auth.backendType = expectedType then succeed .unchanged else fail error
            | none => fail error
        else fail error

/-- A mount's option as text. -/
def mountOption (mount : MountInfo) (key : Str) : Option Str :=
  mount.options.bind fun options => options.lookup key

/-- An expected option that the mount does not have. -/
def missingOption (mount : MountInfo) (expectedOption : Option (Str × Str)) : Option (Str × Str) :=
  expectedOption.filter fun option => mountOption mount option.1 ≠ some option.2

def ensureMount (path expectedType : Str) (expectedOption : Option (Str × Str))
    (request : MountEnableRequest) : Action BootstrapStepStatus :=
  (readMount path).bind fun
    | .ok mount =>
      if mount.backendType ≠ expectedType then
        fail (backendTypeError "mount" path mount.backendType expectedType)
      else match missingOption mount expectedOption with
        | some option => fail (mountOptionError path option)
        | none => succeed .unchanged
    | .error error =>
      if error.isNotFound then (enableMount path request).bind fun
        | .ok _ => (readMount path).andThen fun mount =>
          if mount.backendType ≠ expectedType then fail bootstrapContentionError
          else match missingOption mount expectedOption with
            | some _ => fail bootstrapContentionError
            | none => succeed .created
        | .error error =>
          if isCreationRaceResponse error then (readMount path).bind fun
            | .ok mount =>
              if mount.backendType = expectedType ∧ missingOption mount expectedOption = none then
                succeed .unchanged
              else fail error
            | .error readError => if readError.isNotFound then fail error else fail readError
          else fail error
      else fail error

def ensureTransitKey (mount name : Str) (request : TransitCreateKeyRequest) :
    Action BootstrapStepStatus :=
  (readKey mount name).bind fun
    | .ok _ => succeed .unchanged
    | .error error =>
      if error.isNotFound then (createKey mount name request).bind fun
        | .ok _ => succeed .created
        | .error error =>
          if isCreationRaceResponse error then (readKey mount name).bind fun
            | .ok _ => succeed .unchanged
            | .error readError => if readError.isNotFound then fail error else fail readError
          else fail error
      else fail error

/-- Write an object and read it again. -/
def writeAndVerify (kind : ObjectKind) (address : ObjectAddress) (desired : kind.Desired)
    (status : BootstrapStepStatus) : Action BootstrapStepStatus :=
  (writeObject kind address desired).andThen fun _ =>
    (readObject kind address).andThen fun verification =>
      if kind.matchesDesired verification desired then succeed status
      else fail bootstrapContentionError

/-- The steps of the policies, roles, entities and groups. -/
def ensureObject (kind : ObjectKind) (address : ObjectAddress) (desired : kind.Desired) :
    Action BootstrapStepStatus :=
  (readObject kind address).bind fun
    | .ok existing =>
      match kind.unsafeConfiguration existing with
      | some message => fail (.unsafeBootstrapConfiguration message)
      | none =>
        if kind.matchesDesired existing desired then succeed .unchanged
        else writeAndVerify kind address desired .updated
    | .error error =>
      if error.isNotFound then writeAndVerify kind address desired .created else fail error

def needsPatch (current : Option Kv2Secret) (values : TextMap Str) : Bool :=
  match current with
  | none => true
  | some secret => values.entries.any fun entry =>
    (secret.data.lookup entry.1).all fun current => !secretValuesEqual current entry.2

def secretPatchPayload (values : TextMap Str) : TextMap Str := values

/-- The part of the step behind the read. -/
def convergeSecret (mount path : Str) (values : TextMap Str) (current : Option Kv2Secret) :
    Action BootstrapStepStatus :=
  if needsPatch current values then
    match current with
    | some current =>
      (patchWithOptions mount path (secretPatchPayload values)
        (some ⟨some current.version⟩)).andThen fun _ => succeed .updated
    | none =>
      (writeWithOptions mount path (secretPatchPayload values) (some ⟨some 0⟩)).andThen
        fun _ => succeed .created
  else succeed .unchanged

/-- An absent secret is always written. -/
theorem convergeSecret_none (mount path : Str) (values : TextMap Str) :
    convergeSecret mount path values none =
      (writeWithOptions mount path (secretPatchPayload values) (some ⟨some 0⟩)).andThen
        fun _ => succeed .created := rfl

def ensureSecretValues (mount path : Str) (values : TextMap Str) : Action BootstrapStepStatus :=
  (readSecret mount path).bind fun
    | .ok secret => convergeSecret mount path values (some secret)
    | .error error => if error.isNotFound then convergeSecret mount path values none else fail error

namespace BootstrapReport

/-- The report with one more step. -/
def record (report : BootstrapReport) (targetType : String) (target : Str)
    (status : Action BootstrapStepStatus) : Action BootstrapReport :=
  status.andThen fun status =>
    succeed { report with steps := report.steps ++ [⟨targetType, target, status⟩] }

/-- Every step found matching state. -/
def isConverged (report : BootstrapReport) : Bool := report.steps.all (·.status = .unchanged)

end BootstrapReport

/-- The target of a step at a mount. -/
def targetAt (mount name : Str) : Str := mount ++ '/' :: name

def runOperation (report : BootstrapReport) : BootstrapOperation → Action BootstrapReport
  | .authMethod path backendType description =>
    report.record "auth_method" path (ensureAuthMethod path backendType
      ((AuthEnableRequest.new backendType).withOptionalDescription description))
  | .kv2Mount path description =>
    report.record "kv2_mount" path (ensureMount path "kv".toList
      (some ("version".toList, "2".toList))
      (MountEnableRequest.kv2.withOptionalDescription description))
  | .transitMount path description =>
    report.record "transit_mount" path (ensureMount path "transit".toList none
      ((MountEnableRequest.new "transit".toList).withOptionalDescription description))
  | .pkiMount path description =>
    report.record "pki_mount" path (ensureMount path "pki".toList none
      ((MountEnableRequest.new "pki".toList).withOptionalDescription description))
  | .databaseMount path description =>
    report.record "database_mount" path (ensureMount path "database".toList none
      ((MountEnableRequest.new "database".toList).withOptionalDescription description))
  | .sshMount path description =>
    report.record "ssh_mount" path (ensureMount path "ssh".toList none
      ((MountEnableRequest.new "ssh".toList).withOptionalDescription description))
  | .transitKey mount name request =>
    report.record "transit_key" (targetAt mount name) (ensureTransitKey mount name request)
  | .policy name policy => report.record "policy" name (ensureObject .policy ⟨none, name⟩ policy)
  | .kv2SecretValues mount path values =>
    report.record "kv2_secret" (targetAt mount path) (ensureSecretValues mount path values)
  | .pkiRole mount name role =>
    report.record "pki_role" (targetAt mount name) (ensureObject .pkiRole ⟨mount, name⟩ role)
  | .databaseRole mount name role =>
    report.record "database_role" (targetAt mount name)
      (ensureObject .databaseRole ⟨mount, name⟩ role)
  | .databaseStaticRole mount name role =>
    report.record "database_static_role" (targetAt mount name)
      (ensureObject .databaseStaticRole ⟨mount, name⟩ role)
  | .sshRole mount name request =>
    report.record "ssh_role" (targetAt mount name) (ensureObject .sshRole ⟨mount, name⟩ request)
  | .identityEntity mount name request =>
    report.record "identity_entity" (targetAt mount name)
      (ensureObject .identityEntity ⟨mount, name⟩ request)
  | .identityGroup mount name request =>
    report.record "identity_group" (targetAt mount name)
      (ensureObject .identityGroup ⟨mount, name⟩ request)
  | .serviceToken name request =>
    (createToken request).andThen fun auth =>
      succeed { report with
        steps := report.steps ++ [⟨"service_token", name, .issued⟩]
        issuedTokens := report.issuedTokens ++ [⟨name, auth⟩] }
  | .approleRole mount name request =>
    report.record "approle_role" (targetAt mount name)
      (ensureObject .approleRole ⟨mount, name⟩ request)
  | .approleSecretId name mount roleName request =>
    (generateSecretId mount roleName request).andThen fun secretId =>
      succeed { report with
        steps := report.steps ++
          [⟨"approle_secret_id", targetAt mount (targetAt roleName name), .issued⟩]
        issuedApproleSecretIds := report.issuedApproleSecretIds ++ [⟨name, secretId⟩] }

/-- `AdminBootstrap::run`. -/
def run (plan : AdminBootstrap) : Action BootstrapReport :=
  Prog.traverse runOperation plan.operations {}

section Record

variable {σ : Type} {env : Environment Answer σ} {s s' : σ}

/-- Recording a step adds no request. -/
theorem exec_record_iff {report : BootstrapReport} {targetType : String} {target : Str}
    {p : Action BootstrapStepStatus} {trace : List (Event Answer σ)}
    {result : Except Error BootstrapReport} :
    Exec env s (report.record targetType target p) trace result s' ↔
      ∃ r, Exec env s p trace r s' ∧ result = r.map fun status =>
        { report with steps := report.steps ++ [⟨targetType, target, status⟩] } :=
  exec_andThen_done_iff

/-- A request whose success ends the program. -/
theorem exec_call_succeed {α : Type} {request : BootstrapRequest} {f : Reply request → α}
    {trace : List (Event Answer σ)} {result : Except Error α}
    (h : Exec env s ((Prog.call request : Action (Reply request)).andThen fun reply =>
      succeed (f reply)) trace result s') :
    ∃ s₁ answer, env.others s s₁ ∧ env.serves s₁ request answer s' ∧
      trace = [⟨request, s₁, answer, s'⟩] ∧ result = answer.map f := by
  obtain ⟨answer, hcall, hresult⟩ := exec_andThen_done_iff.mp h
  obtain ⟨s₁, _, _, _, hothers, hserves, hdone, rfl⟩ := exec_send_iff.mp hcall
  obtain ⟨rfl, rfl, rfl⟩ := exec_done_iff.mp hdone
  exact ⟨s₁, answer, hothers, hserves, rfl, hresult⟩

theorem ok_eq_map {α β ε : Type} {f : α → β} {b : β} {r : Except ε α}
    (h : Except.ok b = r.map f) : ∃ a, r = .ok a ∧ b = f a := by
  cases r with
  | error e => cases h
  | ok a => exact ⟨a, rfl, Except.ok.inj h⟩

end Record

end OpenBao.BootstrapRun
