import OpenBao.BootstrapTruth

/-!
# The objects of a plan

Every operation but those that issue credentials has one object. Its requests read or
write that object only, and a write changes nothing else.
-/

namespace OpenBao.BootstrapObjects
open BootstrapComparisons BootstrapPlan BootstrapRecords BootstrapRun BootstrapServer
open BootstrapTruth RequestPrograms Utf8Text

inductive BootstrapObject where
  | authMethod (path : Str)
  | mount (path : Str)
  | key (mount name : Str)
  | object (kind : ObjectKind) (address : ObjectAddress)
  | secret (mount path : Str)
  deriving DecidableEq

/-- The object of an operation; issuing a credential has none. -/
def objectOf : BootstrapOperation → Option BootstrapObject
  | .authMethod path _ _ => some (.authMethod path)
  | .kv2Mount path _ => some (.mount path)
  | .transitMount path _ => some (.mount path)
  | .pkiMount path _ => some (.mount path)
  | .databaseMount path _ => some (.mount path)
  | .sshMount path _ => some (.mount path)
  | .transitKey mount name _ => some (.key mount name)
  | .policy name _ => some (.object .policy ⟨none, name⟩)
  | .kv2SecretValues mount path _ => some (.secret mount path)
  | .pkiRole mount name _ => some (.object .pkiRole ⟨mount, name⟩)
  | .databaseRole mount name _ => some (.object .databaseRole ⟨mount, name⟩)
  | .databaseStaticRole mount name _ => some (.object .databaseStaticRole ⟨mount, name⟩)
  | .sshRole mount name _ => some (.object .sshRole ⟨mount, name⟩)
  | .identityEntity mount name _ => some (.object .identityEntity ⟨mount, name⟩)
  | .identityGroup mount name _ => some (.object .identityGroup ⟨mount, name⟩)
  | .approleRole mount name _ => some (.object .approleRole ⟨mount, name⟩)
  | .serviceToken .. => none
  | .approleSecretId .. => none

/-- The read of an object. -/
def readOf : BootstrapObject → BootstrapRequest
  | .authMethod _ => .listAuthMethods
  | .mount path => .readMount path
  | .key mount name => .readKey mount name
  | .object kind address => .readObject kind address
  | .secret mount path => .readSecret mount path

/-- The object that a request writes. -/
def writtenBy : BootstrapRequest → Option BootstrapObject
  | .enableAuthMethod path _ => some (.authMethod path)
  | .enableMount path _ => some (.mount path)
  | .createKey mount name _ => some (.key mount name)
  | .writeObject kind address _ => some (.object kind address)
  | .writeSecret mount path _ _ => some (.secret mount path)
  | .patchSecret mount path _ _ => some (.secret mount path)
  | _ => none

/-- A request for a credential. -/
def issues : BootstrapRequest → Bool
  | .createToken _ | .generateSecretId .. => true
  | _ => false

def Concerns (object : BootstrapObject) (request : BootstrapRequest) : Prop :=
  request = readOf object ∨ writtenBy request = some object

/-! ## The requests of an operation -/

theorem ensureAuthMethod_sends (path expectedType : Str) (request : AuthEnableRequest) :
    (ensureAuthMethod path expectedType request).Sends (Concerns (.authMethod path)) := by
  refine sends_andThen (sends_call (.inl rfl)) fun authMethods => ?_
  cases authMethodAt authMethods path with
  | some auth => dsimp only; split_ifs <;> trivial
  | none =>
    refine sends_bind (sends_call (.inr rfl)) fun answer => ?_
    cases answer with
    | ok _ =>
      refine sends_andThen (sends_call (.inl rfl)) fun authMethods => ?_
      cases authMethodAt authMethods path with
      | none => trivial
      | some auth => dsimp only; split_ifs <;> trivial
    | error error =>
      dsimp only
      split_ifs
      · refine sends_andThen (sends_call (.inl rfl)) fun authMethods => ?_
        cases authMethodAt authMethods path with
        | none => trivial
        | some auth => dsimp only; split_ifs <;> trivial
      · trivial

theorem ensureMount_sends (path expectedType : Str) (expectedOption : Option (Str × Str))
    (request : MountEnableRequest) :
    (ensureMount path expectedType expectedOption request).Sends (Concerns (.mount path)) := by
  refine sends_bind (sends_call (.inl rfl)) fun answer => ?_
  cases answer with
  | ok mount =>
    dsimp only
    split_ifs
    · trivial
    · cases missingOption mount expectedOption <;> trivial
  | error error =>
    dsimp only
    split_ifs
    · refine sends_bind (sends_call (.inr rfl)) fun answer => ?_
      cases answer with
      | ok _ =>
        refine sends_andThen (sends_call (.inl rfl)) fun mount => ?_
        split_ifs
        · trivial
        · cases missingOption mount expectedOption <;> trivial
      | error error =>
        dsimp only
        split_ifs
        · refine sends_bind (sends_call (.inl rfl)) fun answer => ?_
          cases answer <;> dsimp only <;> split_ifs <;> trivial
        · trivial
    · trivial

theorem ensureTransitKey_sends (mount name : Str) (request : TransitCreateKeyRequest) :
    (ensureTransitKey mount name request).Sends (Concerns (.key mount name)) := by
  refine sends_bind (sends_call (.inl rfl)) fun answer => ?_
  cases answer with
  | ok key => trivial
  | error error =>
    dsimp only
    split_ifs
    · refine sends_bind (sends_call (.inr rfl)) fun answer => ?_
      cases answer with
      | ok _ => trivial
      | error error =>
        dsimp only
        split_ifs
        · refine sends_bind (sends_call (.inl rfl)) fun answer => ?_
          cases answer with
          | ok key => trivial
          | error readError => dsimp only; split_ifs <;> trivial
        · trivial
    · trivial

theorem writeAndVerify_sends (kind : ObjectKind) (address : ObjectAddress)
    (desired : kind.Desired) (status : BootstrapStepStatus) :
    (writeAndVerify kind address desired status).Sends (Concerns (.object kind address)) := by
  refine sends_andThen (sends_call (.inr rfl)) fun _ => ?_
  refine sends_andThen (sends_call (.inl rfl)) fun _ => ?_
  split_ifs <;> trivial

theorem ensureObject_sends (kind : ObjectKind) (address : ObjectAddress)
    (desired : kind.Desired) :
    (ensureObject kind address desired).Sends (Concerns (.object kind address)) := by
  refine sends_bind (sends_call (.inl rfl)) fun answer => ?_
  cases answer with
  | ok existing =>
    dsimp only
    cases kind.unsafeConfiguration existing with
    | some message => trivial
    | none =>
      dsimp only
      split_ifs
      · trivial
      · exact writeAndVerify_sends kind address desired _
  | error error =>
    dsimp only
    split_ifs
    · exact writeAndVerify_sends kind address desired _
    · trivial

theorem convergeSecret_sends (mount path : Str) (values : TextMap Str)
    (current : Option Kv2Secret) :
    (convergeSecret mount path values current).Sends (Concerns (.secret mount path)) := by
  cases current with
  | none =>
    rw [convergeSecret_none]
    exact sends_andThen (sends_call (.inr rfl)) fun _ => trivial
  | some secret =>
    simp only [convergeSecret]
    split_ifs
    · exact sends_andThen (sends_call (.inr rfl)) fun _ => trivial
    · trivial

theorem ensureSecretValues_sends (mount path : Str) (values : TextMap Str) :
    (ensureSecretValues mount path values).Sends (Concerns (.secret mount path)) := by
  refine sends_bind (sends_call (.inl rfl)) fun answer => ?_
  cases answer with
  | ok secret => exact convergeSecret_sends mount path values _
  | error error =>
    dsimp only
    split_ifs
    · exact convergeSecret_sends mount path values _
    · trivial

/-- The requests of an operation concern its object, or ask for its credential. -/
def RequestOf (operation : BootstrapOperation) (request : BootstrapRequest) : Prop :=
  match objectOf operation with
  | some object => Concerns object request
  | none => issues request = true

theorem record_sends {Q : BootstrapRequest → Prop} {report : BootstrapReport}
    {targetType : String} {target : Str} {p : Action BootstrapStepStatus} (hp : p.Sends Q) :
    (report.record targetType target p).Sends Q := sends_andThen hp fun _ => trivial

theorem runOperation_sends (report : BootstrapReport) (operation : BootstrapOperation) :
    (runOperation report operation).Sends (RequestOf operation) := by
  cases operation with
  | authMethod path backendType description =>
    exact record_sends (ensureAuthMethod_sends path _ _)
  | kv2Mount path | transitMount path | pkiMount path | databaseMount path | sshMount path =>
    exact record_sends (ensureMount_sends path _ _ _)
  | transitKey mount name request => exact record_sends (ensureTransitKey_sends mount name _)
  | kv2SecretValues mount path values =>
    exact record_sends (ensureSecretValues_sends mount path values)
  | policy | pkiRole | databaseRole | databaseStaticRole | sshRole | identityEntity
  | identityGroup | approleRole => exact record_sends (ensureObject_sends _ _ _)
  | serviceToken name request => exact sends_andThen (sends_call rfl) fun _ => trivial
  | approleSecretId name mount roleName request =>
    exact sends_andThen (sends_call rfl) fun _ => trivial

theorem writtenBy_readOf (object : BootstrapObject) : writtenBy (readOf object) = none := by
  cases object <;> rfl

theorem writtenBy_of_isRead {request : BootstrapRequest} (h : isRead request = true) :
    writtenBy request = none := by
  cases request with
  | listAuthMethods | readMount | readKey | readObject | readSecret => rfl
  | _ => cases h

theorem isRead_readOf (object : BootstrapObject) : isRead (readOf object) = true := by
  cases object <;> rfl

/-- The only read that concerns an object is its own. -/
theorem RequestOf.eq_readOf {operation : BootstrapOperation} {request : BootstrapRequest}
    {object : BootstrapObject} (h : RequestOf operation request) (hread : isRead request = true)
    (hobject : objectOf operation = some object) : request = readOf object := by
  unfold RequestOf at h
  rw [hobject] at h
  rcases h with h | h
  · exact h
  · rw [writtenBy_of_isRead hread] at h
    cases h

theorem issues_iff {operation : BootstrapOperation} :
    Issues operation ↔ objectOf operation = none := by
  cases operation <;> simp [Issues, objectOf]

theorem isRead_of_issues {request : BootstrapRequest} (h : issues request = true) :
    ¬ isRead request = true := by
  cases request with
  | createToken | generateSecretId => exact Bool.false_ne_true
  | _ => cases h

theorem writtenBy_of_issues {request : BootstrapRequest} (h : issues request = true) :
    writtenBy request = none := by
  cases request with
  | createToken | generateSecretId => rfl
  | _ => cases h

/-- An operation writes no object but its own. -/
theorem RequestOf.objectOf_eq {operation : BootstrapOperation} {request : BootstrapRequest}
    {object : BootstrapObject} (h : RequestOf operation request)
    (hwritten : writtenBy request = some object) : objectOf operation = some object := by
  unfold RequestOf at h
  cases hobject : objectOf operation with
  | some object' =>
    rw [hobject] at h
    rcases h with rfl | h
    · rw [writtenBy_readOf] at hwritten
      cases hwritten
    · exact h ▸ hwritten
  | none =>
    rw [hobject] at h
    rw [writtenBy_of_issues h] at hwritten
    cases hwritten

/-! ## What a request leaves alone -/

/-- A read leaves the state alone. -/
theorem serves_read {backend : Backend} {s s' : Server} {request : BootstrapRequest}
    {answer : Answer request} (hread : isRead request = true)
    (hserves : serves backend s request answer s') : s' = s := by
  cases request with
  | listAuthMethods | readMount | readKey | readObject | readSecret => exact hserves.1
  | _ => cases hread

/-- The object is the same in both states. -/
def SameAt (s s' : Server) : BootstrapObject → Prop
  | .authMethod path => authMethodAt s'.authMethods path = authMethodAt s.authMethods path
  | .mount path => s'.mounts path = s.mounts path
  | .key mount name => s'.transitKeys mount name = s.transitKeys mount name
  | .object kind address => s'.objects kind address = s.objects kind address
  | .secret mount path => s'.secrets mount path = s.secrets mount path

/-- The path of an auth method does not end with a slash. -/
def Canonical : BootstrapObject → Prop
  | .authMethod path => path.getLast? ≠ some '/'
  | _ => True

theorem SameAt.refl (s : Server) (object : BootstrapObject) : SameAt s s object := by
  cases object <;> rfl

theorem SameAt.trans {s₁ s₂ s₃ : Server} {object : BootstrapObject} (h : SameAt s₁ s₂ object)
    (h' : SameAt s₂ s₃ object) : SameAt s₁ s₃ object := by
  cases object <;> exact Eq.trans h' h

theorem authMethodAt_insert_of_ne {authMethods : TextMap MountInfo} {path path' : Str}
    {info : MountInfo} (hpath : path.getLast? ≠ some '/') (hne : path ≠ path') :
    authMethodAt (authMethods.insert (path' ++ ['/']) info) path =
      authMethodAt authMethods path := by
  have hslash : path ++ ['/'] ≠ path' ++ ['/'] := fun h => hne (List.append_cancel_right h)
  have hplain : path ≠ path' ++ ['/'] := by
    rintro rfl
    exact hpath (by simp)
  rw [authMethodAt, AList.lookup_insert_ne hslash, AList.lookup_insert_ne hplain, authMethodAt]

section Frames

variable {s : Server} {object : BootstrapObject}

theorem sameAt_setAuthMethod {path : Str} {info : MountInfo} (hobject : Canonical object)
    (h : object ≠ .authMethod path) : SameAt s (s.setAuthMethod path info) object := by
  cases object with
  | authMethod path' =>
    exact authMethodAt_insert_of_ne hobject fun hpath => h (congrArg _ hpath)
  | mount | key | object | secret => rfl

theorem sameAt_setMount {path : Str} {info : MountInfo} (h : object ≠ .mount path) :
    SameAt s (s.setMount path info) object := by
  cases object with
  | mount path' =>
    exact Function.update_of_ne (fun hpath => h (congrArg _ hpath)) _ _
  | authMethod | key | object | secret => rfl

theorem sameAt_setKey {mount name : Str} {info : TransitKeyInfo} (h : object ≠ .key mount name) :
    SameAt s (s.setKey mount name info) object := by
  cases object with
  | key mount' name' =>
    by_cases hm : mount' = mount
    · subst hm
      have hn : name' ≠ name := fun hn => h (congrArg _ hn)
      simp [SameAt, Server.setKey, hn]
    · simp [SameAt, Server.setKey, hm]
  | authMethod | mount | object | secret => rfl

theorem sameAt_setObject {kind : ObjectKind} {address : ObjectAddress} {existing : kind.Existing}
    (h : object ≠ .object kind address) : SameAt s (s.setObject kind address existing) object := by
  cases object with
  | object kind' address' =>
    by_cases hk : kind' = kind
    · subst hk
      have ha : address' ≠ address := fun ha => h (congrArg _ ha)
      simp [SameAt, Server.setObject, ha]
    · simp [SameAt, Server.setObject, hk]
  | authMethod | mount | key | secret => rfl

theorem sameAt_setSecret {mount path : Str} {cell : VersionedCells.Cell KvData}
    (h : object ≠ .secret mount path) : SameAt s (s.setSecret mount path cell) object := by
  cases object with
  | secret mount' path' =>
    refine Server.setSecret_secrets_of_ne s cell ?_
    rintro ⟨rfl, rfl⟩
    exact h rfl
  | authMethod | mount | key | object => rfl

/-- Issuing a credential leaves the state alone. -/
theorem serves_issues_iff {backend : Backend} {s' : Server} {request : BootstrapRequest}
    {answer : Answer request} (h : issues request = true) :
    serves backend s request answer s' ↔ s' = s := by
  cases request with
  | createToken | generateSecretId => exact Iff.rfl
  | _ => cases h

/-- A request changes at most the object that it writes. -/
theorem serves_sameAt (object : BootstrapObject) {backend : Backend} {s' : Server}
    {request : BootstrapRequest} {answer : Answer request}
    (hserves : serves backend s request answer s') (hobject : Canonical object)
    (h : writtenBy request ≠ some object) :
    SameAt s s' object := by
  have hne : ∀ written, writtenBy request = some written → object ≠ written := by
    rintro written hw rfl
    exact h hw
  cases request with
  | listAuthMethods => exact hserves.1 ▸ .refl _ _
  | readMount path => exact hserves.1 ▸ .refl _ _
  | readKey mount name => exact hserves.1 ▸ .refl _ _
  | readObject kind address => exact hserves.1 ▸ .refl _ _
  | readSecret mount path => exact hserves.1 ▸ .refl _ _
  | createToken request => exact (show s' = s from hserves) ▸ .refl _ _
  | generateSecretId mount roleName request => exact (show s' = s from hserves) ▸ .refl _ _
  | enableAuthMethod path request =>
    obtain ⟨rfl, -⟩ | ⟨-, rfl⟩ := Applied.cases hserves
    · exact .refl _ _
    · exact sameAt_setAuthMethod hobject (hne _ rfl)
  | enableMount path request =>
    obtain ⟨rfl, -⟩ | ⟨-, rfl⟩ := Applied.cases hserves
    · exact .refl _ _
    · exact sameAt_setMount (hne _ rfl)
  | createKey mount name request =>
    obtain ⟨rfl, -⟩ | ⟨-, rfl⟩ := Applied.cases hserves
    · exact .refl _ _
    · exact sameAt_setKey (hne _ rfl)
  | writeObject kind address desired =>
    obtain ⟨rfl, -⟩ | ⟨-, rfl⟩ := Applied.cases hserves
    · exact .refl _ _
    · exact sameAt_setObject (hne _ rfl)
  | writeSecret mount path data options =>
    obtain ⟨rfl, -⟩ | ⟨-, rfl⟩ := Applied.cases hserves
    · exact .refl _ _
    · exact sameAt_setSecret (hne _ rfl)
  | patchSecret mount path data options =>
    obtain ⟨rfl, -⟩ | ⟨-, rfl⟩ := Applied.cases hserves
    · exact .refl _ _
    · exact sameAt_setSecret (hne _ rfl)

end Frames

end OpenBao.BootstrapObjects
