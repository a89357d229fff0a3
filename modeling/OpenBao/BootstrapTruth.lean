import OpenBao.BootstrapServer

/-!
# What bootstrap reports promise

Whatever other clients do, a step that a successful run reports found its desired
state at the step's last request.
-/

namespace OpenBao.BootstrapTruth
open BootstrapComparisons BootstrapPlan BootstrapRecords BootstrapRun BootstrapServer
open RequestPrograms Utf8Text VersionedCells

/-- A server with arbitrary other clients. -/
def environment (backend : Backend) (others : Server → Server → Prop) :
    Environment Answer Server := ⟨serves backend, others⟩

def isRead : BootstrapRequest → Bool
  | .listAuthMethods | .readMount _ | .readKey .. | .readObject .. | .readSecret .. => true
  | _ => false

/-! ## The desired state of a step -/

def MountHolds (s : Server) (path expectedType : Str) (expectedOption : Option (Str × Str)) : Prop :=
  ∃ mount, s.mounts path = some mount ∧ mount.backendType = expectedType ∧
    missingOption mount expectedOption = none

def ObjectHolds (s : Server) (kind : ObjectKind) (address : ObjectAddress)
    (desired : kind.Desired) : Prop :=
  ∃ existing, s.objects kind address = some existing ∧ kind.matchesDesired existing desired = true

/-- Every value of the plan equals the stored string. -/
def SecretHolds (s : Server) (mount path : Str) (values : TextMap Str) : Prop :=
  ∃ data, (s.secrets mount path).value = some data ∧ ∀ entry ∈ values.entries,
    ∃ current, data entry.1 = some (.text current) ∧ secretValuesEqual current entry.2 = true

/-- The desired state as the step's own comparison judges it. Issuing a credential
desires nothing of the state. -/
def Holds (s : Server) : BootstrapOperation → Prop
  | .authMethod path backendType _ =>
    ∃ auth, authMethodAt s.authMethods path = some auth ∧ auth.backendType = backendType
  | .kv2Mount path _ => MountHolds s path "kv".toList (some ("version".toList, "2".toList))
  | .transitMount path _ => MountHolds s path "transit".toList none
  | .pkiMount path _ => MountHolds s path "pki".toList none
  | .databaseMount path _ => MountHolds s path "database".toList none
  | .sshMount path _ => MountHolds s path "ssh".toList none
  | .transitKey mount name _ => ∃ key, s.transitKeys mount name = some key
  | .policy name policy => ObjectHolds s .policy ⟨none, name⟩ policy
  | .kv2SecretValues mount path values => SecretHolds s mount path values
  | .pkiRole mount name role => ObjectHolds s .pkiRole ⟨mount, name⟩ role
  | .databaseRole mount name role => ObjectHolds s .databaseRole ⟨mount, name⟩ role
  | .databaseStaticRole mount name role => ObjectHolds s .databaseStaticRole ⟨mount, name⟩ role
  | .sshRole mount name request => ObjectHolds s .sshRole ⟨mount, name⟩ request
  | .identityEntity mount name request => ObjectHolds s .identityEntity ⟨mount, name⟩ request
  | .identityGroup mount name request => ObjectHolds s .identityGroup ⟨mount, name⟩ request
  | .approleRole mount name request => ObjectHolds s .approleRole ⟨mount, name⟩ request
  | .serviceToken .. => True
  | .approleSecretId .. => True

/-- The steps whose accepted write needs no second read. -/
def ConfirmedByWrite : BootstrapOperation → Prop
  | .transitKey .. => True
  | .kv2SecretValues .. => True
  | _ => False

def Issues : BootstrapOperation → Prop
  | .serviceToken .. => True
  | .approleSecretId .. => True
  | _ => False

/-- Why a request lets a step be reported: a read found the desired state, or an
accepted write established it. -/
inductive JustifiedBy (holds : Server → Prop) (byWrite : Prop) (status : BootstrapStepStatus)
    (e : RunEvent) : Prop where
  | read (hread : isRead e.request = true) (hok : ∃ reply, e.answer = .ok reply)
      (hholds : holds e.before)
  | write (hstatus : status ≠ .unchanged) (hbyWrite : byWrite) (hwrite : isRead e.request = false)
      (hok : ∃ reply, e.answer = .ok reply) (hholds : holds e.after)

/-! ## The programs of the steps -/

section Programs

variable {backend : Backend} {others : Server → Server → Prop}

/-- A listing of the auth methods reports the state. -/
theorem endsWith_listAuthMethods {Q : BootstrapStepStatus → RunEvent → Prop}
    {last : Option RunEvent} {f : TextMap MountInfo → Action BootstrapStepStatus}
    (h : ∀ s₁ s₂, EndsWith (environment backend others) Q
      (some ⟨.listAuthMethods, s₁, .ok s₁.authMethods, s₂⟩) (f s₁.authMethods)) :
    EndsWith (environment backend others) Q last (listAuthMethods.andThen f) := by
  refine endsWith_call_bind fun s₁ answer s₂ hserves => ?_
  cases answer with
  | error e => exact endsWith_error e
  | ok methods =>
    obtain rfl := hserves.2 methods rfl
    exact h s₁ s₂

theorem ensureAuthMethod_endsWith (path expectedType : Str) (request : AuthEnableRequest) :
    EndsWith (environment backend others)
      (JustifiedBy (fun s => ∃ auth, authMethodAt s.authMethods path = some auth ∧
        auth.backendType = expectedType) False) none
      (ensureAuthMethod path expectedType request) := by
  refine endsWith_listAuthMethods fun s₁ s₂ => ?_
  cases hauth : authMethodAt s₁.authMethods path with
  | some auth =>
    dsimp only
    split_ifs with htype
    · exact endsWith_error _
    · exact endsWith_ok (.read rfl ⟨_, rfl⟩ ⟨auth, hauth, not_not.mp htype⟩)
  | none =>
    refine endsWith_call_bind fun s₃ answer s₄ _ => ?_
    cases answer with
    | ok _ =>
      refine endsWith_listAuthMethods fun s₅ s₆ => ?_
      cases hauth : authMethodAt s₅.authMethods path with
      | none => exact endsWith_error _
      | some auth =>
        dsimp only
        split_ifs with htype
        · exact endsWith_error _
        · exact endsWith_ok (.read rfl ⟨_, rfl⟩ ⟨auth, hauth, not_not.mp htype⟩)
    | error error =>
      dsimp only
      split_ifs with hrace
      · refine endsWith_listAuthMethods fun s₅ s₆ => ?_
        cases hauth : authMethodAt s₅.authMethods path with
        | none => exact endsWith_error _
        | some auth =>
          dsimp only
          split_ifs with htype
          · exact endsWith_ok (.read rfl ⟨_, rfl⟩ ⟨auth, hauth, htype⟩)
          · exact endsWith_error _
      · exact endsWith_error _

/-- A mount that was read is judged by its type and its option. -/
theorem endsWith_readMount {path expectedType : Str} {expectedOption : Option (Str × Str)}
    {s₁ s₂ : Server} {mount : MountInfo} {status : BootstrapStepStatus} {taken : Error}
    {missing : Str × Str → Error} (hmount : s₁.mounts path = some mount) :
    EndsWith (environment backend others)
      (JustifiedBy (fun s => MountHolds s path expectedType expectedOption) False)
      (some ⟨.readMount path, s₁, .ok mount, s₂⟩)
      (if mount.backendType ≠ expectedType then fail taken
        else match missingOption mount expectedOption with
          | some option => fail (missing option)
          | none => succeed status) := by
  split_ifs with htype
  · exact endsWith_error _
  · cases hoption : missingOption mount expectedOption with
    | some option => exact endsWith_error _
    | none => exact endsWith_ok (.read rfl ⟨_, rfl⟩ ⟨mount, hmount, not_not.mp htype, hoption⟩)

theorem ensureMount_endsWith (path expectedType : Str) (expectedOption : Option (Str × Str))
    (request : MountEnableRequest) :
    EndsWith (environment backend others)
      (JustifiedBy (fun s => MountHolds s path expectedType expectedOption) False) none
      (ensureMount path expectedType expectedOption request) := by
  refine endsWith_call_bind fun s₁ answer s₂ hserves => ?_
  cases answer with
  | ok mount => exact endsWith_readMount hserves.2
  | error error =>
    dsimp only
    split_ifs with hmissing
    · refine endsWith_call_bind fun s₃ answer s₄ _ => ?_
      cases answer with
      | ok _ =>
        refine endsWith_call_bind fun s₅ answer s₆ hserves => ?_
        cases answer with
        | error e => exact endsWith_error e
        | ok mount => exact endsWith_readMount hserves.2
      | error error =>
        dsimp only
        split_ifs with hrace
        · refine endsWith_call_bind fun s₅ answer s₆ hserves => ?_
          cases answer with
          | ok mount =>
            dsimp only
            split_ifs with hmatch
            · exact endsWith_ok (.read rfl ⟨_, rfl⟩ ⟨mount, hserves.2, hmatch⟩)
            · exact endsWith_error _
          | error readError =>
            dsimp only
            split_ifs <;> exact endsWith_error _
        · exact endsWith_error _
    · exact endsWith_error _

theorem ensureTransitKey_endsWith (mount name : Str) (request : TransitCreateKeyRequest) :
    EndsWith (environment backend others)
      (JustifiedBy (fun s => ∃ key, s.transitKeys mount name = some key) True) none
      (ensureTransitKey mount name request) := by
  refine endsWith_call_bind fun s₁ answer s₂ hserves => ?_
  cases answer with
  | ok key => exact endsWith_ok (.read rfl ⟨_, rfl⟩ ⟨key, hserves.2⟩)
  | error error =>
    dsimp only
    split_ifs with hmissing
    · refine endsWith_call_bind fun s₃ answer s₄ hserves => ?_
      cases answer with
      | ok _ =>
        obtain ⟨-, rfl⟩ := hserves
        exact endsWith_ok
          (.write (by decide) trivial rfl ⟨_, rfl⟩ ⟨_, Server.setKey_transitKeys ..⟩)
      | error error =>
        dsimp only
        split_ifs with hrace
        · refine endsWith_call_bind fun s₅ answer s₆ hserves => ?_
          cases answer with
          | ok key => exact endsWith_ok (.read rfl ⟨_, rfl⟩ ⟨key, hserves.2⟩)
          | error readError =>
            dsimp only
            split_ifs <;> exact endsWith_error _
        · exact endsWith_error _
    · exact endsWith_error _

theorem writeAndVerify_endsWith (kind : ObjectKind) (address : ObjectAddress)
    (desired : kind.Desired) (status : BootstrapStepStatus) {last : Option RunEvent} :
    EndsWith (environment backend others)
      (JustifiedBy (fun s => ObjectHolds s kind address desired) False) last
      (writeAndVerify kind address desired status) := by
  refine endsWith_call_bind fun s₁ answer s₂ _ => ?_
  cases answer with
  | error e => exact endsWith_error e
  | ok _ =>
    refine endsWith_call_bind fun s₃ answer s₄ hserves => ?_
    cases answer with
    | error e => exact endsWith_error e
    | ok verification =>
      dsimp only
      split_ifs with hmatch
      · exact endsWith_ok (.read rfl ⟨_, rfl⟩ ⟨verification, hserves.2, hmatch⟩)
      · exact endsWith_error _

theorem ensureObject_endsWith (kind : ObjectKind) (address : ObjectAddress)
    (desired : kind.Desired) :
    EndsWith (environment backend others)
      (JustifiedBy (fun s => ObjectHolds s kind address desired) False) none
      (ensureObject kind address desired) := by
  refine endsWith_call_bind fun s₁ answer s₂ hserves => ?_
  cases answer with
  | ok existing =>
    dsimp only
    cases kind.unsafeConfiguration existing with
    | some message => exact endsWith_error _
    | none =>
      dsimp only
      split_ifs with hmatch
      · exact endsWith_ok (.read rfl ⟨_, rfl⟩ ⟨existing, hserves.2, hmatch⟩)
      · exact writeAndVerify_endsWith kind address desired _
  | error error =>
    dsimp only
    split_ifs
    · exact writeAndVerify_endsWith kind address desired _
    · exact endsWith_error _

/-- What a merge stores of the plan's values. -/
theorem secretHolds_merge {s : Server} {mount path : Str} {values : TextMap Str} {data : KvData}
    (hvalues : ∀ entry ∈ values.entries, byteLen entry.2 ≤ maxBootstrapSecretValueBytes) :
    SecretHolds (s.setSecret mount path
      ((s.secrets mount path).write (some (mergeValues values data)))) mount path values := by
  refine ⟨mergeValues values data, by simp, fun entry hentry => ⟨entry.2, ?_, ?_⟩⟩
  · have hl : values.lookup entry.1 = some entry.2 := AList.mem_lookup_iff.mpr hentry
    simp [mergeValues, hl]
  · exact (secretValuesEqual_iff (hvalues entry hentry)).mpr rfl

theorem needsPatch_some_eq_false_iff {secret : Kv2Secret} {values : TextMap Str} :
    needsPatch (some secret) values = false ↔ ∀ entry ∈ values.entries,
      ∃ current, secret.data.lookup entry.1 = some current ∧
        secretValuesEqual current entry.2 = true := by
  simp only [needsPatch, List.any_eq_false, Bool.not_eq_true]
  refine forall₂_congr fun entry _ => ?_
  cases secret.data.lookup entry.1 <;> simp

theorem secretHolds_of_readsAs {s : Server} {mount path : Str} {values : TextMap Str}
    {secret : Kv2Secret} (hread : ReadsAs (s.secrets mount path) secret)
    (h : needsPatch (some secret) values = false) : SecretHolds s mount path values := by
  refine ⟨_, hread.data, fun entry hentry => ?_⟩
  obtain ⟨current, hl, he⟩ := needsPatch_some_eq_false_iff.mp h entry hentry
  exact ⟨current, by rw [hl]; rfl, he⟩

theorem ensureSecretValues_endsWith (mount path : Str) {values : TextMap Str}
    (hvalues : ∀ entry ∈ values.entries, byteLen entry.2 ≤ maxBootstrapSecretValueBytes) :
    EndsWith (environment backend others)
      (JustifiedBy (fun s => SecretHolds s mount path values) True) none
      (ensureSecretValues mount path values) := by
  refine endsWith_call_bind fun s₁ answer s₂ hserves => ?_
  cases answer with
  | ok secret =>
    dsimp only [convergeSecret]
    split_ifs with hpatch
    · refine endsWith_call_bind fun s₃ answer s₄ hserves => ?_
      cases answer with
      | error e => exact endsWith_error e
      | ok _ =>
        obtain ⟨-, rfl⟩ := hserves
        exact endsWith_ok (.write (by decide) trivial rfl ⟨_, rfl⟩ (secretHolds_merge hvalues))
    · exact endsWith_ok
        (.read rfl ⟨_, rfl⟩ (secretHolds_of_readsAs hserves.2 (Bool.not_eq_true _ ▸ hpatch)))
  | error error =>
    dsimp only
    split_ifs with hmissing
    · rw [convergeSecret_none]
      refine endsWith_call_bind fun s₃ answer s₄ hserves => ?_
      cases answer with
      | error e => exact endsWith_error e
      | ok _ =>
        obtain ⟨-, rfl⟩ := hserves
        exact endsWith_ok (.write (by decide) trivial rfl ⟨_, rfl⟩ (secretHolds_merge hvalues))
    · exact endsWith_error _

/-! ## Whole runs -/

/-- A recorded step is justified as its program is. -/
theorem record_justified {env : Environment Answer Server} {holds : Server → Prop}
    {byWrite : Prop} {p : Action BootstrapStepStatus} {report report' : BootstrapReport}
    {targetType : String} {target : Str} {segment : List RunEvent} {s s' : Server}
    (hp : EndsWith env (JustifiedBy holds byWrite) none p)
    (hrun : Exec env s (report.record targetType target p) segment (.ok report') s')
    (issues : Prop) :
    ∃ step, report'.steps = report.steps ++ [step] ∧
      (¬ issues → ∃ e, segment.getLast? = some e ∧ JustifiedBy holds byWrite step.status e) := by
  obtain ⟨r, hstatus, hresult⟩ := exec_record_iff.mp hrun
  obtain ⟨status, rfl, rfl⟩ := ok_eq_map hresult
  obtain ⟨e, he, hj⟩ := hp _ _ _ _ hstatus
  rw [Option.or_none] at he
  exact ⟨_, rfl, fun _ => ⟨e, he, hj⟩⟩

theorem runOperation_justified {operation : BootstrapOperation} (ha : operation.Accepted)
    {report report' : BootstrapReport} {segment : List RunEvent} {s s' : Server}
    (hrun : Exec (environment backend others) s (runOperation report operation) segment
      (.ok report') s') :
    ∃ step, report'.steps = report.steps ++ [step] ∧
      (¬ Issues operation → ∃ e, segment.getLast? = some e ∧
        JustifiedBy (Holds · operation) (ConfirmedByWrite operation) step.status e) := by
  cases operation with
  | authMethod => exact record_justified (ensureAuthMethod_endsWith _ _ _) hrun _
  | kv2Mount | transitMount | pkiMount | databaseMount | sshMount =>
    exact record_justified (ensureMount_endsWith _ _ _ _) hrun _
  | transitKey => exact record_justified (ensureTransitKey_endsWith _ _ _) hrun _
  | kv2SecretValues => exact record_justified (ensureSecretValues_endsWith _ _ ha) hrun _
  | policy | pkiRole | databaseRole | databaseStaticRole | sshRole | identityEntity
  | identityGroup | approleRole =>
    exact record_justified (ensureObject_endsWith _ _ _) hrun _
  | serviceToken name request =>
    obtain ⟨auth, first, s₁, rest, -, hdone, -⟩ := exec_andThen_ok_iff.mp hrun
    obtain ⟨-, hreport, -⟩ := exec_done_iff.mp hdone
    obtain rfl := Except.ok.inj hreport
    exact ⟨_, rfl, fun hissues => absurd trivial hissues⟩
  | approleSecretId name mount roleName request =>
    obtain ⟨secretId, first, s₁, rest, -, hdone, -⟩ := exec_andThen_ok_iff.mp hrun
    obtain ⟨-, hreport, -⟩ := exec_done_iff.mp hdone
    obtain rfl := Except.ok.inj hreport
    exact ⟨_, rfl, fun hissues => absurd trivial hissues⟩

/-- A reported step with the requests of its operation: the last of them justifies
the report. -/
structure TruthfulStep (env : Environment Answer Server) (operation : BootstrapOperation)
    (stage : List RunEvent × BootstrapStepReport) : Prop where
  ran : ∃ report report' s s',
    Exec env s (runOperation report operation) stage.1 (.ok report') s' ∧
      report'.steps = report.steps ++ [stage.2]
  justified : ¬ Issues operation → ∃ e, stage.1.getLast? = some e ∧
    JustifiedBy (Holds · operation) (ConfirmedByWrite operation) stage.2.status e

theorem stages_truthful {operations : List BootstrapOperation} {report : BootstrapReport}
    {segments : List (List RunEvent)} {result : Except Error BootstrapReport} {s s' : Server}
    (h : Stages (environment backend others) runOperation s report operations segments result s')
    (ha : ∀ operation ∈ operations, operation.Accepted) {report' : BootstrapReport}
    (hresult : result = .ok report') :
    ∃ stages : List (List RunEvent × BootstrapStepReport), stages.map Prod.fst = segments ∧
      report'.steps = report.steps ++ stages.map Prod.snd ∧
      List.Forall₂ (TruthfulStep (environment backend others)) operations stages := by
  induction h with
  | nil s report =>
    obtain rfl := Except.ok.inj hresult
    exact ⟨[], rfl, by simp, .nil⟩
  | stop operations hstep => cases hresult
  | next hstep hrest ih =>
    obtain ⟨step, hsteps, hj⟩ := runOperation_justified (ha _ (by simp)) hstep
    obtain ⟨stages, hsegments, hreport, hall⟩ :=
      ih (fun operation hm => ha operation (List.mem_cons_of_mem _ hm)) hresult
    refine ⟨(_, step) :: stages, by rw [List.map_cons, hsegments], ?_,
      .cons ⟨⟨_, _, _, _, hstep, hsteps⟩, hj⟩ hall⟩
    rw [hreport, hsteps]
    simp

/-- Every step of a successful report is justified by the last request of its
operation, whatever other clients do in between. -/
theorem run_truthful {plan : AdminBootstrap} {s s' : Server} {trace : List RunEvent}
    {report : BootstrapReport}
    (h : Exec (environment backend others) s (run plan) trace (.ok report) s') :
    ∃ stages : List (List RunEvent × BootstrapStepReport),
      (stages.map Prod.fst).flatten = trace ∧ stages.map Prod.snd = report.steps ∧
      List.Forall₂ (TruthfulStep (environment backend others)) plan.operations stages := by
  obtain ⟨segments, rfl, hstages⟩ := exec_traverse h
  obtain ⟨stages, rfl, hsteps, hall⟩ := stages_truthful hstages plan.accepted rfl
  exact ⟨stages, rfl, by simpa using hsteps.symm, hall⟩

end Programs

/-! ## A key that is created -/

/-- A server that stores what it is asked for. -/
def plainBackend : Backend where
  authMethod request := { backendType := request.backendType, description := request.description }
  mount request :=
    { backendType := request.backendType, description := request.description
      options := some request.options }
  key name _ := { name := some name, keyType := "aes256-gcm96".toList }
  object kind _ desired :=
    match kind, desired with
    | .policy, rules => { policy := { rules } }
    | .pkiRole, role => { role }
    | .databaseRole, role => role
    | .databaseStaticRole, role => role
    | .sshRole, request => { role := { request with } }
    | .identityEntity, request =>
      { name := request.name, metadata := request.metadata, policies := request.policies
        disabled := request.disabled.getD false }
    | .identityGroup, request => { request with }
    | .approleRole, request => request

def keyPlan : AdminBootstrap :=
  ⟨[.transitKey "transit".toList "app".toList {}], by decide, by simp [BootstrapOperation.Accepted]⟩

/-- The empty server with the key of the plan. -/
def keyServer : Server :=
  Server.empty.setKey "transit".toList "app".toList (plainBackend.key "app".toList {})

/-- A missing key is created; no read follows. -/
def keyTrace : List RunEvent :=
  [⟨.readKey "transit".toList "app".toList, .empty, .error (.api 404 []), .empty⟩,
    ⟨.createKey "transit".toList "app".toList {}, .empty, .ok (), keyServer⟩]

theorem keyPlan_run :
    Exec (environment plainBackend Eq) .empty (run keyPlan) keyTrace
      (.ok { steps := [⟨"transit_key", "transit/app".toList, .created⟩] }) keyServer :=
  .send rfl ⟨rfl, fun _ => rfl⟩ (.send rfl ⟨trivial, rfl⟩ (.done _ _))

theorem run_truthful_created_key :
    ∃ stages : List (List RunEvent × BootstrapStepReport),
      (stages.map Prod.fst).flatten = keyTrace ∧
      stages.map Prod.snd = [⟨"transit_key", "transit/app".toList, .created⟩] ∧
      List.Forall₂ (TruthfulStep (environment plainBackend Eq)) keyPlan.operations stages :=
  run_truthful keyPlan_run

/-- The created key is reported although no read of the run found it, and the write
was no check-and-set. -/
theorem transitKey_created_unverified :
    ∃ (plan : AdminBootstrap) (trace : List RunEvent) (report : BootstrapReport) (s' : Server),
      Exec (environment plainBackend Eq) .empty (run plan) trace (.ok report) s' ∧
      plan.operations = [.transitKey "transit".toList "app".toList {}] ∧
      report.steps.map (·.status) = [.created] ∧
      ∀ e ∈ trace, isRead e.request = true →
        ¬ Holds e.before (.transitKey "transit".toList "app".toList {}) := by
  refine ⟨keyPlan, keyTrace, _, _, keyPlan_run, rfl, rfl, fun e he hread => ?_⟩
  rcases List.mem_cons.mp he with rfl | he
  · rintro ⟨key, hkey⟩
    cases hkey
  · obtain rfl := List.mem_singleton.mp he
    cases hread

end OpenBao.BootstrapTruth
