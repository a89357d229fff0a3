import OpenBao.BootstrapFields
import OpenBao.BootstrapKv2
import OpenBao.BootstrapQuietServer

/-!
# The preview of a plan

A preview repeats the reads of a run and reports what the run would do. On a quiet
server that stores what it is sent the prediction comes true, except where the run
refuses to replace an object with an identity-template override and where a secret was
deleted: its write expects a secret that was never written.
-/

namespace OpenBao.BootstrapPreview
open BootstrapComparisons BootstrapFields BootstrapKv2 BootstrapObjects BootstrapPlan
open BootstrapQuietServer BootstrapRecords BootstrapRun BootstrapServer BootstrapTruth
open RequestPrograms Utf8Text VersionedCells

inductive BootstrapPreviewStatus where
  | unchanged | wouldCreate | wouldUpdate | wouldIssue
  deriving DecidableEq, Repr

structure BootstrapPreviewStep where
  targetType : String
  target : Str
  status : BootstrapPreviewStatus

structure BootstrapPreviewReport where
  steps : List BootstrapPreviewStep := []

namespace BootstrapPreviewReport

/-- Every step matches and none issues a credential. -/
def isConverged (report : BootstrapPreviewReport) : Bool :=
  report.steps.all (·.status = .unchanged)

/-- The report with one more step. -/
def record (report : BootstrapPreviewReport) (targetType : String) (target : Str)
    (status : Action BootstrapPreviewStatus) : Action BootstrapPreviewReport :=
  status.andThen fun status => succeed { steps := report.steps ++ [⟨targetType, target, status⟩] }

end BootstrapPreviewReport

def previewAuthMethod (path expectedType : Str) : Action BootstrapPreviewStatus :=
  listAuthMethods.andThen fun authMethods =>
    match authMethodAt authMethods path with
    | some auth =>
      if auth.backendType ≠ expectedType then
        fail (backendTypeError "auth method" path auth.backendType expectedType)
      else succeed .unchanged
    | none => succeed .wouldCreate

def previewMount (path expectedType : Str) (expectedOption : Option (Str × Str)) :
    Action BootstrapPreviewStatus :=
  (readMount path).bind fun
    | .ok mount =>
      if mount.backendType ≠ expectedType then
        fail (backendTypeError "mount" path mount.backendType expectedType)
      else match missingOption mount expectedOption with
        | some option => fail (mountOptionError path option)
        | none => succeed .unchanged
    | .error error => if error.isNotFound then succeed .wouldCreate else fail error

def previewTransitKey (mount name : Str) : Action BootstrapPreviewStatus :=
  (readKey mount name).bind fun
    | .ok _ => succeed .unchanged
    | .error error => if error.isNotFound then succeed .wouldCreate else fail error

/-- The previews of the policies, roles, entities and groups; the override of a
readback counts as drift. -/
def previewObject (kind : ObjectKind) (address : ObjectAddress) (desired : kind.Desired) :
    Action BootstrapPreviewStatus :=
  (readObject kind address).bind fun
    | .ok existing =>
      if kind.matchesDesired existing desired then succeed .unchanged else succeed .wouldUpdate
    | .error error => if error.isNotFound then succeed .wouldCreate else fail error

/-- The part of the preview behind the read. -/
def secretStatus (values : TextMap Str) (current : Option Kv2Secret) : BootstrapPreviewStatus :=
  if needsPatch current values then
    if current.isSome then .wouldUpdate else .wouldCreate
  else .unchanged

def previewSecretValues (mount path : Str) (values : TextMap Str) :
    Action BootstrapPreviewStatus :=
  (readSecret mount path).bind fun
    | .ok secret => succeed (secretStatus values (some secret))
    | .error error => if error.isNotFound then succeed (secretStatus values none) else fail error

def previewOperation (report : BootstrapPreviewReport) :
    BootstrapOperation → Action BootstrapPreviewReport
  | .authMethod path backendType _ =>
    report.record "auth_method" path (previewAuthMethod path backendType)
  | .kv2Mount path _ =>
    report.record "kv2_mount" path
      (previewMount path "kv".toList (some ("version".toList, "2".toList)))
  | .transitMount path _ =>
    report.record "transit_mount" path (previewMount path "transit".toList none)
  | .pkiMount path _ => report.record "pki_mount" path (previewMount path "pki".toList none)
  | .databaseMount path _ =>
    report.record "database_mount" path (previewMount path "database".toList none)
  | .sshMount path _ => report.record "ssh_mount" path (previewMount path "ssh".toList none)
  | .transitKey mount name _ =>
    report.record "transit_key" (targetAt mount name) (previewTransitKey mount name)
  | .policy name policy => report.record "policy" name (previewObject .policy ⟨none, name⟩ policy)
  | .kv2SecretValues mount path values =>
    report.record "kv2_secret" (targetAt mount path) (previewSecretValues mount path values)
  | .pkiRole mount name role =>
    report.record "pki_role" (targetAt mount name) (previewObject .pkiRole ⟨mount, name⟩ role)
  | .databaseRole mount name role =>
    report.record "database_role" (targetAt mount name)
      (previewObject .databaseRole ⟨mount, name⟩ role)
  | .databaseStaticRole mount name role =>
    report.record "database_static_role" (targetAt mount name)
      (previewObject .databaseStaticRole ⟨mount, name⟩ role)
  | .sshRole mount name request =>
    report.record "ssh_role" (targetAt mount name) (previewObject .sshRole ⟨mount, name⟩ request)
  | .identityEntity mount name request =>
    report.record "identity_entity" (targetAt mount name)
      (previewObject .identityEntity ⟨mount, name⟩ request)
  | .identityGroup mount name request =>
    report.record "identity_group" (targetAt mount name)
      (previewObject .identityGroup ⟨mount, name⟩ request)
  | .serviceToken name _ => report.record "service_token" name (succeed .wouldIssue)
  | .approleRole mount name request =>
    report.record "approle_role" (targetAt mount name)
      (previewObject .approleRole ⟨mount, name⟩ request)
  | .approleSecretId name mount roleName _ =>
    report.record "approle_secret_id" (targetAt mount (targetAt roleName name))
      (succeed .wouldIssue)

/-- `AdminBootstrap::preview`. -/
def preview (plan : AdminBootstrap) : Action BootstrapPreviewReport :=
  Prog.traverse previewOperation plan.operations {}

/-! ## A server that stores what it is sent -/

/-- The status of a run that a preview announces. -/
def actual : BootstrapPreviewStatus → BootstrapStepStatus
  | .unchanged => .unchanged
  | .wouldCreate => .created
  | .wouldUpdate => .updated
  | .wouldIssue => .issued

/-- Well-formed requests that change the state or issue a credential are accepted. -/
def accepting (wellFormed : BootstrapRequest → Prop) (request : BootstrapRequest)
    (answer : Answer request) : Prop := wellFormed request → ∃ reply, answer = .ok reply

/-- What was written is read as it was sent, where the run may read at all, and no write
enables an override. -/
structure Stores (backend : Backend) (rule : ReadRule) : Prop where
  listed : ∀ methods reply, rule.answer .listAuthMethods methods = .ok reply →
    ∀ methods', rule.answer .listAuthMethods methods' = .ok methods'
  authMethodType : ∀ request, (backend.authMethod request).backendType = request.backendType
  mountType : ∀ request, (backend.mount request).backendType = request.backendType
  mountOptions : ∀ request key value, request.options.lookup key = some value →
    mountOption (backend.mount request) key = some value
  mountReadable : ∀ path, Answered (rule.answer (.readMount path) none) →
    ∀ info, rule.answer (.readMount path) (some info) = .ok info
  fieldsHeld : ∀ kind prior desired, FieldsHeld kind (backend.object kind prior desired) desired
  safe : ∀ (kind : ObjectKind) prior desired, (∀ existing ∈ prior, kind.unsafeConfiguration existing = none) →
    kind.unsafeConfiguration (backend.object kind prior desired) = none
  objectReadable : ∀ kind address prior, Answered (rule.answer (.readObject kind address) prior) →
    ∀ existing, rule.answer (.readObject kind address) (some existing) = .ok existing

/-- The states in which a preview is right: no override on the object, and a secret
without data was never written. -/
def Predictable (s : Server) (operation : BootstrapOperation) : Prop :=
  match objectOf operation with
  | some (.object kind address) =>
    ∀ existing ∈ s.objects kind address, kind.unsafeConfiguration existing = none
  | some (.secret mount path) =>
    (s.secrets mount path).value = none → (s.secrets mount path).version = 0
  | _ => True

section Prediction

variable {backend : Backend} {rule : ReadRule} {wellFormed : BootstrapRequest → Prop}

/-- The requests that a quiet server takes. -/
abbrev Taken (wellFormed : BootstrapRequest → Prop) (request : BootstrapRequest) : Prop :=
  isRead request = true ∨ wellFormed request

/-- What the answer of a preview says of the step. -/
def Predicts (env : Environment Answer Server) (s : Server) (p : Action BootstrapStepStatus) :
    Except Error BootstrapPreviewStatus → Prop
  | .ok status => Ensures env s p fun _ result _ => result = .ok (actual status)
  | .error _ => Ensures env s p fun trace result _ =>
    (∃ e, result = .error e) ∧ ∀ e ∈ trace, isRead e.request = true

/-- The preview is one read, and its result announces the step. -/
def Foretold (env : Environment Answer Server) (rule : ReadRule) (s : Server)
    (request : BootstrapRequest) (p : Action BootstrapPreviewStatus)
    (step : Action BootstrapStepStatus) : Prop :=
  ∃ r, JustReads env rule s request p r ∧ Predicts env s step r

theorem ensures_read {α : Type} {written : (request : BootstrapRequest) → Answer request → Prop}
    {request : BootstrapRequest} (hread : isRead request = true) {s : Server}
    {f : Answer request → Action α} {Q : List RunEvent → Except Error α → Server → Prop}
    (h : Ensures (quiet backend rule written) s (f (rule.answer request (view s request)))
      fun trace => Q (⟨request, s, rule.answer request (view s request), s⟩ :: trace)) :
    Ensures (quiet backend rule written) s ((Prog.call request).bind f) Q := by
  constructor
  · obtain ⟨trace, result, s', hrun⟩ := h.total
    exact ⟨_, result, s', (exec_read_iff request hread).mpr ⟨trace, hrun, rfl⟩⟩
  · intro trace result s' hrun
    obtain ⟨rest, hrest, rfl⟩ := (exec_read_iff request hread).mp hrun
    exact h.only rest result s' hrest

/-- A write that is taken and allowed is applied. -/
theorem ensures_write {α : Type} {request : BootstrapRequest} (hwrite : isRead request = false)
    (htaken : Taken wellFormed request) {s s₂ : Server} {f : Answer request → Action α}
    {Q : List RunEvent → Except Error α → Server → Prop} (reply : Reply request)
    (hserves : serves backend s request (.ok reply) s₂)
    (honly : ∀ (reply : Reply request) s', serves backend s request (.ok reply) s' → s' = s₂)
    (h : ∀ reply, Ensures (quiet backend rule (accepting wellFormed)) s₂ (f (.ok reply))
      fun trace => Q (⟨request, s, .ok reply, s₂⟩ :: trace)) :
    Ensures (quiet backend rule (accepting wellFormed)) s ((Prog.call request).bind f) Q := by
  have hnotRead : ¬ isRead request = true := by rw [hwrite]; exact Bool.false_ne_true
  refine ensures_call_bind ⟨s, .ok reply, s₂, rfl, hserves, ?_⟩ ?_
  · rw [if_neg hnotRead]
    exact fun _ => ⟨reply, rfl⟩
  · rintro s₁ answer s' rfl ⟨hserves', hanswer⟩
    rw [if_neg hnotRead] at hanswer
    obtain ⟨reply', rfl⟩ := hanswer (htaken.resolve_left hnotRead)
    obtain rfl := honly reply' s' hserves'
    exact h reply'

theorem writeAndVerify_ensures {s : Server} {kind : ObjectKind} {address : ObjectAddress}
    {desired : kind.Desired} {status : BootstrapStepStatus} (hstores : Stores backend rule)
    (hbounded : Bounded kind desired)
    (hsafe : ∀ existing ∈ s.objects kind address, kind.unsafeConfiguration existing = none)
    (hanswered : Answered (rule.answer (.readObject kind address) (s.objects kind address)))
    (hsends : (writeAndVerify kind address desired status).Sends (Taken wellFormed)) :
    Ensures (quiet backend rule (accepting wellFormed)) s
      (writeAndVerify kind address desired status) fun _ result _ => result = .ok status := by
  have hmatch := matchesDesired_of_fieldsHeld hbounded
    (hstores.safe kind (s.objects kind address) desired hsafe) (hstores.fieldsHeld _ _ _)
  refine ensures_write rfl hsends.1 () ⟨trivial, rfl⟩ (fun _ _ h => h.2) fun _ => ?_
  refine ensures_read rfl ?_
  have hanswer : rule.answer (.readObject kind address) (view (s.setObject kind address
      (backend.object kind (s.objects kind address) desired)) (.readObject kind address)) =
      .ok (backend.object kind (s.objects kind address) desired) := by
    rw [view, Server.setObject_objects]
    exact hstores.objectReadable kind address _ hanswered _
  rw [hanswer]
  dsimp only
  rw [if_pos hmatch]
  exact ensures_done rfl

section

variable {request : BootstrapRequest} {s : Server} {answer : Answer request}
  {p : Answer request → Action BootstrapPreviewStatus}
  {f : Answer request → Action BootstrapStepStatus}

/-- Behind the answer the preview ends, and the step ends as it says. -/
theorem foretold_of_ok (status : BootstrapPreviewStatus) (hread : isRead request = true)
    (hanswer : rule.answer request (view s request) = answer) (hp : p answer = succeed status)
    (hf : Ensures (quiet backend rule (accepting wellFormed)) s (f answer)
      fun _ result _ => result = .ok (actual status)) :
    Foretold (quiet backend rule (accepting wellFormed)) rule s request
      ((Prog.call request).bind p) ((Prog.call request).bind f) := by
  subst hanswer
  exact ⟨.ok status, justReads_call hread hp, ensures_read hread hf⟩

theorem foretold_of_unchanged (hread : isRead request = true)
    (hanswer : rule.answer request (view s request) = answer)
    (hp : p answer = succeed .unchanged) (hf : f answer = succeed .unchanged) :
    Foretold (quiet backend rule (accepting wellFormed)) rule s request
      ((Prog.call request).bind p) ((Prog.call request).bind f) := by
  refine foretold_of_ok .unchanged hread hanswer hp ?_
  rw [hf]
  exact ensures_done rfl

/-- Behind the answer both fail. -/
theorem foretold_of_error (e : Error) (hread : isRead request = true)
    (hanswer : rule.answer request (view s request) = answer) (hp : p answer = fail e)
    (hf : f answer = fail e) :
    Foretold (quiet backend rule (accepting wellFormed)) rule s request
      ((Prog.call request).bind p) ((Prog.call request).bind f) := by
  subst hanswer
  refine ⟨.error e, justReads_call hread hp, ensures_read hread ?_⟩
  rw [hf]
  exact ensures_done ⟨⟨e, rfl⟩, by simp [hread]⟩

end

theorem ensureObject_foretold {s : Server} {kind : ObjectKind} {address : ObjectAddress}
    {desired : kind.Desired} (hstores : Stores backend rule) (hbounded : Bounded kind desired)
    (hsafe : ∀ existing ∈ s.objects kind address, kind.unsafeConfiguration existing = none)
    (hsends : (ensureObject kind address desired).Sends (Taken wellFormed)) :
    Foretold (quiet backend rule (accepting wellFormed)) rule s (.readObject kind address)
      (previewObject kind address desired) (ensureObject kind address desired) := by
  have hfound := (rule.truthful backend s (.readObject kind address) rfl).2
  have hwrite (status : BootstrapStepStatus)
      (hanswered : Answered (rule.answer (.readObject kind address) (s.objects kind address)))
      (hsends : (writeAndVerify kind address desired status).Sends (Taken wellFormed)) :=
    writeAndVerify_ensures hstores hbounded hsafe hanswered hsends
  cases hanswer : rule.answer (.readObject kind address) (view s (.readObject kind address)) with
  | ok existing =>
    rw [hanswer] at hfound
    have hnone := hsafe existing hfound
    cases hmatch : kind.matchesDesired existing desired with
    | true => exact foretold_of_unchanged rfl hanswer (by simp [hmatch]) (by simp [hnone, hmatch])
    | false =>
      have hverify := hsends.2 (.ok existing)
      simp only [Prog.bind, hnone, hmatch, Bool.false_eq_true, ↓reduceIte] at hverify
      refine foretold_of_ok .wouldUpdate rfl hanswer (by simp [hmatch]) ?_
      simp only [hnone, hmatch, Bool.false_eq_true, ↓reduceIte]
      exact (hwrite .updated (hanswer.symm ▸ trivial) hverify).mono fun _ _ _ h => h
  | error e =>
    cases hmissing : e.isNotFound with
    | true =>
      have hverify := hsends.2 (.error e)
      simp only [Prog.bind, hmissing, ↓reduceIte] at hverify
      refine foretold_of_ok .wouldCreate rfl hanswer (if_pos hmissing) ?_
      simp only [hmissing, ↓reduceIte]
      exact (hwrite .created (hanswer.symm ▸ hmissing) hverify).mono fun _ _ _ h => h
    | false => exact foretold_of_error e rfl hanswer (by simp [hmissing]) (by simp [hmissing])

theorem ensureTransitKey_foretold {s : Server} {mount name : Str}
    {request : TransitCreateKeyRequest}
    (hsends : (ensureTransitKey mount name request).Sends (Taken wellFormed)) :
    Foretold (quiet backend rule (accepting wellFormed)) rule s (.readKey mount name)
      (previewTransitKey mount name) (ensureTransitKey mount name request) := by
  cases hanswer : rule.answer (.readKey mount name) (view s (.readKey mount name)) with
  | ok key => exact foretold_of_unchanged rfl hanswer rfl rfl
  | error e =>
    cases hmissing : e.isNotFound with
    | true =>
      have hcreate := hsends.2 (.error e)
      simp only [Prog.bind, hmissing, ↓reduceIte] at hcreate
      refine foretold_of_ok .wouldCreate rfl hanswer (if_pos hmissing) ?_
      simp only [hmissing, ↓reduceIte]
      refine ensures_write rfl hcreate.1 () ⟨trivial, rfl⟩ (fun _ _ h => h.2) fun _ => ?_
      exact ensures_done rfl
    | false => exact foretold_of_error e rfl hanswer (by simp [hmissing]) (by simp [hmissing])

theorem missingOption_eq_none {mount : MountInfo} {expectedOption : Option (Str × Str)}
    (h : ∀ option ∈ expectedOption, mountOption mount option.1 = some option.2) :
    missingOption mount expectedOption = none := by
  cases expectedOption with
  | none => rfl
  | some option => simp [missingOption, h option rfl]

theorem ensureMount_foretold {s : Server} {path expectedType : Str}
    {expectedOption : Option (Str × Str)} {request : MountEnableRequest}
    (hstores : Stores backend rule) (htype : request.backendType = expectedType)
    (hoption : ∀ option ∈ expectedOption, request.options.lookup option.1 = some option.2)
    (hsends : (ensureMount path expectedType expectedOption request).Sends (Taken wellFormed)) :
    Foretold (quiet backend rule (accepting wellFormed)) rule s (.readMount path)
      (previewMount path expectedType expectedOption)
      (ensureMount path expectedType expectedOption request) := by
  have hfound := (rule.truthful backend s (.readMount path) rfl).2
  cases hanswer : rule.answer (.readMount path) (view s (.readMount path)) with
  | ok mount =>
    by_cases hmatch : mount.backendType = expectedType
    · cases hmissing : missingOption mount expectedOption with
      | none =>
        refine foretold_of_unchanged rfl hanswer ?_ ?_
        · simp only [hmatch, hmissing, not_true_eq_false, ↓reduceIte, ne_eq]
        · simp only [hmatch, hmissing, not_true_eq_false, ↓reduceIte, ne_eq]
      | some option =>
        refine foretold_of_error (mountOptionError path option) rfl hanswer ?_ ?_
        · simp only [hmatch, hmissing, not_true_eq_false, ↓reduceIte, ne_eq]
        · simp only [hmatch, hmissing, not_true_eq_false, ↓reduceIte, ne_eq]
    · exact foretold_of_error (backendTypeError "mount" path mount.backendType expectedType) rfl
        hanswer (if_pos hmatch) (if_pos hmatch)
  | error e =>
    rw [hanswer] at hfound
    cases hmissing : e.isNotFound with
    | true =>
      have henable := hsends.2 (.error e)
      simp only [Prog.bind, hmissing, ↓reduceIte] at henable
      have hnone : s.mounts path = none := hfound hmissing
      have hanswered : Answered (rule.answer (.readMount path) none) := by
        rw [← hnone]
        exact hanswer.symm ▸ hmissing
      have hread : rule.answer (.readMount path) (view (s.setMount path (backend.mount request))
          (.readMount path)) = .ok (backend.mount request) := by
        rw [view, Server.setMount_mounts]
        exact hstores.mountReadable path hanswered _
      have hoptions : missingOption (backend.mount request) expectedOption = none :=
        missingOption_eq_none fun option ho =>
          hstores.mountOptions request option.1 option.2 (hoption option ho)
      refine foretold_of_ok .wouldCreate rfl hanswer (if_pos hmissing) ?_
      simp only [hmissing, ↓reduceIte]
      refine ensures_write rfl henable.1 () ⟨hnone, rfl⟩ (fun _ _ h => h.2) fun _ => ?_
      refine ensures_read rfl ?_
      rw [hread]
      simp only [hstores.mountType request, htype, hoptions, not_true_eq_false, ↓reduceIte, ne_eq]
      exact ensures_done rfl
    | false => exact foretold_of_error e rfl hanswer (by simp [hmissing]) (by simp [hmissing])

theorem ensureAuthMethod_foretold {s : Server} {path expectedType : Str}
    {request : AuthEnableRequest} (hstores : Stores backend rule)
    (htype : request.backendType = expectedType)
    (hsends : (ensureAuthMethod path expectedType request).Sends (Taken wellFormed)) :
    Foretold (quiet backend rule (accepting wellFormed)) rule s .listAuthMethods
      (previewAuthMethod path expectedType) (ensureAuthMethod path expectedType request) := by
  have hlisted := (rule.truthful backend s .listAuthMethods rfl).2
  cases hanswer : rule.answer .listAuthMethods (view s .listAuthMethods) with
  | error e => exact foretold_of_error e rfl hanswer rfl rfl
  | ok methods =>
    obtain rfl : s.authMethods = methods := hlisted methods hanswer
    cases hauth : authMethodAt s.authMethods path with
    | some auth =>
      by_cases hmatch : auth.backendType = expectedType
      · exact foretold_of_unchanged rfl hanswer (by simp [hauth, hmatch]) (by simp [hauth, hmatch])
      · refine foretold_of_error
          (backendTypeError "auth method" path auth.backendType expectedType) rfl hanswer ?_ ?_
        · simp only [hauth, hmatch, not_false_eq_true, ↓reduceIte, ne_eq]
        · simp only [hauth, hmatch, not_false_eq_true, ↓reduceIte, ne_eq]
    | none =>
      have henable := hsends.2 (.ok s.authMethods)
      simp only [Prog.bind, hauth] at henable
      have hread : rule.answer .listAuthMethods (view (s.setAuthMethod path
          (backend.authMethod request)) .listAuthMethods) =
          .ok (s.setAuthMethod path (backend.authMethod request)).authMethods :=
        hstores.listed _ _ hanswer _
      refine foretold_of_ok .wouldCreate rfl hanswer (by simp only [hauth]) ?_
      simp only [hauth]
      refine ensures_write rfl henable.1 () ⟨hauth, rfl⟩ (fun _ _ h => h.2) fun _ => ?_
      refine ensures_read rfl ?_
      rw [hread]
      simp only [Server.authMethodAt_setAuthMethod, hstores.authMethodType request, htype,
        not_true_eq_false, ↓reduceIte, ne_eq]
      exact ensures_done rfl

/-- A patch expects the version of the read, the first write a secret never written. -/
theorem convergeSecret_predicted {s : Server} {mount path : Str} {values : TextMap Str}
    {current : Option Kv2Secret} (hversion : ∀ secret ∈ current,
      secret.version = (s.secrets mount path).version)
    (hunwritten : current = none → (s.secrets mount path).version = 0)
    (hsends : (convergeSecret mount path values current).Sends (Taken wellFormed)) :
    Predicts (quiet backend rule (accepting wellFormed)) s
      (convergeSecret mount path values current) (.ok (secretStatus values current)) := by
  cases hpatch : needsPatch current values with
  | false =>
    simp only [Predicts, convergeSecret, secretStatus, hpatch, Bool.false_eq_true, ↓reduceIte]
    exact ensures_done rfl
  | true =>
    cases current with
    | none =>
      rw [convergeSecret_none] at hsends ⊢
      simp only [Predicts, secretStatus, hpatch, Option.isSome_none, Bool.false_eq_true,
        ↓reduceIte]
      refine ensures_write rfl hsends.1 ⟨0⟩ ⟨?_, rfl⟩ (fun _ _ h => h.2) fun _ => ensures_done rfl
      rintro _ ⟨⟩ _ ⟨⟩
      exact (hunwritten rfl).symm
    | some secret =>
      simp only [convergeSecret, hpatch, ↓reduceIte] at hsends
      simp only [Predicts, convergeSecret, secretStatus, hpatch, Option.isSome_some, ↓reduceIte]
      refine ensures_write rfl hsends.1 ⟨0⟩ ⟨?_, rfl⟩ (fun _ _ h => h.2) fun _ => ensures_done rfl
      rintro _ ⟨⟩ _ ⟨⟩
      exact hversion secret rfl

theorem ensureSecretValues_foretold {s : Server} {mount path : Str} {values : TextMap Str}
    (hunwritten : (s.secrets mount path).value = none → (s.secrets mount path).version = 0)
    (hsends : (ensureSecretValues mount path values).Sends (Taken wellFormed)) :
    Foretold (quiet backend rule (accepting wellFormed)) rule s (.readSecret mount path)
      (previewSecretValues mount path values) (ensureSecretValues mount path values) := by
  have hfound := (rule.truthful backend s (.readSecret mount path) rfl).2
  cases hanswer : rule.answer (.readSecret mount path) (view s (.readSecret mount path)) with
  | ok secret =>
    rw [hanswer] at hfound
    refine foretold_of_ok (secretStatus values (some secret)) rfl hanswer rfl ?_
    refine convergeSecret_predicted ?_ ?_ (hsends.2 (.ok secret))
    · rintro _ ⟨⟩
      exact hfound.version
    · intro hnone
      cases hnone
  | error e =>
    rw [hanswer] at hfound
    cases hmissing : e.isNotFound with
    | true =>
      have hconverge := hsends.2 (.error e)
      simp only [Prog.bind, hmissing, ↓reduceIte] at hconverge
      refine foretold_of_ok (secretStatus values none) rfl hanswer (if_pos hmissing) ?_
      simp only [hmissing, ↓reduceIte]
      refine convergeSecret_predicted ?_ (fun _ => hunwritten (hfound hmissing)) hconverge
      intro secret hsome
      cases hsome
    | false => exact foretold_of_error e rfl hanswer (by simp [hmissing]) (by simp [hmissing])

/-! ## The plan of one operation -/

/-- What the answer of a preview says of the run. -/
def Announces (env : Environment Answer Server) (s : Server) (p : Action BootstrapReport) :
    Except Error BootstrapPreviewReport → Prop
  | .ok preview => ∃ step, preview.steps = [step] ∧ Ensures env s p fun _ result _ =>
    ∃ report, result = .ok report ∧
      report.steps = [⟨step.targetType, step.target, actual step.status⟩]
  | .error _ => Ensures env s p fun trace result _ =>
    (∃ e, result = .error e) ∧ ∀ e ∈ trace, isRead e.request = true

/-- The preview leaves the state alone and announces the run. -/
def Prophetic (env : Environment Answer Server) (s : Server)
    (previewed : Action BootstrapPreviewReport) (p : Action BootstrapReport) : Prop :=
  Ensures env s previewed fun _ result s' => s' = s ∧ Announces env s p result

theorem ensures_record {env : Environment Answer Server} {s : Server}
    {p : Action BootstrapStepStatus} {report : BootstrapReport} {targetType : String} {target : Str}
    {Q : List RunEvent → Except Error BootstrapReport → Server → Prop}
    (h : Ensures env s p fun trace result s' => Q trace (result.map fun status =>
      { report with steps := report.steps ++ [⟨targetType, target, status⟩] }) s') :
    Ensures env s (report.record targetType target p) Q := by
  constructor
  · obtain ⟨trace, result, s', hrun⟩ := h.total
    exact ⟨trace, _, s', exec_record_iff.mpr ⟨result, hrun, rfl⟩⟩
  · intro trace result s' hrun
    obtain ⟨r, hr, rfl⟩ := exec_record_iff.mp hrun
    exact h.only trace r s' hr

theorem exec_previewRecord_iff {σ : Type} {env : Environment Answer σ} {s s' : σ}
    {p : Action BootstrapPreviewStatus} {report : BootstrapPreviewReport} {targetType : String}
    {target : Str} {trace : List (Event Answer σ)}
    {result : Except Error BootstrapPreviewReport} :
    Exec env s (report.record targetType target p) trace result s' ↔
      ∃ r, Exec env s p trace r s' ∧ result = r.map fun status =>
        ⟨report.steps ++ [⟨targetType, target, status⟩]⟩ :=
  exec_andThen_done_iff

/-- A step that is foretold is announced under the same target. -/
theorem record_prophetic {env : Environment Answer Server} {s : Server}
    {request : BootstrapRequest} {p : Action BootstrapPreviewStatus}
    {step : Action BootstrapStepStatus} {targetType : String} {target : Str}
    {Q : BootstrapRequest → Prop} (h : step.Sends Q → Foretold env rule s request p step)
    (hsends : (BootstrapReport.record {} targetType target step).Sends Q) :
    Prophetic env s (BootstrapPreviewReport.record {} targetType target p)
      (BootstrapReport.record {} targetType target step) := by
  obtain ⟨r, hreads, hpredicts⟩ := h (sends_of_bind hsends)
  constructor
  · exact ⟨_, _, s, exec_previewRecord_iff.mpr ⟨r, (hreads _ _ _).mpr ⟨rfl, rfl, rfl⟩, rfl⟩⟩
  · intro trace result s' hrun
    obtain ⟨r', hr, rfl⟩ := exec_previewRecord_iff.mp hrun
    obtain ⟨-, rfl, rfl⟩ := (hreads _ _ _).mp hr
    refine ⟨rfl, ?_⟩
    cases r' with
    | ok status =>
      refine ⟨⟨targetType, target, status⟩, rfl, ensures_record ?_⟩
      refine Ensures.mono hpredicts fun _ result _ hresult => ?_
      rw [hresult]
      exact ⟨_, rfl, rfl⟩
    | error e =>
      refine ensures_record (Ensures.mono hpredicts fun _ result _ hfailed => ?_)
      obtain ⟨⟨e', rfl⟩, hreads⟩ := hfailed
      exact ⟨⟨e', rfl⟩, hreads⟩

/-- A credential is announced without a request. -/
theorem issue_prophetic {s : Server} (request : BootstrapRequest) (reply : Reply request)
    {targetType : String} {target : Str} {f : Reply request → BootstrapReport}
    (hissues : issues request = true)
    (hsteps : ∀ reply, (f reply).steps = [⟨targetType, target, .issued⟩])
    (htaken : Taken wellFormed request) :
    Prophetic (quiet backend rule (accepting wellFormed)) s
      (BootstrapPreviewReport.record {} targetType target (succeed .wouldIssue))
      ((Prog.call request : Action (Reply request)).andThen fun reply => succeed (f reply)) := by
  refine ensures_done ⟨rfl, ⟨targetType, target, .wouldIssue⟩, rfl, ?_⟩
  refine ensures_write (Bool.not_eq_true _ ▸ isRead_of_issues hissues) htaken reply
    ((serves_issues_iff hissues).mpr rfl) (fun _ _ => (serves_issues_iff hissues).mp) fun reply => ?_
  exact ensures_done ⟨f reply, rfl, hsteps reply⟩

theorem previewOperation_prophetic {s : Server} {operation : BootstrapOperation}
    (hstores : Stores backend rule) (ha : operation.Accepted) (hpredictable : Predictable s operation)
    (hsends : (runOperation {} operation).Sends (Taken wellFormed)) :
    Prophetic (quiet backend rule (accepting wellFormed)) s (previewOperation {} operation)
      (runOperation {} operation) := by
  cases operation with
  | authMethod => exact record_prophetic (ensureAuthMethod_foretold hstores rfl) hsends
  | kv2Mount path description =>
    refine record_prophetic (ensureMount_foretold hstores rfl ?_) hsends
    rintro _ ⟨⟩
    rfl
  | transitMount | pkiMount | databaseMount | sshMount =>
    refine record_prophetic (ensureMount_foretold hstores rfl ?_) hsends
    rintro _ ⟨⟩
  | transitKey => exact record_prophetic ensureTransitKey_foretold hsends
  | kv2SecretValues => exact record_prophetic (ensureSecretValues_foretold hpredictable) hsends
  | policy =>
    exact record_prophetic (fun h => ensureObject_foretold hstores ha hpredictable h) hsends
  | pkiRole | databaseRole | databaseStaticRole | sshRole | identityEntity | identityGroup
  | approleRole =>
    exact record_prophetic (fun h => ensureObject_foretold hstores trivial hpredictable h) hsends
  | serviceToken name request =>
    exact issue_prophetic (.createToken request) ({ clientToken := [], accessor := [] } : TokenAuth)
      rfl (fun _ => rfl) hsends.1
  | approleSecretId name mount roleName request =>
    exact issue_prophetic (.generateSecretId mount roleName request)
      ({ secretId := [], secretIdAccessor := [] } : AppRoleSecretId) rfl (fun _ => rfl) hsends.1

/-- The preview of an operation announces what a run of it does. -/
theorem preview_announces_run {plan : AdminBootstrap} {operation : BootstrapOperation} {s : Server}
    (hplan : plan.operations = [operation]) (hstores : Stores backend rule)
    (hpredictable : Predictable s operation) (hsends : (run plan).Sends (Taken wellFormed)) :
    Prophetic (quiet backend rule (accepting wellFormed)) s (preview plan) (run plan) := by
  have ha : operation.Accepted := plan.accepted operation (by rw [hplan]; simp)
  unfold run at hsends ⊢
  unfold preview
  rw [hplan] at hsends ⊢
  have hprophetic : Prophetic (quiet backend rule (accepting wellFormed)) s
      (previewOperation {} operation) (runOperation {} operation) :=
    previewOperation_prophetic hstores ha hpredictable (sends_of_bind hsends)
  refine ensures_traverse_singleton (hprophetic.mono fun _ result _ => And.imp_right fun h => ?_)
  cases result with
  | ok preview =>
    obtain ⟨step, hstep, hrun⟩ := h
    exact ⟨step, hstep, ensures_traverse_singleton hrun⟩
  | error e => exact ensures_traverse_singleton h

end Prediction

/-! ## A server that stores what it is asked for -/

theorem pkiRoleHeld_self (role : PkiRole) : PkiRoleHeld role role := by
  simp only [pkiRoleHeld_iff, optionHeld_self, listHeld_self, and_self]

theorem databaseRoleHeld_self (role : DatabaseRole) : DatabaseRoleHeld role role := by
  simp only [databaseRoleHeld_iff, optionHeld_self, listHeld_self, mapHeld_self, and_self]

theorem databaseStaticRoleHeld_self (role : DatabaseStaticRole) :
    DatabaseStaticRoleHeld role role := by
  simp only [databaseStaticRoleHeld_iff, optionHeld_self, listHeld_self, mapHeld_self, and_self]

theorem sshRoleHeld_self (request : SshRoleRequest) : SshRoleHeld { request with } request := by
  simp only [sshRoleHeld_iff, optionHeld_self, mapHeld_self, and_self]

theorem appRoleRoleHeld_self (request : AppRoleRoleRequest) : AppRoleRoleHeld request request := by
  simp only [appRoleRoleHeld_iff, optionHeld_self, listHeld_self, and_self]

theorem identityGroupHeld_self (request : IdentityGroupRequest) :
    IdentityGroupHeld { request with } request := by
  simp only [identityGroupHeld_iff, optionHeld_self, listHeld_self, mapHeld_self, and_self]

theorem identityEntityHeld_self (request : IdentityEntityRequest) :
    IdentityEntityHeld
      { name := request.name, metadata := request.metadata, policies := request.policies
        disabled := request.disabled.getD false } request := by
  simp only [identityEntityHeld_iff, optionHeld_self, listHeld_self, mapHeld_self, true_and]
  intro value hvalue
  rw [Option.mem_def.mp hvalue]
  rfl

theorem plainBackend_fieldsHeld (kind : ObjectKind) (prior : Option kind.Existing)
    (desired : kind.Desired) : FieldsHeld kind (plainBackend.object kind prior desired) desired := by
  cases kind with
  | policy => rfl
  | pkiRole => exact pkiRoleHeld_self desired
  | databaseRole => exact databaseRoleHeld_self desired
  | databaseStaticRole => exact databaseStaticRoleHeld_self desired
  | sshRole => exact sshRoleHeld_self desired
  | identityEntity => exact identityEntityHeld_self desired
  | identityGroup => exact identityGroupHeld_self desired
  | approleRole => exact appRoleRoleHeld_self desired

theorem plainBackend_stores : Stores plainBackend plainReads where
  listed _ _ _ _ := rfl
  authMethodType _ := rfl
  mountType _ := rfl
  mountOptions _ _ _ h := h
  mountReadable _ _ _ := rfl
  fieldsHeld := plainBackend_fieldsHeld
  safe kind _ _ _ := by cases kind <;> rfl
  objectReadable _ _ _ _ _ := rfl

theorem preview_announces_run_key :
    Prophetic (quiet plainBackend plainReads (accepting fun _ => True)) .empty (preview keyPlan)
      (run keyPlan) :=
  preview_announces_run rfl plainBackend_stores trivial (sends_of_forall fun _ => .inr trivial)

/-! ## Previews that do not come true -/

/-- The preview of the plan names a change, and no server lets the run succeed. -/
def Misleads (plan : AdminBootstrap) (s : Server) (status : BootstrapPreviewStatus) : Prop :=
  ∀ written, (∃ trace step, Exec (quiet plainBackend plainReads written) s (preview plan) trace
      (.ok ⟨[step]⟩) s ∧ step.status = status) ∧
    ∀ trace result s', Exec (quiet plainBackend plainReads written) s (run plan) trace result s' →
      ∃ e, result = .error e

theorem misleads_of_step {plan : AdminBootstrap} {operation : BootstrapOperation} {s : Server}
    {status : BootstrapPreviewStatus} {targetType : String} {target : Str}
    {p : Action BootstrapPreviewStatus} {step : Action BootstrapStepStatus}
    (hplan : plan.operations = [operation])
    (hpreview : previewOperation {} operation = BootstrapPreviewReport.record {} targetType target p)
    (hrun : runOperation {} operation = BootstrapReport.record {} targetType target step)
    (hp : ∀ written, ∃ trace, Exec (quiet plainBackend plainReads written) s p trace (.ok status) s)
    (hstep : ∀ written trace result s', Exec (quiet plainBackend plainReads written) s step trace
      result s' → ∃ e, result = .error e) : Misleads plan s status := by
  refine fun written => ⟨?_, fun trace result s' h => ?_⟩
  · obtain ⟨trace, htrace⟩ := hp written
    refine ⟨trace, ⟨targetType, target, status⟩, ?_, rfl⟩
    rw [preview, hplan, exec_traverse_singleton_iff, hpreview, exec_previewRecord_iff]
    exact ⟨.ok status, htrace, rfl⟩
  · rw [run, hplan, exec_traverse_singleton_iff, hrun, exec_record_iff] at h
    obtain ⟨r, hr, rfl⟩ := h
    obtain ⟨e, rfl⟩ := hstep written trace r s' hr
    exact ⟨e, rfl⟩

def rolePlan : AdminBootstrap :=
  ⟨[.pkiRole "pki".toList "web".toList {}], by decide, by simp [BootstrapOperation.Accepted]⟩

def overriddenRole : PkiRoleDetails := { role := {}, allowGlobsInIdentityTemplates := true }

def overrideServer : Server :=
  Server.empty.setObject .pkiRole ⟨some "pki".toList, "web".toList⟩ overriddenRole

theorem rolePlan_misleads : Misleads rolePlan overrideServer .wouldUpdate := by
  have hobject : overrideServer.objects .pkiRole ⟨some "pki".toList, "web".toList⟩ =
      some overriddenRole := Server.setObject_objects ..
  have hanswer : plainReads.answer (.readObject .pkiRole ⟨some "pki".toList, "web".toList⟩)
      (view overrideServer (.readObject .pkiRole ⟨some "pki".toList, "web".toList⟩)) =
      .ok overriddenRole := congrArg foundOrNot hobject
  refine misleads_of_step rfl rfl rfl (fun written => ?_) fun written trace result s' h => ?_
  · exact ⟨_, (exec_read_iff _ rfl).mpr ⟨[], by rw [hanswer]; exact .done _ _, rfl⟩⟩
  · obtain ⟨rest, hrest, -⟩ := (exec_read_iff _ rfl).mp h
    rw [hanswer] at hrest
    obtain ⟨-, rfl, -⟩ := exec_done_iff.mp hrest
    exact ⟨_, rfl⟩

/-- A secret that was written once and deleted. -/
def deletedServer : Server :=
  Server.empty.setSecret "secret".toList "app".toList
    ((Cell.empty.write (some fun _ => none)).write none)

theorem secretOrNot_none {cell : Cell KvData} (h : cell.value = none) :
    secretOrNot cell = .error (.api 404 []) := by
  have htext : ¬ AllText cell := by
    rintro ⟨data, hdata⟩
    rw [h] at hdata
    cases hdata
  rw [secretOrNot, dif_neg htext, if_pos h]

/-- Its version is not the one that the run's write expects. -/
theorem portPlan_misleads : Misleads portPlan deletedServer .wouldCreate := by
  have hcell : deletedServer.secrets "secret".toList "app".toList =
      (Cell.empty.write (some fun _ => none)).write none := Server.setSecret_secrets ..
  have hanswer : plainReads.answer (.readSecret "secret".toList "app".toList)
      (view deletedServer (.readSecret "secret".toList "app".toList)) = .error (.api 404 []) :=
    secretOrNot_none (congrArg Cell.value hcell)
  refine misleads_of_step rfl rfl rfl (fun written => ?_) fun written trace result s' h => ?_
  · exact ⟨_, (exec_read_iff _ rfl).mpr ⟨[], by rw [hanswer]; exact .done _ _, rfl⟩⟩
  · obtain ⟨rest, hrest, -⟩ := (exec_read_iff _ rfl).mp h
    rw [hanswer] at hrest
    obtain ⟨s₁, answer, rfl, ⟨hserves, -⟩, -, rfl⟩ := exec_call_succeed hrest
    cases answer with
    | error e => exact ⟨e, rfl⟩
    | ok reply =>
      have hversion := hserves.1 _ rfl 0 rfl
      rw [hcell] at hversion
      cases hversion

/-- A refused replacement and a deleted secret. -/
theorem preview_misleads :
    Stores plainBackend plainReads ∧ Misleads rolePlan overrideServer .wouldUpdate ∧
      Misleads portPlan deletedServer .wouldCreate :=
  ⟨plainBackend_stores, rolePlan_misleads, portPlan_misleads⟩

end OpenBao.BootstrapPreview
