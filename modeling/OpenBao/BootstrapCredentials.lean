import OpenBao.BootstrapPreview

/-!
# The credentials of a run

A run hands the credentials that it was issued to its caller in its report, and a run
that fails has no report. Nothing is lost exactly when no step follows an issuing one.
-/

namespace OpenBao.BootstrapCredentials
open BootstrapComparisons BootstrapFields BootstrapObjects BootstrapPlan BootstrapPreview
open BootstrapRecords BootstrapRun BootstrapServer BootstrapTruth RequestPrograms Utf8Text

inductive Credential where
  | token (auth : TokenAuth)
  | secretId (secretId : AppRoleSecretId)

/-- The credential in an answer of the server. -/
def credentialOf : (request : BootstrapRequest) → Answer request → Option Credential
  | .createToken _, .ok auth => some (.token auth)
  | .generateSecretId .., .ok secretId => some (.secretId secretId)
  | _, _ => none

variable {σ : Type} {env : Environment Answer σ} {s s' : σ}

def credentials (trace : List (Event Answer σ)) : List Credential :=
  trace.filterMap fun e => credentialOf e.request e.answer

/-- The credentials of a report. -/
def held (report : BootstrapReport) : List Credential :=
  report.issuedTokens.map (fun token => .token token.auth) ++
    report.issuedApproleSecretIds.map fun issued => .secretId issued.secretId

def handedBack : Except Error BootstrapReport → List Credential
  | .ok report => held report
  | .error _ => []

theorem credentials_append (first rest : List (Event Answer σ)) :
    credentials (first ++ rest) = credentials first ++ credentials rest :=
  List.filterMap_append

/-! ## What a step hands back -/

theorem not_issues_of_concerns {object : BootstrapObject} {request : BootstrapRequest}
    (h : Concerns object request) : issues request = false := by
  rcases h with rfl | hwritten
  · cases object <;> rfl
  · by_contra hissues
    rw [writtenBy_of_issues (Bool.not_eq_false _ ▸ hissues)] at hwritten
    cases hwritten

theorem credentialOf_eq_none {request : BootstrapRequest} (answer : Answer request)
    (h : issues request = false) : credentialOf request answer = none := by
  cases request with
  | createToken | generateSecretId => cases h
  | _ => rfl

/-- A step with an object is given no credential. -/
theorem credentials_eq_nil {operation : BootstrapOperation} {report : BootstrapReport}
    {trace : List (Event Answer σ)} {result : Except Error BootstrapReport}
    (hissues : ¬ Issues operation)
    (h : Exec env s (runOperation report operation) trace result s') : credentials trace = [] := by
  refine List.filterMap_eq_nil_iff.mpr fun e he => ?_
  obtain ⟨hrequest, -⟩ := h.served (runOperation_sends report operation) e he
  unfold RequestOf at hrequest
  cases hobject : objectOf operation with
  | none => exact absurd (issues_iff.mpr hobject) hissues
  | some object =>
    rw [hobject] at hrequest
    exact credentialOf_eq_none _ (not_issues_of_concerns hrequest)

/-- A successful step adds the credential it was given, and nothing else. -/
theorem runOperation_held {operation : BootstrapOperation} {report report' : BootstrapReport}
    {trace : List (Event Answer σ)}
    (h : Exec env s (runOperation report operation) trace (.ok report') s') :
    (held report').Perm (held report ++ credentials trace) := by
  cases operation with
  | serviceToken name request =>
    obtain ⟨s₁, answer, -, -, rfl, hresult⟩ := exec_call_succeed h
    obtain ⟨auth, rfl, rfl⟩ := ok_eq_map hresult
    simp only [held, List.map_append, List.append_assoc]
    exact List.Perm.append_left _ List.perm_append_comm
  | approleSecretId name mount roleName request =>
    obtain ⟨s₁, answer, -, -, rfl, hresult⟩ := exec_call_succeed h
    obtain ⟨secretId, rfl, rfl⟩ := ok_eq_map hresult
    simp only [held, List.map_append, List.append_assoc]
    exact List.Perm.refl _
  | _ =>
    rw [credentials_eq_nil (by exact id) h, List.append_nil]
    obtain ⟨r, -, hresult⟩ := exec_record_iff.mp h
    obtain ⟨status, -, rfl⟩ := ok_eq_map hresult
    exact List.Perm.refl _

/-- A successful issuing step was given its credential. -/
theorem credentials_ne_nil {operation : BootstrapOperation} {report report' : BootstrapReport}
    {trace : List (Event Answer σ)} (hissues : Issues operation)
    (h : Exec env s (runOperation report operation) trace (.ok report') s') :
    credentials trace ≠ [] := by
  cases operation with
  | serviceToken name request =>
    obtain ⟨s₁, answer, -, -, rfl, hresult⟩ := exec_call_succeed h
    obtain ⟨auth, rfl, -⟩ := ok_eq_map hresult
    exact List.cons_ne_nil _ _
  | approleSecretId name mount roleName request =>
    obtain ⟨s₁, answer, -, -, rfl, hresult⟩ := exec_call_succeed h
    obtain ⟨secretId, rfl, -⟩ := ok_eq_map hresult
    exact List.cons_ne_nil _ _
  | _ => cases hissues

/-- A failed step was given no credential. -/
theorem credentials_of_error {operation : BootstrapOperation} {report : BootstrapReport}
    {trace : List (Event Answer σ)} {e : Error}
    (h : Exec env s (runOperation report operation) trace (.error e) s') :
    credentials trace = [] := by
  cases operation with
  | serviceToken name request =>
    obtain ⟨s₁, answer, -, -, rfl, hresult⟩ := exec_call_succeed h
    cases answer with
    | ok auth => cases hresult
    | error e => rfl
  | approleSecretId name mount roleName request =>
    obtain ⟨s₁, answer, -, -, rfl, hresult⟩ := exec_call_succeed h
    cases answer with
    | ok secretId => cases hresult
    | error e => rfl
  | _ => exact credentials_eq_nil (by exact id) h

/-! ## What a run hands back -/

/-- A successful run hands back every credential that it was given. -/
theorem stages_held {operations : List BootstrapOperation} {report report' : BootstrapReport}
    {segments : List (List (Event Answer σ))} {result : Except Error BootstrapReport}
    (h : Stages env runOperation s report operations segments result s')
    (hresult : result = .ok report') :
    (held report').Perm (held report ++ credentials segments.flatten) := by
  induction h with
  | nil s report =>
    obtain rfl := Except.ok.inj hresult
    rw [List.flatten_nil, credentials, List.filterMap_nil, List.append_nil]
  | stop operations hstep => cases hresult
  | @next s s₁ s' report report₁ operation operations segment segments result hstep hrest ih =>
    rw [List.flatten_cons, credentials_append, ← List.append_assoc]
    exact (ih hresult).trans ((runOperation_held hstep).append_right _)

/-- A failed run was given no credential, where the last step alone issues one. -/
theorem stages_error {operations : List BootstrapOperation} {report : BootstrapReport}
    {segments : List (List (Event Answer σ))} {result : Except Error BootstrapReport} {e : Error}
    (h : Stages env runOperation s report operations segments result s')
    (hresult : result = .error e) (hlast : ∀ operation ∈ operations.dropLast, ¬ Issues operation) :
    credentials segments.flatten = [] := by
  induction h with
  | nil s report => cases hresult
  | stop operations hstep =>
    obtain rfl := Except.error.inj hresult
    rw [List.flatten_singleton]
    exact credentials_of_error hstep
  | @next s s₁ s' report report₁ operation operations segment segments result hstep hrest ih =>
    cases operations with
    | nil =>
      cases hrest
      cases hresult
    | cons next operations =>
      rw [List.dropLast_cons_cons] at hlast
      rw [List.flatten_cons, credentials_append, credentials_eq_nil (hlast _ (by simp)) hstep,
        ih hresult fun o ho => hlast o (List.mem_cons_of_mem _ ho), List.append_nil]

/-- A credential that was issued is handed back. -/
theorem credentials_subset {plan : AdminBootstrap} {trace : List (Event Answer σ)}
    {result : Except Error BootstrapReport}
    (hlast : ∀ operation ∈ plan.operations.dropLast, ¬ Issues operation)
    (h : Exec env s (run plan) trace result s') : credentials trace ⊆ handedBack result := by
  obtain ⟨segments, rfl, hstages⟩ := exec_traverse h
  cases result with
  | ok report => exact (stages_held hstages rfl).symm.subset
  | error e =>
    rw [stages_error hstages rfl hlast]
    exact List.nil_subset _

/-! ## Arbitrary answers -/

/-- Every sequence of answers is possible. -/
def anyAnswers : Environment Answer Unit := ⟨fun _ _ _ _ => True, fun _ _ => True⟩

/-- The program succeeds for some answers. -/
def CanSucceed {α : Type} (p : Action α) : Prop :=
  ∃ trace a, Exec anyAnswers () p trace (.ok a) ()

theorem canSucceed_succeed {α : Type} (a : α) : CanSucceed (succeed a) := ⟨[], a, .done _ _⟩

theorem exec_answered {α : Type} (request : BootstrapRequest) (answer : Answer request)
    {f : Answer request → Action α} {trace : List (Event Answer Unit)} {result : Except Error α}
    (h : Exec anyAnswers () (f answer) trace result ()) :
    Exec anyAnswers () ((Prog.call request).bind f) (⟨request, (), answer, ()⟩ :: trace) result () :=
  .send trivial trivial h

theorem canSucceed_answered {α : Type} (request : BootstrapRequest) (answer : Answer request)
    {f : Answer request → Action α} (h : CanSucceed (f answer)) :
    CanSucceed ((Prog.call request).bind f) := by
  obtain ⟨trace, a, hrun⟩ := h
  exact ⟨_, a, exec_answered request answer hrun⟩

theorem ensureAuthMethod_canSucceed (path expectedType : Str) (request : AuthEnableRequest) :
    CanSucceed (ensureAuthMethod path expectedType request) := by
  have hauth : authMethodAt (Server.empty.setAuthMethod path
      { backendType := expectedType }).authMethods path = some { backendType := expectedType } :=
    Server.authMethodAt_setAuthMethod ..
  refine canSucceed_answered .listAuthMethods (.ok (Server.empty.setAuthMethod path
    { backendType := expectedType }).authMethods) ?_
  dsimp only
  rw [hauth]
  dsimp only
  rw [if_neg (not_not.mpr rfl)]
  exact canSucceed_succeed _

theorem ensureMount_canSucceed (path expectedType : Str) (expectedOption : Option (Str × Str))
    (request : MountEnableRequest) :
    CanSucceed (ensureMount path expectedType expectedOption request) := by
  let mount : MountInfo :=
    { backendType := expectedType
      options := expectedOption.map fun option => AList.insert option.1 option.2 ∅ }
  have hoption : missingOption mount expectedOption = none := by
    refine missingOption_eq_none fun option hoption => ?_
    simp only [mountOption, mount, Option.mem_def.mp hoption, Option.map_some, Option.bind_some,
      AList.lookup_insert]
  refine canSucceed_answered (.readMount path) (.ok mount) ?_
  dsimp only
  rw [if_neg (not_not.mpr rfl), hoption]
  exact canSucceed_succeed _

theorem ensureObject_canSucceed {kind : ObjectKind} (address : ObjectAddress)
    {desired : kind.Desired} (hbounded : Bounded kind desired) :
    CanSucceed (ensureObject kind address desired) := by
  have hsafe : kind.unsafeConfiguration (plainBackend.object kind none desired) = none :=
    plainBackend_stores.safe kind none desired (fun _ h => nomatch h)
  have hmatch := matchesDesired_of_fieldsHeld hbounded hsafe (plainBackend_fieldsHeld kind none desired)
  refine canSucceed_answered (.readObject kind address)
    (.ok (plainBackend.object kind none desired)) ?_
  dsimp only
  rw [hsafe, hmatch]
  exact canSucceed_succeed _

theorem ensureSecretValues_canSucceed (mount path : Str) (values : TextMap Str) :
    CanSucceed (ensureSecretValues mount path values) := by
  refine canSucceed_answered (.readSecret mount path) (.error (.api 404 [])) ?_
  exact canSucceed_answered (.writeSecret mount path (secretPatchPayload values) (some ⟨some 0⟩))
    (.ok ⟨1⟩) (canSucceed_succeed _)

theorem record_canSucceed {step : Action BootstrapStepStatus} (h : CanSucceed step)
    (report : BootstrapReport) (targetType : String) (target : Str) :
    CanSucceed (report.record targetType target step) := by
  obtain ⟨trace, status, hrun⟩ := h
  exact ⟨trace, _, exec_record_iff.mpr ⟨.ok status, hrun, rfl⟩⟩

/-- Every step of a plan succeeds for some answers. -/
theorem runOperation_canSucceed {operation : BootstrapOperation} (ha : operation.Accepted)
    (report : BootstrapReport) : CanSucceed (runOperation report operation) := by
  cases operation with
  | authMethod => exact record_canSucceed (ensureAuthMethod_canSucceed _ _ _) _ _ _
  | kv2Mount | transitMount | pkiMount | databaseMount | sshMount =>
    exact record_canSucceed (ensureMount_canSucceed _ _ _ _) _ _ _
  | transitKey mount name request =>
    refine record_canSucceed ?_ _ _ _
    exact canSucceed_answered (.readKey mount name) (.ok { keyType := [] }) (canSucceed_succeed _)
  | kv2SecretValues => exact record_canSucceed (ensureSecretValues_canSucceed _ _ _) _ _ _
  | policy =>
    refine record_canSucceed ?_ _ _ _
    exact ensureObject_canSucceed _ ha
  | pkiRole | databaseRole | databaseStaticRole | sshRole | identityEntity | identityGroup
  | approleRole =>
    refine record_canSucceed ?_ _ _ _
    exact ensureObject_canSucceed _ trivial
  | serviceToken name request =>
    exact canSucceed_answered (.createToken request) (.ok { clientToken := [], accessor := [] })
      (canSucceed_succeed _)
  | approleSecretId name mount roleName request =>
    exact canSucceed_answered (.generateSecretId mount roleName request)
      (.ok { secretId := [], secretIdAccessor := [] }) (canSucceed_succeed _)

/-- Every step fails when its first request does. -/
theorem exists_runOperation_error (operation : BootstrapOperation) (report : BootstrapReport) :
    ∃ trace e, Exec anyAnswers () (runOperation report operation) trace (.error e) () := by
  cases operation <;> exact ⟨_, _, exec_answered _ (.error (.api 503 [])) (.done _ _)⟩

/-- A step that follows an issuing one can lose its credential. -/
theorem exists_lost {operations : List BootstrapOperation} (report : BootstrapReport)
    (ha : ∀ operation ∈ operations, operation.Accepted)
    (hissues : ∃ operation ∈ operations.dropLast, Issues operation) :
    ∃ trace e, Exec anyAnswers () (Prog.traverse runOperation operations report) trace
      (.error e) () ∧ credentials trace ≠ [] := by
  induction operations generalizing report with
  | nil =>
    obtain ⟨operation, hoperation, -⟩ := hissues
    cases hoperation
  | cons operation operations ih =>
    have hlater : ∀ later ∈ operations, later.Accepted :=
      fun later hm => ha later (List.mem_cons_of_mem _ hm)
    cases operations with
    | nil =>
      obtain ⟨operation, hoperation, -⟩ := hissues
      cases hoperation
    | cons next operations =>
      obtain ⟨first, report₁, hstep⟩ := runOperation_canSucceed (ha operation (by simp)) report
      by_cases hoperation : Issues operation
      · obtain ⟨rest, e, herror⟩ := exists_runOperation_error next report₁
        refine ⟨first ++ rest, e, exec_andThen_iff.mpr (.inr ⟨report₁, first, (), rest, hstep,
          exec_andThen_iff.mpr (.inl ⟨e, herror, rfl⟩), rfl⟩), ?_⟩
        rw [credentials_append]
        exact List.append_ne_nil_of_left_ne_nil (credentials_ne_nil hoperation hstep) _
      · obtain ⟨issuing, hm, hissuing⟩ := hissues
        rw [List.dropLast_cons_cons] at hm
        have hrest : ∃ operation ∈ (next :: operations).dropLast, Issues operation := by
          rcases List.mem_cons.mp hm with rfl | hm
          · exact absurd hissuing hoperation
          · exact ⟨issuing, hm, hissuing⟩
        obtain ⟨rest, e, herror, hlost⟩ := ih report₁ hlater hrest
        refine ⟨first ++ rest, e, exec_andThen_iff.mpr
          (.inr ⟨report₁, first, (), rest, hstep, herror, rfl⟩), ?_⟩
        rw [credentials_append]
        exact List.append_ne_nil_of_right_ne_nil _ hlost

/-- No credential is lost exactly when only the last step of the plan issues one. -/
theorem run_keeps_credentials_iff (plan : AdminBootstrap) :
    (∀ trace result, Exec anyAnswers () (run plan) trace result () →
        credentials trace ⊆ handedBack result) ↔
      ∀ operation ∈ plan.operations.dropLast, ¬ Issues operation := by
  refine ⟨fun h operation hoperation hissues => ?_, fun hlast _ _ => credentials_subset hlast⟩
  obtain ⟨trace, e, hrun, hlost⟩ := exists_lost {} plan.accepted ⟨operation, hoperation, hissues⟩
  exact hlost (List.subset_nil.mp (h trace (.error e) hrun))

/-! ## A token before a failing step -/

def tokenPlan : AdminBootstrap :=
  ⟨[.serviceToken "app".toList {}, .transitMount "transit".toList none], by decide,
    by simp [BootstrapOperation.Accepted]⟩

/-- The server issues the token and is unavailable for the step behind it. -/
theorem issued_token_lost :
    ∃ (auth : TokenAuth) (trace : List (Event Answer Server)) (e : Error),
      Exec (environment plainBackend Eq) .empty (run tokenPlan) trace (.error e) .empty ∧
        credentials trace = [.token auth] ∧ ¬ credentials trace ⊆ handedBack (.error e) := by
  refine ⟨{ clientToken := "s.token".toList, accessor := "accessor".toList },
    [⟨.createToken {}, .empty,
      .ok { clientToken := "s.token".toList, accessor := "accessor".toList }, .empty⟩,
      ⟨.readMount "transit".toList, .empty, .error (.api 503 []), .empty⟩], .api 503 [],
    .send rfl rfl (.send rfl ⟨rfl, fun h => nomatch h⟩ (.done _ _)), rfl, ?_⟩
  exact fun h => List.cons_ne_nil _ _ (List.subset_nil.mp h)

end OpenBao.BootstrapCredentials
