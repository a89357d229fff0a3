import OpenBao.BootstrapPreview

/-!
# Comparisons within a plan

The comparisons of secret values and policies visit a fixed number of bytes, as if both
texts were filled up with zeros. On everything that a plan holds they are equality, and a run
and a preview call such a step unchanged exactly where it has nothing to write.
-/

namespace OpenBao.BootstrapExactness
open AclPolicy BootstrapComparisons BootstrapKv2 BootstrapPlan BootstrapPreview BootstrapRecords
open BootstrapRun BootstrapServer BootstrapTruth RequestPrograms Utf8Text

theorem no_overrides_of_safe {existing : PolicyInfoDetails}
    (h : ObjectKind.policy.unsafeConfiguration existing = none) :
    policyHasUnsafeTemplateOverrides existing = false := by
  change (if policyHasUnsafeTemplateOverrides existing then some _ else none) = none at h
  split_ifs at h with hset
  exact Bool.not_eq_true _ ▸ hset

/-- Every value of the plan was read under its key. -/
def HasValues (secret : Kv2Secret) (values : TextMap Str) : Prop :=
  ∀ entry ∈ values.entries, ∃ current, secret.data.lookup entry.1 = some current ∧
    asBytes current = asBytes entry.2

theorem needsPatch_eq_false_iff_hasValues {secret : Kv2Secret} {values : TextMap Str}
    (hvalues : ∀ entry ∈ values.entries, byteLen entry.2 ≤ maxBootstrapSecretValueBytes) :
    needsPatch (some secret) values = false ↔ HasValues secret values := by
  rw [needsPatch_some_eq_false_iff]
  refine forall₂_congr fun entry hentry => exists_congr fun current => and_congr_right fun _ => ?_
  rw [secretValuesEqual_iff (hvalues entry hentry), asBytes_inj]

theorem secretStatus_eq_unchanged_iff {current : Option Kv2Secret} {values : TextMap Str} :
    secretStatus values current = .unchanged ↔ needsPatch current values = false := by
  cases hpatch : needsPatch current values <;> cases current <;> simp [secretStatus, hpatch]

/-- The steps that compare whole texts. -/
def Compares : BootstrapOperation → Prop
  | .policy .. => True
  | .kv2SecretValues .. => True
  | _ => False

variable {σ : Type} {env : Environment Answer σ} {s s' : σ} {segment : List (Event Answer σ)}

/-- The first request of a step has read what the plan holds. -/
def Converged : BootstrapOperation → Event Answer σ → Prop
  | .policy name document, e => ∃ s existing s',
    e = ⟨.readObject .policy ⟨none, name⟩, s, .ok existing, s'⟩ ∧
      asBytes existing.policy.rules = asBytes document
  | .kv2SecretValues mount path values, e => ∃ s secret s',
    e = ⟨.readSecret mount path, s, .ok secret, s'⟩ ∧ HasValues secret values
  | _, _ => False

/-- A converged target is only read, and no other is called unchanged. -/
structure Exact (operation : BootstrapOperation) (segment : List (Event Answer σ))
    (unchanged : Prop) : Prop where
  kept : ∀ read rest, segment = read :: rest → Converged operation read → rest = []
  sound : unchanged → ∃ read, segment = [read] ∧ Converged operation read

/-- A step that sends nothing behind its read. -/
theorem exact_of_read {operation : BootstrapOperation} {read : Event Answer σ} {unchanged : Prop}
    (h : unchanged → Converged operation read) : Exact operation [read] unchanged where
  kept _ _ hsegment _ := (List.cons.inj hsegment).2.symm
  sound hunchanged := ⟨read, rfl, h hunchanged⟩

/-- A read that decides on another status. -/
theorem exact_of_other_status {τ : Type} {operation : BootstrapOperation} {read : Event Answer σ}
    {status unchanged : τ} (hstatus : status ≠ unchanged) :
    Exact operation [read] ((.ok status : Except Error τ) = .ok unchanged) := by
  apply exact_of_read
  intro hresult
  exact absurd (Except.ok.inj hresult) hstatus

/-- A step that fails with its read. -/
theorem exact_of_failed_read {τ : Type} {operation : BootstrapOperation} {read : Event Answer σ}
    {error : Error} {unchanged : τ} :
    Exact operation [read] ((.error error : Except Error τ) = .ok unchanged) := by
  apply exact_of_read
  intro hresult
  cases hresult

/-- A step that goes on behind its read. -/
theorem exact_of_not_converged {operation : BootstrapOperation} {read : Event Answer σ}
    {rest : List (Event Answer σ)} {unchanged : Prop} (hread : ¬ Converged operation read)
    (h : ¬ unchanged) : Exact operation (read :: rest) unchanged where
  kept read' rest' hsegment hconverged := by
    obtain ⟨rfl, -⟩ := List.cons.inj hsegment
    exact absurd hconverged hread
  sound hunchanged := absurd hunchanged h

section Steps

variable {mount path name document : Str} {values : TextMap Str}

theorem converged_secret_iff {secret : Kv2Secret} :
    Converged (.kv2SecretValues mount path values)
      (⟨.readSecret mount path, s, .ok secret, s'⟩ : Event Answer σ) ↔ HasValues secret values := by
  constructor
  · rintro ⟨_, _, _, heq, h⟩
    cases heq
    exact h
  · intro h
    exact ⟨s, secret, s', rfl, h⟩

theorem converged_policy_iff {existing : PolicyInfoDetails} :
    Converged (.policy name document)
      (⟨.readObject .policy ⟨none, name⟩, s, .ok existing, s'⟩ : Event Answer σ) ↔
        asBytes existing.policy.rules = asBytes document := by
  constructor
  · rintro ⟨_, _, _, heq, h⟩
    cases heq
    exact h
  · intro h
    exact ⟨s, existing, s', rfl, h⟩

/-- A read that failed has found nothing. -/
theorem not_converged_secret {error : Error} : ¬ Converged (.kv2SecretValues mount path values)
    (⟨.readSecret mount path, s, .error error, s'⟩ : Event Answer σ) := by
  rintro ⟨_, _, _, heq, -⟩
  cases heq

theorem not_converged_policy {error : Error} : ¬ Converged (.policy name document)
    (⟨.readObject .policy ⟨none, name⟩, s, .error error, s'⟩ : Event Answer σ) := by
  rintro ⟨_, _, _, heq, -⟩
  cases heq

theorem ensureSecretValues_exact
    (hvalues : ∀ entry ∈ values.entries, byteLen entry.2 ≤ maxBootstrapSecretValueBytes)
    {result : Except Error BootstrapStepStatus}
    (h : Exec env s (ensureSecretValues mount path values) segment result s') :
    Exact (.kv2SecretValues mount path values) segment (result = .ok .unchanged) := by
  obtain ⟨s₁, answer, s₂, rest, -, -, hrest, rfl⟩ := exec_call_bind_iff.mp h
  have hwritten : ∀ {status : BootstrapStepStatus} {written : Except Error Kv2WriteResponse},
      status ≠ .unchanged → ¬ (written.map fun _ => status) = .ok .unchanged := by
    rintro status (error | response) hstatus hresult
    · cases hresult
    · exact hstatus (Except.ok.inj hresult)
  cases answer with
  | ok secret =>
    dsimp only at hrest
    cases hpatch : needsPatch (some secret) values with
    | false =>
      simp only [convergeSecret, hpatch, Bool.false_eq_true, ↓reduceIte] at hrest
      obtain ⟨rfl, -, -⟩ := exec_done_iff.mp hrest
      apply exact_of_read
      intro _
      exact converged_secret_iff.mpr ((needsPatch_eq_false_iff_hasValues hvalues).mp hpatch)
    | true =>
      simp only [convergeSecret, hpatch, ↓reduceIte] at hrest
      obtain ⟨_, _, -, -, rfl, rfl⟩ := exec_call_succeed hrest
      apply exact_of_not_converged _ (hwritten (by decide))
      intro hconverged
      have hkept := (needsPatch_eq_false_iff_hasValues hvalues).mpr
        (converged_secret_iff.mp hconverged)
      rw [hpatch] at hkept
      cases hkept
  | error error =>
    dsimp only at hrest
    split_ifs at hrest with hmissing
    · rw [convergeSecret_none] at hrest
      obtain ⟨_, _, -, -, rfl, rfl⟩ := exec_call_succeed hrest
      exact exact_of_not_converged not_converged_secret (hwritten (by decide))
    · obtain ⟨rfl, rfl, -⟩ := exec_done_iff.mp hrest
      exact exact_of_failed_read

theorem previewSecretValues_exact
    (hvalues : ∀ entry ∈ values.entries, byteLen entry.2 ≤ maxBootstrapSecretValueBytes)
    {result : Except Error BootstrapPreviewStatus}
    (h : Exec env s (previewSecretValues mount path values) segment result s') :
    Exact (.kv2SecretValues mount path values) segment (result = .ok .unchanged) := by
  obtain ⟨s₁, answer, s₂, rest, -, -, hrest, rfl⟩ := exec_call_bind_iff.mp h
  cases answer with
  | ok secret =>
    obtain ⟨rfl, rfl, -⟩ := exec_done_iff.mp hrest
    apply exact_of_read
    intro hresult
    apply converged_secret_iff.mpr
    apply (needsPatch_eq_false_iff_hasValues hvalues).mp
    exact secretStatus_eq_unchanged_iff.mp (Except.ok.inj hresult)
  | error error =>
    dsimp only at hrest
    split_ifs at hrest with hmissing
    · obtain ⟨rfl, rfl, -⟩ := exec_done_iff.mp hrest
      apply exact_of_other_status
      rintro ⟨⟩
    · obtain ⟨rfl, rfl, -⟩ := exec_done_iff.mp hrest
      exact exact_of_failed_read

theorem writeAndVerify_not_unchanged {kind : ObjectKind} {address : ObjectAddress}
    {desired : kind.Desired} {status : BootstrapStepStatus} (hstatus : status ≠ .unchanged)
    {result : Except Error BootstrapStepStatus}
    (h : Exec env s (writeAndVerify kind address desired status) segment result s') :
    ¬ result = .ok .unchanged := by
  rintro rfl
  obtain ⟨_, _, _, _, -, hverify, -⟩ := exec_andThen_ok_iff.mp h
  obtain ⟨verification, _, _, _, -, hdone, -⟩ := exec_andThen_ok_iff.mp hverify
  split_ifs at hdone
  · obtain ⟨-, hresult, -⟩ := exec_done_iff.mp hdone
    exact hstatus (Except.ok.inj hresult).symm
  · exact not_exec_error_ok hdone

theorem converged_of_matchesDesired {existing : PolicyInfoDetails}
    (hdocument : byteLen document ≤ maxPolicyBytes)
    (hmatch : ObjectKind.policy.matchesDesired existing document = true) :
    Converged (.policy name document)
      (⟨.readObject .policy ⟨none, name⟩, s, .ok existing, s'⟩ : Event Answer σ) := by
  have hrules := (policyRulesEqual_iff hdocument).mp (Bool.and_eq_true_iff.mp hmatch).1
  exact converged_policy_iff.mpr (congrArg asBytes hrules)

theorem ensurePolicy_exact (hdocument : byteLen document ≤ maxPolicyBytes)
    {result : Except Error BootstrapStepStatus}
    (h : Exec env s (ensureObject .policy ⟨none, name⟩ document) segment result s') :
    Exact (.policy name document) segment (result = .ok .unchanged) := by
  obtain ⟨s₁, answer, s₂, rest, -, -, hrest, rfl⟩ := exec_call_bind_iff.mp h
  cases answer with
  | ok existing =>
    dsimp only at hrest
    cases hrefused : ObjectKind.policy.unsafeConfiguration existing with
    | some message =>
      simp only [hrefused] at hrest
      obtain ⟨rfl, rfl, -⟩ := exec_done_iff.mp hrest
      exact exact_of_failed_read
    | none =>
      simp only [hrefused] at hrest
      split_ifs at hrest with hmatch
      · obtain ⟨rfl, -, -⟩ := exec_done_iff.mp hrest
        apply exact_of_read
        intro _
        exact converged_of_matchesDesired hdocument hmatch
      · apply exact_of_not_converged _ (writeAndVerify_not_unchanged (by decide) hrest)
        intro hconverged
        have hrules := asBytes_inj.mp (converged_policy_iff.mp hconverged)
        apply hmatch
        -- An unsafe readback was refused before the comparison.
        have hsafe := congrArg Bool.not (no_overrides_of_safe hrefused)
        exact Bool.and_eq_true_iff.mpr ⟨(policyRulesEqual_iff hdocument).mpr hrules, hsafe⟩
  | error error =>
    dsimp only at hrest
    split_ifs at hrest with hmissing
    · exact exact_of_not_converged not_converged_policy
        (writeAndVerify_not_unchanged (by decide) hrest)
    · obtain ⟨rfl, rfl, -⟩ := exec_done_iff.mp hrest
      exact exact_of_failed_read

theorem previewPolicy_exact (hdocument : byteLen document ≤ maxPolicyBytes)
    {result : Except Error BootstrapPreviewStatus}
    (h : Exec env s (previewObject .policy ⟨none, name⟩ document) segment result s') :
    Exact (.policy name document) segment (result = .ok .unchanged) := by
  obtain ⟨s₁, answer, s₂, rest, -, -, hrest, rfl⟩ := exec_call_bind_iff.mp h
  cases answer with
  | ok existing =>
    dsimp only at hrest
    split_ifs at hrest with hmatch
    · obtain ⟨rfl, -, -⟩ := exec_done_iff.mp hrest
      apply exact_of_read
      intro _
      exact converged_of_matchesDesired hdocument hmatch
    · obtain ⟨rfl, rfl, -⟩ := exec_done_iff.mp hrest
      exact exact_of_other_status (by decide)
  | error error =>
    dsimp only at hrest
    split_ifs at hrest with hmissing
    · obtain ⟨rfl, rfl, -⟩ := exec_done_iff.mp hrest
      exact exact_of_other_status (by decide)
    · obtain ⟨rfl, rfl, -⟩ := exec_done_iff.mp hrest
      exact exact_of_failed_read

end Steps

/-! ## Whole plans -/

/-- A step of a run with its requests; no status is a step that failed. -/
structure RunStep (env : Environment Answer σ) (operation : BootstrapOperation)
    (segment : List (Event Answer σ)) (status : Option BootstrapStepStatus) : Prop where
  ran : ∃ report s result s', Exec env s (runOperation report operation) segment result s'
  exact : Compares operation → Exact operation segment (status = some .unchanged)

/-- A step of a preview. -/
structure PreviewStep (env : Environment Answer σ) (operation : BootstrapOperation)
    (segment : List (Event Answer σ)) (status : Option BootstrapPreviewStatus) : Prop where
  ran : ∃ report s result s', Exec env s (previewOperation report operation) segment result s'
  exact : Compares operation → Exact operation segment (status = some .unchanged)

theorem Exact.of_ok {τ : Type} {operation : BootstrapOperation} {status unchanged : τ}
    (h : Exact operation segment ((.ok status : Except Error τ) = .ok unchanged)) :
    Exact operation segment (some status = some unchanged) where
  kept := h.kept
  sound hstatus := h.sound (congrArg Except.ok (Option.some.inj hstatus))

theorem Exact.of_error {τ : Type} {operation : BootstrapOperation} {unchanged : τ} {p : Prop}
    (h : Exact operation segment p) : Exact operation segment ((none : Option τ) = some unchanged) where
  kept := h.kept
  sound hstatus := by cases hstatus

/-- Every finished operation adds one step to the report. -/
theorem runOperation_reports {operation : BootstrapOperation} (ha : operation.Accepted)
    {report report' : BootstrapReport}
    (h : Exec env s (runOperation report operation) segment (.ok report') s') :
    ∃ status, report'.steps.map (·.status) = report.steps.map (·.status) ++ [status] ∧
      RunStep env operation segment (some status) := by
  cases operation with
  | policy =>
    obtain ⟨r, hr, hresult⟩ := exec_record_iff.mp h
    obtain ⟨status, rfl, rfl⟩ := ok_eq_map hresult
    exact ⟨status, by simp, ⟨_, _, _, _, h⟩, fun _ => (ensurePolicy_exact ha hr).of_ok⟩
  | kv2SecretValues =>
    obtain ⟨r, hr, hresult⟩ := exec_record_iff.mp h
    obtain ⟨status, rfl, rfl⟩ := ok_eq_map hresult
    exact ⟨status, by simp, ⟨_, _, _, _, h⟩, fun _ => (ensureSecretValues_exact ha hr).of_ok⟩
  | serviceToken | approleSecretId =>
    obtain ⟨_, _, _, _, -, hdone, -⟩ := exec_andThen_ok_iff.mp h
    obtain ⟨-, hreport, -⟩ := exec_done_iff.mp hdone
    obtain rfl := Except.ok.inj hreport
    exact ⟨.issued, by simp, ⟨_, _, _, _, h⟩, fun hcompares => hcompares.elim⟩
  | _ =>
    obtain ⟨r, -, hresult⟩ := exec_record_iff.mp h
    obtain ⟨status, rfl, rfl⟩ := ok_eq_map hresult
    exact ⟨status, by simp, ⟨_, _, _, _, h⟩, fun hcompares => hcompares.elim⟩

theorem runOperation_fails {operation : BootstrapOperation} (ha : operation.Accepted)
    {report : BootstrapReport} {error : Error}
    (h : Exec env s (runOperation report operation) segment (.error error) s') :
    RunStep env operation segment none := by
  refine ⟨⟨_, _, _, _, h⟩, fun hcompares => ?_⟩
  cases operation with
  | policy =>
    obtain ⟨r, hr, -⟩ := exec_record_iff.mp h
    exact (ensurePolicy_exact ha hr).of_error
  | kv2SecretValues =>
    obtain ⟨r, hr, -⟩ := exec_record_iff.mp h
    exact (ensureSecretValues_exact ha hr).of_error
  | _ => exact hcompares.elim

theorem previewOperation_reports {operation : BootstrapOperation} (ha : operation.Accepted)
    {report report' : BootstrapPreviewReport}
    (h : Exec env s (previewOperation report operation) segment (.ok report') s') :
    ∃ status, report'.steps.map (·.status) = report.steps.map (·.status) ++ [status] ∧
      PreviewStep env operation segment (some status) := by
  cases operation with
  | policy =>
    obtain ⟨r, hr, hresult⟩ := exec_previewRecord_iff.mp h
    obtain ⟨status, rfl, rfl⟩ := ok_eq_map hresult
    exact ⟨status, by simp, ⟨_, _, _, _, h⟩, fun _ => (previewPolicy_exact ha hr).of_ok⟩
  | kv2SecretValues =>
    obtain ⟨r, hr, hresult⟩ := exec_previewRecord_iff.mp h
    obtain ⟨status, rfl, rfl⟩ := ok_eq_map hresult
    exact ⟨status, by simp, ⟨_, _, _, _, h⟩, fun _ => (previewSecretValues_exact ha hr).of_ok⟩
  | _ =>
    obtain ⟨r, -, hresult⟩ := exec_previewRecord_iff.mp h
    obtain ⟨status, rfl, rfl⟩ := ok_eq_map hresult
    exact ⟨status, by simp, ⟨_, _, _, _, h⟩, fun hcompares => hcompares.elim⟩

theorem previewOperation_fails {operation : BootstrapOperation} (ha : operation.Accepted)
    {report : BootstrapPreviewReport} {error : Error}
    (h : Exec env s (previewOperation report operation) segment (.error error) s') :
    PreviewStep env operation segment none := by
  refine ⟨⟨_, _, _, _, h⟩, fun hcompares => ?_⟩
  cases operation with
  | policy =>
    obtain ⟨r, hr, -⟩ := exec_previewRecord_iff.mp h
    exact (previewPolicy_exact ha hr).of_error
  | kv2SecretValues =>
    obtain ⟨r, hr, -⟩ := exec_previewRecord_iff.mp h
    exact (previewSecretValues_exact ha hr).of_error
  | _ => exact hcompares.elim

/-- A run falls into the steps of its operations, with the statuses of its report. -/
def RunsExactly (env : Environment Answer σ) (plan : AdminBootstrap) : Prop :=
  ∀ s trace result s', Exec env s (run plan) trace result s' →
    ∃ stages : List (List (Event Answer σ) × Option BootstrapStepStatus),
      (stages.map Prod.fst).flatten = trace ∧
      List.Forall₂ (fun operation stage => RunStep env operation stage.1 stage.2)
        (plan.operations.take stages.length) stages ∧
      ∀ report, result = .ok report →
        report.steps.map (fun step => some step.status) = stages.map Prod.snd

def PreviewsExactly (env : Environment Answer σ) (plan : AdminBootstrap) : Prop :=
  ∀ s trace result s', Exec env s (preview plan) trace result s' →
    ∃ stages : List (List (Event Answer σ) × Option BootstrapPreviewStatus),
      (stages.map Prod.fst).flatten = trace ∧
      List.Forall₂ (fun operation stage => PreviewStep env operation stage.1 stage.2)
        (plan.operations.take stages.length) stages ∧
      ∀ report, result = .ok report →
        report.steps.map (fun step => some step.status) = stages.map Prod.snd

theorem runsExactly (env : Environment Answer σ) (plan : AdminBootstrap) :
    RunsExactly env plan := by
  intro s trace result s' h
  obtain ⟨segments, rfl, hstages⟩ := exec_traverse h
  obtain ⟨stages, rfl, hall, hreport⟩ := hstages.reported
    (fun operation hm _ _ _ _ _ h => runOperation_reports (plan.accepted operation hm) h)
    (fun operation hm _ _ _ _ _ h => runOperation_fails (plan.accepted operation hm) h)
  refine ⟨stages, rfl, hall, fun report hresult => ?_⟩
  simpa [Function.comp_def] using hreport report hresult

theorem previewsExactly (env : Environment Answer σ) (plan : AdminBootstrap) :
    PreviewsExactly env plan := by
  intro s trace result s' h
  obtain ⟨segments, rfl, hstages⟩ := exec_traverse h
  obtain ⟨stages, rfl, hall, hreport⟩ := hstages.reported
    (fun operation hm _ _ _ _ _ h => previewOperation_reports (plan.accepted operation hm) h)
    (fun operation hm _ _ _ _ _ h => previewOperation_fails (plan.accepted operation hm) h)
  refine ⟨stages, rfl, hall, fun report hresult => ?_⟩
  simpa [Function.comp_def] using hreport report hresult

/-- What the comparisons of a call's texts decide, whatever the server holds. -/
def ComparesExactly : PlanCall → Prop
  | .ensurePolicyDocument _ document => ∀ current : Str,
    policyRulesEqual current document = true ↔ asBytes current = asBytes document
  | .ensureKv2SecretValues _ _ values => ∀ entry ∈ values.entries, ∀ current : Str,
    secretValuesEqual current entry.2 = true ↔ asBytes current = asBytes entry.2
  | _ => True

theorem method_comparesExactly {plan plan' : AdminBootstrap} {call : PlanCall}
    (h : call.method plan = .ok plan') : ComparesExactly call := by
  cases call with
  | ensurePolicyDocument name document =>
    obtain ⟨name', -, h⟩ := bind_eq_ok_iff.mp h
    split at h
    · next hlength =>
      intro current
      rw [asBytes_inj]
      exact policyRulesEqual_iff hlength
    · cases h
  | ensureKv2SecretValues mount path values =>
    obtain ⟨mount', -, h⟩ := bind_eq_ok_iff.mp h
    obtain ⟨path', -, h⟩ := bind_eq_ok_iff.mp h
    split at h
    · next hlengths =>
      intro entry hentry current
      rw [asBytes_inj]
      exact secretValuesEqual_iff (hlengths entry hentry)
    · cases h
  | _ => trivial

/-- The texts that an accepted call brings into a plan are compared exactly, and so is every
step of the plan, in its previews and its runs. -/
theorem accepted_comparesExactly {plan plan' : AdminBootstrap} {call : PlanCall}
    (h : call.method plan = .ok plan') :
    ComparesExactly call ∧
      ∀ (σ : Type) (env : Environment Answer σ), RunsExactly env plan' ∧ PreviewsExactly env plan' := by
  refine ⟨method_comparesExactly h, fun σ env => ?_⟩
  exact ⟨runsExactly env plan', previewsExactly env plan'⟩

theorem portPlan_comparesExactly :
    ComparesExactly (.ensureKv2SecretValues "secret".toList "app".toList
        (AList.singleton "port".toList "80".toList)) ∧
      ∀ (σ : Type) (env : Environment Answer σ),
        RunsExactly env portPlan ∧ PreviewsExactly env portPlan := by
  have hcall : PlanCall.method .new (.ensureKv2SecretValues "secret".toList "app".toList
      (AList.singleton "port".toList "80".toList)) = .ok portPlan := rfl
  exact accepted_comparesExactly hcall

/-! ## A value beside one that differs -/

def hostAndPort (port : Str) : TextMap Str :=
  (AList.singleton "port".toList port).insert "host".toList "db".toList

/-- The host is as the plan has it, the port is not. -/
def stalePort : Kv2Secret := ⟨hostAndPort "81".toList, 1⟩

def stalePortServer : Server :=
  secretServer fun key => (stalePort.data.lookup key).map .text

theorem stalePort_needsPatch : needsPatch (some stalePort) (hostAndPort "80".toList) = true := by
  by_contra hkept
  have hvalues := (needsPatch_eq_false_iff_hasValues (by decide +kernel)).mp
    (Bool.not_eq_true _ ▸ hkept)
  obtain ⟨current, hlookup, hbytes⟩ := hvalues ⟨"port".toList, "80".toList⟩ (by decide +kernel)
  rw [asBytes_inj.mp hbytes] at hlookup
  revert hlookup
  decide +kernel

def patchedServer : Server :=
  stalePortServer.setSecret "secret".toList "app".toList
    ((stalePortServer.secrets "secret".toList "app".toList).write
      (some (mergeValues (hostAndPort "80".toList)
        ((stalePortServer.secrets "secret".toList "app".toList).value.getD fun _ => none))))

theorem stalePort_patched :
    Exec (environment plainBackend OtherClients) stalePortServer
      (ensureSecretValues "secret".toList "app".toList (hostAndPort "80".toList))
      [⟨.readSecret "secret".toList "app".toList, stalePortServer, .ok stalePort, stalePortServer⟩,
        ⟨.patchSecret "secret".toList "app".toList (hostAndPort "80".toList) (some ⟨some 1⟩),
          stalePortServer, .ok ⟨2⟩, patchedServer⟩]
      (.ok .updated) patchedServer := by
  refine exec_call_bind_iff.mpr
    ⟨stalePortServer, .ok stalePort, stalePortServer, _, fun _ _ => .refl, ⟨rfl, ?_⟩, ?_, rfl⟩
  · rw [stalePortServer, secretServer, Server.setSecret_secrets]
    exact ⟨rfl, rfl⟩
  · dsimp only
    rw [convergeSecret, if_pos stalePort_needsPatch]
    refine .send (fun _ _ => .refl) ⟨?_, rfl⟩ (.done _ _)
    rintro _ ⟨⟩ _ ⟨⟩
    rw [stalePortServer, secretServer, Server.setSecret_secrets]
    rfl

/-- The patch that sets the port repeats the host. -/
theorem converged_value_rewritten :
    ∃ (plan : AdminBootstrap) (report : BootstrapReport) (s s' : Server) (payload : TextMap Str),
      AdminBootstrap.new.ensureKv2SecretValues "secret".toList "app".toList
        (hostAndPort "80".toList) = .ok plan ∧
      Exec (environment plainBackend OtherClients) s (run plan)
        [⟨.readSecret "secret".toList "app".toList, s, .ok stalePort, s⟩,
          ⟨.patchSecret "secret".toList "app".toList payload (some ⟨some 1⟩), s, .ok ⟨2⟩, s'⟩]
        (.ok report) s' ∧
      stalePort.data.lookup "host".toList = some "db".toList ∧
      (hostAndPort "80".toList).lookup "host".toList = some "db".toList ∧
      payload.lookup "host".toList = some "db".toList := by
  refine ⟨secretPlan (hostAndPort "80".toList) (by decide +kernel),
    { steps := [⟨"kv2_secret", "secret/app".toList, .updated⟩] }, stalePortServer, patchedServer,
    hostAndPort "80".toList, rfl, ?_, by decide +kernel, by decide +kernel, by decide +kernel⟩
  exact exec_traverse_singleton_iff.mpr (exec_record_iff.mpr ⟨_, stalePort_patched, rfl⟩)

end OpenBao.BootstrapExactness
