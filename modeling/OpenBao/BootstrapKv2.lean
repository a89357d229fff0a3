import OpenBao.BootstrapObjects

/-!
# Secrets and concurrent writers

A secret is written under the version that its step has read. Other clients write,
patch and delete secrets in any order; none of their updates is overwritten.
-/

namespace OpenBao.BootstrapKv2
open BootstrapComparisons BootstrapObjects BootstrapPlan BootstrapRecords BootstrapRun
open BootstrapServer BootstrapTruth Relation RequestPrograms Utf8Text VersionedCells

/-- Other clients change secrets one version at a time, everything else arbitrarily. -/
def OtherClients (s s' : Server) : Prop :=
  ∀ mount path, ReflTransGen Cell.Overwrite (s.secrets mount path) (s'.secrets mount path)

def Changes (e : RunEvent) (mount path : Str) : Prop :=
  e.after.secrets mount path ≠ e.before.secrets mount path

/-- The data of a secret that was read; none of a secret that was not found. -/
def readData : Option Kv2Secret → Option KvData
  | some secret => some fun key => (secret.data.lookup key).map .text
  | none => none

def ReadFound (read : RunEvent) (mount path : Str) (current : Option Kv2Secret) : Prop :=
  ∃ (s : Server) (answer : Answer (.readSecret mount path)) (s' : Server),
    read = ⟨.readSecret mount path, s, answer, s'⟩ ∧ current = answer.toOption

/-- What the step of an operation does to secrets; `result` and `s'` are those of the
run when the step is its last. -/
structure LosesNoUpdate (operation : BootstrapOperation) (segment : List RunEvent)
    (result : Except Error BootstrapReport) (s' : Server) : Prop where
  /-- A write that is applied finds what the step has read and sets the plan's values. -/
  applied : ∀ write ∈ segment, ∀ mount path, Changes write mount path →
    ∃ values read current, operation = .kv2SecretValues mount path values ∧
      segment = [read, write] ∧ ReadFound read mount path current ∧
      (write.before.secrets mount path).value = readData current ∧
      (write.after.secrets mount path).value =
        some (mergeValues values ((readData current).getD fun _ => none))
  /-- After a change by another client the run fails and leaves the secret alone. -/
  contended : ∀ mount path values read write, operation = .kv2SecretValues mount path values →
    segment = [read, write] →
    write.before.secrets mount path ≠ read.after.secrets mount path →
    (∃ error, result = .error error) ∧
      s'.secrets mount path = write.before.secrets mount path
  /-- A present secret with all of the plan's values is only read. -/
  unchanged : ∀ mount path values read rest data,
    operation = .kv2SecretValues mount path values → segment = read :: rest →
    (read.before.secrets mount path).value = some data →
    (∀ entry ∈ values.entries, data entry.1 = some (.text entry.2)) → rest = []
  /-- A step reads its secret and sends at most one more request. -/
  requests : ∀ mount path values, operation = .kv2SecretValues mount path values →
    ∃ read rest, segment = read :: rest ∧ read.request = .readSecret mount path ∧
      rest.length ≤ 1

section Steps

variable {backend : Backend} {mount path : Str} {values : TextMap Str}

/-! ## The step of a secret -/

/-- The version under which a step writes what it has read as `current`. -/
def expectedVersion : Option Kv2Secret → ℕ
  | some secret => secret.version
  | none => 0

/-- The write of the values under an expected version was applied. -/
def Written (mount path : Str) (values : TextMap Str) (version : ℕ) (s s' : Server) : Prop :=
  version = (s.secrets mount path).version ∧ s' = s.setSecret mount path
    ((s.secrets mount path).write
      (some (mergeValues values ((s.secrets mount path).value.getD fun _ => none))))

/-- Behind its read a step sends nothing, or one write under the version it has read. -/
theorem exec_convergeSecret {current : Option Kv2Secret} {rest : List RunEvent}
    {result : Except Error BootstrapStepStatus} {s s' : Server}
    (h : Exec (environment backend OtherClients) s (convergeSecret mount path values current) rest
      result s') :
    (needsPatch current values = false ∧ rest = []) ∨
      ∃ write, needsPatch current values = true ∧ rest = [write] ∧ OtherClients s write.before ∧
        write.after = s' ∧
        ((s' = write.before ∧ ∃ e, result = .error e) ∨
          Written mount path values (expectedVersion current) write.before s') := by
  cases hpatch : needsPatch current values with
  | false =>
    simp only [convergeSecret, hpatch] at h
    exact .inl ⟨rfl, (exec_done_iff.mp h).1⟩
  | true =>
    refine .inr ?_
    cases current with
    | none =>
      obtain ⟨s₁, answer, hothers, hserves, rfl, rfl⟩ :=
        exec_call_succeed (convergeSecret_none mount path values ▸ h)
      refine ⟨_, rfl, rfl, hothers, rfl, (Applied.cases hserves).imp ?_ ?_⟩
      · rintro ⟨rfl, e, rfl⟩
        exact ⟨rfl, e, rfl⟩
      · rintro ⟨hallowed, rfl⟩
        have hversion : 0 = (s₁.secrets mount path).version := hallowed _ rfl 0 rfl
        refine ⟨hversion, ?_⟩
        rw [(s₁.secrets mount path).unwritten hversion.symm]
        rfl
    | some secret =>
      simp only [convergeSecret, hpatch, ↓reduceIte] at h
      obtain ⟨s₁, answer, hothers, hserves, rfl, rfl⟩ := exec_call_succeed h
      refine ⟨_, rfl, rfl, hothers, rfl, (Applied.cases hserves).imp ?_ ?_⟩
      · rintro ⟨rfl, e, rfl⟩
        exact ⟨rfl, e, rfl⟩
      · rintro ⟨hallowed, rfl⟩
        exact ⟨hallowed _ rfl _ rfl, rfl⟩

/-- What an answered read says of the secret. -/
def FoundAs (cell : Cell KvData) : Option Kv2Secret → Prop
  | some secret => ReadsAs cell secret
  | none => cell.value = none

theorem FoundAs.value_eq {cell : Cell KvData} {current : Option Kv2Secret}
    (h : FoundAs cell current) : cell.value = readData current := by
  cases current with
  | none => exact h
  | some secret => exact h.data

/-- A secret that still has the version of the read is the secret that was read. -/
theorem FoundAs.eq_of_version {cell cell' : Cell KvData} {current : Option Kv2Secret}
    (h : FoundAs cell current) (hothers : ReflTransGen Cell.Overwrite cell cell')
    (hversion : expectedVersion current = cell'.version) : cell' = cell := by
  refine Cell.eq_of_version_eq hothers ?_
  have hle := Cell.version_le hothers
  cases current with
  | some secret =>
    rw [← hversion, ← h.version]
    rfl
  | none =>
    simp only [expectedVersion] at hversion
    omega

/-- A step reads its secret, and then sends nothing or one write. -/
theorem exec_ensureSecretValues {segment : List RunEvent}
    {result : Except Error BootstrapStepStatus} {s s' : Server}
    (h : Exec (environment backend OtherClients) s (ensureSecretValues mount path values) segment
      result s') :
    ∃ (s₁ : Server) (answer : Answer (.readSecret mount path)),
      segment = [⟨.readSecret mount path, s₁, answer, s₁⟩] ∨
        ∃ write, segment = [⟨.readSecret mount path, s₁, answer, s₁⟩, write] ∧
          FoundAs (s₁.secrets mount path) answer.toOption ∧
          needsPatch answer.toOption values = true ∧ OtherClients s₁ write.before ∧
          write.after = s' ∧
          ((s' = write.before ∧ ∃ e, result = .error e) ∨
            Written mount path values (expectedVersion answer.toOption) write.before s') := by
  obtain ⟨s₁, answer, s₂, rest, -, ⟨rfl, hfound⟩, hrest, rfl⟩ := exec_call_bind_iff.mp h
  refine ⟨s₂, answer, ?_⟩
  cases answer with
  | ok secret =>
    rcases exec_convergeSecret hrest with ⟨-, rfl⟩ | ⟨write, hpatch, rfl, hwrite⟩
    · exact .inl rfl
    · exact .inr ⟨write, rfl, hfound, hpatch, hwrite⟩
  | error error =>
    dsimp only at hrest
    split_ifs at hrest with hmissing
    · rcases exec_convergeSecret hrest with ⟨-, rfl⟩ | ⟨write, hpatch, rfl, hwrite⟩
      · exact .inl rfl
      · exact .inr ⟨write, rfl, hfound hmissing, hpatch, hwrite⟩
    · obtain ⟨rfl, -, -⟩ := exec_done_iff.mp hrest
      exact .inl rfl

/-- A present secret with all of the plan's values needs no write. -/
theorem needsPatch_eq_false {cell : Cell KvData} {current : Option Kv2Secret} {data : KvData}
    (hvalues : ∀ entry ∈ values.entries, byteLen entry.2 ≤ maxBootstrapSecretValueBytes)
    (hfound : FoundAs cell current) (hdata : cell.value = some data)
    (hequal : ∀ entry ∈ values.entries, data entry.1 = some (.text entry.2)) :
    needsPatch current values = false := by
  cases current with
  | none => exact absurd (hdata.symm.trans hfound) (by simp)
  | some secret =>
    obtain rfl := Option.some.inj (hdata.symm.trans hfound.data)
    refine needsPatch_some_eq_false_iff.mpr fun entry hentry => ?_
    obtain ⟨current, hlookup, hcurrent⟩ := Option.map_eq_some_iff.mp (hequal entry hentry)
    obtain rfl := KvValue.text.inj hcurrent
    exact ⟨_, hlookup, (secretValuesEqual_iff (hvalues entry hentry)).mpr rfl⟩

/-- A step that ends with its read. -/
theorem losesNoUpdate_of_read {answer : Answer (.readSecret mount path)}
    {result : Except Error BootstrapReport} {s s' : Server} :
    LosesNoUpdate (.kv2SecretValues mount path values)
      [⟨.readSecret mount path, s, answer, s⟩] result s' where
  applied := by
    intro e he mount' path' hchange
    obtain rfl := List.mem_singleton.mp he
    exact absurd rfl hchange
  contended := by
    intro _ _ _ read write _ hsegment
    simp at hsegment
  unchanged := by
    intro _ _ _ read rest data _ hsegment _ _
    exact (List.cons.inj hsegment).2.symm
  requests := by
    intro mount' path' values' hop
    cases hop
    exact ⟨_, [], rfl, rfl, Nat.zero_le _⟩

/-- A step that reads and writes. -/
theorem losesNoUpdate_of_write {answer : Answer (.readSecret mount path)} {write : RunEvent}
    {result : Except Error BootstrapReport} {s : Server}
    (hvalues : ∀ entry ∈ values.entries, byteLen entry.2 ≤ maxBootstrapSecretValueBytes)
    (hfound : FoundAs (s.secrets mount path) answer.toOption)
    (hpatch : needsPatch answer.toOption values = true) (hothers : OtherClients s write.before)
    (hwrite : (write.after = write.before ∧ ∃ e, result = .error e) ∨
      Written mount path values (expectedVersion answer.toOption) write.before write.after) :
    LosesNoUpdate (.kv2SecretValues mount path values)
      [⟨.readSecret mount path, s, answer, s⟩, write] result write.after where
  applied := by
    intro e he mount' path' hchange
    rcases List.mem_cons.mp he with rfl | he
    · exact absurd rfl hchange
    obtain rfl := List.mem_singleton.mp he
    rcases hwrite with ⟨hsame, -⟩ | ⟨hversion, hafter⟩
    · exact absurd (by rw [hsame]) hchange
    by_cases hsecret : mount' = mount ∧ path' = path
    · obtain ⟨rfl, rfl⟩ := hsecret
      have hvalue : (e.before.secrets mount' path').value = readData answer.toOption := by
        rw [hfound.eq_of_version (hothers mount' path') hversion, hfound.value_eq]
      refine ⟨values, _, answer.toOption, rfl, rfl, ⟨s, answer, s, rfl, rfl⟩, hvalue, ?_⟩
      rw [hafter, Server.setSecret_secrets, Cell.write_value, hvalue]
    · exact absurd (by rw [hafter, Server.setSecret_secrets_of_ne _ _ hsecret]) hchange
  contended := by
    intro mount' path' values' read e hop hsegment hother
    cases hop
    simp only [List.cons.injEq, and_true] at hsegment
    obtain ⟨rfl, rfl⟩ := hsegment
    rcases hwrite with ⟨hsame, hfailed⟩ | ⟨hversion, -⟩
    · exact ⟨hfailed, by rw [hsame]⟩
    · exact absurd (hfound.eq_of_version (hothers mount path) hversion) hother
  unchanged := by
    intro mount' path' values' read rest data hop hsegment hdata hequal
    cases hop
    obtain ⟨rfl, -⟩ := List.cons.inj hsegment
    rw [needsPatch_eq_false hvalues hfound hdata hequal] at hpatch
    cases hpatch
  requests := by
    intro mount' path' values' hop
    cases hop
    exact ⟨_, _, rfl, rfl, Nat.le_refl _⟩

theorem objectOf_ne_secret {operation : BootstrapOperation}
    (hop : ∀ mount path values, operation ≠ .kv2SecretValues mount path values) :
    objectOf operation ≠ some (.secret mount path) := by
  cases operation with
  | kv2SecretValues mount path values => exact absurd rfl (hop mount path values)
  | _ => simp [objectOf]

/-- A step without a secret leaves all secrets alone. -/
theorem losesNoUpdate_of_unchanged {operation : BootstrapOperation} {segment : List RunEvent}
    {result : Except Error BootstrapReport} {s' : Server}
    (hop : ∀ mount path values, operation ≠ .kv2SecretValues mount path values)
    (hsame : ∀ e ∈ segment, ∀ mount path, ¬ Changes e mount path) :
    LosesNoUpdate operation segment result s' where
  applied e he mount path hchange := absurd hchange (hsame e he mount path)
  contended _ _ _ _ _ h := absurd h (hop _ _ _)
  unchanged _ _ _ _ _ _ h := absurd h (hop _ _ _)
  requests _ _ _ h := absurd h (hop _ _ _)

theorem runOperation_losesNoUpdate {operation : BootstrapOperation} (ha : operation.Accepted)
    {report : BootstrapReport} {segment : List RunEvent}
    {result : Except Error BootstrapReport} {s s' : Server}
    (hrun : Exec (environment backend OtherClients) s (runOperation report operation) segment
      result s') : LosesNoUpdate operation segment result s' := by
  by_cases hop : ∀ mount path values, operation ≠ .kv2SecretValues mount path values
  · refine losesNoUpdate_of_unchanged hop fun e he mount path => ?_
    obtain ⟨hrequest, hserves⟩ := hrun.served (runOperation_sends report operation) e he
    exact not_not.mpr (serves_sameAt (.secret mount path) hserves trivial
      fun hwritten => objectOf_ne_secret hop (hrequest.objectOf_eq hwritten))
  · simp only [not_forall, not_not] at hop
    obtain ⟨mount, path, values, rfl⟩ := hop
    obtain ⟨r, hr, rfl⟩ := exec_record_iff.mp hrun
    obtain ⟨s₁, answer, rfl | ⟨write, rfl, hfound, hpatch, hothers, rfl, hwrite⟩⟩ :=
      exec_ensureSecretValues hr
    · exact losesNoUpdate_of_read
    · refine losesNoUpdate_of_write ha hfound hpatch hothers (hwrite.imp_left ?_)
      rintro ⟨hsame, e, rfl⟩
      exact ⟨hsame, e, rfl⟩

/-- A step that succeeded was not contended, however the run ends. -/
theorem LosesNoUpdate.of_ok {operation : BootstrapOperation} {segment : List RunEvent}
    {report : BootstrapReport} {s₁ : Server} (h : LosesNoUpdate operation segment (.ok report) s₁)
    (result : Except Error BootstrapReport) (s' : Server) :
    LosesNoUpdate operation segment result s' where
  applied := h.applied
  contended mount path values read write hop hsegment hother := by
    obtain ⟨⟨error, herror⟩, -⟩ := h.contended mount path values read write hop hsegment hother
    cases herror
  unchanged := h.unchanged
  requests := h.requests

/-- A step of a run with its requests, which loses no update. -/
structure GuardedStep (env : Environment Answer Server) (result : Except Error BootstrapReport)
    (s' : Server) (operation : BootstrapOperation) (segment : List RunEvent) : Prop where
  ran : ∃ report s₁ outcome s₂, Exec env s₁ (runOperation report operation) segment outcome s₂
  losesNoUpdate : LosesNoUpdate operation segment result s'

theorem stages_guarded {operations : List BootstrapOperation} {report : BootstrapReport}
    {segments : List (List RunEvent)} {result : Except Error BootstrapReport} {s s' : Server}
    (h : Stages (environment backend OtherClients) runOperation s report operations segments
      result s')
    (ha : ∀ operation ∈ operations, operation.Accepted) :
    List.Forall₂ (GuardedStep (environment backend OtherClients) result s')
      (operations.take segments.length) segments := by
  induction h with
  | nil s report => exact .nil
  | stop operations hstep =>
    exact .cons ⟨⟨_, _, _, _, hstep⟩, runOperation_losesNoUpdate (ha _ (by simp)) hstep⟩ .nil
  | next hstep hrest ih =>
    exact .cons ⟨⟨_, _, _, _, hstep⟩, (runOperation_losesNoUpdate (ha _ (by simp)) hstep).of_ok _ _⟩
      (ih fun operation hm => ha operation (List.mem_cons_of_mem _ hm))

/-- A run loses no update of a secret by another client. -/
theorem run_losesNoUpdate {plan : AdminBootstrap} {s s' : Server} {trace : List RunEvent}
    {result : Except Error BootstrapReport}
    (h : Exec (environment backend OtherClients) s (run plan) trace result s') :
    ∃ segments, segments.flatten = trace ∧
      List.Forall₂ (GuardedStep (environment backend OtherClients) result s')
        (plan.operations.take segments.length) segments := by
  obtain ⟨segments, rfl, hstages⟩ := exec_traverse h
  exact ⟨segments, rfl, stages_guarded hstages plan.accepted⟩

end Steps

/-! ## A contended secret and one without values -/

def secretPlan (values : TextMap Str)
    (h : ∀ entry ∈ values.entries, byteLen entry.2 ≤ maxBootstrapSecretValueBytes) :
    AdminBootstrap where
  operations := [.kv2SecretValues "secret".toList "app".toList values]
  count := by
    rw [List.length_singleton]
    decide
  accepted operation hm := List.mem_singleton.mp hm ▸ h

/-- The empty server with a secret that was written once. -/
def secretServer (data : KvData) : Server :=
  Server.empty.setSecret "secret".toList "app".toList (Cell.empty.write (some data))

def portPlan : AdminBootstrap :=
  secretPlan (AList.singleton "port".toList "80".toList) (by decide +kernel)

/-- Between the read and the write another client stores `data`. -/
def contendedTrace (data : KvData) : List RunEvent :=
  [⟨.readSecret "secret".toList "app".toList, .empty, .error (.api 404 []), .empty⟩,
    ⟨.writeSecret "secret".toList "app".toList (AList.singleton "port".toList "80".toList)
        (some ⟨some 0⟩),
      secretServer data, .error (.api 400 []), secretServer data⟩]

theorem otherClients_setSecret (s : Server) (mount path : Str) (data : Option KvData) :
    OtherClients s (s.setSecret mount path ((s.secrets mount path).write data)) := by
  intro mount' path'
  by_cases h : mount' = mount ∧ path' = path
  · obtain ⟨rfl, rfl⟩ := h
    rw [Server.setSecret_secrets]
    exact .single ⟨data, rfl⟩
  · rw [Server.setSecret_secrets_of_ne _ _ h]

theorem contended_run (data : KvData) :
    Exec (environment plainBackend OtherClients) .empty (run portPlan) (contendedTrace data)
      (.error (.api 400 [])) (secretServer data) :=
  .send (fun _ _ => .refl) ⟨rfl, fun _ => rfl⟩
    (.send (otherClients_setSecret _ _ _ _) (.inl rfl) (.done _ _))

theorem run_losesNoUpdate_contended :
    ∃ segments, segments.flatten = contendedTrace (fun _ => none) ∧
      List.Forall₂ (GuardedStep (environment plainBackend OtherClients) (.error (.api 400 []))
        (secretServer fun _ => none)) (portPlan.operations.take segments.length) segments :=
  run_losesNoUpdate (contended_run _)

/-- An absent secret is written although no requested value differs from it. -/
theorem secret_without_values_written :
    ∃ (plan : AdminBootstrap) (values : TextMap Str) (trace : List RunEvent)
      (report : BootstrapReport) (s' : Server),
      plan.operations = [.kv2SecretValues "secret".toList "app".toList values] ∧
      Exec (environment plainBackend OtherClients) .empty (run plan) trace (.ok report) s' ∧
      (∀ entry ∈ values.entries, ∃ data,
        (Server.empty.secrets "secret".toList "app".toList).value = some data ∧
          data entry.1 = some (.text entry.2)) ∧
      ∃ e ∈ trace, Changes e "secret".toList "app".toList := by
  refine ⟨secretPlan ∅ (by simp), ∅,
    [⟨.readSecret "secret".toList "app".toList, .empty, .error (.api 404 []), .empty⟩,
      ⟨.writeSecret "secret".toList "app".toList ∅ (some ⟨some 0⟩), .empty, .ok ⟨1⟩,
        secretServer fun _ => none⟩], _, _, rfl,
    .send (fun _ _ => .refl) ⟨rfl, fun _ => rfl⟩
      (.send (fun _ _ => .refl) ⟨?_, rfl⟩ (.done _ _)), by simp, _,
    List.mem_cons_of_mem _ (List.mem_singleton.mpr rfl), ?_⟩
  · rintro _ ⟨⟩ _ ⟨⟩
    rfl
  · rw [Changes, secretServer, Server.setSecret_secrets]
    exact Cell.write_ne _ _

end OpenBao.BootstrapKv2
