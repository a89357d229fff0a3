import OpenBao.BootstrapFields
import OpenBao.BootstrapQuietServer

/-!
# Running a plan again

After a successful run without other clients every object is as its step wants it and
stays so: the steps of the run behind it have other objects. A second run therefore
only reads, and issues its credentials again.
-/

namespace OpenBao.BootstrapIdempotence
open BootstrapComparisons BootstrapFields BootstrapObjects BootstrapPlan BootstrapQuietServer
open BootstrapRecords BootstrapRun BootstrapServer BootstrapTruth RequestPrograms Utf8Text VersionedCells

/-- The read of the object is answered with a value. -/
def Readable (rule : ReadRule) (s : Server) (object : BootstrapObject) : Prop :=
  ∃ reply, rule.answer (readOf object) (view s (readOf object)) = .ok reply

/-- A credential that was issued before and would be again. -/
def Granted (written : (request : BootstrapRequest) → Answer request → Prop) :
    BootstrapOperation → Prop
  | .serviceToken _ request => ∃ auth, written (.createToken request) (.ok auth)
  | .approleSecretId _ mount roleName request =>
    ∃ secretId, written (.generateSecretId mount roleName request) (.ok secretId)
  | _ => True

structure Settled (rule : ReadRule) (written : (request : BootstrapRequest) → Answer request → Prop)
    (s : Server) (operation : BootstrapOperation) : Prop where
  readable : ∀ object ∈ objectOf operation, Readable rule s object
  holds : Holds s operation
  granted : Granted written operation

section Idempotence

variable {backend : Backend} {rule : ReadRule}
variable {written : (request : BootstrapRequest) → Answer request → Prop}

/-! ## What another object's step leaves -/

theorem Readable.congr {s s' : Server} {object : BootstrapObject} (hsame : SameAt s s' object)
    (hlisting : ∀ path, object = .authMethod path → Readable rule s' object)
    (h : Readable rule s object) : Readable rule s' object := by
  obtain ⟨reply, hreply⟩ := h
  cases object with
  | authMethod path => exact hlisting path rfl
  | mount path => exact ⟨reply, by rw [← hreply]; exact congrArg _ hsame⟩
  | key mount name => exact ⟨reply, by rw [← hreply]; exact congrArg _ hsame⟩
  | object kind address => exact ⟨reply, by rw [← hreply]; exact congrArg _ hsame⟩
  | secret mount path => exact ⟨reply, by rw [← hreply]; exact congrArg _ hsame⟩

theorem holds_congr {s s' : Server} {operation : BootstrapOperation}
    (hsame : ∀ object ∈ objectOf operation, SameAt s s' object) (h : Holds s operation) :
    Holds s' operation := by
  cases operation with
  | serviceToken | approleSecretId => trivial
  | authMethod path backendType description =>
    obtain ⟨auth, hauth, htype⟩ := h
    exact ⟨auth, Eq.trans (hsame _ rfl) hauth, htype⟩
  | kv2Mount | transitMount | pkiMount | databaseMount | sshMount =>
    obtain ⟨mount, hmount, hmatch⟩ := h
    exact ⟨mount, Eq.trans (hsame _ rfl) hmount, hmatch⟩
  | transitKey mount name request =>
    obtain ⟨key, hkey⟩ := h
    exact ⟨key, Eq.trans (hsame _ rfl) hkey⟩
  | kv2SecretValues mount path values =>
    obtain ⟨data, hdata, hvalues⟩ := h
    have hcell : s'.secrets mount path = s.secrets mount path := hsame _ rfl
    exact ⟨data, hcell ▸ hdata, hvalues⟩
  | policy | pkiRole | databaseRole | databaseStaticRole | sshRole | identityEntity
  | identityGroup | approleRole =>
    obtain ⟨existing, hexisting, hmatch⟩ := h
    exact ⟨existing, Eq.trans (hsame _ rfl) hexisting, hmatch⟩

theorem Settled.congr {s s' : Server} {operation : BootstrapOperation}
    (hsame : ∀ object ∈ objectOf operation, SameAt s s' object)
    (hlisting : ∀ path, objectOf operation = some (.authMethod path) →
      Readable rule s' (.authMethod path))
    (h : Settled rule written s operation) : Settled rule written s' operation where
  readable object hobject := by
    refine (h.readable object hobject).congr (hsame object hobject) fun path hpath => ?_
    subst hpath
    exact hlisting path hobject
  holds := holds_congr hsame h.holds
  granted := h.granted

/-- Only enabling an auth method changes the listing. -/
theorem serves_authMethods {s s' : Server} {request : BootstrapRequest} {answer : Answer request}
    (hserves : serves backend s request answer s')
    (h : ∀ path, writtenBy request ≠ some (.authMethod path)) :
    s'.authMethods = s.authMethods := by
  cases request with
  | enableAuthMethod path request => exact absurd rfl (h path)
  | listAuthMethods | readMount | readKey | readObject | readSecret =>
    exact congrArg Server.authMethods hserves.1
  | createToken | generateSecretId => exact congrArg Server.authMethods hserves
  | enableMount | createKey | writeObject | writeSecret | patchSecret =>
    obtain ⟨rfl, -⟩ | ⟨-, rfl⟩ := Applied.cases hserves
    · rfl
    · rfl

section Keeps

variable {R : Server → Server → Prop} {P : BootstrapRequest → Prop}

/-- A run of a program keeps what each of its requests keeps. -/
theorem exec_keeps (hrefl : ∀ s, R s s) (htrans : ∀ s₁ s₂ s₃, R s₁ s₂ → R s₂ s₃ → R s₁ s₃)
    (hserves : ∀ s request answer s', P request → serves backend s request answer s' → R s s')
    {α : Type} {p : Action α} {trace : List RunEvent} {result : Except Error α} {s s' : Server}
    (hp : p.Sends P) (h : Exec (quiet backend rule written) s p trace result s') : R s s' := by
  induction h with
  | done s a => exact hrefl s
  | send ho hs _ ih =>
    obtain rfl := ho
    exact htrans _ _ _ (hserves _ _ _ _ hp.1 hs.1) (ih (hp.2 _))

theorem stages_keep (hrefl : ∀ s, R s s) (htrans : ∀ s₁ s₂ s₃, R s₁ s₂ → R s₂ s₃ → R s₁ s₃)
    (hserves : ∀ s request answer s', P request → serves backend s request answer s' → R s s')
    {operations : List BootstrapOperation} {report : BootstrapReport}
    {segments : List (List RunEvent)} {result : Except Error BootstrapReport} {s s' : Server}
    (h : Stages (quiet backend rule written) runOperation s report operations segments result s')
    (hsends : ∀ operation ∈ operations, ∀ request, RequestOf operation request → P request) :
    R s s' := by
  have hp : ∀ report operation, (∀ request, RequestOf operation request → P request) →
      (runOperation report operation).Sends P :=
    fun report operation hP => sends_mono hP (runOperation_sends report operation)
  induction h with
  | nil s report => exact hrefl s
  | stop operations hrun =>
    exact exec_keeps hrefl htrans hserves (hp _ _ (hsends _ (by simp))) hrun
  | next hrun hrest ih =>
    exact htrans _ _ _ (exec_keeps hrefl htrans hserves (hp _ _ (hsends _ (by simp))) hrun)
      (ih fun operation hm => hsends operation (List.mem_cons_of_mem _ hm))

end Keeps

/-! ## What a successful step leaves -/

theorem ensureTransitKey_readable {mount name : Str} {request : TransitCreateKeyRequest}
    {trace : List RunEvent} {status : BootstrapStepStatus} {s s' : Server}
    (h : Exec (quiet backend rule written) s (ensureTransitKey mount name request) trace
      (.ok status) s') : Readable rule s' (.key mount name) := by
  obtain ⟨rest, hrest, -⟩ := (exec_read_iff (.readKey mount name) rfl).mp h
  cases hanswer : rule.answer (.readKey mount name) (view s (.readKey mount name)) with
  | ok key =>
    rw [hanswer] at hrest
    obtain ⟨-, -, rfl⟩ := exec_done_iff.mp hrest
    exact ⟨key, hanswer⟩
  | error e =>
    rw [hanswer] at hrest
    dsimp only at hrest
    split_ifs at hrest with hmissing
    · have hnone : s.transitKeys mount name = none := by
        have hfound := (rule.truthful backend s (.readKey mount name) rfl).2
        rw [hanswer] at hfound
        exact hfound hmissing
      have hanswered : Answered (rule.answer (.readKey mount name) none) := by
        rw [← hnone, show rule.answer (.readKey mount name) (s.transitKeys mount name) = .error e
          from hanswer]
        exact hmissing
      obtain ⟨s₁, answer, s₂, rest', rfl, ⟨hserves, -⟩, hrest', -⟩ := exec_call_bind_iff.mp hrest
      cases answer with
      | ok reply =>
        obtain ⟨-, rfl⟩ := hserves
        obtain ⟨-, -, rfl⟩ := exec_done_iff.mp hrest'
        exact ⟨_, (congrArg (rule.answer (.readKey mount name))
          (Server.setKey_transitKeys ..)).trans (rule.keyStored mount name hanswered _)⟩
      | error error =>
        dsimp only at hrest'
        split_ifs at hrest' with hrace
        · obtain ⟨rest, hread, -⟩ := (exec_read_iff (.readKey mount name) rfl).mp hrest'
          cases hagain : rule.answer (.readKey mount name) (view s₂ (.readKey mount name)) with
          | ok key =>
            rw [hagain] at hread
            obtain ⟨-, -, rfl⟩ := exec_done_iff.mp hread
            exact ⟨key, hagain⟩
          | error readError =>
            rw [hagain] at hread
            dsimp only at hread
            split_ifs at hread <;> exact absurd hread not_exec_error_ok
        · exact absurd hrest' not_exec_error_ok
    · exact absurd hrest not_exec_error_ok

theorem mergeValues_text (values data : TextMap Str) :
    mergeValues values (fun key => (data.lookup key).map .text) =
      fun key => ((values ∪ data).lookup key).map .text := by
  funext key
  unfold mergeValues
  cases hkey : values.lookup key with
  | some value =>
    have hmem : key ∈ values := AList.lookup_isSome.mp (by rw [hkey]; rfl)
    rw [AList.lookup_union_left hmem, hkey]
    rfl
  | none => rw [AList.lookup_union_right (AList.lookup_eq_none.mp hkey)]

theorem allText_merge (values data : TextMap Str) (cell : Cell KvData) :
    AllText (cell.write
      (some (mergeValues values fun key => (data.lookup key).map .text))) :=
  ⟨values ∪ data, congrArg some (mergeValues_text values data)⟩

theorem readable_setSecret {mount path : Str} {s : Server} {cell : Cell KvData}
    (hanswered : Answered (rule.answer (.readSecret mount path) (s.secrets mount path)))
    (htext : AllText cell) : Readable rule (s.setSecret mount path cell) (.secret mount path) := by
  obtain ⟨secret, hsecret⟩ := rule.secretStored mount path _ hanswered cell htext
  refine ⟨secret, (congrArg (rule.answer (.readSecret mount path)) ?_).trans hsecret⟩
  exact Server.setSecret_secrets ..

theorem ensureSecretValues_readable {mount path : Str} {values : TextMap Str}
    {trace : List RunEvent} {status : BootstrapStepStatus} {s s' : Server}
    (h : Exec (quiet backend rule written) s (ensureSecretValues mount path values) trace
      (.ok status) s') : Readable rule s' (.secret mount path) := by
  obtain ⟨rest, hrest, -⟩ := (exec_read_iff (.readSecret mount path) rfl).mp h
  have hfound := (rule.truthful backend s (.readSecret mount path) rfl).2
  cases hanswer : rule.answer (.readSecret mount path) (view s (.readSecret mount path)) with
  | ok secret =>
    rw [hanswer] at hrest hfound
    simp only [convergeSecret] at hrest
    split_ifs at hrest with hpatch
    · obtain ⟨s₁, answer, rfl, ⟨hserves, -⟩, -, hresult⟩ := exec_call_succeed hrest
      obtain ⟨reply, rfl, -⟩ := ok_eq_map hresult
      obtain ⟨-, rfl⟩ := hserves
      refine readable_setSecret (hanswer.symm ▸ trivial) ?_
      rw [hfound.data]
      exact allText_merge values secret.data _
    · obtain ⟨-, -, rfl⟩ := exec_done_iff.mp hrest
      exact ⟨secret, hanswer⟩
  | error e =>
    rw [hanswer] at hrest hfound
    dsimp only at hrest
    split_ifs at hrest with hmissing
    · rw [convergeSecret_none] at hrest
      obtain ⟨s₁, answer, rfl, ⟨hserves, -⟩, -, hresult⟩ := exec_call_succeed hrest
      obtain ⟨reply, rfl, -⟩ := ok_eq_map hresult
      obtain ⟨-, rfl⟩ := hserves
      exact readable_setSecret (hanswer.symm ▸ hmissing) (allText_merge values ∅ _)
    · exact absurd hrest not_exec_error_ok

theorem readable_of_confirmedByWrite {operation : BootstrapOperation}
    (hconfirmed : ConfirmedByWrite operation) {report report' : BootstrapReport}
    {segment : List RunEvent} {s s' : Server}
    (h : Exec (quiet backend rule written) s (runOperation report operation) segment
      (.ok report') s') : ∀ object ∈ objectOf operation, Readable rule s' object := by
  rintro object hobject
  cases operation with
  | transitKey mount name request =>
    obtain ⟨r, hr, hresult⟩ := exec_record_iff.mp h
    obtain ⟨status, rfl, -⟩ := ok_eq_map hresult
    obtain rfl := Option.some.inj hobject
    exact ensureTransitKey_readable hr
  | kv2SecretValues mount path values =>
    obtain ⟨r, hr, hresult⟩ := exec_record_iff.mp h
    obtain ⟨status, rfl, -⟩ := ok_eq_map hresult
    obtain rfl := Option.some.inj hobject
    exact ensureSecretValues_readable hr
  | _ => cases hconfirmed

/-- What a successful step has found or written. -/
theorem runOperation_holds {operation : BootstrapOperation} (ha : operation.Accepted)
    (hissues : ¬ Issues operation) {report report' : BootstrapReport} {segment : List RunEvent}
    {s s' : Server}
    (h : Exec (quiet backend rule written) s (runOperation report operation) segment
      (.ok report') s') :
    Holds s' operation ∧ ∀ object ∈ objectOf operation, Readable rule s' object := by
  obtain ⟨step, -, hjustified⟩ := runOperation_justified ha (exec_environment h)
  obtain ⟨e, he, hj⟩ := hjustified hissues
  have hafter := h.after_last he
  obtain ⟨hrequest, hserves⟩ :=
    h.served (runOperation_sends report operation) e (List.mem_of_getLast? he)
  obtain ⟨request, before, answer, after⟩ := e
  obtain rfl : after = s' := hafter
  cases hj with
  | read hread hok hholds =>
    obtain rfl : after = before := serves_read hread hserves.1
    refine ⟨hholds, fun object hobject => ?_⟩
    obtain rfl : request = readOf object := hrequest.eq_readOf hread hobject
    obtain ⟨reply, hreply⟩ := hok
    have hanswer := hserves.2
    rw [if_pos hread] at hanswer
    exact ⟨reply, hanswer.symm.trans hreply⟩
  | write hstatus hbyWrite hwrite hok hholds =>
    exact ⟨hholds, readable_of_confirmedByWrite hbyWrite h⟩

/-- A credential that the run was given. -/
theorem runOperation_granted {operation : BootstrapOperation} {report report' : BootstrapReport}
    {segment : List RunEvent} {s s' : Server}
    (h : Exec (quiet backend rule written) s (runOperation report operation) segment
      (.ok report') s') : Granted written operation := by
  cases operation with
  | serviceToken name request =>
    obtain ⟨s₁, answer, rfl, ⟨-, hanswer⟩, -, hresult⟩ := exec_call_succeed h
    obtain ⟨auth, rfl, -⟩ := ok_eq_map hresult
    exact ⟨auth, hanswer⟩
  | approleSecretId name mount roleName request =>
    obtain ⟨s₁, answer, rfl, ⟨-, hanswer⟩, -, hresult⟩ := exec_call_succeed h
    obtain ⟨secretId, rfl, -⟩ := ok_eq_map hresult
    exact ⟨secretId, hanswer⟩
  | _ => trivial

theorem runOperation_settled {operation : BootstrapOperation} (ha : operation.Accepted)
    {report report' : BootstrapReport} {segment : List RunEvent} {s s' : Server}
    (h : Exec (quiet backend rule written) s (runOperation report operation) segment
      (.ok report') s') : Settled rule written s' operation := by
  by_cases hissues : Issues operation
  · refine ⟨?_, ?_, runOperation_granted h⟩
    · rw [issues_iff.mp hissues]
      simp
    · cases operation with
      | serviceToken | approleSecretId => trivial
      | _ => cases hissues
  · obtain ⟨hholds, hreadable⟩ := runOperation_holds ha hissues h
    exact ⟨hreadable, hholds, runOperation_granted h⟩

theorem stages_sameAt {operations : List BootstrapOperation} {report : BootstrapReport}
    {segments : List (List RunEvent)} {result : Except Error BootstrapReport} {s s' : Server}
    {object : BootstrapObject}
    (h : Stages (quiet backend rule written) runOperation s report operations segments result s')
    (hobject : Canonical object)
    (hother : ∀ operation ∈ operations, objectOf operation ≠ some object) :
    SameAt s s' object :=
  @stages_keep backend rule written (SameAt · · object) (fun request => writtenBy request ≠ some object)
    (fun s => .refl s object) (fun _ _ _ => .trans)
    (fun _ _ _ _ hrequest hserves => serves_sameAt object hserves hobject hrequest) _ _ _ _ _ _ h
    fun operation hm _ hrequest hwritten => hother operation hm (hrequest.objectOf_eq hwritten)

theorem stages_authMethods {operations : List BootstrapOperation} {report : BootstrapReport}
    {segments : List (List RunEvent)} {result : Except Error BootstrapReport} {s s' : Server}
    (h : Stages (quiet backend rule written) runOperation s report operations segments result s')
    (hother : ∀ operation ∈ operations, ∀ path, objectOf operation ≠ some (.authMethod path)) :
    s'.authMethods = s.authMethods :=
  @stages_keep backend rule written (fun s s' => s'.authMethods = s.authMethods)
    (fun request => ∀ path, writtenBy request ≠ some (.authMethod path)) (fun _ => rfl)
    (fun _ _ _ h h' => h'.trans h) (fun _ _ _ _ hrequest hserves => serves_authMethods hserves hrequest) _ _ _ _ _ _ h
    fun operation hm _ hrequest path hwritten =>
      hother operation hm path (hrequest.objectOf_eq hwritten)

theorem canonical_of_canonicalPath {operation : BootstrapOperation}
    (h : operation.CanonicalPath) : ∀ object ∈ objectOf operation, Canonical object := by
  intro object hobject
  cases operation with
  | serviceToken | approleSecretId => cases hobject
  | authMethod path backendType description =>
    obtain rfl := Option.some.inj hobject
    exact h
  | _ =>
    obtain rfl := Option.some.inj hobject
    trivial

/-- After a successful run every operation of the plan is settled. -/
theorem stages_settled {operations : List BootstrapOperation} {report report' : BootstrapReport}
    {segments : List (List RunEvent)} {result : Except Error BootstrapReport} {s s' : Server}
    (h : Stages (quiet backend rule written) runOperation s report operations segments result s')
    (hresult : result = .ok report') (ha : ∀ operation ∈ operations, operation.Accepted)
    (hpaths : ∀ operation ∈ operations, operation.CanonicalPath)
    (hdistinct : (operations.filterMap objectOf).Nodup) :
    ∀ operation ∈ operations, Settled rule written s' operation := by
  induction h with
  | nil s report => simp
  | stop operations hstep => cases hresult
  | @next s s₁ s' report report₁ operation operations segment segments result hstep hrest ih =>
    have hrestDistinct : (operations.filterMap objectOf).Nodup :=
      hdistinct.sublist ((List.sublist_cons_self _ _).filterMap objectOf)
    have hlater : ∀ operation ∈ operations, Settled rule written s' operation :=
      ih hresult (fun o hm => ha o (List.mem_cons_of_mem _ hm))
        (fun o hm => hpaths o (List.mem_cons_of_mem _ hm)) hrestDistinct
    refine List.forall_mem_cons.mpr ⟨?_, hlater⟩
    have hsettled := runOperation_settled (ha operation (by simp)) hstep
    refine hsettled.congr (fun object hobject => stages_sameAt hrest ?_ fun o ho heq => ?_) ?_
    · exact canonical_of_canonicalPath (hpaths operation (by simp)) object hobject
    · rw [List.filterMap_cons_some hobject] at hdistinct
      exact (List.nodup_cons.mp hdistinct).1 (List.mem_filterMap.mpr ⟨o, ho, heq⟩)
    -- The last auth method of the plan has been listed with all before it.
    · intro path hobject
      by_cases hlast : ∃ o ∈ operations, ∃ path, objectOf o = some (.authMethod path)
      · obtain ⟨o, ho, path', hpath⟩ := hlast
        have hlisted : Readable rule s' (.authMethod path') := (hlater o ho).readable _ hpath
        exact hlisted
      · have hsame : s'.authMethods = s₁.authMethods := by
          refine stages_authMethods hrest fun o ho path hpath => ?_
          exact hlast ⟨o, ho, path, hpath⟩
        obtain ⟨reply, hreply⟩ := hsettled.readable _ hobject
        exact ⟨reply, (congrArg (rule.answer .listAuthMethods) hsame).trans hreply⟩

/-! ## The second run -/

theorem ensureAuthMethod_again {s : Server} {path expectedType : Str} {request : AuthEnableRequest}
    (hholds : ∃ auth, authMethodAt s.authMethods path = some auth ∧
      auth.backendType = expectedType)
    (hreadable : Readable rule s (.authMethod path)) :
    JustReads (quiet backend rule written) rule s .listAuthMethods
      (ensureAuthMethod path expectedType request) (.ok .unchanged) := by
  obtain ⟨auth, hauth, htype⟩ := hholds
  obtain ⟨methods, hanswer⟩ := hreadable
  obtain rfl : s.authMethods = methods :=
    (rule.truthful backend s .listAuthMethods rfl).2 methods hanswer
  refine justReads_call rfl ?_
  rw [show rule.answer .listAuthMethods (view s .listAuthMethods) = .ok s.authMethods from hanswer]
  dsimp only
  rw [hauth]
  exact if_neg (not_not.mpr htype)

theorem ensureMount_again {s : Server} {path expectedType : Str}
    {expectedOption : Option (Str × Str)} {request : MountEnableRequest}
    (hholds : MountHolds s path expectedType expectedOption)
    (hreadable : Readable rule s (.mount path)) :
    JustReads (quiet backend rule written) rule s (.readMount path)
      (ensureMount path expectedType expectedOption request) (.ok .unchanged) := by
  obtain ⟨mount, hmount, htype, hoption⟩ := hholds
  obtain ⟨reply, hanswer⟩ := hreadable
  have hfound := (rule.truthful backend s (.readMount path) rfl).2
  rw [show rule.answer (.readMount path) (view s (.readMount path)) = .ok reply from hanswer]
    at hfound
  obtain rfl : mount = reply := Option.some.inj (hmount.symm.trans hfound)
  refine justReads_call rfl ?_
  rw [show rule.answer (.readMount path) (view s (.readMount path)) = .ok mount from hanswer]
  dsimp only
  rw [if_neg (not_not.mpr htype), hoption]

theorem ensureTransitKey_again {s : Server} {mount name : Str}
    {request : TransitCreateKeyRequest} (hreadable : Readable rule s (.key mount name)) :
    JustReads (quiet backend rule written) rule s (.readKey mount name)
      (ensureTransitKey mount name request) (.ok .unchanged) := by
  obtain ⟨key, hanswer⟩ := hreadable
  refine justReads_call rfl ?_
  rw [show rule.answer (.readKey mount name) (view s (.readKey mount name)) = .ok key from hanswer]

/-- What a match has ruled out. -/
theorem unsafeConfiguration_of_matchesDesired {kind : ObjectKind} {existing : kind.Existing}
    {desired : kind.Desired} (h : kind.matchesDesired existing desired = true) :
    kind.unsafeConfiguration existing = none := by
  by_cases hpolicy : kind = .policy
  · subst hpolicy
    have hsafe := (Bool.and_eq_true_iff.mp h).2
    exact refusal_eq_none_iff.mpr (Bool.not_eq_true' _ ▸ hsafe)
  · exact ((matchesDesired_iff hpolicy).mp h).1

theorem ensureObject_again {s : Server} {kind : ObjectKind} {address : ObjectAddress}
    {desired : kind.Desired} (hholds : ObjectHolds s kind address desired)
    (hreadable : Readable rule s (.object kind address)) :
    JustReads (quiet backend rule written) rule s (.readObject kind address)
      (ensureObject kind address desired) (.ok .unchanged) := by
  obtain ⟨existing, hexisting, hmatch⟩ := hholds
  obtain ⟨reply, hanswer⟩ := hreadable
  have hfound := (rule.truthful backend s (.readObject kind address) rfl).2
  rw [show rule.answer (.readObject kind address) (view s (.readObject kind address)) = .ok reply
    from hanswer] at hfound
  obtain rfl : existing = reply := Option.some.inj (hexisting.symm.trans hfound)
  refine justReads_call rfl ?_
  rw [show rule.answer (.readObject kind address) (view s (.readObject kind address)) =
    .ok existing from hanswer]
  dsimp only
  rw [unsafeConfiguration_of_matchesDesired hmatch]
  exact if_pos hmatch

theorem ensureSecretValues_again {s : Server} {mount path : Str} {values : TextMap Str}
    (hholds : SecretHolds s mount path values) (hreadable : Readable rule s (.secret mount path)) :
    JustReads (quiet backend rule written) rule s (.readSecret mount path)
      (ensureSecretValues mount path values) (.ok .unchanged) := by
  obtain ⟨data, hdata, hvalues⟩ := hholds
  obtain ⟨secret, hanswer⟩ := hreadable
  have hfound := (rule.truthful backend s (.readSecret mount path) rfl).2
  rw [show rule.answer (.readSecret mount path) (view s (.readSecret mount path)) = .ok secret
    from hanswer] at hfound
  obtain rfl := Option.some.inj (hdata.symm.trans hfound.data)
  refine justReads_call rfl ?_
  rw [show rule.answer (.readSecret mount path) (view s (.readSecret mount path)) = .ok secret
    from hanswer]
  have hpatch : needsPatch (some secret) values = false := by
    refine needsPatch_some_eq_false_iff.mpr fun entry hentry => ?_
    obtain ⟨current, hcurrent, hequal⟩ := hvalues entry hentry
    obtain ⟨value, hlookup, htext⟩ := Option.map_eq_some_iff.mp hcurrent
    exact ⟨value, hlookup, KvValue.text.inj htext ▸ hequal⟩
  simp only [convergeSecret, hpatch]
  rfl

/-- A settled step reads its object and reports it as unchanged. -/
theorem Settled.justReads {s : Server} {operation : BootstrapOperation}
    {object : BootstrapObject} (h : Settled rule written s operation)
    (hobject : objectOf operation = some object) (report : BootstrapReport) :
    ∃ targetType target, JustReads (quiet backend rule written) rule s (readOf object)
      (runOperation report operation)
      (.ok { report with steps := report.steps ++ [⟨targetType, target, .unchanged⟩] }) := by
  obtain ⟨hreadable, hholds, -⟩ := h
  have hread := hreadable object hobject
  cases operation with
  | serviceToken | approleSecretId => cases hobject
  | authMethod path backendType description =>
    obtain rfl := Option.some.inj hobject
    exact ⟨_, _, (ensureAuthMethod_again hholds hread).record _ _ _⟩
  | kv2Mount | transitMount | pkiMount | databaseMount | sshMount =>
    obtain rfl := Option.some.inj hobject
    exact ⟨_, _, (ensureMount_again hholds hread).record _ _ _⟩
  | transitKey =>
    obtain rfl := Option.some.inj hobject
    exact ⟨_, _, (ensureTransitKey_again hread).record _ _ _⟩
  | kv2SecretValues =>
    obtain rfl := Option.some.inj hobject
    exact ⟨_, _, (ensureSecretValues_again hholds hread).record _ _ _⟩
  | policy | pkiRole | databaseRole | databaseStaticRole | sshRole | identityEntity
  | identityGroup | approleRole =>
    obtain rfl := Option.some.inj hobject
    exact ⟨_, _, (ensureObject_again hholds hread).record _ _ _⟩

/-- The status of an operation in a second run. -/
def statusAgain (operation : BootstrapOperation) : BootstrapStepStatus :=
  if objectOf operation = none then .issued else .unchanged

/-- Every run of a step succeeds without a write, and there is one. -/
structure RunsAgain (env : Environment Answer Server) (s : Server) (report : BootstrapReport)
    (operation : BootstrapOperation) : Prop where
  total : ∃ segment report', Exec env s (runOperation report operation) segment (.ok report') s
  only : ∀ segment result s', Exec env s (runOperation report operation) segment result s' →
    s' = s ∧ (∀ e ∈ segment, isRead e.request = true ∨ issues e.request = true) ∧
      ∃ report' step, result = .ok report' ∧ report'.steps = report.steps ++ [step] ∧
        step.status = statusAgain operation

theorem Settled.runsAgain_object {s : Server} {operation : BootstrapOperation}
    {object : BootstrapObject} (h : Settled rule written s operation)
    (hobject : objectOf operation = some object) (report : BootstrapReport) :
    RunsAgain (quiet backend rule written) s report operation := by
  obtain ⟨targetType, target, hreads⟩ : ∃ targetType target,
      JustReads (quiet backend rule written) rule s (readOf object) (runOperation report operation)
        (.ok { report with steps := report.steps ++ [⟨targetType, target, .unchanged⟩] }) :=
    h.justReads hobject report
  refine ⟨⟨_, _, (hreads _ _ _).mpr ⟨rfl, rfl, rfl⟩⟩, fun segment result s' hrun => ?_⟩
  obtain ⟨rfl, rfl, rfl⟩ := (hreads _ _ _).mp hrun
  refine ⟨rfl, fun e he => ?_, _, _, rfl, rfl, ?_⟩
  · rw [List.mem_singleton.mp he]
    exact .inl (isRead_readOf object)
  · rw [statusAgain, if_neg (by rw [hobject]; simp)]

/-- A server that has issued a credential issues it to the same request again. -/
def IssuesAgain (written : (request : BootstrapRequest) → Answer request → Prop) : Prop :=
  ∀ request, issues request = true → ∀ reply, written request (.ok reply) →
    ∀ answer, written request answer → ∃ reply', answer = .ok reply'

theorem runsAgain_issue {operation : BootstrapOperation} {request : BootstrapRequest}
    {report : BootstrapReport} {f : Reply request → BootstrapReport} {step : BootstrapStepReport}
    {reply : Reply request} {s : Server}
    (hoperation : runOperation report operation =
      (Prog.call request : Action (Reply request)).andThen fun reply => succeed (f reply))
    (hsteps : ∀ reply, (f reply).steps = report.steps ++ [step])
    (hstatus : step.status = statusAgain operation) (hrequest : issues request = true)
    (hgranted : written request (.ok reply)) (hagain : IssuesAgain written) :
    RunsAgain (quiet backend rule written) s report operation := by
  have hnotRead := isRead_of_issues hrequest
  constructor
  · rw [hoperation]
    refine ⟨_, f reply, exec_call_bind_iff.mpr
      ⟨s, .ok reply, s, [], rfl, ⟨(serves_issues_iff hrequest).mpr rfl, ?_⟩, .done _ _, rfl⟩⟩
    rw [if_neg hnotRead]
    exact hgranted
  · intro segment result s' hrun
    rw [hoperation] at hrun
    obtain ⟨s₁, answer, rfl, ⟨hserves, hanswer⟩, rfl, rfl⟩ := exec_call_succeed hrun
    rw [if_neg hnotRead] at hanswer
    obtain ⟨reply', rfl⟩ := hagain request hrequest reply hgranted answer hanswer
    refine ⟨(serves_issues_iff hrequest).mp hserves, fun e he => ?_, _, step, rfl, hsteps reply',
      hstatus⟩
    rw [List.mem_singleton.mp he]
    exact .inr hrequest

theorem Settled.runsAgain {s : Server} {operation : BootstrapOperation}
    (h : Settled rule written s operation) (hagain : IssuesAgain written)
    (report : BootstrapReport) : RunsAgain (quiet backend rule written) s report operation := by
  cases hobject : objectOf operation with
  | some object => exact h.runsAgain_object hobject report
  | none =>
    cases operation with
    | serviceToken name request =>
      obtain ⟨auth, hgranted⟩ := h.granted
      exact runsAgain_issue rfl (fun _ => rfl) rfl rfl hgranted hagain
    | approleSecretId name mount roleName request =>
      obtain ⟨secretId, hgranted⟩ := h.granted
      exact runsAgain_issue rfl (fun _ => rfl) rfl rfl hgranted hagain
    | _ => cases hobject

/-- A run over settled operations succeeds, -/
theorem exists_run_again {operations : List BootstrapOperation} {s : Server}
    (h : ∀ operation ∈ operations, Settled rule written s operation)
    (hagain : IssuesAgain written) (report : BootstrapReport) :
    ∃ trace report', Exec (quiet backend rule written) s
      (Prog.traverse runOperation operations report) trace (.ok report') s := by
  induction operations generalizing report with
  | nil => exact ⟨[], report, .done _ _⟩
  | cons operation operations ih =>
    have hstage : RunsAgain (quiet backend rule written) s report operation :=
      (h operation (by simp)).runsAgain hagain report
    obtain ⟨segment, report₁, hstep⟩ := hstage.total
    obtain ⟨trace, report', hrest⟩ :=
      ih (fun o ho => h o (List.mem_cons_of_mem _ ho)) report₁
    exact ⟨segment ++ trace, report', exec_andThen_ok_iff.mpr
      ⟨report₁, segment, s, trace, hstep, hrest, rfl⟩⟩

/-- and every such run reads, issues, and reports nothing else. -/
theorem run_again {operations : List BootstrapOperation} {s s' : Server}
    (h : ∀ operation ∈ operations, Settled rule written s operation)
    (hagain : IssuesAgain written) {report : BootstrapReport} {trace : List RunEvent}
    {result : Except Error BootstrapReport}
    (hrun : Exec (quiet backend rule written) s (Prog.traverse runOperation operations report)
      trace result s') :
    (∀ e ∈ trace, isRead e.request = true ∨ issues e.request = true) ∧
      ∃ report', result = .ok report' ∧
        report'.steps.map (·.status) =
          report.steps.map (·.status) ++ operations.map statusAgain := by
  induction operations generalizing report trace with
  | nil =>
    obtain ⟨rfl, rfl, rfl⟩ := exec_done_iff.mp hrun
    exact ⟨by simp, report, rfl, by simp⟩
  | cons operation operations ih =>
    have hstage : RunsAgain (quiet backend rule written) s report operation :=
      (h operation (by simp)).runsAgain hagain report
    rcases exec_andThen_iff.mp hrun with
      ⟨e, hstep, rfl⟩ | ⟨report₁, segment, s₁, rest, hstep, hrest, rfl⟩
    · obtain ⟨-, -, report', step, hresult, -⟩ := hstage.only _ _ _ hstep
      cases hresult
    · obtain ⟨rfl, hrequests, report', step, hresult, hsteps, hstatus⟩ := hstage.only _ _ _ hstep
      obtain rfl := Except.ok.inj hresult
      obtain ⟨hrestRequests, report₂, rfl, hstatuses⟩ :=
        ih (fun o ho => h o (List.mem_cons_of_mem _ ho)) hrest
      refine ⟨fun e he => ?_, report₂, rfl, ?_⟩
      · exact (List.mem_append.mp he).elim (hrequests e) (hrestRequests e)
      · rw [hstatuses, hsteps]
        simp [hstatus]

/-- A successful run without other clients makes the next one a run of reads: it
succeeds, writes nothing and finds every object unchanged. -/
theorem run_idempotent {plan : AdminBootstrap} (hplan : Built plan)
    (hdistinct : (plan.operations.filterMap objectOf).Nodup) (hagain : IssuesAgain written)
    {s s' : Server} {trace : List RunEvent} {report : BootstrapReport}
    (h : Exec (quiet backend rule written) s (run plan) trace (.ok report) s') :
    (∃ trace₂ report₂, Exec (quiet backend rule written) s' (run plan) trace₂ (.ok report₂) s') ∧
      ∀ trace₂ result₂ s₂, Exec (quiet backend rule written) s' (run plan) trace₂ result₂ s₂ →
        (∀ e ∈ trace₂, isRead e.request = true ∨ issues e.request = true) ∧
          ∃ report₂, result₂ = .ok report₂ ∧
            report₂.steps.map (·.status) = plan.operations.map statusAgain ∧
            (report₂.isConverged = true ↔
              ∀ operation ∈ plan.operations, ¬ Issues operation) := by
  obtain ⟨segments, rfl, hstages⟩ := exec_traverse h
  have hsettled := stages_settled hstages rfl plan.accepted hplan.canonicalPath hdistinct
  refine ⟨exists_run_again hsettled hagain {}, fun trace₂ result₂ s₂ hrun => ?_⟩
  obtain ⟨hrequests, report₂, rfl, hsteps⟩ := run_again hsettled hagain hrun
  have hstatuses : report₂.steps.map (·.status) = plan.operations.map statusAgain := by
    simpa using hsteps
  refine ⟨hrequests, report₂, rfl, hstatuses, ?_⟩
  have hconverged : report₂.isConverged =
      (report₂.steps.map (·.status)).all (· = .unchanged) := by
    rw [BootstrapReport.isConverged, List.all_map]
    rfl
  rw [hconverged, hstatuses]
  simp [statusAgain, issues_iff]

end Idempotence

/-! ## A key that is created once -/

theorem keyPlan_built : Built keyPlan :=
  .call (.ensureTransitKey "transit".toList "app".toList {}) .new rfl

/-- A server that accepts every write and issues no credential. -/
def acceptsWrites (request : BootstrapRequest) (answer : Answer request) : Prop :=
  issues request = false ∧ ∃ reply, answer = .ok reply

theorem keyPlan_quiet_run :
    Exec (quiet plainBackend plainReads acceptsWrites) .empty (run keyPlan) keyTrace
      (.ok { steps := [⟨"transit_key", "transit/app".toList, .created⟩] }) keyServer :=
  .send rfl ⟨⟨rfl, fun _ => rfl⟩, rfl⟩
    (.send rfl ⟨⟨trivial, rfl⟩, rfl, (), rfl⟩ (.done _ _))

theorem run_idempotent_key :
    (∃ trace₂ report₂, Exec (quiet plainBackend plainReads acceptsWrites) keyServer (run keyPlan)
        trace₂ (.ok report₂) keyServer) ∧
      ∀ trace₂ result₂ s₂,
        Exec (quiet plainBackend plainReads acceptsWrites) keyServer (run keyPlan) trace₂ result₂
          s₂ →
        (∀ e ∈ trace₂, isRead e.request = true ∨ issues e.request = true) ∧
          ∃ report₂, result₂ = .ok report₂ ∧
            report₂.steps.map (·.status) = keyPlan.operations.map statusAgain ∧
            (report₂.isConverged = true ↔
              ∀ operation ∈ keyPlan.operations, ¬ Issues operation) := by
  refine run_idempotent keyPlan_built (by decide) ?_ keyPlan_quiet_run
  rintro request hrequest reply ⟨hnone, -⟩
  rw [hrequest] at hnone
  cases hnone

/-! ## Servers that refuse the second run -/

/-- Some plan succeeds on the empty server, and is refused at once when it runs again. -/
def RefusesAgain (env : Environment Answer Server) : Prop :=
  ∃ (plan : AdminBootstrap) (trace trace₂ : List RunEvent) (report : BootstrapReport)
    (error : Error) (s' : Server), Built plan ∧ (plan.operations.filterMap objectOf).Nodup ∧
      Exec env .empty (run plan) trace (.ok report) s' ∧
      Exec env s' (run plan) trace₂ (.error error) s'

def tokenPlan : AdminBootstrap :=
  ⟨[.serviceToken "app".toList {}], by decide, by simp [BootstrapOperation.Accepted]⟩

/-- The second token may be refused. -/
theorem refusesAgain_token : RefusesAgain (quiet plainBackend plainReads fun _ _ => True) :=
  ⟨tokenPlan, [⟨.createToken {}, .empty, .ok ⟨[], [], [], [], ∅, 0, false, none, none, false⟩, .empty⟩],
    [⟨.createToken {}, .empty, .error (.api 429 []), .empty⟩], _, _, .empty,
    .call (.issueServiceToken "app".toList {}) .new rfl, by decide,
    .send rfl ⟨rfl, trivial⟩ (.done _ _), .send rfl ⟨rfl, trivial⟩ (.done _ _)⟩

/-- A server whose answer to a read is a function of its whole state. -/
def readsFrom (answer : Server → (request : BootstrapRequest) → Answer request) :
    Environment Answer Server where
  serves s request reply s' :=
    serves plainBackend s request reply s' ∧ (isRead request = true → reply = answer s request)
  others s s' := s = s'

/-- The policy `a` is hidden while there is a policy `b`. -/
noncomputable def hidingPolicy (s : Server) (request : BootstrapRequest) : Answer request :=
  match request with
  | .readObject .policy address =>
    if address.name = "a".toList ∧ (s.objects .policy ⟨none, "b".toList⟩).isSome then
      .error (.api 403 [])
    else foundOrNot (s.objects .policy address)
  | request => plainReads.answer request (view s request)

def policyPlan : AdminBootstrap :=
  ⟨[.policy "a".toList [], .policy "b".toList []], by decide,
    by simp [BootstrapOperation.Accepted, byteLen]⟩

theorem policyPlan_built : Built policyPlan :=
  .call (.ensurePolicyDocument "b".toList [])
    (.call (.ensurePolicyDocument "a".toList []) .new rfl) rfl

/-- What the server stores for a policy without rules. -/
def emptyPolicy : PolicyInfoDetails := { policy := { rules := [] } }

theorem emptyPolicy_matches : ObjectKind.policy.matchesDesired emptyPolicy [] = true := by
  have hrules : policyRulesEqual [] [] = true := (policyRulesEqual_iff (by decide)).mpr rfl
  have hsafe : policyHasUnsafeTemplateOverrides emptyPolicy = false := rfl
  change policyMatchesDesired emptyPolicy [] = true
  rw [policyMatchesDesired, hsafe]
  simpa [emptyPolicy] using hrules

def policyServer : Server := Server.empty.setObject .policy ⟨none, "a".toList⟩ emptyPolicy

def policiesServer : Server := policyServer.setObject .policy ⟨none, "b".toList⟩ emptyPolicy

/-- A step that finds no object, writes it and reads it back as wanted. -/
theorem ensureObject_creates {env : Environment Answer Server} {s s' : Server} {kind : ObjectKind}
    {address : ObjectAddress} {desired : kind.Desired} {stored : kind.Existing}
    (halone : ∀ s, env.others s s)
    (hread : env.serves s (.readObject kind address) (.error (.api 404 [])) s)
    (hwrite : env.serves s (.writeObject kind address desired) (.ok ()) s')
    (hagain : env.serves s' (.readObject kind address) (.ok stored) s')
    (hmatch : kind.matchesDesired stored desired = true) :
    ∃ trace, Exec env s (ensureObject kind address desired) trace (.ok .created) s' := by
  have hdone : Exec env s' (if kind.matchesDesired stored desired then succeed .created else
      fail bootstrapContentionError : Action BootstrapStepStatus) [] (.ok .created) s' := by
    rw [if_pos hmatch]
    exact .done _ _
  exact ⟨_, .send (halone s) hread (.send (halone s) hwrite (.send (halone s') hagain hdone))⟩

theorem refusesAgain_policy : RefusesAgain (readsFrom hidingPolicy) := by
  obtain ⟨first, hfirst⟩ : ∃ trace, Exec (readsFrom hidingPolicy) .empty
      (ensureObject .policy ⟨none, "a".toList⟩ []) trace (.ok .created) policyServer :=
    ensureObject_creates (fun _ => rfl) ⟨⟨rfl, fun _ => rfl⟩, fun _ => rfl⟩
      ⟨⟨trivial, rfl⟩, fun h => by cases h⟩ ⟨⟨rfl, rfl⟩, fun _ => rfl⟩ emptyPolicy_matches
  obtain ⟨second, hsecond⟩ : ∃ trace, Exec (readsFrom hidingPolicy) policyServer
      (ensureObject .policy ⟨none, "b".toList⟩ []) trace (.ok .created) policiesServer :=
    ensureObject_creates (fun _ => rfl) ⟨⟨rfl, fun _ => rfl⟩, fun _ => rfl⟩
      ⟨⟨trivial, rfl⟩, fun h => by cases h⟩ ⟨⟨rfl, rfl⟩, fun _ => rfl⟩ emptyPolicy_matches
  obtain ⟨trace, report, hrun⟩ : ∃ trace report,
      Exec (readsFrom hidingPolicy) .empty (run policyPlan) trace (.ok report) policiesServer :=
    ⟨_, _, exec_andThen_ok_iff.mpr ⟨_, first, _, _, exec_record_iff.mpr ⟨_, hfirst, rfl⟩,
      exec_andThen_ok_iff.mpr
        ⟨_, second, _, [], exec_record_iff.mpr ⟨_, hsecond, rfl⟩, .done _ _, rfl⟩, rfl⟩⟩
  refine ⟨policyPlan, trace,
    [⟨.readObject .policy ⟨none, "a".toList⟩, policiesServer, .error (.api 403 []), policiesServer⟩],
    report, .api 403 [], policiesServer, policyPlan_built, by decide, hrun, ?_⟩
  exact .send rfl ⟨⟨rfl, fun h => by cases h⟩, fun _ => rfl⟩ (.done _ _)

/-- A secret is hidden once it is there. -/
noncomputable def hidingSecret (s : Server) (request : BootstrapRequest) : Answer request :=
  match request with
  | .readSecret mount path =>
    if (s.secrets mount path).value.isSome then .error (.api 403 []) else .error (.api 404 [])
  | request => plainReads.answer request (view s request)

def secretPlan : AdminBootstrap :=
  ⟨[.kv2SecretValues "secret".toList "app".toList ∅], by decide,
    by simp [BootstrapOperation.Accepted]⟩

def secretServer : Server :=
  Server.empty.setSecret "secret".toList "app".toList (Cell.empty.write (some fun _ => none))

theorem refusesAgain_secret : RefusesAgain (readsFrom hidingSecret) := by
  refine ⟨secretPlan,
    [⟨.readSecret "secret".toList "app".toList, .empty, .error (.api 404 []), .empty⟩,
      ⟨.writeSecret "secret".toList "app".toList ∅ (some ⟨some 0⟩), .empty, .ok ⟨1⟩,
        secretServer⟩],
    [⟨.readSecret "secret".toList "app".toList, secretServer, .error (.api 403 []),
      secretServer⟩],
    { steps := [⟨"kv2_secret", "secret/app".toList, .created⟩] }, .api 403 [], secretServer,
    .call (.ensureKv2SecretValues "secret".toList "app".toList ∅) .new rfl, by decide, ?_, ?_⟩
  · refine .send rfl ⟨⟨rfl, fun _ => rfl⟩, fun _ => rfl⟩
      (.send rfl ⟨⟨?_, rfl⟩, fun h => by cases h⟩ (.done _ _))
    rintro _ ⟨⟩ _ ⟨⟩
    rfl
  · exact .send rfl ⟨⟨rfl, fun h => by cases h⟩, fun _ => rfl⟩ (.done _ _)

/-- Idempotence needs all three: credentials issued again, reads that depend on what
they read, and a stored secret that can be read. -/
theorem second_run_refused :
    (∃ written, RefusesAgain (quiet plainBackend plainReads written)) ∧
      RefusesAgain (readsFrom hidingPolicy) ∧ RefusesAgain (readsFrom hidingSecret) :=
  ⟨⟨_, refusesAgain_token⟩, refusesAgain_policy, refusesAgain_secret⟩

end OpenBao.BootstrapIdempotence
