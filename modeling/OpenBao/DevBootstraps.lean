import Mathlib.Data.List.Nodup
import OpenBao.RequestContents
import OpenBao.RequestPrograms

/-!
# Development bootstraps

A fresh development server is initialized and unsealed in one call, which sends its requests
one after the other to a server behind a barrier of key shares. Other clients may use the
server at the same time, and answers may be lost. A request that the client does not prepare
is not sent.
-/

namespace OpenBao.DevBootstraps
open ClientConfigs ClientTransport LoopbackHttp RequestBodyBuffers RequestPrograms Utf8Text

structure DevBootstrapOptions where
  secretShares : ℕ
  secretThreshold : ℕ

/-- An error of the bootstrap itself or of a part that it uses. -/
inductive DevBootstrapError where
  | missingField (field : String)
  | client (error : Error)
  deriving DecidableEq, Repr

structure InitResponse where
  keys : List Str
  keysBase64 : List Str
  rootToken : Str

/-- `stillSealed` is its field `sealed`. -/
structure UnsealStatus where
  stillSealed : Bool
  n : Option ℕ
  t : Option ℕ
  progress : Option ℕ

inductive Request where
  | initStatus
  | init (secretShares secretThreshold : ℕ)
  | unseal (key : Str)
  deriving DecidableEq, Repr

abbrev Value : Request → Type
  | .initStatus => Bool
  | .init .. => InitResponse
  | .unseal _ => UnsealStatus

abbrev Answer (req : Request) : Type := Except Error (Value req)

abbrev Program (α : Type) := Prog Request Answer (Except DevBootstrapError α)

/-! ### The program -/

def validateDevBootstrapOptions (options : DevBootstrapOptions) : Except Error Unit :=
  if options.secretShares = 0 then
    .error (.invalidParameter "secret_shares must be greater than zero")
  else if options.secretThreshold = 0 then
    .error (.invalidParameter "secret_threshold must be greater than zero")
  else if options.secretShares < options.secretThreshold then
    .error (.invalidParameter "secret_threshold must be less than or equal to secret_shares")
  else .ok ()

def requireLoopbackDevTarget (serializeIpv6 : BitVec 128 → Str) (url : Url) : Except Error Unit :=
  if url.host = none then
    .error (.invalidBaseUrl "dev bootstrap requires a numeric loopback OpenBao host")
  else if !isLoopbackUrl serializeIpv6 url then
    .error (.invalidBaseUrl "dev bootstrap is restricted to numeric loopback OpenBao hosts")
  else .ok ()

/-- `InitPayload` and `UnsealPayload` as the serialiser writes them. -/
structure Payloads where
  initPayload : ℕ → ℕ → Serialization
  unsealPayload : Str → Serialization

/-- The call of the client behind a request. -/
def Request.call (payloads : Payloads) : Request → Call
  | .initStatus => .json "GET" "sys/init".toList [] [] none
  | .init secretShares secretThreshold =>
    .json "POST" "sys/init".toList [] [] (some (payloads.initPayload secretShares secretThreshold))
  | .unseal key => .json "POST" "sys/unseal".toList [] [] (some (payloads.unsealPayload key))

structure DevBootstrap (Certificate Identity : Type) where
  client : Client Certificate Identity
  rootToken : Str
  unsealKeys : List Str
  unsealKeysBase64 : List Str
  unsealStatus : UnsealStatus

section Bootstrap

variable {Certificate Identity : Type} (build : Build) (library : HttpLibrary Certificate Identity)
  (client : Client Certificate Identity) (payloads : Payloads) (options : DevBootstrapOptions)

/-- One request, whose failure ends the bootstrap. -/
def request (req : Request) : Program (Value req) :=
  Prog.attempt ((prepare build library client (req.call payloads)).mapError .client) fun _ =>
    (Prog.call req).bind fun answer => .done (answer.mapError .client)

/-- The loop over the shares, with the status of the share before. -/
def unsealWith : Option UnsealStatus → List Str → Program (Option UnsealStatus)
  | status, [] => .done (.ok status)
  | _, key :: keys => (request build library client payloads (.unseal key)).andThen fun status =>
    if status.stillSealed then unsealWith (some status) keys else .done (.ok (some status))

/-- What follows the last share. -/
def finish (response : InitResponse) : Option UnsealStatus →
    Except DevBootstrapError (DevBootstrap Certificate Identity)
  | none => .error (.missingField "unseal status")
  | some status =>
    if status.stillSealed then
      .error (.client (.decode
        "OpenBao remained sealed after submitting the configured dev threshold"))
    else
      ((client.cloneWithoutState.tryWithToken response.rootToken).mapError .client).map fun client =>
        ⟨client, response.rootToken, response.keys, response.keysBase64, status⟩

/-- What follows the initialization. -/
def unsealFresh (response : InitResponse) : Program (DevBootstrap Certificate Identity) :=
  if response.rootToken = [] then .done (.error (.missingField "root_token"))
  else if response.keys.length < options.secretThreshold then
    .done (.error (.missingField "keys"))
  else
    (unsealWith build library client payloads none
      (response.keys.take options.secretThreshold)).andThen fun status =>
        .done (finish client response status)

def bootstrapDevAcknowledged : Program (DevBootstrap Certificate Identity) :=
  Prog.attempt ((validateDevBootstrapOptions options).mapError .client) fun _ =>
    Prog.attempt ((requireLoopbackDevTarget build.serializeIpv6 client.config.baseUrl).mapError
      .client) fun _ =>
      (request build library client payloads .initStatus).andThen fun initialized =>
        if initialized then
          .done (.error (.client (.invalidParameter
            "dev bootstrap refuses to run against an already initialized OpenBao instance")))
        else
          (request build library client payloads
            (.init options.secretShares options.secretThreshold)).andThen fun response =>
              unsealFresh build library client payloads options response

end Bootstrap

/-! ### The server -/

/-- The barrier of an initialized server: its shares, and those submitted since it was sealed. -/
structure Barrier where
  keys : List Str
  threshold : ℕ
  rootToken : Str
  submitted : List Str
  isOpen : Bool

/-- Nothing before the initialization. -/
abbrev Server := Option Barrier

namespace Barrier

/-- The barrier of one initialization. -/
structure Same (b b' : Barrier) : Prop where
  keys : b'.keys = b.keys
  threshold : b'.threshold = b.threshold
  rootToken : b'.rootToken = b.rootToken

/-- A share counts once, and the last one that is needed opens the barrier. -/
def submit (b : Barrier) (key : Str) : Barrier :=
  if b.isOpen then b
  else
    let submitted := if key ∈ b.submitted then b.submitted else key :: b.submitted
    if b.threshold ≤ submitted.length then { b with submitted := [], isOpen := true }
    else { b with submitted := submitted }

def status (b : Barrier) : UnsealStatus :=
  ⟨!b.isOpen, some b.keys.length, some b.threshold, some b.submitted.length⟩

end Barrier

/-- How a server answers that issues the shares and tokens of `issues`. -/
inductive Served (issues : InitResponse → Prop) :
    Server → (req : Request) → Answer req → Server → Prop where
  | initStatus (s : Server) : Served issues s .initStatus (.ok s.isSome) s
  | init {shares threshold response} (hlength : response.keys.length = shares)
      (hnodup : response.keys.Nodup) (hissued : issues response) :
      Served issues none (.init shares threshold) (.ok response)
        (some ⟨response.keys, threshold, response.rootToken, [], false⟩)
  | initAgain (b : Barrier) {shares threshold} (e : Error) :
      Served issues (some b) (.init shares threshold) (.error e) (some b)
  | submit {b : Barrier} {key} (hkey : key ∈ b.keys) :
      Served issues (some b) (.unseal key) (.ok (b.submit key).status) (some (b.submit key))
  | unknownShare {b : Barrier} {key} (hkey : key ∉ b.keys) (e : Error) :
      Served issues (some b) (.unseal key) (.error e) (some b)
  | noBarrier {key} (e : Error) : Served issues none (.unseal key) (.error e) none

/-- Other clients use a server as they like, but an initialization is for good. -/
def Lasts (s s' : Server) : Prop := ∀ b, s = some b → ∃ b', s' = some b' ∧ b.Same b'

/-- A server whose answers may be lost, whether or not the request was carried out, and which
other clients use. -/
def shared (issues : InitResponse → Prop) : Environment Answer Server where
  serves s req answer s' := Served issues s req answer s' ∨
    ∃ e, answer = .error e ∧ (s' = s ∨ ∃ lost, Served issues s req lost s')
  others := Lasts

/-- A server that answers every request and that nobody else uses. -/
def alone (issues : InitResponse → Prop) : Environment Answer Server where
  serves := Served issues
  others := (· = ·)

/-! ### Runs -/

section Runs

variable {env : Environment Answer Server} {issues : InitResponse → Prop} {s s' : Server}
  {trace : List (Event Answer Server)} {Certificate Identity : Type} {build : Build}
  {library : HttpLibrary Certificate Identity} {client : Client Certificate Identity}
  {payloads : Payloads}

/-- A request is not sent, or it is answered. -/
theorem exec_request_iff {req : Request} {result : Except DevBootstrapError (Value req)} :
    Exec env s (request build library client payloads req) trace result s' ↔
      (∃ e, prepare build library client (req.call payloads) = .error e ∧ trace = [] ∧
        result = .error (.client e) ∧ s' = s) ∨
      ∃ prepared, prepare build library client (req.call payloads) = .ok prepared ∧
        ∃ s₁ answer, env.others s s₁ ∧ env.serves s₁ req answer s' ∧
          result = answer.mapError .client ∧ trace = [⟨req, s₁, answer, s'⟩] := by
  have hsent : Exec env s ((Prog.call req).bind fun answer =>
      .done (answer.mapError .client) : Program (Value req)) trace result s' ↔
        ∃ s₁ answer, env.others s s₁ ∧ env.serves s₁ req answer s' ∧
          result = answer.mapError .client ∧ trace = [⟨req, s₁, answer, s'⟩] := by
    rw [exec_call_bind_iff]
    constructor
    · rintro ⟨s₁, answer, s₂, rest, hothers, hserves, hrest, rfl⟩
      obtain ⟨rfl, rfl, rfl⟩ := exec_done_iff.mp hrest
      exact ⟨s₁, answer, hothers, hserves, rfl, rfl⟩
    · rintro ⟨s₁, answer, hothers, hserves, rfl, rfl⟩
      exact ⟨s₁, answer, s', [], hothers, hserves, .done _ _, rfl⟩
  rw [request, exec_attempt_iff]
  cases prepare build library client (req.call payloads) with
  | error e => simp [Except.mapError]
  | ok prepared =>
    rw [hsent]
    simp [Except.mapError]

/-- A request that did not fail, before the rest of a program. -/
theorem exec_request_andThen_iff {α : Type} {req : Request} {next : Value req → Program α} {a : α} :
    Exec env s ((request build library client payloads req).andThen next) trace (.ok a) s' ↔
      ∃ prepared, prepare build library client (req.call payloads) = .ok prepared ∧
        ∃ s₁ value s₂ rest, env.others s s₁ ∧ env.serves s₁ req (.ok value) s₂ ∧
          Exec env s₂ (next value) rest (.ok a) s' ∧ trace = ⟨req, s₁, .ok value, s₂⟩ :: rest := by
  rw [exec_andThen_ok_iff]
  constructor
  · rintro ⟨value, first, s₂, rest, hrequest, hnext, rfl⟩
    rcases exec_request_iff.mp hrequest with
      ⟨_, -, -, hfailed, -⟩ | ⟨prepared, hprepared, s₁, answer, hothers, hserves, hresult, rfl⟩
    · cases hfailed
    · obtain rfl := mapError_eq_ok_iff.mp hresult.symm
      exact ⟨prepared, hprepared, s₁, value, s₂, rest, hothers, hserves, hnext, rfl⟩
  · rintro ⟨prepared, hprepared, s₁, value, s₂, rest, hothers, hserves, hnext, rfl⟩
    exact ⟨value, _, s₂, rest, exec_request_iff.mpr
      (.inr ⟨prepared, hprepared, s₁, .ok value, hothers, hserves, rfl, rfl⟩), hnext, rfl⟩

theorem Barrier.same_refl (b : Barrier) : b.Same b := ⟨rfl, rfl, rfl⟩

theorem Barrier.Same.trans {b b' b'' : Barrier} (h : b.Same b') (h' : b'.Same b'') : b.Same b'' :=
  ⟨h'.keys.trans h.keys, h'.threshold.trans h.threshold, h'.rootToken.trans h.rootToken⟩

theorem Barrier.submit_same (b : Barrier) (key : Str) : b.Same (b.submit key) := by
  unfold Barrier.submit
  dsimp only
  split_ifs
  · exact b.same_refl
  all_goals exact ⟨rfl, rfl, rfl⟩

theorem lasts_refl (s : Server) : Lasts s s := fun b h => ⟨b, h, b.same_refl⟩

theorem Lasts.trans {s s' s'' : Server} (h : Lasts s s') (h' : Lasts s' s'') : Lasts s s'' := by
  intro b hb
  obtain ⟨b', hb', hsame⟩ := h b hb
  obtain ⟨b'', hb'', hsame'⟩ := h' b' hb'
  exact ⟨b'', hb'', hsame.trans hsame'⟩

theorem Served.lasts {req : Request} {answer : Answer req} (h : Served issues s req answer s') :
    Lasts s s' := by
  cases h with
  | initStatus => exact lasts_refl _
  | init => intro b hb; cases hb
  | initAgain => exact lasts_refl _
  | @submit b key hkey =>
    intro b' hb
    obtain rfl := Option.some.inj hb
    exact ⟨_, rfl, b.submit_same key⟩
  | unknownShare => exact lasts_refl _
  | noBarrier => exact lasts_refl _

theorem shared_serves_lasts {req : Request} {answer : Answer req}
    (h : (shared issues).serves s req answer s') : Lasts s s' := by
  rcases h with h | ⟨e, -, rfl | ⟨lost, h⟩⟩
  · exact h.lasts
  · exact lasts_refl _
  · exact h.lasts

/-- No request and no other client undoes an initialization. -/
theorem Exec.lasts {α : Type} {p : Prog Request Answer α} {a : α}
    (h : Exec (shared issues) s p trace a s') : Lasts s s' := by
  induction h with
  | done s a => exact lasts_refl s
  | send hothers hserves _ ih => exact (Lasts.trans hothers (shared_serves_lasts hserves)).trans ih

/-- The share of an unseal request, and the other requests of a bootstrap. -/
def unsealRequests (keys : List Str) : List Request := keys.map .unseal

/-- A loop that ends unsealed has submitted some of the shares, in order, and left the barrier
open behind the last. -/
theorem exec_unsealWith_ok {keys : List Str} {before : Option UnsealStatus} {status : UnsealStatus}
    (h : Exec (shared issues) s (unsealWith build library client payloads before keys) trace
      (.ok (some status)) s')
    (hbefore : ∀ earlier, before = some earlier → earlier.stillSealed = true)
    (hopen : status.stillSealed = false) :
    0 < trace.length ∧ trace.length ≤ keys.length ∧
      trace.map Event.request = unsealRequests (keys.take trace.length) ∧
      ∃ b, s' = some b ∧ b.isOpen = true := by
  induction keys generalizing s before trace with
  | nil =>
    obtain ⟨-, hresult, -⟩ := exec_done_iff.mp h
    rw [hbefore status (Except.ok.inj hresult).symm] at hopen
    cases hopen
  | cons key keys ih =>
    obtain ⟨-, -, s₁, value, s₂, rest, -, hserves, hrest, rfl⟩ := exec_request_andThen_iff.mp h
    by_cases hsealed : value.stillSealed = true
    · rw [if_pos hsealed] at hrest
      obtain ⟨-, hlength, hrequests, hfinal⟩ := ih hrest fun earlier hearlier => by
        rw [← Option.some.inj hearlier]
        exact hsealed
      refine ⟨Nat.succ_pos _, Nat.succ_le_succ hlength, ?_, hfinal⟩
      rw [List.map_cons, hrequests]
      rfl
    · rw [if_neg hsealed] at hrest
      obtain ⟨rfl, -, rfl⟩ := exec_done_iff.mp hrest
      refine ⟨Nat.succ_pos _, Nat.succ_le_succ (Nat.zero_le _), rfl, ?_⟩
      rcases hserves with hserves | ⟨e, herror, -⟩
      · cases hserves with
        | submit hkey =>
          refine ⟨_, rfl, ?_⟩
          simpa [Barrier.status] using hsealed
      · cases herror

theorem validateDevBootstrapOptions_eq_ok_iff {options : DevBootstrapOptions} :
    validateDevBootstrapOptions options = .ok () ↔
      0 < options.secretThreshold ∧ options.secretThreshold ≤ options.secretShares := by
  unfold validateDevBootstrapOptions
  split_ifs with hshares hthreshold hless
  · exact iff_of_false (by intro h; cases h) (by omega)
  · exact iff_of_false (by intro h; cases h) (by omega)
  · exact iff_of_false (by intro h; cases h) (by omega)
  · exact iff_of_true rfl (by omega)

theorem requireLoopbackDevTarget_eq_ok_iff {serializeIpv6 : BitVec 128 → Str} {url : Url} :
    requireLoopbackDevTarget serializeIpv6 url = .ok () ↔ isLoopbackUrl serializeIpv6 url = true := by
  unfold requireLoopbackDevTarget
  split_ifs with hhost hloopback
  · refine iff_of_false (by intro h; cases h) ?_
    rw [isLoopbackUrl, hhost]
    exact Bool.false_ne_true
  · refine iff_of_false (by intro h; cases h) ?_
    simpa using hloopback
  · refine iff_of_true rfl ?_
    simpa using hloopback

variable {options : DevBootstrapOptions} {result : DevBootstrap Certificate Identity}

theorem finish_eq_ok {response : InitResponse} {status : Option UnsealStatus}
    (h : finish client response status = .ok result) :
    ∃ last, status = some last ∧ last.stillSealed = false ∧
      client.cloneWithoutState.tryWithToken response.rootToken = .ok result.client ∧
      result.rootToken = response.rootToken ∧ result.unsealKeys = response.keys := by
  cases status with
  | none => cases h
  | some last =>
    rw [finish] at h
    split at h
    · cases h
    · next hopen =>
      cases hclient : client.cloneWithoutState.tryWithToken response.rootToken with
      | error e =>
        rw [hclient] at h
        cases h
      | ok authenticated =>
        rw [hclient] at h
        obtain rfl := Except.ok.inj h
        exact ⟨last, rfl, Bool.eq_false_iff.mpr hopen, rfl, rfl, rfl⟩

theorem attempt_ok_iff {ε α β : Type} {x : Except ε α}
    {next : α → Prog Request Answer (Except ε β)}
    {b : β} : Exec env s (Prog.attempt x next) trace (.ok b) s' ↔
      ∃ a, x = .ok a ∧ Exec env s (next a) trace (.ok b) s' := by
  simp [exec_attempt_iff]

/-- What a bootstrap that succeeded did. -/
structure Owned (options : DevBootstrapOptions) (result : DevBootstrap Certificate Identity)
    (trace : List (Event Answer Server)) (s' : Server) : Prop where
  requests : trace.map Event.request =
    .initStatus :: .init options.secretShares options.secretThreshold ::
      unsealRequests (result.unsealKeys.take (trace.length - 2))
  shares : 2 < trace.length ∧ trace.length ≤ options.secretThreshold + 2
  initialized : ∃ event ∈ trace, event.before = none ∧ event.after =
    some ⟨result.unsealKeys, options.secretThreshold, result.rootToken, [], false⟩
  opened : ∃ b, s' = some b ∧ b.isOpen = true ∧ b.keys = result.unsealKeys ∧
    b.rootToken = result.rootToken

theorem exec_unsealFresh_ok {response : InitResponse}
    (h : Exec (shared issues) s (unsealFresh build library client payloads options response)
      trace (.ok result) s') :
    0 < trace.length ∧ trace.length ≤ options.secretThreshold ∧
      trace.map Event.request = unsealRequests (response.keys.take trace.length) ∧
      (∃ b, s' = some b ∧ b.isOpen = true) ∧
      client.cloneWithoutState.tryWithToken response.rootToken = .ok result.client ∧
      result.rootToken = response.rootToken ∧ result.unsealKeys = response.keys := by
  unfold unsealFresh at h
  split at h
  · exact absurd h not_exec_error_ok
  split at h
  · exact absurd h not_exec_error_ok
  obtain ⟨status, first, s₁, rest, hshares, hfinish, rfl⟩ := exec_andThen_ok_iff.mp h
  obtain ⟨rfl, hresult, rfl⟩ := exec_done_iff.mp hfinish
  obtain ⟨last, rfl, hopen, hclient, htoken, hkeys⟩ := finish_eq_ok hresult.symm
  obtain ⟨hpos, hlength, hrequests, hbarrier⟩ :=
    exec_unsealWith_ok hshares (fun earlier hnone => by cases hnone) hopen
  have hthreshold : first.length ≤ options.secretThreshold :=
    hlength.trans (by rw [List.length_take]; exact min_le_left _ _)
  rw [List.append_nil]
  refine ⟨hpos, hthreshold, ?_, hbarrier, hclient, htoken, hkeys⟩
  rw [hrequests, List.take_take, min_eq_left hthreshold]

theorem owned_of_ok
    (h : Exec (shared issues) s
      (bootstrapDevAcknowledged build library client payloads options) trace (.ok result) s') :
    s = none ∧ isLoopbackUrl build.serializeIpv6 client.config.baseUrl = true ∧
      Owned options result trace s' ∧
      client.cloneWithoutState.tryWithToken result.rootToken = .ok result.client := by
  obtain ⟨⟨⟩, -, h⟩ := attempt_ok_iff.mp h
  obtain ⟨⟨⟩, hloopback, h⟩ := attempt_ok_iff.mp h
  rw [mapError_eq_ok_iff, requireLoopbackDevTarget_eq_ok_iff] at hloopback
  obtain ⟨-, -, s₁, initialized, s₂, rest, hothers, hstatus, hnext, rfl⟩ :=
    exec_request_andThen_iff.mp h
  split at hnext
  · exact absurd hnext not_exec_error_ok
  next hfresh =>
  obtain ⟨-, -, s₃, response, s₄, unseals, -, hinit, hunseal, rfl⟩ :=
    exec_request_andThen_iff.mp hnext
  obtain ⟨hpos, hlength, hrequests, ⟨b, hb, hopen⟩, hclient, htoken, hkeys⟩ :=
    exec_unsealFresh_ok hunseal
  have hnone : s = none := by
    rcases hstatus with hstatus | ⟨e, herror, -⟩
    · cases hstatus with
      | initStatus =>
        cases s with
        | none => rfl
        | some b =>
          obtain ⟨b', rfl, -⟩ := hothers b rfl
          exact absurd rfl hfresh
    · cases herror
  rcases hinit with hinit | ⟨e, herror, -⟩
  · cases hinit with
    | init hcount hnodup hissued =>
      obtain ⟨b', hb', hsame⟩ := Exec.lasts hunseal _ rfl
      obtain rfl := Option.some.inj (hb'.symm.trans hb)
      refine ⟨hnone, hloopback, ⟨?_, ?_, ?_, b', hb, hopen, hsame.keys.trans hkeys.symm,
        hsame.rootToken.trans htoken.symm⟩, ?_⟩
      · rw [List.map_cons, List.map_cons, hrequests, hkeys]
        rfl
      · rw [List.length_cons, List.length_cons]
        omega
      · refine ⟨_, List.mem_cons_of_mem _ List.mem_cons_self, rfl, ?_⟩
        rw [hkeys, htoken]
      · rw [htoken]
        exact hclient
  · cases herror

/-- A status request changes nothing, answered or not. -/
theorem initStatus_serves {answer : Answer .initStatus}
    (h : (shared issues).serves s .initStatus answer s') :
    s' = s ∧ ∀ initialized, answer = .ok initialized → initialized = s.isSome := by
  rcases h with h | ⟨e, rfl, rfl | ⟨lost, h⟩⟩
  · cases h with
    | initStatus => exact ⟨rfl, fun _ h => (Except.ok.inj h).symm⟩
  · exact ⟨rfl, by simp⟩
  · cases h with
    | initStatus => exact ⟨rfl, by simp⟩

variable {outcome : Except DevBootstrapError (DevBootstrap Certificate Identity)}

/-- An initialized server is asked for its status and nothing else. -/
theorem initialized_untouched {b : Barrier}
    (h : Exec (shared issues) (some b)
      (bootstrapDevAcknowledged build library client payloads options) trace outcome s') :
    ∀ event ∈ trace, event.request = .initStatus ∧ event.after = event.before := by
  rcases exec_attempt_iff.mp h with ⟨e, -, rfl, -⟩ | ⟨_, -, h⟩
  · simp
  rcases exec_attempt_iff.mp h with ⟨e, -, rfl, -⟩ | ⟨_, -, h⟩
  · simp
  rcases exec_andThen_iff.mp h with
    ⟨e, hrequest, -⟩ | ⟨initialized, first, s₁, rest, hrequest, hrest, rfl⟩
  · rcases exec_request_iff.mp hrequest with
      ⟨_, -, rfl, -⟩ | ⟨-, -, s₁, answer, -, hserves, -, rfl⟩
    · simp
    · rw [List.forall_mem_singleton]
      exact ⟨rfl, (initStatus_serves hserves).1⟩
  · rcases exec_request_iff.mp hrequest with
      ⟨_, -, -, hfailed, -⟩ | ⟨-, -, s₂, answer, hothers, hserves, hanswer, rfl⟩
    · cases hfailed
    obtain ⟨hsame, hvalue⟩ := initStatus_serves hserves
    obtain ⟨b', rfl, -⟩ := hothers b rfl
    have hinitialized := hvalue initialized (mapError_eq_ok_iff.mp hanswer.symm)
    rw [hinitialized, Option.isSome_some, if_pos rfl] at hrest
    obtain ⟨rfl, -, -⟩ := exec_done_iff.mp hrest
    rw [List.append_nil, List.forall_mem_singleton]
    exact ⟨rfl, hsame⟩

/-- A server that nobody else uses answers like a shared one. -/
theorem exec_shared_of_alone {α : Type} {p : Prog Request Answer α} {a : α}
    (h : Exec (alone issues) s p trace a s') : Exec (shared issues) s p trace a s' := by
  refine h.mono (fun _ _ _ _ h => .inl h) ?_
  rintro s _ rfl
  exact lasts_refl s

/-- A request that such a server carries out. -/
theorem ensures_request {req : Request} {R : List (Event Answer Server) → Value req → Server → Prop}
    (hprepares : ∃ prepared, prepare build library client (req.call payloads) = .ok prepared)
    (hserved : ∃ answer s₁, Served issues s req answer s₁)
    (h : ∀ answer s₁, Served issues s req answer s₁ →
      ∃ value, answer = .ok value ∧ R [⟨req, s, answer, s₁⟩] value s₁) :
    Ensures (alone issues) s (request build library client payloads req)
      fun trace r s' => ∃ a, r = .ok a ∧ R trace a s' := by
  obtain ⟨prepared, hprepared⟩ := hprepares
  constructor
  · obtain ⟨answer, s₁, hserves⟩ := hserved
    exact ⟨_, _, s₁, exec_request_iff.mpr
      (.inr ⟨prepared, hprepared, s, answer, rfl, hserves, rfl, rfl⟩)⟩
  · intro trace r s' hrun
    rcases exec_request_iff.mp hrun with
      ⟨_, hrefused, -⟩ | ⟨-, -, s₁, answer, hothers, hserves, rfl, rfl⟩
    · cases hrefused.symm.trans hprepared
    obtain rfl : s = s₁ := hothers
    obtain ⟨value, rfl, hR⟩ := h answer s' hserves
    exact ⟨value, rfl, hR⟩

/-- A sealed barrier and the shares that are still to be submitted to it. -/
structure Awaits (b : Barrier) (keys : List Str) : Prop where
  closed : b.isOpen = false
  known : ∀ key ∈ keys, key ∈ b.keys
  fresh : ∀ key ∈ keys, key ∉ b.submitted
  distinct : keys.Nodup
  count : b.submitted.length + keys.length = b.threshold

theorem Awaits.submit_last {b : Barrier} {key : Str} (h : Awaits b [key]) :
    (b.submit key).isOpen = true := by
  have hfresh := h.fresh key List.mem_cons_self
  have hcount := h.count
  rw [List.length_singleton] at hcount
  have hreached : b.threshold ≤ (key :: b.submitted).length := by
    rw [List.length_cons]
    omega
  rw [Barrier.submit, h.closed, if_neg (by decide), if_neg hfresh, if_pos hreached]

theorem Awaits.submit {b : Barrier} {key next : Str} {keys : List Str}
    (h : Awaits b (key :: next :: keys)) : Awaits (b.submit key) (next :: keys) := by
  have hfresh := h.fresh key List.mem_cons_self
  have hcount := h.count
  rw [List.length_cons, List.length_cons] at hcount
  have hshort : ¬b.threshold ≤ (key :: b.submitted).length := by
    rw [List.length_cons]
    omega
  have hsubmit : b.submit key = { b with submitted := key :: b.submitted } := by
    rw [Barrier.submit, h.closed, if_neg (by decide), if_neg hfresh, if_neg hshort]
  obtain ⟨hkey, hdistinct⟩ := List.nodup_cons.mp h.distinct
  rw [hsubmit]
  refine ⟨h.closed, fun k hk => h.known k (List.mem_cons_of_mem _ hk), fun k hk hmem => ?_,
    hdistinct, ?_⟩
  · rcases List.mem_cons.mp hmem with rfl | hmem
    · exact hkey hk
    · exact h.fresh k (List.mem_cons_of_mem _ hk) hmem
  · change (b.submitted.length + 1) + (keys.length + 1) = b.threshold
    omega

/-- A request of the bootstrap whose body fits leaves a client that may send secrets. -/
theorem prepares_request (hurls : UrlRules library) (hclient : Built build library client)
    (hallowed : SensitiveAllowed client) {req : Request}
    (hfits : (req.call payloads).Sendable client.config.maxRequestBytes) :
    ∃ prepared, prepare build library client (req.call payloads) = .ok prepared := by
  refine (prepare_iff hurls hclient.sound).mpr ⟨?_, fun _ => hallowed, hfits⟩
  cases req with
  | initStatus | init =>
    have hpath : PathValidation.validateEndpointPath "sys/init".toList =
        .ok ["sys".toList, "init".toList] := by decide +kernel
    exact ⟨_, hpath⟩
  | _ =>
    have hpath : PathValidation.validateEndpointPath "sys/unseal".toList =
        .ok ["sys".toList, "unseal".toList] := by decide +kernel
    exact ⟨_, hpath⟩

/-- What a server may issue so that the client can go on: a token that fits a header and
shares that fit a request. -/
structure Fits (client : Client Certificate Identity) (payloads : Payloads)
    (response : InitResponse) : Prop where
  token : response.rootToken ≠ []
  header : client.validateTokenForHeader response.rootToken = .ok ()
  shares : ∀ key ∈ response.keys,
    ((Request.unseal key).call payloads).Sendable client.config.maxRequestBytes

theorem exists_finish_eq_ok {response : InitResponse} {status : UnsealStatus}
    (hopen : status.stillSealed = false)
    (htoken : client.validateTokenForHeader response.rootToken = .ok ()) :
    ∃ result, finish client response (some status) = .ok result := by
  have hclient : client.cloneWithoutState.tryWithToken response.rootToken =
      .ok { client.cloneWithoutState with token := some response.rootToken } :=
    bind_unit_eq_ok_iff.mpr ⟨htoken, rfl⟩
  rw [finish, hopen, if_neg Bool.false_ne_true, hclient]
  exact ⟨_, rfl⟩

section Alone

variable (hurls : UrlRules library) (hclient : Built build library client)
  (hallowed : SensitiveAllowed client)
include hurls hclient hallowed

/-- What a known share does. -/
theorem ensures_unseal {b : Barrier} {key : Str} (hkey : key ∈ b.keys)
    (hfits : ((Request.unseal key).call payloads).Sendable client.config.maxRequestBytes) :
    Ensures (alone issues) (some b) (request build library client payloads (.unseal key))
      fun trace r s' => ∃ status, r = .ok status ∧ trace.length = 1 ∧
        status = (b.submit key).status ∧ s' = some (b.submit key) := by
  refine ensures_request (prepares_request hurls hclient hallowed hfits) ⟨_, _, .submit hkey⟩
    fun answer s₁ hserves => ?_
  cases hserves with
  | submit => exact ⟨_, rfl, rfl, rfl, rfl⟩
  | unknownShare hunknown => exact absurd hkey hunknown

/-- The loop submits every share that is needed, and the last one opens the barrier. -/
theorem ensures_unsealWith {keys : List Str} {before : Option UnsealStatus} {b : Barrier}
    (h : Awaits b keys) (hsome : keys ≠ []) (hfits : ∀ key ∈ keys,
      ((Request.unseal key).call payloads).Sendable client.config.maxRequestBytes) :
    Ensures (alone issues) (some b) (unsealWith build library client payloads before keys)
      fun trace r _ => ∃ status, r = .ok status ∧
        (∃ last, status = some last ∧ last.stillSealed = false) ∧ trace.length = keys.length := by
  induction keys generalizing before b with
  | nil => exact absurd rfl hsome
  | cons key keys ih =>
    refine ensures_andThen (ensures_unseal hurls hclient hallowed (h.known key List.mem_cons_self)
      (hfits key List.mem_cons_self)) ?_
    rintro first _ _ ⟨hfirst, rfl, rfl⟩
    cases keys with
    | nil =>
      have hopen := h.submit_last
      rw [if_neg (by simp [Barrier.status, hopen])]
      exact ensures_done ⟨_, rfl, ⟨_, rfl, by simp [Barrier.status, hopen]⟩, by simpa using hfirst⟩
    | cons next keys =>
      have hrest := h.submit
      rw [if_pos (by simp [Barrier.status, hrest.closed])]
      refine (ih hrest (List.cons_ne_nil _ _)
        fun key hkey => hfits key (List.mem_cons_of_mem _ hkey)).mono ?_
      rintro rest r - ⟨status, hstatus, hlast, hlength⟩
      refine ⟨status, hstatus, hlast, ?_⟩
      rw [List.length_append, hfirst, hlength]
      exact Nat.add_comm _ _

theorem ensures_unsealFresh {response : InitResponse}
    (hlength : response.keys.length = options.secretShares) (hdistinct : response.keys.Nodup)
    (hoptions : validateDevBootstrapOptions options = .ok ())
    (hfits : Fits client payloads response) :
    Ensures (alone issues)
      (some ⟨response.keys, options.secretThreshold, response.rootToken, [], false⟩)
      (unsealFresh build library client payloads options response) fun trace r _ =>
        (∃ result, r = .ok result) ∧ trace.length = options.secretThreshold := by
  obtain ⟨hpositive, hshares⟩ := validateDevBootstrapOptions_eq_ok_iff.mp hoptions
  have hcount : (response.keys.take options.secretThreshold).length = options.secretThreshold := by
    rw [List.length_take]
    omega
  have hawaits : Awaits ⟨response.keys, options.secretThreshold, response.rootToken, [], false⟩
      (response.keys.take options.secretThreshold) := by
    refine ⟨rfl, fun key hkey => List.mem_of_mem_take hkey, by simp, ?_, ?_⟩
    · exact hdistinct.sublist (List.take_sublist _ _)
    · rw [hcount]
      exact Nat.zero_add _
  have henough : ¬response.keys.length < options.secretThreshold := by omega
  rw [unsealFresh, if_neg hfits.token, if_neg henough]
  refine ensures_andThen (ensures_unsealWith hurls hclient hallowed hawaits ?_
    fun key hkey => hfits.shares key (List.mem_of_mem_take hkey)) ?_
  · intro hnil
    rw [hnil, List.length_nil] at hcount
    omega
  · rintro first _ s₁ ⟨⟨last, rfl, hopen⟩, hfirst⟩
    obtain ⟨result, hfinish⟩ := exists_finish_eq_ok hopen hfits.header
    refine ensures_done ⟨⟨result, hfinish⟩, ?_⟩
    rw [List.append_nil, hfirst, hcount]

theorem ensures_initStatus :
    Ensures (alone issues) none (request build library client payloads .initStatus)
      fun trace r s' => ∃ initialized, r = .ok initialized ∧ trace.length = 1 ∧
        initialized = false ∧ s' = none := by
  have hfits : (Request.initStatus.call payloads).Sendable client.config.maxRequestBytes :=
    (sendable_payload_iff none rfl rfl).mpr fun _ h => by cases h
  refine ensures_request (prepares_request hurls hclient hallowed hfits) ⟨_, _, .initStatus none⟩
    fun answer s₁ hserves => ?_
  cases hserves with
  | initStatus => exact ⟨_, rfl, rfl, rfl, rfl⟩

theorem ensures_init
    (hfits : ((Request.init options.secretShares options.secretThreshold).call payloads).Sendable
      client.config.maxRequestBytes)
    (hserver : ∃ response, issues response ∧ response.keys.length = options.secretShares ∧
      response.keys.Nodup) :
    Ensures (alone issues) none
      (request build library client payloads (.init options.secretShares options.secretThreshold))
      fun trace r s' => ∃ response, r = .ok response ∧ trace.length = 1 ∧
        response.keys.length = options.secretShares ∧ response.keys.Nodup ∧ issues response ∧
        s' = some ⟨response.keys, options.secretThreshold, response.rootToken, [], false⟩ := by
  obtain ⟨response, hissued, hlength, hdistinct⟩ := hserver
  refine ensures_request (prepares_request hurls hclient hallowed hfits)
    ⟨.ok response, _, .init hlength hdistinct hissued⟩ fun answer s₁ hserves => ?_
  cases hserves with
  | init hlength hdistinct hissued => exact ⟨_, rfl, rfl, hlength, hdistinct, hissued, rfl⟩

theorem ensures_bootstrap
    (hinit : ((Request.init options.secretShares options.secretThreshold).call payloads).Sendable
      client.config.maxRequestBytes)
    (hserver : ∃ response, issues response ∧ response.keys.length = options.secretShares ∧
      response.keys.Nodup)
    (hissues : ∀ response, issues response → Fits client payloads response)
    (hoptions : validateDevBootstrapOptions options = .ok ())
    (hloopback : isLoopbackUrl build.serializeIpv6 client.config.baseUrl = true) :
    Ensures (alone issues) none (bootstrapDevAcknowledged build library client payloads options)
      fun trace outcome _ => (∃ result, outcome = .ok result) ∧
        trace.length = options.secretThreshold + 2 := by
  rw [bootstrapDevAcknowledged, hoptions, requireLoopbackDevTarget_eq_ok_iff.mpr hloopback]
  change Ensures _ _ ((request build library client payloads .initStatus).andThen _) _
  refine ensures_andThen (ensures_initStatus hurls hclient hallowed) ?_
  rintro first _ _ ⟨hfirst, rfl, rfl⟩
  refine ensures_andThen (ensures_init hurls hclient hallowed hinit hserver) ?_
  rintro second response _ ⟨hsecond, hlength, hdistinct, hissued, rfl⟩
  refine (ensures_unsealFresh hurls hclient hallowed hlength hdistinct hoptions
    (hissues response hissued)).mono ?_
  rintro rest outcome s' ⟨hresult, hrest⟩
  refine ⟨hresult, ?_⟩
  rw [List.length_append, List.length_append, hfirst, hsecond, hrest]
  omega

end Alone

/-! A client for a server with a certificate on a loopback address, and a server that issues
two shares. -/

def secureConfig : OpenBaoConfig Unit Unit where
  baseUrl := secureLoopbackUrl

def secureClient : Client Unit Unit where
  config := secureConfig
  http := httpOf secureConfig true
  sensitiveHttp := httpOf secureConfig true
  tlsBackend := .rustls
  token := none

theorem built_secureClient : Built exampleBuild exampleLibrary secureClient := by
  have hserver : OpenBaoConfig.new exampleBuild "https://127.0.0.1".toList = .ok secureConfig := rfl
  have hreach : Reachable exampleBuild secureConfig := .new hserver
  have hbuilt : buildClient exampleBuild exampleLibrary secureConfig = .ok secureClient :=
    bind_unit_eq_ok_iff.mpr ⟨hreach.valid.validate_iff.mpr ⟨rfl, .inl rfl⟩, rfl⟩
  exact .buildClient hreach hbuilt

theorem secureClient_loopback :
    isLoopbackUrl exampleBuild.serializeIpv6 secureClient.config.baseUrl = true := by
  decide +kernel

def textPayload (text : Str) : Serialization := ⟨[asBytes text], false⟩

/-- The payloads of short shares, which need no escapes. -/
def examplePayloads : Payloads where
  initPayload shares threshold := textPayload ("\x7b\"secret_shares\":".toList ++
    Nat.toDigits 10 shares ++ ",\"secret_threshold\":".toList ++ Nat.toDigits 10 threshold ++
      "\x7d".toList)
  unsealPayload key := textPayload ("\x7b\"key\":\"".toList ++ key ++ "\"\x7d".toList)

def pairResponse : InitResponse :=
  ⟨["6a".toList, "6b".toList], ["ag==".toList, "aw==".toList], "s.root".toList⟩

theorem pairResponse_fits : Fits secureClient examplePayloads pairResponse where
  token := by decide
  header := by decide +kernel
  shares := by
    intro key hkey
    refine (sendable_payload_iff _ rfl rfl).mpr ?_
    rintro _ ⟨⟩
    have hall : (pairResponse.keys.all fun key => decide
        ((examplePayloads.unsealPayload key).pieces.flatten.length ≤ 1024)) = true := by
      decide +kernel
    have hlimit : 1024 ≤ secureClient.config.maxRequestBytes := by decide
    exact ⟨rfl, (of_decide_eq_true (List.all_eq_true.mp hall key hkey)).trans hlimit⟩

theorem pairResponse_issued (response : InitResponse) (h : response = pairResponse) :
    Fits secureClient examplePayloads response :=
  h ▸ pairResponse_fits

theorem pairInit_sendable :
    ((Request.init 2 2).call examplePayloads).Sendable secureClient.config.maxRequestBytes := by
  refine (sendable_payload_iff _ rfl rfl).mpr ?_
  rintro _ ⟨⟩
  have hlimit : 1024 ≤ secureClient.config.maxRequestBytes := by decide
  have hshort : (examplePayloads.initPayload 2 2).pieces.flatten.length ≤ 1024 := by
    decide +kernel
  exact ⟨rfl, hshort.trans hlimit⟩

/-- Whatever other clients do meanwhile and whatever answers are lost: a bootstrap that
succeeds has initialized the server itself, with the shares and the token that the caller gets,
and left it open behind at most as many shares as the threshold asks for. A server that was
initialized before is asked for its status and nothing else. -/
theorem bootstrap_owns
    (h : Exec (shared issues) s
      (bootstrapDevAcknowledged build library client payloads options) trace outcome s') :
    (∀ result, outcome = .ok result →
      s = none ∧ isLoopbackUrl build.serializeIpv6 client.config.baseUrl = true ∧
        Owned options result trace s' ∧
        client.cloneWithoutState.tryWithToken result.rootToken = .ok result.client) ∧
    ∀ b, s = some b → (∃ e, outcome = .error e) ∧
      ∀ event ∈ trace, event.request = .initStatus ∧ event.after = event.before := by
  refine ⟨?_, ?_⟩
  · rintro result rfl
    exact owned_of_ok h
  · rintro b rfl
    refine ⟨?_, initialized_untouched h⟩
    cases outcome with
    | error e => exact ⟨e, rfl⟩
    | ok result => cases (owned_of_ok h).1

/-- A bootstrap with two of two shares. -/
theorem bootstrap_owns_pair : ∃ trace result s',
    Exec (shared (· = pairResponse)) none
      (bootstrapDevAcknowledged exampleBuild exampleLibrary secureClient examplePayloads ⟨2, 2⟩)
      trace (.ok result) s' ∧ Owned ⟨2, 2⟩ result trace s' := by
  have hruns : Ensures (alone (· = pairResponse)) none
      (bootstrapDevAcknowledged exampleBuild exampleLibrary secureClient examplePayloads ⟨2, 2⟩)
      fun trace outcome _ => (∃ result, outcome = .ok result) ∧ trace.length = 4 :=
    ensures_bootstrap exampleLibrary_rules built_secureClient (.inl rfl) pairInit_sendable
      ⟨pairResponse, rfl, rfl, by decide⟩ pairResponse_issued rfl secureClient_loopback
  obtain ⟨trace, outcome, s', hrun⟩ := hruns.total
  obtain ⟨⟨result, rfl⟩, -⟩ := hruns.only trace outcome s' hrun
  have hshared := exec_shared_of_alone hrun
  exact ⟨trace, result, s', hshared, ((bootstrap_owns hshared).1 result rfl).2.2.1⟩

end Runs

end OpenBao.DevBootstraps
