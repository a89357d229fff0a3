import OpenBao.ExternalKeyRequests
import OpenBao.ProfileGates
import OpenBao.SecretRoutes
import OpenBao.WrappingRedemption

/-!
# Administration of external keys

The calls on configurations, keys and grants, and those on control groups. A server can read back
from the method and the path of a request which call it is of, and nothing is sent but under a
release that has external keys.
-/

namespace OpenBao.ExternalKeyAdministration
open CompatibilityPolicy CompatibilityProbe DelimitedLists DispatchedRequests ExternalKeys
  GatedRequests PathValidation ProfileGates RequestPrograms Utf8Text
open RegisteredRoutes hiding Client ensureCompatibility

/-! ### Paths -/

def configPath (config : Str) : Except Error Str := do
  validateName config
  return "sys/external-keys/configs/".toList ++ config

def keyPath (config key : Str) : Except Error Str := do
  validateName key
  return (← configPath config) ++ "/keys/".toList ++ key

def grantPath (config key mount : Str) : Except Error Str := do
  let mount ← validateMountPath mount
  let path := (← keyPath config key) ++ "/grants/".toList ++ join '/' mount
  let _ ← validateEndpointPath path
  return path

/-- The calls that an administrator makes, without their bodies. -/
inductive ExternalKeyCall where
  | listExternalKeyConfigs
  | readExternalKeyConfig (config : Str) | writeExternalKeyConfig (config : Str)
  | patchExternalKeyConfig (config : Str) | deleteExternalKeyConfig (config : Str)
  | listExternalKeys (config : Str)
  | readExternalKey (config key : Str) | writeExternalKey (config key : Str)
  | patchExternalKey (config key : Str) | deleteExternalKey (config key : Str)
  | listExternalKeyGrants (config key : Str)
  | grantExternalKey (config key mount : Str) | deleteExternalKeyGrant (config key mount : Str)
  deriving DecidableEq, Repr

namespace ExternalKeyCall

def method : ExternalKeyCall → Method
  | listExternalKeyConfigs | listExternalKeys _ | listExternalKeyGrants _ _ => "LIST"
  | readExternalKeyConfig _ | readExternalKey _ _ => "GET"
  | writeExternalKeyConfig _ | writeExternalKey _ _ | grantExternalKey _ _ _ => "POST"
  | patchExternalKeyConfig _ | patchExternalKey _ _ => "PATCH"
  | deleteExternalKeyConfig _ | deleteExternalKey _ _ | deleteExternalKeyGrant _ _ _ => "DELETE"

def path : ExternalKeyCall → Except Error Str
  | listExternalKeyConfigs => .ok "sys/external-keys/configs".toList
  | readExternalKeyConfig config | writeExternalKeyConfig config | patchExternalKeyConfig config
  | deleteExternalKeyConfig config => configPath config
  | listExternalKeys config => do return (← configPath config) ++ "/keys".toList
  | readExternalKey config key | writeExternalKey config key | patchExternalKey config key
  | deleteExternalKey config key => keyPath config key
  | listExternalKeyGrants config key => do return (← keyPath config key) ++ "/grants".toList
  | grantExternalKey config key mount | deleteExternalKeyGrant config key mount =>
    grantPath config key mount

def requireExternalKeys : Gate :=
  requireStagedProfile "sys.external-keys" "no external-key compatibility profile"

/-- `external_key_list` and `external_key_write`, and `external_key_read` through its own way of
dispatch. -/
def gated (call : ExternalKeyCall) : GatedCall :=
  match call with
  | readExternalKeyConfig _ | readExternalKey _ _ =>
    { checks := call.path.map fun _ => ()
      gates := [requireExternalKeys]
      target := call.path >>= fun path => RegisteredRouteBinding.registered sysScope path path
      method := call.method
      dispatch := .registered }
  | _ => sysCall call.path [requireExternalKeys] call.method

/-- The segments of the path of a call whose grant is for the mount with these segments. -/
def segments (mount : List Str) : ExternalKeyCall → List Str
  | listExternalKeyConfigs => configs
  | readExternalKeyConfig config | writeExternalKeyConfig config | patchExternalKeyConfig config
  | deleteExternalKeyConfig config => below config
  | listExternalKeys config => below config ++ ["keys".toList]
  | readExternalKey config key | writeExternalKey config key | patchExternalKey config key
  | deleteExternalKey config key => below config ++ "keys".toList :: [key]
  | listExternalKeyGrants config key => (below config ++ "keys".toList :: [key]) ++ ["grants".toList]
  | grantExternalKey config key _ | deleteExternalKeyGrant config key _ =>
    (below config ++ "keys".toList :: [key]) ++ "grants".toList :: mount
where
  configs : List Str := ["sys".toList, "external-keys".toList, "configs".toList]
  below (config : Str) : List Str := configs ++ [config]

/-- The mount of a grant, without the slashes at its ends. -/
def canonical : ExternalKeyCall → ExternalKeyCall
  | grantExternalKey config key mount => grantExternalKey config key (trimMatches (· == '/') mount)
  | deleteExternalKeyGrant config key mount =>
    deleteExternalKeyGrant config key (trimMatches (· == '/') mount)
  | call => call

end ExternalKeyCall

/-- What a server reads from the method and the segments of a request. -/
def readAddress : Method → List Str → Option ExternalKeyCall
  | "LIST", [_, _, _] => some .listExternalKeyConfigs
  | "LIST", [_, _, _, config, _] => some (.listExternalKeys config)
  | "LIST", [_, _, _, config, _, key, _] => some (.listExternalKeyGrants config key)
  | "GET", [_, _, _, config] => some (.readExternalKeyConfig config)
  | "GET", [_, _, _, config, _, key] => some (.readExternalKey config key)
  | "PATCH", [_, _, _, config] => some (.patchExternalKeyConfig config)
  | "PATCH", [_, _, _, config, _, key] => some (.patchExternalKey config key)
  | "POST", [_, _, _, config] => some (.writeExternalKeyConfig config)
  | "POST", [_, _, _, config, _, key] => some (.writeExternalKey config key)
  | "POST", _ :: _ :: _ :: config :: _ :: key :: _ :: mount =>
    some (.grantExternalKey config key (join '/' mount))
  | "DELETE", [_, _, _, config] => some (.deleteExternalKeyConfig config)
  | "DELETE", [_, _, _, config, _, key] => some (.deleteExternalKey config key)
  | "DELETE", _ :: _ :: _ :: config :: _ :: key :: _ :: mount =>
    some (.deleteExternalKeyGrant config key (join '/' mount))
  | _, _ => none

section Paths

variable {config key mount name path : Str} {first second mountSegments : List Str}

/-- One segment of a path as it stands. -/
def Plain (text : Str) : Prop := text ≠ [] ∧ '/' ∉ text

instance (text : Str) : Decidable (Plain text) := inferInstanceAs (Decidable (_ ∧ _))

theorem plain_of_validateName (h : validateName name = .ok ()) : Plain name := by
  obtain ⟨segments, hsegments, hchecks⟩ := bind_eq_ok_iff.mp h
  obtain ⟨-, hallowed, -, -⟩ := validatePath_eq_ok_iff.mp hsegments
  dsimp only at hchecks
  split at hchecks
  · cases hchecks
  · next hshape =>
    simp only [not_or, Bool.not_eq_true', Bool.not_eq_false] at hshape
    obtain ⟨-, -, hhead, -, hall⟩ := hshape
    constructor
    · rintro rfl
      simp at hhead
    · intro hslash
      have hascii : isAscii name = true := by
        refine isAscii_iff.mpr fun c hc => ?_
        have hc := hallowed c hc
        simp only [allowedChar, Bool.and_eq_true, decide_eq_true_eq] at hc
        exact hc.1
      rw [asBytes_eq_map hascii, List.all_map, List.all_eq_true] at hall
      exact absurd (hall '/' hslash) (by decide)

theorem join_append (hfirst : first ≠ []) (hsecond : second ≠ []) :
    join '/' (first ++ second) = join '/' first ++ '/' :: join '/' second := by
  induction first with
  | nil => exact absurd rfl hfirst
  | cons segment rest ih =>
    obtain ⟨next, others, rfl⟩ := List.exists_cons_of_ne_nil hsecond
    cases rest with
    | nil => simp [join]
    | cons other rest =>
      have hrest := ih (List.cons_ne_nil _ _)
      simp only [join, List.cons_append, List.intercalate_cons_cons] at hrest ⊢
      rw [hrest, List.append_assoc, List.append_assoc, List.append_assoc]

theorem join_snoc {last : Str} (h : first ≠ []) :
    join '/' (first ++ [last]) = join '/' first ++ '/' :: last := by
  rw [join_append h (List.cons_ne_nil _ _)]
  simp [join]

theorem join_label {label : Str} (hfirst : first ≠ []) (hsecond : second ≠ []) :
    join '/' (first ++ label :: second) = join '/' first ++ ('/' :: label ++ ['/']) ++ join '/' second := by
  have hlabel : join '/' (label :: second) = label ++ '/' :: join '/' second := by
    rw [← List.singleton_append, join_append (List.cons_ne_nil _ _) hsecond]
    simp [join]
  rw [join_append hfirst (List.cons_ne_nil _ _), hlabel]
  simp

open ExternalKeyCall.segments

theorem below_ne_nil : below config ≠ [] := List.cons_ne_nil _ _

theorem key_ne_nil : below config ++ "keys".toList :: [key] ≠ [] := List.cons_ne_nil _ _

theorem configPath_eq_ok (h : configPath config = .ok path) :
    Plain config ∧ path = join '/' (below config) := by
  obtain ⟨_, hname, hpath⟩ := bind_eq_ok_iff.mp h
  refine ⟨plain_of_validateName hname, ?_⟩
  have hbase : "sys/external-keys/configs/".toList = join '/' configs ++ ['/'] := by decide +kernel
  have hne : configs ≠ [] := List.cons_ne_nil _ _
  rw [← Except.ok.inj hpath, below, join_snoc hne, hbase, List.append_assoc, List.singleton_append]

theorem keyPath_eq_ok (h : keyPath config key = .ok path) :
    Plain config ∧ Plain key ∧ path = join '/' (below config ++ "keys".toList :: [key]) := by
  obtain ⟨_, hname, h⟩ := bind_eq_ok_iff.mp h
  obtain ⟨base, hbase, hpath⟩ := bind_eq_ok_iff.mp h
  obtain ⟨hconfig, rfl⟩ := configPath_eq_ok hbase
  refine ⟨hconfig, plain_of_validateName hname, ?_⟩
  have hkeys : "/keys/".toList = '/' :: "keys".toList ++ ['/'] := by decide +kernel
  have hkey : join '/' [key] = key := by simp [join]
  rw [← Except.ok.inj hpath, join_label below_ne_nil (List.cons_ne_nil _ _), hkeys, hkey]

theorem grantPath_eq_ok (h : grantPath config key mount = .ok path) :
    Plain config ∧ Plain key ∧ ∃ mountSegments, validateMountPath mount = .ok mountSegments ∧
      path = join '/' ((below config ++ "keys".toList :: [key]) ++ "grants".toList :: mountSegments) := by
  obtain ⟨mountSegments, hmount, h⟩ := bind_eq_ok_iff.mp h
  obtain ⟨base, hbase, h⟩ := bind_eq_ok_iff.mp h
  obtain ⟨_, -, hpath⟩ := bind_eq_ok_iff.mp h
  obtain ⟨hconfig, hkey, rfl⟩ := keyPath_eq_ok hbase
  refine ⟨hconfig, hkey, mountSegments, hmount, ?_⟩
  have hgrants : "/grants/".toList = '/' :: "grants".toList ++ ['/'] := by decide +kernel
  rw [← Except.ok.inj hpath, join_label key_ne_nil (validateMountPath_canonical hmount).nonempty, hgrants]

theorem plain_below (h : Plain config) : ∀ segment ∈ below config, Plain segment := by
  have hconfigs : ∀ segment ∈ configs, Plain segment := by decide +kernel
  exact List.forall_mem_append.mpr ⟨hconfigs, by simpa using h⟩

theorem plain_label {label : Str} (hlabel : Plain label) (hfirst : ∀ segment ∈ first, Plain segment)
    (hsecond : ∀ segment ∈ second, Plain segment) : ∀ segment ∈ first ++ label :: second, Plain segment :=
  List.forall_mem_append.mpr ⟨hfirst, List.forall_mem_cons.mpr ⟨hlabel, hsecond⟩⟩

/-- What the path of a call shows of it. -/
structure Shows (call : ExternalKeyCall) (path : Str) (mountSegments : List Str) : Prop where
  spells : path = join '/' (call.segments mountSegments)
  plain : ∀ segment ∈ call.segments mountSegments, Plain segment
  reads : readAddress call.method (call.segments mountSegments) = some call.canonical

theorem plain_keys : Plain "keys".toList := by decide +kernel

theorem plain_grants : Plain "grants".toList := by decide +kernel

theorem plain_key (hconfig : Plain config) (hkey : Plain key) :
    ∀ segment ∈ below config ++ "keys".toList :: [key], Plain segment :=
  plain_label plain_keys (plain_below hconfig) (by simpa using hkey)

theorem trimMatches_eq_join (h : validateMountPath mount = .ok mountSegments) :
    trimMatches (· == '/') mount = join '/' mountSegments :=
  (validatePath_eq_ok_iff.mp h).2.2.1

theorem plain_mount (h : validateMountPath mount = .ok mountSegments) :
    ∀ segment ∈ mountSegments, Plain segment := fun segment hmem =>
  ⟨((validateMountPath_canonical h).segment segment hmem).nonempty,
    ((validateMountPath_canonical h).segment segment hmem).noSlash⟩

/-- The call of a path can be read from it. -/
theorem ExternalKeyCall.path_shows {call : ExternalKeyCall} (h : call.path = .ok path) :
    ∃ mountSegments, Shows call path mountSegments := by
  cases call with
  | listExternalKeyConfigs =>
    have hconfigs : ∀ segment ∈ configs, Plain segment := by decide +kernel
    have hpath : "sys/external-keys/configs".toList = join '/' configs := by decide +kernel
    exact ⟨[], (Except.ok.inj h).symm.trans hpath, hconfigs, rfl⟩
  | readExternalKeyConfig config | writeExternalKeyConfig config | patchExternalKeyConfig config
  | deleteExternalKeyConfig config =>
    obtain ⟨hconfig, hpath⟩ := configPath_eq_ok h
    exact ⟨[], hpath, plain_below hconfig, rfl⟩
  | listExternalKeys config =>
    obtain ⟨base, hbase, hpath⟩ := bind_eq_ok_iff.mp h
    obtain ⟨hconfig, rfl⟩ := configPath_eq_ok hbase
    have hkeys : "/keys".toList = '/' :: "keys".toList := by decide +kernel
    refine ⟨[], ?_, plain_label plain_keys (plain_below hconfig) (by simp), rfl⟩
    rw [← Except.ok.inj hpath, segments, join_snoc below_ne_nil, hkeys]
  | readExternalKey config key | writeExternalKey config key | patchExternalKey config key
  | deleteExternalKey config key =>
    obtain ⟨hconfig, hkey, hpath⟩ := keyPath_eq_ok h
    exact ⟨[], hpath, plain_key hconfig hkey, rfl⟩
  | listExternalKeyGrants config key =>
    obtain ⟨base, hbase, hpath⟩ := bind_eq_ok_iff.mp h
    obtain ⟨hconfig, hkey, rfl⟩ := keyPath_eq_ok hbase
    have hgrants : "/grants".toList = '/' :: "grants".toList := by decide +kernel
    refine ⟨[], ?_, plain_label plain_grants (plain_key hconfig hkey) (by simp), rfl⟩
    rw [← Except.ok.inj hpath, segments, join_snoc key_ne_nil, hgrants]
  | grantExternalKey config key mount | deleteExternalKeyGrant config key mount =>
    obtain ⟨hconfig, hkey, mountSegments, hmount, hpath⟩ := grantPath_eq_ok h
    refine ⟨mountSegments, hpath, plain_label plain_grants (plain_key hconfig hkey) (plain_mount hmount), ?_⟩
    obtain ⟨first, rest, rfl⟩ :=
      List.exists_cons_of_ne_nil (validateMountPath_canonical hmount).nonempty
    rw [canonical, trimMatches_eq_join hmount]
    rfl

/-- A server that cuts the path at its slashes reads the call. -/
theorem Shows.readAddress_splitOn {call : ExternalKeyCall} (h : Shows call path mountSegments) :
    readAddress call.method (path.splitOn '/') = some call.canonical := by
  have hne : call.segments mountSegments ≠ [] := by
    cases call <;> exact List.cons_ne_nil _ _
  rw [h.spells, join, List.splitOn_intercalate '/' (fun segment hmem => (h.plain segment hmem).2) hne,
    h.reads]

end Paths

/-! ### Calls of 2.7 -/

def requireControlGroups : Gate :=
  requireStagedProfile "sys.control-group" "no control-group compatibility profile"

/-- The same check stands before an approval-aware unwrapping. -/
theorem wrapping_requireControlGroups (report : OpenBaoCompatibilityReport) :
    WrappingRedemption.requireControlGroups (.ok report) = requireControlGroups report := rfl

/-- The write of a control-group policy, which says nothing but the policy. -/
def writeControlGroupPolicy (name policy : Str) : GatedCall :=
  let write := writePolicy name ⟨⟨none, none, none, none⟩, policy⟩
  { write with
    -- The request is well formed, so that it does not matter which check is made first.
    gates := requireControlGroups :: write.gates }

def readControlGroupRequest : GatedCall where
  checks := .ok ()
  gates := [requireControlGroups]
  target :=
    RegisteredRouteBinding.registered sysScope "sys/control-group/request".toList
      "sys/control-group/request".toList
  method := "POST"
  dispatch := .registered

def authorizeControlGroup : GatedCall :=
  sysCall (.ok "sys/control-group/authorize".toList) [requireControlGroups] "POST"

inductive StagedCall where
  | externalKey (call : ExternalKeyCall)
  | writeControlGroupPolicy (name policy : Str)
  | readControlGroupRequest
  | authorizeControlGroup

namespace StagedCall

def gated : StagedCall → GatedCall
  | externalKey call => call.gated
  | writeControlGroupPolicy name policy => ExternalKeyAdministration.writeControlGroupPolicy name policy
  | readControlGroupRequest => ExternalKeyAdministration.readControlGroupRequest
  | authorizeControlGroup => ExternalKeyAdministration.authorizeControlGroup

theorem staged_gate (call : StagedCall) :
    ∃ endpoint message, requireStagedProfile endpoint message ∈ call.gated.gates := by
  cases call with
  | externalKey call => exact ⟨_, _, by cases call <;> exact List.mem_singleton_self _⟩
  | writeControlGroupPolicy name policy => exact ⟨_, _, List.mem_cons_self ..⟩
  | readControlGroupRequest => exact ⟨_, _, List.mem_singleton_self _⟩
  | authorizeControlGroup => exact ⟨_, _, List.mem_singleton_self _⟩

end StagedCall

theorem ExternalKeyCall.gated_method (call : ExternalKeyCall) : call.gated.method = call.method := by
  cases call <;> rfl

theorem ExternalKeyCall.target_eq_ok {call : ExternalKeyCall} {binding : RegisteredRouteBinding}
    (h : call.gated.target = .ok binding) : ∃ path, call.path = .ok path ∧ binding = .exact sysScope path := by
  have hplain : ∀ {path : Str}, RegisteredRouteBinding.registered sysScope path path = .ok binding →
      binding = .exact sysScope path := by
    intro path hpath
    obtain ⟨registry, hregistry, hpath⟩ := bind_eq_ok_iff.mp hpath
    obtain ⟨wire, hwire, hpath⟩ := bind_eq_ok_iff.mp hpath
    obtain rfl := Except.ok.inj (hregistry.symm.trans hwire)
    rw [if_pos rfl] at hpath
    exact (Except.ok.inj hpath).symm
  have hmapped : call.path.map (.exact sysScope) = .ok binding →
      ∃ path, call.path = .ok path ∧ binding = .exact sysScope path := by
    intro hmap
    cases hpath : call.path with
    | error e =>
      rw [hpath] at hmap
      cases hmap
    | ok path =>
      rw [hpath] at hmap
      exact ⟨path, rfl, (Except.ok.inj hmap).symm⟩
  cases call with
  | readExternalKeyConfig config | readExternalKey config key =>
    obtain ⟨path, hpath, hbinding⟩ := bind_eq_ok_iff.mp h
    exact ⟨path, hpath, hplain hbinding⟩
  | _ => exact hmapped h

/-- Whatever the callers of a client do, nothing of external keys or control groups is sent but under
a release that has them, assumed or found, and from the method and the path of an external-key
request a server reads the call with all its names. -/
theorem stagedRelease_law {Caller α σ : Type} [DecidableEq Caller]
    (operations : List RegisteredRoutes.OpenBaoOperation) (env : Environment (Answer α) σ)
    (client : Client) (system : ProbeSystem Caller) (hsystem : ReachableProbed client.policy system)
    (hclient : client.verification = system.verification) (call : StagedCall)
    (s s' : σ) (trace : List (Event (Answer α) σ)) (result : Except Error α)
    (hrun : Exec env s (call.gated.program operations client) trace result s') :
    Dispatched client (call.gated.Passes operations client) trace result ∧
    (∃ gate ∈ call.gated.gates, ∀ exchange,
      (∃ report, evaluateCompatibilityPolicy client.policy exchange = .ok report ∧ gate report = .ok ()) ↔
        ∃ version, StagedRelease client.policy exchange version) ∧
    ∀ event ∈ trace, event.request ≠ .health → ∃ exchange version report method path,
      StagedRelease client.policy exchange version ∧ routingProfile report = some version ∧
        call.gated.Passes operations client report method path ∧
          event.request = .operation method path ∧
            ∀ keyCall, call = .externalKey keyCall →
              readAddress method (path.splitOn '/') = some keyCall.canonical := by
  have hgenuine : Genuine client.policy client.verification := hclient ▸ hsystem.genuine
  have hdispatched := call.gated.settles s trace result s' hrun
  obtain ⟨endpoint, message, hgate⟩ := call.staged_gate
  refine ⟨hdispatched, ⟨_, hgate, evaluated_staged_iff client.policy⟩, fun event hmem hevent => ?_⟩
  obtain ⟨probes, report, method, path, hlearned, hpasses, hrequest⟩ := hdispatched.operation hmem hevent
  obtain ⟨exchange, heval⟩ := hlearned.genuine hgenuine
  obtain ⟨version, hrelease, hprofile⟩ := staged_of_evaluated heval (hpasses.gates _ hgate)
  refine ⟨exchange, version, report, method, path, hrelease, routingProfile_of_profileVersion hprofile,
    hpasses, hrequest, ?_⟩
  rintro keyCall rfl
  obtain ⟨binding, htarget, route, hroute, -, rfl, rfl⟩ := hpasses.goes
  obtain ⟨path, hpath, rfl⟩ := ExternalKeyCall.target_eq_ok htarget
  obtain ⟨mountSegments, hshows⟩ := ExternalKeyCall.path_shows hpath
  obtain ⟨registryPath, -, hroute⟩ := bind_eq_ok_iff.mp hroute
  obtain ⟨resolved, hresolved, hroute⟩ := bind_eq_ok_iff.mp hroute
  obtain rfl := Except.ok.inj hroute
  obtain ⟨_, -, -, hmethod⟩ := SecretRoutes.resolved_selects hresolved
  have hsent : resolved.method = keyCall.method := hmethod.trans keyCall.gated_method
  rw [hsent]
  exact hshows.readAddress_splitOn

section Granting

/-- The entry of the generated registry for a grant, with its range for the release. -/
def grantOperation : RegisteredRoutes.OpenBaoOperation :=
  ⟨"openbao.post.sys.external.keys.configs.name.keys.key.ref.grants.path.cc193bf9dc419db7", .post,
    "/sys/external-keys/configs/:name/keys/:key_ref/grants/:path".toList, .typedGated,
    [⟨⟨2, 7, 2⟩, ⟨2, 7, 2⟩, .lockedOpenApi, false⟩]⟩

def assumingClient : Client := ⟨⟨some (.assumed ⟨2, 7, 2⟩), []⟩, .pending, fun _ _ => .ok ()⟩

def nestedGrant : StagedCall :=
  .externalKey (.grantExternalKey "provider".toList "key".toList "/auth/nested/".toList)

def nestedPath : Str := "sys/external-keys/configs/provider/keys/key/grants/auth/nested".toList

theorem nestedGrant_passes :
    nestedGrant.gated.Passes [grantOperation] assumingClient (.assumed ⟨2, 7, 2⟩) "POST" nestedPath where
  checks := by decide +kernel
  gates := by
    have hgates : nestedGrant.gated.gates = [ExternalKeyCall.requireExternalKeys] := rfl
    rw [hgates]
    simp only [List.mem_singleton, forall_eq]
    decide
  goes := ⟨.exact sysScope nestedPath, by decide +kernel,
    ⟨⟨grantOperation.id, grantOperation, "POST"⟩, nestedPath⟩, by decide +kernel, rfl, rfl, rfl⟩

theorem stagedRelease_law_grant : ∃ exchange version report method path,
    StagedRelease (some (.assumed ⟨2, 7, 2⟩)) exchange version ∧ routingProfile report = some version ∧
      nestedGrant.gated.Passes [grantOperation] (settle assumingClient (.assumed ⟨2, 7, 2⟩)) report
        method path ∧
      Request.operation "POST" nestedPath = .operation method path ∧
        ∀ keyCall, nestedGrant = .externalKey keyCall →
          readAddress method (path.splitOn '/') = some keyCall.canonical := by
  have hrun : Exec (⟨fun _ _ _ _ => True, fun _ _ => True⟩ : Environment (Answer Unit) Unit) ()
      (nestedGrant.gated.program [grantOperation] (settle assumingClient (.assumed ⟨2, 7, 2⟩)))
      [⟨.operation "POST" nestedPath, (), .ok (), ()⟩] (.ok ()) () := by
    rw [GatedCall.program_settle nestedGrant_passes]
    exact .send trivial trivial (.done _ _)
  have hlaw := stagedRelease_law [grantOperation] _ (settle assumingClient (.assumed ⟨2, 7, 2⟩))
    (.init (some (.assumed ⟨2, 7, 2⟩)) : ProbeSystem Unit) .refl rfl nestedGrant () () _ _ hrun
  exact hlaw.2.2 _ (List.mem_singleton_self _) nofun

end Granting

end OpenBao.ExternalKeyAdministration
