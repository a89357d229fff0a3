import OpenBao.ControlGroups
import OpenBao.DurationText
import OpenBao.InPlaceEdits
import OpenBao.PathValidation

/-!
# The policy builder

Rules, the two private pushers and the public rule-adding methods. A method is
an edit of the builder: it returns its result beside the builder it leaves. The
helpers that grant an engine two paths push twice.
-/

namespace OpenBao.AclPolicy
open ControlGroups DurationText InPlaceEdits PathValidation Utf8Text

def maxPolicyRules : ℕ := 128
def maxPolicyBytes : ℕ := 16 * 1024

structure AclRule where
  path : Str
  capabilities : List AclCapability
  minWrappingTtl : Option Str
  maxWrappingTtl : Option Str
  controlGroup : Option ControlGroupRequirement
  deriving DecidableEq

structure AclPolicyBuilder where
  rules : List AclRule
  deriving DecidableEq

namespace AclPolicyBuilder

def new : AclPolicyBuilder := ⟨[]⟩

def push (b : AclPolicyBuilder) (rule : AclRule) : AclPolicyBuilder := ⟨b.rules ++ [rule]⟩

@[simp] theorem push_rules (b : AclPolicyBuilder) (rule : AclRule) :
    (b.push rule).rules = b.rules ++ [rule] := rfl

theorem push_ne (b : AclPolicyBuilder) (rule : AclRule) : b.push rule ≠ b := by
  intro h
  have := congrArg (fun b => b.rules.length) h
  simp at this

def checkRuleCount (b : AclPolicyBuilder) : Except Error Unit :=
  if maxPolicyRules ≤ b.rules.length then
    .error (.invalidParameter "ACL policy rule count exceeds maximum allowed length")
  else .ok ()

def collision : Error :=
  .invalidParameter "control-group rules cannot share an exact path with another rule"

def rejectControlGroupCollision (b : AclPolicyBuilder) (path : Str) : Except Error Unit :=
  if b.rules.any (fun rule => rule.path = path && rule.controlGroup.isSome) then .error collision
  else .ok ()

end AclPolicyBuilder
open AclPolicyBuilder

def validateCapabilities (capabilities : List AclCapability) :
    Except Error (List AclCapability) :=
  if capabilities = [] then
    .error (.invalidParameter "ACL policy rule must include at least one capability")
  else if .deny ∈ capabilities ∧ 1 < capabilities.length then
    .error (.invalidParameter "ACL deny capability must not be mixed with other capabilities")
  else .ok capabilities

def validateWrappingPolicyTtl (ttl : Str) (field : String) : Except Error Str := do
  validateDurationParameter ttl field
  .ok ttl

/-- An optional TTL parameter, checked when present. -/
def validateOptionalTtl (ttl : Option Str) (field : String) : Except Error (Option Str) :=
  match ttl with
  | none => .ok none
  | some ttl => do
    let ttl ← validateWrappingPolicyTtl ttl field
    .ok (some ttl)

def validatePolicyPath (path : Str) : Except Error Str := do
  let segments ← validateMountPath path
  .ok (join '/' segments)

def validateLiteralSegments (segments : List Str) : Except Error (List Str) :=
  if segments.any (fun segment => segment.contains '*' || segment.contains '+') then
    .error (.invalidPath "helper-generated ACL paths require literal mount, prefix, and key values")
  else .ok segments

def validateLiteralPath (path : Str) : Except Error (List Str) := do
  validateLiteralSegments (← validateEndpointPath path)

def validateLiteralMountPath (path : Str) : Except Error (List Str) := do
  validateLiteralSegments (← validateMountPath path)

def prefixedEnginePath (mount endpoint keyPrefix : Str) : Except Error Str := do
  let segments ← validateLiteralMountPath mount
  let below ← validateLiteralPath keyPrefix
  .ok (join '/' (segments ++ [endpoint] ++ below ++ [['*']]))

def engineKeyPath (mount endpoint key : Str) : Except Error Str := do
  let segments ← validateLiteralMountPath mount
  let below ← validateLiteralMountPath key
  .ok (join '/' (segments ++ [endpoint] ++ below))

/-- The checks and the push shared by both pushers, in the order of the source. -/
def addRule (path : Str) (capabilities : List AclCapability) (minTtl maxTtl : Option Str)
    (b : AclPolicyBuilder) : Except Error AclPolicyBuilder := do
  b.checkRuleCount
  let capabilities ← validateCapabilities capabilities
  let path ← validatePolicyPath path
  b.rejectControlGroupCollision path
  let minWrappingTtl ← validateOptionalTtl minTtl "min_wrapping_ttl"
  let maxWrappingTtl ← validateOptionalTtl maxTtl "max_wrapping_ttl"
  .ok (b.push { path, capabilities, minWrappingTtl, maxWrappingTtl, controlGroup := none })

abbrev Method := Edit Error AclPolicyBuilder Unit

def pushRule (path : Str) (capabilities : List AclCapability) : Method :=
  Edit.checked (addRule path capabilities none none)

def pushRuleWithWrapping (path : Str) (capabilities : List AclCapability)
    (minTtl maxTtl : Option Str) : Method :=
  Edit.checked fun b =>
    if minTtl.isNone && maxTtl.isNone then
      .error (.invalidParameter
        "ACL wrapping rule must include min_wrapping_ttl or max_wrapping_ttl")
    else addRule path capabilities minTtl maxTtl b

def allowPath (path : Str) (capabilities : List AclCapability) : Method :=
  pushRule path capabilities

def allowPathWithWrapping (path : Str) (capabilities : List AclCapability)
    (minTtl maxTtl : Option Str) : Method :=
  pushRuleWithWrapping path capabilities minTtl maxTtl

def denyPath (path : Str) : Method := pushRule path [.deny]

/-- The body of `allowPathWithControlGroup`, which rejects any rule at its path. -/
def addControlGroupRule (path : Str) (capabilities : List AclCapability)
    (requirement : ControlGroupRequirement) (b : AclPolicyBuilder) :
    Except Error AclPolicyBuilder := do
  let capabilities ← validateOperations capabilities
  b.checkRuleCount
  let path ← validatePolicyPath path
  if b.rules.any (fun rule => rule.path = path) then .error collision
  else .ok (b.push { path, capabilities, minWrappingTtl := none, maxWrappingTtl := none
                     controlGroup := some requirement })

def allowPathWithControlGroup (path : Str) (capabilities : List AclCapability)
    (requirement : ControlGroupRequirement) : Method :=
  Edit.checked (addControlGroupRule path capabilities requirement)

/-- The pusher a helper uses, by whether it requires response wrapping. -/
def pushHelperRule (path : Str) (capabilities : List AclCapability) : Option Str → Method
  | none => pushRule path capabilities
  | some minTtl => pushRuleWithWrapping path capabilities (some minTtl) none

/-- The common body of the KV v2 helpers. Both paths exist before the first push. -/
def allowKv2Prefix (dataCapabilities metadataCapabilities : List AclCapability)
    (mount keyPrefix : Str) (minTtl : Option Str) : Method :=
  (Edit.ofExcept (prefixedEnginePath mount "data".toList keyPrefix)).andThen fun dataPath =>
  (Edit.ofExcept (prefixedEnginePath mount "metadata".toList keyPrefix)).andThen fun metadataPath =>
  (pushHelperRule dataPath dataCapabilities minTtl).andThen fun _ =>
  pushRule metadataPath metadataCapabilities

/-- The common body of the transit helpers. The second path is built after the
first push. -/
def allowTransitKey (first second : Str) (mount key : Str) (minTtl : Option Str) : Method :=
  (Edit.ofExcept (engineKeyPath mount first key)).andThen fun firstPath =>
  (pushHelperRule firstPath [.update] minTtl).andThen fun _ =>
  (Edit.ofExcept (engineKeyPath mount second key)).andThen fun secondPath =>
  pushHelperRule secondPath [.update] minTtl

def kv2ReadWriteData : List AclCapability := [.create, .read, .update, .patch, .delete]
def kv2ReadWriteMetadata : List AclCapability := [.read, .update, .delete, .list]

def allowKv2ReadPrefix (mount keyPrefix : Str) : Method :=
  allowKv2Prefix [.read] [.list] mount keyPrefix none

def allowKv2ReadPrefixWithRequiredWrapping (mount keyPrefix minTtl : Str) : Method :=
  allowKv2Prefix [.read] [.list] mount keyPrefix (some minTtl)

def allowKv2ReadWritePrefix (mount keyPrefix : Str) : Method :=
  allowKv2Prefix kv2ReadWriteData kv2ReadWriteMetadata mount keyPrefix none

def allowKv2ReadWritePrefixWithRequiredWrapping (mount keyPrefix minTtl : Str) : Method :=
  allowKv2Prefix kv2ReadWriteData kv2ReadWriteMetadata mount keyPrefix (some minTtl)

def allowTransitEncryptDecrypt (mount key : Str) : Method :=
  allowTransitKey "encrypt".toList "decrypt".toList mount key none

def allowTransitEncryptDecryptWithRequiredWrapping (mount key minTtl : Str) : Method :=
  allowTransitKey "encrypt".toList "decrypt".toList mount key (some minTtl)

def allowTransitSignVerify (mount key : Str) : Method :=
  allowTransitKey "sign".toList "verify".toList mount key none

def allowTransitSignVerifyWithRequiredWrapping (mount key minTtl : Str) : Method :=
  allowTransitKey "sign".toList "verify".toList mount key (some minTtl)

/-- A call of a public rule-adding method with its arguments. -/
inductive BuilderCall where
  | allowPath (path : Str) (capabilities : List AclCapability)
  | allowPathWithWrapping (path : Str) (capabilities : List AclCapability)
      (minTtl maxTtl : Option Str)
  | denyPath (path : Str)
  | allowPathWithControlGroup (path : Str) (capabilities : List AclCapability)
      (requirement : ControlGroupRequirement)
  | allowKv2ReadPrefix (mount keyPrefix : Str)
  | allowKv2ReadPrefixWithRequiredWrapping (mount keyPrefix minTtl : Str)
  | allowKv2ReadWritePrefix (mount keyPrefix : Str)
  | allowKv2ReadWritePrefixWithRequiredWrapping (mount keyPrefix minTtl : Str)
  | allowTransitEncryptDecrypt (mount key : Str)
  | allowTransitEncryptDecryptWithRequiredWrapping (mount key minTtl : Str)
  | allowTransitSignVerify (mount key : Str)
  | allowTransitSignVerifyWithRequiredWrapping (mount key minTtl : Str)

def BuilderCall.method : BuilderCall → Method
  | allowPath path capabilities => AclPolicy.allowPath path capabilities
  | allowPathWithWrapping path capabilities minTtl maxTtl =>
    AclPolicy.allowPathWithWrapping path capabilities minTtl maxTtl
  | denyPath path => AclPolicy.denyPath path
  | allowPathWithControlGroup path capabilities requirement =>
    AclPolicy.allowPathWithControlGroup path capabilities requirement
  | allowKv2ReadPrefix mount keyPrefix => AclPolicy.allowKv2ReadPrefix mount keyPrefix
  | allowKv2ReadPrefixWithRequiredWrapping mount keyPrefix minTtl =>
    AclPolicy.allowKv2ReadPrefixWithRequiredWrapping mount keyPrefix minTtl
  | allowKv2ReadWritePrefix mount keyPrefix => AclPolicy.allowKv2ReadWritePrefix mount keyPrefix
  | allowKv2ReadWritePrefixWithRequiredWrapping mount keyPrefix minTtl =>
    AclPolicy.allowKv2ReadWritePrefixWithRequiredWrapping mount keyPrefix minTtl
  | allowTransitEncryptDecrypt mount key => AclPolicy.allowTransitEncryptDecrypt mount key
  | allowTransitEncryptDecryptWithRequiredWrapping mount key minTtl =>
    AclPolicy.allowTransitEncryptDecryptWithRequiredWrapping mount key minTtl
  | allowTransitSignVerify mount key => AclPolicy.allowTransitSignVerify mount key
  | allowTransitSignVerifyWithRequiredWrapping mount key minTtl =>
    AclPolicy.allowTransitSignVerifyWithRequiredWrapping mount key minTtl

/-- The builder after a sequence of calls, failed or not. -/
def afterCalls (calls : List BuilderCall) : AclPolicyBuilder :=
  Edit.after (calls.map BuilderCall.method) AclPolicyBuilder.new

theorem checkRuleCount_eq_ok_iff {b : AclPolicyBuilder} {u : Unit} :
    b.checkRuleCount = .ok u ↔ b.rules.length < maxPolicyRules := by
  rw [checkRuleCount]
  split
  · simp
    omega
  · simp
    omega

/-- Some capability is granted, or access is denied and nothing else. -/
abbrev ValidCapabilities (capabilities : List AclCapability) : Prop :=
  capabilities ≠ [] ∧ (.deny ∈ capabilities → capabilities = [.deny])

theorem validateCapabilities_eq_ok_iff {capabilities checked : List AclCapability} :
    validateCapabilities capabilities = .ok checked ↔
      checked = capabilities ∧ ValidCapabilities capabilities := by
  rw [validateCapabilities]
  split
  · next h => simp [h]
  · next hn =>
    have hd : (.deny ∈ capabilities ∧ 1 < capabilities.length) ↔
        ¬ (.deny ∈ capabilities → capabilities = [.deny]) := by
      cases capabilities with
      | nil => simp at hn
      | cons a capabilities =>
        cases capabilities with
        | nil => simp [eq_comm]
        | cons a' capabilities =>
          simp
          tauto
    split
    · next h => simp [hd.mp h]
    · next h =>
      have hh := not_not.mp (mt hd.mpr h)
      rw [Except.ok.injEq]
      exact ⟨fun h => ⟨h.symm, hn, hh⟩, fun h => h.1.symm⟩

theorem validateOptionalTtl_eq_ok_iff {ttl checked : Option Str} {field : String} :
    validateOptionalTtl ttl field = .ok checked ↔
      checked = ttl ∧ ∀ t ∈ ttl, validateDurationString t false = true := by
  cases ttl with
  | none =>
    simp only [validateOptionalTtl, Except.ok.injEq, Option.not_mem_none, false_implies,
      implies_true, and_true]
    exact eq_comm
  | some t =>
    simp only [validateOptionalTtl, validateWrappingPolicyTtl, bind, Except.bind]
    cases hd : validateDurationParameter t field with
    | error e =>
      have hn : validateDurationString t false ≠ true :=
        fun h => by simp [validateDurationParameter_eq_ok_iff.mpr h] at hd
      simp [hn]
    | ok u =>
      have ht := validateDurationParameter_eq_ok_iff.mp hd
      simp only [Except.ok.injEq, Option.mem_some_iff, forall_eq', ht, and_true]
      exact eq_comm

theorem validatePolicyPath_eq_ok_iff {path p : Str} :
    validatePolicyPath path = .ok p ↔
      ∃ segments, validateMountPath path = .ok segments ∧ join '/' segments = p := by
  rw [validatePolicyPath]
  cases validateMountPath path with
  | error e => simp [bind, Except.bind]
  | ok segments => simp [bind, Except.bind]

theorem rejectControlGroupCollision_eq_ok_iff {b : AclPolicyBuilder} {path : Str} {u : Unit} :
    b.rejectControlGroupCollision path = .ok u ↔
      ∀ rule ∈ b.rules, rule.path = path → rule.controlGroup = none := by
  have ha : b.rules.any (fun rule => rule.path = path && rule.controlGroup.isSome) = false ↔
      ∀ rule ∈ b.rules, rule.path = path → rule.controlGroup = none := by
    simp
  rw [rejectControlGroupCollision, ← ha]
  split
  · next h => simp [h]
  · next h => simpa using h

/-- What the shared pusher accepts, and what it then appends. -/
theorem addRule_eq_ok_iff {path : Str} {capabilities : List AclCapability}
    {minTtl maxTtl : Option Str} {b b' : AclPolicyBuilder} :
    addRule path capabilities minTtl maxTtl b = .ok b' ↔
      b.rules.length < maxPolicyRules ∧ ValidCapabilities capabilities ∧
      ∃ p, validatePolicyPath path = .ok p ∧
        (∀ rule ∈ b.rules, rule.path = p → rule.controlGroup = none) ∧
        (∀ t ∈ minTtl, validateDurationString t false = true) ∧
        (∀ t ∈ maxTtl, validateDurationString t false = true) ∧
        b' = b.push ⟨p, capabilities, minTtl, maxTtl, none⟩ := by
  simp only [addRule, bind_eq_ok_iff, checkRuleCount_eq_ok_iff, validateCapabilities_eq_ok_iff,
    rejectControlGroupCollision_eq_ok_iff, validateOptionalTtl_eq_ok_iff, Except.ok.injEq]
  constructor
  · rintro ⟨_, hl, _, ⟨rfl, hc⟩, p, hp, _, hx, _, ⟨rfl, hmin⟩, _, ⟨rfl, hmax⟩, rfl⟩
    exact ⟨hl, hc, p, hp, hx, hmin, hmax, rfl⟩
  · rintro ⟨hl, hc, p, hp, hx, hmin, hmax, rfl⟩
    exact ⟨(), hl, _, ⟨rfl, hc⟩, p, hp, (), hx, _, ⟨rfl, hmin⟩, _, ⟨rfl, hmax⟩, rfl⟩

theorem addControlGroupRule_eq_ok_iff {path : Str} {capabilities : List AclCapability}
    {requirement : ControlGroupRequirement} {b b' : AclPolicyBuilder} :
    addControlGroupRule path capabilities requirement b = .ok b' ↔
      ControlOperations capabilities ∧ b.rules.length < maxPolicyRules ∧
      ∃ p, validatePolicyPath path = .ok p ∧ (∀ rule ∈ b.rules, rule.path ≠ p) ∧
        b' = b.push ⟨p, capabilities, none, none, some requirement⟩ := by
  have ha : ∀ p, b.rules.any (fun rule => rule.path = p) = false ↔
      ∀ rule ∈ b.rules, rule.path ≠ p := by simp
  simp only [addControlGroupRule, bind_eq_ok_iff, validateOperations_eq_ok_iff,
    checkRuleCount_eq_ok_iff, ← ha]
  constructor
  · rintro ⟨_, ⟨rfl, ho⟩, _, hl, p, hp, h⟩
    split at h
    · simp at h
    · next hx =>
      rw [Except.ok.injEq] at h
      exact ⟨ho, hl, p, hp, by simpa using hx, h.symm⟩
  · rintro ⟨ho, hl, p, hp, hx, rfl⟩
    exact ⟨_, ⟨rfl, ho⟩, (), hl, p, hp, by simp [hx]⟩

theorem pushHelperRule_eq (path : Str) (capabilities : List AclCapability) (minTtl : Option Str) :
    pushHelperRule path capabilities minTtl =
      Edit.checked (addRule path capabilities minTtl none) := by
  cases minTtl <;> rfl

end OpenBao.AclPolicy
