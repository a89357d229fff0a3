import OpenBao.AclPolicy

/-!
# Runs of the policy builder

What every sequence of calls keeps true of the rule list, and which calls can
fail after they have already changed it.
-/

namespace OpenBao.PolicyBuilderRuns
open AclPolicy ControlGroups DurationText InPlaceEdits PathValidation Utf8Text

/-- A rule as the pushers build it. -/
structure WellFormedRule (rule : AclRule) : Prop where
  path : ∃ segments, validateMountPath rule.path = .ok segments ∧ join '/' segments = rule.path
  capabilities_ne_nil : rule.capabilities ≠ []
  deny_alone : .deny ∈ rule.capabilities → rule.capabilities = [.deny]
  controlled : rule.controlGroup.isSome → ControlOperations rule.capabilities ∧
    rule.minWrappingTtl = none ∧ rule.maxWrappingTtl = none
  min_valid : ∀ ttl ∈ rule.minWrappingTtl, validateDurationString ttl false = true
  max_valid : ∀ ttl ∈ rule.maxWrappingTtl, validateDurationString ttl false = true

/-- Two rules may share a path only if neither is a control-group rule. -/
def Compatible (r s : AclRule) : Prop :=
  r.path = s.path → r.controlGroup = none ∧ s.controlGroup = none

structure WellFormedBuilder (b : AclPolicyBuilder) : Prop where
  count : b.rules.length ≤ maxPolicyRules
  rule : ∀ r ∈ b.rules, WellFormedRule r
  exclusive : b.rules.Pairwise Compatible

theorem wellFormedBuilder_new : WellFormedBuilder AclPolicyBuilder.new :=
  ⟨by simp [AclPolicyBuilder.new], by simp [AclPolicyBuilder.new], by simp [AclPolicyBuilder.new]⟩

theorem WellFormedBuilder.push {b : AclPolicyBuilder} {rule : AclRule} (h : WellFormedBuilder b)
    (hl : b.rules.length < maxPolicyRules) (hr : WellFormedRule rule)
    (hx : ∀ r ∈ b.rules, Compatible r rule) : WellFormedBuilder (b.push rule) := by
  refine ⟨by simp; omega, ?_, ?_⟩
  · intro r hm
    rcases List.mem_append.mp hm with hm | hm
    · exact h.rule r hm
    · rw [List.mem_singleton.mp hm]
      exact hr
  · rw [AclPolicyBuilder.push_rules, List.pairwise_append]
    refine ⟨h.exclusive, by simp, ?_⟩
    intro r hm s hs
    rw [List.mem_singleton.mp hs]
    exact hx r hm

/-- The stored path is its own normal form. -/
theorem validatePolicyPath_normal {path p : Str} (h : validatePolicyPath path = .ok p) :
    ∃ segments, validateMountPath p = .ok segments ∧ join '/' segments = p := by
  obtain ⟨segments, hs, rfl⟩ := validatePolicyPath_eq_ok_iff.mp h
  exact ⟨segments, validateMountPath_idem hs, rfl⟩

theorem addRule_wellFormed {path : Str} {capabilities : List AclCapability}
    {minTtl maxTtl : Option Str} {b b' : AclPolicyBuilder} (h : WellFormedBuilder b)
    (ha : addRule path capabilities minTtl maxTtl b = .ok b') : WellFormedBuilder b' := by
  obtain ⟨hl, ⟨hne, hdeny⟩, p, hp, hx, hmin, hmax, rfl⟩ := addRule_eq_ok_iff.mp ha
  apply h.push hl
  · exact ⟨validatePolicyPath_normal hp, hne, hdeny, by simp, hmin, hmax⟩
  · intro r hm he
    exact ⟨hx r hm he, rfl⟩

theorem addControlGroupRule_wellFormed {path : Str} {capabilities : List AclCapability}
    {requirement : ControlGroupRequirement} {b b' : AclPolicyBuilder} (h : WellFormedBuilder b)
    (ha : addControlGroupRule path capabilities requirement b = .ok b') :
    WellFormedBuilder b' := by
  obtain ⟨ho, hl, p, hp, hx, rfl⟩ := addControlGroupRule_eq_ok_iff.mp ha
  apply h.push hl
  · refine ⟨validatePolicyPath_normal hp, ho.nonempty, ?_, fun _ => ⟨ho, rfl, rfl⟩, by simp, by simp⟩
    exact fun hd => absurd rfl (ho.allowed _ hd).1
  · intro r hm he
    exact absurd he (hx r hm)

section Preservation

variable {I : AclPolicyBuilder → Prop}

theorem pushHelperRule_preserves
    (hadd : ∀ path caps minTtl maxTtl, Edit.Preserves I (Edit.checked (addRule path caps minTtl maxTtl)))
    (path : Str) (capabilities : List AclCapability) (minTtl : Option Str) :
    Edit.Preserves I (pushHelperRule path capabilities minTtl) := by
  rw [pushHelperRule_eq]
  exact hadd _ _ _ _

theorem pushRuleWithWrapping_preserves
    (hadd : ∀ path caps minTtl maxTtl, Edit.Preserves I (Edit.checked (addRule path caps minTtl maxTtl)))
    (path : Str) (capabilities : List AclCapability) (minTtl maxTtl : Option Str) :
    Edit.Preserves I (pushRuleWithWrapping path capabilities minTtl maxTtl) := by
  intro b hb
  by_cases hn : (minTtl.isNone && maxTtl.isNone) = true
  · simpa [pushRuleWithWrapping, Edit.checked, hn] using hb
  · simpa [pushRuleWithWrapping, Edit.checked, hn] using hadd path capabilities minTtl maxTtl b hb

/-- What both kinds of insertion keep, every public method keeps. -/
theorem method_preserves
    (hadd : ∀ path caps minTtl maxTtl, Edit.Preserves I (Edit.checked (addRule path caps minTtl maxTtl)))
    (hgroup : ∀ path caps requirement,
      Edit.Preserves I (Edit.checked (addControlGroupRule path caps requirement)))
    (call : BuilderCall) : Edit.Preserves I call.method := by
  have hkv : ∀ data metadata mount keyPrefix minTtl,
      Edit.Preserves I (allowKv2Prefix data metadata mount keyPrefix minTtl) := by
    intro data metadata mount keyPrefix minTtl
    refine (Edit.Preserves.ofExcept I _).andThen fun dataPath => ?_
    refine (Edit.Preserves.ofExcept I _).andThen fun metadataPath => ?_
    exact (pushHelperRule_preserves hadd _ _ _).andThen fun _ => hadd _ _ _ _
  have htransit : ∀ first second mount key minTtl,
      Edit.Preserves I (allowTransitKey first second mount key minTtl) := by
    intro first second mount key minTtl
    refine (Edit.Preserves.ofExcept I _).andThen fun firstPath => ?_
    refine (pushHelperRule_preserves hadd _ _ _).andThen fun _ => ?_
    refine (Edit.Preserves.ofExcept I _).andThen fun secondPath => ?_
    exact pushHelperRule_preserves hadd _ _ _
  cases call with
  | allowPath path capabilities => exact hadd _ _ _ _
  | allowPathWithWrapping path capabilities minTtl maxTtl =>
    exact pushRuleWithWrapping_preserves hadd _ _ _ _
  | denyPath path => exact hadd _ _ _ _
  | allowPathWithControlGroup path capabilities requirement => exact hgroup _ _ _
  | allowKv2ReadPrefix mount keyPrefix => exact hkv _ _ _ _ _
  | allowKv2ReadPrefixWithRequiredWrapping mount keyPrefix minTtl => exact hkv _ _ _ _ _
  | allowKv2ReadWritePrefix mount keyPrefix => exact hkv _ _ _ _ _
  | allowKv2ReadWritePrefixWithRequiredWrapping mount keyPrefix minTtl => exact hkv _ _ _ _ _
  | allowTransitEncryptDecrypt mount key => exact htransit _ _ _ _ _
  | allowTransitEncryptDecryptWithRequiredWrapping mount key minTtl => exact htransit _ _ _ _ _
  | allowTransitSignVerify mount key => exact htransit _ _ _ _ _
  | allowTransitSignVerifyWithRequiredWrapping mount key minTtl => exact htransit _ _ _ _ _

end Preservation

theorem method_preserves_wellFormed (call : BuilderCall) :
    Edit.Preserves WellFormedBuilder call.method :=
  method_preserves
    (fun _ _ _ _ => Edit.Preserves.checked fun _ _ hb ha => addRule_wellFormed hb ha)
    (fun _ _ _ => Edit.Preserves.checked fun _ _ hb ha => addControlGroupRule_wellFormed hb ha)
    call

theorem afterCalls_wellFormed (calls : List BuilderCall) : WellFormedBuilder (afterCalls calls) := by
  apply Edit.Preserves.after _ wellFormedBuilder_new
  intro x hx
  obtain ⟨call, -, rfl⟩ := List.mem_map.mp hx
  exact method_preserves_wellFormed call

/-- The two rules a helper adds, once its arguments give two paths. -/
structure TwoRules where
  first : Str
  second : Str
  minTtl : Option Str

def kv2Rules (mount keyPrefix : Str) (minTtl : Option Str) : Option TwoRules := do
  let first ← (prefixedEnginePath mount "data".toList keyPrefix).toOption
  let second ← (prefixedEnginePath mount "metadata".toList keyPrefix).toOption
  some ⟨first, second, minTtl⟩

def transitRules (first second mount key : Str) (minTtl : Option Str) : Option TwoRules := do
  let first ← (engineKeyPath mount first key).toOption
  let second ← (engineKeyPath mount second key).toOption
  some ⟨first, second, minTtl⟩

def twoRules : BuilderCall → Option TwoRules
  | .allowKv2ReadPrefix mount keyPrefix => kv2Rules mount keyPrefix none
  | .allowKv2ReadPrefixWithRequiredWrapping mount keyPrefix minTtl =>
    kv2Rules mount keyPrefix (some minTtl)
  | .allowKv2ReadWritePrefix mount keyPrefix => kv2Rules mount keyPrefix none
  | .allowKv2ReadWritePrefixWithRequiredWrapping mount keyPrefix minTtl =>
    kv2Rules mount keyPrefix (some minTtl)
  | .allowTransitEncryptDecrypt mount key =>
    transitRules "encrypt".toList "decrypt".toList mount key none
  | .allowTransitEncryptDecryptWithRequiredWrapping mount key minTtl =>
    transitRules "encrypt".toList "decrypt".toList mount key (some minTtl)
  | .allowTransitSignVerify mount key =>
    transitRules "sign".toList "verify".toList mount key none
  | .allowTransitSignVerifyWithRequiredWrapping mount key minTtl =>
    transitRules "sign".toList "verify".toList mount key (some minTtl)
  | _ => none

/-- The state has room for the first rule of a helper but not for the second. -/
structure StrandsFirstRule (b : AclPolicyBuilder) (rules : TwoRules) : Prop where
  room : b.rules.length < maxPolicyRules
  first_valid : ∃ segments, validateMountPath rules.first = .ok segments
  first_free : ∀ rule ∈ b.rules, rule.path = rules.first → rule.controlGroup = none
  ttl_valid : ∀ ttl ∈ rules.minTtl, validateDurationString ttl false = true
  second_rejected : b.rules.length + 1 = maxPolicyRules ∨ maxPathBytes < byteLen rules.second ∨
    ∃ rule ∈ b.rules, rule.path = rules.second ∧ rule.controlGroup.isSome

/-- Two paths of equally many segments, as every helper makes them. -/
def PairedPaths (first second : Str) : Prop :=
  ∃ fs ss : List Str, PathSegments fs ∧ PathSegments ss ∧ fs.length = ss.length ∧
    first = join '/' fs ∧ second = join '/' ss

theorem validateLiteralSegments_eq_ok {segments result : List Str}
    (h : validateLiteralSegments segments = .ok result) : result = segments := by
  rw [validateLiteralSegments] at h
  split at h
  · simp at h
  · simpa using h.symm

theorem validateLiteralMountPath_segments {path : Str} {segments : List Str}
    (h : validateLiteralMountPath path = .ok segments) : PathSegments segments := by
  obtain ⟨raw, hr, hs⟩ := bind_eq_ok_iff.mp h
  rw [validateLiteralSegments_eq_ok hs]
  exact (validateMountPath_canonical hr).toPathSegments

theorem validateLiteralPath_segments {path : Str} {segments : List Str}
    (h : validateLiteralPath path = .ok segments) : ∀ s ∈ segments, CanonicalSegment s := by
  obtain ⟨raw, hr, hs⟩ := bind_eq_ok_iff.mp h
  rw [validateLiteralSegments_eq_ok hs]
  obtain ⟨-, -, -, ⟨rfl, -⟩ | hc⟩ := validatePath_eq_ok_iff.mp hr
  · simp
  · exact hc.segment

theorem prefixedEnginePath_eq_ok_iff {mount endpoint keyPrefix path : Str} :
    prefixedEnginePath mount endpoint keyPrefix = .ok path ↔
      ∃ segments below, validateLiteralMountPath mount = .ok segments ∧
        validateLiteralPath keyPrefix = .ok below ∧
        join '/' (segments ++ [endpoint] ++ below ++ [['*']]) = path := by
  simp [prefixedEnginePath, bind_eq_ok_iff]

theorem engineKeyPath_eq_ok_iff {mount endpoint key path : Str} :
    engineKeyPath mount endpoint key = .ok path ↔
      ∃ segments below, validateLiteralMountPath mount = .ok segments ∧
        validateLiteralMountPath key = .ok below ∧
        join '/' (segments ++ [endpoint] ++ below) = path := by
  simp [engineKeyPath, bind_eq_ok_iff]

/-- Inserting an endpoint between accepted segments gives accepted segments. -/
theorem PathSegments.insert {segments below : List Str} {endpoint : Str}
    (hs : PathSegments segments) (he : CanonicalSegment endpoint)
    (hb : ∀ s ∈ below, CanonicalSegment s) : PathSegments (segments ++ [endpoint] ++ below) := by
  refine ⟨by simp, ?_⟩
  intro s hm
  rcases List.mem_append.mp hm with hm | hm
  · rcases List.mem_append.mp hm with hm | hm
    · exact hs.segment s hm
    · rw [List.mem_singleton.mp hm]
      exact he
  · exact hb s hm

/-- The fixed segments of the helpers' paths. -/
def engineSegments : List Str :=
  ["data".toList, "metadata".toList, "encrypt".toList, "decrypt".toList, "sign".toList,
    "verify".toList, ['*']]

theorem engineSegments_canonical : ∀ e ∈ engineSegments, CanonicalSegment e := by
  have hn : ∀ e ∈ engineSegments, e ≠ [] := by decide
  have ha : ∀ e ∈ engineSegments, e.all allowedChar = true := by decide
  have hs : ∀ e ∈ engineSegments, '/' ∉ e := by decide
  have hp : ∀ e ∈ engineSegments, e.getLast? ≠ some '.' := by decide
  exact fun e he => ⟨hn e he, List.all_eq_true.mp (ha e he), hs e he, hp e he⟩

theorem prefixedEnginePath_paired {mount keyPrefix e e' path path' : Str}
    (he : e ∈ engineSegments) (he' : e' ∈ engineSegments)
    (h : prefixedEnginePath mount e keyPrefix = .ok path)
    (h' : prefixedEnginePath mount e' keyPrefix = .ok path') : PairedPaths path path' := by
  obtain ⟨segments, below, hs, hb, rfl⟩ := prefixedEnginePath_eq_ok_iff.mp h
  obtain ⟨segments', below', hs', hb', rfl⟩ := prefixedEnginePath_eq_ok_iff.mp h'
  obtain rfl : segments = segments' := by simpa [hs] using hs'
  obtain rfl : below = below' := by simpa [hb] using hb'
  have hstar : ∀ s ∈ below ++ [['*']], CanonicalSegment s := by
    intro s hm
    rcases List.mem_append.mp hm with hm | hm
    · exact validateLiteralPath_segments hb s hm
    · rw [List.mem_singleton.mp hm]
      exact engineSegments_canonical _ (by decide)
  have hsegs := validateLiteralMountPath_segments hs
  exact ⟨_, _, PathSegments.insert hsegs (engineSegments_canonical _ he) hstar,
    PathSegments.insert hsegs (engineSegments_canonical _ he') hstar, by simp, by simp, by simp⟩

theorem engineKeyPath_paired {mount key e e' path path' : Str}
    (he : e ∈ engineSegments) (he' : e' ∈ engineSegments)
    (h : engineKeyPath mount e key = .ok path) (h' : engineKeyPath mount e' key = .ok path') :
    PairedPaths path path' := by
  obtain ⟨segments, below, hs, hb, rfl⟩ := engineKeyPath_eq_ok_iff.mp h
  obtain ⟨segments', below', hs', hb', rfl⟩ := engineKeyPath_eq_ok_iff.mp h'
  obtain rfl : segments = segments' := by simpa [hs] using hs'
  obtain rfl : below = below' := by simpa [hb] using hb'
  have hsegs := validateLiteralMountPath_segments hs
  have hbelow := (validateLiteralMountPath_segments hb).segment
  exact ⟨_, _, PathSegments.insert hsegs (engineSegments_canonical _ he) hbelow,
    PathSegments.insert hsegs (engineSegments_canonical _ he') hbelow, by simp, rfl, rfl⟩

theorem validatePolicyPath_join {segments : List Str} {p : Str} (h : PathSegments segments) :
    validatePolicyPath (join '/' segments) = .ok p ↔
      p = join '/' segments ∧ segments.length ≤ maxPathSegments ∧
        byteLen (join '/' segments) ≤ maxPathBytes := by
  simp only [validatePolicyPath_eq_ok_iff, validateMountPath_join h]
  constructor
  · rintro ⟨_, ⟨rfl, hl⟩, rfl⟩
    exact ⟨rfl, hl⟩
  · rintro ⟨rfl, hl⟩
    exact ⟨_, ⟨rfl, hl⟩, rfl⟩

/-- A sequence of two helper pushes fails cleanly unless it strands its first rule. -/
theorem twoPushes_failsCleanly_iff {rules : TwoRules} {capabilities capabilities' : List AclCapability}
    {ttl : Option Str} {b : AclPolicyBuilder} (hp : PairedPaths rules.first rules.second)
    (hc : ValidCapabilities capabilities) (hc' : ValidCapabilities capabilities')
    (ht : ∀ t ∈ ttl, t ∈ rules.minTtl) :
    ((Edit.checked (addRule rules.first capabilities rules.minTtl none)).andThen fun _ =>
      Edit.checked (addRule rules.second capabilities' ttl none)).FailsCleanly b ↔
      ¬ StrandsFirstRule b rules := by
  obtain ⟨fs, ss, hfs, hss, hlen, hf, hs⟩ := hp
  rw [Edit.checked_andThen_failsCleanly_iff]
  · apply not_congr
    have hok : ∀ {path caps minTtl b'}, (∃ e, addRule path caps minTtl none b' = .error e) ↔
        ¬ ∃ b'', addRule path caps minTtl none b' = .ok b'' := by
      intro path caps minTtl b'
      cases addRule path caps minTtl none b' <;> simp
    simp only [hok, addRule_eq_ok_iff, hf, hs, validatePolicyPath_join hfs,
      validatePolicyPath_join hss]
    constructor
    · rintro ⟨b', ⟨hl, -, p, ⟨rfl, hcount, hbytes⟩, hx, hmin, -, rfl⟩, hno⟩
      refine ⟨hl, ⟨fs, ?_⟩, ?_, hmin, ?_⟩
      · rw [hf, validateMountPath_join hfs]
        exact ⟨rfl, hcount, hbytes⟩
      · rwa [hf]
      · by_contra hcon
        simp only [not_or, not_exists, not_and, not_lt] at hcon
        refine hno ⟨_, ?_, hc', _, ⟨rfl, hlen ▸ hcount, hs ▸ hcon.2.1⟩, ?_, ?_, by simp, rfl⟩
        · simp
          omega
        · intro rule hm he
          rcases List.mem_append.mp hm with hm | hm
          · simpa using hcon.2.2 rule hm (by rw [hs, he])
          · rw [List.mem_singleton.mp hm]
        · exact fun t hm => hmin t (ht t hm)
    · rintro ⟨hroom, ⟨segments, hv⟩, hfree, httl, hrej⟩
      rw [hf, validateMountPath_join hfs] at hv
      refine ⟨_, ⟨hroom, hc, _, ⟨rfl, hv.2⟩, by rwa [← hf], httl, by simp, rfl⟩, ?_⟩
      rintro ⟨b'', hl, -, p, ⟨rfl, -, hbytes⟩, hx, -⟩
      rcases hrej with hrej | hrej | ⟨rule, hm, he, hg⟩
      · simp at hl
        omega
      · rw [hs] at hrej
        omega
      · have := hx rule (by simp [hm]) (by rw [he, hs])
        simp [this] at hg
  · intro b' hb
    obtain ⟨-, -, p, -, -, -, -, rfl⟩ := addRule_eq_ok_iff.mp hb
    exact AclPolicyBuilder.push_ne _ _

theorem kv2_failsCleanly_iff {data metadata : List AclCapability} {mount keyPrefix : Str}
    {minTtl : Option Str} {b : AclPolicyBuilder}
    (hd : ValidCapabilities data) (hm : ValidCapabilities metadata) :
    (allowKv2Prefix data metadata mount keyPrefix minTtl).FailsCleanly b ↔
      ∀ rules, kv2Rules mount keyPrefix minTtl = some rules → ¬ StrandsFirstRule b rules := by
  cases h : prefixedEnginePath mount "data".toList keyPrefix with
  | error e =>
    have hk : kv2Rules mount keyPrefix minTtl = none := by rw [kv2Rules, h]; rfl
    rw [allowKv2Prefix, h, hk, Edit.ofExcept_andThen_error]
    simp [Edit.ofExcept_failsCleanly]
  | ok first =>
    cases h' : prefixedEnginePath mount "metadata".toList keyPrefix with
    | error e =>
      have hk : kv2Rules mount keyPrefix minTtl = none := by rw [kv2Rules, h, h']; rfl
      rw [allowKv2Prefix, h, h', hk, Edit.ofExcept_andThen_ok, Edit.ofExcept_andThen_error]
      simp [Edit.ofExcept_failsCleanly]
    | ok second =>
      have hk : kv2Rules mount keyPrefix minTtl = some ⟨first, second, minTtl⟩ := by
        rw [kv2Rules, h, h']; rfl
      have hp : PairedPaths first second :=
        prefixedEnginePath_paired (by decide) (by decide) h h'
      have hpush := @twoPushes_failsCleanly_iff ⟨first, second, minTtl⟩ data metadata none b hp hd hm
        (by simp)
      rw [allowKv2Prefix, h, h', hk, Edit.ofExcept_andThen_ok, Edit.ofExcept_andThen_ok,
        pushHelperRule_eq, pushRule, hpush]
      simp

theorem transit_failsCleanly_iff {e e' mount key : Str} {minTtl : Option Str} {b : AclPolicyBuilder}
    (he : e ∈ engineSegments) (he' : e' ∈ engineSegments) :
    (allowTransitKey e e' mount key minTtl).FailsCleanly b ↔
      ∀ rules, transitRules e e' mount key minTtl = some rules → ¬ StrandsFirstRule b rules := by
  cases h : engineKeyPath mount e key with
  | error err =>
    have hk : transitRules e e' mount key minTtl = none := by rw [transitRules, h]; rfl
    rw [allowTransitKey, h, hk, Edit.ofExcept_andThen_error]
    simp [Edit.ofExcept_failsCleanly]
  | ok first =>
    -- the second path differs in its endpoint only, so it exists as well
    obtain ⟨segments, below, hs, hb, -⟩ := engineKeyPath_eq_ok_iff.mp h
    obtain ⟨second, h'⟩ : ∃ second, engineKeyPath mount e' key = .ok second :=
      ⟨_, engineKeyPath_eq_ok_iff.mpr ⟨segments, below, hs, hb, rfl⟩⟩
    have hk : transitRules e e' mount key minTtl = some ⟨first, second, minTtl⟩ := by
      rw [transitRules, h, h']; rfl
    have hc : ValidCapabilities [.update] := by decide
    have hpush := @twoPushes_failsCleanly_iff ⟨first, second, minTtl⟩ [.update] [.update] minTtl b
      (engineKeyPath_paired he he' h h') hc hc (fun _ ht => ht)
    simp only [allowTransitKey, h, h', hk, Edit.ofExcept_andThen_ok, pushHelperRule_eq, hpush]
    simp

/-- Single pushes fail cleanly, two-rule helpers unless they strand their first rule. -/
theorem method_failsCleanly_iff (call : BuilderCall) (b : AclPolicyBuilder) :
    call.method.FailsCleanly b ↔ ∀ rules, twoRules call = some rules → ¬ StrandsFirstRule b rules := by
  cases call with
  | allowPath path capabilities =>
    simp [twoRules, BuilderCall.method, allowPath, pushRule, Edit.checked_failsCleanly]
  | allowPathWithWrapping path capabilities minTtl maxTtl =>
    simp [twoRules, BuilderCall.method, allowPathWithWrapping, pushRuleWithWrapping,
      Edit.checked_failsCleanly]
  | denyPath path => simp [twoRules, BuilderCall.method, denyPath, pushRule, Edit.checked_failsCleanly]
  | allowPathWithControlGroup path capabilities requirement =>
    simp [twoRules, BuilderCall.method, allowPathWithControlGroup, Edit.checked_failsCleanly]
  | allowKv2ReadPrefix mount keyPrefix => exact kv2_failsCleanly_iff (by decide) (by decide)
  | allowKv2ReadPrefixWithRequiredWrapping mount keyPrefix minTtl =>
    exact kv2_failsCleanly_iff (by decide) (by decide)
  | allowKv2ReadWritePrefix mount keyPrefix => exact kv2_failsCleanly_iff (by decide) (by decide)
  | allowKv2ReadWritePrefixWithRequiredWrapping mount keyPrefix minTtl =>
    exact kv2_failsCleanly_iff (by decide) (by decide)
  | allowTransitEncryptDecrypt mount key =>
    exact transit_failsCleanly_iff (by decide) (by decide)
  | allowTransitEncryptDecryptWithRequiredWrapping mount key minTtl =>
    exact transit_failsCleanly_iff (by decide) (by decide)
  | allowTransitSignVerify mount key =>
    exact transit_failsCleanly_iff (by decide) (by decide)
  | allowTransitSignVerifyWithRequiredWrapping mount key minTtl =>
    exact transit_failsCleanly_iff (by decide) (by decide)

/-- A failed call leaves the rule list of a reachable builder as it was exactly
when it is no two-rule helper that strands its first rule there. -/
theorem failed_call_keeps_rules_iff (calls : List BuilderCall) (call : BuilderCall) :
    (∀ e, (call.method (afterCalls calls)).1 = .error e →
      (call.method (afterCalls calls)).2.rules = (afterCalls calls).rules) ↔
      ¬ ∃ rules, twoRules call = some rules ∧ StrandsFirstRule (afterCalls calls) rules := by
  have h := method_failsCleanly_iff call (afterCalls calls)
  simp only [not_exists, not_and]
  rw [← h]
  refine forall₂_congr fun e _ => ?_
  exact ⟨fun hr => congrArg AclPolicyBuilder.mk hr, fun hr => congrArg AclPolicyBuilder.rules hr⟩

def operatorApproval : ControlGroupRequirement where
  ttlSeconds := 300
  factors := [{ name := "ops".toList, groups := ["operators".toList], approvals := 2
                name_valid := by decide
                approvals_pos := by decide
                approvals_le := by decide
                groups_ne_nil := by decide
                groups_length := by decide
                groups_valid := by decide
                groups_nodup := by decide }]
  ttlSeconds_pos := by decide
  ttlSeconds_le := by decide
  factors_ne_nil := by decide
  factors_length := by decide
  factors_nodup := by decide

/-- A control-group rule on the metadata path makes the second push fail after
the data rule is in. -/
theorem failed_kv2_call_keeps_data_rule :
    ¬ ∀ (calls : List BuilderCall) (call : BuilderCall) (e : Error),
      (call.method (afterCalls calls)).1 = .error e →
        (call.method (afterCalls calls)).2.rules = (afterCalls calls).rules := by
  intro h
  have hh := h [.allowPathWithControlGroup "secret/metadata/app/*".toList [.list] operatorApproval]
    (.allowKv2ReadPrefix "secret".toList "app".toList) AclPolicyBuilder.collision (by decide +kernel)
  exact absurd hh (by decide +kernel)

end OpenBao.PolicyBuilderRuns
