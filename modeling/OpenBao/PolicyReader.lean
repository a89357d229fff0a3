import OpenBao.PolicyRendering
import OpenBao.TokenReaders

/-!
# Reading policy documents back

A reader for the emitted grammar, independent of the writer. It rebuilds the
control-group values through their public constructors.
-/

namespace OpenBao.PolicyReader
open AclPolicy ControlGroups PolicyRendering TokenReaders TokenReader Utf8Text

def textOf : Token → Option Str
  | .text value => some value
  | _ => none

def numberOf : Token → Option ℕ
  | .word digits =>
    if digits ≠ [] ∧ digits.all Char.isDigit then some (Nat.ofDigitChars 10 digits 0) else none
  | _ => none

/-- The whole seconds of a quoted TTL. -/
def secondsOf : Token → Option ℕ
  | .text value => if value.getLast? = some 's' then numberOf (.word value.dropLast) else none
  | _ => none

def capabilityOf (name : Str) : Option AclCapability :=
  [AclCapability.create, .read, .update, .delete, .list, .patch, .sudo, .deny].find?
    fun capability => capability.asStr = name

def readList : TokenReader Token (List Str) := do
  expect [.mark '[']
  listed (.mark ',') (.mark ']') textOf

def readCapabilities : TokenReader Token (List AclCapability) := do
  let names ← readList
  ofOption (names.mapM capabilityOf)

def readFactor (capabilities : List AclCapability) : TokenReader Token ControlGroupFactor := do
  expect [.word "factor".toList]
  let name ← token textOf
  expect [.mark '{', .word "controlled_capabilities".toList, .mark '=']
  let controlled ← readCapabilities
  expect [.word "identity".toList, .mark '{', .word "group_names".toList, .mark '=']
  let groups ← readList
  expect [.word "approvals".toList, .mark '=']
  let approvals ← token numberOf
  expect [.mark '}', .mark '}']
  ofOption (if controlled = capabilities then
    (ControlGroupFactor.new name groups approvals).toOption else none)

def readGroup (capabilities : List AclCapability) : TokenReader Token ControlGroupRequirement := do
  expect [.word "control_group".toList, .mark '=', .mark '{', .word "ttl".toList, .mark '=']
  let seconds ← token secondsOf
  expect [.word "self_auth_allowed".toList, .mark '=', .word "false".toList]
  let factors ← items (fun input => input.head? = some (.mark '}')) (readFactor capabilities)
  expect [.mark '}']
  ofOption (ControlGroupRequirement.new ⟨seconds, 0⟩ factors).toOption

def readTtl (field : String) : TokenReader Token (Option Str) :=
  whenNext (.word field.toList) do
    expect [.word field.toList, .mark '=']
    token textOf

def readRule : TokenReader Token AclRule := do
  expect [.word "path".toList]
  let path ← token textOf
  expect [.mark '{', .word "capabilities".toList, .mark '=']
  let capabilities ← readCapabilities
  let minWrappingTtl ← readTtl "min_wrapping_ttl"
  let maxWrappingTtl ← readTtl "max_wrapping_ttl"
  let controlGroup ← whenNext (.word "control_group".toList) (readGroup capabilities)
  expect [.mark '}']
  pure { path, capabilities, minWrappingTtl, maxWrappingTtl, controlGroup }

/-- The rules of a complete document. -/
def readPolicy (document : Str) : Option (List AclRule) := do
  let tokens ← lex document
  let (rules, rest) ← items List.isEmpty readRule tokens
  if rest = [] then some rules else none

theorem reads_list (texts : List Str) (follow : List Token → Prop) :
    Reads readList follow (listTokens texts) texts := by
  rw [readList, listTokens]
  apply (reads_expect _ Anything).next
  exact reads_listed (g := Token.text) (fun a => ⟨rfl, by simp⟩) (by decide) texts follow

theorem mapM_capabilityOf (capabilities : List AclCapability) :
    (capabilities.map AclCapability.asStr).mapM capabilityOf = some capabilities := by
  have hc : ∀ c : AclCapability, capabilityOf c.asStr = some c := by
    intro c
    cases c <;> decide
  induction capabilities with
  | nil => rfl
  | cons c capabilities ih => simp [hc, ih]

theorem reads_capabilities (capabilities : List AclCapability) (follow : List Token → Prop) :
    Reads readCapabilities follow (capabilityTokens capabilities) capabilities := by
  apply (reads_list (capabilities.map AclCapability.asStr) Anything).last
  exact reads_ofOption (mapM_capabilityOf capabilities) follow

theorem numberOf_toDigits (n : ℕ) : numberOf (.word (Nat.toDigits 10 n)) = some n := by
  have hd : ∀ c ∈ Nat.toDigits 10 n, c.isDigit = true := fun c hc => DecimalNumerals.isDigit_of_mem_toDigits hc
  simp only [numberOf]
  rw [if_pos ⟨Nat.toDigits_ne_nil, List.all_eq_true.mpr hd⟩, Nat.ofDigitChars_ten_toDigits]

theorem secondsOf_toDigits (n : ℕ) : secondsOf (.text (Nat.toDigits 10 n ++ ['s'])) = some n := by
  simp [secondsOf, numberOf_toDigits]

theorem reads_factor (capabilities : List AclCapability) (factor : ControlGroupFactor) :
    Reads (readFactor capabilities) Anything (factorTokens capabilities factor) factor := by
  simp only [factorTokens, List.append_assoc]
  apply (reads_expect _ Anything).next
  apply (reads_token (f := textOf) rfl Anything).next
  apply (reads_expect _ Anything).next
  apply (reads_capabilities capabilities Anything).next
  apply (reads_expect _ Anything).next
  apply (reads_list factor.groups Anything).next
  apply (reads_expect _ Anything).next
  have h : [Token.word (Nat.toDigits 10 factor.approvals), .mark '}', .mark '}'] =
      [.word (Nat.toDigits 10 factor.approvals)] ++ [.mark '}', .mark '}'] := rfl
  rw [h]
  apply (reads_token (numberOf_toDigits factor.approvals) Anything).next
  apply (reads_expect _ Anything).last
  apply reads_ofOption
  rw [if_pos rfl, ControlGroupFactor.new_parts]
  rfl

theorem reads_group (capabilities : List AclCapability) (requirement : ControlGroupRequirement) :
    Reads (readGroup capabilities) Anything (groupTokens requirement capabilities) requirement := by
  simp only [groupTokens, List.append_assoc]
  apply (reads_expect _ Anything).next
  apply (reads_token (secondsOf_toDigits requirement.ttlSeconds) Anything).next
  apply (reads_expect _ Anything).next
  have hf : Reads (items (fun input => input.head? = some (Token.mark '}')) (readFactor capabilities))
      (fun rest => decide (rest.head? = some (Token.mark '}')) = true)
      (requirement.factors.flatMap (factorTokens capabilities)) requirement.factors :=
    reads_items (fun f _ => reads_factor capabilities f) (fun f _ rest => by simp [factorTokens])
      (fun f _ => by simp [factorTokens])
  apply hf.bind (G := Anything) _ fun rest _ => by simp
  apply (reads_expect _ Anything).last
  apply reads_ofOption
  rw [ControlGroupRequirement.new_parts]
  rfl

theorem reads_ttl (field : String) (ttl : Option Str) :
    Reads (readTtl field) (fun rest => rest.head? ≠ some (.word field.toList))
      (ttlTokens field ttl) ttl := by
  cases ttl with
  | none => exact reads_whenNext_none _ _
  | some ttl =>
    apply reads_whenNext_some
    apply (reads_expect _ Anything).next
    exact reads_token (f := textOf) rfl _

theorem reads_controlGroup (capabilities : List AclCapability)
    (group : Option ControlGroupRequirement) :
    Reads (whenNext (.word "control_group".toList) (readGroup capabilities))
      (fun rest => rest.head? ≠ some (.word "control_group".toList))
      (controlGroupTokens capabilities group) group := by
  cases group with
  | none => exact reads_whenNext_none _ _
  | some group =>
    apply reads_whenNext_some
    exact (reads_group capabilities group).mono fun _ _ => trivial

theorem reads_rule (rule : AclRule) : Reads readRule Anything (ruleTokens rule) rule := by
  simp only [ruleTokens, List.append_assoc]
  apply (reads_expect _ Anything).next
  apply (reads_token (f := textOf) rfl Anything).next
  apply (reads_expect _ Anything).next
  apply (reads_capabilities rule.capabilities Anything).next
  apply (reads_ttl "min_wrapping_ttl" rule.minWrappingTtl).bind (G := Anything)
  · apply (reads_ttl "max_wrapping_ttl" rule.maxWrappingTtl).bind (G := Anything)
    · apply (reads_controlGroup rule.capabilities rule.controlGroup).bind (G := Anything)
      · exact (reads_expect _ Anything).last (Reads.pure rule Anything)
      · intro rest _
        simp
    · intro rest _
      cases rule.controlGroup <;> simp [controlGroupTokens, groupTokens]
  · intro rest _
    cases rule.maxWrappingTtl <;> cases rule.controlGroup <;>
      simp [ttlTokens, controlGroupTokens, groupTokens]

/-- Reading inverts rendering, for every rule list. -/
theorem readPolicy_rules (rules : List AclRule) :
    readPolicy (rules.flatMap ruleHcl) = some rules := by
  have hr : Reads (items List.isEmpty readRule) (fun rest => rest.isEmpty = true)
      (rules.flatMap ruleTokens) rules :=
    reads_items (fun rule _ => reads_rule rule) (fun rule _ rest => by simp [ruleTokens])
      (fun rule _ => by simp [ruleTokens])
  have h := hr [] rfl
  rw [List.append_nil] at h
  simp [readPolicy, lex_rules, h]

/-- A document is built unless it is too long, and reading it gives exactly the
rules of the builder. -/
theorem build_read (calls : List BuilderCall) :
    (∀ document, build (afterCalls calls) = .ok document →
      readPolicy document = some (afterCalls calls).rules) ∧
    ((∃ e, build (afterCalls calls) = .error e) ↔
      maxPolicyBytes < byteLen ((afterCalls calls).rules.flatMap ruleHcl)) ∧
    ∀ calls' document, build (afterCalls calls) = .ok document →
      build (afterCalls calls') = .ok document → afterCalls calls = afterCalls calls' := by
  have hb : ∀ b : AclPolicyBuilder, build b =
      if byteLen (b.rules.flatMap ruleHcl) ≤ maxPolicyBytes then .ok (b.rules.flatMap ruleHcl)
      else .error (.invalidParameter "ACL policy document exceeds maximum allowed length") :=
    fun b => buildFrom_eq [] b.rules (by simp [byteLen])
  have hread : ∀ b document, build b = .ok document → readPolicy document = some b.rules := by
    intro b document h
    rw [hb] at h
    split at h
    · cases h
      exact readPolicy_rules b.rules
    · simp at h
  refine ⟨hread _, ?_, ?_⟩
  · rw [hb]
    split
    · simp
      omega
    · simp
      omega
  · intro calls' document h h'
    have he := (hread _ _ h).symm.trans (hread _ _ h')
    exact congrArg AclPolicyBuilder.mk (Option.some.inj he)

end OpenBao.PolicyReader
