import OpenBao.AclPolicy

/-!
# Rendering policy documents

What the builder writes, and the tokens of the emitted grammar. A quoted string
is read with three escapes only, so every other character stands for itself and
the first bare quote ends the string.
-/

namespace OpenBao.PolicyRendering
open AclPolicy ControlGroups DecimalNumerals Utf8Text

/-- What `push_hcl_string` appends. -/
def hclString : Str → Str
  | [] => []
  | '"' :: cs => '\\' :: '"' :: hclString cs
  | '\\' :: cs => '\\' :: '\\' :: hclString cs
  | '$' :: '{' :: cs => '$' :: '$' :: '{' :: hclString cs
  | c :: cs => c :: hclString cs

def quoted (text : Str) : Str := '"' :: (text ++ ['"'])

/-- A loop that writes quoted items from `index` on, separated by commas. -/
def quotedItems (write : Str → Str) : ℕ → List Str → Str
  | _, [] => []
  | index, item :: rest =>
    (if 0 < index then ", ".toList else []) ++ quoted (write item) ++
      quotedItems write (index + 1) rest

def quotedList (write : Str → Str) (items : List Str) : Str :=
  '[' :: (quotedItems write 0 items ++ [']'])

def capabilityList (capabilities : List AclCapability) : Str :=
  quotedList id (capabilities.map AclCapability.asStr)

def factorHcl (capabilities : List AclCapability) (factor : ControlGroupFactor) : Str :=
  "    factor ".toList ++ quoted (hclString factor.name) ++
    " \x7b\n      controlled_capabilities = ".toList ++ capabilityList capabilities ++
    "\n      identity \x7b\n        group_names = ".toList ++ quotedList hclString factor.groups ++
    "\n        approvals = ".toList ++
    (Nat.toDigits 10 factor.approvals ++ "\n      \x7d\n    \x7d\n".toList)

/-- What `write_hcl` appends. -/
def writeHcl (requirement : ControlGroupRequirement) (capabilities : List AclCapability) : Str :=
  "  control_group = \x7b\n    ttl = ".toList ++
    quoted (Nat.toDigits 10 requirement.ttlSeconds ++ ['s']) ++
    "\n    self_auth_allowed = false\n".toList ++
    requirement.factors.flatMap (factorHcl capabilities) ++ "  \x7d\n".toList

def ttlHcl (field : String) : Option Str → Str
  | none => []
  | some ttl =>
    ("  ".toList ++ field.toList ++ " = ".toList) ++ quoted (hclString ttl) ++ "\n".toList

def controlGroupHcl (capabilities : List AclCapability) : Option ControlGroupRequirement → Str
  | none => []
  | some group => writeHcl group capabilities

/-- What the free function `push_rule` appends. -/
def ruleHcl (rule : AclRule) : Str :=
  "path ".toList ++ quoted (hclString rule.path) ++ " \x7b\n  capabilities = ".toList ++
    capabilityList rule.capabilities ++ "\n".toList ++
    ttlHcl "min_wrapping_ttl" rule.minWrappingTtl ++
    ttlHcl "max_wrapping_ttl" rule.maxWrappingTtl ++
    controlGroupHcl rule.capabilities rule.controlGroup ++ "\x7d\n".toList

/-- The loop of `build` over the remaining rules. -/
def buildFrom : Str → List AclRule → Except Error Str
  | document, [] => .ok document
  | document, rule :: rest =>
    if maxPolicyBytes < byteLen (document ++ ruleHcl rule) then
      .error (.invalidParameter "ACL policy document exceeds maximum allowed length")
    else buildFrom (document ++ ruleHcl rule) rest

def build (b : AclPolicyBuilder) : Except Error Str := buildFrom [] b.rules

inductive Token where
  | word (letters : Str)
  | text (value : Str)
  | mark (c : Char)
  deriving DecidableEq

inductive Mode where
  | between
  | word (letters : Str)
  | quoted (value : Str)

def wordChar (c : Char) : Bool := c.isAlphanum || c = '_'

/-- The effect of a character outside words and strings. -/
def start (done : List Token) (c : Char) : Option (List Token × Mode) :=
  if c = ' ' ∨ c = '\n' then some (done, .between)
  else if c = '"' then some (done, .quoted [])
  else if c = '{' ∨ c = '}' ∨ c = '[' ∨ c = ']' ∨ c = '=' ∨ c = ',' then
    some (done ++ [.mark c], .between)
  else if wordChar c then some (done, .word [c])
  else none

/-- The tokens of a document, after those already `done`. -/
def lexFrom (done : List Token) : Mode → Str → Option (List Token)
  | .between, [] => some done
  | .word letters, [] => some (done ++ [.word letters])
  | .quoted _, [] => none
  | .quoted value, '"' :: cs => lexFrom (done ++ [.text value]) .between cs
  | .quoted value, '\\' :: '"' :: cs => lexFrom done (.quoted (value ++ ['"'])) cs
  | .quoted value, '\\' :: '\\' :: cs => lexFrom done (.quoted (value ++ ['\\'])) cs
  | .quoted value, '$' :: '$' :: '{' :: cs => lexFrom done (.quoted (value ++ ['$', '{'])) cs
  | .quoted value, c :: cs => lexFrom done (.quoted (value ++ [c])) cs
  | .word letters, c :: cs =>
    if wordChar c then lexFrom done (.word (letters ++ [c])) cs
    else (start (done ++ [.word letters]) c).bind fun s => lexFrom s.1 s.2 cs
  | .between, c :: cs => (start done c).bind fun s => lexFrom s.1 s.2 cs

def lex (document : Str) : Option (List Token) := lexFrom [] .between document

theorem hclString_cons {c : Char} {cs : Str} (hq : c ≠ '"') (hb : c ≠ '\\')
    (hd : c = '$' → cs.head? ≠ some '{') : hclString (c :: cs) = c :: hclString cs := by
  rw [hclString]
  · exact hq
  · exact hb
  · rintro cs' hc rfl
    exact hd hc rfl

/-- Escaping moves no brace to the front. -/
theorem hclString_head_brace {value : Str} (h : (hclString value).head? = some '{') :
    value.head? = some '{' := by
  cases value with
  | nil => simp [hclString] at h
  | cons c cs =>
    unfold hclString at h
    split at h <;> simp_all

/-- Escaped text never opens a template. -/
theorem hclString_not_opening (value rest cs : Str) :
    hclString value ++ '"' :: rest ≠ '$' :: '{' :: cs := by
  fun_cases hclString value with
  | case1 => simp
  | case2 | case3 | case4 => simp
  | case5 c cs' hq hb hd =>
    intro h
    rw [List.cons_append, List.cons.injEq] at h
    cases hv : hclString cs' with
    | nil => simp [hv] at h
    | cons b bs =>
      have hh : (hclString cs').head? = some '{' := by
        rw [hv] at h ⊢
        simpa using congrArg List.head? h.2
      obtain ⟨ds, rfl⟩ := List.head?_eq_some_iff.mp (hclString_head_brace hh)
      exact hd ds h.1 rfl

/-- Reading an escaped value up to the closing quote gives the value back. -/
theorem lexFrom_hclString (done : List Token) (value read rest : Str) :
    lexFrom done (.quoted read) (hclString value ++ '"' :: rest) =
      lexFrom (done ++ [.text (read ++ value)]) .between rest := by
  induction value using hclString.induct generalizing read with
  | case1 => simp [hclString, lexFrom]
  | case2 cs ih => simp [hclString, lexFrom, ih]
  | case3 cs ih => simp [hclString, lexFrom, ih]
  | case4 cs ih => simp [hclString, lexFrom, ih]
  | case5 c cs hq hb hd ih =>
    have hs : hclString (c :: cs) = c :: hclString cs := by
      apply hclString_cons hq hb
      intro hc he
      obtain ⟨ds, rfl⟩ := List.head?_eq_some_iff.mp he
      exact hd ds hc rfl
    have hl : lexFrom done (.quoted read) (c :: (hclString cs ++ '"' :: rest)) =
        lexFrom done (.quoted (read ++ [c])) (hclString cs ++ '"' :: rest) := by
      rw [lexFrom]
      · exact hq
      · exact fun _ hc => absurd hc hb
      · exact fun _ hc => absurd hc hb
      · exact fun _ _ => hclString_not_opening cs rest _
    rw [hs, List.cons_append, hl, ih]
    simp

/-- Items in brackets, with commas between them. -/
def listTokens (items : List Str) : List Token :=
  [Token.mark '['] ++ ((items.map Token.text).intersperse (Token.mark ',') ++ [Token.mark ']'])

def capabilityTokens (capabilities : List AclCapability) : List Token :=
  listTokens (capabilities.map AclCapability.asStr)

def factorTokens (capabilities : List AclCapability) (factor : ControlGroupFactor) : List Token :=
  [Token.word "factor".toList] ++ [Token.text factor.name] ++
    [Token.mark '{', Token.word "controlled_capabilities".toList, Token.mark '='] ++
    capabilityTokens capabilities ++
    [Token.word "identity".toList, Token.mark '{', Token.word "group_names".toList, Token.mark '='] ++
    listTokens factor.groups ++ [Token.word "approvals".toList, Token.mark '='] ++
    [Token.word (Nat.toDigits 10 factor.approvals), Token.mark '}', Token.mark '}']

def groupTokens (requirement : ControlGroupRequirement) (capabilities : List AclCapability) :
    List Token :=
  [Token.word "control_group".toList, Token.mark '=', Token.mark '{', Token.word "ttl".toList, Token.mark '='] ++
    [Token.text (Nat.toDigits 10 requirement.ttlSeconds ++ ['s'])] ++
    [Token.word "self_auth_allowed".toList, Token.mark '=', Token.word "false".toList] ++
    requirement.factors.flatMap (factorTokens capabilities) ++ [Token.mark '}']

def ttlTokens (field : String) : Option Str → List Token
  | none => []
  | some ttl => [Token.word field.toList, Token.mark '='] ++ [Token.text ttl]

def controlGroupTokens (capabilities : List AclCapability) :
    Option ControlGroupRequirement → List Token
  | none => []
  | some group => groupTokens group capabilities

def ruleTokens (rule : AclRule) : List Token :=
  [Token.word "path".toList] ++ [Token.text rule.path] ++
    [Token.mark '{', Token.word "capabilities".toList, Token.mark '='] ++ capabilityTokens rule.capabilities ++
    ttlTokens "min_wrapping_ttl" rule.minWrappingTtl ++
    ttlTokens "max_wrapping_ttl" rule.maxWrappingTtl ++
    controlGroupTokens rule.capabilities rule.controlGroup ++ [Token.mark '}']

/-- `text` is read as `tokens`, whatever precedes and follows it. -/
def LexesTo (text : Str) (tokens : List Token) : Prop :=
  ∀ done rest, lexFrom done .between (text ++ rest) = lexFrom (done ++ tokens) .between rest

theorem LexesTo.append {s t : Str} {ts us : List Token} (hs : LexesTo s ts) (ht : LexesTo t us) :
    LexesTo (s ++ t) (ts ++ us) := by
  intro done rest
  rw [List.append_assoc, hs, ht, List.append_assoc]

theorem lexesTo_nil : LexesTo [] [] := by
  intro done rest
  simp

/-- The reader outside strings, up to a place between two words. -/
def scan (done : List Token) : Mode → Str → Option (List Token)
  | .between, [] => some done
  | .between, c :: cs => (start done c).bind fun s => scan s.1 s.2 cs
  | .word _, [] => none
  | .word letters, c :: cs =>
    if wordChar c then scan done (.word (letters ++ [c])) cs
    else (start (done ++ [.word letters]) c).bind fun s => scan s.1 s.2 cs
  | .quoted _, _ => none

theorem start_append (before done : List Token) (c : Char) :
    start (before ++ done) c = (start done c).map fun s => (before ++ s.1, s.2) := by
  unfold start
  split_ifs <;> simp

/-- The reader does the same behind other tokens and in front of other text. -/
theorem lexFrom_scan {done tokens : List Token} {mode : Mode} {text : Str} (before : List Token)
    (rest : Str) (h : scan done mode text = some tokens) :
    lexFrom (before ++ done) mode (text ++ rest) = lexFrom (before ++ tokens) .between rest := by
  induction text generalizing done mode with
  | nil =>
    cases mode with
    | between => rw [Option.some.inj h, List.nil_append]
    | word letters => cases h
    | quoted value => cases h
  | cons c cs ih =>
    have hstart : ∀ done', (start done' c).bind (fun s => scan s.1 s.2 cs) = some tokens →
        ((start (before ++ done') c).bind fun s => lexFrom s.1 s.2 (cs ++ rest)) =
          lexFrom (before ++ tokens) .between rest := by
      intro done' hscan
      obtain ⟨s, hs, hcs⟩ := Option.bind_eq_some_iff.mp hscan
      rw [start_append, hs]
      exact ih hcs
    rw [List.cons_append]
    cases mode with
    | between =>
      rw [lexFrom]
      exact hstart done h
    | word letters =>
      rw [scan] at h
      rw [lexFrom]
      split_ifs at h ⊢ with hword
      · exact ih h
      · rw [List.append_assoc]
        exact hstart _ h
    | quoted value => cases h

/-- A text without variable parts. -/
theorem lexesTo_literal {text : Str} {tokens : List Token}
    (h : scan [] .between text = some tokens) : LexesTo text tokens := by
  intro done rest
  have hscan := lexFrom_scan done rest h
  rwa [List.append_nil] at hscan

theorem LexesTo.flatMap {α : Type} {write : α → Str} {tokens : α → List Token} {xs : List α}
    (h : ∀ x ∈ xs, LexesTo (write x) (tokens x)) : LexesTo (xs.flatMap write) (xs.flatMap tokens) := by
  induction xs with
  | nil => exact lexesTo_nil
  | cons x xs ih =>
    rw [List.flatMap_cons, List.flatMap_cons]
    exact (h x (by simp)).append (ih fun y hy => h y (List.mem_cons_of_mem _ hy))

/-- White space changes nothing. -/
theorem LexesTo.newline {s : Str} {ts : List Token} (hs : LexesTo s ts) :
    LexesTo (s ++ "\n".toList) ts := by
  intro done rest
  have h : lexFrom (done ++ ts) .between ('\n' :: rest) = lexFrom (done ++ ts) .between rest := by
    simp [lexFrom, start]
  rw [List.append_assoc, hs]
  exact h

/-- A quoted item, escaped by a function that the reader undoes. -/
theorem lexesTo_quoted {text value : Str} (h : text = hclString value) :
    LexesTo (quoted text) [.text value] := by
  intro done rest
  have := lexFrom_hclString done value [] rest
  simpa [quoted, lexFrom, start, h] using this

theorem hclString_eq_self {value : Str} (h : ∀ c ∈ value, c ≠ '"' ∧ c ≠ '\\' ∧ c ≠ '$') :
    hclString value = value := by
  induction value with
  | nil => rfl
  | cons c cs ih =>
    have hc := h c (by simp)
    rw [hclString_cons hc.1 hc.2.1 (fun hd => absurd hd hc.2.2),
      ih fun d hd => h d (List.mem_cons_of_mem _ hd)]

theorem hclString_asStr (capability : AclCapability) :
    hclString capability.asStr = capability.asStr := by
  cases capability <;> decide

theorem lexFrom_word (done : List Token) (letters more rest : Str)
    (h : ∀ c ∈ more, wordChar c = true) :
    lexFrom done (.word letters) (more ++ '\n' :: rest) =
      lexFrom (done ++ [.word (letters ++ more)]) .between rest := by
  induction more generalizing letters with
  | nil => simp [lexFrom, start, wordChar]
  | cons c cs ih =>
    rw [List.cons_append, lexFrom, if_pos (h c (by simp)),
      ih _ fun d hd => h d (List.mem_cons_of_mem _ hd)]
    simp

theorem lexFrom_number (done : List Token) (n : ℕ) (rest : Str) :
    lexFrom done .between (Nat.toDigits 10 n ++ '\n' :: rest) =
      lexFrom (done ++ [.word (Nat.toDigits 10 n)]) .between rest := by
  have hw : ∀ c ∈ Nat.toDigits 10 n, wordChar c = true := by
    intro c hc
    simp [wordChar, Char.isAlphanum, isDigit_of_mem_toDigits hc]
  cases hd : Nat.toDigits 10 n with
  | nil => exact absurd hd Nat.toDigits_ne_nil
  | cons c cs =>
    have hc := isDigit_of_mem_toDigits (n := n) (c := c) (by simp [hd])
    have hs : start done c = some (done, .word [c]) := by
      rw [hd] at hw
      unfold start
      split_ifs with h₁ h₂ h₃ h₄
      · rcases h₁ with rfl | rfl <;> simp at hc
      · simp [h₂] at hc
      · rcases h₃ with rfl | rfl | rfl | rfl | rfl | rfl <;> simp at hc
      · rfl
      · exact absurd (hw c (by simp)) h₄
    rw [List.cons_append, lexFrom, hs]
    exact lexFrom_word done [c] cs rest fun d hm => hw d (by simp [hd, hm])

theorem intersperse_text (item : Str) (items : List Str) :
    ((item :: items).map Token.text).intersperse (.mark ',') =
      .text item :: items.flatMap fun i => [.mark ',', .text i] := by
  induction items generalizing item with
  | nil => simp
  | cons item' items ih =>
    have h := ih item'
    simp only [List.map_cons] at h ⊢
    rw [List.intersperse_cons_cons, h]
    simp

theorem lexesTo_laterItems {write : Str → Str} {items : List Str} (index : ℕ)
    (h : ∀ item ∈ items, write item = hclString item) :
    LexesTo (quotedItems write (index + 1) items)
      (items.flatMap fun i => [.mark ',', .text i]) := by
  have hcomma : LexesTo ", ".toList [.mark ','] :=
    lexesTo_literal (by decide +kernel)
  induction items generalizing index with
  | nil => exact lexesTo_nil
  | cons item items ih =>
    have hi := hcomma.append (lexesTo_quoted (h item (by simp)))
    exact hi.append (ih (index + 1) fun i hm => h i (List.mem_cons_of_mem _ hm))

theorem lexesTo_quotedList {write : Str → Str} {items : List Str}
    (h : ∀ item ∈ items, write item = hclString item) :
    LexesTo (quotedList write items) (listTokens items) := by
  have hopen : LexesTo ['['] [.mark '['] :=
    lexesTo_literal (by decide +kernel)
  have hclose : LexesTo [']'] [.mark ']'] :=
    lexesTo_literal (by decide +kernel)
  cases items with
  | nil => exact hopen.append hclose
  | cons item items =>
    have hi := (lexesTo_quoted (h item (by simp))).append
      (lexesTo_laterItems 0 fun i hm => h i (List.mem_cons_of_mem _ hm))
    rw [listTokens, intersperse_text]
    exact hopen.append (hi.append hclose)

theorem lexesTo_capabilities (capabilities : List AclCapability) :
    LexesTo (capabilityList capabilities) (capabilityTokens capabilities) := by
  apply lexesTo_quotedList
  intro item hm
  obtain ⟨c, -, rfl⟩ := List.mem_map.mp hm
  exact (hclString_asStr c).symm

theorem lexesTo_factor (capabilities : List AclCapability) (factor : ControlGroupFactor) :
    LexesTo (factorHcl capabilities factor) (factorTokens capabilities factor) := by
  have h₁ : LexesTo "    factor ".toList [.word "factor".toList] :=
    lexesTo_literal (by decide +kernel)
  have h₂ : LexesTo " \x7b\n      controlled_capabilities = ".toList
      [.mark '{', .word "controlled_capabilities".toList, .mark '='] :=
    lexesTo_literal (by decide +kernel)
  have h₃ : LexesTo "\n      identity \x7b\n        group_names = ".toList
      [.word "identity".toList, .mark '{', .word "group_names".toList, .mark '='] :=
    lexesTo_literal (by decide +kernel)
  have h₄ : LexesTo "\n        approvals = ".toList [.word "approvals".toList, .mark '='] :=
    lexesTo_literal (by decide +kernel)
  have h₅ : LexesTo (Nat.toDigits 10 factor.approvals ++ "\n      \x7d\n    \x7d\n".toList)
      [.word (Nat.toDigits 10 factor.approvals), .mark '}', .mark '}'] := by
    intro done rest
    rw [List.append_assoc]
    have hn := lexFrom_number done factor.approvals ("      \x7d\n    \x7d\n".toList ++ rest)
    simpa [lexFrom, start] using hn
  have hn : LexesTo (quoted (hclString factor.name)) [.text factor.name] := lexesTo_quoted rfl
  have hg : LexesTo (quotedList hclString factor.groups) (listTokens factor.groups) :=
    lexesTo_quotedList fun _ _ => rfl
  exact ((((((h₁.append hn).append h₂).append (lexesTo_capabilities capabilities)).append
    h₃).append hg).append h₄).append h₅

theorem lexesTo_group (requirement : ControlGroupRequirement)
    (capabilities : List AclCapability) :
    LexesTo (writeHcl requirement capabilities) (groupTokens requirement capabilities) := by
  have h₁ : LexesTo "  control_group = \x7b\n    ttl = ".toList
      [.word "control_group".toList, .mark '=', .mark '{', .word "ttl".toList, .mark '='] :=
    lexesTo_literal (by decide +kernel)
  have h₂ : LexesTo "\n    self_auth_allowed = false\n".toList
      [.word "self_auth_allowed".toList, .mark '=', .word "false".toList] :=
    lexesTo_literal (by decide +kernel)
  have h₃ : LexesTo "  \x7d\n".toList [.mark '}'] :=
    lexesTo_literal (by decide +kernel)
  have hq : LexesTo (quoted (Nat.toDigits 10 requirement.ttlSeconds ++ ['s']))
      [.text (Nat.toDigits 10 requirement.ttlSeconds ++ ['s'])] := by
    apply lexesTo_quoted
    symm
    apply hclString_eq_self
    intro c hc
    rcases List.mem_append.mp hc with hc | hc
    · have hd := isDigit_of_mem_toDigits hc
      refine ⟨?_, ?_, ?_⟩ <;> rintro rfl <;> simp at hd
    · simp [List.mem_singleton.mp hc]
  have hf : LexesTo (requirement.factors.flatMap (factorHcl capabilities))
      (requirement.factors.flatMap (factorTokens capabilities)) :=
    LexesTo.flatMap fun f _ => lexesTo_factor capabilities f
  exact (((h₁.append hq).append h₂).append hf).append h₃

/-- The field names of a rule's TTLs. -/
def ttlFields : List String := ["min_wrapping_ttl", "max_wrapping_ttl"]

theorem lexesTo_ttl {field : String} (hf : field ∈ ttlFields) (ttl : Option Str) :
    LexesTo (ttlHcl field ttl) (ttlTokens field ttl) := by
  cases ttl with
  | none => exact lexesTo_nil
  | some ttl =>
    have h₁ : LexesTo ("  ".toList ++ field.toList ++ " = ".toList)
        [.word field.toList, .mark '='] := by
      apply lexesTo_literal
      simp only [ttlFields, List.mem_cons, List.not_mem_nil, or_false] at hf
      rcases hf with rfl | rfl <;> decide +kernel
    exact (h₁.append (lexesTo_quoted rfl)).newline

theorem lexesTo_controlGroup (capabilities : List AclCapability)
    (group : Option ControlGroupRequirement) :
    LexesTo (controlGroupHcl capabilities group) (controlGroupTokens capabilities group) := by
  cases group with
  | none => exact lexesTo_nil
  | some group => exact lexesTo_group group capabilities

theorem lexesTo_rule (rule : AclRule) : LexesTo (ruleHcl rule) (ruleTokens rule) := by
  have h₁ : LexesTo "path ".toList [.word "path".toList] :=
    lexesTo_literal (by decide +kernel)
  have h₂ : LexesTo " \x7b\n  capabilities = ".toList
      [.mark '{', .word "capabilities".toList, .mark '='] :=
    lexesTo_literal (by decide +kernel)
  have h₃ : LexesTo "\x7d\n".toList [.mark '}'] :=
    lexesTo_literal (by decide +kernel)
  have hp : LexesTo (quoted (hclString rule.path)) [.text rule.path] := lexesTo_quoted rfl
  have hmin := lexesTo_ttl (by decide : "min_wrapping_ttl" ∈ ttlFields) rule.minWrappingTtl
  have hmax := lexesTo_ttl (by decide : "max_wrapping_ttl" ∈ ttlFields) rule.maxWrappingTtl
  exact (((((((h₁.append hp).append h₂).append
    (lexesTo_capabilities rule.capabilities)).newline).append hmin).append hmax).append
    (lexesTo_controlGroup rule.capabilities rule.controlGroup)).append h₃

/-- The rendered document is read as the tokens of its rules. -/
theorem lex_rules (rules : List AclRule) :
    lex (rules.flatMap ruleHcl) = some (rules.flatMap ruleTokens) := by
  have h : LexesTo (rules.flatMap ruleHcl) (rules.flatMap ruleTokens) :=
    LexesTo.flatMap fun rule _ => lexesTo_rule rule
  simpa [lex, lexFrom] using h [] []

/-- The loop stops early exactly when the whole document is too long. -/
theorem buildFrom_eq (document : Str) (rules : List AclRule) (h : byteLen document ≤ maxPolicyBytes) :
    buildFrom document rules =
      if byteLen (document ++ rules.flatMap ruleHcl) ≤ maxPolicyBytes then
        .ok (document ++ rules.flatMap ruleHcl)
      else .error (.invalidParameter "ACL policy document exceeds maximum allowed length") := by
  induction rules generalizing document with
  | nil => simp [buildFrom, h]
  | cons rule rules ih =>
    rw [buildFrom, List.flatMap_cons, ← List.append_assoc]
    split
    · next hlong =>
      rw [if_neg]
      rw [byteLen_append]
      omega
    · next hshort => exact ih _ (by omega)

end OpenBao.PolicyRendering
