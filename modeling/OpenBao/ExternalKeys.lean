import OpenBao.ClientErrors
import OpenBao.JsonTrees
import OpenBao.KeyOrderedMaps
import Mathlib.Data.Char
import Mathlib.Data.List.Lex

/-!
# Provider options of external keys

Options are kept as the bytes they came in and read three times: `validate` walks the
whole text, the serializer takes the members apart again without decoding them, and a
response is cut out of its envelope before it is validated.
-/

namespace OpenBao.ExternalKeys
open Utf8Text JsonTrees KeyOrderedMaps

def maxBytes : ℕ := 256 * 1024
def maxDepth : ℕ := 8
def maxNodes : ℕ := 2048
def maxMembers : ℕ := 64
def maxString : ℕ := 64 * 1024
def maxNameBytes : ℕ := 256

def pluginName : Str := "plugin".toList

def reservedNames : List Str :=
  [pluginName, "verify".toList, "config".toList, "key".toList, "mount".toList]

def nameByte (b : UInt8) : Bool := isAsciiAlphanumeric b || b == 0x5f || b == 0x2d

/-- The names a root object may have. -/
def rootName (request : Bool) (text : Str) : Bool :=
  !(text = [] || maxNameBytes < byteLen text || !(asBytes text).all nameByte ||
    (request && reservedNames.contains text))

/-- The part of `visit_map` between a name and its value. The source counts the names
other than `plugin` in a variable; here they are counted among the names seen. -/
def admitKey (request : Bool) (depth : ℕ) (seen : List Str) (text : Str) : Except String Unit :=
  if maxString < byteLen text then .error "external-key string limit exceeded"
  else if depth = 0 ∧ !request ∧ text ≠ pluginName ∧ maxMembers < seen.countP (· ≠ pluginName) + 1 then
    .error "external-key response exceeds provider-option limit"
  else if depth = 0 ∧ !rootName request text then
    .error "invalid or reserved external-key option name"
  else if text ∈ seen then .error "duplicate external-key option"
  else .ok ()

/-- The limits of `Check`. -/
def check (request : Bool) : Limits where
  nesting := maxDepth
  items := none
  members := fun depth => maxMembers + if depth = 0 ∧ !request then 1 else 0
  stringBytes := maxString
  admitKey := admitKey request
  nodeText := "external-key node limit exceeded"
  nestingText := "external-key depth limit exceeded"
  stringText := "external-key string limit exceeded"
  arrayText := "external-key node limit exceeded"
  objectText := "external-key object limit exceeded"

def invalid (message : String) : Error := .invalidParameter message

section

variable {N : Type} (reader : Reader N)

def validate (contents : Bytes) (request : Bool) : Except Error Unit :=
  if maxBytes < contents.length then .error (invalid "external-key options exceed byte limit")
  else
    let refused := invalid "external-key options must be a bounded, duplicate-free JSON object"
    match reader.parse contents with
    | some (.object s members) =>
      match (check request).walk 0 maxNodes (.object s members) with
      | .ok _ => .ok ()
      | .error _ => .error refused
    | _ => .error refused

/-- Options carry the validation of their bytes. -/
structure ExternalKeyOptions where
  contents : Bytes
  valid : validate reader contents true = .ok ()

/-- `ExternalKeyOptions::from_json`. -/
def fromJson (contents : Bytes) : Except Error (ExternalKeyOptions reader) :=
  match h : validate reader contents true with
  | .ok () => .ok ⟨contents, h⟩
  | .error e => .error e

/-- The entries that options add to a serialized map, each with the text of its value. -/
def ExternalKeyOptions.entries (options : ExternalKeyOptions reader) :
    Except String (List (Str × Bytes)) :=
  match (reader.skim options.contents).bind Outline.rawMembers with
  | some fields => .ok (insertAll [] fields)
  | none => .error "invalid external-key options"

structure ExternalKeyParameters where
  contents : Bytes
  deriving DecidableEq, Repr

/-- `ExternalKeyParameters::from_envelope`. -/
def fromEnvelope (body : Bytes) : Except Error ExternalKeyParameters :=
  match (reader.skim body).bind (Outline.rawField "data".toList) with
  | none => .error (.decode "invalid external-key response envelope")
  | some raw =>
    if maxBytes < raw.length then .error (.decode "external-key parameters exceed byte limit")
    else
      match validate reader raw false with
      | .error _ => .error (.decode "invalid external-key provider parameters")
      | .ok () => .ok ⟨raw⟩

/-- The bounds on an object of options. The root of a response has room for a `plugin`
besides its members. -/
structure WithinLimits (request : Bool) (document : Json Span N) : Prop where
  object : ∃ s members, document = .object s members
  nesting : ∀ p ∈ document.valuesAt 0, p.2.IsContainer → p.1 + 1 ≤ maxDepth
  values : (document.valuesAt 0).length ≤ maxNodes
  members : ∀ p ∈ document.valuesAt 0, p.1 ≠ 0 ∨ request = true → p.2.keys.length ≤ maxMembers
  options : request = false → document.keys.countP (· ≠ pluginName) ≤ maxMembers
  texts : ∀ p ∈ document.valuesAt 0, ∀ text ∈ p.2.texts, byteLen text ≤ maxString
  keys : ∀ p ∈ document.valuesAt 0, p.2.keys.Nodup
  names : ∀ text ∈ document.keys, rootName request text = true

/-- The names of an object that its bound counts. -/
def countedNames (request : Bool) (depth : ℕ) (text : Str) : Bool :=
  depth = 0 && !request && text ≠ pluginName

theorem admitKey_eq_ok_iff {request : Bool} {depth : ℕ} {seen : List Str} {text : Str} :
    admitKey request depth seen text = .ok () ↔
      (byteLen text ≤ maxString ∧ (depth = 0 → rootName request text = true)) ∧
      (countedNames request depth text = true →
        seen.countP (countedNames request depth) < maxMembers) ∧ text ∉ seen := by
  have hcounted : depth = 0 ∧ request = false →
      countedNames request depth = fun text => decide (text ≠ pluginName) := by
    rintro ⟨rfl, rfl⟩
    funext text
    simp [countedNames]
  rw [admitKey]
  split_ifs <;> simp <;> grind [countedNames]

theorem keysAdmitted_iff {request : Bool} {depth : ℕ} {keys : List Str} :
    (check request).KeysAdmitted depth [] keys ↔
      (∀ text ∈ keys, byteLen text ≤ maxString ∧ (depth = 0 → rootName request text = true)) ∧
      keys.countP (countedNames request depth) ≤ maxMembers ∧ keys.Nodup := by
  rw [(check request).keysAdmitted_iff (fun seen key => admitKey_eq_ok_iff) (Nat.zero_le _)]
  simp

/-- The bound on the members of an object follows from the count of its names, where
names are counted at all. -/
theorem members_bound_iff {request : Bool} {depth : ℕ} {keys : List Str} (h : keys.Nodup) :
    (keys.length ≤ (check request).members depth ∧
      keys.countP (countedNames request depth) ≤ maxMembers) ↔
    (depth ≠ 0 ∨ request = true → keys.length ≤ maxMembers) ∧
      (depth = 0 → request = false → keys.countP (· ≠ pluginName) ≤ maxMembers) := by
  by_cases hroot : depth = 0 ∧ request = false
  · obtain ⟨rfl, rfl⟩ := hroot
    have hcounted : countedNames false 0 = fun text => decide (text ≠ pluginName) := by
      funext text
      simp [countedNames]
    have hsplit := List.length_eq_countP_add_countP (l := keys) fun text => decide (text ≠ pluginName)
    have hplugin : keys.countP (fun text => decide ¬decide (text ≠ pluginName) = true) =
        keys.count pluginName := by
      rw [List.count]
      exact List.countP_congr (by simp)
    have hone : keys.count pluginName ≤ 1 := List.nodup_iff_count_le_one.mp h pluginName
    rw [hplugin] at hsplit
    simp only [check, hcounted]
    grind
  · have hcounted : countedNames request depth = fun _ => false := by
      funext text
      simp [countedNames]
      grind
    simp [check, hcounted]
    grind

theorem admitted_iff {request : Bool} {depth : ℕ} {j : Json Span N} :
    (check request).Admitted depth j ↔ (j.IsContainer → depth + 1 ≤ maxDepth) ∧
      (depth ≠ 0 ∨ request = true → j.keys.length ≤ maxMembers) ∧
      (depth = 0 → request = false → j.keys.countP (· ≠ pluginName) ≤ maxMembers) ∧
      (∀ text ∈ j.texts, byteLen text ≤ maxString) ∧ j.keys.Nodup ∧
      (depth = 0 → ∀ text ∈ j.keys, rootName request text = true) := by
  cases j with
  | null | bool | number => simp [Limits.Admitted, Json.IsContainer, Json.keys, Json.texts]
  | string s text => simp [Limits.Admitted, Json.IsContainer, Json.keys, Json.texts, check]
  | array s items =>
    rw [Limits.Admitted, show (check request).nesting = maxDepth from rfl, ← Nat.succ_le_iff]
    simp [Json.IsContainer, Json.keys, Json.texts, check]
  | object s members =>
    have hbound := @members_bound_iff request depth (members.map Prod.fst)
    rw [List.length_map] at hbound
    simp only [Limits.Admitted, keysAdmitted_iff, Json.IsContainer, Json.keys, Json.texts,
      List.length_map, true_implies, Nat.succ_le_iff]
    rw [show (check request).nesting = maxDepth from rfl]
    grind

theorem walk_check_iff {request : Bool} {document : Json Span N} :
    ((∃ s members, document = .object s members) ∧
      ∃ rest, (check request).walk 0 maxNodes document = .ok rest) ↔
      WithinLimits request document := by
  have hself := document.self_mem_valuesAt 0
  simp only [(check request).walk_eq_ok_iff document 0 maxNodes, admitted_iff]
  constructor
  · rintro ⟨hobject, rest, h, hlength⟩
    exact {
      object := hobject
      nesting := fun p hp => (h p hp).1
      values := by omega
      members := fun p hp => (h p hp).2.1
      options := (h _ hself).2.2.1 rfl
      texts := fun p hp => (h p hp).2.2.2.1
      keys := fun p hp => (h p hp).2.2.2.2.1
      names := (h _ hself).2.2.2.2.2 rfl }
  · intro h
    refine ⟨h.object, maxNodes - (document.valuesAt 0).length, ?_, Nat.add_sub_of_le h.values⟩
    rintro ⟨depth, x⟩ hp
    have hroot : depth = 0 → x = document := by
      rintro rfl
      exact Json.eq_of_mem_valuesAt hp
    refine ⟨h.nesting _ hp, h.members _ hp, ?_, h.texts _ hp, h.keys _ hp, ?_⟩
    · intro hd
      rw [hroot hd]
      exact h.options
    · intro hd
      rw [hroot hd]
      exact h.names

variable {reader}

theorem validate_eq_ok_iff {contents : Bytes} {request : Bool} :
    validate reader contents request = .ok () ↔ contents.length ≤ maxBytes ∧
      ∃ document, reader.parse contents = some document ∧ WithinLimits request document := by
  rw [validate]
  by_cases hlength : maxBytes < contents.length
  · have hle : ¬ contents.length ≤ maxBytes := by omega
    simp [hlength, hle]
  · have hle : contents.length ≤ maxBytes := by omega
    simp only [hlength, if_false, hle, true_and]
    cases hparse : reader.parse contents with
    | none => simp
    | some document =>
      simp only [Option.some.injEq, exists_eq_left', ← walk_check_iff]
      cases document with
      | object s members =>
        cases hwalk : (check request).walk 0 maxNodes (.object s members) <;> simp [hwalk]
      | null | bool | number | string | array => simp

theorem fromJson_isOk_iff {contents : Bytes} :
    (∃ options, fromJson reader contents = .ok options) ↔ contents.length ≤ maxBytes ∧
      ∃ document, reader.parse contents = some document ∧ WithinLimits true document := by
  rw [← validate_eq_ok_iff, fromJson]
  split
  · next h => simp [h]
  · next e h => simp [h]

/-- The options of an object are its members with the text of their values. -/
def rawOptions (contents : Bytes) (document : Json Span N) : List (Str × Bytes) :=
  match document with
  | .object _ members => members.map fun m => (m.1, m.2.span.slice contents)
  | _ => []

theorem keys_rawOptions (contents : Bytes) (document : Json Span N) :
    (rawOptions contents document).map Prod.fst = document.keys := by
  cases document with
  | object s members => rw [rawOptions, List.map_map]; rfl
  | null | bool | number | string | array => rfl

theorem rawMembers_outline {contents : Bytes} {s : Span} {members : List (Str × Json Span N)} :
    (Json.outline contents (.object s members)).rawMembers =
      some (rawOptions contents (.object s members)) := by
  rw [Json.outline, Outline.rawMembers, rawOptions]
  induction members with
  | nil => rfl
  | cons m ms ih =>
    rw [List.map_cons, List.mapM_cons, ih]
    rfl

/-- Options can be taken apart again, into exactly their members. -/
theorem entries_eq (options : ExternalKeyOptions reader) : ∃ document,
    reader.parse options.contents = some document ∧ WithinLimits true document ∧
      options.entries = .ok (sortByKey (rawOptions options.contents document)) := by
  obtain ⟨-, document, hparse, hlimits⟩ := validate_eq_ok_iff.mp options.valid
  obtain ⟨s, members, rfl⟩ := hlimits.object
  refine ⟨_, hparse, hlimits, ?_⟩
  have hkeys : ((rawOptions options.contents (.object s members)).map Prod.fst).Nodup := by
    rw [keys_rawOptions]
    exact hlimits.keys _ (Json.self_mem_valuesAt 0 _)
  rw [ExternalKeyOptions.entries, reader.skim_of_parse hparse, Option.bind_some,
    rawMembers_outline]
  exact congrArg Except.ok (insertAll_eq_sortByKey hkeys)

theorem fromEnvelope_eq_ok_iff {body : Bytes} {parameters : ExternalKeyParameters} :
    fromEnvelope reader body = .ok parameters ↔
      (reader.skim body).bind (Outline.rawField "data".toList) = some parameters.contents ∧
      validate reader parameters.contents false = .ok () := by
  rw [fromEnvelope]
  cases hraw : (reader.skim body).bind (Outline.rawField "data".toList) with
  | none => simp
  | some raw =>
    obtain ⟨contents⟩ := parameters
    by_cases hlength : maxBytes < raw.length
    · simp only [hlength, if_true, reduceCtorEq, Option.some.injEq, false_iff, not_and]
      rintro rfl hvalid
      have := (validate_eq_ok_iff.mp hvalid).1
      omega
    · simp only [hlength, if_false]
      cases hvalid : validate reader raw false with
      | error e =>
        simp only [reduceCtorEq, Option.some.injEq, false_iff, not_and]
        rintro rfl h
        rw [hvalid] at h
        cases h
      | ok u =>
        simp only [Except.ok.injEq, ExternalKeyParameters.mk.injEq, Option.some.injEq]
        exact ⟨fun h => ⟨h, h ▸ hvalid⟩, fun h => h.1⟩

end

end OpenBao.ExternalKeys
