import OpenBao.ExternalKeys
import OpenBao.PathValidation

/-!
# Requests with provider options

The typed fields of a request and the options of its provider are flattened into one
object. A serialized object is the list of its entries, in the order they are written.
Requests for the two built-in providers serialize fixed fields and are left out.
-/

namespace OpenBao.ExternalKeys
open Utf8Text JsonTrees KeyOrderedMaps PathValidation

def wordByte (b : UInt8) : Bool := isAsciiAlphanumeric b || b == 0x5f

def validateName (value : Str) : Except Error Unit := do
  let segments ← validateMountPath value
  let bytes := asBytes value
  if maxNameBytes < bytes.length ∨ segments.length ≠ 1 ∨ !bytes.head?.any wordByte ∨
      !bytes.getLast?.any wordByte ∨ !bytes.all (fun b => wordByte b || b == 0x2d || b == 0x2e) then
    .error (invalid "external-key name must match the bounded OpenBao generic-name grammar")
  else .ok ()

/-- A serialized value. `raw` is written as it stands. -/
inductive FieldValue where
  | text (value : Str)
  | flag (value : Bool)
  | raw (json : Bytes)
  deriving DecidableEq, Repr

abbrev Entries := List (Str × FieldValue)

def verifyName : Str := "verify".toList

/-- An entry that is skipped where there is no plugin. -/
def pluginEntry (plugin : Option Str) : Entries :=
  (plugin.map fun name => (pluginName, .text name)).toList

section

variable {N : Type} {reader : Reader N}

/-- The flattening serializer: the typed entries, then those of the options. -/
def flatten (typed : Entries) (options : ExternalKeyOptions reader) : Except String Entries := do
  let entries ← options.entries
  return typed ++ entries.map fun e => (e.1, .raw e.2)

variable (reader) in
structure ExternalKeyConfigRequest where
  plugin : Str
  verify : Bool
  provider : ExternalKeyOptions reader

namespace ExternalKeyConfigRequest

def custom (plugin : Str) (options : ExternalKeyOptions reader) :
    Except Error (ExternalKeyConfigRequest reader) := do
  validateName plugin
  return ⟨plugin, true, options⟩

def withoutVerification (request : ExternalKeyConfigRequest reader) :
    ExternalKeyConfigRequest reader :=
  { request with verify := false }

def serialize (request : ExternalKeyConfigRequest reader) : Except String Entries :=
  flatten [(pluginName, .text request.plugin), (verifyName, .flag request.verify)] request.provider

end ExternalKeyConfigRequest

variable (reader) in
structure ExternalKeyKeyRequest where
  verify : Bool
  provider : ExternalKeyOptions reader

namespace ExternalKeyKeyRequest

def custom (options : ExternalKeyOptions reader) : ExternalKeyKeyRequest reader := ⟨true, options⟩

def withoutVerification (request : ExternalKeyKeyRequest reader) : ExternalKeyKeyRequest reader :=
  { request with verify := false }

def serialize (request : ExternalKeyKeyRequest reader) : Except String Entries :=
  flatten [(verifyName, .flag request.verify)] request.provider

end ExternalKeyKeyRequest

variable (reader) in
structure ExternalKeyConfigPatch where
  plugin : Option Str
  verify : Bool
  options : ExternalKeyOptions reader

/-- The calls that change a patch of a configuration. -/
inductive PatchCall where
  | withPlugin (plugin : Str)
  | withoutVerification
  deriving DecidableEq, Repr

namespace ExternalKeyConfigPatch

def new (options : ExternalKeyOptions reader) : ExternalKeyConfigPatch reader :=
  ⟨none, true, options⟩

def withPlugin (patch : ExternalKeyConfigPatch reader) (plugin : Str) :
    Except Error (ExternalKeyConfigPatch reader) := do
  validateName plugin
  return { patch with plugin := some plugin }

def withoutVerification (patch : ExternalKeyConfigPatch reader) : ExternalKeyConfigPatch reader :=
  { patch with verify := false }

def serialize (patch : ExternalKeyConfigPatch reader) : Except String Entries :=
  flatten (pluginEntry patch.plugin ++ [(verifyName, .flag patch.verify)]) patch.options

def call (patch : ExternalKeyConfigPatch reader) : PatchCall →
    Except Error (ExternalKeyConfigPatch reader)
  | .withPlugin plugin => patch.withPlugin plugin
  | .withoutVerification => .ok patch.withoutVerification

/-- A chain of calls on a patch. -/
def build (patch : ExternalKeyConfigPatch reader) (calls : List PatchCall) :
    Except Error (ExternalKeyConfigPatch reader) :=
  calls.foldlM call patch

end ExternalKeyConfigPatch

variable (reader) in
structure ExternalKeyKeyPatch where
  verify : Bool
  options : ExternalKeyOptions reader

namespace ExternalKeyKeyPatch

def new (options : ExternalKeyOptions reader) : ExternalKeyKeyPatch reader := ⟨true, options⟩

def withoutVerification (patch : ExternalKeyKeyPatch reader) : ExternalKeyKeyPatch reader :=
  { patch with verify := false }

def serialize (patch : ExternalKeyKeyPatch reader) : Except String Entries :=
  flatten [(verifyName, .flag patch.verify)] patch.options

end ExternalKeyKeyPatch

/-- A serialized request says what it was built from: its typed entries and one entry for
each option, with the text of the option's value and no name used twice. -/
def SaysExactly (options : ExternalKeyOptions reader) (plugin : Option Str) (verify : Bool)
    (serialized : Except String Entries) : Prop :=
  ∃ document entries, reader.parse options.contents = some document ∧ serialized = .ok entries ∧
    (entries.map Prod.fst).Nodup ∧
    entries.Perm (pluginEntry plugin ++ (verifyName, .flag verify) ::
      (rawOptions options.contents document).map fun e => (e.1, .raw e.2))

theorem not_reserved {document : Json Span N} (h : WithinLimits true document) {name : Str}
    (hname : name ∈ reservedNames) : name ∉ document.keys := by
  intro hmem
  have hroot := h.names name hmem
  simp only [rootName, Bool.true_and, Bool.not_eq_true', Bool.or_eq_false_iff] at hroot
  simp [hname] at hroot

theorem pluginName_ne_verifyName : pluginName ≠ verifyName := by decide +kernel

theorem flatten_saysExactly (options : ExternalKeyOptions reader) (plugin : Option Str)
    (verify : Bool) :
    SaysExactly options plugin verify
      (flatten (pluginEntry plugin ++ [(verifyName, .flag verify)]) options) := by
  obtain ⟨document, hparse, hlimits, hentries⟩ := entries_eq options
  have hperm := sortByKey_perm (rawOptions options.contents document)
  have hflat : ((pluginEntry plugin ++ [(verifyName, FieldValue.flag verify)]) ++
      (sortByKey (rawOptions options.contents document)).map fun e => (e.1, FieldValue.raw e.2)).Perm
      (pluginEntry plugin ++ (verifyName, .flag verify) ::
        (rawOptions options.contents document).map fun e => (e.1, .raw e.2)) := by
    rw [List.append_assoc]
    exact ((hperm.map _).cons _).append_left _
  refine ⟨document, _, hparse, by rw [flatten, hentries]; rfl, ?_, hflat⟩
  have hkeys : ((rawOptions options.contents document).map fun e => (e.1, FieldValue.raw e.2)).map
      Prod.fst = document.keys := by
    rw [List.map_map, ← keys_rawOptions options.contents document]
    rfl
  have hplugin : pluginName ∉ document.keys := not_reserved hlimits (.head _)
  have hverify : verifyName ∉ document.keys :=
    not_reserved hlimits (.tail _ (.head _))
  have hnodup : document.keys.Nodup := hlimits.keys _ (document.self_mem_valuesAt 0)
  rw [(hflat.map Prod.fst).nodup_iff, List.map_append, List.map_cons, hkeys]
  cases plugin with
  | none => exact List.nodup_cons.mpr ⟨hverify, hnodup⟩
  | some name =>
    have hfirst : pluginName ∉ verifyName :: document.keys := by
      rw [List.mem_cons, not_or]
      exact ⟨pluginName_ne_verifyName, hplugin⟩
    exact List.nodup_cons.mpr ⟨hfirst, List.nodup_cons.mpr ⟨hverify, hnodup⟩⟩

theorem ExternalKeyConfigRequest.custom_eq_ok_iff {plugin : Str}
    {options : ExternalKeyOptions reader} {request : ExternalKeyConfigRequest reader} :
    custom plugin options = .ok request ↔
      validateName plugin = .ok () ∧ request = ⟨plugin, true, options⟩ := by
  rw [custom, OpenBao.bind_eq_ok_iff]
  constructor
  · rintro ⟨_, hname, h⟩
    exact ⟨hname, (Except.ok.inj h).symm⟩
  · rintro ⟨hname, rfl⟩
    exact ⟨(), hname, rfl⟩

/-- Each of these builders keeps all but `verify`, and sets that to `false`. -/
theorem iterate_eq_of_step {α : Type} {f : α → α} {make : Bool → α} (h : ∀ b, f (make b) = make false)
    (n : ℕ) : f^[n] (make true) = make (decide (n = 0)) := by
  induction n with
  | zero => rfl
  | succ n ih => rw [Function.iterate_succ_apply', ih, h]; simp

def PatchCall.plugin? : PatchCall → Option Str
  | .withPlugin plugin => some plugin
  | .withoutVerification => none

/-- What a chain of calls leaves of a patch. -/
theorem ExternalKeyConfigPatch.build_eq_ok {calls : List PatchCall}
    {patch patch' : ExternalKeyConfigPatch reader} (h : patch.build calls = .ok patch') :
    patch'.options = patch.options ∧
      patch'.verify = (patch.verify && !calls.contains .withoutVerification) ∧
      patch'.plugin = (calls.filterMap PatchCall.plugin?).getLast?.or patch.plugin ∧
      ∀ plugin ∈ calls.filterMap PatchCall.plugin?, validateName plugin = .ok () := by
  induction calls generalizing patch with
  | nil =>
    obtain rfl : patch = patch' := by simpa [build, pure, Except.pure] using h
    simp
  | cons c calls ih =>
    rw [build, List.foldlM_cons, OpenBao.bind_eq_ok_iff] at h
    obtain ⟨next, hnext, h⟩ := h
    obtain ⟨hoptions, hverify, hplugin, hnames⟩ := ih h
    cases c with
    | withoutVerification =>
      obtain rfl : patch.withoutVerification = next := Except.ok.inj hnext
      refine ⟨hoptions, ?_, hplugin, hnames⟩
      simp [hverify, withoutVerification]
    | withPlugin plugin =>
      rw [call, withPlugin, OpenBao.bind_eq_ok_iff] at hnext
      obtain ⟨_, hname, hnext⟩ := hnext
      obtain rfl : { patch with plugin := some plugin } = next := Except.ok.inj hnext
      refine ⟨hoptions, ?_, ?_, ?_⟩
      · simpa using hverify
      · simp only [List.filterMap_cons, PatchCall.plugin?, List.getLast?_cons, hplugin]
        cases (calls.filterMap PatchCall.plugin?).getLast? <;> rfl
      · exact @List.forall_mem_cons _ (fun name => validateName name = .ok ()) plugin
          (calls.filterMap PatchCall.plugin?) |>.mpr ⟨hname, hnames⟩

end

/-! Options with one member. -/

def pinContents : Bytes := asBytes "\x7b\"pin\":\"12\"\x7d".toList

def pinReader : Reader ℕ :=
  .ofText pinContents (.object ⟨0, 12⟩ [("pin".toList, .string ⟨7, 11⟩ "12".toList)])

def pinOptions : ExternalKeyOptions pinReader := ⟨pinContents, by decide +kernel⟩

example : (pinReader.skim pinContents).bind Outline.rawMembers =
    some [("pin".toList, asBytes "\"12\"".toList)] := by decide +kernel

end OpenBao.ExternalKeys
