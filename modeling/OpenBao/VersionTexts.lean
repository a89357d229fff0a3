import OpenBao.CompatibilityPolicy
import OpenBao.DecimalNumerals

/-!
# The text of versions and requirements

A version has one spelling, and so has a requirement: what is parsed is what `Display`
writes, byte for byte.
-/

namespace OpenBao
open Utf8Text

/-- The components are `u32`. -/
structure OpenBaoVersion.IsU32 (version : OpenBaoVersion) : Prop where
  major : version.major ≤ CompatibilityPolicy.u32Max
  minor : version.minor ≤ CompatibilityPolicy.u32Max
  patch : version.patch ≤ CompatibilityPolicy.u32Max

/-- `Display` of a version. -/
def OpenBaoVersion.display (version : OpenBaoVersion) : Str :=
  Nat.toDigits 10 version.major ++
    '.' :: (Nat.toDigits 10 version.minor ++ '.' :: Nat.toDigits 10 version.patch)

namespace OpenBaoVersionRequirement

structure IsU32 (requirement : OpenBaoVersionRequirement) : Prop where
  minimum : requirement.minimum.IsU32
  maximum : requirement.maximum.IsU32

/-- `Display` of a requirement. -/
def display : OpenBaoVersionRequirement → Str
  | exact version => version.display
  | inclusive minimum maximum => minimum.display ++ ("..=".toList ++ maximum.display)

end OpenBaoVersionRequirement

namespace VersionTexts
open CompatibilityPolicy DecimalNumerals DelimitedLists

def maxRequirementBytes : ℕ := maxVersionBytes * 2 + 3

/-- `OpenBaoVersionRequirement::inclusive`. -/
def inclusive (minimum maximum : OpenBaoVersion) : Except Error OpenBaoVersionRequirement :=
  if minimum > maximum then
    .error (.invalidOpenBaoVersionRequirement "minimum version must not exceed maximum version")
  else .ok (.inclusive minimum maximum)

def parseRequirementVersion (input : Str) : Except Error OpenBaoVersion :=
  (parseVersion input).mapError fun _ => .invalidOpenBaoVersionRequirement
    "requirement contains an invalid stable OpenBao version"

/-- `OpenBaoVersionRequirement::from_str`. -/
def parseRequirement (input : Str) : Except Error OpenBaoVersionRequirement :=
  if input = [] then .error (.invalidOpenBaoVersionRequirement "requirement must not be empty")
  else if maxRequirementBytes < byteLen input then
    .error (.invalidOpenBaoVersionRequirement "requirement exceeds the input limit")
  else match splitOnceAt "..=".toList input with
    | some (minimum, maximum) =>
      if minimum = [] ∨ maximum = [] ∨ (splitOnceAt "..=".toList maximum).isSome then
        .error (.invalidOpenBaoVersionRequirement
          "requirement must be an exact version or one inclusive range")
      else do inclusive (← parseRequirementVersion minimum) (← parseRequirementVersion maximum)
    | none => do return .exact (← parseRequirementVersion input)

variable {component input : Str} {version : OpenBaoVersion}
  {requirement : OpenBaoVersionRequirement} {n : ℕ}

/-! ## Versions -/

theorem decimalValue_asBytes (h : ∀ c ∈ component, c.isDigit = true) :
    decimalValue (asBytes component) = Nat.ofDigitChars 10 component 0 := by
  rw [asBytes_eq_map (isAscii_of_isDigit h), decimalValue]
  generalize 0 = init
  induction component generalizing init with
  | nil => rfl
  | cons c component ih =>
    obtain ⟨hc, hcomponent⟩ := List.forall_mem_cons.mp h
    rw [List.map_cons, List.foldl_cons, ih hcomponent, toNat_asciiByte_sub hc,
      Nat.ofDigitChars_cons]

/-- A component is accepted when it is how its number is written. -/
theorem parseComponent_eq_ok_iff :
    parseComponent component = .ok n ↔ n ≤ u32Max ∧ component = Nat.toDigits 10 n := by
  unfold parseComponent
  constructor
  · intro h
    split_ifs at h with hempty hzero hdigit hlarge
    obtain rfl := Except.ok.inj h
    rw [Bool.not_eq_true, Bool.not_eq_false'] at hdigit
    have hdigits := all_isAsciiDigit_iff.mp hdigit
    have hlength := byteLen_eq_length (isAscii_of_isDigit hdigits)
    have hcanonical : Canonical component := by
      refine ⟨hempty, hdigits, fun hhead => ?_⟩
      obtain ⟨rest, rfl⟩ := List.head?_eq_some_iff.mp hhead
      have hshort : ¬ 1 < byteLen ('0' :: rest) := fun hlong => hzero ⟨hlong, hhead⟩
      rw [hlength, List.length_cons] at hshort
      rw [List.length_eq_zero_iff.mp (by omega : rest.length = 0)]
    refine ⟨by omega, ?_⟩
    rw [decimalValue_asBytes hdigits, hcanonical.toDigits_ofDigitChars]
  · rintro ⟨hn, rfl⟩
    have hcanonical := canonical_toDigits n
    have hzero : ¬ (1 < byteLen (Nat.toDigits 10 n) ∧ (Nat.toDigits 10 n).head? = some '0') := by
      rintro ⟨hlong, hhead⟩
      rw [hcanonical.leading hhead] at hlong
      exact absurd hlong (by decide)
    have hdigit := all_isAsciiDigit_iff.mpr hcanonical.digit
    have hvalue := decimalValue_asBytes hcanonical.digit
    rw [Nat.ofDigitChars_ten_toDigits] at hvalue
    rw [if_neg hcanonical.nonempty, if_neg hzero, hdigit, if_neg (by simp), hvalue,
      if_neg (by omega)]

theorem mem_display {c : Char} (h : c ∈ version.display) : c.isDigit = true ∨ c = '.' := by
  simp only [OpenBaoVersion.display, List.mem_append, List.mem_cons] at h
  rcases h with h | h | h | h | h
  · exact .inl (isDigit_of_mem_toDigits h)
  · exact .inr h
  · exact .inl (isDigit_of_mem_toDigits h)
  · exact .inr h
  · exact .inl (isDigit_of_mem_toDigits h)

theorem isAscii_display (version : OpenBaoVersion) : isAscii version.display = true := by
  rw [isAscii_iff]
  intro c hc
  rcases mem_display hc with hdigit | rfl
  · have hrange := toNat_of_isDigit hdigit
    omega
  · decide

theorem equals_notMem_display (version : OpenBaoVersion) : '=' ∉ version.display := by
  intro h
  rcases mem_display h with hdigit | hdot
  · cases hdigit
  · cases hdot

theorem display_ne_nil (version : OpenBaoVersion) : version.display ≠ [] := by
  rw [OpenBaoVersion.display]
  exact List.append_ne_nil_of_left_ne_nil Nat.toDigits_ne_nil _

theorem splitOn_display (version : OpenBaoVersion) :
    version.display.splitOn '.' = [Nat.toDigits 10 version.major, Nat.toDigits 10 version.minor,
      Nat.toDigits 10 version.patch] := by
  have hdot : ∀ n, '.' ∉ Nat.toDigits 10 n := by
    intro n hmem
    cases isDigit_of_mem_toDigits hmem
  rw [OpenBaoVersion.display, List.splitOn_append_cons_self_of_not_mem (hdot _),
    List.splitOn_append_cons_self_of_not_mem (hdot _), List.splitOn_eq_singleton (hdot _)]

/-- Three components of ten digits at most, and two dots. -/
theorem byteLen_display_le (h : version.IsU32) : byteLen version.display ≤ 32 := by
  have hcomponent : ∀ n ≤ u32Max, (Nat.toDigits 10 n).length ≤ 10 := by
    intro n hn
    apply length_toDigits_le (by decide)
    have hmax : u32Max < 10 ^ 10 := by decide
    omega
  have hmajor := hcomponent _ h.major
  have hminor := hcomponent _ h.minor
  have hpatch := hcomponent _ h.patch
  rw [byteLen_eq_length (isAscii_display version), OpenBaoVersion.display]
  simp only [List.length_append, List.length_cons]
  omega

/-- A text parses as a version exactly when it is what is displayed. -/
theorem parseVersion_eq_ok_iff :
    parseVersion input = .ok version ↔ version.IsU32 ∧ input = version.display := by
  unfold parseVersion
  constructor
  · intro h
    split_ifs at h
    split at h
    · next major minor patch hsplit =>
      obtain ⟨ma, hmajor, h⟩ := bind_eq_ok_iff.mp h
      obtain ⟨mi, hminor, h⟩ := bind_eq_ok_iff.mp h
      obtain ⟨pa, hpatch, h⟩ := bind_eq_ok_iff.mp h
      obtain rfl := Except.ok.inj h
      obtain ⟨hma, rfl⟩ := parseComponent_eq_ok_iff.mp hmajor
      obtain ⟨hmi, rfl⟩ := parseComponent_eq_ok_iff.mp hminor
      obtain ⟨hpa, rfl⟩ := parseComponent_eq_ok_iff.mp hpatch
      refine ⟨⟨hma, hmi, hpa⟩, ?_⟩
      have hinput : ['.'].intercalate (input.splitOn '.') = input := List.intercalate_splitOn '.'
      rw [← hinput, hsplit]
      simp [OpenBaoVersion.display]
    · cases h
  · rintro ⟨hu32, rfl⟩
    have hlength := byteLen_display_le hu32
    have hlimit : ¬ maxVersionBytes < byteLen version.display := by
      have : maxVersionBytes = 64 := rfl
      omega
    rw [if_neg (display_ne_nil version), if_neg hlimit, isAscii_display, if_neg (by simp),
      splitOn_display]
    dsimp only
    rw [parseComponent_eq_ok_iff.mpr ⟨hu32.major, rfl⟩, parseComponent_eq_ok_iff.mpr
      ⟨hu32.minor, rfl⟩, parseComponent_eq_ok_iff.mpr ⟨hu32.patch, rfl⟩]
    rfl

/-! ## Requirements -/

theorem parseRequirementVersion_eq_ok_iff :
    parseRequirementVersion input = .ok version ↔ version.IsU32 ∧ input = version.display := by
  rw [← parseVersion_eq_ok_iff, parseRequirementVersion]
  cases parseVersion input <;> simp [Except.mapError]

theorem inclusive_eq_ok_iff {minimum maximum : OpenBaoVersion} :
    inclusive minimum maximum = .ok requirement ↔
      minimum ≤ maximum ∧ requirement = .inclusive minimum maximum := by
  unfold inclusive
  split_ifs with hempty
  · exact iff_of_false (fun h => nomatch h) fun h => absurd h.1 (not_le_of_gt hempty)
  · rw [and_iff_right (le_of_not_gt hempty), Except.ok.injEq]
    exact eq_comm

/-- The range sign has a character that no version has. -/
theorem splitOnceAt_display (version : OpenBaoVersion) :
    splitOnceAt "..=".toList version.display = none := by
  apply splitOnceAt_eq_none _ (equals_notMem_display version)
  decide

theorem splitOnceAt_range (minimum maximum : OpenBaoVersion) :
    splitOnceAt "..=".toList (minimum.display ++ ("..=".toList ++ maximum.display)) =
      some (minimum.display, maximum.display) := by
  have hsign : "..=".toList = ['.', '.'] ++ ['='] := rfl
  rw [hsign]
  exact splitOnceAt_append (by decide) (equals_notMem_display minimum) _

theorem byteLen_display_requirement_le (h : requirement.IsU32) :
    byteLen requirement.display ≤ 67 := by
  cases requirement with
  | exact version =>
    have hversion : byteLen version.display ≤ 32 := byteLen_display_le h.minimum
    exact hversion.trans (by decide)
  | inclusive minimum maximum =>
    have hminimum : byteLen minimum.display ≤ 32 := byteLen_display_le h.minimum
    have hmaximum : byteLen maximum.display ≤ 32 := byteLen_display_le h.maximum
    have hsign : byteLen "..=".toList = 3 := rfl
    rw [OpenBaoVersionRequirement.display, byteLen_append, byteLen_append]
    omega

theorem display_requirement_ne_nil : requirement.display ≠ [] := by
  cases requirement with
  | exact version => exact display_ne_nil version
  | inclusive minimum maximum =>
    exact List.append_ne_nil_of_left_ne_nil (display_ne_nil minimum) _

/-- A text parses as a requirement exactly when it is what is displayed, of a range that is not
empty. -/
theorem parseRequirement_eq_ok_iff :
    parseRequirement input = .ok requirement ↔ requirement.IsU32 ∧
      requirement.minimum ≤ requirement.maximum ∧ input = requirement.display := by
  unfold parseRequirement
  constructor
  · intro h
    split_ifs at h
    split at h
    · next minimum maximum hsplit =>
      split_ifs at h
      obtain ⟨v, hminimum, h⟩ := bind_eq_ok_iff.mp h
      obtain ⟨w, hmaximum, h⟩ := bind_eq_ok_iff.mp h
      obtain ⟨hordered, rfl⟩ := inclusive_eq_ok_iff.mp h
      obtain ⟨hv, rfl⟩ := parseRequirementVersion_eq_ok_iff.mp hminimum
      obtain ⟨hw, rfl⟩ := parseRequirementVersion_eq_ok_iff.mp hmaximum
      exact ⟨⟨hv, hw⟩, hordered, eq_of_splitOnceAt hsplit⟩
    · obtain ⟨v, hversion, h⟩ := bind_eq_ok_iff.mp h
      obtain rfl := Except.ok.inj h
      obtain ⟨hv, rfl⟩ := parseRequirementVersion_eq_ok_iff.mp hversion
      exact ⟨⟨hv, hv⟩, le_refl v, rfl⟩
  · rintro ⟨hu32, hordered, rfl⟩
    have hlength := byteLen_display_requirement_le hu32
    have hlimit : ¬ maxRequirementBytes < byteLen requirement.display := by
      have : maxRequirementBytes = 131 := rfl
      omega
    rw [if_neg display_requirement_ne_nil, if_neg hlimit]
    cases requirement with
    | exact version =>
      have hversion : version.IsU32 := hu32.minimum
      rw [OpenBaoVersionRequirement.display, splitOnceAt_display]
      dsimp only
      rw [parseRequirementVersion_eq_ok_iff.mpr ⟨hversion, rfl⟩]
      rfl
    | inclusive minimum maximum =>
      have hminimum : minimum.IsU32 := hu32.minimum
      have hmaximum : maximum.IsU32 := hu32.maximum
      rw [OpenBaoVersionRequirement.display, splitOnceAt_range]
      dsimp only
      rw [splitOnceAt_display, if_neg (by simp [display_ne_nil]),
        parseRequirementVersion_eq_ok_iff.mpr ⟨hminimum, rfl⟩,
        parseRequirementVersion_eq_ok_iff.mpr ⟨hmaximum, rfl⟩]
      exact inclusive_eq_ok_iff.mpr ⟨hordered, rfl⟩

/-- Every version and every requirement has exactly one accepted spelling, within the limits. -/
theorem text_canonical :
    (∀ version : OpenBaoVersion, version.IsU32 →
      parseVersion version.display = .ok version ∧ byteLen version.display ≤ maxVersionBytes) ∧
    (∀ input version, parseVersion input = .ok version →
      version.IsU32 ∧ version.display = input) ∧
    (∀ requirement : OpenBaoVersionRequirement, requirement.IsU32 →
      requirement.minimum ≤ requirement.maximum →
        parseRequirement requirement.display = .ok requirement ∧
          byteLen requirement.display ≤ maxRequirementBytes) ∧
    ∀ input requirement, parseRequirement input = .ok requirement →
      requirement.IsU32 ∧ requirement.display = input ∧
        requirement.minimum ≤ requirement.maximum := by
  refine ⟨fun version hu32 => ?_, fun input version h => ?_, fun requirement hu32 hordered => ?_,
    fun input requirement h => ?_⟩
  · have hlimit : 32 ≤ maxVersionBytes := by decide
    exact ⟨parseVersion_eq_ok_iff.mpr ⟨hu32, rfl⟩, (byteLen_display_le hu32).trans hlimit⟩
  · obtain ⟨hu32, rfl⟩ := parseVersion_eq_ok_iff.mp h
    exact ⟨hu32, rfl⟩
  · have hlimit : 67 ≤ maxRequirementBytes := by decide
    exact ⟨parseRequirement_eq_ok_iff.mpr ⟨hu32, hordered, rfl⟩,
      (byteLen_display_requirement_le hu32).trans hlimit⟩
  · obtain ⟨hu32, hordered, rfl⟩ := parseRequirement_eq_ok_iff.mp h
    exact ⟨hu32, rfl, hordered⟩

theorem text_canonical_range :
    parseRequirement "2.4.0..=2.5.5".toList = .ok (.inclusive ⟨2, 4, 0⟩ ⟨2, 5, 5⟩) ∧
      byteLen "2.4.0..=2.5.5".toList ≤ maxRequirementBytes :=
  text_canonical.2.2.1 (.inclusive ⟨2, 4, 0⟩ ⟨2, 5, 5⟩)
    ⟨⟨by decide, by decide, by decide⟩, ⟨by decide, by decide, by decide⟩⟩ (by decide)

end VersionTexts
end OpenBao
