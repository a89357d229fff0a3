import OpenBao.RangeTables
import OpenBao.RegisteredRoutes

/-!
# Endpoints with variants

A logical endpoint names one registered operation for each range of server releases. A table of
variants is accepted only if the registry backs it in full, and the profile of the server then
leaves nothing to choose.
-/

namespace OpenBao.EndpointVariants
open CompatibilityPolicy CompatibilityProbe PathValidation RangeTables RegisteredRoutes RouteTemplates
  Utf8Text

structure OpenBaoEndpointVariant where
  operationId : String
  minimum : OpenBaoVersion
  maximum : OpenBaoVersion
  deriving DecidableEq, Repr

structure OpenBaoEndpointSpec where
  id : String
  variants : List OpenBaoEndpointVariant
  deriving DecidableEq, Repr

def OpenBaoEndpointVariant.contains (variant : OpenBaoEndpointVariant) (version : OpenBaoVersion) :
    Bool :=
  version ≥ variant.minimum && version ≤ variant.maximum

def maxEndpointIdBytes : ℕ := 192

def maxEndpointVariants : ℕ := 16

def isEndpointIdChar (c : Char) : Bool :=
  ('a' ≤ c && c ≤ 'z') || ('0' ≤ c && c ≤ '9') || ['.', '_', '-'].contains c

section Resolution

variable (operations : List OpenBaoOperation)

/-- The registry is sorted by identifier, and the source searches it by bisection. -/
def openbaoOperation (id : String) : Option OpenBaoOperation :=
  operations.find? fun operation => operation.id == id

def hasEvidence (operation : OpenBaoOperation) (version : OpenBaoVersion) : Bool :=
  operation.availability version = some .documentedRoute ||
    operation.availability version = some .securityBlocked

/-- The checks on one variant, behind the variants before it. -/
def validateVariant (earlier : List OpenBaoEndpointVariant) (variant : OpenBaoEndpointVariant) :
    Except Error Unit :=
  if variant.minimum > variant.maximum || !isGeneratedProfile variant.minimum ||
      !isGeneratedProfile variant.maximum then
    .error (.internal "OpenBao endpoint variant range is invalid")
  else
    match openbaoOperation operations variant.operationId with
    | none => .error (.internal "OpenBao endpoint references an unknown registry operation")
    | some operation =>
      if !(generatedProfileVersions.filter variant.contains).all (hasEvidence operation) then
        .error (.internal "OpenBao endpoint variant exceeds registry evidence")
      else if earlier.any fun previous =>
          previous.minimum ≤ variant.maximum && variant.minimum ≤ previous.maximum then
        .error (.internal "OpenBao endpoint variants overlap")
      else .ok ()

def validateVariants (earlier : List OpenBaoEndpointVariant) :
    List OpenBaoEndpointVariant → Except Error Unit
  | [] => .ok ()
  | variant :: variants => do
    validateVariant operations earlier variant
    validateVariants (earlier ++ [variant]) variants

def validateEndpointSpec (endpoint : OpenBaoEndpointSpec) : Except Error Unit :=
  if endpoint.id.toList.isEmpty || byteLen endpoint.id.toList > maxEndpointIdBytes ||
      !endpoint.id.toList.all isEndpointIdChar then
    .error (.internal "OpenBao endpoint identifier is invalid")
  else if endpoint.variants.isEmpty || endpoint.variants.length > maxEndpointVariants then
    .error (.internal "OpenBao endpoint variant count is invalid")
  else validateVariants operations [] endpoint.variants

/-- The checks on the operation of the selected variant. -/
def admitVariant (endpoint : OpenBaoEndpointSpec) (version : OpenBaoVersion)
    (operation : OpenBaoOperation) : Except Error ResolvedOpenBaoEndpoint :=
  match operation.availability version with
  | none => .error (.unsupportedOpenBaoVersion version)
  | some .notDocumented | some .securityBlocked =>
    .error (.unsupportedOpenBaoCapability endpoint.id version)
  | some .documentedRoute =>
    if !(operation.disposition = .typed || operation.disposition = .typedGated) then
      .error (.unsupportedOpenBaoCapability endpoint.id version)
    else do
      let method ← reqwestMethod operation.method
      return ⟨endpoint.id, operation, method⟩

def resolveOpenbaoEndpointForProfile (endpoint : OpenBaoEndpointSpec) (version : OpenBaoVersion) :
    Except Error ResolvedOpenBaoEndpoint := do
  validateEndpointSpec operations endpoint
  match endpoint.variants.filter (·.contains version) with
  | [] => .error (.unsupportedOpenBaoCapability endpoint.id version)
  | [variant] =>
    match openbaoOperation operations variant.operationId with
    | none => .error (.internal "OpenBao endpoint references an unknown registry operation")
    | some operation => admitVariant endpoint version operation
  | _ => .error (.internal "OpenBao endpoint variants overlap for the selected profile")

/-- The version that the report routes by. -/
def routedVersion (report : OpenBaoCompatibilityReport) : Except Error OpenBaoVersion :=
  match routingProfile report with
  | none => .error (.internal "OpenBao compatibility report has no routing profile")
  | some version =>
    if !isRoutableProfile version then .error (.unsupportedOpenBaoVersion version) else .ok version

/-- The source asks `ensure_compatibility` for `ensured` behind the checks of path and table. -/
def resolveOpenbaoEndpoint (ensured : Except Error OpenBaoCompatibilityReport)
    (endpoint : OpenBaoEndpointSpec) (path : Str) (query : List (Str × Str)) :
    Except Error ResolvedOpenBaoEndpoint := do
  let pathSegments ← validateEndpointPath path
  validateEndpointSpec operations endpoint
  let report ← ensured
  let version ← routedVersion report
  let resolved ← resolveOpenbaoEndpointForProfile operations endpoint version
  if ← routeTemplateMatches resolved.operation.pathTemplate pathSegments query then return resolved
  else .error (.invalidPath "request path or query does not match the selected OpenBao endpoint")

/-- A segment that stands for others. -/
def isPlaceholder (segment : Str) : Bool :=
  [':'].isPrefixOf segment || segment.contains '{' || segment.contains '(' || segment.contains '*'

/-- The path of a template without placeholders. -/
def literalPath (template : Str) : Except Error Str :=
  match template with
  | '/' :: path => do
    let segments ← validateEndpointPath path
    if segments.any isPlaceholder then
      .error (.internal "literal OpenBao endpoint contains a route placeholder")
    else return path
  | _ => .error (.internal "literal OpenBao endpoint template must be absolute")

def resolveOpenbaoLiteralEndpoint (ensured : Except Error OpenBaoCompatibilityReport)
    (endpoint : OpenBaoEndpointSpec) : Except Error (ResolvedOpenBaoEndpoint × Str) := do
  validateEndpointSpec operations endpoint
  let report ← ensured
  let version ← routedVersion report
  let resolved ← resolveOpenbaoEndpointForProfile operations endpoint version
  let path ← literalPath resolved.operation.pathTemplate
  return (resolved, path)

end Resolution

/-! ### Accepted tables -/

section Tables

/-- The range of a variant. -/
abbrev Selects (variant : OpenBaoEndpointVariant) (version : OpenBaoVersion) : Prop :=
  Covers OpenBaoEndpointVariant.minimum OpenBaoEndpointVariant.maximum variant version

/-- The registry backs the variant for each profile in its range. -/
structure Backed (operations : List OpenBaoOperation) (variant : OpenBaoEndpointVariant) : Prop where
  ordered : variant.minimum ≤ variant.maximum
  minimum : variant.minimum ∈ generatedProfileVersions
  maximum : variant.maximum ∈ generatedProfileVersions
  operation : ∃ operation, openbaoOperation operations variant.operationId = some operation ∧
    ∀ version ∈ generatedProfileVersions, Selects variant version →
      hasEvidence operation version = true

/-- A table in which no version has two variants. -/
structure Accepted (operations : List OpenBaoOperation) (endpoint : OpenBaoEndpointSpec) : Prop where
  id : endpoint.id.toList ≠ [] ∧ byteLen endpoint.id.toList ≤ maxEndpointIdBytes ∧
    ∀ c ∈ endpoint.id.toList, isEndpointIdChar c = true
  count : endpoint.variants ≠ [] ∧ endpoint.variants.length ≤ maxEndpointVariants
  backed : ∀ variant ∈ endpoint.variants, Backed operations variant
  apart : endpoint.variants.Pairwise fun a b => ∀ version, ¬ (Selects a version ∧ Selects b version)

variable {operations : List OpenBaoOperation} {endpoint : OpenBaoEndpointSpec}
  {variant : OpenBaoEndpointVariant} {earlier variants : List OpenBaoEndpointVariant}
  {version : OpenBaoVersion} {operation : OpenBaoOperation} {resolved : ResolvedOpenBaoEndpoint}

theorem contains_iff : variant.contains version = true ↔ Selects variant version := by
  simp [OpenBaoEndpointVariant.contains, Covers]

theorem validateVariant_eq_ok_iff : validateVariant operations earlier variant = .ok () ↔
    Backed operations variant ∧ ∀ previous ∈ earlier,
      ¬ Meets OpenBaoEndpointVariant.minimum OpenBaoEndpointVariant.maximum previous variant := by
  have hrange : (variant.minimum > variant.maximum || !isGeneratedProfile variant.minimum ||
      !isGeneratedProfile variant.maximum) = true ↔
      ¬ (variant.minimum ≤ variant.maximum ∧ variant.minimum ∈ generatedProfileVersions ∧
        variant.maximum ∈ generatedProfileVersions) := by
    simp only [isGeneratedProfile, Bool.or_eq_true, decide_eq_true_eq, Bool.not_eq_true',
      Bool.eq_false_iff, ne_eq, List.contains_iff_mem, not_and_or, gt_iff_lt, not_le, or_assoc]
  unfold validateVariant
  split
  · next h =>
    rw [hrange] at h
    exact ⟨nofun, fun hbacked => absurd ⟨hbacked.1.ordered, hbacked.1.minimum, hbacked.1.maximum⟩ h⟩
  · next h =>
    rw [hrange, Classical.not_not] at h
    obtain ⟨hordered, hminimum, hmaximum⟩ := h
    cases hoperation : openbaoOperation operations variant.operationId with
    | none =>
      refine ⟨nofun, fun hbacked => ?_⟩
      obtain ⟨operation, hfound, -⟩ := hbacked.1.operation
      rw [hoperation] at hfound
      cases hfound
    | some operation =>
      have hevidence : (generatedProfileVersions.filter variant.contains).all (hasEvidence operation) =
          true ↔ ∀ version ∈ generatedProfileVersions, Selects variant version →
            hasEvidence operation version = true := by
        simp only [List.all_eq_true, List.mem_filter, contains_iff, and_imp]
      have hbacked : Backed operations variant ↔ ∀ version ∈ generatedProfileVersions,
          Selects variant version → hasEvidence operation version = true := by
        constructor
        · intro hbacked
          obtain ⟨other, hfound, hall⟩ := hbacked.operation
          rw [hoperation] at hfound
          rw [Option.some.inj hfound]
          exact hall
        · exact fun hall => ⟨hordered, hminimum, hmaximum, operation, hoperation, hall⟩
      have hmeets : (earlier.any fun previous => previous.minimum ≤ variant.maximum &&
          variant.minimum ≤ previous.maximum) = false ↔ ∀ previous ∈ earlier,
            ¬ Meets OpenBaoEndpointVariant.minimum OpenBaoEndpointVariant.maximum previous variant := by
        simp [Meets, List.any_eq_false]
      rw [hbacked, ← hevidence, ← hmeets]
      dsimp only
      cases (generatedProfileVersions.filter variant.contains).all (hasEvidence operation) with
      | false => simp
      | true =>
        cases earlier.any fun previous => previous.minimum ≤ variant.maximum &&
          variant.minimum ≤ previous.maximum with
        | false => simp
        | true => simp

/-- The loop compares each variant with all those before it. -/
theorem validateVariants_eq_ok_iff : validateVariants operations earlier variants = .ok () ↔
    (∀ variant ∈ variants, Backed operations variant) ∧
      Apart OpenBaoEndpointVariant.minimum OpenBaoEndpointVariant.maximum variants ∧
      ∀ previous ∈ earlier, ∀ variant ∈ variants,
        ¬ Meets OpenBaoEndpointVariant.minimum OpenBaoEndpointVariant.maximum previous variant := by
  induction variants generalizing earlier with
  | nil => simp [validateVariants, Apart]
  | cons variant variants ih =>
    rw [validateVariants, bind_unit_eq_ok_iff, validateVariant_eq_ok_iff, ih]
    simp only [Apart, List.pairwise_cons, List.forall_mem_cons, List.mem_append, List.mem_singleton,
      or_imp, forall_and, forall_eq]
    constructor
    · rintro ⟨⟨hbacked, hfirst⟩, hall, hapart, hrest, hnext⟩
      exact ⟨⟨hbacked, hall⟩, ⟨hnext, hapart⟩, hfirst, hrest⟩
    · rintro ⟨⟨hbacked, hall⟩, ⟨hnext, hapart⟩, hfirst, hrest⟩
      exact ⟨⟨hbacked, hfirst⟩, hall, hapart, hrest, hnext⟩

/-- Of variants whose ranges are not empty, the ends tell whether a version has two. -/
theorem apart_iff (hall : ∀ variant ∈ variants, Backed operations variant) :
    Apart OpenBaoEndpointVariant.minimum OpenBaoEndpointVariant.maximum variants ↔
      variants.Pairwise fun a b => ∀ version, ¬ (Selects a version ∧ Selects b version) := by
  refine List.Pairwise.iff_of_mem fun {a b} ha hb => ?_
  rw [meets_iff_exists (hall a ha).ordered (hall b hb).ordered, not_exists]

theorem validateEndpointSpec_eq_ok_iff :
    validateEndpointSpec operations endpoint = .ok () ↔ Accepted operations endpoint := by
  have hid : (endpoint.id.toList.isEmpty || byteLen endpoint.id.toList > maxEndpointIdBytes ||
      !endpoint.id.toList.all isEndpointIdChar) = true ↔ ¬ (endpoint.id.toList ≠ [] ∧
        byteLen endpoint.id.toList ≤ maxEndpointIdBytes ∧
        ∀ c ∈ endpoint.id.toList, isEndpointIdChar c = true) := by
    simp only [Bool.or_eq_true, List.isEmpty_iff, decide_eq_true_eq, Bool.not_eq_true',
      Bool.eq_false_iff, ne_eq, List.all_eq_true, gt_iff_lt, not_and_or, not_le, Classical.not_not,
      or_assoc]
  have hcount : (endpoint.variants.isEmpty || endpoint.variants.length > maxEndpointVariants) = true ↔
      ¬ (endpoint.variants ≠ [] ∧ endpoint.variants.length ≤ maxEndpointVariants) := by
    simp only [Bool.or_eq_true, List.isEmpty_iff, decide_eq_true_eq, gt_iff_lt, ne_eq, not_and_or,
      Classical.not_not, not_le]
  unfold validateEndpointSpec
  split
  · next h =>
    exact ⟨nofun, fun haccepted => absurd haccepted.id (hid.mp h)⟩
  · next h =>
    rw [hid, Classical.not_not] at h
    split
    · next hvariants =>
      exact ⟨nofun, fun haccepted => absurd haccepted.count (hcount.mp hvariants)⟩
    · next hvariants =>
      rw [hcount, Classical.not_not] at hvariants
      rw [validateVariants_eq_ok_iff]
      constructor
      · rintro ⟨hbacked, hapart, -⟩
        exact ⟨h, hvariants, hbacked, (apart_iff hbacked).mp hapart⟩
      · intro haccepted
        exact ⟨haccepted.backed, (apart_iff haccepted.backed).mpr haccepted.apart, by simp⟩

end Tables

/-! ### Resolution -/

section Profiles

variable {operations : List OpenBaoOperation} {endpoint : OpenBaoEndpointSpec}
  {version : OpenBaoVersion} {operation : OpenBaoOperation}
  {resolved other : ResolvedOpenBaoEndpoint} {e : Error}

/-- What a table stands for on a profile. -/
structure Resolves (operations : List OpenBaoOperation) (endpoint : OpenBaoEndpointSpec)
    (version : OpenBaoVersion) (resolved : ResolvedOpenBaoEndpoint) : Prop where
  name : resolved.endpoint = endpoint.id
  variant : ∃ variant ∈ endpoint.variants, Selects variant version ∧
    openbaoOperation operations variant.operationId = some resolved.operation
  documented : resolved.operation.availability version = some .documentedRoute
  typed : resolved.operation.disposition = .typed ∨ resolved.operation.disposition = .typedGated
  method : reqwestMethod resolved.operation.method = .ok resolved.method

def acmeDispatchError : Error :=
  .internal "ACME protocol operations cannot use typed HTTP dispatch"

theorem reqwestMethod_error {method : OpenBaoHttpMethod} (h : reqwestMethod method = .error e) :
    e = acmeDispatchError := by
  cases method with
  | acme => exact (Except.error.inj h).symm
  | delete | get | head | list | patch | post | put | scan => cases h

theorem admitVariant_eq_ok_iff : admitVariant endpoint version operation = .ok resolved ↔
    operation = resolved.operation ∧ resolved.endpoint = endpoint.id ∧
      operation.availability version = some .documentedRoute ∧
      (operation.disposition = .typed ∨ operation.disposition = .typedGated) ∧
      reqwestMethod operation.method = .ok resolved.method := by
  unfold admitVariant
  split
  · next h => simp [h]
  · next h => simp [h]
  · next h => simp [h]
  · next h =>
    split
    · next htyped =>
      rw [Bool.not_eq_true', Bool.or_eq_false_iff, decide_eq_false_iff_not, decide_eq_false_iff_not,
        ← not_or] at htyped
      exact ⟨nofun, fun hadmitted => absurd hadmitted.2.2.2.1 htyped⟩
    · next htyped =>
      rw [Bool.not_eq_true', Bool.not_eq_false, Bool.or_eq_true, decide_eq_true_eq,
        decide_eq_true_eq] at htyped
      rw [bind_eq_ok_iff]
      constructor
      · rintro ⟨method, hmethod, hresolved⟩
        obtain rfl := Except.ok.inj hresolved
        exact ⟨rfl, rfl, h, htyped, hmethod⟩
      · rintro ⟨rfl, hendpoint, -, -, hmethod⟩
        refine ⟨resolved.method, hmethod, ?_⟩
        rw [← hendpoint]
        rfl

/-- Behind evidence for the profile, an operation is refused only as a capability, or because it
is not an HTTP request at all. -/
theorem admitVariant_error (hevidence : hasEvidence operation version = true)
    (h : admitVariant endpoint version operation = .error e) :
    e = .unsupportedOpenBaoCapability endpoint.id version ∨ e = acmeDispatchError := by
  unfold admitVariant at h
  split at h
  · next hnone => simp [hasEvidence, hnone] at hevidence
  · exact .inl (Except.error.inj h).symm
  · exact .inl (Except.error.inj h).symm
  · split at h
    · exact .inl (Except.error.inj h).symm
    · cases hmethod : reqwestMethod operation.method with
      | error e' =>
        rw [hmethod] at h
        obtain rfl := Except.error.inj h
        exact .inr (reqwestMethod_error hmethod)
      | ok method =>
        rw [hmethod] at h
        cases h

/-- The variants that are left for a profile. -/
theorem selected (haccepted : Accepted operations endpoint) (version : OpenBaoVersion) :
    (endpoint.variants.filter (·.contains version) = [] ∧
        ∀ variant ∈ endpoint.variants, ¬ Selects variant version) ∨
      ∃ variant, endpoint.variants.filter (·.contains version) = [variant] ∧
        ∀ other, other ∈ endpoint.variants ∧ Selects other version ↔ other = variant := by
  have hapart := (apart_iff haccepted.backed).mpr haccepted.apart
  have hcovers : ∀ variant : OpenBaoEndpointVariant, variant.contains version = true →
      Selects variant version := fun _ => contains_iff.mp
  rcases hapart.filter_eq hcovers with hnil | ⟨variant, hvariant⟩
  · exact .inl ⟨hnil, (filter_eq_nil_iff fun _ => contains_iff).mp hnil⟩
  · refine .inr ⟨variant, hvariant, fun other => ?_⟩
    rw [← hapart.filter_eq_singleton_iff fun _ => contains_iff, hvariant, List.cons_eq_cons]
    exact ⟨fun h => h.1.symm, fun h => ⟨h.symm, rfl⟩⟩

theorem resolveOpenbaoEndpointForProfile_eq_ok_iff (haccepted : Accepted operations endpoint) :
    resolveOpenbaoEndpointForProfile operations endpoint version = .ok resolved ↔
      Resolves operations endpoint version resolved := by
  rw [resolveOpenbaoEndpointForProfile, bind_unit_eq_ok_iff,
    and_iff_right (validateEndpointSpec_eq_ok_iff.mpr haccepted)]
  rcases selected haccepted version with ⟨hnil, hnone⟩ | ⟨variant, hvariant, hunique⟩
  · rw [hnil]
    refine ⟨nofun, fun h => ?_⟩
    obtain ⟨variant, hmem, hselects, -⟩ := h.variant
    exact absurd hselects (hnone variant hmem)
  · rw [hvariant]
    dsimp only
    obtain ⟨hmem, hselects⟩ := (hunique variant).mpr rfl
    have hfound : openbaoOperation operations variant.operationId = some resolved.operation ↔
        ∃ variant ∈ endpoint.variants, Selects variant version ∧
          openbaoOperation operations variant.operationId = some resolved.operation := by
      constructor
      · exact fun h => ⟨variant, hmem, hselects, h⟩
      · rintro ⟨other, hother, hselected, h⟩
        rw [← (hunique other).mp ⟨hother, hselected⟩]
        exact h
    cases hoperation : openbaoOperation operations variant.operationId with
    | none =>
      rw [hoperation] at hfound
      exact ⟨nofun, fun h => absurd (hfound.mpr h.variant) nofun⟩
    | some operation =>
      rw [hoperation, Option.some.injEq] at hfound
      dsimp only
      rw [admitVariant_eq_ok_iff]
      constructor
      · rintro ⟨rfl, hendpoint, hdocumented, htyped, hmethod⟩
        exact ⟨hendpoint, hfound.mp rfl, hdocumented, htyped, hmethod⟩
      · intro h
        obtain rfl := hfound.mpr h.variant
        exact ⟨rfl, h.name, h.documented, h.typed, h.method⟩

/-- A profile leaves nothing to choose. -/
theorem Resolves.unique (haccepted : Accepted operations endpoint)
    (h : Resolves operations endpoint version resolved)
    (hother : Resolves operations endpoint version other) : resolved = other := by
  rw [← resolveOpenbaoEndpointForProfile_eq_ok_iff haccepted] at h hother
  rw [h] at hother
  exact Except.ok.inj hother

theorem resolveOpenbaoEndpointForProfile_error (haccepted : Accepted operations endpoint)
    (hversion : version ∈ generatedProfileVersions)
    (h : resolveOpenbaoEndpointForProfile operations endpoint version = .error e) :
    e = .unsupportedOpenBaoCapability endpoint.id version ∨ e = acmeDispatchError := by
  rw [resolveOpenbaoEndpointForProfile, validateEndpointSpec_eq_ok_iff.mpr haccepted] at h
  change (match endpoint.variants.filter (·.contains version) with
    | [] => _ | [variant] => _ | _ => _) = _ at h
  rcases selected haccepted version with ⟨hnil, -⟩ | ⟨variant, hvariant, hunique⟩
  · rw [hnil] at h
    exact .inl (Except.error.inj h).symm
  · obtain ⟨hmem, hselects⟩ := (hunique variant).mpr rfl
    obtain ⟨operation, hoperation, hevidence⟩ := (haccepted.backed variant hmem).operation
    rw [hvariant] at h
    dsimp only at h
    rw [hoperation] at h
    exact admitVariant_error (hevidence version hversion hselects) h

theorem routedVersion_eq_ok_iff {report : OpenBaoCompatibilityReport} :
    routedVersion report = .ok version ↔
      routingProfile report = some version ∧ isRoutableProfile version = true := by
  unfold routedVersion
  cases routingProfile report with
  | none => simp
  | some profile =>
    dsimp only
    cases hroutable : isRoutableProfile profile with
    | false =>
      simp only [Bool.not_false, reduceIte, Option.some.injEq, reduceCtorEq, false_iff, not_and]
      rintro rfl
      simp [hroutable]
    | true =>
      simp only [Bool.not_true, Bool.false_eq_true, reduceIte, Except.ok.injEq, Option.some.injEq,
        iff_self_and]
      rintro rfl
      exact hroutable

/-- A path that is sent as it stands. -/
structure Literal (template path : Str) : Prop where
  template : template = '/' :: path
  plain : ∃ segments, validateEndpointPath path = .ok segments ∧
    ∀ segment ∈ segments, isPlaceholder segment = false

theorem literalPath_eq_ok_iff {template path : Str} :
    literalPath template = .ok path ↔ Literal template path := by
  unfold literalPath
  split
  · next rest =>
    rw [bind_eq_ok_iff]
    constructor
    · rintro ⟨segments, hsegments, h⟩
      split at h
      · cases h
      · next hplain =>
        obtain rfl := Except.ok.inj h
        refine ⟨rfl, segments, hsegments, ?_⟩
        rw [Bool.not_eq_true, List.any_eq_false] at hplain
        exact fun segment hsegment => Bool.eq_false_iff.mpr (hplain segment hsegment)
    · rintro ⟨htemplate, segments, hsegments, hplain⟩
      obtain rfl := List.tail_eq_of_cons_eq htemplate
      refine ⟨segments, hsegments, ?_⟩
      have hany : segments.any isPlaceholder = false :=
        List.any_eq_false.mpr fun segment hsegment => Bool.eq_false_iff.mp (hplain segment hsegment)
      rw [hany]
      rfl
  · next hno =>
    refine ⟨nofun, fun h => ?_⟩
    exact absurd h.template (hno path)

/-- The report lets the table through on a profile, which it then stands for. -/
structure Routed (operations : List OpenBaoOperation) (ensured : Except Error OpenBaoCompatibilityReport)
    (endpoint : OpenBaoEndpointSpec) (resolved : ResolvedOpenBaoEndpoint) : Prop where
  accepted : Accepted operations endpoint
  profile : ∃ report version, ensured = .ok report ∧ routingProfile report = some version ∧
    isRoutableProfile version = true ∧ Resolves operations endpoint version resolved

/-- Which tables are accepted, what they resolve to under a report, and how they fail: behind an
accepted table a profile has one operation at most, and the only refusals left are the ones that
name the capability. -/
theorem endpoint_law (operations : List OpenBaoOperation) (endpoint : OpenBaoEndpointSpec) :
    (validateEndpointSpec operations endpoint = .ok () ↔ Accepted operations endpoint) ∧
      (∀ ensured path query resolved,
        resolveOpenbaoEndpoint operations ensured endpoint path query = .ok resolved ↔
          Routed operations ensured endpoint resolved ∧ ∃ segments,
            validateEndpointPath path = .ok segments ∧
            routeTemplateMatches resolved.operation.pathTemplate segments query = .ok true) ∧
      (∀ ensured resolved path,
        resolveOpenbaoLiteralEndpoint operations ensured endpoint = .ok (resolved, path) ↔
          Routed operations ensured endpoint resolved ∧
            Literal resolved.operation.pathTemplate path) ∧
      (Accepted operations endpoint → ∀ version ∈ generatedProfileVersions,
        (∀ resolved other, Resolves operations endpoint version resolved →
          Resolves operations endpoint version other → resolved = other) ∧
        ∀ e, resolveOpenbaoEndpointForProfile operations endpoint version = .error e →
          e = .unsupportedOpenBaoCapability endpoint.id version ∨ e = acmeDispatchError) := by
  refine ⟨validateEndpointSpec_eq_ok_iff, fun ensured path query resolved => ?_,
    fun ensured resolved path => ?_, fun haccepted version hversion =>
    ⟨fun _ _ => Resolves.unique haccepted,
      fun _ => resolveOpenbaoEndpointForProfile_error haccepted hversion⟩⟩
  · rw [resolveOpenbaoEndpoint, bind_eq_ok_iff]
    simp only [bind_eq_ok_iff, routedVersion_eq_ok_iff]
    constructor
    · rintro ⟨segments, hsegments, ⟨⟩, hspec, report, hreport, version, ⟨hprofile, hroutable⟩, found,
        hfound, hit, hmatches, h⟩
      have haccepted := validateEndpointSpec_eq_ok_iff.mp hspec
      rw [resolveOpenbaoEndpointForProfile_eq_ok_iff haccepted] at hfound
      cases hit with
      | false => cases h
      | true =>
        obtain rfl := Except.ok.inj h
        exact ⟨⟨haccepted, report, version, hreport, hprofile, hroutable, hfound⟩, segments,
          hsegments, hmatches⟩
    · rintro ⟨⟨haccepted, report, version, hreport, hprofile, hroutable, hresolves⟩, segments,
        hsegments, hmatches⟩
      exact ⟨segments, hsegments, (), validateEndpointSpec_eq_ok_iff.mpr haccepted, report, hreport,
        version, ⟨hprofile, hroutable⟩, resolved,
        (resolveOpenbaoEndpointForProfile_eq_ok_iff haccepted).mpr hresolves, true, hmatches, rfl⟩
  · rw [resolveOpenbaoLiteralEndpoint]
    simp only [bind_eq_ok_iff, routedVersion_eq_ok_iff]
    constructor
    · rintro ⟨⟨⟩, hspec, report, hreport, version, ⟨hprofile, hroutable⟩, found, hfound, text, htext, h⟩
      have haccepted := validateEndpointSpec_eq_ok_iff.mp hspec
      rw [resolveOpenbaoEndpointForProfile_eq_ok_iff haccepted] at hfound
      obtain ⟨rfl, rfl⟩ := Prod.mk.inj (Except.ok.inj h)
      exact ⟨⟨haccepted, report, version, hreport, hprofile, hroutable, hfound⟩,
        literalPath_eq_ok_iff.mp htext⟩
    · rintro ⟨⟨haccepted, report, version, hreport, hprofile, hroutable, hresolves⟩, hliteral⟩
      exact ⟨(), validateEndpointSpec_eq_ok_iff.mpr haccepted, report, hreport, version,
        ⟨hprofile, hroutable⟩, resolved,
        (resolveOpenbaoEndpointForProfile_eq_ok_iff haccepted).mpr hresolves, path,
        literalPath_eq_ok_iff.mpr hliteral, rfl⟩

end Profiles

/-! ### What of a registry counts -/

section Registries

variable {operations others : List OpenBaoOperation} {earlier variants : List OpenBaoEndpointVariant}
  {endpoint : OpenBaoEndpointSpec}

theorem validateVariants_congr (h : ∀ variant ∈ variants,
    openbaoOperation operations variant.operationId = openbaoOperation others variant.operationId) :
    validateVariants operations earlier variants = validateVariants others earlier variants := by
  induction variants generalizing earlier with
  | nil => rfl
  | cons variant variants ih =>
    obtain ⟨hvariant, hrest⟩ := List.forall_mem_cons.mp h
    have hfirst : validateVariant operations earlier variant = validateVariant others earlier variant := by
      rw [validateVariant, validateVariant, hvariant]
    rw [validateVariants, validateVariants, hfirst, ih hrest]

theorem validateEndpointSpec_congr (h : ∀ variant ∈ endpoint.variants,
    openbaoOperation operations variant.operationId = openbaoOperation others variant.operationId) :
    validateEndpointSpec operations endpoint = validateEndpointSpec others endpoint := by
  rw [validateEndpointSpec, validateEndpointSpec, validateVariants_congr h]

/-- Registries with the same operations under the names of a table give it the same meaning. -/
theorem resolveOpenbaoLiteralEndpoint_congr (h : ∀ variant ∈ endpoint.variants,
    openbaoOperation operations variant.operationId = openbaoOperation others variant.operationId)
    (ensured : Except Error OpenBaoCompatibilityReport) :
    resolveOpenbaoLiteralEndpoint operations ensured endpoint =
      resolveOpenbaoLiteralEndpoint others ensured endpoint := by
  have hspec := validateEndpointSpec_congr h
  have hprofile : ∀ version, resolveOpenbaoEndpointForProfile operations endpoint version =
      resolveOpenbaoEndpointForProfile others endpoint version := by
    intro version
    rw [resolveOpenbaoEndpointForProfile, resolveOpenbaoEndpointForProfile, hspec]
    refine congrArg _ (funext fun _ => ?_)
    have hmem : ∀ variant ∈ endpoint.variants.filter (·.contains version),
        openbaoOperation operations variant.operationId = openbaoOperation others variant.operationId :=
      fun variant hvariant => h variant (List.mem_filter.mp hvariant).1
    cases hselected : endpoint.variants.filter (·.contains version) with
    | nil => rfl
    | cons variant rest =>
      rw [hselected] at hmem
      cases rest with
      | nil =>
        dsimp only
        rw [hmem variant (List.mem_singleton_self variant)]
      | cons _ _ => rfl
  rw [resolveOpenbaoLiteralEndpoint, resolveOpenbaoLiteralEndpoint, hspec]
  simp only [hprofile]

end Registries

end OpenBao.EndpointVariants
