import OpenBao.PanickingOperations
import OpenBao.RegisteredRoutes

/-!
# The tail of a bound path

A request goes to its wire path and is judged by its registry path. Both have the same
operation tail behind their mounts, up to the marker of an operation at the root of a secret
mount.
-/

namespace OpenBao.RegisteredRoutes
open PanickingOperations PathValidation Utf8Text

/-- `RegisteredRouteBinding::registered`. -/
def RegisteredRouteBinding.registered (scopePrefix registryPath wirePath : Str) :
    Except Error RegisteredRouteBinding := do
  let registry ← validateEndpointPath registryPath
  let wire ← validateEndpointPath wirePath
  if registry = wire then return .exact scopePrefix wirePath
  else if scopePrefix = "/identity/".toList ∧ 1 < registry.length ∧
      registry.head? = some "identity".toList ∧ registry.length - 1 < wire.length ∧
        registry.tail.isSuffixOf wire then
    return .identityMount registryPath wirePath
  else .error (.internal "registered OpenBao capability path does not match its wire route")

def rootMarker : Str := "__openbao_root__".toList

/-- Documentation has a placeholder behind the tail, which names no path itself. -/
def BareTail (tail : List Str) : Prop := tail = [] ∨ ∃ verb ∈ rootOperations, tail = [verb]

instance (tail : List Str) : Decidable (BareTail tail) := inferInstanceAs (Decidable (_ ∨ _))

/-- The tail in the registry. -/
def markedTail (tail : List Str) : List Str :=
  if BareTail tail then tail ++ [rootMarker] else tail

variable {documentedMount actualMount path path' wirePath registryPath scopePrefix : Str}
variable {documented : Str} {mount tail tail' segments registry wire : List Str}

/-! ## What is bound -/

theorem isPrefixOf_iff : mount.isPrefixOf segments = true ↔ ∃ tail, segments = mount ++ tail := by
  rw [List.isPrefixOf_iff_prefix]
  exact exists_congr fun _ => eq_comm

theorem authRegistryPath_eq_ok_iff (hd : validateMountPath documentedMount = .ok [documented]) :
    authRegistryPath documentedMount actualMount path = .ok registryPath ↔
      ∃ mount tail, validateMountPath actualMount = .ok mount ∧
        validateEndpointPath path = .ok ("auth".toList :: (mount ++ tail)) ∧
          registryPath = join '/' ("auth".toList :: documented :: tail) := by
  rw [authRegistryPath, hd]
  change (validateMountPath actualMount >>= _) = _ ↔ _
  rw [bind_eq_ok_iff]
  refine exists_congr fun mount => ?_
  rw [bind_eq_ok_iff]
  constructor
  · rintro ⟨hmount, segments, hsegments, hresult⟩
    split_ifs at hresult with hmismatch
    rw [not_or, Classical.not_not, Classical.not_not] at hmismatch
    obtain ⟨hhead, hprefix⟩ := hmismatch
    obtain ⟨rest, rfl⟩ := List.head?_eq_some_iff.mp hhead
    obtain ⟨tail, rfl⟩ := isPrefixOf_iff.mp hprefix
    have hdrop : ("auth".toList :: (mount ++ tail)).drop (1 + mount.length) = tail := by
      rw [Nat.add_comm, List.drop_succ_cons, List.drop_left]
    rw [hdrop] at hresult
    exact ⟨tail, hmount, hsegments, (Except.ok.inj hresult).symm⟩
  · rintro ⟨tail, hmount, hsegments, rfl⟩
    refine ⟨hmount, _, hsegments, ?_⟩
    have hmatches : ¬ (("auth".toList :: (mount ++ tail)).head? ≠ some "auth".toList ∨
        ¬ mount.isPrefixOf ("auth".toList :: (mount ++ tail)).tail = true) := by
      rw [not_or, Classical.not_not, Classical.not_not]
      exact ⟨rfl, isPrefixOf_iff.mpr ⟨tail, rfl⟩⟩
    rw [if_neg hmatches, Nat.add_comm 1, List.drop_succ_cons, List.drop_left]
    rfl

theorem markRoot_eq (documented : Str) (tail : List Str) :
    markRoot (documented :: tail) = documented :: markedTail tail := by
  unfold markedTail
  match tail with
  | [] =>
    rw [if_pos (.inl rfl)]
    rfl
  | [verb] =>
    have hbare : BareTail [verb] ↔ verb ∈ rootOperations := by simp [BareTail]
    rw [markRoot]
    split_ifs with hverb hbareTail hbareTail
    · rfl
    · exact absurd (hbare.mpr hverb) hbareTail
    · exact absurd (hbare.mp hbareTail) hverb
    · rfl
  | first :: second :: rest =>
    have hbare : ¬ BareTail (first :: second :: rest) := by simp [BareTail]
    rw [if_neg hbare]
    rfl

theorem secretRegistryPath_eq_ok_iff (hd : validateMountPath documentedMount = .ok [documented]) :
    secretRegistryPath documentedMount actualMount path = .ok registryPath ↔
      ∃ mount tail, validateMountPath actualMount = .ok mount ∧
        validateEndpointPath path = .ok (mount ++ tail) ∧
          registryPath = join '/' (documented :: markedTail tail) := by
  rw [secretRegistryPath, hd]
  change (validateMountPath actualMount >>= _) = _ ↔ _
  rw [bind_eq_ok_iff]
  refine exists_congr fun mount => ?_
  rw [bind_eq_ok_iff]
  constructor
  · rintro ⟨hmount, segments, hsegments, hresult⟩
    split_ifs at hresult with hmatches
    obtain ⟨tail, rfl⟩ := isPrefixOf_iff.mp hmatches
    rw [List.drop_left, markRoot_eq] at hresult
    exact ⟨tail, hmount, hsegments, (Except.ok.inj hresult).symm⟩
  · rintro ⟨tail, hmount, hsegments, rfl⟩
    refine ⟨hmount, _, hsegments, ?_⟩
    rw [if_neg (not_not_intro (isPrefixOf_iff.mpr ⟨tail, rfl⟩)), List.drop_left, markRoot_eq]
    rfl

/-- A custom identity mount is a non-empty mount before the tail of the documented path. -/
theorem registered_eq_identityMount_iff :
    RegisteredRouteBinding.registered scopePrefix registryPath wirePath =
        .ok (.identityMount registryPath wirePath) ↔
      scopePrefix = "/identity/".toList ∧ ∃ mount tail, mount ≠ [] ∧ tail ≠ [] ∧
        mount ≠ ["identity".toList] ∧
        validateEndpointPath registryPath = .ok ("identity".toList :: tail) ∧
          validateEndpointPath wirePath = .ok (mount ++ tail) := by
  unfold RegisteredRouteBinding.registered
  rw [bind_eq_ok_iff]
  constructor
  · rintro ⟨registry, hregistry, h⟩
    obtain ⟨wire, hwire, h⟩ := bind_eq_ok_iff.mp h
    split_ifs at h with hsame hidentity
    · cases h
    obtain ⟨hscope, hlength, hhead, hlonger, hsuffix⟩ := hidentity
    obtain ⟨tail, rfl⟩ := List.head?_eq_some_iff.mp hhead
    obtain ⟨mount, rfl⟩ := List.isSuffixOf_iff_suffix.mp hsuffix
    rw [List.tail_cons] at hsame hlonger hwire
    simp only [List.length_cons, List.length_append] at hlength hlonger
    refine ⟨hscope, mount, tail, ?_, ?_, ?_, hregistry, hwire⟩
    · rintro rfl
      rw [List.length_nil] at hlonger
      omega
    · rintro rfl
      rw [List.length_nil] at hlength
      omega
    · rintro rfl
      exact hsame rfl
  · rintro ⟨hscope, mount, tail, hmount, htail, hother, hregistry, hwire⟩
    refine ⟨_, hregistry, bind_eq_ok_iff.mpr ⟨_, hwire, ?_⟩⟩
    have hlength := List.length_pos_of_ne_nil hmount
    have htailLength := List.length_pos_of_ne_nil htail
    rw [if_neg, if_pos]
    · rfl
    · refine ⟨hscope, ?_, rfl, ?_, List.isSuffixOf_iff_suffix.mpr ⟨mount, rfl⟩⟩
      · rw [List.length_cons]
        omega
      · rw [List.length_cons, List.length_append]
        omega
    · intro hsame
      have hmount : ["identity".toList] = mount := List.append_cancel_right hsame
      exact hother hmount.symm

/-! ## Distinct tails -/

theorem not_bareTail_append_rootMarker (h : BareTail tail) : ¬ BareTail (tail ++ [rootMarker]) := by
  have hmarker : rootMarker ∉ rootOperations := by decide +kernel
  rcases h with rfl | ⟨verb, -, rfl⟩
  · rintro (hnil | ⟨verb, hverb, heq⟩)
    · cases hnil
    · obtain rfl : rootMarker = verb := List.head_eq_of_cons_eq heq
      exact hmarker hverb
  · rintro (hnil | ⟨verb, -, heq⟩)
    · cases hnil
    · cases heq

theorem markedTail_append_rootMarker (h : BareTail tail) :
    markedTail (tail ++ [rootMarker]) = markedTail tail := by
  rw [markedTail, if_neg (not_bareTail_append_rootMarker h), markedTail, if_pos h]

/-- Marked tails agree only for a bare tail and the same tail with the marker written out. -/
theorem markedTail_eq_iff : markedTail tail = markedTail tail' ↔
    tail = tail' ∨ BareTail tail ∧ tail' = tail ++ [rootMarker] ∨
      BareTail tail' ∧ tail = tail' ++ [rootMarker] := by
  constructor
  · intro h
    by_cases hbare : BareTail tail
    · by_cases hbare' : BareTail tail'
      · rw [markedTail, if_pos hbare, markedTail, if_pos hbare'] at h
        exact .inl (List.append_cancel_right h)
      · rw [markedTail, if_pos hbare, markedTail, if_neg hbare'] at h
        exact .inr (.inl ⟨hbare, h.symm⟩)
    · by_cases hbare' : BareTail tail'
      · rw [markedTail, if_neg hbare, markedTail, if_pos hbare'] at h
        exact .inr (.inr ⟨hbare', h⟩)
      · rw [markedTail, if_neg hbare, markedTail, if_neg hbare'] at h
        exact .inl h
  · rintro (rfl | ⟨hbare, rfl⟩ | ⟨hbare, rfl⟩)
    · rfl
    · exact (markedTail_append_rootMarker hbare).symm
    · exact markedTail_append_rootMarker hbare

theorem canonicalSegment_rootMarker : CanonicalSegment rootMarker where
  nonempty := by decide +kernel
  allowed := List.all_eq_true.mp (by decide +kernel)
  noSlash := by decide +kernel
  noFinalPeriod := by decide +kernel

/-- Registry paths agree when their segments do. -/
theorem join_documented_inj (hd : validateMountPath documentedMount = .ok [documented])
    (htail : ∀ segment ∈ tail, CanonicalSegment segment)
    (htail' : ∀ segment ∈ tail', CanonicalSegment segment) :
    join '/' (documented :: tail) = join '/' (documented :: tail') ↔ tail = tail' := by
  have hdocumented := (validateMountPath_canonical hd).segment documented List.mem_cons_self
  have hsegments : PathSegments (documented :: tail) :=
    ⟨List.cons_ne_nil _ _, List.forall_mem_cons.mpr ⟨hdocumented, htail⟩⟩
  have hsegments' : PathSegments (documented :: tail') :=
    ⟨List.cons_ne_nil _ _, List.forall_mem_cons.mpr ⟨hdocumented, htail'⟩⟩
  refine ⟨fun h => ?_, fun h => by rw [h]⟩
  have hsplit := congrArg (List.splitOn '/') h
  rw [hsegments.splitOn_join, hsegments'.splitOn_join] at hsplit
  exact List.tail_eq_of_cons_eq hsplit

theorem markedTail_canonical (h : ∀ segment ∈ tail, CanonicalSegment segment) :
    ∀ segment ∈ markedTail tail, CanonicalSegment segment := by
  unfold markedTail
  split_ifs
  · exact List.forall_mem_append.mpr
      ⟨h, List.forall_mem_singleton.mpr canonicalSegment_rootMarker⟩
  · exact h

/-- Behind one mount the registry paths of two secret requests agree exactly for equal tails
and for a bare tail beside its marked form. -/
theorem secretRegistryPath_eq_iff (hd : validateMountPath documentedMount = .ok [documented])
    (hmount : validateMountPath actualMount = .ok mount)
    (hpath : validateEndpointPath path = .ok (mount ++ tail))
    (hpath' : validateEndpointPath path' = .ok (mount ++ tail')) :
    secretRegistryPath documentedMount actualMount path =
        secretRegistryPath documentedMount actualMount path' ↔
      tail = tail' ∨ BareTail tail ∧ tail' = tail ++ [rootMarker] ∨
        BareTail tail' ∧ tail = tail' ++ [rootMarker] := by
  have hcanonical := (List.forall_mem_append.mp (validateEndpointPath_segments hpath).2).2
  have hcanonical' := (List.forall_mem_append.mp (validateEndpointPath_segments hpath').2).2
  rw [(secretRegistryPath_eq_ok_iff hd).mpr ⟨mount, tail, hmount, hpath, rfl⟩,
    (secretRegistryPath_eq_ok_iff hd).mpr ⟨mount, tail', hmount, hpath', rfl⟩, Except.ok.injEq,
    join_documented_inj hd (markedTail_canonical hcanonical) (markedTail_canonical hcanonical'),
    markedTail_eq_iff]

theorem authRegistryPath_eq_iff (hd : validateMountPath documentedMount = .ok [documented])
    (hmount : validateMountPath actualMount = .ok mount)
    (hpath : validateEndpointPath path = .ok ("auth".toList :: (mount ++ tail)))
    (hpath' : validateEndpointPath path' = .ok ("auth".toList :: (mount ++ tail'))) :
    authRegistryPath documentedMount actualMount path =
        authRegistryPath documentedMount actualMount path' ↔ tail = tail' := by
  obtain ⟨hauth, hrest⟩ := List.forall_mem_cons.mp (validateEndpointPath_segments hpath).2
  obtain ⟨-, hrest'⟩ := List.forall_mem_cons.mp (validateEndpointPath_segments hpath').2
  have hcanonical := (List.forall_mem_append.mp hrest).2
  have hcanonical' := (List.forall_mem_append.mp hrest').2
  have hlead : ∀ tail, join '/' ("auth".toList :: documented :: tail) =
      "auth".toList ++ '/' :: join '/' (documented :: tail) := by
    intro tail
    simp [join]
  rw [(authRegistryPath_eq_ok_iff hd).mpr ⟨mount, tail, hmount, hpath, rfl⟩,
    (authRegistryPath_eq_ok_iff hd).mpr ⟨mount, tail', hmount, hpath', rfl⟩, Except.ok.injEq,
    hlead, hlead, List.append_cancel_left_eq, List.cons.injEq, and_iff_right rfl,
    join_documented_inj hd hcanonical hcanonical']

/-! ## The bindings with operations that may panic -/

def runAuthRegistryPath (documentedMount actualMount path : Str) : Option (Except Error Str) :=
  match validateMountPath documentedMount with
  | .error e => some (.error e)
  | .ok documentedMount =>
    if documentedMount.length ≠ 1 then
      some (.error (.internal "documented auth mount must contain exactly one path segment"))
    else
      match validateMountPath actualMount with
      | .error e => some (.error e)
      | .ok actualMount =>
        match validateEndpointPath path with
        | .error e => some (.error e)
        | .ok path =>
          let prefixLength := min (1 + actualMount.length) usizeMax
          if path.head? ≠ some "auth".toList ∨ slice path 1 prefixLength ≠ some actualMount then
            some (.error (.internal "typed auth request path does not match its validated mount"))
          else
            (sub path.length actualMount.length).bind fun spare =>
              (add usizeMax spare 1).bind fun _ =>
                (read documentedMount 0).bind fun documented =>
                  (sliceFrom path prefixLength).bind fun tail =>
                    some (.ok (join '/' ("auth".toList :: documented :: tail)))

def runSecretRegistryPath (documentedMount actualMount path : Str) : Option (Except Error Str) :=
  match validateMountPath documentedMount with
  | .error e => some (.error e)
  | .ok documentedMount =>
    if documentedMount.length ≠ 1 then
      some (.error (.internal "documented secret mount must contain exactly one path segment"))
    else
      match validateMountPath actualMount with
      | .error e => some (.error e)
      | .ok actualMount =>
        match validateEndpointPath path with
        | .error e => some (.error e)
        | .ok path =>
          if slice path 0 actualMount.length ≠ some actualMount then
            some (.error (.internal "typed secret request path does not match its validated mount"))
          else
            (sub path.length actualMount.length).bind fun spare =>
              (add usizeMax spare 1).bind fun _ =>
                (read documentedMount 0).bind fun documented =>
                  (sliceFrom path actualMount.length).bind fun tail =>
                    some (.ok (join '/' (markRoot (documented :: tail))))

/-- The operands of `&&` run from left to right. -/
def runRegistered (scopePrefix registryPath wirePath : Str) :
    Option (Except Error RegisteredRouteBinding) :=
  match validateEndpointPath registryPath with
  | .error e => some (.error e)
  | .ok registry =>
    match validateEndpointPath wirePath with
    | .error e => some (.error e)
    | .ok wire =>
      let unbound := some
        (.error (.internal "registered OpenBao capability path does not match its wire route"))
      if registry = wire then some (.ok (.exact scopePrefix wirePath))
      else if scopePrefix = "/identity/".toList ∧ 1 < registry.length ∧
          registry.head? = some "identity".toList then
        (sub registry.length 1).bind fun tailLength =>
          if tailLength < wire.length then
            (sliceFrom registry 1).bind fun tail =>
              if tail.isSuffixOf wire then some (.ok (.identityMount registryPath wirePath))
              else unbound
          else unbound
      else unbound

/-- The slice behind `auth` is compared as a prefix. -/
theorem auth_mismatch_iff : segments.head? ≠ some "auth".toList ∨
    slice segments 1 (1 + mount.length) ≠ some mount ↔
      segments.head? ≠ some "auth".toList ∨ ¬ mount.isPrefixOf segments.tail = true := by
  refine or_congr_right' fun hhead => not_congr ?_
  rw [Classical.not_not] at hhead
  obtain ⟨rest, rfl⟩ := List.head?_eq_some_iff.mp hhead
  rw [slice_eq_some_iff (Nat.le_add_left _ _), List.isPrefixOf_iff_prefix]
  rfl

theorem runAuthRegistryPath_eq (documentedMount actualMount path : Str) :
    runAuthRegistryPath documentedMount actualMount path =
      some (authRegistryPath documentedMount actualMount path) := by
  unfold runAuthRegistryPath authRegistryPath
  cases validateMountPath documentedMount with
  | error e => rfl
  | ok documented =>
    match documented with
    | [] => rfl
    | first :: second :: rest => rfl
    | [documented] =>
      dsimp only [List.length_singleton]
      rw [if_neg (not_not_intro rfl)]
      cases hmount : validateMountPath actualMount with
      | error e => rfl
      | ok mount =>
        cases hpath : validateEndpointPath path with
        | error e => rfl
        | ok segments =>
          have hmountLength := (validateMountPath_canonical hmount).count
          have hlength := (validateEndpointPath_segments hpath).1
          have hlimit : maxPathSegments + 1 ≤ usizeMax := by decide
          dsimp only
          rw [Nat.min_eq_left (by omega)]
          change _ = some (if _ then _ else _)
          have hiff := @auth_mismatch_iff mount segments
          by_cases hmismatch : segments.head? ≠ some "auth".toList ∨
              ¬ mount.isPrefixOf segments.tail = true
          · rw [if_pos hmismatch, if_pos (hiff.mpr hmismatch)]
          · rw [if_neg hmismatch, if_neg (mt hiff.mp hmismatch)]
            rw [not_or, Classical.not_not, Classical.not_not] at hmismatch
            obtain ⟨hhead, hprefix⟩ := hmismatch
            obtain ⟨rest, rfl⟩ := List.head?_eq_some_iff.mp hhead
            obtain ⟨tail, rfl⟩ := isPrefixOf_iff.mp hprefix
            simp only [List.length_cons, List.length_append] at hlength ⊢
            rw [sub_of_le (by omega), Option.bind_some, add_of_le (by omega), Option.bind_some,
              sliceFrom_of_le (by simp; omega)]
            rfl

theorem runSecretRegistryPath_eq (documentedMount actualMount path : Str) :
    runSecretRegistryPath documentedMount actualMount path =
      some (secretRegistryPath documentedMount actualMount path) := by
  unfold runSecretRegistryPath secretRegistryPath
  cases validateMountPath documentedMount with
  | error e => rfl
  | ok documented =>
    match documented with
    | [] => rfl
    | first :: second :: rest => rfl
    | [documented] =>
      dsimp only [List.length_singleton]
      rw [if_neg (not_not_intro rfl)]
      cases hmount : validateMountPath actualMount with
      | error e => rfl
      | ok mount =>
        cases hpath : validateEndpointPath path with
        | error e => rfl
        | ok segments =>
          have hlength := (validateEndpointPath_segments hpath).1
          have hlimit : maxPathSegments + 1 ≤ usizeMax := by decide
          have hslice := @slice_eq_some_iff _ segments mount 0 (Nat.zero_le _)
          rw [Nat.zero_add, List.drop_zero, ← List.isPrefixOf_iff_prefix] at hslice
          dsimp only
          change _ = some (if _ then _ else _)
          by_cases hmatches : mount.isPrefixOf segments = true
          · rw [if_neg (not_not_intro hmatches), if_neg (not_not_intro (hslice.mpr hmatches))]
            obtain ⟨tail, rfl⟩ := isPrefixOf_iff.mp hmatches
            rw [List.length_append] at hlength
            rw [List.length_append, sub_of_le (by omega), Option.bind_some, add_of_le (by omega),
              Option.bind_some, sliceFrom_of_le (by simp)]
            rfl
          · rw [if_pos hmatches, if_pos (mt hslice.mp hmatches)]

theorem runRegistered_eq (scopePrefix registryPath wirePath : Str) :
    runRegistered scopePrefix registryPath wirePath =
      some (RegisteredRouteBinding.registered scopePrefix registryPath wirePath) := by
  unfold runRegistered RegisteredRouteBinding.registered
  cases validateEndpointPath registryPath with
  | error e => rfl
  | ok registry =>
    cases validateEndpointPath wirePath with
    | error e => rfl
    | ok wire =>
      dsimp only
      change _ = some (if _ then _ else if _ then _ else _)
      by_cases hsame : registry = wire
      · rw [if_pos hsame, if_pos hsame]
        rfl
      rw [if_neg hsame, if_neg hsame]
      by_cases hidentity : scopePrefix = "/identity/".toList ∧ 1 < registry.length ∧
          registry.head? = some "identity".toList
      · obtain ⟨hscope, hlength, hhead⟩ := hidentity
        rw [if_pos ⟨hscope, hlength, hhead⟩, sub_of_le (by omega), Option.bind_some,
          sliceFrom_of_le (by omega), List.drop_one]
        by_cases hlonger : registry.length - 1 < wire.length
        · rw [if_pos hlonger, Option.bind_some]
          by_cases hsuffix : registry.tail.isSuffixOf wire = true
          · rw [if_pos hsuffix, if_pos ⟨hscope, hlength, hhead, hlonger, hsuffix⟩]
            rfl
          · rw [if_neg hsuffix, if_neg fun h => hsuffix h.2.2.2.2]
        · rw [if_neg hlonger, if_neg fun h => hlonger h.2.2.2.1]
      · rw [if_neg hidentity, if_neg fun h => hidentity ⟨h.1, h.2.1, h.2.2.1⟩]

/-- A registry path has exactly the tail of its wire path, the bindings do not panic, and
behind one mount distinct tails have distinct registry paths, but for the marked form of a
bare tail. -/
theorem registryPath_binds :
    (∀ documentedMount documented, validateMountPath documentedMount = .ok [documented] →
      (∀ actualMount path registryPath,
        authRegistryPath documentedMount actualMount path = .ok registryPath ↔
          ∃ mount tail, validateMountPath actualMount = .ok mount ∧
            validateEndpointPath path = .ok ("auth".toList :: (mount ++ tail)) ∧
              registryPath = join '/' ("auth".toList :: documented :: tail)) ∧
      (∀ actualMount path registryPath,
        secretRegistryPath documentedMount actualMount path = .ok registryPath ↔
          ∃ mount tail, validateMountPath actualMount = .ok mount ∧
            validateEndpointPath path = .ok (mount ++ tail) ∧
              registryPath = join '/' (documented :: markedTail tail)) ∧
      (∀ actualMount mount path path' tail tail', validateMountPath actualMount = .ok mount →
        validateEndpointPath path = .ok ("auth".toList :: (mount ++ tail)) →
        validateEndpointPath path' = .ok ("auth".toList :: (mount ++ tail')) →
          (authRegistryPath documentedMount actualMount path =
            authRegistryPath documentedMount actualMount path' ↔ tail = tail')) ∧
      ∀ actualMount mount path path' tail tail', validateMountPath actualMount = .ok mount →
        validateEndpointPath path = .ok (mount ++ tail) →
        validateEndpointPath path' = .ok (mount ++ tail') →
          (secretRegistryPath documentedMount actualMount path =
              secretRegistryPath documentedMount actualMount path' ↔
            tail = tail' ∨ BareTail tail ∧ tail' = tail ++ [rootMarker] ∨
              BareTail tail' ∧ tail = tail' ++ [rootMarker])) ∧
    (∀ scopePrefix registryPath wirePath,
      RegisteredRouteBinding.registered scopePrefix registryPath wirePath =
          .ok (.identityMount registryPath wirePath) ↔
        scopePrefix = "/identity/".toList ∧ ∃ mount tail, mount ≠ [] ∧ tail ≠ [] ∧
          mount ≠ ["identity".toList] ∧
          validateEndpointPath registryPath = .ok ("identity".toList :: tail) ∧
            validateEndpointPath wirePath = .ok (mount ++ tail)) ∧
    (∀ documentedMount actualMount path,
      runAuthRegistryPath documentedMount actualMount path =
          some (authRegistryPath documentedMount actualMount path) ∧
        runSecretRegistryPath documentedMount actualMount path =
          some (secretRegistryPath documentedMount actualMount path)) ∧
    ∀ scopePrefix registryPath wirePath, runRegistered scopePrefix registryPath wirePath =
      some (RegisteredRouteBinding.registered scopePrefix registryPath wirePath) := by
  refine ⟨fun documentedMount documented hd => ⟨fun _ _ _ => authRegistryPath_eq_ok_iff hd,
    fun _ _ _ => secretRegistryPath_eq_ok_iff hd, ?_, ?_⟩,
    fun _ _ _ => registered_eq_identityMount_iff, fun documentedMount actualMount path => ?_,
    runRegistered_eq⟩
  · intro actualMount mount path path' tail tail' hmount hpath hpath'
    exact authRegistryPath_eq_iff hd hmount hpath hpath'
  · intro actualMount mount path path' tail tail' hmount hpath hpath'
    exact secretRegistryPath_eq_iff hd hmount hpath hpath'
  · exact ⟨runAuthRegistryPath_eq _ _ _, runSecretRegistryPath_eq _ _ _⟩

/-- A mount of two segments, one of them `auth`. -/
theorem registryPath_binds_team :
    authRegistryPath "ldap".toList "team/auth".toList "auth/team/auth/login/ann".toList =
        .ok "auth/ldap/login/ann".toList ∧
      (authRegistryPath "ldap".toList "team/auth".toList "auth/team/auth/login/ann".toList =
          authRegistryPath "ldap".toList "team/auth".toList "auth/team/auth/config".toList ↔
        ["login".toList, "ann".toList] = ["config".toList]) ∧
      (secretRegistryPath "kv".toList "team/kv".toList "team/kv/data".toList =
          secretRegistryPath "kv".toList "team/kv".toList "team/kv/data/app".toList ↔
        ["data".toList] = ["data".toList, "app".toList] ∨
          BareTail ["data".toList] ∧ ["data".toList, "app".toList] = ["data".toList] ++ [rootMarker] ∨
            BareTail ["data".toList, "app".toList] ∧
              ["data".toList] = ["data".toList, "app".toList] ++ [rootMarker]) := by
  have hldap : validateMountPath "ldap".toList = .ok ["ldap".toList] := by decide +kernel
  have hkv : validateMountPath "kv".toList = .ok ["kv".toList] := by decide +kernel
  have hteam : validateMountPath "team/auth".toList = .ok ["team".toList, "auth".toList] := by
    decide +kernel
  have hteamKv : validateMountPath "team/kv".toList = .ok ["team".toList, "kv".toList] := by
    decide +kernel
  have hlogin : validateEndpointPath "auth/team/auth/login/ann".toList =
      .ok ("auth".toList :: (["team".toList, "auth".toList] ++ ["login".toList, "ann".toList])) := by
    decide +kernel
  obtain ⟨hauth, -, hauthTails, -⟩ := registryPath_binds.1 _ _ hldap
  obtain ⟨-, -, -, hsecretTails⟩ := registryPath_binds.1 _ _ hkv
  refine ⟨(hauth _ _ _).mpr ⟨_, _, hteam, hlogin, by decide +kernel⟩, ?_, ?_⟩
  · exact hauthTails _ _ _ _ _ _ hteam hlogin (by decide +kernel)
  · exact hsecretTails _ _ _ _ _ _ hteamKv (by decide +kernel) (by decide +kernel)

/-- The root of a mount and the path of its marker share their registry path. -/
theorem registryPath_shared :
    validateEndpointPath "kv".toList = .ok (["kv".toList] ++ []) ∧
      validateEndpointPath "kv/__openbao_root__".toList = .ok (["kv".toList] ++ [rootMarker]) ∧
      secretRegistryPath "kv".toList "kv".toList "kv".toList =
        .ok "kv/__openbao_root__".toList ∧
      secretRegistryPath "kv".toList "kv".toList "kv/__openbao_root__".toList =
        .ok "kv/__openbao_root__".toList := by
  decide +kernel

end OpenBao.RegisteredRoutes
