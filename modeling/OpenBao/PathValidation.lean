import OpenBao.ClientErrors
import OpenBao.Utf8Text

/-!
# Mount and endpoint paths

`validatePath` cuts a caller's path into segments after rejecting ambiguous
bytes. Its specification is the canonical segment list: a path is accepted
exactly when it spells one, and every spelling yields the same list.
-/

namespace OpenBao.PathValidation
open DelimitedLists Utf8Text

def maxPathBytes : ℕ := 4096
def maxPathSegments : ℕ := 64

def pathByteIsForbidden (byte : UInt8) : Bool :=
  isAsciiControl byte || byte == 0x20 || byte == 0x25 || byte == 0x5c || byte == 0x3f ||
    byte == 0x23

/-- The checks behind `value.bytes().any(path_byte_is_forbidden)`. -/
def rejectForbiddenBytes (value : Str) : Except Error Unit :=
  if (asBytes value).any pathByteIsForbidden then
    if (asBytes value).any isAsciiControl then
      .error (.invalidPath "control characters are not allowed")
    else if '%' ∈ value then
      .error (.invalidPath "percent characters are not allowed in OpenBao paths")
    else if (asBytes value).any (· == 0x20) then
      .error (.invalidPath "space characters are not allowed")
    else if '\\' ∈ value ∨ '?' ∈ value ∨ '#' ∈ value then
      .error (.invalidPath "backslash, query, and fragment characters are not allowed")
    else .ok ()
  else .ok ()

/-- The loop over `trimmed.split('/')`. -/
def pushSegments : List Str → List Str → Except Error (List Str)
  | segments, [] => .ok segments
  | segments, segment :: rest =>
    if maxPathSegments ≤ segments.length then
      .error (.invalidPath "path exceeds maximum segment count")
    else if segment = [] then
      .error (.invalidPath "empty path segments are not allowed")
    else if segment = ['.'] ∨ segment = ['.', '.'] then
      .error (.invalidPath "relative path segments are not allowed")
    else if segment.getLast? = some '.' then
      .error (.invalidPath "OpenBao path segments must not end in periods")
    else pushSegments (segments ++ [segment]) rest

/-- The part of `validatePath` behind the byte checks. -/
def cutSegments (trimmed : Str) (allowEmpty : Bool) : Except Error (List Str) :=
  if trimmed = [] then
    if allowEmpty then .ok [] else .error (.invalidPath "path must not be empty")
  else if trimmed.getLast? = some '.' then
    .error (.invalidPath "OpenBao path parameters must not end in periods")
  else pushSegments [] (trimmed.splitOn '/')

def validatePath (value : Str) (allowEmpty : Bool) : Except Error (List Str) :=
  if maxPathBytes < byteLen value then
    .error (.invalidPath "path exceeds maximum allowed length")
  else if !isAscii value then
    .error (.invalidPath "non-ASCII characters are not allowed in OpenBao paths")
  else do
    rejectForbiddenBytes value
    cutSegments (trimMatches (· == '/') value) allowEmpty

def validateMountPath (value : Str) : Except Error (List Str) := validatePath value false

def validateEndpointPath (value : Str) : Except Error (List Str) := validatePath value true

/-- An ASCII character that no path check rejects. -/
def allowedChar (c : Char) : Bool := c.toNat < 128 && !pathByteIsForbidden (asciiByte c)

/-- One segment of an accepted path. -/
structure CanonicalSegment (segment : Str) : Prop where
  nonempty : segment ≠ []
  allowed : ∀ c ∈ segment, allowedChar c = true
  noSlash : '/' ∉ segment
  noFinalPeriod : segment.getLast? ≠ some '.'

/-- Segments that a path can spell, regardless of their number. -/
structure PathSegments (segments : List Str) : Prop where
  nonempty : segments ≠ []
  segment : ∀ s ∈ segments, CanonicalSegment s

/-- The segment lists that validation returns for a non-empty path. -/
structure CanonicalSegments (segments : List Str) : Prop extends PathSegments segments where
  count : segments.length ≤ maxPathSegments

theorem pushSegments_eq_ok_iff {done pieces segments : List Str} :
    pushSegments done pieces = .ok segments ↔
      segments = done ++ pieces ∧ (pieces ≠ [] → done.length + pieces.length ≤ maxPathSegments) ∧
        ∀ p ∈ pieces, p ≠ [] ∧ p.getLast? ≠ some '.' := by
  induction pieces generalizing done with
  | nil => simp [pushSegments, eq_comm]
  | cons p pieces ih =>
    simp only [pushSegments]
    split
    · next h =>
      simp only [reduceCtorEq, List.length_cons, ne_eq, not_false_eq_true, forall_const, false_iff,
        not_and]
      omega
    · split
      · next h => simp [h]
      · split
        · next h => rcases h with rfl | rfl <;> simp
        · split
          · next h => simp [h]
          · next hlen hne hdots hlast =>
            rw [ih]
            simp only [List.append_assoc, List.singleton_append, List.length_append,
              List.mem_cons, forall_eq_or_imp, List.length_cons, List.length_nil]
            constructor
            · rintro ⟨hs, hl, ha⟩
              refine ⟨hs, fun _ => ?_, ⟨hne, hlast⟩, ha⟩
              by_cases hp : pieces = []
              · simp [hp]
                omega
              · have := hl hp
                omega
            · rintro ⟨hs, hl, -, ha⟩
              exact ⟨hs, fun _ => by have := hl (by simp); omega, ha⟩

private theorem rejectForbiddenBytes_eq_ok_iff {value : Str} (h : isAscii value = true) :
    rejectForbiddenBytes value = .ok () ↔ ∀ c ∈ value, allowedChar c = true := by
  have ha := isAscii_iff.mp h
  have hany : (asBytes value).any pathByteIsForbidden = false ↔
      ∀ c ∈ value, allowedChar c = true := by
    rw [asBytes_eq_map h, List.any_map, List.any_eq_false]
    exact forall₂_congr fun c hc => by simp [allowedChar, ha c hc]
  rw [← hany]
  constructor
  · intro hr
    by_contra hf
    rw [Bool.not_eq_false] at hf
    simp only [rejectForbiddenBytes, hf, if_true] at hr
    split at hr
    · simp at hr
    · next hctrl =>
      split at hr
      · simp at hr
      · next hpct =>
        split at hr
        · simp at hr
        · next hspace =>
          split at hr
          · simp at hr
          · next hrest =>
            rw [asBytes_eq_map h, List.any_map] at hf hctrl hspace
            obtain ⟨c, hc, hb⟩ := List.any_eq_true.mp hf
            have hne : ∀ d : Char, d.toNat < 128 → d ∉ value → (asciiByte c == asciiByte d) = false := by
              intro d hd hm
              rw [Bool.eq_false_iff]
              intro he
              exact hm ((asciiByte_beq (ha c hc) hd).mp he ▸ hc)
            have h1 := List.any_eq_false.mp (Bool.eq_false_iff.mpr hctrl) c hc
            have h2 := List.any_eq_false.mp (Bool.eq_false_iff.mpr hspace) c hc
            push Not at hrest
            have h3 := hne '%' (by decide) hpct
            have h4 := hne '\\' (by decide) hrest.1
            have h5 := hne '?' (by decide) hrest.2.1
            have h6 := hne '#' (by decide) hrest.2.2
            have e3 : asciiByte '%' = 0x25 := rfl
            have e4 : asciiByte '\\' = 0x5c := rfl
            have e5 : asciiByte '?' = 0x3f := rfl
            have e6 : asciiByte '#' = 0x23 := rfl
            rw [e3] at h3
            rw [e4] at h4
            rw [e5] at h5
            rw [e6] at h6
            simp only [Function.comp_apply, Bool.not_eq_true] at h1 h2
            simp [pathByteIsForbidden, h1, h2, h3, h4, h5, h6] at hb
  · intro hf
    simp [rejectForbiddenBytes, hf]

private theorem isAscii_of_allowed {value : Str} (h : ∀ c ∈ value, allowedChar c = true) :
    isAscii value = true := by
  rw [isAscii_iff]
  intro c hc
  have := h c hc
  simp only [allowedChar, Bool.and_eq_true, decide_eq_true_eq] at this
  exact this.1

theorem CanonicalSegment.ends {segment : Str} (h : CanonicalSegment segment) :
    (∀ c ∈ segment.head?, (c == '/') = false) ∧ ∀ c ∈ segment.getLast?, (c == '/') = false := by
  have hs : ∀ c ∈ segment, (c == '/') = false := by
    intro c hc
    rw [beq_eq_false_iff_ne]
    rintro rfl
    exact h.noSlash hc
  exact ⟨fun c hc => hs c (List.mem_of_mem_head? hc), fun c hc => hs c (List.mem_of_mem_getLast? hc)⟩

theorem PathSegments.exists_last {segments : List Str} (h : PathSegments segments) :
    ∃ ps q, segments = ps ++ [q] ∧ CanonicalSegment q := by
  have he := List.dropLast_concat_getLast h.nonempty
  exact ⟨_, _, he.symm, h.segment _ (List.getLast_mem h.nonempty)⟩

theorem PathSegments.join_getLast? {segments : List Str} (h : PathSegments segments) :
    ∃ q, CanonicalSegment q ∧ (join '/' segments).getLast? = q.getLast? := by
  obtain ⟨ps, q, rfl, hq⟩ := h.exists_last
  exact ⟨q, hq, getLast?_intercalate hq.nonempty⟩

theorem PathSegments.splitOn_join {segments : List Str} (h : PathSegments segments) :
    (join '/' segments).splitOn '/' = segments :=
  List.splitOn_intercalate '/' (fun _ hp => (h.segment _ hp).noSlash) h.nonempty

/-- Joined canonical segments neither begin nor end with a slash. -/
theorem PathSegments.trimMatches_join {segments : List Str} (h : PathSegments segments) :
    trimMatches (· == '/') (join '/' segments) = join '/' segments := by
  apply trimMatches_eq_self
  · obtain ⟨p, ps, rfl⟩ := List.exists_cons_of_ne_nil h.nonempty
    have hp := h.segment p (by simp)
    rw [join, head?_intercalate hp.nonempty]
    exact hp.ends.1
  · obtain ⟨q, hq, he⟩ := h.join_getLast?
    rw [he]
    exact hq.ends.2

theorem PathSegments.join_ne_nil {segments : List Str} (h : PathSegments segments) :
    join '/' segments ≠ [] := by
  obtain ⟨q, hq, he⟩ := h.join_getLast?
  intro hn
  rw [hn] at he
  exact hq.nonempty (List.getLast?_eq_none_iff.mp he.symm)

theorem PathSegments.allowed_join {segments : List Str} (h : PathSegments segments) :
    ∀ c ∈ join '/' segments, allowedChar c = true := by
  intro c hc
  rcases mem_intercalate_iff.mp hc with ⟨p, hp, hm⟩ | ⟨rfl, -⟩
  · exact (h.segment p hp).allowed c hm
  · decide

private theorem validatePath_eq_cutSegments {value : Str} {allowEmpty : Bool} {segments : List Str} :
    validatePath value allowEmpty = .ok segments ↔
      byteLen value ≤ maxPathBytes ∧ (∀ c ∈ value, allowedChar c = true) ∧
        cutSegments (trimMatches (· == '/') value) allowEmpty = .ok segments := by
  by_cases hlen : maxPathBytes < byteLen value
  · simp only [validatePath, hlen, if_true, reduceCtorEq, false_iff, not_and]
    omega
  by_cases hascii : isAscii value = true
  swap
  · simp only [validatePath, hlen, if_false, hascii, Bool.not_false, if_true, reduceCtorEq,
      false_iff, not_and]
    exact fun _ h => absurd (isAscii_of_allowed h) hascii
  simp only [validatePath, hlen, if_false, hascii, Bool.not_true, Bool.false_eq_true,
    ← rejectForbiddenBytes_eq_ok_iff hascii, show byteLen value ≤ maxPathBytes by omega, true_and]
  cases rejectForbiddenBytes value with
  | error e => simp [bind, Except.bind]
  | ok u => simp [bind, Except.bind]

private theorem cutSegments_eq_ok_iff {trimmed : Str} {allowEmpty : Bool} {segments : List Str}
    (hall : ∀ c ∈ trimmed, allowedChar c = true) :
    cutSegments trimmed allowEmpty = .ok segments ↔
      trimmed = join '/' segments ∧
        (segments = [] ∧ allowEmpty = true ∨ CanonicalSegments segments) := by
  by_cases htrim : trimmed = []
  · subst htrim
    simp only [cutSegments, if_true]
    constructor
    · intro h
      cases allowEmpty with
      | true =>
        simp only [if_true, Except.ok.injEq] at h
        exact ⟨by simp [← h, join], .inl ⟨h.symm, rfl⟩⟩
      | false => simp at h
    · rintro ⟨hj, ⟨rfl, rfl⟩ | hc⟩
      · rfl
      · exact absurd hj.symm hc.join_ne_nil
  simp only [cutSegments, htrim, if_false]
  constructor
  · intro h
    split at h
    · simp at h
    · next hlast =>
      obtain ⟨hs, hcount, hp⟩ := pushSegments_eq_ok_iff.mp h
      rw [List.nil_append] at hs
      subst hs
      refine ⟨(List.intercalate_splitOn '/').symm, .inr ⟨⟨List.splitOn_ne_nil _ _, ?_⟩, ?_⟩⟩
      · intro p hm
        refine ⟨(hp p hm).1, ?_, not_mem_of_mem_splitOn hm, (hp p hm).2⟩
        exact fun c hc => hall c (mem_of_mem_splitOn hm hc)
      · simpa using hcount (List.splitOn_ne_nil _ _)
  · rintro ⟨hj, ⟨rfl, -⟩ | hc⟩
    · exact absurd (by simpa [join] using hj) htrim
    · obtain ⟨q, hq, he⟩ := hc.join_getLast?
      rw [hj, if_neg (by rw [he]; exact hq.noFinalPeriod), hc.splitOn_join,
        pushSegments_eq_ok_iff]
      refine ⟨by simp, fun _ => by simpa using hc.count, ?_⟩
      exact fun p hp => ⟨(hc.segment p hp).nonempty, (hc.segment p hp).noFinalPeriod⟩

/-- Validation accepts a path exactly when its trimmed text spells a canonical
segment list, and it returns that list. -/
theorem validatePath_eq_ok_iff {value : Str} {allowEmpty : Bool} {segments : List Str} :
    validatePath value allowEmpty = .ok segments ↔
      byteLen value ≤ maxPathBytes ∧ (∀ c ∈ value, allowedChar c = true) ∧
        trimMatches (· == '/') value = join '/' segments ∧
          (segments = [] ∧ allowEmpty = true ∨ CanonicalSegments segments) := by
  rw [validatePath_eq_cutSegments]
  refine and_congr_right fun _ => and_congr_right fun hall => cutSegments_eq_ok_iff ?_
  exact fun c hc => hall c ((trimMatches_sublist _ _).subset hc)

theorem validateMountPath_canonical {value : Str} {segments : List Str}
    (h : validateMountPath value = .ok segments) : CanonicalSegments segments := by
  obtain ⟨-, -, -, ⟨-, hf⟩ | hc⟩ := validatePath_eq_ok_iff.mp h
  · exact absurd hf (by simp)
  · exact hc

theorem validateEndpointPath_segments {value : Str} {segments : List Str}
    (h : validateEndpointPath value = .ok segments) :
    segments.length ≤ maxPathSegments ∧ ∀ segment ∈ segments, CanonicalSegment segment := by
  obtain ⟨-, -, -, ⟨rfl, -⟩ | hc⟩ := validatePath_eq_ok_iff.mp h
  · exact ⟨Nat.zero_le _, fun _ h => nomatch h⟩
  · exact ⟨hc.count, hc.segment⟩

/-- Endpoint validation differs from mount validation only in the empty path. -/
theorem validateMountPath_eq_ok_iff {value : Str} {segments : List Str} :
    validateMountPath value = .ok segments ↔
      validateEndpointPath value = .ok segments ∧ segments ≠ [] := by
  rw [validateMountPath, validateEndpointPath, validatePath_eq_ok_iff, validatePath_eq_ok_iff]
  constructor
  · rintro ⟨hb, ha, ht, ⟨-, hf⟩ | hc⟩
    · cases hf
    · exact ⟨⟨hb, ha, ht, .inr hc⟩, hc.nonempty⟩
  · rintro ⟨⟨hb, ha, ht, ⟨hn, -⟩ | hc⟩, hne⟩
    · exact absurd hn hne
    · exact ⟨hb, ha, ht, .inr hc⟩

/-- Joined path segments are accepted within the count and byte limits, and
come back as they were. -/
theorem validateMountPath_join {segments result : List Str} (h : PathSegments segments) :
    validateMountPath (join '/' segments) = .ok result ↔
      result = segments ∧ segments.length ≤ maxPathSegments ∧
        byteLen (join '/' segments) ≤ maxPathBytes := by
  rw [validateMountPath, validatePath_eq_ok_iff, h.trimMatches_join]
  constructor
  · rintro ⟨hb, -, hj, ⟨-, hf⟩ | hc⟩
    · exact absurd hf (by simp)
    · have hs := congrArg (List.splitOn '/') hj
      rw [h.splitOn_join, hc.splitOn_join] at hs
      subst hs
      exact ⟨rfl, hc.count, hb⟩
  · rintro ⟨rfl, hcount, hb⟩
    exact ⟨hb, h.allowed_join, rfl, .inr ⟨h, hcount⟩⟩

/-- The joined form of an accepted path is its own normal form. -/
theorem validateMountPath_idem {value : Str} {segments : List Str}
    (h : validateMountPath value = .ok segments) :
    validateMountPath (join '/' segments) = .ok segments := by
  have hc := validateMountPath_canonical h
  rw [validateMountPath_join hc.toPathSegments]
  refine ⟨rfl, hc.count, ?_⟩
  obtain ⟨hlen, hall, htrim, -⟩ := validatePath_eq_ok_iff.mp h
  rw [byteLen_eq_length (isAscii_of_allowed hall)] at hlen
  rw [byteLen_eq_length (isAscii_of_allowed hc.allowed_join), ← htrim]
  exact (trimMatches_sublist (· == '/') value).length_le.trans hlen

end OpenBao.PathValidation
