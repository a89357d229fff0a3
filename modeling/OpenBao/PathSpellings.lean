import OpenBao.PathValidation

/-!
# Spellings of a path

The accepted language in terms of bytes and slashes, and the canonical form of a path: its
segments joined by single slashes.
-/

namespace OpenBao.PathValidation
open DelimitedLists Utf8Text

/-- The text spells the segments: without the slashes at its ends it is their list. -/
structure Spells (value : Str) (segments : List Str) : Prop where
  length : byteLen value ≤ 4096
  ascii : ∀ byte ∈ asBytes value, byte < 0x80
  plain : ∀ byte ∈ asBytes value, isAsciiControl byte = false
  unambiguous : ∀ c ∈ value, c ∉ [' ', '%', '\\', '?', '#']
  text : trimMatches (· == '/') value = join '/' segments
  count : segments.length ≤ 64
  segment : ∀ s ∈ segments, s ≠ [] ∧ '/' ∉ s ∧ s.getLast? ≠ some '.'

variable {value other : Str} {segments more : List Str}

theorem allowedChar_iff {c : Char} (h : c.toNat < 128) :
    allowedChar c = true ↔
      isAsciiControl (asciiByte c) = false ∧ c ∉ [' ', '%', '\\', '?', '#'] := by
  have hspace := @asciiByte_beq c ' ' h (by decide)
  have hpercent := @asciiByte_beq c '%' h (by decide)
  have hbackslash := @asciiByte_beq c '\\' h (by decide)
  have hquestion := @asciiByte_beq c '?' h (by decide)
  have hnumber := @asciiByte_beq c '#' h (by decide)
  rw [show asciiByte ' ' = 0x20 from rfl] at hspace
  rw [show asciiByte '%' = 0x25 from rfl] at hpercent
  rw [show asciiByte '\\' = 0x5c from rfl] at hbackslash
  rw [show asciiByte '?' = 0x3f from rfl] at hquestion
  rw [show asciiByte '#' = 0x23 from rfl] at hnumber
  simp only [allowedChar, pathByteIsForbidden, h, decide_true, Bool.true_and, Bool.not_eq_true',
    Bool.or_eq_false_iff, List.mem_cons, List.not_mem_nil, or_false, not_or, ← hspace, ← hpercent,
    ← hbackslash, ← hquestion, ← hnumber, Bool.not_eq_true, and_assoc]

/-- The characters of a path are allowed when its bytes are. -/
theorem allowed_iff : (∀ c ∈ value, allowedChar c = true) ↔
    (∀ byte ∈ asBytes value, byte < 0x80) ∧ (∀ byte ∈ asBytes value, isAsciiControl byte = false) ∧
      ∀ c ∈ value, c ∉ [' ', '%', '\\', '?', '#'] := by
  by_cases hascii : isAscii value = true
  · have hsmall := isAscii_iff.mp hascii
    have hbytes : ∀ byte ∈ asBytes value, byte < 0x80 := by
      intro byte hbyte
      simpa using List.all_eq_true.mp hascii byte hbyte
    rw [and_iff_right hbytes, asBytes_eq_map hascii]
    simp only [List.forall_mem_map]
    rw [← forall₂_and]
    exact forall₂_congr fun c hc => allowedChar_iff (hsmall c hc)
  · refine iff_of_false (fun h => hascii ?_) fun h => hascii ?_
    · refine isAscii_iff.mpr fun c hc => ?_
      have hc := h c hc
      simp only [allowedChar, Bool.and_eq_true, decide_eq_true_eq] at hc
      exact hc.1
    · exact List.all_eq_true.mpr fun byte hbyte => by simpa using h.1 byte hbyte

theorem canonicalSegments_iff (hallowed : ∀ c ∈ value, allowedChar c = true)
    (htext : trimMatches (· == '/') value = join '/' segments) (hne : segments ≠ []) :
    CanonicalSegments segments ↔
      segments.length ≤ 64 ∧ ∀ s ∈ segments, s ≠ [] ∧ '/' ∉ s ∧ s.getLast? ≠ some '.' := by
  constructor
  · intro h
    refine ⟨h.count, fun s hs => ?_⟩
    have hsegment := h.segment s hs
    exact ⟨hsegment.nonempty, hsegment.noSlash, hsegment.noFinalPeriod⟩
  · rintro ⟨hcount, hsegments⟩
    refine ⟨⟨hne, fun s hs => ?_⟩, hcount⟩
    obtain ⟨hnonempty, hslash, hperiod⟩ := hsegments s hs
    refine ⟨hnonempty, fun c hc => ?_, hslash, hperiod⟩
    have hjoined : c ∈ join '/' segments := mem_intercalate_iff.mpr (.inl ⟨s, hs, hc⟩)
    rw [← htext] at hjoined
    exact hallowed c ((trimMatches_sublist _ _).subset hjoined)

theorem validateEndpointPath_eq_ok_iff :
    validateEndpointPath value = .ok segments ↔ Spells value segments := by
  rw [validateEndpointPath, validatePath_eq_ok_iff, allowed_iff]
  constructor
  · rintro ⟨hlength, hbytes, htext, hsegments⟩
    have hallowed := allowed_iff.mpr hbytes
    have hcut : segments.length ≤ 64 ∧
        ∀ s ∈ segments, s ≠ [] ∧ '/' ∉ s ∧ s.getLast? ≠ some '.' := by
      rcases hsegments with ⟨rfl, -⟩ | hcanonical
      · exact ⟨Nat.zero_le _, by simp⟩
      · exact (canonicalSegments_iff hallowed htext hcanonical.nonempty).mp hcanonical
    exact ⟨hlength, hbytes.1, hbytes.2.1, hbytes.2.2, htext, hcut.1, hcut.2⟩
  · intro h
    have hbytes := And.intro h.ascii (And.intro h.plain h.unambiguous)
    refine ⟨h.length, hbytes, h.text, ?_⟩
    by_cases hne : segments = []
    · exact .inl ⟨hne, rfl⟩
    · exact .inr ((canonicalSegments_iff (allowed_iff.mpr hbytes) h.text hne).mpr
        ⟨h.count, h.segment⟩)

theorem validateEndpointPath_idem (h : validateEndpointPath value = .ok segments) :
    validateEndpointPath (join '/' segments) = .ok segments := by
  by_cases hne : segments = []
  · subst hne
    rfl
  · have hmount := validateMountPath_idem (validateMountPath_eq_ok_iff.mpr ⟨h, hne⟩)
    exact (validateMountPath_eq_ok_iff.mp hmount).1

/-- Distinct segment lists have distinct canonical forms. -/
theorem join_inj (h : validateEndpointPath value = .ok segments)
    (hmore : validateEndpointPath other = .ok more) :
    segments = more ↔ join '/' segments = join '/' more := by
  refine ⟨fun heq => by rw [heq], fun heq => ?_⟩
  have hidem := validateEndpointPath_idem h
  rw [heq, validateEndpointPath_idem hmore] at hidem
  exact (Except.ok.inj hidem).symm

theorem Spells.segment_plain (h : Spells value segments) {s : Str} (hs : s ∈ segments) :
    s ≠ ".".toList ∧ s ≠ "..".toList ∧ '/' ∉ s := by
  obtain ⟨-, hslash, hperiod⟩ := h.segment s hs
  refine ⟨?_, ?_, hslash⟩
  · rintro rfl
    exact hperiod rfl
  · rintro rfl
    exact hperiod rfl

/-- A path is accepted exactly when it spells a list of segments. The list is returned, its
joined form is accepted with the same result and determines it, and no segment is relative. -/
theorem validatePath_exact :
    (∀ value segments, validateMountPath value = .ok segments ↔
      Spells value segments ∧ 1 ≤ segments.length) ∧
    (∀ value segments, validateEndpointPath value = .ok segments ↔ Spells value segments) ∧
    (∀ value segments, validateMountPath value = .ok segments →
      validateMountPath (join '/' segments) = .ok segments) ∧
    (∀ value segments, validateEndpointPath value = .ok segments →
      validateEndpointPath (join '/' segments) = .ok segments) ∧
    (∀ value other segments more, validateEndpointPath value = .ok segments →
      validateEndpointPath other = .ok more →
        (segments = more ↔ join '/' segments = join '/' more)) ∧
    ∀ value segments, validateEndpointPath value = .ok segments →
      ∀ s ∈ segments, s ≠ ".".toList ∧ s ≠ "..".toList ∧ '/' ∉ s := by
  refine ⟨fun value segments => ?_, fun _ _ => validateEndpointPath_eq_ok_iff,
    fun _ _ h => validateMountPath_idem h, fun _ _ h => validateEndpointPath_idem h,
    fun _ _ _ _ h hmore => join_inj h hmore, fun value segments h s hs => ?_⟩
  · rw [validateMountPath_eq_ok_iff, validateEndpointPath_eq_ok_iff]
    exact and_congr_right fun _ => List.length_pos_iff.symm
  · exact (validateEndpointPath_eq_ok_iff.mp h).segment_plain hs

/-- Slashes around a path do not count. -/
theorem validatePath_exact_slashes :
    validateMountPath "//kv/app/".toList = .ok ["kv".toList, "app".toList] ∧
      validateMountPath (join '/' ["kv".toList, "app".toList]) =
        .ok ["kv".toList, "app".toList] := by
  have haccepted : validateMountPath "//kv/app/".toList = .ok ["kv".toList, "app".toList] := by
    decide +kernel
  exact ⟨haccepted, validatePath_exact.2.2.1 _ _ haccepted⟩

end OpenBao.PathValidation
