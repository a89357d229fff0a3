import OpenBao.DecimalNumerals
import OpenBao.DelimitedLists
import Mathlib.Data.Finset.Attr

/-!
# Text and bytes as the client handles them

A Rust `str` is the list of its Unicode scalar values, a byte slice the list of
its bytes, and `asBytes` is UTF-8. The byte classes are those of Rust's `u8`
methods. They differ from other languages': vertical tab is a control byte here,
but no ASCII white space.
-/

namespace OpenBao.Utf8Text
open DecimalNumerals DelimitedLists

abbrev Str := List Char
abbrev Bytes := List UInt8

instance : LawfulBEq Str := inferInstance
instance : LawfulBEq Bytes := inferInstance

/-- Turns a string literal into its characters without evaluating `String.toList`. -/
theorem toList_eq_of {s : String} {l : Str} (h : s = String.ofList l) : s.toList = l := by
  rw [h, String.toList_ofList]

def asBytes (s : Str) : Bytes := s.flatMap String.utf8EncodeChar

/-- `str::len`, in bytes. -/
def byteLen (s : Str) : ℕ := (asBytes s).length

/-- `core::str::from_utf8`. -/
def fromUtf8 (bs : Bytes) : Option Str := (ByteArray.utf8Decode? bs.toByteArray).map Array.toList

@[simp] theorem asBytes_nil : asBytes [] = [] := rfl

@[simp] theorem asBytes_append (s t : Str) : asBytes (s ++ t) = asBytes s ++ asBytes t := by
  simp [asBytes]

theorem asBytes_flatten (ss : List Str) : asBytes ss.flatten = (ss.map asBytes).flatten := by
  induction ss with
  | nil => rfl
  | cons s ss ih => rw [List.flatten_cons, asBytes_append, ih, List.map_cons, List.flatten_cons]

@[simp] theorem fromUtf8_asBytes (s : Str) : fromUtf8 (asBytes s) = some s := by
  have h : (asBytes s).toByteArray = s.utf8Encode := by rw [List.utf8Encode, asBytes]
  rw [fromUtf8, h]
  simp

/-- Bytes are read as the text whose bytes they are. -/
theorem fromUtf8_eq_some_iff {bs : Bytes} {s : Str} : fromUtf8 bs = some s ↔ bs = asBytes s := by
  constructor
  · intro h
    obtain ⟨chars, hchars, rfl⟩ := Option.map_eq_some_iff.mp h
    have hsome : (ByteArray.utf8Decode? bs.toByteArray).isSome = true := by
      rw [hchars]
      rfl
    have hencode := ByteArray.utf8Encode_get_utf8Decode? (b := bs.toByteArray) (h := hsome)
    have hget : (ByteArray.utf8Decode? bs.toByteArray).get hsome = chars := by
      simp only [hchars, Option.get_some]
    rw [hget, List.utf8Encode] at hencode
    exact (List.toByteArray_inj.mp hencode).symm
  · rintro rfl
    exact fromUtf8_asBytes s

theorem asBytes_injective : Function.Injective asBytes := by
  intro s t h
  have hh := congrArg fromUtf8 h
  simpa using hh

@[simp] theorem asBytes_inj {s t : Str} : asBytes s = asBytes t ↔ s = t := asBytes_injective.eq_iff

@[simp] theorem byteLen_append (s t : Str) : byteLen (s ++ t) = byteLen s + byteLen t := by
  simp [byteLen]

/-- `u8::is_ascii_whitespace`. -/
def isAsciiWhitespace (b : UInt8) : Bool :=
  b == 0x20 || b == 0x09 || b == 0x0a || b == 0x0c || b == 0x0d

def isAsciiControl (b : UInt8) : Bool := b < 0x20 || b == 0x7f

def isAsciiDigit (b : UInt8) : Bool := 0x30 ≤ b && b ≤ 0x39

def isAsciiAlphabetic (b : UInt8) : Bool := 0x41 ≤ b && b ≤ 0x5a || 0x61 ≤ b && b ≤ 0x7a

def isAsciiAlphanumeric (b : UInt8) : Bool := isAsciiAlphabetic b || isAsciiDigit b

def toAsciiLowercase (b : UInt8) : UInt8 := if 0x41 ≤ b && b ≤ 0x5a then b + 0x20 else b

def eqIgnoreAsciiCase (a b : UInt8) : Bool := toAsciiLowercase a == toAsciiLowercase b

/-- `str::is_ascii`. -/
def isAscii (s : Str) : Bool := (asBytes s).all (· < 0x80)

/-- `char::is_whitespace`, the Unicode property `White_Space`. -/
def isWhitespace (c : Char) : Bool :=
  let n := c.toNat
  9 ≤ n && n ≤ 13 || n == 0x20 || n == 0x85 || n == 0xa0 || n == 0x1680 ||
    0x2000 ≤ n && n ≤ 0x200a || n == 0x2028 || n == 0x2029 || n == 0x202f || n == 0x205f ||
    n == 0x3000

/-- `str::trim`. -/
def trim (s : Str) : Str := trimMatches isWhitespace s

/-- `<[_]>::join` with a one-character separator. -/
def join (d : Char) (segments : List Str) : Str := [d].intercalate segments

def asciiByte (c : Char) : UInt8 := UInt8.ofNat c.toNat

theorem toNat_asciiByte {c : Char} (h : c.toNat < 128) : (asciiByte c).toNat = c.toNat := by
  rw [asciiByte, UInt8.toNat_ofNat', Nat.mod_eq_of_lt (by omega)]

theorem asciiByte_beq {c d : Char} (hc : c.toNat < 128) (hd : d.toNat < 128) :
    (asciiByte c == asciiByte d) = true ↔ c = d := by
  rw [beq_iff_eq, ← UInt8.toNat_inj, toNat_asciiByte hc, toNat_asciiByte hd, Char.toNat_inj]

theorem isAsciiDigit_asciiByte {c : Char} (h : c.toNat < 128) :
    isAsciiDigit (asciiByte c) = c.isDigit := by
  have hlow : (0x30 : UInt8).toNat = 48 := rfl
  have hhigh : (0x39 : UInt8).toNat = 57 := rfl
  rw [Bool.eq_iff_iff]
  simp only [isAsciiDigit, Char.isDigit, Bool.and_eq_true, decide_eq_true_eq, ge_iff_le,
    UInt8.le_iff_toNat_le, UInt32.le_iff_toNat_le, toNat_asciiByte h, hlow, hhigh]
  exact Iff.rfl

theorem toNat_asciiByte_sub {c : Char} (h : c.isDigit = true) :
    (asciiByte c - 0x30).toNat = c.toNat - '0'.toNat := by
  have hrange := toNat_of_isDigit h
  have hbyte := @toNat_asciiByte c (by omega)
  have hlow : (0x30 : UInt8).toNat = 48 := rfl
  rw [UInt8.toNat_sub_of_le _ _ (by rw [UInt8.le_iff_toNat_le]; omega), hbyte, hlow]
  rfl

theorem utf8EncodeChar_ascii {c : Char} (h : c.toNat < 128) :
    String.utf8EncodeChar c = [asciiByte c] := by
  have hv : c.toNat ≤ 127 := by omega
  simp [String.utf8EncodeChar, hv, asciiByte]

theorem all_utf8EncodeChar_lt_iff (c : Char) :
    (String.utf8EncodeChar c).all (· < 0x80) = true ↔ c.toNat < 128 := by
  constructor
  · intro h
    by_contra hc
    have hv : ¬ c.val.toNat ≤ 127 := by
      have : c.val.toNat = c.toNat := rfl
      omega
    have hm := c.val.toNat_lt
    simp only [String.utf8EncodeChar, hv, if_false] at h
    split at h
    · simp [UInt8.lt_iff_toNat_lt] at h
      omega
    · split at h
      · simp [UInt8.lt_iff_toNat_lt] at h
        omega
      · simp [UInt8.lt_iff_toNat_lt] at h
        omega
  · intro h
    rw [utf8EncodeChar_ascii h]
    simp [asciiByte, UInt8.lt_iff_toNat_lt]
    omega

theorem isAscii_iff {s : Str} : isAscii s = true ↔ ∀ c ∈ s, c.toNat < 128 := by
  rw [isAscii, asBytes, List.all_flatMap, List.all_eq_true]
  exact forall₂_congr fun c _ => all_utf8EncodeChar_lt_iff c

/-- ASCII text has one byte for each character. -/
theorem asBytes_eq_map {s : Str} (h : isAscii s = true) : asBytes s = s.map asciiByte := by
  rw [isAscii_iff] at h
  induction s with
  | nil => rfl
  | cons c s ih =>
    have hc := utf8EncodeChar_ascii (h c (by simp))
    have hs := ih (fun d hd => h d (List.mem_cons_of_mem _ hd))
    simp only [asBytes, List.flatMap_cons, hc, List.map_cons] at hs ⊢
    simp [hs]

theorem byteLen_eq_length {s : Str} (h : isAscii s = true) : byteLen s = s.length := by
  simp [byteLen, asBytes_eq_map h]

theorem isAscii_of_isDigit {s : Str} (h : ∀ c ∈ s, c.isDigit = true) : isAscii s = true := by
  rw [isAscii_iff]
  intro c hc
  have hrange := toNat_of_isDigit (h c hc)
  omega

/-- The bytes of a text are digits exactly when its characters are. -/
theorem all_isAsciiDigit_iff {s : Str} :
    (asBytes s).all isAsciiDigit = true ↔ ∀ c ∈ s, c.isDigit = true := by
  have hmap : isAscii s = true →
      ((asBytes s).all isAsciiDigit = true ↔ ∀ c ∈ s, c.isDigit = true) := by
    intro hascii
    rw [asBytes_eq_map hascii, List.all_map, List.all_eq_true]
    refine forall₂_congr fun c hc => ?_
    rw [Function.comp_apply, isAsciiDigit_asciiByte (isAscii_iff.mp hascii c hc)]
  constructor
  · intro h
    refine (hmap ?_).mp h
    rw [isAscii, List.all_eq_true]
    intro byte hbyte
    have hdigit := List.all_eq_true.mp h byte hbyte
    have hhigh : (0x39 : UInt8).toNat = 57 := rfl
    have hbound : (0x80 : UInt8).toNat = 128 := rfl
    simp only [isAsciiDigit, Bool.and_eq_true, decide_eq_true_eq, UInt8.le_iff_toNat_le] at hdigit
    rw [decide_eq_true_eq, UInt8.lt_iff_toNat_lt]
    omega
  · intro h
    exact (hmap (isAscii_of_isDigit h)).mpr h

/-! ### Numbers -/

/-- `u64::to_string`. -/
def decimal (n : ℕ) : Str := (toString n).toList

theorem decimal_eq_toDigits (n : ℕ) : decimal n = Nat.toDigits 10 n := by
  rw [decimal, Nat.toString_eq_repr, Nat.toList_repr]

theorem decimal_ne_nil (n : ℕ) : decimal n ≠ [] := by
  rw [decimal_eq_toDigits]
  exact Nat.toDigits_ne_nil

theorem isDigit_of_mem_decimal {n : ℕ} {c : Char} (h : c ∈ decimal n) : c.isDigit = true := by
  rw [decimal_eq_toDigits] at h
  exact isDigit_of_mem_toDigits h

theorem ofDigitChars_decimal (n : ℕ) : Nat.ofDigitChars 10 (decimal n) 0 = n := by
  rw [decimal_eq_toDigits, Nat.ofDigitChars_ten_toDigits]

theorem mem_splitOn_trim {d c : Char} {s : Str} (h : c ∈ s) (hd : c ≠ d)
    (hc : isWhitespace c = false) : ∃ p ∈ s.splitOn d, c ∈ trim p := by
  obtain ⟨p, hp, hm⟩ := exists_mem_splitOn h hd
  exact ⟨p, hp, mem_trimMatches hm hc⟩

end OpenBao.Utf8Text
