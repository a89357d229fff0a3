import OpenBao.Utf8Text
import Mathlib.Data.List.SplitBy

/-!
# Percent coding and form coding

Bytes written as ASCII text: a byte that may not stand for itself is a percent sign and two
hexadecimal digits. A form is a list of pairs of such texts in which a plus sign is a space.
-/

namespace OpenBao.PercentCoding
open DelimitedLists Utf8Text

def hexDigit (n : ℕ) : Char := if n < 10 then Char.ofNat (0x30 + n) else Char.ofNat (0x37 + n)

def hexValue (c : Char) : Option ℕ :=
  let n := c.toNat
  if 0x30 ≤ n ∧ n ≤ 0x39 then some (n - 0x30)
  else if 0x41 ≤ n ∧ n ≤ 0x46 then some (n - 0x37)
  else if 0x61 ≤ n ∧ n ≤ 0x66 then some (n - 0x57)
  else none

def percentEncodeByte (byte : UInt8) : Str :=
  ['%', hexDigit (byte.toNat / 16), hexDigit (byte.toNat % 16)]

/-- Bytes of the class `keep` stand for themselves. -/
def encodeByte (keep : UInt8 → Bool) (byte : UInt8) : Str :=
  if keep byte then [Char.ofNat byte.toNat] else percentEncodeByte byte

def percentEncode (keep : UInt8 → Bool) (bytes : Bytes) : Str := bytes.flatMap (encodeByte keep)

def percentDecode : Str → Bytes
  | '%' :: a :: b :: rest =>
    match hexValue a, hexValue b with
    | some x, some y => UInt8.ofNat (16 * x + y) :: percentDecode rest
    | _, _ => 0x25 :: percentDecode (a :: b :: rest)
  | c :: rest => asBytes [c] ++ percentDecode rest
  | [] => []

section Digits

variable {n : ℕ}

theorem hexValue_hexDigit (h : n < 16) : hexValue (hexDigit n) = some n := by
  have hall : ∀ n : Fin 16, hexValue (hexDigit n) = some (n : ℕ) := by decide
  exact hall ⟨n, h⟩

/-- A character that is no hexadecimal digit is not written. -/
theorem hexDigit_ne {c : Char} (h : n < 16) (hc : hexValue c = none) : hexDigit n ≠ c := by
  intro heq
  rw [← heq, hexValue_hexDigit h] at hc
  cases hc

end Digits

/-- A byte that stands for itself has to be ASCII and no percent sign. -/
structure Plain (keep : UInt8 → Bool) (byte : UInt8) : Prop where
  ascii : keep byte = true → byte.toNat < 128
  noPercent : keep byte = true → byte ≠ 0x25

variable {keep : UInt8 → Bool} {byte : UInt8} {bytes : Bytes} {rest : Str}

theorem percentDecode_percentEncodeByte :
    percentDecode (percentEncodeByte byte ++ rest) = byte :: percentDecode rest := by
  have hbyte : byte.toNat < 256 := UInt8.toNat_lt_size byte
  change percentDecode ('%' :: hexDigit (byte.toNat / 16) :: hexDigit (byte.toNat % 16) :: rest) = _
  have hvalue : 16 * (byte.toNat / 16) + byte.toNat % 16 = byte.toNat := by omega
  rw [percentDecode, hexValue_hexDigit (by omega), hexValue_hexDigit (by omega)]
  simp only [hvalue, UInt8.ofNat_toNat]

theorem percentDecode_cons {c : Char} (h : c ≠ '%') :
    percentDecode (c :: rest) = asBytes [c] ++ percentDecode rest := by
  rw [percentDecode]
  rintro a b tail rfl
  exact absurd rfl h

theorem toNat_ofNat_toNat (h : byte.toNat < 128) : (Char.ofNat byte.toNat).toNat = byte.toNat := by
  have hall : ∀ n : Fin 128, (Char.ofNat n).toNat = (n : ℕ) := by decide +kernel
  exact hall ⟨byte.toNat, h⟩

theorem asBytes_ofNat_toNat (h : byte.toNat < 128) : asBytes [Char.ofNat byte.toNat] = [byte] := by
  have hchar := toNat_ofNat_toNat h
  have hutf8 := @utf8EncodeChar_ascii (Char.ofNat byte.toNat) (by omega)
  rw [asBytes, List.flatMap_singleton, hutf8, asciiByte, hchar, UInt8.ofNat_toNat]

theorem ofNat_toNat_ne {c : Char} (h : byte.toNat < 128) (hc : byte.toNat ≠ c.toNat) :
    Char.ofNat byte.toNat ≠ c := by
  intro heq
  rw [← heq, toNat_ofNat_toNat h] at hc
  exact hc rfl

/-- A byte reads back as itself, whatever stands behind it. -/
theorem percentDecode_encodeByte (h : Plain keep byte) :
    percentDecode (encodeByte keep byte ++ rest) = byte :: percentDecode rest := by
  unfold encodeByte
  split
  · next hkeep =>
    have hascii := h.ascii hkeep
    have hpercent : Char.ofNat byte.toNat ≠ '%' := by
      refine ofNat_toNat_ne hascii fun heq => h.noPercent hkeep ?_
      exact UInt8.toNat_inj.mp heq
    rw [List.singleton_append, percentDecode_cons hpercent, asBytes_ofNat_toNat hascii,
      List.singleton_append]
  · exact percentDecode_percentEncodeByte

theorem percentDecode_percentEncode (h : ∀ byte ∈ bytes, Plain keep byte) :
    percentDecode (percentEncode keep bytes) = bytes := by
  induction bytes with
  | nil => rfl
  | cons byte bytes ih =>
    rw [List.forall_mem_cons] at h
    change percentDecode (encodeByte keep byte ++ percentEncode keep bytes) = _
    rw [percentDecode_encodeByte h.1, ih h.2]

/-- What stands in an encoded text: percent signs, hexadecimal digits and the bytes that were
kept. -/
theorem not_mem_percentEncode {c : Char} (hc : hexValue c = none) (hpercent : c ≠ '%')
    (h : ∀ byte ∈ bytes, keep byte = true → Char.ofNat byte.toNat ≠ c) :
    c ∉ percentEncode keep bytes := by
  intro hmem
  obtain ⟨byte, hbyte, hin⟩ := List.mem_flatMap.mp hmem
  have hsize : byte.toNat < 256 := UInt8.toNat_lt_size byte
  unfold encodeByte at hin
  split at hin
  · next hkeep => exact h byte hbyte hkeep (List.mem_singleton.mp hin).symm
  · simp only [percentEncodeByte, List.mem_cons, List.not_mem_nil, or_false] at hin
    rcases hin with heq | heq | heq
    · exact hpercent heq
    · exact hexDigit_ne (by omega) hc heq.symm
    · exact hexDigit_ne (by omega) hc heq.symm

/-! ### Forms -/

/-- The bytes that stand for themselves in a form. -/
def byteSerializedUnchanged (byte : UInt8) : Bool :=
  isAsciiAlphanumeric byte || byte == 0x2a || byte == 0x2d || byte == 0x2e || byte == 0x5f

def serializeByte (byte : UInt8) : Str :=
  if byte == 0x20 then ['+'] else encodeByte byteSerializedUnchanged byte

/-- The pieces of `form_urlencoded::byte_serialize`: runs of unchanged bytes, and every other
byte by itself. -/
def byteSerialize (bytes : Bytes) : List Str :=
  (bytes.splitBy fun a b => byteSerializedUnchanged a && byteSerializedUnchanged b).map
    fun run => run.flatMap serializeByte

/-- A component of a form as it is written. -/
def formComponent (bytes : Bytes) : Str := bytes.flatMap serializeByte

theorem byteSerialize_flatten (bytes : Bytes) : (byteSerialize bytes).flatten = formComponent bytes := by
  rw [byteSerialize, formComponent, ← List.flatMap_def]
  conv_rhs => rw [← @List.flatten_splitBy _ (fun a b => byteSerializedUnchanged a &&
    byteSerializedUnchanged b) bytes, ← List.flatMap_id, List.flatMap_assoc]
  rfl

def formPair (pair : Bytes × Bytes) : Str := formComponent pair.1 ++ '=' :: formComponent pair.2

/-- Pairs joined by ampersands. -/
def serializeForm (pairs : List (Bytes × Bytes)) : Str := join '&' (pairs.map formPair)

def plusToSpace (c : Char) : Char := if c = '+' then ' ' else c

def readComponent (text : Str) : Bytes := percentDecode (text.map plusToSpace)

/-- A piece without an equals sign is a name with an empty value. -/
def readPair (piece : Str) : Bytes × Bytes :=
  match splitOnce '=' piece with
  | some (name, value) => (readComponent name, readComponent value)
  | none => (readComponent piece, [])

/-- How a form is read. Empty pieces are skipped. -/
def parseForm (text : Str) : List (Bytes × Bytes) :=
  ((text.splitOn '&').filter (· ≠ [])).map readPair

theorem plain_unchanged (byte : UInt8) : Plain byteSerializedUnchanged byte := by
  have hall : ∀ n : Fin 256, byteSerializedUnchanged (UInt8.ofNat n) = true →
      (n : ℕ) < 128 ∧ (n : ℕ) ≠ 0x25 := by decide +kernel
  have hbyte := hall ⟨byte.toNat, UInt8.toNat_lt_size byte⟩
  rw [UInt8.ofNat_toNat] at hbyte
  exact ⟨fun h => (hbyte h).1, fun h heq => (hbyte h).2 (congrArg UInt8.toNat heq)⟩

/-- The characters with a meaning in a form are not written for themselves. -/
theorem unchanged_ne {byte : UInt8} (h : byteSerializedUnchanged byte = true) {c : Char}
    (hc : c ∈ ['&', '=', ':', '+']) : Char.ofNat byte.toNat ≠ c := by
  have hall : ∀ n : Fin 256, byteSerializedUnchanged (UInt8.ofNat n) = true →
      Char.ofNat n ∉ ['&', '=', ':', '+'] := by decide +kernel
  have hbyte := hall ⟨byte.toNat, UInt8.toNat_lt_size byte⟩
  rw [UInt8.ofNat_toNat] at hbyte
  rintro rfl
  exact hbyte h hc

theorem not_mem_serializeByte {c : Char} (hc : c ∈ ['&', '=', ':']) (byte : UInt8) :
    c ∉ serializeByte byte := by
  have hcases : hexValue c = none ∧ c ≠ '%' ∧ c ≠ '+' ∧ c ∈ ['&', '=', ':', '+'] := by
    simp only [List.mem_cons, List.not_mem_nil, or_false] at hc
    rcases hc with rfl | rfl | rfl
    · decide
    · decide
    · decide
  obtain ⟨hhex, hpercent, hplus, hmeaning⟩ := hcases
  unfold serializeByte
  split
  · exact fun hmem => hplus (List.mem_singleton.mp hmem)
  · have hencoded := @not_mem_percentEncode byteSerializedUnchanged [byte] c hhex hpercent
      fun _ _ hkeep => unchanged_ne hkeep hmeaning
    rwa [percentEncode, List.flatMap_singleton] at hencoded

theorem not_mem_formComponent {c : Char} (hc : c ∈ ['&', '=', ':']) (bytes : Bytes) :
    c ∉ formComponent bytes := by
  intro hmem
  obtain ⟨byte, -, hin⟩ := List.mem_flatMap.mp hmem
  exact not_mem_serializeByte hc byte hin

theorem map_plusToSpace {text : Str} (h : '+' ∉ text) : text.map plusToSpace = text := by
  conv_rhs => rw [← List.map_id text]
  refine List.map_congr_left fun c hc => if_neg ?_
  rintro rfl
  exact h hc

theorem readComponent_formComponent (bytes : Bytes) : readComponent (formComponent bytes) = bytes := by
  induction bytes with
  | nil => rfl
  | cons byte bytes ih =>
    have hrest : percentDecode ((formComponent bytes).map plusToSpace) = bytes := ih
    rw [readComponent, formComponent, List.flatMap_cons, List.map_append, ← formComponent]
    unfold serializeByte
    split
    · next hspace =>
      rw [beq_iff_eq] at hspace
      rw [List.map_singleton, plusToSpace, if_pos rfl, List.singleton_append,
        percentDecode_cons (by decide), hrest, hspace]
      rfl
    · have hplus : '+' ∉ encodeByte byteSerializedUnchanged byte := by
        have hencoded := @not_mem_percentEncode byteSerializedUnchanged [byte] '+' rfl (by decide)
          fun _ _ hkeep => unchanged_ne hkeep (by decide)
        rwa [percentEncode, List.flatMap_singleton] at hencoded
      rw [map_plusToSpace hplus, percentDecode_encodeByte (plain_unchanged byte), hrest]

theorem readPair_formPair (pair : Bytes × Bytes) : readPair (formPair pair) = pair := by
  have hname := not_mem_formComponent (show '=' ∈ ['&', '=', ':'] by decide) pair.1
  rw [readPair, formPair, splitOnce_append hname]
  simp only [readComponent_formComponent]

theorem formPair_ne_nil (pair : Bytes × Bytes) : formPair pair ≠ [] := by
  simp [formPair]

/-- A form reads back as its pairs, whatever bytes they are made of. -/
theorem parseForm_serializeForm (pairs : List (Bytes × Bytes)) :
    parseForm (serializeForm pairs) = pairs := by
  by_cases hempty : pairs = []
  · rw [hempty]
    rfl
  · have hamp : ∀ piece ∈ pairs.map formPair, '&' ∉ piece := by
      intro piece hpiece
      obtain ⟨pair, -, rfl⟩ := List.mem_map.mp hpiece
      have hname := not_mem_formComponent (show '&' ∈ ['&', '=', ':'] by decide) pair.1
      have hvalue := not_mem_formComponent (show '&' ∈ ['&', '=', ':'] by decide) pair.2
      simp [formPair, hname, hvalue]
    have hfilter : (pairs.map formPair).filter (· ≠ []) = pairs.map formPair := by
      refine List.filter_eq_self.mpr fun piece hpiece => ?_
      obtain ⟨pair, -, rfl⟩ := List.mem_map.mp hpiece
      exact decide_eq_true (formPair_ne_nil pair)
    rw [parseForm, serializeForm, join, List.splitOn_intercalate '&' hamp (by simpa using hempty),
      hfilter, List.map_map]
    conv_rhs => rw [← List.map_id pairs]
    exact List.map_congr_left fun pair _ => readPair_formPair pair

end OpenBao.PercentCoding
