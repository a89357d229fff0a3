import OpenBao.ClientErrors
import OpenBao.Utf8Text

/-!
# Duration strings

The scanner behind every TTL parameter, over byte positions as in the source.
Component arithmetic is that of `u64`: an overflowing step rejects the string.
-/

namespace OpenBao.DurationText
open DelimitedLists Utf8Text

def maxDurationComponent : ℕ := 8760000
def u64Max : ℕ := 2 ^ 64 - 1

/-- `u64` arithmetic that yields nothing on overflow. -/
def checked (n : ℕ) : Option ℕ := if n ≤ u64Max then some n else none

/-- The loop of `parse_duration_component` from a value already read. -/
def parseDigits : ℕ → Bytes → Option ℕ
  | component, [] => some component
  | component, digit :: rest =>
    if !isAsciiDigit digit then none
    else (checked (component * 10)).bind fun tens =>
      (checked (tens + (digit - 0x30).toNat)).bind fun component =>
        if maxDurationComponent < component then none else parseDigits component rest

def parseDurationComponent (digits : Bytes) : Option ℕ :=
  if digits = [] then none else parseDigits 0 digits

def unitScale (byte : UInt8) : Option ℕ :=
  if byte == 0x68 then some 0
  else if byte == 0x6d then some 1
  else if byte == 0x73 then some 2
  else none

theorem isAsciiDigit_of_unitScale {byte : UInt8} {scale : ℕ} (h : unitScale byte = some scale) :
    isAsciiDigit byte = false := by
  unfold unitScale at h
  split_ifs at h with hhour hminute hsecond
  · rw [eq_of_beq hhour]
    rfl
  · rw [eq_of_beq hminute]
    rfl
  · rw [eq_of_beq hsecond]
    rfl

/-- The component loop, entered at `index` after a unit of scale `last`. -/
def validateComponents (bytes : Bytes) (allowZero : Bool) (index : ℕ) (last : Option ℕ) : Bool :=
  if _h : index < bytes.length then
    let stop := advanceWhile isAsciiDigit bytes index
    if index = stop then false
    else match parseDurationComponent ((bytes.drop index).take (stop - index)) with
      | none => false
      | some component =>
        if maxDurationComponent < component then false
        else if !allowZero && component == 0 then false
        else match (bytes[stop]?).bind unitScale with
          | none => false
          | some scale =>
            if last.any (scale ≤ ·) then false
            else validateComponents bytes allowZero (stop + 1) (some scale)
  else true
termination_by bytes.length - index
decreasing_by
  have := le_advanceWhile isAsciiDigit bytes index
  omega

def validateDurationString (value : Str) (allowZero : Bool) : Bool :=
  if value = [] then false else validateComponents (asBytes value) allowZero 0 none

def validateDurationParameter (value : Str) (field : String) : Except Error Unit :=
  if validateDurationString value false then .ok ()
  else .error (.invalidParameter (field ++ " must be a positive duration such as 30s, 5m, or 1h"))

theorem validateDurationParameter_eq_ok_iff {value : Str} {field : String} :
    validateDurationParameter value field = .ok () ↔ validateDurationString value false = true := by
  unfold validateDurationParameter
  split <;> simp_all

example : validateDurationString "1h30m".toList false = true := by decide +kernel
example : validateDurationString "1h0m".toList false = false := by decide +kernel

end OpenBao.DurationText
