import Mathlib.Data.Int.Log
import Mathlib.Data.Rat.Floor
import Mathlib.Tactic.Linarith

/-!
# Rounding to binary floating point

Non-negative rationals rounded to an integer and to 64-bit binary floating point, both to
the nearest with ties to even. A correctly rounded operation is the exact one, rounded.
Exponents are not bounded above.
-/

namespace BinaryRounding

/-- The nearest integer of a non-negative rational, the even one of two. -/
def roundHalfEven (q : ℚ) : ℕ :=
  if q - ⌊q⌋₊ < 1 / 2 then ⌊q⌋₊
  else if 1 / 2 < q - ⌊q⌋₊ then ⌊q⌋₊ + 1
  else if ⌊q⌋₊ % 2 = 0 then ⌊q⌋₊
  else ⌊q⌋₊ + 1

/-- The place of the last of 53 binary digits, or the one of the smallest number. -/
def lastPlace (q : ℚ) : ℤ := max (Int.log 2 q) (-1022) - 52

def binary64 (q : ℚ) : ℚ := roundHalfEven (q / 2 ^ lastPlace q) * 2 ^ lastPlace q

variable {q : ℚ} {n k : ℕ}

theorem roundHalfEven_le_succ (q : ℚ) : roundHalfEven q ≤ ⌊q⌋₊ + 1 := by
  unfold roundHalfEven
  split_ifs <;> omega

/-- Rounding does not pass an integer. -/
theorem roundHalfEven_le (h : q ≤ n) : roundHalfEven q ≤ n := by
  have hfloor : ⌊q⌋₊ ≤ n := Nat.floor_le_of_le h
  obtain hlt | heq := Nat.lt_or_eq_of_le hfloor
  · have hsucc := roundHalfEven_le_succ q
    omega
  · have hnear : q - ⌊q⌋₊ < 1 / 2 := by
      rw [heq]
      linarith
    rw [roundHalfEven, if_pos hnear, heq]

theorem lastPlace_le (h : q ≤ 2 ^ k) : lastPlace q ≤ k - 52 := by
  have hlog : Int.log 2 q ≤ k := by
    obtain hq | hq := le_or_gt q 0
    · rw [Int.log_of_right_le_zero _ hq]
      omega
    · have hmono := Int.log_mono_right (b := 2) hq h
      have hpower : Int.log 2 ((2 : ℚ) ^ k) = k := by
        exact_mod_cast Int.log_zpow (R := ℚ) (b := 2) one_lt_two k
      rwa [hpower] at hmono
  unfold lastPlace
  omega

theorem binary64_nonneg (q : ℚ) : 0 ≤ binary64 q := by
  apply mul_nonneg (Nat.cast_nonneg _)
  exact (zpow_pos two_pos _).le

/-- Rounding does not pass a power of two. -/
theorem binary64_le (h : q ≤ 2 ^ k) : binary64 q ≤ 2 ^ k := by
  have hplace := lastPlace_le h
  have hpos : (0 : ℚ) < 2 ^ lastPlace q := zpow_pos two_pos _
  have hpower : (2 : ℚ) ^ k = ((2 ^ (k - lastPlace q).toNat : ℕ) : ℚ) * 2 ^ lastPlace q := by
    rw [Nat.cast_pow, Nat.cast_ofNat, ← zpow_natCast, ← zpow_natCast, ← zpow_add₀ two_ne_zero]
    congr 1
    omega
  have hquotient : q / 2 ^ lastPlace q ≤ ((2 ^ (k - lastPlace q).toNat : ℕ) : ℚ) := by
    rw [div_le_iff₀ hpos, ← hpower]
    exact h
  have hround : (roundHalfEven (q / 2 ^ lastPlace q) : ℚ) ≤
      ((2 ^ (k - lastPlace q).toNat : ℕ) : ℚ) :=
    Nat.cast_le.mpr (roundHalfEven_le hquotient)
  rw [hpower]
  exact mul_le_mul_of_nonneg_right hround hpos.le

end BinaryRounding
