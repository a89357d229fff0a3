import Mathlib.Algebra.GroupWithZero.Nat

/-!
# Decimal numerals

The numerals without a needless zero are those that `Nat.toDigits` writes, so that such a
numeral is known from its value.
-/

namespace OpenBao.DecimalNumerals

/-- Digits, where a zero stands in front of no other digit. -/
structure Canonical (digits : List Char) : Prop where
  nonempty : digits ≠ []
  digit : ∀ c ∈ digits, c.isDigit = true
  leading : digits.head? = some '0' → digits = ['0']

variable {digits : List Char} {c : Char} {n k : ℕ}

theorem toNat_of_isDigit (h : c.isDigit = true) : 48 ≤ c.toNat ∧ c.toNat ≤ 57 := by
  simpa [Char.isDigit, UInt32.le_iff_toNat_le] using h

/-- A digit is the numeral of its value. -/
theorem toDigits_of_isDigit (h : c.isDigit = true) :
    Nat.toDigits 10 (c.toNat - '0'.toNat) = [c] := by
  have hrange := toNat_of_isDigit h
  have hzero : '0'.toNat = 48 := rfl
  rw [Nat.toDigits_of_lt_base (by omega), List.singleton_inj]
  apply Char.toNat_inj.mp
  rw [Nat.toNat_digitChar_of_lt_ten (by omega)]
  omega

theorem isDigit_of_mem_toDigits (h : c ∈ Nat.toDigits 10 n) : c.isDigit = true :=
  Nat.isDigit_of_mem_toDigits (by decide) (by decide) h

/-- More digits behind a numeral that is not zero. -/
theorem toDigits_append (hn : 0 < n) (h : ∀ c ∈ digits, c.isDigit = true) :
    Nat.toDigits 10 n ++ digits = Nat.toDigits 10 (Nat.ofDigitChars 10 digits n) := by
  induction digits generalizing n with
  | nil => rw [List.append_nil, Nat.ofDigitChars_nil]
  | cons c digits ih =>
    obtain ⟨hc, hdigits⟩ := List.forall_mem_cons.mp h
    have hrange := toNat_of_isDigit hc
    have hzero : '0'.toNat = 48 := rfl
    have hone := Nat.toDigits_append_toDigits (by decide : 1 < 10) hn
      (by omega : c.toNat - '0'.toNat < 10)
    rw [toDigits_of_isDigit hc] at hone
    rw [Nat.ofDigitChars_cons, ← ih (by omega) hdigits, ← hone, List.append_assoc,
      List.singleton_append]

/-- A canonical numeral is written by its value. -/
theorem Canonical.toDigits_ofDigitChars (h : Canonical digits) :
    Nat.toDigits 10 (Nat.ofDigitChars 10 digits 0) = digits := by
  cases digits with
  | nil => exact absurd rfl h.nonempty
  | cons c rest =>
    obtain ⟨hc, hrest⟩ := List.forall_mem_cons.mp h.digit
    by_cases hzero : c = '0'
    · rw [h.leading (by rw [List.head?_cons, hzero])]
      rfl
    · have hrange := toNat_of_isDigit hc
      have hchar : '0'.toNat = 48 := rfl
      have hpos : c.toNat ≠ 48 := fun heq => hzero (Char.toNat_inj.mp heq)
      rw [Nat.ofDigitChars_cons, Nat.mul_zero, Nat.zero_add, ← toDigits_append (by omega) hrest,
        toDigits_of_isDigit hc, List.singleton_append]

theorem canonical_toDigits (n : ℕ) : Canonical (Nat.toDigits 10 n) where
  nonempty := Nat.toDigits_ne_nil
  digit _ := isDigit_of_mem_toDigits
  leading := by
    induction n using Nat.strongRecOn with
    | ind n ih =>
      intro hhead
      by_cases hn : n < 10
      · rw [Nat.toDigits_of_lt_base hn] at hhead ⊢
        rw [Option.some.inj hhead]
      · rw [Nat.toDigits_of_base_le (by decide) (by omega), List.head?_append,
          List.head?_eq_some_head Nat.toDigits_ne_nil, Option.some_or] at hhead
        have hfront := ih (n / 10) (by omega) ((List.head?_eq_some_head _).trans hhead)
        have hvalue := congrArg (Nat.ofDigitChars 10 · 0) hfront
        simp only [Nat.ofDigitChars_ten_toDigits] at hvalue
        have hzero : Nat.ofDigitChars 10 ['0'] 0 = 0 := rfl
        omega

theorem length_toDigits_le (hk : 0 < k) (h : n < 10 ^ k) : (Nat.toDigits 10 n).length ≤ k :=
  (Nat.length_toDigits_le_iff (by decide) hk).mpr h

end OpenBao.DecimalNumerals
