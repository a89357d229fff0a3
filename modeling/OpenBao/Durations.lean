import Mathlib.Order.Lattice
import OpenBao.BinaryRounding

/-!
# Lengths of time

Whole seconds and a fraction in nanoseconds, as one saturating count of nanoseconds, and
their products with floating point numbers.
-/

namespace Durations
open BinaryRounding

def nanosPerSec : ℕ := 1000000000
def secsMax : ℕ := 2 ^ 64 - 1

/-- A number of seconds in 64 bits, and a fraction below one second. -/
structure Duration where
  secs : ℕ
  nanos : ℕ
  secs_le : secs ≤ secsMax
  nanos_lt : nanos < nanosPerSec

namespace Duration

def asNanos (d : Duration) : ℕ := d.secs * nanosPerSec + d.nanos

def zero : Duration := ⟨0, 0, by decide, by decide⟩

/-- The longest duration. -/
def max : Duration := ⟨secsMax, nanosPerSec - 1, by decide, by decide⟩

def isZero (d : Duration) : Bool := d.secs == 0 && d.nanos == 0

/-- As many nanoseconds as fit. -/
def saturating (n : ℕ) : Duration :=
  if h : n / nanosPerSec ≤ secsMax then
    ⟨n / nanosPerSec, n % nanosPerSec, h, Nat.mod_lt _ (by decide)⟩
  else max

def fromSecs (n : ℕ) : Duration := saturating (n * nanosPerSec)
def fromNanos (n : ℕ) : Duration := saturating n
def saturatingAdd (d e : Duration) : Duration := saturating (d.asNanos + e.asNanos)
def saturatingMul (d : Duration) (k : ℕ) : Duration := saturating (d.asNanos * k)

/-- The seconds and the fraction are each converted, and their sum is rounded again. -/
def asSecsF64 (d : Duration) : ℚ := binary64 (binary64 d.secs + binary64 (d.nanos / nanosPerSec))

/-- To the nearest nanosecond; nothing for a negative number or one beyond the longest. -/
def fromSecsF64 (q : ℚ) : Option Duration :=
  if 0 ≤ q ∧ roundHalfEven (q * nanosPerSec) ≤ max.asNanos then
    some (saturating (roundHalfEven (q * nanosPerSec)))
  else none

/-- By a non-negative factor; panics, as nothing, where the product is no duration. -/
def mulF64 (d : Duration) (factor : ℚ) : Option Duration :=
  fromSecsF64 (binary64 (factor * d.asSecsF64))

variable {d e : Duration} {n k : ℕ}

theorem asNanos_injective : Function.Injective asNanos := by
  intro d e h
  obtain ⟨secs, nanos, hsecs, hnanos⟩ := d
  obtain ⟨secs', nanos', hsecs', hnanos'⟩ := e
  simp only [asNanos, nanosPerSec] at h hnanos hnanos'
  obtain rfl : secs = secs' := by omega
  obtain rfl : nanos = nanos' := by omega
  rfl

/-- Durations are ordered by their length. -/
instance : LinearOrder Duration := LinearOrder.lift' asNanos asNanos_injective

theorem le_iff_asNanos : d ≤ e ↔ d.asNanos ≤ e.asNanos := Iff.rfl

theorem asNanos_le_max (d : Duration) : d.asNanos ≤ max.asNanos := by
  have hsecs := d.secs_le
  have hnanos := d.nanos_lt
  simp only [asNanos, max, secsMax, nanosPerSec] at hsecs hnanos ⊢
  omega

theorem asNanos_saturating (n : ℕ) : (saturating n).asNanos = min n max.asNanos := by
  unfold saturating
  split_ifs with h
  · simp only [asNanos, max, secsMax, nanosPerSec] at h ⊢
    omega
  · simp only [asNanos, max, secsMax, nanosPerSec] at h ⊢
    omega

theorem asNanos_saturating_of_le (h : n ≤ max.asNanos) : (saturating n).asNanos = n := by
  rw [asNanos_saturating, min_eq_left h]

theorem asNanos_fromNanos (h : n < 2 ^ 64) : (fromNanos n).asNanos = n := by
  apply asNanos_saturating_of_le
  simp only [asNanos, max, secsMax, nanosPerSec]
  omega

theorem asNanos_min (d e : Duration) : (min d e).asNanos = min d.asNanos e.asNanos := by
  rcases le_total d e with h | h
  · rw [min_eq_left h, min_eq_left (le_iff_asNanos.mp h)]
  · rw [min_eq_right h, min_eq_right (le_iff_asNanos.mp h)]

theorem isZero_iff : d.isZero = true ↔ d.asNanos = 0 := by
  simp only [isZero, asNanos, nanosPerSec, Bool.and_eq_true, beq_iff_eq]
  omega

theorem asSecsF64_nonneg (d : Duration) : 0 ≤ d.asSecsF64 := binary64_nonneg _

theorem asSecsF64_le (h : d.secs ≤ 2 ^ k) : d.asSecsF64 ≤ 2 ^ (k + 1) := by
  have hsecs : binary64 d.secs ≤ 2 ^ k := binary64_le (by exact_mod_cast h)
  have hfraction : (d.nanos : ℚ) / nanosPerSec ≤ 2 ^ 0 := by
    rw [pow_zero, div_le_one (by norm_num [nanosPerSec])]
    exact_mod_cast d.nanos_lt.le
  have hone := binary64_le hfraction
  apply binary64_le
  have hpower : (1 : ℚ) ≤ 2 ^ k := one_le_pow₀ one_le_two
  rw [pow_succ]
  linarith

theorem fromSecsF64_of_le {q : ℚ} (hpos : 0 ≤ q) (hle : q ≤ n) (hn : n ≤ secsMax) :
    ∃ e, fromSecsF64 q = some e ∧ e.asNanos ≤ n * nanosPerSec := by
  have hnanos : roundHalfEven (q * nanosPerSec) ≤ n * nanosPerSec := by
    apply roundHalfEven_le
    rw [Nat.cast_mul]
    exact mul_le_mul_of_nonneg_right hle (Nat.cast_nonneg _)
  have hmax : n * nanosPerSec ≤ max.asNanos := by
    simp only [asNanos, max, nanosPerSec]
    omega
  refine ⟨_, if_pos ⟨hpos, hnanos.trans hmax⟩, ?_⟩
  rwa [asNanos_saturating_of_le (hnanos.trans hmax)]

/-- A product with a factor of at most one is at most twice as long, up to a power of two. -/
theorem mulF64_of_le {factor : ℚ} (hle : factor ≤ 1) (h : d.secs ≤ 2 ^ k)
    (hk : 2 ^ (k + 1) ≤ secsMax) :
    ∃ e, d.mulF64 factor = some e ∧ e.asNanos ≤ 2 ^ (k + 1) * nanosPerSec := by
  have hsecs := asSecsF64_le h
  have hproduct : factor * d.asSecsF64 ≤ 2 ^ (k + 1) :=
    (mul_le_of_le_one_left d.asSecsF64_nonneg hle).trans hsecs
  apply fromSecsF64_of_le (binary64_nonneg _) _ hk
  exact_mod_cast binary64_le hproduct

end Duration

end Durations
