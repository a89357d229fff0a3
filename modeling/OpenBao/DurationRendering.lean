import OpenBao.BootstrapDurations
import OpenBao.DurationGrammar
import OpenBao.Durations

/-!
# Rendering durations

Durations are written with the components that are not zero, which is what the validator of
duration parameters asks for. Reading a rendered duration back gives its seconds, rounded up.
-/

namespace OpenBao.DurationText
open BootstrapDurations Durations Utf8Text

/-- A component that is pushed only when it is not zero. -/
def pushComponent (output : Str) (value : ℕ) (unit : Char) : Str :=
  if 0 < value then output ++ decimal value ++ [unit] else output

def durationToBaoString (duration : Duration) : Str :=
  let totalSeconds :=
    if 0 < duration.nanos then min (duration.secs + 1) u64Max else duration.secs
  if totalSeconds = 0 then "0s".toList
  else
    let hours := totalSeconds / 3600
    let minutes := totalSeconds % 3600 / 60
    let seconds := totalSeconds % 60
    pushComponent (pushComponent (pushComponent [] hours 'h') minutes 'm') seconds 's'

def nonzeroDurationToBaoString (duration : Duration) (field : String) : Except Error Str :=
  if duration.isZero then .error (.invalidParameter (field ++ " duration must be non-zero"))
  else .ok (durationToBaoString duration)

/-- The whole seconds of a duration, rounded up, as far as a `u64` goes. -/
def roundedSeconds (duration : Duration) : ℕ :=
  min ((duration.asNanos + 999999999) / 1000000000) u64Max

variable {duration : Duration} {output digits : Str} {value number : ℕ} {unit : Char}

theorem totalSeconds_eq (duration : Duration) :
    (if 0 < duration.nanos then min (duration.secs + 1) u64Max else duration.secs) =
      roundedSeconds duration := by
  have hsecs := duration.secs_le
  have hnanos := duration.nanos_lt
  simp only [roundedSeconds, Duration.asNanos, u64Max, secsMax, nanosPerSec] at hsecs hnanos ⊢
  split_ifs <;> omega

theorem roundedSeconds_eq_zero_iff : roundedSeconds duration = 0 ↔ duration.asNanos = 0 := by
  unfold roundedSeconds u64Max
  omega

theorem roundedSeconds_mono {other : Duration} (h : duration ≤ other) :
    roundedSeconds duration ≤ roundedSeconds other := by
  have hle := Duration.le_iff_asNanos.mp h
  unfold roundedSeconds
  omega

/-! ## Reading a rendered component -/

theorem componentSeconds_digits {rest : Str} (h : ∀ c ∈ digits, c.isDigit = true)
    (hunit : unit.isDigit = false) :
    componentSeconds number (digits ++ unit :: rest) =
      Nat.ofDigitChars 10 digits number * unitSeconds unit + componentSeconds 0 rest := by
  induction digits generalizing number with
  | nil =>
    rw [List.nil_append, componentSeconds, hunit, Nat.ofDigitChars_nil]
    rfl
  | cons c digits ih =>
    obtain ⟨hc, hdigits⟩ := List.forall_mem_cons.mp h
    rw [List.cons_append, componentSeconds, if_pos hc, ih hdigits, Nat.ofDigitChars_cons,
      Nat.mul_comm number]

/-- The text of a component. -/
def component (value : ℕ) (unit : Char) : Str := pushComponent [] value unit

theorem pushComponent_eq (output : Str) (value : ℕ) (unit : Char) :
    pushComponent output value unit = output ++ component value unit := by
  unfold component pushComponent
  split_ifs
  · rw [List.nil_append, List.append_assoc]
  · rw [List.append_nil]

theorem componentSeconds_component {rest : Str} (hunit : unit.isDigit = false) :
    componentSeconds 0 (component value unit ++ rest) =
      value * unitSeconds unit + componentSeconds 0 rest := by
  unfold component pushComponent
  split_ifs with hvalue
  · have hdigits : ∀ c ∈ decimal value, c.isDigit = true := fun c hc => isDigit_of_mem_decimal hc
    have hread := @componentSeconds_digits _ 0 _ rest hdigits hunit
    rw [ofDigitChars_decimal] at hread
    rwa [List.nil_append, List.append_assoc, List.singleton_append]
  · obtain rfl : value = 0 := by omega
    rw [List.nil_append, Nat.zero_mul, Nat.zero_add]

/-- A component within the limit is accepted, and left out when it is zero. -/
theorem part_component (h : value ≤ maxDurationComponent) :
    Part false unit (component value unit) := by
  unfold component pushComponent
  rw [List.nil_append]
  split_ifs with hvalue
  · refine .component ⟨decimal_ne_nil value, fun c hc => isDigit_of_mem_decimal hc, ?_, fun _ => ?_⟩
    · rwa [ofDigitChars_decimal]
    · rw [ofDigitChars_decimal]
      exact Nat.ne_of_gt hvalue
  · exact .absent

/-! ## Rendered durations -/

theorem durationToBaoString_eq (duration : Duration) :
    durationToBaoString duration =
      if roundedSeconds duration = 0 then "0s".toList
      else component (roundedSeconds duration / 3600) 'h' ++
        component (roundedSeconds duration % 3600 / 60) 'm' ++
          component (roundedSeconds duration % 60) 's' := by
  unfold durationToBaoString
  rw [totalSeconds_eq]
  dsimp only
  split_ifs
  · rfl
  · rw [pushComponent_eq, pushComponent_eq _ (roundedSeconds duration % 3600 / 60)]
    rfl

theorem durationSeconds_durationToBaoString (duration : Duration) :
    durationSeconds (durationToBaoString duration) = roundedSeconds duration := by
  rw [durationToBaoString_eq]
  split_ifs with hzero
  · rw [hzero]
    rfl
  · have hseconds := @componentSeconds_component (roundedSeconds duration % 60) 's' [] rfl
    rw [List.append_nil] at hseconds
    rw [durationSeconds, List.append_assoc, componentSeconds_component rfl,
      componentSeconds_component rfl, hseconds]
    rw [show unitSeconds 'h' = 3600 from rfl, show unitSeconds 'm' = 60 from rfl,
      show unitSeconds 's' = 1 from rfl, show componentSeconds 0 [] = 0 from rfl]
    omega

theorem component_ne_nil (h : 0 < value) : component value unit ≠ [] := by
  rw [component, pushComponent, if_pos h]
  exact List.append_ne_nil_of_right_ne_nil _ (List.cons_ne_nil _ _)

theorem isDuration_durationToBaoString (hzero : roundedSeconds duration ≠ 0)
    (h : roundedSeconds duration ≤ maxDurationComponent * 3600) :
    IsDuration false (durationToBaoString duration) := by
  rw [durationToBaoString_eq, if_neg hzero]
  unfold maxDurationComponent at h
  refine ⟨fun hnil => hzero ?_, _, _, _, part_component ?_, part_component ?_, part_component ?_, rfl⟩
  · simp only [List.append_eq_nil_iff] at hnil
    obtain ⟨⟨hhours, hminutes⟩, hseconds⟩ := hnil
    have hhours := mt component_ne_nil (not_not_intro hhours)
    have hminutes := mt component_ne_nil (not_not_intro hminutes)
    have hseconds := mt component_ne_nil (not_not_intro hseconds)
    omega
  · unfold maxDurationComponent
    omega
  · unfold maxDurationComponent
    omega
  · unfold maxDurationComponent
    omega

/-- A duration other than zero, of at most 8760000 hours, is accepted. -/
theorem validateDurationString_durationToBaoString (hzero : duration ≠ .zero)
    (h : duration.asNanos ≤ 8760000 * 3600 * nanosPerSec) :
    validateDurationString (durationToBaoString duration) false = true := by
  apply validateDurationString_iff.mpr
  apply isDuration_durationToBaoString
  · intro hrounded
    exact hzero (Duration.asNanos_injective (roundedSeconds_eq_zero_iff.mp hrounded))
  · unfold nanosPerSec at h
    unfold roundedSeconds maxDurationComponent
    omega

theorem nonzeroDurationToBaoString_eq_ok_iff {field : String} {text : Str} :
    nonzeroDurationToBaoString duration field = .ok text ↔
      duration ≠ .zero ∧ durationToBaoString duration = text := by
  have hzero : duration.isZero = true ↔ duration = .zero := by
    rw [Duration.isZero_iff, ← Duration.asNanos_injective.eq_iff]
    rfl
  unfold nonzeroDurationToBaoString
  split_ifs with h
  · exact iff_of_false (fun h => nomatch h) fun hne => hne.1 (hzero.mp h)
  · rw [Except.ok.injEq, and_iff_right fun heq => h (hzero.mpr heq)]

/-- Rendering is a right inverse of reading, up to the rounding, and what it renders within
the limit is accepted. -/
theorem durationToBaoString_law :
    (∀ duration, durationSeconds (durationToBaoString duration) = roundedSeconds duration) ∧
    (∀ duration, ∃ hours minutes seconds, minutes < 60 ∧ seconds < 60 ∧
      hours * 3600 + minutes * 60 + seconds = roundedSeconds duration ∧
      durationToBaoString duration = if roundedSeconds duration = 0 then "0s".toList
        else component hours 'h' ++ component minutes 'm' ++ component seconds 's') ∧
    (∀ duration : Duration, duration ≠ .zero → duration.asNanos ≤ 8760000 * 3600 * nanosPerSec →
      validateDurationString (durationToBaoString duration) false = true) ∧
    (durationToBaoString .zero = "0s".toList ∧ validateDurationString "0s".toList true = true ∧
      validateDurationString "0s".toList false = false) ∧
    (∀ duration field text, nonzeroDurationToBaoString duration field = .ok text →
      duration.asNanos ≤ 8760000 * 3600 * nanosPerSec →
        ∀ parameter, validateDurationParameter text parameter = .ok ()) ∧
    (∀ duration other : Duration, duration ≤ other →
      durationSeconds (durationToBaoString duration) ≤
        durationSeconds (durationToBaoString other)) := by
  refine ⟨durationSeconds_durationToBaoString, fun duration => ?_,
    fun _ hzero h => validateDurationString_durationToBaoString hzero h,
    ⟨by decide +kernel, by decide +kernel, by decide +kernel⟩,
    fun duration field text htext h parameter => ?_, fun duration other h => ?_⟩
  · exact ⟨_, _, _, by omega, by omega, by omega, durationToBaoString_eq duration⟩
  · obtain ⟨hzero, rfl⟩ := nonzeroDurationToBaoString_eq_ok_iff.mp htext
    exact validateDurationParameter_eq_ok_iff.mpr
      (validateDurationString_durationToBaoString hzero h)
  · rw [durationSeconds_durationToBaoString, durationSeconds_durationToBaoString]
    exact roundedSeconds_mono h

/-- Ninety seconds and a half. -/
def ninetyAndHalf : Duration := ⟨90, 500000000, by decide, by decide⟩

theorem ninetyAndHalf_rendered :
    nonzeroDurationToBaoString ninetyAndHalf "ttl" = .ok "1m31s".toList ∧
      validateDurationString (durationToBaoString ninetyAndHalf) false = true ∧
      validateDurationParameter "1m31s".toList "ttl" = .ok () ∧
      durationSeconds (durationToBaoString ninetyAndHalf) ≤
        durationSeconds (durationToBaoString .max) := by
  have hzero : ninetyAndHalf ≠ .zero := fun h => nomatch congrArg Duration.secs h
  have hlimit : ninetyAndHalf.asNanos ≤ 8760000 * 3600 * nanosPerSec := by decide
  have hrendered : nonzeroDurationToBaoString ninetyAndHalf "ttl" = .ok "1m31s".toList := by
    decide +kernel
  obtain ⟨-, -, haccepted, -, hparameter, hmono⟩ := durationToBaoString_law
  exact ⟨hrendered, haccepted _ hzero hlimit, hparameter _ _ _ hrendered hlimit "ttl",
    hmono _ _ (ninetyAndHalf.asNanos_le_max)⟩

end OpenBao.DurationText
