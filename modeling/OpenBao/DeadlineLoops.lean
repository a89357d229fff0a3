import Mathlib.Data.Nat.Notation
import Mathlib.Tactic.Common

/-!
# Loops with a deadline

A loop that makes attempts until one settles it, and gives up when a failed attempt ends
at or past the deadline. The clock is read once after each failed attempt, and may
go backwards.
-/

namespace OpenBao.DeadlineLoops

/-- The terms of a loop: what it gives up with, and its deadline. -/
structure Terms (β : Type*) where
  timeout : ℕ
  interval : ℕ
  expired : β

/-- What a loop has done within its fuel. -/
structure History (β : Type*) where
  attempts : ℕ
  delays : List ℕ
  outcome : Option β
  deriving DecidableEq

namespace History

variable {β : Type*}

def stopped (b : β) : History β := ⟨1, [], some b⟩

/-- The history with a failed attempt and a delay before it. -/
def prepend (delay : ℕ) (h : History β) : History β :=
  ⟨h.attempts + 1, delay :: h.delays, h.outcome⟩

end History

variable {β : Type*} (terms : Terms β) (attempt : ℕ → Option β) (elapsed : ℕ → ℕ)

/-- The delay requested behind a failed attempt. -/
def Terms.delay (elapsed : ℕ) : ℕ := min terms.interval (terms.timeout - elapsed)

/-- The loop from attempt `i` on; no settlement by an attempt means that it failed. -/
def run : ℕ → ℕ → History β
  | 0, _ => ⟨0, [], none⟩
  | fuel + 1, i =>
    match attempt i with
    | some b => .stopped b
    | none =>
      if terms.timeout ≤ elapsed i then .stopped terms.expired
      else (run fuel (i + 1)).prepend (terms.delay (elapsed i))

/-- A failed attempt with time left. -/
def Continues (i : ℕ) : Prop := attempt i = none ∧ elapsed i < terms.timeout

variable {terms attempt elapsed}

theorem run_of_continues {fuel i : ℕ} (h : Continues terms attempt elapsed i) :
    run terms attempt elapsed (fuel + 1) i =
      (run terms attempt elapsed fuel (i + 1)).prepend (terms.delay (elapsed i)) := by
  rw [run, h.1]
  exact if_neg (Nat.not_le_of_lt h.2)

theorem run_of_attempt {fuel i : ℕ} {b : β} (h : attempt i = some b) :
    run terms attempt elapsed (fuel + 1) i = .stopped b := by
  rw [run, h]

theorem run_of_expired {fuel i : ℕ} (h : attempt i = none) (ht : terms.timeout ≤ elapsed i) :
    run terms attempt elapsed (fuel + 1) i = .stopped terms.expired := by
  rw [run, h]
  exact if_pos ht

/-- The ways in which one attempt goes on. -/
theorem attempt_cases (terms : Terms β) (attempt : ℕ → Option β) (elapsed : ℕ → ℕ) (i : ℕ) :
    (∃ b, attempt i = some b) ∨ (attempt i = none ∧ terms.timeout ≤ elapsed i) ∨
      Continues terms attempt elapsed i := by
  cases h : attempt i with
  | some b => exact .inl ⟨b, rfl⟩
  | none =>
    rcases Nat.lt_or_ge (elapsed i) terms.timeout with ht | ht
    · exact .inr (.inr ⟨h, ht⟩)
    · exact .inr (.inl ⟨rfl, ht⟩)

theorem run_attempts_pos (fuel i : ℕ) : 0 < (run terms attempt elapsed (fuel + 1) i).attempts := by
  rcases attempt_cases terms attempt elapsed i with ⟨b, h⟩ | ⟨h, ht⟩ | h
  · simp [run_of_attempt h, History.stopped]
  · simp [run_of_expired h ht, History.stopped]
  · simp [run_of_continues h, History.prepend]

/-- No delay is longer than the interval or than the time that was left. -/
theorem run_delay_le {fuel i j d : ℕ}
    (h : (run terms attempt elapsed fuel i).delays[j]? = some d) :
    d ≤ terms.interval ∧ d ≤ terms.timeout - elapsed (i + j) := by
  induction fuel generalizing i j with
  | zero => simp [run] at h
  | succ fuel ih =>
    rcases attempt_cases terms attempt elapsed i with ⟨b, ha⟩ | ⟨ha, ht⟩ | hc
    · simp [run_of_attempt ha, History.stopped] at h
    · simp [run_of_expired ha ht, History.stopped] at h
    · rw [run_of_continues hc] at h
      cases j with
      | zero =>
        simp only [History.prepend, List.getElem?_cons_zero, Option.some.injEq] at h
        exact h ▸ ⟨Nat.min_le_left .., Nat.min_le_right ..⟩
      | succ j =>
        simp only [History.prepend, List.getElem?_cons_succ] at h
        have hd := ih h
        rwa [Nat.add_right_comm] at hd

/-- Every attempt but the last failed with time left. -/
theorem run_continues {fuel i j : ℕ}
    (h : j + 1 < (run terms attempt elapsed fuel i).attempts) :
    Continues terms attempt elapsed (i + j) := by
  induction fuel generalizing i j with
  | zero => simp [run] at h
  | succ fuel ih =>
    rcases attempt_cases terms attempt elapsed i with ⟨b, ha⟩ | ⟨ha, ht⟩ | hc
    · simp [run_of_attempt ha, History.stopped] at h
    · simp [run_of_expired ha ht, History.stopped] at h
    · rw [run_of_continues hc] at h
      cases j with
      | zero => exact hc
      | succ j =>
        simp only [History.prepend, Nat.add_lt_add_iff_right] at h
        have hd := ih h
        rwa [Nat.add_right_comm] at hd

/-- A loop ends with what its last attempt gave, or gives up behind it past the deadline. -/
theorem run_outcome {fuel i : ℕ} {b : β}
    (h : (run terms attempt elapsed fuel i).outcome = some b) :
    ∃ last, (run terms attempt elapsed fuel i).attempts = last + 1 ∧
      (attempt (i + last) = some b ∨
        attempt (i + last) = none ∧ terms.timeout ≤ elapsed (i + last) ∧ b = terms.expired) := by
  induction fuel generalizing i with
  | zero => simp [run] at h
  | succ fuel ih =>
    rcases attempt_cases terms attempt elapsed i with ⟨c, ha⟩ | ⟨ha, ht⟩ | hc
    · rw [run_of_attempt ha] at h ⊢
      exact ⟨0, rfl, .inl (ha.trans h)⟩
    · rw [run_of_expired ha ht] at h ⊢
      exact ⟨0, rfl, .inr ⟨ha, ht, (Option.some.inj h).symm⟩⟩
    · rw [run_of_continues hc] at h ⊢
      obtain ⟨last, hlast, hend⟩ := ih h
      refine ⟨last + 1, by rw [History.prepend, hlast], ?_⟩
      rwa [Nat.add_right_comm] at hend

/-- An attempt that settles the loop ends it, if every earlier one failed with time left. -/
theorem run_settles {fuel i k : ℕ} {b : β} (hk : k < fuel) (hb : attempt (i + k) = some b)
    (hearlier : ∀ j < k, Continues terms attempt elapsed (i + j)) :
    (run terms attempt elapsed fuel i).outcome = some b ∧
      (run terms attempt elapsed fuel i).attempts = k + 1 := by
  induction k generalizing fuel i with
  | zero =>
    obtain ⟨fuel, rfl⟩ : ∃ f, fuel = f + 1 := ⟨fuel - 1, by omega⟩
    rw [run_of_attempt (i := i) hb]
    exact ⟨rfl, rfl⟩
  | succ k ih =>
    obtain ⟨fuel, rfl⟩ : ∃ f, fuel = f + 1 := ⟨fuel - 1, by omega⟩
    rw [run_of_continues (i := i) (hearlier 0 (Nat.succ_pos k))]
    have hstep : ∀ j, i + 1 + j = i + (j + 1) := fun j => by omega
    have hrest := @ih fuel (i + 1) (by omega) (by rwa [hstep]) fun j hj => by
      rw [hstep]
      exact hearlier (j + 1) (by omega)
    exact ⟨hrest.1, by rw [History.prepend, hrest.2]⟩

end OpenBao.DeadlineLoops
