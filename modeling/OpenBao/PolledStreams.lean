import Mathlib.Algebra.GroupWithZero.Nat
import Mathlib.Data.List.Infix

/-!
# Streams that are polled

A stream answers a poll with nothing yet, with its next item or with its end. Polls can
be repeated after the end. A run is given by the number of polls so far.
-/

namespace OpenBao.PolledStreams

inductive Poll (α : Type) where
  | pending
  | ready (a : α)
  deriving DecidableEq, Repr

variable {σ ι : Type}

/-- The item of an answer. -/
def Poll.item? : Poll (Option ι) → Option ι
  | .ready (some item) => some item
  | _ => none

section
variable (poll : σ → Poll (Option ι) × σ) (start : σ)

/-- The stream after some polls. -/
def stateAfter : ℕ → σ
  | 0 => start
  | n + 1 => (poll (stateAfter n)).2

/-- The answer to the poll after `n` polls. -/
def answer (n : ℕ) : Poll (Option ι) := (poll (stateAfter poll start n)).1

/-- What the first `n` polls have yielded. -/
def items (n : ℕ) : List ι := (List.range n).filterMap fun k => (answer poll start k).item?

end

variable {poll : σ → Poll (Option ι) × σ} {start : σ}

@[simp] theorem items_zero : items poll start 0 = [] := rfl

theorem items_succ (n : ℕ) :
    items poll start (n + 1) = items poll start n ++ (answer poll start n).item?.toList := by
  rw [items, items, List.range_succ, List.filterMap_append]
  cases h : (answer poll start n).item? <;> simp [h]

/-- A property that every poll preserves holds from the poll on where it holds. -/
theorem stateAfter_invariant {P : σ → Prop} {n : ℕ} (h : P (stateAfter poll start n))
    (hpoll : ∀ s, P s → P (poll s).2) {m : ℕ} (hm : n ≤ m) : P (stateAfter poll start m) := by
  induction m, hm using Nat.le_induction with
  | base => exact h
  | succ m _ ih => exact hpoll _ ih

end OpenBao.PolledStreams
