import Mathlib.Algebra.GroupWithZero.Nat
import Mathlib.Tactic.SplitIfs

/-!
# Operations that may panic

Unchecked arithmetic, indexing and shifts as partial functions: nothing is the panic. A
program written with them that yields a value neither overflows nor reads out of range.
-/

namespace PanickingOperations

/-- The largest `usize`. -/
def usizeMax : ℕ := 2 ^ 64 - 1

/-- An unsigned subtraction. -/
def sub (a b : ℕ) : Option ℕ := if b ≤ a then some (a - b) else none

/-- An unsigned addition in a type whose largest value is given. -/
def add (maximum a b : ℕ) : Option ℕ := if a + b ≤ maximum then some (a + b) else none

/-- The remainder of a division. -/
def rem (a b : ℕ) : Option ℕ := if b = 0 then none else some (a % b)

variable {α : Type} {a b maximum : ℕ}

/-- `xs[i]`. -/
def read (xs : List α) (i : ℕ) : Option α := xs[i]?

/-- `&xs[start..stop]`, and `xs.get(start..stop)`. -/
def slice (xs : List α) (start stop : ℕ) : Option (List α) :=
  if start ≤ stop ∧ stop ≤ xs.length then some ((xs.drop start).take (stop - start)) else none

/-- `&xs[start..]`. -/
def sliceFrom (xs : List α) (start : ℕ) : Option (List α) := slice xs start xs.length

/-- `x << k`, which the full width of the word does not admit. -/
def shiftLeft {w : ℕ} (x : BitVec w) (k : ℕ) : Option (BitVec w) :=
  if k < w then some (x <<< k) else none

theorem sub_of_le (h : b ≤ a) : sub a b = some (a - b) := if_pos h

theorem add_of_le (h : a + b ≤ maximum) : add maximum a b = some (a + b) := if_pos h

theorem rem_of_pos (h : 0 < b) : rem a b = some (a % b) := if_neg (Nat.ne_of_gt h)

theorem read_of_lt {xs : List α} {i : ℕ} (h : i < xs.length) : read xs i = some xs[i] :=
  List.getElem?_eq_getElem h

theorem slice_of_le {xs : List α} {start stop : ℕ} (hstart : start ≤ stop)
    (hstop : stop ≤ xs.length) : slice xs start stop = some ((xs.drop start).take (stop - start)) :=
  if_pos ⟨hstart, hstop⟩

/-- A range holds a list exactly when the list is at its start. -/
theorem slice_eq_some_iff {xs ys : List α} {start : ℕ} (h : start ≤ xs.length) :
    slice xs start (start + ys.length) = some ys ↔ ys <+: xs.drop start := by
  rw [List.prefix_iff_eq_take, slice, Nat.add_sub_cancel_left]
  split_ifs with hrange
  · rw [Option.some.injEq, eq_comm]
  · refine iff_of_false (fun h => nomatch h) fun heq => hrange ⟨Nat.le_add_right _ _, ?_⟩
    have hlength := congrArg List.length heq
    rw [List.length_take, List.length_drop] at hlength
    omega

theorem sliceFrom_of_le {xs : List α} {start : ℕ} (h : start ≤ xs.length) :
    sliceFrom xs start = some (xs.drop start) := by
  have hlength : (xs.drop start).length ≤ xs.length - start := Nat.le_of_eq List.length_drop
  rw [sliceFrom, slice_of_le h (Nat.le_refl _), List.take_of_length_le hlength]

theorem shiftLeft_of_lt {w : ℕ} {x : BitVec w} {k : ℕ} (h : k < w) :
    shiftLeft x k = some (x <<< k) := if_pos h

end PanickingOperations
