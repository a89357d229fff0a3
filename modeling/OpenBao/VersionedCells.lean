import Mathlib.Data.Nat.Notation
import Mathlib.Logic.Relation

/-!
# Cells with a version number

Every write of a cell, a deletion included, takes the next version number. A write
under the condition that the version is the one that was read therefore finds the
cell as it was read.
-/

namespace OpenBao.VersionedCells
open Relation

variable {α : Type*}

/-- Version zero is the cell that was never written. -/
structure Cell (α : Type*) where
  version : ℕ
  value : Option α
  unwritten : version = 0 → value = none

namespace Cell

def empty : Cell α := ⟨0, none, fun _ => rfl⟩

/-- The cell after one more write; without a value, after a deletion. -/
def write (c : Cell α) (value : Option α) : Cell α := ⟨c.version + 1, value, by simp⟩

def Overwrite (c c' : Cell α) : Prop := ∃ value, c' = c.write value

@[simp] theorem write_version (c : Cell α) (value : Option α) :
    (c.write value).version = c.version + 1 := rfl

@[simp] theorem write_value (c : Cell α) (value : Option α) : (c.write value).value = value := rfl

theorem write_ne (c : Cell α) (value : Option α) : c.write value ≠ c := by
  intro h
  have hv := congrArg version h
  simp at hv

theorem version_le {c c' : Cell α} (h : ReflTransGen Overwrite c c') : c.version ≤ c'.version := by
  induction h with
  | refl => exact Nat.le_refl _
  | tail _ hw ih =>
    obtain ⟨value, rfl⟩ := hw
    simp only [write_version]
    omega

/-- A cell that still has its version has not been written. -/
theorem eq_of_version_eq {c c' : Cell α} (h : ReflTransGen Overwrite c c')
    (hv : c'.version = c.version) : c' = c := by
  cases h with
  | refl => rfl
  | tail hrun hw =>
    obtain ⟨value, rfl⟩ := hw
    have hle := version_le hrun
    simp only [write_version] at hv
    omega

end Cell

end OpenBao.VersionedCells
