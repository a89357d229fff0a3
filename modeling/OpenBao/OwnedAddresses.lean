import Mathlib.Logic.Function.Basic

/-!
# Addresses and their owners

References to allocations that are identified by their address. An address is handed out
again once no reference to its allocation is left, so equal addresses mean the same owner
only while the references are held.
-/

namespace OpenBao.OwnedAddresses

variable {Holder Address Owner : Type} [DecidableEq Holder]

/-- For each holder of a reference the address, and whose allocation it is. -/
abbrev References (Holder Address Owner : Type) := Holder → Option (Address × Owner)

/-- Nobody refers to the address. -/
def Unallocated (refs : References Holder Address Owner) (a : Address) : Prop :=
  ∀ x o, refs x ≠ some (a, o)

/-- The references to one address are of one owner. -/
def OneOwner (refs : References Holder Address Owner) : Prop :=
  ∀ x y a o o', refs x = some (a, o) → refs y = some (a, o') → o = o'

variable {refs : References Holder Address Owner} {x : Holder} {a : Address} {o : Owner}

theorem update_apply_eq_iff {β : Type} {f : Holder → β} {y : Holder} {b c : β} :
    Function.update f x b y = c ↔ (y = x ∧ b = c) ∨ (y ≠ x ∧ f y = c) := by
  rw [Function.update_apply, ite_eq_iff]

/-- A reference may be taken where every other one to its address is of the same owner. -/
theorem OneOwner.take (h : OneOwner refs) (hsame : ∀ y o', refs y = some (a, o') → o' = o) :
    OneOwner (Function.update refs x (some (a, o))) := by
  intro y z b o₁ o₂ hy hz
  rcases update_apply_eq_iff.mp hy with ⟨-, hnew⟩ | ⟨-, hy⟩
  · cases hnew
    rcases update_apply_eq_iff.mp hz with ⟨-, hnew⟩ | ⟨-, hz⟩
    · cases hnew
      rfl
    · exact (hsame z o₂ hz).symm
  · rcases update_apply_eq_iff.mp hz with ⟨-, hnew⟩ | ⟨-, hz⟩
    · cases hnew
      exact hsame y o₁ hy
    · exact h y z b o₁ o₂ hy hz

theorem OneOwner.allocate (h : OneOwner refs) (hfresh : Unallocated refs a) :
    OneOwner (Function.update refs x (some (a, o))) :=
  h.take fun y o' hy => absurd hy (hfresh y o')

theorem OneOwner.clone {y : Holder} (h : OneOwner refs) (hy : refs y = some (a, o)) :
    OneOwner (Function.update refs x (some (a, o))) :=
  h.take fun z o' hz => h z y a o' o hz hy

theorem OneOwner.drop (h : OneOwner refs) : OneOwner (Function.update refs x none) := by
  intro y z b o₁ o₂ hy hz
  rcases update_apply_eq_iff.mp hy with ⟨-, hnone⟩ | ⟨-, hy⟩
  · cases hnone
  · rcases update_apply_eq_iff.mp hz with ⟨-, hnone⟩ | ⟨-, hz⟩
    · cases hnone
    · exact h y z b o₁ o₂ hy hz

end OpenBao.OwnedAddresses
