import Mathlib.Data.Nat.Notation
import Mathlib.Data.List.Basic

/-!
# Tables of computed answers

A table with one cell for each pair of indices, empty until the answer of that pair has
been computed. A search that fills such a table may reach a cell along many paths; as long
as the table agrees with a function of the indices, every path finds the same answer.
-/

namespace OpenBao.MemoTables

variable {α σ ι : Type}

abbrev Table (α : Type) := List (List (Option α))

namespace Table

def empty (rows columns : ℕ) : Table α := List.replicate rows (List.replicate columns none)

/-- The content of a cell; nothing when an index is out of range. -/
def read (table : Table α) (i j : ℕ) : Option (Option α) := table[i]?.bind (·[j]?)

/-- The table with an answer stored; nothing when an index is out of range. -/
def write (table : Table α) (i j : ℕ) (a : α) : Option (Table α) :=
  if (table.read i j).isSome then some (table.modify i (·.set j (some a))) else none

/-- A table of the given size whose stored answers are those of `f`. -/
structure Agrees (f : ℕ → ℕ → α) (rows columns : ℕ) (table : Table α) : Prop where
  inRange : ∀ i j, (table.read i j).isSome ↔ i < rows ∧ j < columns
  answer : ∀ i j a, table.read i j = some (some a) → a = f i j

variable {f : ℕ → ℕ → α} {rows columns i j : ℕ} {table : Table α}

theorem read_empty : (empty rows columns : Table α).read i j =
    if i < rows ∧ j < columns then some none else none := by
  by_cases hi : i < rows
  · by_cases hj : j < columns <;> simp [read, empty, hi, hj]
  · simp [read, empty, hi]

theorem agrees_empty : Agrees f rows columns (empty rows columns) where
  inRange i j := by
    rw [read_empty]
    split <;> simp [*]
  answer i j a h := by
    rw [read_empty] at h
    split at h <;> simp at h

/-- A cell in range is empty or holds the answer. -/
theorem Agrees.read_eq (h : Agrees f rows columns table) (hi : i < rows) (hj : j < columns) :
    table.read i j = some none ∨ table.read i j = some (some (f i j)) := by
  obtain ⟨cell, hcell⟩ := Option.isSome_iff_exists.mp ((h.inRange i j).mpr ⟨hi, hj⟩)
  cases cell with
  | none => exact .inl hcell
  | some a => exact .inr (h.answer i j a hcell ▸ hcell)

theorem read_modify {a : α} {k l : ℕ} (h : (table.read i j).isSome) :
    read (table.modify i (·.set j (some a))) k l =
      if i = k ∧ j = l then some (some a) else table.read k l := by
  obtain ⟨row, hrow, cell, hcell⟩ : ∃ row, table[i]? = some row ∧ ∃ cell, row[j]? = some cell := by
    obtain ⟨cell, hcell⟩ := Option.isSome_iff_exists.mp h
    obtain ⟨row, hrow, hcell⟩ := Option.bind_eq_some_iff.mp hcell
    exact ⟨row, hrow, cell, hcell⟩
  have hlength : j < row.length := (List.getElem?_eq_some_iff.mp hcell).1
  by_cases hik : i = k
  · subst hik
    by_cases hjl : j = l
    · subst hjl
      simp [read, hrow, hlength]
    · simp [read, hrow, hjl]
  · simp [read, hik]

/-- Storing the answer keeps the agreement. -/
theorem Agrees.write (h : Agrees f rows columns table) (hi : i < rows) (hj : j < columns) :
    ∃ table', table.write i j (f i j) = some table' ∧ Agrees f rows columns table' := by
  have hcell := (h.inRange i j).mpr ⟨hi, hj⟩
  refine ⟨_, if_pos hcell, ⟨fun k l => ?_, fun k l b hb => ?_⟩⟩
  · rw [read_modify hcell]
    split
    · next heq =>
      obtain ⟨rfl, rfl⟩ := heq
      simp [hi, hj]
    · exact h.inRange k l
  · rw [read_modify hcell] at hb
    split at hb
    · next heq =>
      obtain ⟨rfl, rfl⟩ := heq
      exact (Option.some.inj (Option.some.inj hb)).symm
    · exact h.answer k l b hb

end Table

/-- `any` over a list of searches that share a state; it stops at the first `true`. -/
def anyWith (search : ι → σ → Option (Bool × σ)) : List ι → σ → Option (Bool × σ)
  | [], s => some (false, s)
  | i :: items, s => do
    let (found, s) ← search i s
    if found then some (true, s) else anyWith search items s

/-- Searches that answer `g` from every state with `P` find what `any` finds. -/
theorem anyWith_eq {P : σ → Prop} {search : ι → σ → Option (Bool × σ)} {g : ι → Bool}
    {items : List ι} {s : σ} (hs : P s)
    (hsearch : ∀ i ∈ items, ∀ s, P s → ∃ s', search i s = some (g i, s') ∧ P s') :
    ∃ s', anyWith search items s = some (items.any g, s') ∧ P s' := by
  induction items generalizing s with
  | nil => exact ⟨s, rfl, hs⟩
  | cons i items ih =>
    obtain ⟨s₁, hfirst, hs₁⟩ := hsearch i List.mem_cons_self s hs
    cases hg : g i with
    | true => exact ⟨s₁, by simp [anyWith, hfirst, hg], hs₁⟩
    | false =>
      obtain ⟨s₂, hrest, hs₂⟩ := ih hs₁ fun k hk => hsearch k (List.mem_cons_of_mem _ hk)
      exact ⟨s₂, by simp [anyWith, hfirst, hg, hrest], hs₂⟩

end OpenBao.MemoTables
