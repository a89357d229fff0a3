import Mathlib.Data.List.Basic

/-!
# Tables filled by insertion

A table with at most one value for a key. An insertion replaces the value of its key where
it stands and adds a new key behind the others.
-/

namespace OpenBao.InsertionTables

variable {K V : Type} [DecidableEq K]

def insert (key : K) (value : V) : List (K × V) → List (K × V)
  | [] => [(key, value)]
  | entry :: table =>
    if entry.1 = key then (key, value) :: table else entry :: insert key value table

def get (key : K) : List (K × V) → Option V
  | [] => none
  | entry :: table => if entry.1 = key then some entry.2 else get key table

/-- One insertion after the other. -/
def insertAll (table entries : List (K × V)) : List (K × V) :=
  entries.foldl (fun table entry => insert entry.1 entry.2 table) table

variable {table entries : List (K × V)} {k key : K} {value : V}

@[simp] theorem get_nil : get k ([] : List (K × V)) = none := rfl

theorem get_cons (entry : K × V) (table : List (K × V)) :
    get k (entry :: table) = if entry.1 = k then some entry.2 else get k table := rfl

theorem get_append : get k (table ++ entries) = (get k table).or (get k entries) := by
  induction table with
  | nil => rfl
  | cons entry table ih =>
    rw [List.cons_append, get_cons, get_cons, ih]
    split <;> rfl

theorem get_insert : get k (insert key value table) = if key = k then some value else get k table := by
  induction table with
  | nil => rfl
  | cons entry table ih =>
    unfold insert
    split
    · next hentry =>
      rw [get_cons, get_cons, hentry]
      split <;> rfl
    · next hentry =>
      rw [get_cons, get_cons, ih]
      by_cases hk : entry.1 = k
      · have hkey : key ≠ k := fun h => hentry (hk.trans h.symm)
        rw [if_pos hk, if_pos hk, if_neg hkey]
      · rw [if_neg hk, if_neg hk]

/-- The last insertion of a key decides. -/
theorem get_insertAll : get k (insertAll table entries) = (get k entries.reverse).or (get k table) := by
  induction entries generalizing table with
  | nil => rfl
  | cons entry entries ih =>
    change get k (insertAll (insert entry.1 entry.2 table) entries) = _
    rw [ih, get_insert, List.reverse_cons, get_append, Option.or_assoc, get_cons, get_nil]
    split <;> rfl

theorem insertAll_append (more : List (K × V)) :
    insertAll table (entries ++ more) = insertAll (insertAll table entries) more :=
  List.foldl_append

theorem get_isSome_iff : (get k table).isSome = true ↔ k ∈ table.map Prod.fst := by
  induction table with
  | nil => simp
  | cons entry table ih =>
    rw [get_cons, List.map_cons, List.mem_cons]
    split
    · next h => exact iff_of_true rfl (.inl h.symm)
    · next h => rw [ih, or_iff_right (Ne.symm h)]

theorem mem_keys_insert : k ∈ (insert key value table).map Prod.fst ↔
    k = key ∨ k ∈ table.map Prod.fst := by
  rw [← get_isSome_iff, get_insert, ← get_isSome_iff]
  split
  · next h => exact iff_of_true rfl (.inl h.symm)
  · next h => exact (or_iff_right (Ne.symm h)).symm

theorem keys_insert_nodup (h : (table.map Prod.fst).Nodup) :
    ((insert key value table).map Prod.fst).Nodup := by
  induction table with
  | nil => simp [insert]
  | cons entry table ih =>
    rw [List.map_cons, List.nodup_cons] at h
    unfold insert
    split
    · next hentry =>
      rw [List.map_cons, List.nodup_cons, ← hentry]
      exact h
    · next hentry =>
      rw [List.map_cons, List.nodup_cons, mem_keys_insert]
      exact ⟨fun hmem => hmem.elim hentry h.1, ih h.2⟩

theorem keys_insertAll_nodup (h : (table.map Prod.fst).Nodup) :
    ((insertAll table entries).map Prod.fst).Nodup := by
  induction entries generalizing table with
  | nil => exact h
  | cons entry entries ih => exact ih (keys_insert_nodup h)

end OpenBao.InsertionTables
