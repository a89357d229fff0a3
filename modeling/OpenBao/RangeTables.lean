import Mathlib.Order.Lattice

/-!
# Tables of closed ranges

Entries with the closed ranges that they stand for, in any linear order. Ranges are told apart by
comparing their ends, and where no two meet a value selects at most one entry.
-/

namespace OpenBao.RangeTables

variable {ι α : Type} [LinearOrder α] (minimum maximum : ι → α)

/-- The value lies in the range of the entry. -/
def Covers (entry : ι) (value : α) : Prop := minimum entry ≤ value ∧ value ≤ maximum entry

/-- The ranges of two entries meet, by their ends. -/
def Meets (a b : ι) : Prop := minimum a ≤ maximum b ∧ minimum b ≤ maximum a

variable {minimum maximum} {a b : ι} {table : List ι} {value : α}

theorem Covers.nonempty (h : Covers minimum maximum a value) : minimum a ≤ maximum a :=
  h.1.trans h.2

theorem Covers.meets (ha : Covers minimum maximum a value) (hb : Covers minimum maximum b value) :
    Meets minimum maximum a b :=
  ⟨ha.1.trans hb.2, hb.1.trans ha.2⟩

/-- Two ranges that are not empty meet in a value. -/
theorem meets_iff_exists (ha : minimum a ≤ maximum a) (hb : minimum b ≤ maximum b) :
    Meets minimum maximum a b ↔
      ∃ value, Covers minimum maximum a value ∧ Covers minimum maximum b value := by
  constructor
  · intro h
    -- The later of the two beginnings lies in both.
    refine ⟨max (minimum a) (minimum b), ⟨le_max_left _ _, ?_⟩, ⟨le_max_right _ _, ?_⟩⟩
    · exact max_le ha h.2
    · exact max_le h.1 hb
  · intro h
    obtain ⟨value, hva, hvb⟩ := h
    exact hva.meets hvb

/-- No two entries of the table meet. -/
def Apart (minimum maximum : ι → α) (table : List ι) : Prop :=
  table.Pairwise fun a b => ¬ Meets minimum maximum a b

variable {covers : ι → Bool}

/-- A value selects at most one entry. -/
theorem Apart.filter_eq (h : Apart minimum maximum table)
    (hcovers : ∀ entry, covers entry = true → Covers minimum maximum entry value) :
    table.filter covers = [] ∨ ∃ entry, table.filter covers = [entry] := by
  induction table with
  | nil => exact .inl rfl
  | cons entry table ih =>
    obtain ⟨hfirst, hrest⟩ := List.pairwise_cons.mp h
    cases hentry : covers entry with
    | false =>
      rw [List.filter_cons_of_neg (by simp [hentry])]
      exact ih hrest
    | true =>
      have hnone : table.filter covers = [] := by
        apply List.filter_eq_nil_iff.mpr
        intro other hmem hother
        exact hfirst other hmem ((hcovers entry hentry).meets (hcovers other hother))
      rw [List.filter_cons_of_pos hentry, hnone]
      exact .inr ⟨entry, rfl⟩

/-- The entry that covers a value is the one selected. -/
theorem Apart.filter_eq_singleton_iff (h : Apart minimum maximum table)
    (hcovers : ∀ entry, covers entry = true ↔ Covers minimum maximum entry value) :
    table.filter covers = [a] ↔ a ∈ table ∧ Covers minimum maximum a value := by
  rw [← hcovers, ← List.mem_filter]
  rcases h.filter_eq fun entry => (hcovers entry).mp with hnil | ⟨entry, hentry⟩
  · rw [hnil]
    simp
  · rw [hentry, List.mem_singleton, List.cons_eq_cons]
    exact ⟨fun heq => heq.1.symm, fun heq => ⟨heq.symm, rfl⟩⟩

theorem filter_eq_nil_iff
    (hcovers : ∀ entry, covers entry = true ↔ Covers minimum maximum entry value) :
    table.filter covers = [] ↔ ∀ entry ∈ table, ¬ Covers minimum maximum entry value := by
  rw [List.filter_eq_nil_iff]
  exact forall₂_congr fun entry _ => not_congr (hcovers entry)

end OpenBao.RangeTables
