import Mathlib.Data.Nat.Notation
import Mathlib.Algebra.GroupWithZero.Nat
import Mathlib.Data.List.Basic
import Mathlib.Data.List.Forall2

/-!
# Readers with a limit

Readers that decode the items of a sequence one by one and stop at a limit on their number,
and the longest beginning of a sequence whose sizes add up to at most a limit. What they give
is said in terms of the whole sequence.
-/

namespace OpenBao.BoundedReaders

section Items

variable {α β ε : Type}

/-- The items decoded one by one, up to the first failure. -/
def decodeAll (decode : β → Except ε α) : List β → Except ε (List α)
  | [] => .ok []
  | item :: items =>
    match decode item with
    | .error e => .error e
    | .ok value => (decodeAll decode items).map (value :: ·)

/-- The loop of a reader: `overflow` gives its result when there is one item too many. -/
def readItems (limit : ℕ) (decode : β → Except ε α) (overflow : List α → Except ε (List α)) :
    List α → List β → Except ε (List α)
  | values, [] => .ok values
  | values, item :: items =>
    if values.length < limit then
      match decode item with
      | .error e => .error e
      | .ok value => readItems limit decode overflow (values ++ [value]) items
    else overflow values

variable {limit : ℕ} {decode : β → Except ε α} {overflow : List α → Except ε (List α)}

theorem decodeAll_eq_ok_length {items : List β} {values : List α}
    (h : decodeAll decode items = .ok values) : values.length = items.length := by
  induction items generalizing values with
  | nil =>
    obtain rfl := Except.ok.inj h
    rfl
  | cons item items ih =>
    rw [decodeAll] at h
    split at h
    · cases h
    · cases hrest : decodeAll decode items with
      | error e =>
        rw [hrest] at h
        cases h
      | ok rest =>
        rw [hrest] at h
        obtain rfl := Except.ok.inj h
        rw [List.length_cons, List.length_cons, ih hrest]

theorem decodeAll_eq_ok_iff {items : List β} {values : List α} :
    decodeAll decode items = .ok values ↔
      List.Forall₂ (fun item value => decode item = .ok value) items values := by
  induction items generalizing values with
  | nil => simp [decodeAll, eq_comm]
  | cons item items ih =>
    rw [decodeAll, List.forall₂_cons_left_iff]
    cases hitem : decode item with
    | error e => simp
    | ok value =>
      cases hrest : decodeAll decode items with
      | error e => simp [← ih, hrest, Except.map]
      | ok rest => simp [← ih, hrest, Except.map, eq_comm]

/-- The items up to the limit are decoded, and then the limit is checked. -/
theorem readItems_eq (values : List α) (items : List β) (hroom : values.length ≤ limit) :
    readItems limit decode overflow values items =
      match decodeAll decode (items.take (limit - values.length)) with
      | .error e => .error e
      | .ok more =>
        if items.length ≤ limit - values.length then .ok (values ++ more)
        else overflow (values ++ more) := by
  induction items generalizing values with
  | nil => simp [readItems, decodeAll]
  | cons item items ih =>
    rw [readItems]
    by_cases hspace : values.length < limit
    · obtain ⟨room, hroom'⟩ : ∃ room, limit - values.length = room + 1 :=
        ⟨limit - values.length - 1, by omega⟩
      rw [if_pos hspace, hroom', List.take_succ_cons, decodeAll]
      cases decode item with
      | error e => rfl
      | ok value =>
        have hlength : limit - (values ++ [value]).length = room := by
          rw [List.length_append, List.length_singleton]
          omega
        have hnext := ih (values ++ [value]) (by rw [List.length_append, List.length_singleton]; omega)
        dsimp only
        rw [hnext, hlength]
        cases decodeAll decode (items.take room) with
        | error e => rfl
        | ok more =>
          simp only [Except.map, List.length_cons, Nat.add_le_add_iff_right, List.append_assoc,
            List.singleton_append]
    · have hzero : limit - values.length = 0 := by omega
      rw [if_neg hspace, hzero, List.take_zero, decodeAll]
      simp

/-- Where one item too many is an error, all items are decoded. -/
theorem readItems_eq_ok_iff (hoverflow : ∀ values all, overflow values ≠ .ok all) {items : List β}
    {values : List α} : readItems limit decode overflow [] items = .ok values ↔
      items.length ≤ limit ∧
        List.Forall₂ (fun item value => decode item = .ok value) items values := by
  rw [readItems_eq [] items (Nat.zero_le _), List.length_nil, Nat.sub_zero, ← decodeAll_eq_ok_iff]
  by_cases hfits : items.length ≤ limit
  · rw [List.take_of_length_le hfits, and_iff_right hfits]
    cases decodeAll decode items with
    | error e => rfl
    | ok all => simp [hfits]
  · refine iff_of_false (fun h => ?_) fun h => hfits h.1
    split at h
    · cases h
    · rw [if_neg hfits] at h
      exact hoverflow _ _ h

end Items

/-! ### Beginnings of bounded size -/

section Beginnings

variable {α : Type} (size : α → ℕ)

def total (items : List α) : ℕ := (items.map size).sum

/-- The loop that takes items while they fit behind `used`. -/
def takeFitting (limit : ℕ) : ℕ → List α → List α
  | _, [] => []
  | used, item :: items =>
    if limit < used + size item then [] else item :: takeFitting limit (used + size item) items

variable {size} {limit : ℕ}

theorem takeFitting_beginning (used : ℕ) (items : List α) : takeFitting size limit used items <+: items := by
  induction items generalizing used with
  | nil => exact List.prefix_rfl
  | cons item items ih =>
    rw [takeFitting]
    split
    · exact List.nil_prefix
    · exact List.cons_prefix_cons.mpr ⟨rfl, ih _⟩

theorem total_takeFitting (used : ℕ) (items : List α) (h : used ≤ limit) :
    used + total size (takeFitting size limit used items) ≤ limit := by
  induction items generalizing used with
  | nil => simpa [takeFitting, total] using h
  | cons item items ih =>
    rw [takeFitting]
    split
    · simpa [total] using h
    · next hfits =>
      have hrest := ih (used + size item) (by omega)
      rw [total, List.map_cons, List.sum_cons, ← Nat.add_assoc]
      exact hrest

/-- What fits is kept whole. -/
theorem takeFitting_of_fits (used : ℕ) (items : List α) (h : used + total size items ≤ limit) :
    takeFitting size limit used items = items := by
  induction items generalizing used with
  | nil => rfl
  | cons item items ih =>
    rw [total, List.map_cons, List.sum_cons] at h
    have hrest : used + size item + total size items ≤ limit := by
      rw [total]
      omega
    rw [takeFitting, if_neg (by omega), ih _ hrest]

end Beginnings

end OpenBao.BoundedReaders
