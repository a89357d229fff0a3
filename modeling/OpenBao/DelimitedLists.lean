import Mathlib.Data.List.Basic
import Mathlib.Data.List.DropRight

/-!
# Cutting lists at delimiters

First and last cuts, pieces between delimiters, two-sided trimming and forward
index scans. A cut is specified by the decomposition it returns, so that a
reader of delimited text is reasoned about through appends only.
-/

namespace OpenBao.DelimitedLists

variable {α : Type*}

/-- The list without its longest prefix and suffix in `p`. -/
def trimMatches (p : α → Bool) (xs : List α) : List α := (xs.dropWhile p).rdropWhile p

/-- Trimming removes elements of `p` only. -/
theorem mem_trimMatches {p : α → Bool} {xs : List α} {c : α} (h : c ∈ xs) (hc : p c = false) :
    c ∈ trimMatches p xs := by
  have hl : ∀ ys : List α, c ∈ ys → c ∈ ys.dropWhile p := by
    intro ys hm
    induction ys with
    | nil => simp at hm
    | cons a ys ih =>
      cases ha : p a with
      | false => simpa [List.dropWhile_cons, ha] using hm
      | true =>
        rcases List.mem_cons.mp hm with rfl | hm
        · simp [hc] at ha
        · simpa [List.dropWhile_cons, ha] using ih hm
  have hr := hl (xs.dropWhile p).reverse (List.mem_reverse.mpr (hl xs h))
  exact List.mem_reverse.mpr hr

theorem trimMatches_sublist (p : α → Bool) (xs : List α) : (trimMatches p xs).Sublist xs := by
  have h := ((List.dropWhile_sublist p (l := (xs.dropWhile p).reverse)).reverse)
  rw [List.reverse_reverse] at h
  exact h.trans (List.dropWhile_sublist p)

/-- A list whose ends fail `p` is trimmed to itself. -/
theorem trimMatches_eq_self {p : α → Bool} {xs : List α}
    (hh : ∀ a ∈ xs.head?, p a = false) (hl : ∀ a ∈ xs.getLast?, p a = false) :
    trimMatches p xs = xs := by
  have h₁ : xs.dropWhile p = xs := by
    cases xs with
    | nil => rfl
    | cons a xs => simp [hh a (by simp)]
  rw [trimMatches, h₁, List.rdropWhile_eq_self_iff]
  intro hx
  simpa using hl _ (List.getLast?_eq_some_getLast hx)

/-- The first position from `i` on whose element fails `p`, or the length. -/
def advanceWhile (p : α → Bool) (xs : List α) (i : ℕ) : ℕ :=
  match h : xs[i]? with
  | some a => if p a then advanceWhile p xs (i + 1) else i
  | none => i
termination_by xs.length - i
decreasing_by
  have := (List.getElem?_eq_some_iff.mp h).1
  omega

theorem advanceWhile_eq (p : α → Bool) (xs : List α) (i : ℕ) :
    advanceWhile p xs i = i + ((xs.drop i).takeWhile p).length := by
  fun_induction advanceWhile p xs i with
  | case1 i a h hp ih =>
    obtain ⟨hi, ha⟩ := List.getElem?_eq_some_iff.mp h
    rw [ih, List.drop_eq_getElem_cons hi]
    simp [ha, hp]
    omega
  | case2 i a h hp =>
    obtain ⟨hi, ha⟩ := List.getElem?_eq_some_iff.mp h
    rw [List.drop_eq_getElem_cons hi]
    simp [ha, hp]
  | case3 i h => simp [List.drop_eq_nil_of_le (List.getElem?_eq_none_iff.mp h)]

theorem le_advanceWhile (p : α → Bool) (xs : List α) (i : ℕ) : i ≤ advanceWhile p xs i := by
  rw [advanceWhile_eq]
  omega

theorem advanceWhile_le (p : α → Bool) {xs : List α} {i : ℕ} (h : i ≤ xs.length) :
    advanceWhile p xs i ≤ xs.length := by
  have hl := (List.takeWhile_sublist p (l := xs.drop i)).length_le
  rw [List.length_drop] at hl
  rw [advanceWhile_eq]
  omega

theorem drop_of_getElem? {xs : List α} {i : ℕ} {a : α} (h : xs[i]? = some a) :
    xs.drop i = a :: xs.drop (i + 1) := by
  obtain ⟨hi, rfl⟩ := List.getElem?_eq_some_iff.mp h
  exact List.drop_eq_getElem_cons hi

/-- What a scan leaves is what dropping the matching prefix leaves. -/
theorem drop_advanceWhile (p : α → Bool) (xs : List α) (i : ℕ) :
    xs.drop (advanceWhile p xs i) = (xs.drop i).dropWhile p := by
  have h : ((xs.drop i).takeWhile p ++ (xs.drop i).dropWhile p).drop ((xs.drop i).takeWhile p).length =
      (xs.drop i).dropWhile p := List.drop_left
  rw [List.takeWhile_append_dropWhile, List.drop_drop] at h
  rw [advanceWhile_eq, h]

/-- What a scan passes over is the matching prefix. -/
theorem take_advanceWhile (p : α → Bool) (xs : List α) (i : ℕ) :
    (xs.drop i).take (advanceWhile p xs i - i) = (xs.drop i).takeWhile p := by
  rw [advanceWhile_eq, Nat.add_sub_cancel_left]
  exact (List.prefix_iff_eq_take.mp (List.takeWhile_prefix p)).symm

/-- A scan stops at the first element that does not match. -/
theorem getElem?_advanceWhile (p : α → Bool) (xs : List α) (i : ℕ) :
    xs[advanceWhile p xs i]? = ((xs.drop i).dropWhile p).head? := by
  rw [← drop_advanceWhile, List.head?_drop]

theorem mem_intercalate_iff {d c : α} {ps : List (List α)} :
    c ∈ [d].intercalate ps ↔ (∃ p ∈ ps, c ∈ p) ∨ c = d ∧ 1 < ps.length := by
  induction ps with
  | nil => simp
  | cons p ps ih =>
    cases ps with
    | nil => simp
    | cons p' ps =>
      rw [List.intercalate_cons_cons, List.mem_append, List.mem_append, List.mem_singleton, ih]
      simp only [List.mem_cons, exists_eq_or_imp, List.length_cons]
      constructor
      · rintro ((h | h) | h | h)
        · exact .inl (.inl h)
        · exact .inr ⟨h, by omega⟩
        · exact .inl (.inr h)
        · exact .inr ⟨h.1, by omega⟩
      · rintro ((h | h) | h)
        · exact .inl (.inl h)
        · exact .inr (.inl h)
        · exact .inl (.inr h.1)

theorem head?_intercalate {d : α} {p : List α} (h : p ≠ []) (ps : List (List α)) :
    ([d].intercalate (p :: ps)).head? = p.head? := by
  cases ps with
  | nil => simp
  | cons p' ps => simp [List.head?_append, List.head?_eq_some_head h]

theorem getLast?_intercalate {d : α} {ps : List (List α)} {q : List α} (h : q ≠ []) :
    ([d].intercalate (ps ++ [q])).getLast? = q.getLast? := by
  induction ps with
  | nil => simp
  | cons p ps ih =>
    obtain ⟨r, rs, hr⟩ := List.exists_cons_of_ne_nil (show ps ++ [q] ≠ [] by simp)
    rw [List.cons_append, hr, List.intercalate_cons_cons, ← hr, List.getLast?_append, ih]
    simp [List.getLast?_eq_some_getLast h]

variable [DecidableEq α]

/-- The parts before and after the first `d`. -/
def splitOnce (d : α) : List α → Option (List α × List α)
  | [] => none
  | a :: as => if a = d then some ([], as) else (splitOnce d as).map (fun p => (a :: p.1, p.2))

/-- The parts before and after the last `d`. -/
def rsplitOnce (d : α) (xs : List α) : Option (List α × List α) :=
  (splitOnce d xs.reverse).map (fun p => (p.2.reverse, p.1.reverse))

theorem splitOnce_append {d : α} {p : List α} (h : d ∉ p) (q : List α) :
    splitOnce d (p ++ d :: q) = some (p, q) := by
  induction p with
  | nil => simp [splitOnce]
  | cons a p ih =>
    have ha : a ≠ d := fun he => h (by simp [he])
    have hp : d ∉ p := fun hm => h (List.mem_cons_of_mem _ hm)
    simp [splitOnce, ha, ih hp]

theorem splitOnce_eq_none_iff {d : α} {xs : List α} : splitOnce d xs = none ↔ d ∉ xs := by
  induction xs with
  | nil => simp [splitOnce]
  | cons a xs ih =>
    by_cases h : a = d
    · simp [splitOnce, h]
    · simp [splitOnce, h, ih, Ne.symm h]

theorem splitOnce_eq_some_iff {d : α} {xs p q : List α} :
    splitOnce d xs = some (p, q) ↔ xs = p ++ d :: q ∧ d ∉ p := by
  constructor
  · intro h
    induction xs generalizing p with
    | nil => simp [splitOnce] at h
    | cons a xs ih =>
      by_cases ha : a = d
      · simp only [splitOnce, ha, if_true, Option.some.injEq, Prod.mk.injEq] at h
        obtain ⟨rfl, rfl⟩ := h
        simp [ha]
      · simp only [splitOnce, ha, if_false, Option.map_eq_some_iff] at h
        obtain ⟨⟨p', q'⟩, hp, he⟩ := h
        cases he
        obtain ⟨hx, hn⟩ := ih hp
        exact ⟨by simp [hx], by simp [hn, Ne.symm ha]⟩
  · rintro ⟨rfl, h⟩
    exact splitOnce_append h q

theorem rsplitOnce_eq_some_iff {d : α} {xs p q : List α} :
    rsplitOnce d xs = some (p, q) ↔ xs = p ++ d :: q ∧ d ∉ q := by
  simp only [rsplitOnce, Option.map_eq_some_iff, Prod.exists, splitOnce_eq_some_iff, Prod.mk.injEq]
  constructor
  · rintro ⟨a, b, ⟨hx, hn⟩, rfl, rfl⟩
    have hr := congrArg List.reverse hx
    exact ⟨by simpa using hr, by simpa using hn⟩
  · rintro ⟨rfl, hn⟩
    exact ⟨q.reverse, p.reverse, by simpa using hn, by simp, by simp⟩

theorem rsplitOnce_append {d : α} {q : List α} (h : d ∉ q) (p : List α) :
    rsplitOnce d (p ++ d :: q) = some (p, q) :=
  rsplitOnce_eq_some_iff.mpr ⟨rfl, h⟩

theorem rsplitOnce_eq_none_iff {d : α} {xs : List α} : rsplitOnce d xs = none ↔ d ∉ xs := by
  simp [rsplitOnce, splitOnce_eq_none_iff]

/-- A list with a delimiter has a last one. -/
theorem exists_last_cut {d : α} {xs : List α} (h : d ∈ xs) :
    ∃ p q, xs = p ++ d :: q ∧ d ∉ q := by
  cases hr : rsplitOnce d xs with
  | none => exact absurd h (rsplitOnce_eq_none_iff.mp hr)
  | some c => exact ⟨c.1, c.2, rsplitOnce_eq_some_iff.mp hr⟩

/-- The parts before and after the first occurrence of the list `d`. -/
def splitOnceAt (d : List α) : List α → Option (List α × List α)
  | [] => if d = [] then some ([], []) else none
  | a :: as =>
    if d.isPrefixOf (a :: as) then some ([], (a :: as).drop d.length)
    else (splitOnceAt d as).map (fun p => (a :: p.1, p.2))

theorem eq_of_splitOnceAt {d xs p q : List α} (h : splitOnceAt d xs = some (p, q)) :
    xs = p ++ (d ++ q) := by
  induction xs generalizing p with
  | nil =>
    unfold splitOnceAt at h
    split_ifs at h with hd
    obtain ⟨rfl, rfl⟩ := Prod.mk.inj (Option.some.inj h)
    rw [hd]
    rfl
  | cons a xs ih =>
    unfold splitOnceAt at h
    split_ifs at h with hd
    · obtain ⟨rfl, rfl⟩ := Prod.mk.inj (Option.some.inj h)
      exact (List.prefix_iff_eq_append.mp (List.isPrefixOf_iff_prefix.mp hd)).symm
    · obtain ⟨⟨p', q'⟩, hrest, heq⟩ := Option.map_eq_some_iff.mp h
      obtain ⟨rfl, rfl⟩ := Prod.mk.inj heq
      rw [ih hrest]
      rfl

/-- No list is cut without the last element of the delimiter. -/
theorem splitOnceAt_eq_none {d xs : List α} {e : α} (hd : e ∈ d) (h : e ∉ xs) :
    splitOnceAt d xs = none := by
  cases hsplit : splitOnceAt d xs with
  | none => rfl
  | some parts =>
    rw [eq_of_splitOnceAt hsplit] at h
    simp [hd] at h

/-- A delimiter ends the first part where its last element occurs for the first time. -/
theorem splitOnceAt_append {i p : List α} {e : α} (hi : e ∉ i) (hp : e ∉ p) (q : List α) :
    splitOnceAt (i ++ [e]) (p ++ (i ++ [e] ++ q)) = some (p, q) := by
  induction p with
  | nil =>
    obtain ⟨a, as, heq⟩ := List.exists_cons_of_ne_nil (show i ++ [e] ++ q ≠ [] by simp)
    have hprefix : (i ++ [e]).isPrefixOf (a :: as) = true := by
      rw [← heq]
      exact List.isPrefixOf_iff_prefix.mpr (List.prefix_append _ _)
    rw [List.nil_append, heq, splitOnceAt, if_pos hprefix, ← heq, List.drop_left]
  | cons a p ih =>
    have hp' : e ∉ p := fun hm => hp (List.mem_cons_of_mem _ hm)
    have hearly : ¬ (i ++ [e]).isPrefixOf (a :: (p ++ (i ++ [e] ++ q))) = true := by
      intro hprefix
      have hlong : a :: p ++ i <+: a :: (p ++ (i ++ [e] ++ q)) :=
        ⟨[e] ++ q, by simp⟩
      have hshort := List.prefix_of_prefix_length_le (List.isPrefixOf_iff_prefix.mp hprefix) hlong
        (by simp)
      have hmem := hshort.subset (List.mem_append_right i (List.mem_singleton.mpr rfl))
      rcases List.mem_append.mp hmem with h | h
      · exact hp h
      · exact hi h
    rw [List.cons_append, splitOnceAt, if_neg hearly, ih hp']
    rfl

theorem dropPrefix?_eq_some {xs p q : List α} : xs.dropPrefix? p = some q ↔ xs = p ++ q := by
  simp [List.dropPrefix?_eq_some_iff]

theorem not_mem_of_mem_splitOn {d : α} {xs p : List α} (h : p ∈ xs.splitOn d) : d ∉ p := by
  induction xs generalizing p with
  | nil => simp_all
  | cons a xs ih =>
    rw [List.splitOn_cons_eq_if_modifyHead] at h
    obtain ⟨q, qs, hq⟩ := List.exists_cons_of_ne_nil (List.splitOn_ne_nil d xs)
    by_cases ha : a = d
    · rcases List.mem_cons.mp (by simpa [ha] using h) with rfl | hm
      · simp
      · exact ih hm
    · rcases List.mem_cons.mp (by simpa [ha, hq] using h) with rfl | hm
      · have hh := ih (p := q) (by simp [hq])
        simp [hh, Ne.symm ha]
      · exact ih (by simp [hq, hm])

/-- Text put in front changes no piece but the first. -/
theorem exists_splitOn_append (d : α) (xs ys : List α) :
    ∃ ps p, (xs ++ ys).splitOn d = ps ++ p :: (ys.splitOn d).tail := by
  induction xs with
  | nil =>
    obtain ⟨q, qs, hq⟩ := List.exists_cons_of_ne_nil (List.splitOn_ne_nil d ys)
    exact ⟨[], q, by simp [hq]⟩
  | cons a xs ih =>
    obtain ⟨ps, p, h⟩ := ih
    rw [List.cons_append, List.splitOn_cons_eq_if_modifyHead, h]
    by_cases ha : a = d
    · exact ⟨[] :: ps, p, by simp [ha]⟩
    · cases ps with
      | nil => exact ⟨[], a :: p, by simp [ha]⟩
      | cons q qs => exact ⟨(a :: q) :: qs, p, by simp [ha]⟩

private theorem mem_iff_splitOn {d c : α} {xs : List α} :
    c ∈ xs ↔ (∃ p ∈ xs.splitOn d, c ∈ p) ∨ c = d ∧ 1 < (xs.splitOn d).length := by
  rw [← mem_intercalate_iff, List.intercalate_splitOn]

/-- Every element other than the delimiter lies in some piece. -/
theorem exists_mem_splitOn {d c : α} {xs : List α} (h : c ∈ xs) (hd : c ≠ d) :
    ∃ p ∈ xs.splitOn d, c ∈ p :=
  (mem_iff_splitOn.mp h).resolve_right fun hh => hd hh.1

theorem mem_of_mem_splitOn {d c : α} {xs p : List α} (hp : p ∈ xs.splitOn d) (hc : c ∈ p) :
    c ∈ xs :=
  mem_iff_splitOn.mpr (.inl ⟨p, hp, hc⟩)

end OpenBao.DelimitedLists
