import Mathlib.Data.List.Basic

/-!
# Lines of a text that arrives in parts

A text is cut at a separator. The complete lines are the pieces that a separator follows;
what is behind the last separator is an unfinished line, to which more may be added.
-/

namespace LineFrames

variable {α : Type*}

/-- Lines, each followed by the separator. -/
def terminated (separator : α) (lines : List (List α)) : List α :=
  lines.flatMap fun line => line ++ [separator]

theorem terminated_append (separator : α) (lines more : List (List α)) :
    terminated separator (lines ++ more) =
      terminated separator lines ++ terminated separator more :=
  List.flatMap_append

theorem length_le_terminated (separator : α) (lines : List (List α)) :
    lines.length ≤ (terminated separator lines).length := by
  induction lines with
  | nil => exact Nat.le_refl _
  | cons line lines ih =>
    simp only [terminated, List.flatMap_cons, List.length_append, List.length_cons,
      List.length_nil] at ih ⊢
    omega

variable [DecidableEq α] {separator : α} {lines : List (List α)} {text rest piece : List α}
  {limit : ℕ}

section
variable (separator : α) (limit : ℕ) (text : List α)

def completeLines : List (List α) := (text.splitOn separator).dropLast

/-- The complete lines, and the unfinished one when something is in it. -/
def frames : List (List α) :=
  if (text.splitOn separator).getLast? = some [] then completeLines separator text
  else text.splitOn separator

/-- No line is longer than the limit, the unfinished one included. -/
def Fits : Prop := ∀ piece ∈ text.splitOn separator, piece.length ≤ limit

/-- The lines in front of the first one that is too long. -/
def fittingLines : List (List α) :=
  (text.splitOn separator).takeWhile fun piece => piece.length ≤ limit

end

theorem splitOn_terminated (h : ∀ line ∈ lines, separator ∉ line) (rest : List α) :
    (terminated separator lines ++ rest).splitOn separator = lines ++ rest.splitOn separator := by
  induction lines with
  | nil => rfl
  | cons line lines ih =>
    obtain ⟨hline, hlines⟩ := List.forall_mem_cons.mp h
    have hshape : terminated separator (line :: lines) ++ rest =
        line ++ separator :: (terminated separator lines ++ rest) := by
      simp [terminated]
    rw [hshape, List.splitOn_append_cons_self_of_not_mem hline, ih hlines, List.cons_append]

theorem splitOn_unfinished (h : ∀ line ∈ lines, separator ∉ line) (hrest : separator ∉ rest) :
    (terminated separator lines ++ rest).splitOn separator = lines ++ [rest] := by
  rw [splitOn_terminated h, List.splitOn_eq_singleton hrest]

theorem completeLines_unfinished (h : ∀ line ∈ lines, separator ∉ line)
    (hrest : separator ∉ rest) :
    completeLines separator (terminated separator lines ++ rest) = lines := by
  rw [completeLines, splitOn_unfinished h hrest, List.dropLast_concat]

theorem frames_terminated (h : ∀ line ∈ lines, separator ∉ line) :
    frames separator (terminated separator lines) = lines := by
  have hpieces := splitOn_unfinished h (List.not_mem_nil (a := separator))
  rw [List.append_nil] at hpieces
  rw [frames, completeLines, hpieces, if_pos List.getLast?_concat, List.dropLast_concat]

theorem frames_unfinished (h : ∀ line ∈ lines, separator ∉ line) (hrest : separator ∉ rest)
    (hne : rest ≠ []) :
    frames separator (terminated separator lines ++ rest) = lines ++ [rest] := by
  have hlast : ¬(lines ++ [rest]).getLast? = some [] := by
    rw [List.getLast?_concat, Option.some.injEq]
    exact hne
  rw [frames, splitOn_unfinished h hrest, if_neg hlast]

theorem fits_unfinished (h : ∀ line ∈ lines, separator ∉ line ∧ line.length ≤ limit)
    (hrest : separator ∉ rest) (hlength : rest.length ≤ limit) :
    Fits separator limit (terminated separator lines ++ rest) := by
  intro piece hpiece
  rw [splitOn_unfinished (fun line hline => (h line hline).1) hrest] at hpiece
  obtain hline | hlast := List.mem_append.mp hpiece
  · exact (h piece hline).2
  · obtain rfl := List.mem_singleton.mp hlast
    exact hlength

theorem fittingLines_eq {more : List (List α)}
    (h : ∀ line ∈ lines, separator ∉ line ∧ line.length ≤ limit)
    (hrest : rest.splitOn separator = piece :: more) (hlong : limit < piece.length) :
    fittingLines separator limit (terminated separator lines ++ rest) = lines := by
  rw [fittingLines, splitOn_terminated (fun line hline => (h line hline).1), hrest,
    List.takeWhile_append_of_pos fun line hline => decide_eq_true (h line hline).2,
    List.takeWhile_cons_of_neg (by simpa using hlong), List.append_nil]

theorem not_fits_of_long {more : List (List α)} (h : ∀ line ∈ lines, separator ∉ line)
    (hrest : rest.splitOn separator = piece :: more) (hlong : limit < piece.length) :
    ¬Fits separator limit (terminated separator lines ++ rest) := by
  intro hfits
  have hmem : piece ∈ (terminated separator lines ++ rest).splitOn separator := by
    rw [splitOn_terminated h, hrest]
    exact List.mem_append_right _ List.mem_cons_self
  have hle := hfits piece hmem
  omega

/-! ### More of a text -/

/-- Every text is complete lines and an unfinished one. -/
theorem exists_terminated (separator : α) (text : List α) :
    ∃ lines rest, text = terminated separator lines ++ rest ∧
      (∀ line ∈ lines, separator ∉ line) ∧ separator ∉ rest := by
  induction text with
  | nil => exact ⟨[], [], rfl, by simp, by simp⟩
  | cons a text ih =>
    obtain ⟨lines, rest, rfl, hlines, hrest⟩ := ih
    by_cases ha : a = separator
    · subst ha
      exact ⟨[] :: lines, rest, rfl, by simpa using hlines, hrest⟩
    · cases lines with
      | nil => exact ⟨[], a :: rest, rfl, by simp, by simp [hrest, Ne.symm ha]⟩
      | cons line lines =>
        refine ⟨(a :: line) :: lines, rest, rfl, ?_, hrest⟩
        obtain ⟨hline, hmore⟩ := List.forall_mem_cons.mp hlines
        exact List.forall_mem_cons.mpr ⟨by simp [hline, Ne.symm ha], hmore⟩

/-- More text prolongs the unfinished line first. -/
theorem splitOn_append_of_not_mem (h : separator ∉ rest) (more : List α) :
    ∃ head tail, (rest ++ more).splitOn separator = (rest ++ head) :: tail := by
  obtain ⟨lines, last, rfl, hlines, hlast⟩ := exists_terminated separator more
  cases lines with
  | nil =>
    have hboth : separator ∉ rest ++ last := by simp [h, hlast]
    exact ⟨last, [], List.splitOn_eq_singleton hboth⟩
  | cons line lines =>
    obtain ⟨hline, -⟩ := List.forall_mem_cons.mp hlines
    have hboth : separator ∉ rest ++ line := by simp [h, hline]
    have hshape : rest ++ (terminated separator (line :: lines) ++ last) =
        (rest ++ line) ++ separator :: (terminated separator lines ++ last) := by
      simp [terminated]
    rw [hshape, List.splitOn_append_cons_self_of_not_mem hboth]
    exact ⟨line, _, rfl⟩

/-- A complete line stays one. -/
theorem completeLines_mono (separator : α) (text more : List α) :
    completeLines separator text <+: completeLines separator (text ++ more) := by
  obtain ⟨lines, rest, rfl, hlines, hrest⟩ := exists_terminated separator text
  obtain ⟨head, tail, hpieces⟩ := splitOn_append_of_not_mem hrest more
  rw [completeLines_unfinished hlines hrest, completeLines, List.append_assoc,
    splitOn_terminated hlines, hpieces, List.dropLast_append_of_ne_nil (List.cons_ne_nil _ _)]
  exact List.prefix_append _ _

/-- The lines of a text that fits are no longer in its beginnings. -/
theorem Fits.of_append {more : List α} (h : Fits separator limit (text ++ more)) :
    Fits separator limit text := by
  obtain ⟨lines, rest, rfl, hlines, hrest⟩ := exists_terminated separator text
  obtain ⟨head, tail, hpieces⟩ := splitOn_append_of_not_mem hrest more
  rw [List.append_assoc, Fits, splitOn_terminated hlines, hpieces] at h
  intro piece hpiece
  rw [splitOn_unfinished hlines hrest] at hpiece
  obtain hline | hlast := List.mem_append.mp hpiece
  · exact h piece (List.mem_append_left _ hline)
  · obtain rfl := List.mem_singleton.mp hlast
    have hle := h (piece ++ head) (List.mem_append_right _ List.mem_cons_self)
    rw [List.length_append] at hle
    omega

end LineFrames
