import Mathlib.Init

/-!
# Fallible calls on a mutable object

A method that takes the object by mutable reference and may fail returns its
result beside the object it leaves behind, on failure as on success. The rules
say what sequencing does to an invariant and to clean failure. Two calls that
each fail cleanly compose to one that need not.
-/

namespace OpenBao.InPlaceEdits

variable {ε σ α β : Type*}

/-- The result of a call and the object afterwards. -/
def Edit (ε σ α : Type*) := σ → Except ε α × σ

namespace Edit

def ok (a : α) : Edit ε σ α := fun s => (.ok a, s)

/-- `first?` followed by `next`. -/
def andThen (first : Edit ε σ α) (next : α → Edit ε σ β) : Edit ε σ β := fun s =>
  match first s with
  | (.ok a, s') => next a s'
  | (.error e, s') => (.error e, s')

/-- A computation that does not touch the object. -/
def ofExcept (x : Except ε α) : Edit ε σ α := fun s => (x, s)

/-- Replace the object by a checked new version of it. -/
def checked (f : σ → Except ε σ) : Edit ε σ Unit := fun s =>
  match f s with
  | .ok s' => (.ok (), s')
  | .error e => (.error e, s)

/-- A failure from `s` leaves `s`. -/
def FailsCleanly (x : Edit ε σ α) (s : σ) : Prop := ∀ e, (x s).1 = .error e → (x s).2 = s

/-- The invariant survives the call, whatever its result. -/
def Preserves (I : σ → Prop) (x : Edit ε σ α) : Prop := ∀ s, I s → I (x s).2

@[simp] theorem ofExcept_andThen_ok (a : α) (next : α → Edit ε σ β) :
    (ofExcept (.ok a)).andThen next = next a := rfl

@[simp] theorem ofExcept_andThen_error (e : ε) (next : α → Edit ε σ β) :
    (ofExcept (.error e)).andThen next = ofExcept (.error e) := rfl

theorem ofExcept_failsCleanly (x : Except ε α) (s : σ) : (ofExcept x).FailsCleanly s :=
  fun _ _ => rfl

theorem checked_failsCleanly (f : σ → Except ε σ) (s : σ) : (checked f).FailsCleanly s := by
  intro e h
  cases hf : f s with
  | ok s' => simp [checked, hf] at h
  | error e' => simp [checked, hf]

/-- The exact condition under which a sequence of two checked calls fails
cleanly: the second must not fail after the first has changed the object. -/
theorem checked_andThen_failsCleanly_iff {f g : σ → Except ε σ} {s : σ}
    (hf : ∀ s', f s = .ok s' → s' ≠ s) :
    ((checked f).andThen fun _ => checked g).FailsCleanly s ↔
      ¬ ∃ s', f s = .ok s' ∧ ∃ e, g s' = .error e := by
  constructor
  · rintro h ⟨s', hs, e, he⟩
    have hh := h e (by simp [andThen, checked, hs, he])
    rw [andThen, checked, hs] at hh
    simp only [checked, he] at hh
    exact hf s' hs hh
  · intro h e he
    cases hs : f s with
    | error e' => simp [andThen, checked, hs]
    | ok s' =>
      cases hg : g s' with
      | ok s'' => simp [andThen, checked, hs, hg] at he
      | error e' => exact absurd ⟨s', hs, e', hg⟩ h

theorem Preserves.ofExcept (I : σ → Prop) (x : Except ε α) : Preserves I (Edit.ofExcept x) :=
  fun _ h => h

theorem Preserves.checked {I : σ → Prop} {f : σ → Except ε σ}
    (h : ∀ s s', I s → f s = .ok s' → I s') : Preserves I (Edit.checked f) := by
  intro s hs
  cases hf : f s with
  | ok s' => simpa [Edit.checked, hf] using h s s' hs hf
  | error e => simpa [Edit.checked, hf] using hs

theorem Preserves.andThen {I : σ → Prop} {x : Edit ε σ α} {next : α → Edit ε σ β}
    (hx : Preserves I x) (hn : ∀ a, Preserves I (next a)) : Preserves I (x.andThen next) := by
  intro s hs
  have h := hx s hs
  rcases hr : x s with ⟨r, s'⟩
  rw [hr] at h
  cases r with
  | ok a => simpa [Edit.andThen, hr] using hn a s' h
  | error e => simpa [Edit.andThen, hr] using h

/-- The object after a sequence of calls whose results are ignored. -/
def after (calls : List (Edit ε σ α)) (s : σ) : σ := calls.foldl (fun s x => (x s).2) s

theorem Preserves.after {I : σ → Prop} {calls : List (Edit ε σ α)} {s : σ}
    (hc : ∀ x ∈ calls, Preserves I x) (hs : I s) : I (Edit.after calls s) := by
  induction calls generalizing s with
  | nil => exact hs
  | cons x calls ih =>
    exact ih (fun y hy => hc y (List.mem_cons_of_mem _ hy)) (hc x (by simp) s hs)

end Edit
end OpenBao.InPlaceEdits
