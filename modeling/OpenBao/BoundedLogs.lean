import Mathlib.Data.Nat.Notation
import Mathlib.Data.List.Basic

/-!
# Logs of bounded length

A log takes an input whole or refuses it, and remembers that it has refused one. A buffer
that implements such a log holds the accepted inputs, whatever it does with its memory,
and what is written to it piece by piece arrives complete or not at all.
-/

namespace OpenBao.BoundedLogs

variable {α β ε : Type} {limit : ℕ}

/-- Entries within a limit, and whether an input has been refused. -/
structure BoundedLog (α : Type) (limit : ℕ) where
  held : List α
  refused : Bool
  fits : held.length ≤ limit

namespace BoundedLog

def empty : BoundedLog α limit := ⟨[], false, Nat.zero_le _⟩

/-- The input fits behind the entries. -/
def Admits (log : BoundedLog α limit) (input : List α) : Prop :=
  log.held.length + input.length ≤ limit

instance (log : BoundedLog α limit) (input : List α) : Decidable (log.Admits input) :=
  inferInstanceAs (Decidable (_ ≤ _))

/-- Append an input that fits, refuse any other. -/
def offer (log : BoundedLog α limit) (input : List α) : BoundedLog α limit :=
  if h : log.Admits input then ⟨log.held ++ input, log.refused, by rwa [List.length_append]⟩
  else { log with refused := true }

def offerAll (log : BoundedLog α limit) (inputs : List (List α)) : BoundedLog α limit :=
  inputs.foldl offer log

variable {log : BoundedLog α limit} {input : List α}

theorem offer_held : (log.offer input).held =
    if log.Admits input then log.held ++ input else log.held := by
  rw [offer]
  split <;> rfl

theorem offer_refused : (log.offer input).refused = (log.refused || !decide (log.Admits input)) := by
  rw [offer]
  split <;> simp [*]

theorem offer_of_admits (h : log.Admits input) :
    (log.offer input).held = log.held ++ input ∧ (log.offer input).refused = log.refused := by
  rw [offer_held, offer_refused, if_pos h]
  simp [h]

theorem offer_of_not_admits (h : ¬log.Admits input) :
    (log.offer input).held = log.held ∧ (log.offer input).refused = true := by
  rw [offer_held, offer_refused, if_neg h]
  simp [h]

theorem admits_iff : log.Admits input ↔ ¬limit - log.held.length < input.length := by
  have hfits := log.fits
  rw [Admits]
  omega

theorem refused_offerAll (inputs : List (List α)) (h : log.refused = true) :
    (log.offerAll inputs).refused = true := by
  induction inputs generalizing log with
  | nil => exact h
  | cons input inputs ih => exact ih (by rw [offer_refused, h, Bool.true_or])

end BoundedLog

/-- The inputs that are accepted, one after the other, behind `used` entries. -/
def accepted (limit : ℕ) : ℕ → List (List α) → List (List α)
  | _, [] => []
  | used, input :: inputs =>
    if used + input.length ≤ limit then
      input :: accepted limit (used + input.length) inputs
    else accepted limit used inputs

theorem accepted_sublist (used : ℕ) (inputs : List (List α)) :
    (accepted limit used inputs).Sublist inputs := by
  fun_induction accepted limit used inputs with
  | case1 => exact .slnil
  | case2 used input inputs _ ih => exact ih.cons_cons input
  | case3 used input inputs _ ih => exact ih.cons input

namespace BoundedLog

variable {log : BoundedLog α limit}

/-- A log holds the accepted inputs in order. -/
theorem offerAll_held (inputs : List (List α)) : (log.offerAll inputs).held =
    log.held ++ (accepted limit log.held.length inputs).flatten := by
  induction inputs generalizing log with
  | nil => simp [offerAll, accepted]
  | cons input inputs ih =>
    change ((log.offer input).offerAll inputs).held = _
    rw [ih, offer_held, accepted]
    by_cases h : log.Admits input
    · rw [if_pos h, if_pos (show log.held.length + input.length ≤ limit from h)]
      simp
    · rw [if_neg h, if_neg (show ¬log.held.length + input.length ≤ limit from h)]

theorem offerAll_refused (inputs : List (List α)) : (log.offerAll inputs).refused = true ↔
    log.refused = true ∨ accepted limit log.held.length inputs ≠ inputs := by
  induction inputs generalizing log with
  | nil => simp [offerAll, accepted]
  | cons input inputs ih =>
    change ((log.offer input).offerAll inputs).refused = true ↔ _
    rw [ih, offer_refused, offer_held, accepted]
    by_cases h : log.Admits input
    · rw [if_pos h, if_pos (show log.held.length + input.length ≤ limit from h)]
      simp [h]
    · rw [if_neg h, if_neg (show ¬log.held.length + input.length ≤ limit from h)]
      have hne : accepted limit log.held.length inputs ≠ input :: inputs := by
        intro heq
        have hshort := heq ▸ (accepted_sublist log.held.length inputs).length_le
        rw [List.length_cons] at hshort
        omega
      simp [h, hne]

end BoundedLog

/-! ### Buffers -/

/-- An implementation: `represents` says which log a buffer stands for. -/
structure Implements (extend : β → List α → Except ε Unit × β)
    (represents : β → BoundedLog α limit → Prop) (tooLarge : ε) : Prop where
  result : ∀ b log input, represents b log →
    (extend b input).1 = if log.Admits input then .ok () else .error tooLarge
  step : ∀ b log input, represents b log → represents (extend b input).2 (log.offer input)

/-- The buffer after some inputs. -/
def after (extend : β → List α → Except ε Unit × β) (b : β) (inputs : List (List α)) : β :=
  inputs.foldl (fun b input => (extend b input).2) b

/-- Pieces written one after the other, up to the first that is refused. -/
def writePieces (extend : β → List α → Except ε Unit × β) : β → List (List α) →
    Except ε Unit × β
  | b, [] => (.ok (), b)
  | b, piece :: pieces =>
    match extend b piece with
    | (.ok (), b) => writePieces extend b pieces
    | (.error e, b) => (.error e, b)

/-- A buffer that takes the inputs for which it has room. -/
theorem implements_of_room {extend : β → List α → Except ε Unit × β}
    {represents : β → BoundedLog α limit → Prop} {tooLarge : ε} {room : β → ℕ}
    {take : β → List α → β} {refuse : β → β}
    (hextend : ∀ b input, extend b input =
      if room b < input.length then (.error tooLarge, refuse b) else (.ok (), take b input))
    (hroom : ∀ b log, represents b log → room b = limit - log.held.length)
    (htake : ∀ b log input, represents b log → log.Admits input →
      represents (take b input) (log.offer input))
    (hrefuse : ∀ b log input, represents b log → ¬log.Admits input →
      represents (refuse b) (log.offer input)) :
    Implements extend represents tooLarge where
  result b log input h := by
    rw [hextend, hroom b log h]
    by_cases hfits : log.Admits input
    · rw [if_neg (BoundedLog.admits_iff.mp hfits), if_pos hfits]
    · rw [if_pos (of_not_not (mt BoundedLog.admits_iff.mpr hfits)), if_neg hfits]
  step b log input h := by
    rw [hextend, hroom b log h]
    by_cases hfits : log.Admits input
    · rw [if_neg (BoundedLog.admits_iff.mp hfits)]
      exact htake b log input h hfits
    · rw [if_pos (of_not_not (mt BoundedLog.admits_iff.mpr hfits))]
      exact hrefuse b log input h hfits

namespace Implements

variable {extend : β → List α → Except ε Unit × β}
  {represents : β → BoundedLog α limit → Prop} {tooLarge : ε} {b : β} {log : BoundedLog α limit}

theorem after (h : Implements extend represents tooLarge) (hb : represents b log)
    (inputs : List (List α)) :
    represents (BoundedLogs.after extend b inputs) (log.offerAll inputs) := by
  induction inputs generalizing b log with
  | nil => exact hb
  | cons input inputs ih => exact ih (h.step b log input hb)

/-- Pieces that fit together arrive complete. -/
theorem writePieces_ok (h : Implements extend represents tooLarge) (hb : represents b log)
    {pieces : List (List α)} (hfits : log.Admits pieces.flatten) :
    ∃ b' log', writePieces extend b pieces = (.ok (), b') ∧ represents b' log' ∧
      log'.held = log.held ++ pieces.flatten ∧ log'.refused = log.refused := by
  induction pieces generalizing b log with
  | nil => exact ⟨b, log, rfl, hb, by simp, rfl⟩
  | cons piece pieces ih =>
    rw [BoundedLog.Admits, List.flatten_cons, List.length_append] at hfits
    have hpiece : log.Admits piece := by
      rw [BoundedLog.Admits]
      omega
    have hresult := h.result b log piece hb
    have hstep := h.step b log piece hb
    rw [if_pos hpiece] at hresult
    obtain ⟨hofferHeld, hofferRefused⟩ := BoundedLog.offer_of_admits hpiece
    have hrest : (log.offer piece).Admits pieces.flatten := by
      rw [BoundedLog.Admits, hofferHeld, List.length_append]
      omega
    obtain ⟨b', log', hwrite, hb', hheld, hrefused⟩ := ih hstep hrest
    refine ⟨b', log', ?_, hb', ?_, ?_⟩
    · rw [writePieces, ← Prod.eta (extend b piece), hresult]
      exact hwrite
    · rw [hheld, hofferHeld, List.flatten_cons, List.append_assoc]
    · rw [hrefused, hofferRefused]

/-- Pieces that do not fit together are refused at one of them. -/
theorem writePieces_error (h : Implements extend represents tooLarge) (hb : represents b log)
    {pieces : List (List α)} (hlong : ¬log.Admits pieces.flatten) :
    ∃ b' log', writePieces extend b pieces = (.error tooLarge, b') ∧ represents b' log' ∧
      log'.refused = true := by
  induction pieces generalizing b log with
  | nil =>
    rw [BoundedLog.Admits] at hlong
    exact absurd log.fits (by simpa using hlong)
  | cons piece pieces ih =>
    have hresult := h.result b log piece hb
    have hstep := h.step b log piece hb
    by_cases hpiece : log.Admits piece
    · rw [if_pos hpiece] at hresult
      have hrest : ¬(log.offer piece).Admits pieces.flatten := by
        rw [BoundedLog.Admits, List.flatten_cons, List.length_append] at hlong
        rw [BoundedLog.Admits, (BoundedLog.offer_of_admits hpiece).1, List.length_append]
        omega
      obtain ⟨b', log', hwrite, hb', hrefused⟩ := ih hstep hrest
      refine ⟨b', log', ?_, hb', hrefused⟩
      rw [writePieces, ← Prod.eta (extend b piece), hresult]
      exact hwrite
    · rw [if_neg hpiece] at hresult
      refine ⟨_, _, ?_, hstep, (BoundedLog.offer_of_not_admits hpiece).2⟩
      rw [writePieces, ← Prod.eta (extend b piece), hresult]

end Implements

end OpenBao.BoundedLogs
