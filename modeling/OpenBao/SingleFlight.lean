import Mathlib.Logic.Relation

/-!
# A value computed once

A shared cell that one party at a time may lease in order to compute its value. A
lease can be given back. A value that was stored stays. The last rule carries a
simulation of single steps to whole runs.
-/

namespace OpenBao.SingleFlight
open Relation

variable {Party Value σ τ : Type*}

inductive Cell (Party Value : Type*) where
  | idle
  | leased (party : Party)
  | settled (value : Value)

inductive Move : Cell Party Value → Cell Party Value → Prop where
  | lease (p : Party) : Move .idle (.leased p)
  | release (p : Party) : Move (.leased p) .idle
  | settle (p : Party) (v : Value) : Move (.leased p) (.settled v)

/-- No party overwrites a stored value. -/
theorem settled_final {v : Value} {cell : Cell Party Value}
    (h : ReflTransGen Move (.settled v) cell) : cell = .settled v := by
  induction h with
  | refl => rfl
  | tail _ hmove ih =>
    subst ih
    cases hmove

/-- Steps that each match at most one move match moves along a run. -/
theorem run_simulates {step : σ → σ → Prop} {move : τ → τ → Prop} {R : σ → τ → Prop}
    (hstep : ∀ s s' t, step s s' → R s t → ∃ t', ReflGen move t t' ∧ R s' t')
    {s s' : σ} {t : τ} (hrun : ReflTransGen step s s') (hR : R s t) :
    ∃ t', ReflTransGen move t t' ∧ R s' t' := by
  induction hrun with
  | refl => exact ⟨t, .refl, hR⟩
  | tail _ hs ih =>
    obtain ⟨u, hu, hRu⟩ := ih
    obtain ⟨t', ht', hR'⟩ := hstep _ _ _ hs hRu
    exact ⟨t', hu.trans ht'.to_reflTransGen, hR'⟩

end OpenBao.SingleFlight
