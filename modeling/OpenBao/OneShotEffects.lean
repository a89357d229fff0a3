import Mathlib.Data.List.Basic
import Mathlib.Data.Nat.Notation

/-!
# Effects that happen at most once

A party may begin an effect of some kind, send it, and receive what it produced, each at
most once and in this order. A log tells of a stage of this when the marks that count
are the stage's trace.
-/

namespace OpenBao.OneShotEffects

variable {κ β μ : Type*}

/-- How far the effect is. -/
inductive Stage (κ β : Type*) where
  | fresh
  | begun (kind : κ)
  | sent (kind : κ)
  | received (kind : κ) (body : β)
  deriving DecidableEq

/-- A mark that counts. -/
inductive Sign (κ β : Type*) where
  | begun (kind : κ)
  | sent
  | received (kind : κ) (body : β)
  deriving DecidableEq

def Stage.trace : Stage κ β → List (Sign κ β)
  | fresh => []
  | begun kind => [.begun kind]
  | sent kind => [.begun kind, .sent]
  | received kind body => [.begun kind, .sent, .received kind body]

variable (sign : μ → Option (Sign κ β))

def Tells (log : List μ) (stage : Stage κ β) : Prop := log.filterMap sign = stage.trace

variable {sign} {log more : List μ} {stage : Stage κ β} {m : μ} {kind : κ} {body : β}

theorem Tells.append (h : Tells sign log stage) (stage' : Stage κ β)
    (hmore : stage.trace ++ more.filterMap sign = stage'.trace) : Tells sign (log ++ more) stage' := by
  rw [Tells, List.filterMap_append, h, hmore]

/-- Marks that do not count leave the stage. -/
theorem Tells.append_silent (h : Tells sign log stage) (hmore : more.filterMap sign = []) :
    Tells sign (log ++ more) stage :=
  h.append stage (by rw [hmore, List.append_nil])

theorem Tells.mem_iff (h : Tells sign log stage) (s : Sign κ β) :
    (∃ m ∈ log, sign m = some s) ↔ s ∈ stage.trace := by
  rw [← h, List.mem_filterMap]

/-- The effect is sent at most once. -/
theorem Tells.sent_once [DecidableEq (Sign κ β)] (h : Tells sign log stage) :
    (log.filterMap sign).count .sent ≤ 1 := by
  rw [h]
  cases stage <;> simp [Stage.trace]

theorem Stage.begun_mem_trace_iff : (∃ kind, .begun kind ∈ stage.trace) ↔ stage ≠ .fresh := by
  cases stage <;> simp [Stage.trace]

theorem Stage.received_mem_trace_iff :
    .received kind body ∈ stage.trace ↔ stage = .received kind body := by
  cases stage <;> simp [Stage.trace, eq_comm]

end OpenBao.OneShotEffects
