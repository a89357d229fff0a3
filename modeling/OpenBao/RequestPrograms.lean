import Mathlib.Data.List.Forall2

/-!
# Programs that send requests

A program sends one request after the other to a shared server and may choose the
next request by the answers so far. Between two requests other clients may change
the server. `Exec` records every request with the server's state before and after
it; the rules split such a trace along the structure of the program.
-/

namespace OpenBao.RequestPrograms

variable {Req : Type} {Ans : Req → Type} {σ α β ε ι : Type}

inductive Prog (Req : Type) (Ans : Req → Type) (α : Type) where
  | done (a : α)
  | send (req : Req) (next : Ans req → Prog Req Ans α)

namespace Prog

/-- One request, answered. -/
def call (req : Req) : Prog Req Ans (Ans req) := .send req .done

def bind : Prog Req Ans α → (α → Prog Req Ans β) → Prog Req Ans β
  | .done a, f => f a
  | .send req next, f => .send req fun answer => (next answer).bind f

/-- Continue with the value of a program that may fail. -/
def andThen (p : Prog Req Ans (Except ε α)) (f : α → Prog Req Ans (Except ε β)) :
    Prog Req Ans (Except ε β) :=
  p.bind fun
    | .ok a => f a
    | .error e => .done (.error e)

theorem bind_assoc {γ : Type} (p : Prog Req Ans α) (f : α → Prog Req Ans β)
    (g : β → Prog Req Ans γ) : (p.bind f).bind g = p.bind fun a => (f a).bind g := by
  induction p with
  | done a => rfl
  | send req next ih =>
    simp only [bind]
    congr
    funext answer
    exact ih answer

theorem andThen_assoc {γ : Type} (p : Prog Req Ans (Except ε α))
    (f : α → Prog Req Ans (Except ε β)) (g : β → Prog Req Ans (Except ε γ)) :
    (p.andThen f).andThen g = p.andThen fun a => (f a).andThen g := by
  simp only [andThen, bind_assoc]
  congr
  funext result
  cases result <;> rfl

/-- A step without requests. -/
def attempt (result : Except ε α) (next : α → Prog Req Ans (Except ε β)) :
    Prog Req Ans (Except ε β) :=
  (done result).andThen next

@[simp] theorem attempt_ok (a : α) (next : α → Prog Req Ans (Except ε β)) :
    attempt (.ok a) next = next a := rfl

@[simp] theorem attempt_error (e : ε) (next : α → Prog Req Ans (Except ε β)) :
    attempt (.error e) next = .done (.error e) := rfl

theorem attempt_andThen {γ : Type} (result : Except ε α) (next : α → Prog Req Ans (Except ε β))
    (f : β → Prog Req Ans (Except ε γ)) :
    (attempt result next).andThen f = attempt result fun a => (next a).andThen f :=
  andThen_assoc _ _ _

theorem send_andThen (req : Req) (next : Ans req → Prog Req Ans (Except ε α))
    (f : α → Prog Req Ans (Except ε β)) :
    (send req next).andThen f = send req fun answer => (next answer).andThen f := rfl

theorem done_andThen (result : Except ε α) (f : α → Prog Req Ans (Except ε β)) :
    (done result).andThen f = attempt result f := rfl

/-- One program after the other, each with the result of those before it. -/
def traverse (step : β → ι → Prog Req Ans (Except ε β)) : List ι → β → Prog Req Ans (Except ε β)
  | [], b => .done (.ok b)
  | i :: items, b => (step b i).andThen (traverse step items)

/-- Every request that the program can send satisfies `Q`. -/
def Sends (Q : Req → Prop) : Prog Req Ans α → Prop
  | .done _ => True
  | .send req next => Q req ∧ ∀ answer, (next answer).Sends Q

end Prog

/-- A request that was answered. -/
structure Event (Ans : Req → Type) (σ : Type) where
  request : Req
  before : σ
  answer : Ans request
  after : σ

/-- How the server answers and what other clients may do between two requests. -/
structure Environment (Ans : Req → Type) (σ : Type) where
  serves : σ → (req : Req) → Ans req → σ → Prop
  others : σ → σ → Prop

/-- A run with its trace and result. -/
inductive Exec (env : Environment Ans σ) :
    σ → Prog Req Ans α → List (Event Ans σ) → α → σ → Prop where
  | done (s : σ) (a : α) : Exec env s (.done a) [] a s
  | send {s s₁ s₂ s' : σ} {req : Req} {next : Ans req → Prog Req Ans α} {answer : Ans req}
      {trace : List (Event Ans σ)} {a : α} (hothers : env.others s s₁)
      (hserves : env.serves s₁ req answer s₂) (hnext : Exec env s₂ (next answer) trace a s') :
      Exec env s (.send req next) (⟨req, s₁, answer, s₂⟩ :: trace) a s'

variable {env : Environment Ans σ} {s s' : σ} {trace : List (Event Ans σ)}

theorem exec_done_iff {a b : α} :
    Exec env s (.done a) trace b s' ↔ trace = [] ∧ b = a ∧ s' = s := by
  constructor
  · rintro ⟨⟩
    exact ⟨rfl, rfl, rfl⟩
  · rintro ⟨rfl, rfl, rfl⟩
    exact .done _ _

theorem exec_send_iff {req : Req} {next : Ans req → Prog Req Ans α} {b : α} :
    Exec env s (.send req next) trace b s' ↔
      ∃ s₁ answer s₂ rest, env.others s s₁ ∧ env.serves s₁ req answer s₂ ∧
        Exec env s₂ (next answer) rest b s' ∧ trace = ⟨req, s₁, answer, s₂⟩ :: rest := by
  constructor
  · rintro ⟨⟩
    exact ⟨_, _, _, _, ‹_›, ‹_›, ‹_›, rfl⟩
  · rintro ⟨s₁, answer, s₂, rest, hothers, hserves, hnext, rfl⟩
    exact .send hothers hserves hnext

theorem exec_bind_iff {p : Prog Req Ans α} {f : α → Prog Req Ans β} {b : β} :
    Exec env s (p.bind f) trace b s' ↔
      ∃ a first s₁ rest, Exec env s p first a s₁ ∧ Exec env s₁ (f a) rest b s' ∧
        trace = first ++ rest := by
  induction p generalizing s trace with
  | done a =>
    simp only [Prog.bind, exec_done_iff]
    constructor
    · exact fun h => ⟨a, [], s, trace, ⟨rfl, rfl, rfl⟩, h, rfl⟩
    · rintro ⟨_, _, _, rest, ⟨rfl, rfl, rfl⟩, h, rfl⟩
      exact h
  | send req next ih =>
    simp only [Prog.bind, exec_send_iff, ih]
    constructor
    · rintro ⟨s₁, answer, s₂, _, ho, hs, ⟨a, first, s₃, rest, hp, hf, rfl⟩, rfl⟩
      exact ⟨a, _, s₃, rest, ⟨s₁, answer, s₂, first, ho, hs, hp, rfl⟩, hf, rfl⟩
    · rintro ⟨a, _, s₃, rest, ⟨s₁, answer, s₂, first, ho, hs, hp, rfl⟩, hf, rfl⟩
      exact ⟨s₁, answer, s₂, _, ho, hs, ⟨a, first, s₃, rest, hp, hf, rfl⟩, rfl⟩

/-- A run is a run of every environment that allows more. -/
theorem Exec.mono {env' : Environment Ans σ} {p : Prog Req Ans α} {a : α}
    (hserves : ∀ s req answer s', env.serves s req answer s' → env'.serves s req answer s')
    (hothers : ∀ s s', env.others s s' → env'.others s s') (h : Exec env s p trace a s') :
    Exec env' s p trace a s' := by
  induction h with
  | done s a => exact .done s a
  | send ho hs _ ih => exact .send (hothers _ _ ho) (hserves _ _ _ _ hs) ih

/-- The last request leads to the final state. -/
theorem Exec.final_eq {p : Prog Req Ans α} {a : α} (h : Exec env s p trace a s') :
    s' = (trace.getLast?.map Event.after).getD s := by
  induction h with
  | done s a => rfl
  | send _ _ _ ih =>
    rw [ih, List.getLast?_cons]
    cases List.getLast? _ <;> rfl

theorem Exec.after_last {p : Prog Req Ans α} {a : α} {e : Event Ans σ}
    (h : Exec env s p trace a s') (he : trace.getLast? = some e) : e.after = s' := by
  have hfinal := h.final_eq
  rw [he] at hfinal
  exact hfinal.symm

/-- A sequence stops at the first failure. -/
theorem exec_andThen_iff {p : Prog Req Ans (Except ε α)} {f : α → Prog Req Ans (Except ε β)}
    {result : Except ε β} :
    Exec env s (p.andThen f) trace result s' ↔
      (∃ e, Exec env s p trace (.error e) s' ∧ result = .error e) ∨
      ∃ a first s₁ rest, Exec env s p first (.ok a) s₁ ∧ Exec env s₁ (f a) rest result s' ∧
        trace = first ++ rest := by
  rw [Prog.andThen, exec_bind_iff]
  constructor
  · rintro ⟨r, first, s₁, rest, hp, hf, rfl⟩
    cases r with
    | ok a => exact .inr ⟨a, first, s₁, rest, hp, hf, rfl⟩
    | error e =>
      obtain ⟨rfl, rfl, rfl⟩ := exec_done_iff.mp hf
      exact .inl ⟨e, by rwa [List.append_nil], rfl⟩
  · rintro (⟨e, hp, rfl⟩ | ⟨a, first, s₁, rest, hp, hf, rfl⟩)
    · exact ⟨.error e, trace, s', [], hp, .done _ _, by rw [List.append_nil]⟩
    · exact ⟨.ok a, first, s₁, rest, hp, hf, rfl⟩

theorem exec_andThen_ok_iff {p : Prog Req Ans (Except ε α)} {f : α → Prog Req Ans (Except ε β)}
    {b : β} :
    Exec env s (p.andThen f) trace (.ok b) s' ↔
      ∃ a first s₁ rest, Exec env s p first (.ok a) s₁ ∧ Exec env s₁ (f a) rest (.ok b) s' ∧
        trace = first ++ rest := by
  simp [exec_andThen_iff]

theorem exec_attempt_iff {x : Except ε α} {next : α → Prog Req Ans (Except ε β)}
    {result : Except ε β} :
    Exec env s (Prog.attempt x next) trace result s' ↔
      (∃ e, x = .error e ∧ trace = [] ∧ result = .error e ∧ s' = s) ∨
        ∃ a, x = .ok a ∧ Exec env s (next a) trace result s' := by
  cases x with
  | ok a => simp
  | error e => simp [exec_done_iff]

/-- A last step without requests adds none. -/
theorem exec_andThen_done_iff {p : Prog Req Ans (Except ε α)} {f : α → β} {result : Except ε β} :
    Exec env s (p.andThen fun a => .done (.ok (f a))) trace result s' ↔
      ∃ r, Exec env s p trace r s' ∧ result = r.map f := by
  rw [exec_andThen_iff]
  constructor
  · rintro (⟨e, hp, rfl⟩ | ⟨a, first, s₁, rest, hp, hdone, rfl⟩)
    · exact ⟨.error e, hp, rfl⟩
    · obtain ⟨rfl, rfl, rfl⟩ := exec_done_iff.mp hdone
      exact ⟨.ok a, by rwa [List.append_nil], rfl⟩
  · rintro ⟨e | a, hp, rfl⟩
    · exact .inl ⟨e, hp, rfl⟩
    · exact .inr ⟨a, trace, s', [], hp, .done _ _, by rw [List.append_nil]⟩

theorem exec_call_bind_iff {req : Req} {f : Ans req → Prog Req Ans β} {b : β} :
    Exec env s ((Prog.call req).bind f) trace b s' ↔
      ∃ s₁ answer s₂ rest, env.others s s₁ ∧ env.serves s₁ req answer s₂ ∧
        Exec env s₂ (f answer) rest b s' ∧ trace = ⟨req, s₁, answer, s₂⟩ :: rest :=
  exec_send_iff

/-- A failed program does not succeed. -/
theorem not_exec_error_ok {e : ε} {a : α} :
    ¬ Exec env s (.done (.error e) : Prog Req Ans (Except ε α)) trace (.ok a) s' := by
  intro h
  obtain ⟨-, hresult, -⟩ := exec_done_iff.mp h
  cases hresult

/-- Every successful run ends with a request for which `Q` holds of the result; `last`
is the request before the program. -/
def EndsWith (env : Environment Ans σ) (Q : α → Event Ans σ → Prop)
    (last : Option (Event Ans σ)) (p : Prog Req Ans (Except ε α)) : Prop :=
  ∀ s trace a s', Exec env s p trace (.ok a) s' → ∃ e, trace.getLast?.or last = some e ∧ Q a e

section EndsWith

variable {Q : α → Event Ans σ → Prop} {last : Option (Event Ans σ)}

theorem endsWith_ok {a : α} {e : Event Ans σ} (h : Q a e) :
    EndsWith env Q (some e) (.done (.ok a) : Prog Req Ans (Except ε α)) := by
  intro s trace b s' hrun
  obtain ⟨rfl, hb, -⟩ := exec_done_iff.mp hrun
  obtain rfl := Except.ok.inj hb
  exact ⟨e, rfl, h⟩

theorem endsWith_error (e : ε) :
    EndsWith env Q last (.done (.error e) : Prog Req Ans (Except ε α)) := by
  intro s trace b s' hrun
  exact absurd hrun not_exec_error_ok

theorem endsWith_call_bind {req : Req} {f : Ans req → Prog Req Ans (Except ε α)}
    (h : ∀ s₁ answer s₂, env.serves s₁ req answer s₂ →
      EndsWith env Q (some ⟨req, s₁, answer, s₂⟩) (f answer)) :
    EndsWith env Q last ((Prog.call req).bind f) := by
  intro s trace a s' hrun
  obtain ⟨s₁, answer, s₂, rest, -, hserves, hrest, rfl⟩ := exec_call_bind_iff.mp hrun
  obtain ⟨e, he, hq⟩ := h s₁ answer s₂ hserves s₂ rest a s' hrest
  refine ⟨e, ?_, hq⟩
  rw [List.getLast?_cons, Option.some_or, ← he]
  cases rest.getLast? <;> rfl

end EndsWith

/-- The program has a run, and all its runs satisfy `Q`. -/
structure Ensures (env : Environment Ans σ) (s : σ) (p : Prog Req Ans α)
    (Q : List (Event Ans σ) → α → σ → Prop) : Prop where
  total : ∃ trace a s', Exec env s p trace a s'
  only : ∀ trace a s', Exec env s p trace a s' → Q trace a s'

section Ensures

variable {Q Q' : List (Event Ans σ) → α → σ → Prop}

theorem ensures_done {a : α} (h : Q [] a s) : Ensures env s (.done a) Q := by
  refine ⟨⟨[], a, s, .done s a⟩, fun trace b s' hrun => ?_⟩
  obtain ⟨rfl, rfl, rfl⟩ := exec_done_iff.mp hrun
  exact h

theorem ensures_call_bind {req : Req} {f : Ans req → Prog Req Ans α}
    (hserved : ∃ s₁ answer s₂, env.others s s₁ ∧ env.serves s₁ req answer s₂)
    (h : ∀ s₁ answer s₂, env.others s s₁ → env.serves s₁ req answer s₂ →
      Ensures env s₂ (f answer) fun trace a s' => Q (⟨req, s₁, answer, s₂⟩ :: trace) a s') :
    Ensures env s ((Prog.call req).bind f) Q := by
  constructor
  · obtain ⟨s₁, answer, s₂, hothers, hserves⟩ := hserved
    obtain ⟨trace, a, s', hrest⟩ := (h s₁ answer s₂ hothers hserves).total
    exact ⟨_, a, s', .send hothers hserves hrest⟩
  · intro trace a s' hrun
    obtain ⟨s₁, answer, s₂, rest, hothers, hserves, hrest, rfl⟩ := exec_call_bind_iff.mp hrun
    exact (h s₁ answer s₂ hothers hserves).only _ _ _ hrest

theorem Ensures.mono {p : Prog Req Ans α} (h : Ensures env s p Q)
    (hQ : ∀ trace a s', Q trace a s' → Q' trace a s') : Ensures env s p Q' :=
  ⟨h.total, fun trace a s' hrun => hQ trace a s' (h.only trace a s' hrun)⟩

/-- A program that never fails, and what continues with its value. -/
theorem ensures_andThen {p : Prog Req Ans (Except ε α)} {f : α → Prog Req Ans (Except ε β)}
    {Q : List (Event Ans σ) → Except ε β → σ → Prop} {R : List (Event Ans σ) → α → σ → Prop}
    (hp : Ensures env s p fun trace r s' => ∃ a, r = .ok a ∧ R trace a s')
    (hf : ∀ first a s₁, R first a s₁ →
      Ensures env s₁ (f a) fun rest r s' => Q (first ++ rest) r s') :
    Ensures env s (p.andThen f) Q := by
  constructor
  · obtain ⟨first, r, s₁, hrun⟩ := hp.total
    obtain ⟨a, rfl, hR⟩ := hp.only _ _ _ hrun
    obtain ⟨rest, b, s', hrest⟩ := (hf first a s₁ hR).total
    exact ⟨_, b, s', exec_andThen_iff.mpr (.inr ⟨a, first, s₁, rest, hrun, hrest, rfl⟩)⟩
  · intro trace b s' hrun
    rcases exec_andThen_iff.mp hrun with ⟨e, hfail, -⟩ | ⟨a, first, s₁, rest, hfirst, hrest, rfl⟩
    · obtain ⟨a, hresult, -⟩ := hp.only _ _ _ hfail
      cases hresult
    · obtain ⟨a', hresult, hR⟩ := hp.only _ _ _ hfirst
      obtain rfl := Except.ok.inj hresult
      exact (hf first a s₁ hR).only _ _ _ hrest

end Ensures

/-- A run over a list of items, one trace for each item that was started. -/
inductive Stages (env : Environment Ans σ) (step : β → ι → Prog Req Ans (Except ε β)) :
    σ → β → List ι → List (List (Event Ans σ)) → Except ε β → σ → Prop where
  | nil (s : σ) (b : β) : Stages env step s b [] [] (.ok b) s
  | stop {s s' : σ} {b : β} {i : ι} {segment : List (Event Ans σ)} {e : ε} (items : List ι)
      (hstep : Exec env s (step b i) segment (.error e) s') :
      Stages env step s b (i :: items) [segment] (.error e) s'
  | next {s s₁ s' : σ} {b b₁ : β} {i : ι} {items : List ι} {segment : List (Event Ans σ)}
      {segments : List (List (Event Ans σ))} {result : Except ε β}
      (hstep : Exec env s (step b i) segment (.ok b₁) s₁)
      (hrest : Stages env step s₁ b₁ items segments result s') :
      Stages env step s b (i :: items) (segment :: segments) result s'

/-- The trace of a run over a list falls into the traces of its items. -/
theorem exec_traverse {step : β → ι → Prog Req Ans (Except ε β)} {items : List ι} {b : β}
    {result : Except ε β} (h : Exec env s (Prog.traverse step items b) trace result s') :
    ∃ segments, segments.flatten = trace ∧ Stages env step s b items segments result s' := by
  induction items generalizing s b trace with
  | nil =>
    obtain ⟨rfl, rfl, rfl⟩ := exec_done_iff.mp h
    exact ⟨[], rfl, .nil _ _⟩
  | cons i items ih =>
    rcases exec_andThen_iff.mp h with ⟨e, hstep, rfl⟩ | ⟨b₁, first, s₁, rest, hstep, hrest, rfl⟩
    · exact ⟨[trace], by simp, .stop items hstep⟩
    · obtain ⟨segments, rfl, hstages⟩ := ih hrest
      exact ⟨first :: segments, rfl, .next hstep hstages⟩

/-- Where every finished item adds one report, the stages of a run have the reports of their
items. An item that failed has none. -/
theorem Stages.reported {τ : Type} {step : β → ι → Prog Req Ans (Except ε β)} {items : List ι}
    {b : β} {segments : List (List (Event Ans σ))} {result : Except ε β} {reports : β → List τ}
    {R : ι → List (Event Ans σ) → Option τ → Prop}
    (h : Stages env step s b items segments result s')
    (hok : ∀ i ∈ items, ∀ s b segment b' s', Exec env s (step b i) segment (.ok b') s' →
      ∃ t, reports b' = reports b ++ [t] ∧ R i segment (some t))
    (herror : ∀ i ∈ items, ∀ s b segment e s', Exec env s (step b i) segment (.error e) s' →
      R i segment none) :
    ∃ stages : List (List (Event Ans σ) × Option τ), stages.map Prod.fst = segments ∧
      List.Forall₂ (fun i stage => R i stage.1 stage.2) (items.take stages.length) stages ∧
      ∀ b', result = .ok b' → (reports b').map some = (reports b).map some ++ stages.map Prod.snd := by
  induction h with
  | nil s b =>
    refine ⟨[], rfl, .nil, fun b' hresult => ?_⟩
    obtain rfl := Except.ok.inj hresult
    simp
  | stop items hstep =>
    refine ⟨[(_, none)], rfl, .cons (herror _ (by simp) _ _ _ _ _ hstep) .nil, ?_⟩
    intro b' hresult
    cases hresult
  | next hstep hrest ih =>
    obtain ⟨t, hreports, hr⟩ := hok _ (by simp) _ _ _ _ _ hstep
    obtain ⟨stages, hsegments, hall, hfinal⟩ := ih
      (fun i hi => hok i (List.mem_cons_of_mem _ hi))
      (fun i hi => herror i (List.mem_cons_of_mem _ hi))
    refine ⟨(_, some t) :: stages, by rw [List.map_cons, hsegments], .cons hr hall, ?_⟩
    intro b' hresult
    rw [hfinal b' hresult, hreports]
    simp

/-- A run over one item is a run of its step. -/
theorem exec_traverse_singleton_iff {step : β → ι → Prog Req Ans (Except ε β)} {i : ι} {b : β}
    {result : Except ε β} :
    Exec env s (Prog.traverse step [i] b) trace result s' ↔ Exec env s (step b i) trace result s' := by
  rw [Prog.traverse, exec_andThen_iff]
  constructor
  · rintro (⟨e, hstep, rfl⟩ | ⟨b₁, first, s₁, rest, hstep, hdone, rfl⟩)
    · exact hstep
    · obtain ⟨rfl, rfl, rfl⟩ := exec_done_iff.mp hdone
      rwa [List.append_nil]
  · intro hstep
    cases result with
    | error e => exact .inl ⟨e, hstep, rfl⟩
    | ok b₁ => exact .inr ⟨b₁, trace, s', [], hstep, .done _ _, by rw [List.append_nil]⟩

theorem ensures_traverse_singleton {step : β → ι → Prog Req Ans (Except ε β)} {i : ι} {b : β}
    {Q : List (Event Ans σ) → Except ε β → σ → Prop} (h : Ensures env s (step b i) Q) :
    Ensures env s (Prog.traverse step [i] b) Q := by
  constructor
  · obtain ⟨trace, result, s', hrun⟩ := h.total
    exact ⟨trace, result, s', exec_traverse_singleton_iff.mpr hrun⟩
  · intro trace result s' hrun
    exact h.only trace result s' (exec_traverse_singleton_iff.mp hrun)

theorem sends_call {Q : Req → Prop} {req : Req} (h : Q req) :
    (Prog.call req : Prog Req Ans _).Sends Q := ⟨h, fun _ => trivial⟩

theorem sends_bind {Q : Req → Prop} {p : Prog Req Ans α} {f : α → Prog Req Ans β}
    (hp : p.Sends Q) (hf : ∀ a, (f a).Sends Q) : (p.bind f).Sends Q := by
  induction p with
  | done a => exact hf a
  | send req next ih => exact ⟨hp.1, fun answer => ih answer (hp.2 answer)⟩

theorem sends_andThen {Q : Req → Prop} {p : Prog Req Ans (Except ε α)}
    {f : α → Prog Req Ans (Except ε β)} (hp : p.Sends Q) (hf : ∀ a, (f a).Sends Q) :
    (p.andThen f).Sends Q := by
  refine sends_bind hp fun r => ?_
  cases r with
  | ok a => exact hf a
  | error e => trivial

theorem sends_mono {Q Q' : Req → Prop} {p : Prog Req Ans α} (h : ∀ req, Q req → Q' req)
    (hp : p.Sends Q) : p.Sends Q' := by
  induction p with
  | done a => trivial
  | send req next ih => exact ⟨h req hp.1, fun answer => ih answer (hp.2 answer)⟩

theorem sends_of_forall {Q : Req → Prop} {p : Prog Req Ans α} (h : ∀ req, Q req) : p.Sends Q := by
  induction p with
  | done a => trivial
  | send req next ih => exact ⟨h req, ih⟩

theorem sends_of_bind {Q : Req → Prop} {p : Prog Req Ans α} {f : α → Prog Req Ans β}
    (h : (p.bind f).Sends Q) : p.Sends Q := by
  induction p with
  | done a => trivial
  | send req next ih => exact ⟨h.1, fun answer => ih answer (h.2 answer)⟩

/-- Every request of a trace is one that the program can send, served by the server. -/
theorem Exec.served {Q : Req → Prop} {p : Prog Req Ans α} {a : α}
    (h : Exec env s p trace a s') (hp : p.Sends Q) :
    ∀ e ∈ trace, Q e.request ∧ env.serves e.before e.request e.answer e.after := by
  induction h with
  | done s a => simp
  | send _ hserves _ ih =>
    rintro e (_ | ⟨_, he⟩)
    · exact ⟨hp.1, hserves⟩
    · exact ih (hp.2 _) e he

end OpenBao.RequestPrograms
