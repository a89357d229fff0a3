import Mathlib.Data.List.Basic

/-!
# Readers of token lists

Readers consume a prefix of a token list and return a value. `Reads` says that a
reader takes exactly the given tokens and yields the given value whenever the
remaining tokens satisfy a condition. It composes along the binds of a reader,
so that a reader inverts a writer when its parts invert the writer's parts.
-/

namespace OpenBao.TokenReaders

abbrev TokenReader (τ : Type) := StateT (List τ) Option

namespace TokenReader

variable {τ α β : Type}

def expect [DecidableEq τ] (ts : List τ) : TokenReader τ Unit := fun input =>
  (input.dropPrefix? ts).map fun rest => ((), rest)

/-- The value of the next token. -/
def token (f : τ → Option α) : TokenReader τ α
  | [] => none
  | t :: ts => (f t).map fun a => (a, ts)

/-- An item if the next token is `t`, nothing otherwise. -/
def whenNext [DecidableEq τ] (t : τ) (item : TokenReader τ α) : TokenReader τ (Option α) :=
  fun input =>
    if input.head? = some t then (item input).map fun p => (some p.1, p.2)
    else some (none, input)

/-- Values of single tokens between `comma`s, up to and including `close`. -/
def listed [DecidableEq τ] (comma close : τ) (f : τ → Option α) : TokenReader τ (List α)
  | [] => none
  | [t] => if t = close then some ([], []) else none
  | t :: t' :: ts =>
    if t = close then some ([], t' :: ts)
    else (f t).bind fun a =>
      if t' = close then some ([a], ts)
      else if t' = comma then (listed comma close f ts).map fun p => (a :: p.1, p.2)
      else none

/-- Items until `atEnd` holds of the input. One unit of fuel pays for an item. -/
def itemsUntil (atEnd : List τ → Bool) (item : TokenReader τ α) : ℕ → TokenReader τ (List α)
  | 0, input => if atEnd input then some ([], input) else none
  | n + 1, input =>
    if atEnd input then some ([], input)
    else (item input).bind fun p =>
      (itemsUntil atEnd item n p.2).map fun q => (p.1 :: q.1, q.2)

/-- Items until `atEnd`. No more items are read than tokens are there. -/
def items (atEnd : List τ → Bool) (item : TokenReader τ α) : TokenReader τ (List α) := fun input =>
  itemsUntil atEnd item input.length input

/-- A value that the tokens read so far determine. -/
def ofOption (a : Option α) : TokenReader τ α := fun input => a.map fun a => (a, input)

/-- `p` takes `ts` and yields `a` before any rest that satisfies `follow`. -/
def Reads (p : TokenReader τ α) (follow : List τ → Prop) (ts : List τ) (a : α) : Prop :=
  ∀ rest, follow rest → p (ts ++ rest) = some (a, rest)

/-- No condition on what follows. -/
def Anything (_ : List τ) : Prop := True

theorem Reads.pure (a : α) (follow : List τ → Prop) :
    Reads (Pure.pure a : TokenReader τ α) follow [] a := fun _ _ => rfl

theorem Reads.bind {p : TokenReader τ α} {q : α → TokenReader τ β} {F G : List τ → Prop}
    {ts us : List τ} {a : α} {b : β} (hp : Reads p F ts a) (hq : Reads (q a) G us b)
    (hF : ∀ rest, G rest → F (us ++ rest)) : Reads (p >>= q) G (ts ++ us) b := by
  intro rest hr
  have h := hp (us ++ rest) (hF rest hr)
  rw [List.append_assoc]
  simp only [Bind.bind, StateT.bind, h]
  exact hq rest hr

theorem Reads.next {p : TokenReader τ α} {q : α → TokenReader τ β} {G : List τ → Prop}
    {ts us : List τ} {a : α} {b : β} (hp : Reads p Anything ts a) (hq : Reads (q a) G us b) :
    Reads (p >>= q) G (ts ++ us) b :=
  hp.bind hq fun _ _ => trivial

/-- A last step that takes no tokens. -/
theorem Reads.last {p : TokenReader τ α} {q : α → TokenReader τ β} {G : List τ → Prop}
    {ts : List τ} {a : α} {b : β} (hp : Reads p Anything ts a) (hq : Reads (q a) G [] b) :
    Reads (p >>= q) G ts b := by
  have h := hp.next hq
  rwa [List.append_nil] at h

theorem Reads.mono {p : TokenReader τ α} {F G : List τ → Prop} {ts : List τ} {a : α}
    (h : Reads p F ts a) (hG : ∀ rest, G rest → F rest) : Reads p G ts a :=
  fun rest hr => h rest (hG rest hr)

theorem reads_expect [DecidableEq τ] (ts : List τ) (follow : List τ → Prop) :
    Reads (expect ts) follow ts () := by
  intro rest _
  have h : (ts ++ rest).dropPrefix? ts = some rest := by simp [List.dropPrefix?_eq_some_iff]
  simp [expect, h]

theorem reads_token {f : τ → Option α} {t : τ} {a : α} (h : f t = some a)
    (follow : List τ → Prop) : Reads (token f) follow [t] a := by
  intro rest _
  simp [token, h]

theorem reads_whenNext_some [DecidableEq τ] {t : τ} {item : TokenReader τ α}
    {follow : List τ → Prop} {ts : List τ} {a : α} (h : Reads item follow (t :: ts) a) :
    Reads (whenNext t item) follow (t :: ts) (some a) := by
  intro rest hr
  have hi := h rest hr
  rw [List.cons_append] at hi ⊢
  simp [whenNext, hi]

theorem reads_whenNext_none [DecidableEq τ] (t : τ) (item : TokenReader τ α) :
    Reads (whenNext t item) (fun rest => rest.head? ≠ some t) [] none := by
  intro rest hr
  simp [whenNext, hr]

theorem reads_listed [DecidableEq τ] {comma close : τ} {f : τ → Option α} {g : α → τ}
    (hg : ∀ a, f (g a) = some a ∧ g a ≠ close) (hc : comma ≠ close) (as : List α)
    (follow : List τ → Prop) :
    Reads (listed comma close f) follow ((as.map g).intersperse comma ++ [close]) as := by
  intro rest _
  induction as with
  | nil =>
    cases rest with
    | nil => simp [listed]
    | cons t ts => simp [listed]
  | cons a as ih =>
    cases as with
    | nil => simp [listed, hg a]
    | cons a' as => simpa [listed, hg a, hc] using ih

theorem reads_itemsUntil {atEnd : List τ → Bool} {item : TokenReader τ α} {g : α → List τ}
    {as : List α} {n : ℕ} (hn : as.length ≤ n)
    (hi : ∀ a ∈ as, Reads item Anything (g a) a)
    (hs : ∀ a ∈ as, ∀ rest, atEnd (g a ++ rest) = false) :
    Reads (itemsUntil atEnd item n) (fun rest => atEnd rest = true) (as.flatMap g) as := by
  intro rest hr
  induction as generalizing n with
  | nil => cases n <;> simp [itemsUntil, hr]
  | cons a as ih =>
    obtain ⟨m, rfl⟩ : ∃ m, n = m + 1 := ⟨n - 1, by simp at hn; omega⟩
    have ha := hi a (by simp) (as.flatMap g ++ rest) trivial
    have has := ih (n := m) (by simpa using hn) (fun b hb => hi b (List.mem_cons_of_mem _ hb))
      (fun b hb => hs b (List.mem_cons_of_mem _ hb))
    rw [List.flatMap_cons, List.append_assoc]
    simp [itemsUntil, hs a (by simp), ha, has]

theorem reads_items {atEnd : List τ → Bool} {item : TokenReader τ α} {g : α → List τ}
    {as : List α} (hi : ∀ a ∈ as, Reads item Anything (g a) a)
    (hs : ∀ a ∈ as, ∀ rest, atEnd (g a ++ rest) = false) (hg : ∀ a ∈ as, g a ≠ []) :
    Reads (items atEnd item) (fun rest => atEnd rest = true) (as.flatMap g) as := by
  have hlen : as.length ≤ (as.flatMap g).length := by
    clear hi hs
    induction as with
    | nil => simp
    | cons a as ih =>
      have ha := List.length_pos_iff.mpr (hg a (by simp))
      have has := ih fun b hb => hg b (List.mem_cons_of_mem _ hb)
      simp only [List.length_cons, List.flatMap_cons, List.length_append]
      omega
  intro rest hr
  exact reads_itemsUntil (by rw [List.length_append]; omega) hi hs rest hr

theorem reads_ofOption {a : Option α} {b : α} (h : a = some b) (follow : List τ → Prop) :
    Reads (ofOption a) follow [] b := by
  intro rest _
  simp [ofOption, h]

end TokenReader
end OpenBao.TokenReaders
