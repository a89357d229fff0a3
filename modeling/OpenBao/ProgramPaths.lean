import OpenBao.RequestPrograms

/-!
# Paths of a program

What a program has sent and received so far, and where it stands. A path may end anywhere,
also between a request and its answer: a caller can drop the program there.
-/

namespace OpenBao.RequestPrograms

variable {Req : Type} {Ans : Req → Type} {α β ε : Type}

inductive Mark (Ans : Req → Type) where
  | sent (req : Req)
  | answered (req : Req) (answer : Ans req)

inductive Thread (Req : Type) (Ans : Req → Type) (α : Type) where
  | running (p : Prog Req Ans α)
  | waiting (req : Req) (next : Ans req → Prog Req Ans α)

inductive Path : Prog Req Ans α → List (Mark Ans) → Thread Req Ans α → Prop where
  | start (p : Prog Req Ans α) : Path p [] (.running p)
  | sent (req : Req) (next : Ans req → Prog Req Ans α) :
      Path (.send req next) [.sent req] (.waiting req next)
  | answered {req : Req} {next : Ans req → Prog Req Ans α} {answer : Ans req}
      {marks : List (Mark Ans)} {thread : Thread Req Ans α} (h : Path (next answer) marks thread) :
      Path (.send req next) (.sent req :: .answered req answer :: marks) thread

variable {p : Prog Req Ans α} {req : Req} {next : Ans req → Prog Req Ans α}
  {marks : List (Mark Ans)} {thread : Thread Req Ans α}

theorem Path.send (h : Path p marks (.running (.send req next))) :
    Path p (marks ++ [.sent req]) (.waiting req next) := by
  generalize hthread : Thread.running (.send req next) = thread at h
  induction h with
  | start p =>
    cases hthread
    exact .sent req next
  | sent => cases hthread
  | answered _ ih => exact .answered (ih hthread)

theorem Path.answer (h : Path p marks (.waiting req next)) (answer : Ans req) :
    Path p (marks ++ [.answered req answer]) (.running (next answer)) := by
  generalize hthread : Thread.waiting req next = thread at h
  induction h with
  | start p => cases hthread
  | sent =>
    cases hthread
    exact .answered (.start _)
  | answered _ ih => exact .answered (ih hthread)

theorem path_done_iff {a : α} :
    Path (.done a) marks thread ↔ marks = [] ∧ thread = .running (.done a) := by
  constructor
  · rintro ⟨⟩
    exact ⟨rfl, rfl⟩
  · rintro ⟨rfl, rfl⟩
    exact .start _

theorem path_send_iff :
    Path (.send req next) marks thread ↔
      (marks = [] ∧ thread = .running (.send req next)) ∨
        (marks = [.sent req] ∧ thread = .waiting req next) ∨
          ∃ answer rest, marks = .sent req :: .answered req answer :: rest ∧
            Path (next answer) rest thread := by
  constructor
  · rintro (_ | _ | h)
    · exact .inl ⟨rfl, rfl⟩
    · exact .inr (.inl ⟨rfl, rfl⟩)
    · exact .inr (.inr ⟨_, _, rfl, h⟩)
  · rintro (⟨rfl, rfl⟩ | ⟨rfl, rfl⟩ | ⟨answer, rest, rfl, h⟩)
    · exact .start _
    · exact .sent req next
    · exact .answered h

/-- A step without requests ends the program, or is passed. -/
theorem Path.attempt {result : Except ε α} {next : α → Prog Req Ans (Except ε β)}
    {thread : Thread Req Ans (Except ε β)} (h : Path (.attempt result next) marks thread) :
    (marks = [] ∧ ∃ e, thread = .running (.done (.error e))) ∨
      ∃ a, result = .ok a ∧ Path (next a) marks thread := by
  cases result with
  | error e => exact .inl ⟨(path_done_iff.mp h).1, e, (path_done_iff.mp h).2⟩
  | ok a => exact .inr ⟨a, rfl, h⟩

/-- A log in which each event is justified by the events before it. -/
inductive Justified {ε : Type} (P : List ε → ε → Prop) : List ε → Prop where
  | nil : Justified P []
  | snoc {log : List ε} {e : ε} (h : Justified P log) (he : P log e) : Justified P (log ++ [e])

theorem Justified.split {ε : Type} {P : List ε → ε → Prop} {log before after : List ε} {e : ε}
    (h : Justified P log) (hlog : log = before ++ e :: after) : P before e := by
  induction h generalizing after with
  | nil => simp at hlog
  | @snoc log last h he ih =>
    rcases List.eq_nil_or_concat after with rfl | ⟨rest, x, rfl⟩
    · obtain ⟨rfl, hlast⟩ := List.append_inj' hlog rfl
      cases hlast
      exact he
    · rw [List.concat_eq_append, ← List.cons_append, ← List.append_assoc] at hlog
      exact ih (List.append_inj' hlog rfl).1

end OpenBao.RequestPrograms
