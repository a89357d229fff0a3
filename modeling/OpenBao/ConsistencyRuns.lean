import OpenBao.ConsistencyContexts

/-!
# Runs of consistency contexts

Contexts, the indices they returned, and their calls, which may overlap in any way and may
be dropped at any point. The log holds what the calls sent, received and returned.
-/

namespace OpenBao.ConsistencyContexts
open ConsistencyIndices OwnedAddresses RequestPrograms Utf8Text

/-- A place for a value that is made once and dropped once. -/
inductive Slot (α : Type) where
  | vacant
  | live (a : α)
  | dropped

def Slot.live? {α : Type} : Slot α → Option α
  | live a => some a
  | _ => none

variable {N : Type} (codec : Codec N) (T : Type)

inductive Happening where
  | mark (mark : Mark (Answer T))
  | returned (result : Except Error (ConsistencyResponse codec T))

/-- What happened to one call. `serial` is the number of its context. -/
structure Event where
  serial : ℕ
  context : ConsistencyContext
  call : ℕ
  what : Happening codec T

/-- A call in progress. It borrows its context and the index that it was given. -/
structure Call where
  owner : ℕ
  context : ConsistencyContext
  arguments : Arguments codec T
  after : Option ℕ
  thread : Thread Request (Answer T) (Except Error (ConsistencyResponse codec T))

/-- All contexts, indices and calls, by their numbers. An index has the number of the context
that returned it. -/
structure System where
  contexts : ℕ → Slot ConsistencyContext
  indices : ℕ → Slot (ScopedConsistencyIndex codec × ℕ)
  calls : ℕ → Slot (Call codec T)
  log : List (Event codec T)

variable {codec T}

def Happening.mark? : Happening codec T → Option (Mark (Answer T))
  | mark m => some m
  | returned _ => none

/-- What the call with the number `id` has sent and received. -/
def marksOf (id : ℕ) (log : List (Event codec T)) : List (Mark (Answer T)) :=
  log.filterMap fun e => if e.call = id then e.what.mark? else none

namespace System

def init : System codec T := ⟨fun _ => .vacant, fun _ => .vacant, fun _ => .vacant, []⟩

/-- The references to identities: those of the contexts, and those of the indices. -/
def references (s : System codec T) : References (ℕ ⊕ ℕ) Address ℕ
  | .inl k => (s.contexts k).live?.map fun context => (context.identity, k)
  | .inr j => (s.indices j).live?.map fun held => (held.1.identity, held.2)

/-- The index that a call is given is one that somebody holds. -/
def Holds (s : System codec T) (after : Option ℕ) (given : Option (ScopedConsistencyIndex codec)) :
    Prop :=
  (after = none ∧ given = none) ∨
    ∃ j index owner, after = some j ∧ s.indices j = .live (index, owner) ∧ given = some index

def setContext (s : System codec T) (k : ℕ) (slot : Slot ConsistencyContext) : System codec T :=
  { s with contexts := Function.update s.contexts k slot }

def setIndex (s : System codec T) (j : ℕ) (slot : Slot (ScopedConsistencyIndex codec × ℕ)) :
    System codec T :=
  { s with indices := Function.update s.indices j slot }

def setCall (s : System codec T) (id : ℕ) (slot : Slot (Call codec T)) : System codec T :=
  { s with calls := Function.update s.calls id slot }

/-- The call goes on, and the mark is logged. -/
def record (s : System codec T) (id : ℕ) (call : Call codec T) (mark : Mark (Answer T))
    (thread : Thread Request (Answer T) (Except Error (ConsistencyResponse codec T))) :
    System codec T :=
  { s.setCall id (.live { call with thread }) with
    log := s.log ++ [⟨call.owner, call.context, id, .mark mark⟩] }

/-- The call returns; the caller keeps its index, if any, in the slot `j`. -/
def finish (s : System codec T) (id : ℕ) (call : Call codec T)
    (result : Except Error (ConsistencyResponse codec T)) (j : ℕ) : System codec T :=
  let returned :=
    { s.setCall id .dropped with
      log := s.log ++ [⟨call.owner, call.context, id, .returned result⟩] }
  match result with
  | .ok ⟨_, some index⟩ => returned.setIndex j (.live (index, call.owner))
  | _ => returned

end System

inductive Step : System codec T → System codec T → Prop where
  | openContext {s : System codec T} (k : ℕ) (client : Client) (version : OpenBaoVersion)
      (cluster : Str) (identity : Address) (marks : List (Mark (Answer T)))
      (hvacant : s.contexts k = .vacant)
      (hopened : Path (consistency client) marks (.running (.done (.ok (version, cluster)))))
      (hfresh : Unallocated s.references identity) :
      Step s (s.setContext k (.live ⟨client, cluster, version, identity⟩))
  | dropContext {s : System codec T} (k : ℕ) (context : ConsistencyContext)
      (hlive : s.contexts k = .live context)
      (hfree : ∀ id call, s.calls id = .live call → call.owner ≠ k) :
      Step s (s.setContext k .dropped)
  | dropIndex {s : System codec T} (j : ℕ) (held : ScopedConsistencyIndex codec × ℕ)
      (hlive : s.indices j = .live held)
      (hfree : ∀ id call, s.calls id = .live call → call.after ≠ some j) :
      Step s (s.setIndex j .dropped)
  | start {s : System codec T} (id k : ℕ) (context : ConsistencyContext)
      (arguments : Arguments codec T) (after : Option ℕ) (hvacant : s.calls id = .vacant)
      (hcontext : s.contexts k = .live context) (hafter : s.Holds after arguments.after) :
      Step s (s.setCall id (.live
        ⟨k, context, arguments, after, .running (requestJson context arguments)⟩))
  | send {s : System codec T} (id : ℕ) (call : Call codec T) (req : Request)
      (next : Answer T req → Program T (ConsistencyResponse codec T))
      (hlive : s.calls id = .live call) (hthread : call.thread = .running (.send req next)) :
      Step s (s.record id call (.sent req) (.waiting req next))
  | answer {s : System codec T} (id : ℕ) (call : Call codec T) (req : Request)
      (next : Answer T req → Program T (ConsistencyResponse codec T)) (answer : Answer T req)
      (hlive : s.calls id = .live call) (hthread : call.thread = .waiting req next) :
      Step s (s.record id call (.answered req answer) (.running (next answer)))
  | finish {s : System codec T} (id : ℕ) (call : Call codec T)
      (result : Except Error (ConsistencyResponse codec T)) (j : ℕ)
      (hlive : s.calls id = .live call) (hthread : call.thread = .running (.done result))
      (hvacant : s.indices j = .vacant) :
      Step s (s.finish id call result j)
  | cancel {s : System codec T} (id : ℕ) (call : Call codec T) (hlive : s.calls id = .live call) :
      Step s (s.setCall id .dropped)

def Reachable : System codec T → Prop := Relation.ReflTransGen Step System.init

/-- A context has returned the index. -/
def Issued (log : List (Event codec T)) (serial : ℕ) (index : ScopedConsistencyIndex codec) : Prop :=
  ∃ e ∈ log, e.serial = serial ∧
    ∃ response, e.what = .returned (.ok response) ∧ response.index = some index

/-- What an event says about the events before it. -/
def Lawful (before : List (Event codec T)) (e : Event codec T) : Prop :=
  match e.what with
  | .mark (.sent (.health request)) => request.Tokenless ∧ marksOf e.call before = []
  | .mark (.sent (.operation request)) =>
    (∃ first, ∃ answer : Answer T (.health first), first.Tokenless ∧ Confirms e.context answer ∧
      marksOf e.call before = [.sent (.health first), .answered (.health first) answer]) ∧
        ∀ value, ("x-vault-index", value) ∈ request.headers →
          ∃ index, Issued before e.serial index ∧ value = index.index.encoded
  | .mark (.answered _ _) => True
  | .returned (.ok response) =>
    ∃ first, ∃ health : Answer T (.health first), ∃ request,
      ∃ answer : Answer T (.operation request), Received e.context answer response ∧
        marksOf e.call before = [.sent (.health first), .answered (.health first) health,
          .sent (.operation request), .answered (.operation request) answer]
  | .returned (.error _) => True

variable {s s' : System codec T}

theorem marksOf_append (id : ℕ) (log : List (Event codec T)) (e : Event codec T) :
    marksOf id (log ++ [e]) =
      marksOf id log ++ if e.call = id then e.what.mark?.toList else [] := by
  rw [marksOf, List.filterMap_append]
  congr 1
  by_cases h : e.call = id
  · simp only [h, if_true, List.filterMap_cons, List.filterMap_nil]
    cases e.what.mark? <;> rfl
  · simp [h]

theorem Issued.append {log : List (Event codec T)} {serial : ℕ}
    {index : ScopedConsistencyIndex codec} (h : Issued log serial index) (e : Event codec T) :
    Issued (log ++ [e]) serial index := by
  obtain ⟨e', he', h⟩ := h
  exact ⟨e', List.mem_append_left _ he', h⟩

namespace System

theorem references_setContext (s : System codec T) (k : ℕ) (slot : Slot ConsistencyContext) :
    (s.setContext k slot).references =
      Function.update s.references (.inl k) (slot.live?.map fun c => (c.identity, k)) := by
  funext x
  rcases x with k' | j
  · by_cases h : k' = k
    · subst h
      simp [references, setContext]
    · simp [references, setContext, h]
  · simp [references, setContext]

theorem references_setIndex (s : System codec T) (j : ℕ)
    (slot : Slot (ScopedConsistencyIndex codec × ℕ)) :
    (s.setIndex j slot).references =
      Function.update s.references (.inr j) (slot.live?.map fun x => (x.1.identity, x.2)) := by
  funext x
  rcases x with k | j'
  · simp [references, setIndex]
  · by_cases h : j' = j
    · subst h
      simp [references, setIndex]
    · simp [references, setIndex, h]

/-- What the call borrows is in place. -/
def Borrowed (s : System codec T) (call : Call codec T) : Prop :=
  s.contexts call.owner = .live call.context ∧ s.Holds call.after call.arguments.after

end System

/-- What holds between two steps. -/
structure Inv (s : System codec T) : Prop where
  oneOwner : OneOwner s.references
  issued : ∀ j index k, s.indices j = .live (index, k) → Issued s.log k index
  borrowed : ∀ id call, s.calls id = .live call → s.Borrowed call
  path : ∀ id call, s.calls id = .live call →
    Path (requestJson call.context call.arguments) (marksOf id s.log) call.thread
  silent : ∀ id, s.calls id = .vacant → marksOf id s.log = []
  lawful : Justified Lawful s.log

theorem Inv.init : Inv (System.init : System codec T) where
  oneOwner := by
    rintro (k | j) y a o o' h _ <;> cases h
  issued := by
    intro j index k h
    cases h
  borrowed := by
    intro id call h
    cases h
  path := by
    intro id call h
    cases h
  silent := fun _ _ => rfl
  lawful := .nil

theorem Inv.openContext (h : Inv s) {k : ℕ} {context : ConsistencyContext}
    (hvacant : s.contexts k = .vacant) (hfresh : Unallocated s.references context.identity) :
    Inv (s.setContext k (.live context)) where
  oneOwner := by
    rw [System.references_setContext]
    exact h.oneOwner.allocate hfresh
  issued := h.issued
  borrowed := by
    intro id call hcall
    obtain ⟨hcontext, hindex⟩ := h.borrowed id call hcall
    have hne : call.owner ≠ k := by
      rintro rfl
      simp [hvacant] at hcontext
    exact ⟨by simpa [System.setContext, hne] using hcontext, hindex⟩
  path := h.path
  silent := h.silent
  lawful := h.lawful

theorem Inv.dropContext (h : Inv s) {k : ℕ}
    (hfree : ∀ id call, s.calls id = .live call → call.owner ≠ k) :
    Inv (s.setContext k .dropped) where
  oneOwner := by
    rw [System.references_setContext]
    exact h.oneOwner.drop
  issued := h.issued
  borrowed := by
    intro id call hcall
    obtain ⟨hcontext, hindex⟩ := h.borrowed id call hcall
    exact ⟨by simpa [System.setContext, hfree id call hcall] using hcontext, hindex⟩
  path := h.path
  silent := h.silent
  lawful := h.lawful

theorem Inv.dropIndex (h : Inv s) {j : ℕ}
    (hfree : ∀ id call, s.calls id = .live call → call.after ≠ some j) :
    Inv (s.setIndex j .dropped) where
  oneOwner := by
    rw [System.references_setIndex]
    exact h.oneOwner.drop
  issued := by
    intro i index k hi
    rcases update_apply_eq_iff.mp hi with ⟨-, hdropped⟩ | ⟨-, hi⟩
    · cases hdropped
    · exact h.issued i index k hi
  borrowed := by
    intro id call hcall
    obtain ⟨hcontext, hindex⟩ := h.borrowed id call hcall
    refine ⟨hcontext, hindex.imp_right ?_⟩
    rintro ⟨i, index, owner, hafter, hi, hgiven⟩
    have hij : i ≠ j := by
      rintro rfl
      exact hfree id call hcall hafter
    exact ⟨i, index, owner, hafter, by simpa [System.setIndex, hij] using hi, hgiven⟩
  path := h.path
  silent := h.silent
  lawful := h.lawful

/-- One call takes a step, with what it adds to the log. -/
theorem Inv.moveCall (h : Inv s) (id : ℕ) (slot : Slot (Call codec T)) (log : List (Event codec T))
    (hlive : ∀ call, slot = .live call → s.Borrowed call ∧
      Path (requestJson call.context call.arguments) (marksOf id log) call.thread)
    (hmoved : slot ≠ .vacant) (hothers : ∀ i, i ≠ id → marksOf i log = marksOf i s.log)
    (hissued : ∀ k index, Issued s.log k index → Issued log k index)
    (hlawful : Justified Lawful log) : Inv { s.setCall id slot with log } where
  oneOwner := h.oneOwner
  issued j index k hj := hissued k index (h.issued j index k hj)
  borrowed := by
    intro i call hi
    rcases update_apply_eq_iff.mp hi with ⟨-, hslot⟩ | ⟨-, hi⟩
    · exact (hlive call hslot).1
    · exact h.borrowed i call hi
  path := by
    intro i call hi
    rcases update_apply_eq_iff.mp hi with ⟨rfl, hslot⟩ | ⟨hne, hi⟩
    · exact (hlive call hslot).2
    · rw [hothers i hne]
      exact h.path i call hi
  silent := by
    intro i hi
    rcases update_apply_eq_iff.mp hi with ⟨-, hslot⟩ | ⟨hne, hi⟩
    · exact absurd hslot hmoved
    · exact (hothers i hne).trans (h.silent i hi)
  lawful := hlawful

theorem Inv.start (h : Inv s) {id : ℕ} {call : Call codec T} (hvacant : s.calls id = .vacant)
    (hborrowed : s.Borrowed call)
    (hthread : call.thread = .running (requestJson call.context call.arguments)) :
    Inv (s.setCall id (.live call)) := by
  refine h.moveCall id (.live call) s.log ?_ nofun (fun _ _ => rfl) (fun _ _ hissued => hissued)
    h.lawful
  intro other hother
  cases hother
  rw [h.silent id hvacant, hthread]
  exact ⟨hborrowed, .start _⟩

theorem Inv.cancel (h : Inv s) (id : ℕ) : Inv (s.setCall id .dropped) := by
  refine h.moveCall id .dropped s.log ?_ nofun (fun _ _ => rfl) (fun _ _ hissued => hissued)
    h.lawful
  intro call hcall
  cases hcall

/-- One event of a call that goes on. -/
theorem Inv.record (h : Inv s) {id : ℕ} {call : Call codec T} {mark : Mark (Answer T)}
    {thread : Thread Request (Answer T) (Except Error (ConsistencyResponse codec T))}
    (hlive : s.calls id = .live call)
    (hpath : Path (requestJson call.context call.arguments) (marksOf id s.log ++ [mark]) thread)
    (hlawful : Lawful s.log ⟨call.owner, call.context, id, .mark mark⟩) :
    Inv (s.record id call mark thread) := by
  refine h.moveCall id (.live { call with thread })
    (s.log ++ [⟨call.owner, call.context, id, .mark mark⟩]) ?_ nofun ?_
    (fun _ _ hissued => hissued.append _) (h.lawful.snoc hlawful)
  · intro other hother
    cases hother
    refine ⟨h.borrowed id call hlive, ?_⟩
    simpa [marksOf_append, Happening.mark?] using hpath
  · intro i hne
    simp [marksOf_append, Ne.symm hne]

/-- The end of a call, up to the index that its caller keeps. -/
theorem Inv.returned (h : Inv s) {id : ℕ} {call : Call codec T}
    {result : Except Error (ConsistencyResponse codec T)}
    (hlawful : Lawful s.log ⟨call.owner, call.context, id, .returned result⟩) :
    Inv { s.setCall id .dropped with
      log := s.log ++ [⟨call.owner, call.context, id, .returned result⟩] } := by
  refine h.moveCall id .dropped (s.log ++ [⟨call.owner, call.context, id, .returned result⟩])
    ?_ nofun ?_ (fun _ _ hissued => hissued.append _) (h.lawful.snoc hlawful)
  · intro other hother
    cases hother
  · intro i hne
    simp [marksOf_append, Ne.symm hne]

/-- An index that a context has returned is taken into a place of its own. -/
theorem Inv.takeIndex (h : Inv s) {j k : ℕ} {context : ConsistencyContext}
    {index : ScopedConsistencyIndex codec} (hvacant : s.indices j = .vacant)
    (hcontext : s.contexts k = .live context) (hidentity : index.identity = context.identity)
    (hissued : Issued s.log k index) : Inv (s.setIndex j (.live (index, k))) where
  oneOwner := by
    rw [System.references_setIndex]
    have howner : s.references (.inl k) = some (index.identity, k) := by
      simp [System.references, hcontext, Slot.live?, hidentity]
    exact h.oneOwner.clone howner
  issued := by
    intro i other k' hi
    rcases update_apply_eq_iff.mp hi with ⟨-, htaken⟩ | ⟨-, hi⟩
    · cases htaken
      exact hissued
    · exact h.issued i other k' hi
  borrowed := by
    intro id call hcall
    obtain ⟨hcontext, hindex⟩ := h.borrowed id call hcall
    refine ⟨hcontext, hindex.imp_right ?_⟩
    rintro ⟨i, other, owner, hafter, hi, hgiven⟩
    have hij : i ≠ j := by
      rintro rfl
      simp [hvacant] at hi
    exact ⟨i, other, owner, hafter, by simpa [System.setIndex, hij] using hi, hgiven⟩
  path := h.path
  silent := h.silent
  lawful := h.lawful

/-- An index that the context of a call accepts was returned by that context. -/
theorem Inv.issued_of_identity (h : Inv s) {id : ℕ} {call : Call codec T}
    {after : ScopedConsistencyIndex codec} (hlive : s.calls id = .live call)
    (hafter : call.arguments.after = some after)
    (hidentity : after.identity = call.context.identity) : Issued s.log call.owner after := by
  obtain ⟨hcontext, hindex⟩ := h.borrowed id call hlive
  rw [hafter] at hindex
  rcases hindex with ⟨-, hnone⟩ | ⟨j, index, owner, -, hheld, hgiven⟩
  · cases hnone
  · obtain rfl := Option.some.inj hgiven
    have hof : s.references (.inr j) = some (after.identity, owner) := by
      simp [System.references, hheld, Slot.live?]
    have hmine : s.references (.inl call.owner) = some (after.identity, call.owner) := by
      simp [System.references, hcontext, Slot.live?, hidentity]
    rw [← h.oneOwner _ _ _ _ _ hof hmine]
    exact h.issued j after owner hheld

/-- What a call is about to send is lawful. -/
theorem Inv.lawful_sent (h : Inv s) {id : ℕ} {call : Call codec T} {req : Request}
    {next : Answer T req → Program T (ConsistencyResponse codec T)}
    (hlive : s.calls id = .live call) (hthread : call.thread = .running (.send req next)) :
    Lawful s.log ⟨call.owner, call.context, id, .mark (.sent req)⟩ := by
  have hpath := h.path id call hlive
  rw [hthread] at hpath
  rcases path_requestJson hpath.send with ⟨hunsent, -⟩ | ⟨request, preflight, hpre, hmarks⟩
  · generalize hm : marksOf id s.log ++ [.sent req] = marks at hunsent
    cases hunsent with
    | start => simp at hm
    | @asked first hfirst =>
      obtain ⟨hbefore, hlast⟩ := List.append_inj' (hm.trans (List.nil_append _).symm) rfl
      cases hlast
      exact ⟨hfirst, hbefore⟩
    | @told first hfirst answer =>
      have hlast := (List.append_inj' (hm.trans (List.singleton_append).symm) rfl).2
      cases hlast
  · rcases hmarks with ⟨hm, -⟩ | ⟨answer, hm, -⟩
    · obtain ⟨hbefore, hlast⟩ := List.append_inj' hm rfl
      cases hlast
      obtain ⟨first, answer, htokenless, hconfirms, rfl⟩ := hpre.shape
      obtain ⟨url, hbuilt⟩ := hpre.built
      refine ⟨⟨first, answer, htokenless, hconfirms, hbefore⟩, fun value hvalue => ?_⟩
      obtain ⟨after, hafter, hidentity, rfl⟩ := buildRequest_eq_ok hbuilt hvalue
      exact ⟨after, h.issued_of_identity hlive hafter hidentity, rfl⟩
    · have hlast := (List.append_inj' (hm.trans (List.append_cons preflight _ _)) rfl).2
      cases hlast

/-- What a call is about to return is lawful. -/
theorem Inv.lawful_returned (h : Inv s) {id : ℕ} {call : Call codec T}
    {result : Except Error (ConsistencyResponse codec T)}
    (hlive : s.calls id = .live call) (hthread : call.thread = .running (.done result)) :
    Lawful s.log ⟨call.owner, call.context, id, .returned result⟩ := by
  cases result with
  | error e => trivial
  | ok response =>
    have hpath := h.path id call hlive
    rw [hthread] at hpath
    rcases path_requestJson hpath with ⟨-, hnot⟩ | ⟨request, preflight, hpre, hmarks⟩
    · exact absurd rfl (hnot response)
    · rcases hmarks with ⟨-, hnot⟩ | ⟨answer, hm, hdone⟩
      · exact absurd rfl (hnot response)
      · simp only [Thread.running.injEq, Prog.done.injEq] at hdone
        obtain ⟨first, health, -, -, rfl⟩ := hpre.shape
        exact ⟨first, health, request, answer, receive_eq_ok hdone.symm, hm⟩

/-- A returned index has the identity of its context. -/
theorem Received.identity {context : ConsistencyContext}
    {answer : Except Error (OperationAnswer T)} {response : ConsistencyResponse codec T}
    {index : ScopedConsistencyIndex codec} (h : Received context answer response)
    (hindex : response.index = some index) : index.identity = context.identity := by
  obtain ⟨status, headers, payload, -, -, ⟨-, hnone⟩ | ⟨value, index', -, -, -, -, hsome⟩⟩ := h
  · rw [hnone] at hindex
    cases hindex
  · rw [hsome] at hindex
    cases hindex
    rfl

theorem Inv.step (h : Inv s) (hstep : Step s s') : Inv s' := by
  cases hstep with
  | openContext k client version cluster identity marks hvacant _ hfresh =>
    exact h.openContext hvacant hfresh
  | dropContext k context _ hfree => exact h.dropContext hfree
  | dropIndex j held _ hfree => exact h.dropIndex hfree
  | start id k context arguments after hvacant hcontext hafter =>
    exact h.start hvacant ⟨hcontext, hafter⟩ rfl
  | send id call req next hlive hthread =>
    have hpath := h.path id call hlive
    rw [hthread] at hpath
    exact h.record hlive hpath.send (h.lawful_sent hlive hthread)
  | answer id call req next answer hlive hthread =>
    have hpath := h.path id call hlive
    rw [hthread] at hpath
    exact h.record hlive (hpath.answer answer) trivial
  | finish id call result j hlive hthread hvacant =>
    have hlawful := h.lawful_returned hlive hthread
    have hreturned := h.returned hlawful
    rcases result with e | ⟨response, _ | index⟩
    · exact hreturned
    · exact hreturned
    · obtain ⟨first, health, request, answer, hreceived, -⟩ := hlawful
      exact hreturned.takeIndex hvacant (h.borrowed id call hlive).1 (hreceived.identity rfl)
        ⟨_, List.mem_append_right _ (List.mem_singleton_self _), rfl, _, rfl, rfl⟩
  | cancel id call _ => exact h.cancel id

theorem Reachable.inv (h : Reachable s) : Inv s := by
  induction h with
  | refl => exact .init
  | tail _ hstep ih => exact ih.step hstep

def isOperation : Mark (Answer T) → Bool
  | .sent (.operation _) => true
  | _ => false

/-- How often a call has sent its operation. -/
def operationsSent (id : ℕ) (log : List (Event codec T)) : ℕ :=
  (marksOf id log).countP isOperation

theorem operationsSent_le_one {log : List (Event codec T)} (h : Justified Lawful log) (id : ℕ) :
    operationsSent id log ≤ 1 := by
  induction h with
  | nil => exact Nat.zero_le 1
  | @snoc log e _ he ih =>
    obtain ⟨serial, context, call, what⟩ := e
    unfold operationsSent at ih ⊢
    rw [marksOf_append, List.countP_append]
    by_cases hid : call = id
    · subst hid
      rcases what with ⟨⟨request | request⟩ | ⟨req, answer⟩⟩ | result
      · simpa [Happening.mark?, isOperation] using ih
      · obtain ⟨⟨first, answer, -, -, hmarks⟩, -⟩ := he
        simp [hmarks, Happening.mark?, isOperation]
      · simpa [Happening.mark?, isOperation] using ih
      · simpa [Happening.mark?, isOperation] using ih
    · simpa [hid] using ih

/-- In every run a call sends its operation at most once, and each event is lawful: operations
go out behind a confirmation of the server, they carry only indices that their own context
returned, and what is returned comes from the answer to the operation. -/
theorem consistencyContexts_lawful (h : Reachable s) :
    (∀ id, operationsSent id s.log ≤ 1) ∧
      ∀ before e after, s.log = before ++ e :: after → Lawful before e :=
  ⟨operationsSent_le_one h.inv.lawful, fun _ _ _ hlog => h.inv.lawful.split hlog⟩

/-! Two calls of one context: the answer to the first names an index, which the second carries,
and the answer to the second names none. -/

def plainPayload : Bytes := asBytes "\x7b\"cluster\":\"cluster\",\"value\":\"wal\"\x7d".toList

def plainDocument : JsonTrees.Json JsonTrees.Span Unit :=
  .object ⟨0, 35⟩ [("cluster".toList, .string ⟨11, 20⟩ "cluster".toList),
    ("value".toList, .string ⟨29, 34⟩ "wal".toList)]

def plainWire : Bytes := asBytes "eyJjbHVzdGVyIjoiY2x1c3RlciIsInZhbHVlIjoid2FsIn0=".toList

/-- The decoders on the text of the index; they refuse every other text. -/
def plainCodec : Codec Unit where
  decodeSecret wire := if wire = plainWire then some plainPayload else none
  parse text := if text = plainPayload then some plainDocument else none

def plainIndex : ConsistencyIndex plainCodec := ⟨plainWire, "cluster".toList, by decide +kernel⟩

def plainClient : Client where
  rawApiEnabled := true
  ensured := .ok (CompatibilityPolicy.verified (.exact ⟨2, 7, 1⟩) ⟨2, 7, 1⟩)
  urlForPath := .ok
  requireEncryptedTransport := fun _ => .ok ()
  namespacePath := none
  token := some (.ok "token".toList)
  headerMode := .vaultToken
  maxAuthTokenBytes := 64

def plainContext : ConsistencyContext := ⟨plainClient, "cluster".toList, ⟨2, 7, 1⟩, 0⟩

def plainScoped : ScopedConsistencyIndex plainCodec := ⟨plainIndex, 0⟩

def plainArguments (after : Option (ScopedConsistencyIndex plainCodec)) :
    Arguments plainCodec Unit :=
  ⟨"GET", "secret/data/app".toList, none, after, .fail, some ()⟩

def plainHealth : Except Error HealthAnswer :=
  .ok ⟨200, .ok ⟨"cluster".toList, "2.7.1".toList, true, false⟩⟩

def plainOperation (index : List (String × Bytes)) : HttpRequest where
  method := "GET"
  url := "secret/data/app".toList
  headers :=
    [("accept", json), ("x-vault-request", asBytes "true".toList),
      ("x-vault-inconsistent", asBytes "fail".toList)] ++ index ++
      [("x-vault-token", asBytes "token".toList)]
  body := none

def plainAnswer (indexHeaders : List Bytes) : Except Error (OperationAnswer Unit) :=
  .ok ⟨200, indexHeaders, .ok ()⟩

theorem plainClient_profile :
    (plainClient.ensured >>= requireConsistencyProfile) = .ok ⟨2, 7, 1⟩ := by
  decide +kernel

theorem plainHealth_checked :
    checkHealth plainContext.version plainHealth = .ok plainContext.cluster := by
  decide +kernel

theorem plainContext_opened :
    Path (consistency plainClient : Program Unit (OpenBaoVersion × Str))
      [.sent (.health (healthRequest "sys/health".toList)),
        .answered (.health (healthRequest "sys/health".toList)) plainHealth]
      (.running (.done (.ok (plainContext.version, plainContext.cluster)))) := by
  have hsends : (consistency plainClient : Program Unit (OpenBaoVersion × Str)) =
      .send (.health (healthRequest "sys/health".toList)) fun answer =>
        .attempt (checkHealth plainContext.version answer) fun cluster =>
          .done (.ok (plainContext.version, cluster)) := by
    rw [consistency, plainClient_profile]
    rfl
  rw [hsends]
  refine .answered ?_
  rw [plainHealth_checked]
  exact .start _

section PlainCall

variable {after : Option (ScopedConsistencyIndex plainCodec)} {index : List (String × Bytes)}

theorem plainCall_eq (hvalid : validateIndex plainContext after = .ok ()) :
    requestJson plainContext (plainArguments after) =
      .send (.health (healthRequest "sys/health".toList))
        (executeConfirmed plainContext "secret/data/app".toList (plainArguments after)) :=
  requestJson_sends rfl plainClient_profile hvalid rfl rfl rfl rfl

theorem plainCall_confirmed
    (hbuilt : buildRequest plainContext "secret/data/app".toList (plainArguments after) =
      .ok (plainOperation index)) :
    executeConfirmed plainContext "secret/data/app".toList (plainArguments after) plainHealth =
      .send (.operation (plainOperation index)) fun answer =>
        .done (receive plainContext (plainArguments after) answer) := by
  rw [executeConfirmed, plainHealth_checked, Prog.attempt_ok, hbuilt]
  rfl

end PlainCall

theorem plainWire_read :
    ConsistencyIndex.fromHeaders plainCodec [plainWire] = .ok (some plainIndex) := by
  have hdecoded : ConsistencyIndex.fromEncoded plainCodec plainWire = .ok plainIndex :=
    ConsistencyIndex.fromEncoded_of_decodes plainIndex.decodes
  have hlength : ¬(([] : List Bytes) ≠ [] ∨ maxIndexHeaderBytes < plainWire.length) := by
    decide +kernel
  have hvisible : plainWire.all isVisibleAscii = true := by decide +kernel
  rw [ConsistencyIndex.fromHeaders, if_neg hlength, hvisible, hdecoded]
  rfl

theorem plainAnswer_received :
    receive plainContext (plainArguments none) (plainAnswer [plainWire]) =
      .ok ⟨(), some plainScoped⟩ := by
  change (ConsistencyIndex.fromHeaders plainCodec [plainWire] >>= fun index => _) = _
  rw [plainWire_read]
  rfl

/-- What a call of the context leaves in the log before it returns. -/
def plainMarks (index : List (String × Bytes)) (answer : Except Error (OperationAnswer Unit)) :
    List (Mark (Answer Unit)) :=
  [.sent (.health (healthRequest "sys/health".toList)),
    .answered (.health (healthRequest "sys/health".toList)) plainHealth,
    .sent (.operation (plainOperation index)), .answered (.operation (plainOperation index)) answer]

def plainEvent (id : ℕ) (what : Happening plainCodec Unit) : Event plainCodec Unit :=
  ⟨0, plainContext, id, what⟩

/-- The call that returns the index. -/
def plainIssue : List (Event plainCodec Unit) :=
  (plainMarks [] (plainAnswer [plainWire])).map (fun mark => plainEvent 0 (.mark mark)) ++
    [plainEvent 0 (.returned (.ok ⟨(), some plainScoped⟩))]

/-- The call that carries it. -/
def plainCarry : List (Event plainCodec Unit) :=
  (plainMarks [("x-vault-index", plainWire)] (plainAnswer [])).map
    (fun mark => plainEvent 1 (.mark mark)) ++ [plainEvent 1 (.returned (.ok ⟨(), none⟩))]

theorem plainRun : ∃ s : System plainCodec Unit, Reachable s ∧ s.log = plainIssue ++ plainCarry := by
  have hfresh : Unallocated (System.init : System plainCodec Unit).references 0 := by
    rintro (k | j) o h <;> cases h
  have hopened : Reachable ((System.init : System plainCodec Unit).setContext 0
      (.live plainContext)) :=
    .tail .refl (.openContext 0 plainClient _ _ 0 _ rfl plainContext_opened hfresh)
  have hbuilt : buildRequest plainContext "secret/data/app".toList (plainArguments none) =
      .ok (plainOperation []) := by decide +kernel
  have hstarted := hopened.tail
    (.start 0 0 plainContext (plainArguments none) none rfl rfl (.inl ⟨rfl, rfl⟩))
  have hasked := hstarted.tail (.send 0 _ _ _ rfl (congrArg Thread.running (plainCall_eq rfl)))
  have htold := hasked.tail (.answer 0 _ _ _ plainHealth rfl rfl)
  have hsent := htold.tail
    (.send 0 _ _ _ rfl (congrArg Thread.running (plainCall_confirmed hbuilt)))
  have hanswered := hsent.tail (.answer 0 _ _ _ (plainAnswer [plainWire]) rfl rfl)
  have hreturned := hanswered.tail (.finish 0 _ (.ok ⟨(), some plainScoped⟩) 0 rfl
    (congrArg (fun result => Thread.running (.done result)) plainAnswer_received) rfl)
  have hcarried : buildRequest plainContext "secret/data/app".toList
      (plainArguments (some plainScoped)) =
        .ok (plainOperation [("x-vault-index", plainWire)]) := by decide +kernel
  have hvalid : validateIndex plainContext (some plainScoped) = .ok () := by decide +kernel
  have hagain := hreturned.tail (.start 1 0 plainContext (plainArguments (some plainScoped))
    (some 0) rfl rfl (.inr ⟨0, plainScoped, 0, rfl, rfl, rfl⟩))
  have hasked := hagain.tail (.send 1 _ _ _ rfl (congrArg Thread.running (plainCall_eq hvalid)))
  have htold := hasked.tail (.answer 1 _ _ _ plainHealth rfl rfl)
  have hsent := htold.tail
    (.send 1 _ _ _ rfl (congrArg Thread.running (plainCall_confirmed hcarried)))
  have hanswered := hsent.tail (.answer 1 _ _ _ (plainAnswer []) rfl rfl)
  have hreturned := hanswered.tail (.finish 1 _ (.ok ⟨(), none⟩) 1 rfl rfl rfl)
  exact ⟨_, hreturned, rfl⟩

/-- The index that the second call carries is the one that the first returned. -/
theorem plainRun_lawful : ∃ index, Issued (plainIssue ++ plainCarry.take 2) 0 index ∧
    plainWire = index.index.encoded := by
  obtain ⟨s, hreachable, hlog⟩ := plainRun
  have hlawful := (consistencyContexts_lawful hreachable).2 (plainIssue ++ plainCarry.take 2)
    (plainEvent 1 (.mark (.sent (.operation (plainOperation [("x-vault-index", plainWire)])))))
    (plainCarry.drop 3) (by rw [hlog, List.append_assoc]; rfl)
  exact hlawful.2 plainWire (by simp [plainOperation])

/-- A call that is answered without an index returns without one. -/
theorem plainRun_returns : ∃ s : System plainCodec Unit, Reachable s ∧
    ∃ before e response request,
      s.log = before ++ [e] ∧ e.what = .returned (.ok response) ∧ response.index = none ∧
        .answered (.operation request) (plainAnswer []) ∈ marksOf e.call before := by
  obtain ⟨s, hreachable, hlog⟩ := plainRun
  refine ⟨s, hreachable, plainIssue ++ plainCarry.take 4, plainEvent 1 (.returned (.ok ⟨(), none⟩)),
    ⟨(), none⟩, plainOperation [("x-vault-index", plainWire)], ?_, rfl, rfl, ?_⟩
  · rw [hlog, List.append_assoc]
    rfl
  · simp [marksOf, plainCarry, plainIssue, plainMarks, plainEvent, Happening.mark?]

end OpenBao.ConsistencyContexts
