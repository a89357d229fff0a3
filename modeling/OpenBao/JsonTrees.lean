import OpenBao.Utf8Text
import Mathlib.Algebra.BigOperators.Group.List.Basic

/-!
# Syntax trees of JSON texts

A tree keeps the members of an object in text order, with repeated names, and for
each value whatever `S` says about where it stands. `valuesAt` lists all values of a
tree with their depth, and limits on a document are conditions on that list.
-/

namespace OpenBao.JsonTrees
open Utf8Text

inductive Json (S N : Type) where
  | null (span : S)
  | bool (span : S) (value : Bool)
  | number (span : S) (value : N)
  | string (span : S) (text : Str)
  | array (span : S) (items : List (Json S N))
  | object (span : S) (members : List (Str × Json S N))

/-- Where a value stands in its text, without the white space around it. -/
structure Span where
  start : ℕ
  stop : ℕ
  deriving DecidableEq, Repr

def Span.slice (body : Bytes) (s : Span) : Bytes := (body.drop s.start).take (s.stop - s.start)

/-- A text read one level deep. A value is the text it is written as, or `none` where that
is not UTF-8. -/
inductive Outline where
  | object (members : List (Str × Option Bytes))
  | array (items : List (Option Bytes))
  | scalar
  deriving DecidableEq

/-- The reading of a whole text as one value. `none` stands for a text that is no JSON. -/
abbrev Parser (N : Type) := Bytes → Option (Json Span N)

namespace Json
variable {S N : Type}

/-- Induction over a tree, with the hypothesis for the values that stand directly in it. -/
@[elab_as_elim]
theorem induct {P : Json S N → Prop} (null : ∀ s, P (.null s)) (bool : ∀ s b, P (.bool s b))
    (number : ∀ s n, P (.number s n)) (string : ∀ s t, P (.string s t))
    (array : ∀ s items, (∀ x ∈ items, P x) → P (.array s items))
    (object : ∀ s members, (∀ m ∈ members, P m.2) → P (.object s members)) (j : Json S N) : P j :=
  @Json.rec S N P (fun items => ∀ x ∈ items, P x) (fun members => ∀ m ∈ members, P m.2)
    (fun m => P m.2) null bool number string array object (by simp)
    (fun _ _ hx hxs => List.forall_mem_cons.mpr ⟨hx, hxs⟩) (by simp)
    (fun _ _ hm hms => List.forall_mem_cons.mpr ⟨hm, hms⟩) (fun _ _ h => h) j

def span : Json S N → S
  | .null s | .bool s _ | .number s _ | .string s _ | .array s _ | .object s _ => s

def IsContainer : Json S N → Prop
  | .array _ _ | .object _ _ => True
  | _ => False

/-- The elements of an array or the members of an object, counted. -/
def size : Json S N → ℕ
  | .array _ items => items.length
  | .object _ members => members.length
  | _ => 0

/-- The names of an object's members, in text order. -/
def keys : Json S N → List Str
  | .object _ members => members.map Prod.fst
  | _ => []

/-- The decoded texts a value holds itself: its string, or its names. -/
def texts : Json S N → List Str
  | .string _ text => [text]
  | .object _ members => members.map Prod.fst
  | _ => []

/-- The value of a member, which a derived decoder wants exactly once. -/
def field (members : List (Str × Json S N)) (name : Str) : Option (Json S N) :=
  match members.filter fun m => m.1 == name with
  | [m] => some m.2
  | _ => none

/-- The fields a derived decoder takes from a value: by name from an object, where other
names are skipped, or by position from an array. -/
def structFields (names : List Str) : Json S N → Option (List (Json S N))
  | .object _ members => names.mapM (field members)
  | .array _ items => if items.length = names.length then some items else none
  | _ => none

/-- `value` is what the field `name` of the struct with these names stands for in the tree. -/
def IsField (names : List Str) (name : Str) (value : Json S N) : Json S N → Prop
  | .object _ members => (members.filter fun m => m.1 == name) = [(name, value)]
  | .array _ items => ∃ i : ℕ, names[i]? = some name ∧ items[i]? = some value
  | _ => False

theorem field_eq_some_iff {members : List (Str × Json S N)} {name : Str} {value : Json S N} :
    field members name = some value ↔
      (members.filter fun m => m.1 == name) = [(name, value)] := by
  have hname : ∀ m ∈ members.filter fun m => m.1 == name, m.1 = name := by
    intro m hm
    simpa using (List.mem_filter.mp hm).2
  rw [field]
  cases h : members.filter fun m => m.1 == name with
  | nil => simp
  | cons m rest =>
    cases rest with
    | nil =>
      rw [h, List.forall_mem_singleton] at hname
      obtain ⟨key, x⟩ := m
      simp only at hname
      simp [hname]
    | cons m' rest => simp

theorem getElem?_of_mapM {α β : Type} {f : α → Option β} {xs : List α} {ys : List β}
    (h : xs.mapM f = some ys) {i : ℕ} {x : α} {y : β} (hx : xs[i]? = some x) (hy : ys[i]? = some y) :
    f x = some y := by
  induction xs generalizing ys i with
  | nil => simp at hx
  | cons a xs ih =>
    simp only [List.mapM_cons, Option.bind_eq_bind, Option.bind_eq_some_iff, Option.pure_def,
      Option.some.injEq] at h
    obtain ⟨b, hb, bs, hbs, rfl⟩ := h
    cases i with
    | zero =>
      simp only [List.getElem?_cons_zero, Option.some.injEq] at hx hy
      rw [← hx, hb, hy]
    | succ i => exact ih hbs (by simpa using hx) (by simpa using hy)

theorem isField_of_structFields {names : List Str} {j : Json S N} {values : List (Json S N)}
    (h : structFields names j = some values) {i : ℕ} {name : Str} {value : Json S N}
    (hname : names[i]? = some name) (hvalue : values[i]? = some value) :
    IsField names name value j := by
  cases j with
  | object s members => exact field_eq_some_iff.mp (getElem?_of_mapM h hname hvalue)
  | array s items =>
    rw [structFields, Option.ite_none_right_eq_some, Option.some.injEq] at h
    exact ⟨i, hname, by rw [h.2, hvalue]⟩
  | null | bool | number | string => simp [structFields] at h

mutual
/-- Every value of a tree, with the number of containers around it. -/
def valuesAt : ℕ → Json S N → List (ℕ × Json S N)
  | depth, .array s items => (depth, .array s items) :: itemsAt (depth + 1) items
  | depth, .object s members => (depth, .object s members) :: membersAt (depth + 1) members
  | depth, .null s => [(depth, .null s)]
  | depth, .bool s b => [(depth, .bool s b)]
  | depth, .number s n => [(depth, .number s n)]
  | depth, .string s t => [(depth, .string s t)]
termination_by structural _ j => j

def itemsAt : ℕ → List (Json S N) → List (ℕ × Json S N)
  | _, [] => []
  | depth, x :: xs => valuesAt depth x ++ itemsAt depth xs
termination_by structural _ xs => xs

def membersAt : ℕ → List (Str × Json S N) → List (ℕ × Json S N)
  | _, [] => []
  | depth, (_, x) :: ms => valuesAt depth x ++ membersAt depth ms
termination_by structural _ ms => ms
end

/-- The bytes of all strings and names among some values. -/
def textBytes (values : List (ℕ × Json S N)) : ℕ :=
  (values.map fun p => (p.2.texts.map byteLen).sum).sum

@[simp] theorem textBytes_nil : textBytes ([] : List (ℕ × Json S N)) = 0 := rfl

@[simp] theorem textBytes_cons (p : ℕ × Json S N) (values : List (ℕ × Json S N)) :
    textBytes (p :: values) = (p.2.texts.map byteLen).sum + textBytes values := by simp [textBytes]

@[simp] theorem textBytes_append (values values' : List (ℕ × Json S N)) :
    textBytes (values ++ values') = textBytes values + textBytes values' := by simp [textBytes]

theorem itemsAt_eq (depth : ℕ) (items : List (Json S N)) :
    itemsAt depth items = items.flatMap (valuesAt depth) := by
  induction items with
  | nil => rfl
  | cons x xs ih => rw [itemsAt, ih, List.flatMap_cons]

theorem membersAt_eq (depth : ℕ) (members : List (Str × Json S N)) :
    membersAt depth members = members.flatMap fun m => valuesAt depth m.2 := by
  induction members with
  | nil => rfl
  | cons m ms ih => rw [membersAt, ih, List.flatMap_cons]

@[simp] theorem valuesAt_array (depth : ℕ) (s : S) (items : List (Json S N)) :
    valuesAt depth (.array s items) =
      (depth, .array s items) :: items.flatMap (valuesAt (depth + 1)) := by
  rw [valuesAt, itemsAt_eq]

@[simp] theorem valuesAt_object (depth : ℕ) (s : S) (members : List (Str × Json S N)) :
    valuesAt depth (.object s members) =
      (depth, .object s members) :: members.flatMap fun m => valuesAt (depth + 1) m.2 := by
  rw [valuesAt, membersAt_eq]

theorem self_mem_valuesAt (depth : ℕ) (j : Json S N) : (depth, j) ∈ valuesAt depth j := by
  cases j <;> simp [valuesAt]

theorem valuesAt_pos (depth : ℕ) (j : Json S N) : 0 < (valuesAt depth j).length :=
  List.length_pos_of_mem (self_mem_valuesAt depth j)

theorem le_of_mem_valuesAt {j : Json S N} {depth : ℕ} {p : ℕ × Json S N}
    (h : p ∈ valuesAt depth j) : depth ≤ p.1 := by
  induction j using induct generalizing depth with
  | null | bool | number | string =>
    simp only [valuesAt, List.mem_singleton] at h
    rw [h]
  | array s items ih =>
    simp only [valuesAt_array, List.mem_cons, List.mem_flatMap] at h
    obtain rfl | ⟨x, hx, h⟩ := h
    · exact le_rfl
    · exact (Nat.le_succ depth).trans (ih x hx h)
  | object s members ih =>
    simp only [valuesAt_object, List.mem_cons, List.mem_flatMap] at h
    obtain rfl | ⟨m, hm, h⟩ := h
    · exact le_rfl
    · exact (Nat.le_succ depth).trans (ih m hm h)

/-- At the depth it starts from stands only the tree itself. -/
theorem eq_of_mem_valuesAt {j : Json S N} {depth : ℕ} {x : Json S N}
    (h : (depth, x) ∈ valuesAt depth j) : x = j := by
  cases j with
  | null | bool | number | string => simpa [valuesAt] using h
  | array s items =>
    simp only [valuesAt_array, List.mem_cons, Prod.mk.injEq, true_and, List.mem_flatMap] at h
    obtain h | ⟨y, -, h⟩ := h
    · exact h
    · exact absurd (le_of_mem_valuesAt h) (Nat.not_succ_le_self depth)
  | object s members =>
    simp only [valuesAt_object, List.mem_cons, Prod.mk.injEq, true_and, List.mem_flatMap] at h
    obtain h | ⟨m, -, h⟩ := h
    · exact h
    · exact absurd (le_of_mem_valuesAt h) (Nat.not_succ_le_self depth)

end Json

namespace Json
variable {N : Type}

def outline (body : Bytes) : Json Span N → Outline
  | .object _ members => .object (members.map fun m => (m.1, some (m.2.span.slice body)))
  | .array _ items => .array (items.map fun x => some (x.span.slice body))
  | _ => .scalar

end Json

/-- A reader of JSON with two ways of reading a text. `skim` does not decode the values
inside, so it may accept more, but where `parse` succeeds the two see the same text. -/
structure Reader (N : Type) where
  parse : Parser N
  skim : Bytes → Option Outline
  skim_of_parse : ∀ {bytes document}, parse bytes = some document →
    skim bytes = some (document.outline bytes)

/-- The reader that knows one text only. -/
def Reader.ofText {N : Type} (text : Bytes) (document : Json Span N) : Reader N where
  parse bytes := if bytes = text then some document else none
  skim bytes := if bytes = text then some (document.outline text) else none
  skim_of_parse := by
    intro bytes document' h
    split_ifs at h with heq
    rw [if_pos heq, heq, Option.some.inj h]

/-- The field of a derived decoder with one field that keeps it as raw text. -/
def Outline.rawField (name : Str) : Outline → Option Bytes
  | .object members =>
    match members.filter fun m => m.1 == name with
    | [m] => m.2
    | _ => none
  | .array [raw] => raw
  | _ => none

/-- The decoding of an object into raw members. -/
def Outline.rawMembers : Outline → Option (List (Str × Bytes))
  | .object members => members.mapM fun m => m.2.map fun raw => (m.1, raw)
  | _ => none

/-- Limits on a tree, with the texts of their refusals. `admitKey` judges a name by the
depth of its object and the names before it. -/
structure Limits where
  nesting : ℕ
  items : Option ℕ
  members : ℕ → ℕ
  stringBytes : ℕ
  admitKey : ℕ → List Str → Str → Except String Unit
  nodeText : String
  nestingText : String
  stringText : String
  arrayText : String
  objectText : String

namespace Limits
variable {S N : Type} (l : Limits)

/-- Takes one value from the budget. -/
def node (budget : ℕ) : Except String ℕ :=
  if budget = 0 then .error l.nodeText else .ok (budget - 1)

mutual
/-- Walks a value with a budget of values left, and returns what remains of it. -/
def walk : ℕ → ℕ → Json S N → Except String ℕ
  | _, budget, .null _ | _, budget, .bool _ _ | _, budget, .number _ _ => l.node budget
  | _, budget, .string _ text => do
    let budget ← l.node budget
    if l.stringBytes < byteLen text then .error l.stringText else .ok budget
  | depth, budget, .array _ items => do
    let budget ← l.node budget
    if l.nesting ≤ depth then .error l.nestingText
    else walkItems (depth + 1) l.items budget items
  | depth, budget, .object _ members => do
    let budget ← l.node budget
    if l.nesting ≤ depth then .error l.nestingText else walkMembers depth [] budget members
termination_by structural _ _ j => j

/-- The elements of an array while room and budget last. One element more is refused unread. -/
def walkItems : ℕ → Option ℕ → ℕ → List (Json S N) → Except String ℕ
  | _, _, budget, [] => .ok budget
  | depth, room, budget, x :: xs =>
    if room = some 0 ∨ budget = 0 then .error l.arrayText
    else do
      let budget ← walk depth budget x
      walkItems depth (room.map (· - 1)) budget xs
termination_by structural _ _ _ xs => xs

/-- The members of an object at `depth`, whose earlier names are `seen`. -/
def walkMembers : ℕ → List Str → ℕ → List (Str × Json S N) → Except String ℕ
  | _, _, budget, [] => .ok budget
  | depth, seen, budget, (key, x) :: ms =>
    if l.members depth ≤ seen.length ∨ budget = 0 then .error l.objectText
    else do
      l.admitKey depth seen key
      let budget ← walk (depth + 1) budget x
      walkMembers depth (seen ++ [key]) budget ms
termination_by structural _ _ _ ms => ms
end

/-- Every name passes after the names before it. -/
def KeysAdmitted (depth : ℕ) : List Str → List Str → Prop
  | _, [] => True
  | seen, key :: keys =>
    l.admitKey depth seen key = .ok () ∧ KeysAdmitted depth (seen ++ [key]) keys

/-- Names that must be new, each good by itself, with a bound on how many `counts`. -/
theorem keysAdmitted_iff {depth bound : ℕ} {Good : Str → Prop} {counts : Str → Bool}
    (h : ∀ seen key, l.admitKey depth seen key = .ok () ↔
      Good key ∧ (counts key = true → seen.countP counts < bound) ∧ key ∉ seen)
    {seen keys : List Str} (hseen : seen.countP counts ≤ bound) :
    l.KeysAdmitted depth seen keys ↔ (∀ key ∈ keys, Good key) ∧
      (seen ++ keys).countP counts ≤ bound ∧ (∀ key ∈ keys, key ∉ seen) ∧ keys.Nodup := by
  induction keys generalizing seen with
  | nil => simpa [KeysAdmitted] using hseen
  | cons key keys ih =>
    have hsplit : seen ++ key :: keys = (seen ++ [key]) ++ keys := by simp
    have hcount : (seen ++ [key]).countP counts =
        seen.countP counts + if counts key = true then 1 else 0 := by simp [List.countP_cons]
    have hmono : (seen ++ [key]).countP counts ≤ (seen ++ key :: keys).countP counts := by
      rw [hsplit]
      exact (List.sublist_append_left _ _).countP_le
    rw [KeysAdmitted, h]
    constructor
    · rintro ⟨⟨hgood, hroom, hnew⟩, hkeys⟩
      have hnext : (seen ++ [key]).countP counts ≤ bound := by grind
      rw [ih hnext, ← hsplit] at hkeys
      grind
    · rintro ⟨hgood, hbound, hnew, hnodup⟩
      rw [ih (hmono.trans hbound), ← hsplit]
      grind

/-- What the limits ask of one value by itself. -/
def Admitted (depth : ℕ) : Json S N → Prop
  | .string _ text => byteLen text ≤ l.stringBytes
  | .array _ items => depth < l.nesting ∧ ∀ n ∈ l.items, items.length ≤ n
  | .object _ members => depth < l.nesting ∧ members.length ≤ l.members depth ∧
      l.KeysAdmitted depth [] (members.map Prod.fst)
  | _ => True

/-- The specification of a walk over one value. -/
def Measured (x : Json S N) : Prop :=
  ∀ depth budget rest, l.walk depth budget x = .ok rest ↔
    (∀ p ∈ x.valuesAt depth, l.Admitted p.1 p.2) ∧ (x.valuesAt depth).length + rest = budget

theorem bind_eq_ok_iff {ε α β : Type} {x : Except ε α} {f : α → Except ε β} {b : β} :
    (x >>= f) = .ok b ↔ ∃ a, x = .ok a ∧ f a = .ok b := by
  cases x <;> simp [bind, Except.bind]

theorem node_eq_ok_iff {budget rest : ℕ} : l.node budget = .ok rest ↔ rest + 1 = budget := by
  by_cases h : budget = 0
  · simp [node, h]
  · simp only [node, h, if_false, Except.ok.injEq]
    omega

/-- One value and then the others, as the conditions on a list of values. -/
theorem forall_append_and_length_iff {α : Type} {P : α → Prop} {xs ys : List α} {rest budget : ℕ} :
    (∃ middle, ((∀ p ∈ xs, P p) ∧ xs.length + middle = budget) ∧
      (∀ p ∈ ys, P p) ∧ ys.length + rest = middle) ↔
      (∀ p ∈ xs ++ ys, P p) ∧ (xs ++ ys).length + rest = budget := by
  simp only [List.forall_mem_append, List.length_append]
  constructor
  · rintro ⟨middle, ⟨hx, hxl⟩, hy, hyl⟩
    exact ⟨⟨hx, hy⟩, by omega⟩
  · rintro ⟨⟨hx, hy⟩, hl⟩
    exact ⟨ys.length + rest, ⟨hx, by omega⟩, hy, rfl⟩

theorem walkItems_eq_ok_iff {items : List (Json S N)} (h : ∀ x ∈ items, l.Measured x) {depth : ℕ}
    {room : Option ℕ} {budget rest : ℕ} :
    l.walkItems depth room budget items = .ok rest ↔ (∀ n ∈ room, items.length ≤ n) ∧
      (∀ p ∈ items.flatMap (Json.valuesAt depth), l.Admitted p.1 p.2) ∧
      (items.flatMap (Json.valuesAt depth)).length + rest = budget := by
  induction items generalizing room budget with
  | nil => simp [walkItems, eq_comm]
  | cons x xs ih =>
    obtain ⟨hx, hxs⟩ := List.forall_mem_cons.mp h
    rw [walkItems, List.flatMap_cons]
    by_cases hstop : room = some 0 ∨ budget = 0
    · have hpos := x.valuesAt_pos depth
      simp only [hstop, if_true, reduceCtorEq, false_iff, not_and, List.length_append]
      rintro hroom - hlen
      obtain rfl | rfl := hstop
      · simp at hroom
      · omega
    · have hroom : (∀ n ∈ room.map (· - 1), xs.length ≤ n) ↔ ∀ n ∈ room, (x :: xs).length ≤ n := by
        cases room with
        | none => simp
        | some n =>
          have hn : n ≠ 0 := fun hn => hstop (.inl (by rw [hn]))
          simp only [Option.map_some, Option.mem_def, Option.some.injEq, forall_eq',
            List.length_cons]
          omega
      rw [if_neg hstop, bind_eq_ok_iff, ← forall_append_and_length_iff, ← hroom]
      simp only [hx depth budget, ih hxs]
      grind

theorem walkMembers_eq_ok_iff {members : List (Str × Json S N)}
    (h : ∀ m ∈ members, l.Measured m.2) {depth : ℕ} {seen : List Str} {budget rest : ℕ} :
    l.walkMembers depth seen budget members = .ok rest ↔
      (members.length ≤ l.members depth - seen.length ∧
        l.KeysAdmitted depth seen (members.map Prod.fst)) ∧
      (∀ p ∈ members.flatMap (fun m => m.2.valuesAt (depth + 1)), l.Admitted p.1 p.2) ∧
      (members.flatMap fun m => m.2.valuesAt (depth + 1)).length + rest = budget := by
  induction members generalizing seen budget with
  | nil => simp [walkMembers, KeysAdmitted, eq_comm]
  | cons m ms ih =>
    obtain ⟨hm, hms⟩ := List.forall_mem_cons.mp h
    rw [walkMembers, List.flatMap_cons]
    by_cases hstop : l.members depth ≤ seen.length ∨ budget = 0
    · have hpos := m.2.valuesAt_pos (depth + 1)
      simp only [hstop, if_true, reduceCtorEq, false_iff, not_and, List.length_append,
        List.length_cons]
      rintro ⟨hroom, -⟩ - hlen
      omega
    · have hroom : ms.length ≤ l.members depth - (seen ++ [m.1]).length ↔
          (m :: ms).length ≤ l.members depth - seen.length := by
        simp only [List.length_append, List.length_cons, List.length_nil]
        omega
      rw [if_neg hstop, bind_eq_ok_iff, ← forall_append_and_length_iff, ← hroom]
      simp only [bind_eq_ok_iff, hm (depth + 1) budget, ih hms, List.map_cons, KeysAdmitted]
      grind

/-- A container spends its unit first, then its depth is judged, then what stands in it. -/
theorem container_eq_ok_iff {depth budget rest : ℕ} {inside : ℕ → Except String ℕ} {P Q : Prop}
    {spent : ℕ} (h : ∀ middle, inside middle = .ok rest ↔ P ∧ Q ∧ spent + rest = middle) :
    (l.node budget >>= fun middle =>
      if l.nesting ≤ depth then .error l.nestingText else inside middle) = .ok rest ↔
      ((depth < l.nesting ∧ P) ∧ Q) ∧ spent + 1 + rest = budget := by
  rw [bind_eq_ok_iff]
  by_cases hdepth : l.nesting ≤ depth
  · have hd : ¬ depth < l.nesting := by omega
    simp [hdepth, hd]
  · have hd : depth < l.nesting := by omega
    simp only [hdepth, if_false, h, node_eq_ok_iff, hd, true_and]
    constructor
    · rintro ⟨middle, hm, hp, hq, hs⟩
      exact ⟨⟨hp, hq⟩, by omega⟩
    · rintro ⟨⟨hp, hq⟩, hs⟩
      exact ⟨spent + rest, by omega, hp, hq, rfl⟩

/-- A walk succeeds exactly within the limits, and takes one unit of budget for each value. -/
theorem walk_eq_ok_iff (j : Json S N) : l.Measured j := by
  induction j using Json.induct with
  | null | bool | number =>
    intro depth budget rest
    simp only [walk, Json.valuesAt, node_eq_ok_iff, List.forall_mem_singleton, Admitted, true_and,
      List.length_singleton]
    omega
  | string s text =>
    intro depth budget rest
    simp only [walk, Json.valuesAt, bind_eq_ok_iff, node_eq_ok_iff, List.forall_mem_singleton,
      Admitted, List.length_singleton]
    by_cases htext : l.stringBytes < byteLen text
    · have hle : ¬ byteLen text ≤ l.stringBytes := by omega
      simp [htext, hle]
    · simp only [htext, if_false, Except.ok.injEq, exists_eq_right, Nat.not_lt.mp htext, true_and]
      omega
  | array s items ih =>
    intro depth budget rest
    rw [walk, Json.valuesAt_array, List.forall_mem_cons, List.length_cons]
    exact l.container_eq_ok_iff fun middle => l.walkItems_eq_ok_iff ih
  | object s members ih =>
    intro depth budget rest
    rw [walk, Json.valuesAt_object, List.forall_mem_cons, List.length_cons]
    exact l.container_eq_ok_iff fun middle => l.walkMembers_eq_ok_iff ih

end Limits

end OpenBao.JsonTrees
