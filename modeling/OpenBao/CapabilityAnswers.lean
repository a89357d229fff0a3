import OpenBao.JsonTrees
import OpenBao.KeyOrderedMaps
import OpenBao.PathValidation
import Mathlib.Data.Char
import Mathlib.Data.List.Lex
import Mathlib.Data.Finset.Card

/-!
# Capability answers

The paths of a capability query are normalized before they are sent, the answer is a
map from the paths sent to lists, and a caller looks lists up by the spellings it
started from. Each of the three normalizes in its own way.
-/

namespace OpenBao.CapabilityAnswers
open DelimitedLists Utf8Text JsonTrees KeyOrderedMaps PathValidation

def maxResponseStrings : ℕ := 4096

def capabilitiesName : Str := "capabilities".toList

def validateCapabilityPath (path : Str) : Except Error Str :=
  if trimMatches (· == '/') path = [] then .error (.invalidPath "capability path must not be empty")
  else do return join '/' (← validateEndpointPath path)

def validateCapabilityPaths (paths : List Str) : Except Error (List Str) := do
  let validated ← paths.mapM validateCapabilityPath
  if validated = [] then .error (.invalidPath "at least one capability path is required")
  else return validated

structure Capabilities where
  capabilities : List Str
  byPath : List (Str × List Str)
  deriving DecidableEq, Repr

/-- `Capabilities::for_path`. -/
def Capabilities.forPath (c : Capabilities) (path : Str) : Option (List Str) :=
  get (path.dropWhile (· == '/')) c.byPath

section

variable {S N : Type}

/-- The loop of the list visitor with the values so far. -/
def readStrings : List Str → List (Json S N) → Except String (List Str)
  | values, [] => .ok values
  | values, x :: xs =>
    if values.length < maxResponseStrings then
      match x with
      | .string _ text => readStrings (values ++ [text]) xs
      | _ => .error "invalid type: expected a string"
    else .error "OpenBao string list exceeds item limit"

/-- `BoundedStringList::deserialize`. -/
def boundedStringList : Json S N → Except String (List Str)
  | .array _ items => readStrings [] items
  | _ => .error "invalid type: expected a list of at most 4096 strings"

/-- The loop of `CapabilitiesVisitor`. -/
def visitMembers : Option (List Str) → List (Str × List Str) → List (Str × Json S N) →
    Except String Capabilities
  | capabilities, byPath, [] => .ok ⟨capabilities.getD [], byPath⟩
  | capabilities, byPath, (key, x) :: members =>
    if key = capabilitiesName then
      if capabilities.isSome then .error "duplicate capabilities field"
      else do
        let list ← boundedStringList x
        visitMembers (some list) byPath members
    else if maxResponseStrings ≤ byPath.length then
      .error "OpenBao capabilities map exceeds item limit"
    else do
      let list ← boundedStringList x
      visitMembers capabilities (insertEntry key list byPath).2 members

/-- `Capabilities::deserialize`. -/
def decode : Json S N → Except String Capabilities
  | .object _ members => visitMembers none [] members
  | _ => .error "invalid type: expected a bounded OpenBao capabilities object"

def text? : Json S N → Option Str
  | .string _ text => some text
  | _ => none

/-- The list of strings that a value is, of any length. -/
def strings : Json S N → Option (List Str)
  | .array _ items => items.mapM text?
  | _ => none

/-- The names in an answer that are paths. -/
def pathNames (members : List (Str × Json S N)) : List Str :=
  (members.map Prod.fst).filter (· ≠ capabilitiesName)

/-- An answer with one list for each path sent, and possibly the combined list. -/
structure KeyedBy (sent : List Str) (lists : Str → List Str) (members : List (Str × Json S N)) :
    Prop where
  distinct : (members.map Prod.fst).Nodup
  answered : ∀ path ∈ sent, ∃ x, (path, x) ∈ members ∧ strings x = some (lists path)
  only : ∀ m ∈ members, m.1 ∈ sent ∨ m.1 = capabilitiesName
  values : ∀ m ∈ members, ∃ list, strings m.2 = some list

/-- Every caller finds the list of its path by the spelling it used. -/
def Faithful (paths : List Str) (lists : Str → List Str) (answer : Json S N) : Prop :=
  ∃ c, decode answer = .ok c ∧ ∀ path ∈ paths, ∀ sent, validateCapabilityPath path = .ok sent →
    c.forPath path = some (lists sent)

/-- Some path stands twice in an answer. -/
def RepeatsPath (members : List (Str × Json S N)) : Prop := ¬ (pathNames members).Nodup

/-- The spellings and sizes for which look-up works. -/
structure Lookable (paths sent : List Str) (members : List (Str × Json S N)) : Prop where
  noFinalSlash : ∀ path ∈ paths, path.getLast? ≠ some '/'
  notReserved : capabilitiesName ∉ sent
  fewPaths : sent.toFinset.card ≤ maxResponseStrings
  shortLists : ∀ m ∈ members, ∀ list, strings m.2 = some list → list.length ≤ maxResponseStrings

/-- The answers that decode at all: lists of bounded length, one combined list, and room
for another path until the last one is read. -/
structure Readable (members : List (Str × Json S N)) : Prop where
  lists : ∀ m ∈ members, ∃ list, strings m.2 = some list ∧ list.length ≤ maxResponseStrings
  combined : (members.map Prod.fst).count capabilitiesName ≤ 1
  room : (pathNames members).dropLast.toFinset.card < maxResponseStrings

theorem readStrings_eq_ok_iff {values list : List Str} (h : values.length ≤ maxResponseStrings)
    {items : List (Json S N)} :
    readStrings values items = .ok list ↔ ∃ rest, items.mapM text? = some rest ∧
      list = values ++ rest ∧ list.length ≤ maxResponseStrings := by
  induction items generalizing values with
  | nil =>
    simp only [readStrings, Except.ok.injEq, List.mapM_nil, Option.pure_def, Option.some.injEq,
      exists_eq_left', List.append_nil]
    exact ⟨fun heq => ⟨heq.symm, heq ▸ h⟩, fun heq => heq.1.symm⟩
  | cons x xs ih =>
    simp only [readStrings, List.mapM_cons, Option.bind_eq_bind, Option.bind_eq_some_iff,
      Option.pure_def, Option.some.injEq]
    by_cases hroom : values.length < maxResponseStrings
    · cases x with
      | string s text =>
        have hlength : (values ++ [text]).length ≤ maxResponseStrings := by
          rw [List.length_append]
          exact hroom
        simp only [hroom, if_true, ih hlength, text?, Option.some.injEq, List.append_assoc]
        grind
      | null | bool | number | array | object => simp [hroom, text?]
    · simp only [hroom, if_false, reduceCtorEq, false_iff]
      rintro ⟨rest, ⟨text, -, tail, -, rfl⟩, rfl, hlength⟩
      rw [List.length_append, List.length_cons] at hlength
      omega

theorem boundedStringList_eq_ok_iff {x : Json S N} {list : List Str} :
    boundedStringList x = .ok list ↔ strings x = some list ∧ list.length ≤ maxResponseStrings := by
  cases x with
  | array s items =>
    rw [boundedStringList, readStrings_eq_ok_iff (Nat.zero_le _), strings]
    simp only [List.nil_append]
    grind
  | null | bool | number | string | object => simp [boundedStringList, strings]

/-- One round of the loop. -/
theorem visitMembers_cons_eq_ok_iff {capabilities : Option (List Str)}
    {byPath : List (Str × List Str)} {m : Str × Json S N} {members : List (Str × Json S N)}
    {c : Capabilities} : visitMembers capabilities byPath (m :: members) = .ok c ↔
      ∃ list, (strings m.2 = some list ∧ list.length ≤ maxResponseStrings) ∧
        ((m.1 = capabilitiesName ∧ capabilities = none ∧
            visitMembers (some list) byPath members = .ok c) ∨
          (m.1 ≠ capabilitiesName ∧ byPath.length < maxResponseStrings ∧
            visitMembers capabilities (insertEntry m.1 list byPath).2 members = .ok c)) := by
  obtain ⟨key, x⟩ := m
  simp only [visitMembers, ← boundedStringList_eq_ok_iff]
  by_cases hkey : key = capabilitiesName
  · cases capabilities with
    | none => simp [hkey, OpenBao.bind_eq_ok_iff]
    | some list => simp [hkey]
  · by_cases hroom : maxResponseStrings ≤ byPath.length
    · simp [hkey, hroom, Nat.not_lt.mpr hroom]
    · simp [hkey, hroom, Nat.not_le.mp hroom, OpenBao.bind_eq_ok_iff]

/-- Whether the path names still to come fit beside those seen. -/
def RoomFrom (seen : Finset Str) (members : List (Str × Json S N)) : Prop :=
  pathNames members ≠ [] →
    (seen ∪ (pathNames members).dropLast.toFinset).card < maxResponseStrings

theorem roomFrom_cons_iff {seen : Finset Str} {m : Str × Json S N} {members : List (Str × Json S N)}
    (h : m.1 ≠ capabilitiesName) : RoomFrom seen (m :: members) ↔
      seen.card < maxResponseStrings ∧ RoomFrom (insert m.1 seen) members := by
  have hnames : pathNames (m :: members) = m.1 :: pathNames members := by simp [pathNames, h]
  rw [RoomFrom, RoomFrom, hnames]
  cases hrest : pathNames members with
  | nil => simp
  | cons name names =>
    have hunion : seen ∪ (m.1 :: (name :: names).dropLast).toFinset =
        insert m.1 seen ∪ (name :: names).dropLast.toFinset := by
      ext x
      simp only [Finset.mem_union, List.mem_toFinset, List.mem_cons, Finset.mem_insert]
      tauto
    rw [List.dropLast_cons_of_ne_nil (List.cons_ne_nil _ _), hunion]
    simp only [ne_eq, reduceCtorEq, not_false_eq_true, true_implies]
    have hle : seen.card ≤ (insert m.1 seen ∪ (name :: names).dropLast.toFinset).card :=
      Finset.card_le_card ((Finset.subset_insert _ _).trans Finset.subset_union_left)
    omega

theorem roomFrom_cons_of_eq {seen : Finset Str} {m : Str × Json S N}
    {members : List (Str × Json S N)} (h : m.1 = capabilitiesName) :
    RoomFrom seen (m :: members) ↔ RoomFrom seen members := by
  have hnames : pathNames (m :: members) = pathNames members := by simp [pathNames, h]
  rw [RoomFrom, RoomFrom, hnames]

theorem toFinset_keys_insertEntry {key : Str} {list : List Str} {byPath : List (Str × List Str)} :
    ((insertEntry key list byPath).2.map Prod.fst).toFinset =
      insert key (byPath.map Prod.fst).toFinset := by
  ext name
  rw [List.mem_toFinset, mem_keys_insertEntry, Finset.mem_insert, List.mem_toFinset]

theorem card_keys {byPath : List (Str × List Str)} (h : Ordered byPath) :
    (byPath.map Prod.fst).toFinset.card = byPath.length := by
  have hnodup : (byPath.map Prod.fst).Nodup := List.pairwise_map.mpr (h.imp fun hlt => hlt.ne)
  rw [List.toFinset_card_of_nodup hnodup, List.length_map]

/-- When the loop ends well. -/
theorem visitMembers_isOk_iff {capabilities : Option (List Str)} {byPath : List (Str × List Str)}
    (h : Ordered byPath) {members : List (Str × Json S N)} :
    (∃ c, visitMembers capabilities byPath members = .ok c) ↔
      (∀ m ∈ members, ∃ list, strings m.2 = some list ∧ list.length ≤ maxResponseStrings) ∧
      (members.map Prod.fst).count capabilitiesName + capabilities.toList.length ≤ 1 ∧
      RoomFrom (byPath.map Prod.fst).toFinset members := by
  induction members generalizing capabilities byPath with
  | nil =>
    have hone : capabilities.toList.length ≤ 1 := by cases capabilities <;> simp
    simp [visitMembers, RoomFrom, pathNames, hone]
  | cons m members ih =>
    simp only [visitMembers_cons_eq_ok_iff, List.forall_mem_cons, List.map_cons, List.count_cons]
    by_cases hkey : m.1 = capabilitiesName
    · simp only [roomFrom_cons_of_eq hkey, hkey, beq_self_eq_true, if_true, true_and, ne_eq,
        not_true_eq_false, false_and, or_false]
      constructor
      · rintro ⟨c, list, hlist, rfl, hc⟩
        obtain ⟨hlists, hcount, hroom⟩ := (ih h).mp ⟨c, hc⟩
        rw [Option.toList_some, List.length_singleton] at hcount
        exact ⟨⟨⟨list, hlist⟩, hlists⟩, by rw [Option.toList_none, List.length_nil]; omega, hroom⟩
      · rintro ⟨⟨⟨list, hlist⟩, hlists⟩, hcount, hroom⟩
        have hnone : capabilities = none := by
          cases capabilities with
          | none => rfl
          | some list => simp at hcount
        have hlength : (some list).toList.length = 1 := rfl
        obtain ⟨c, hc⟩ := (@ih (some list) byPath h).mpr ⟨hlists, by omega, hroom⟩
        exact ⟨c, list, hlist, hnone, hc⟩
    · have hbeq : (m.1 == capabilitiesName) = false := beq_false_of_ne hkey
      rw [roomFrom_cons_iff hkey, card_keys h]
      simp only [hbeq, Bool.false_eq_true, if_false, Nat.add_zero, hkey, false_and, false_or, ne_eq,
        not_false_eq_true, true_and]
      constructor
      · rintro ⟨c, list, hlist, hfits, hc⟩
        obtain ⟨hlists, hcount, hroom⟩ := (ih (insertEntry_ordered h)).mp ⟨c, hc⟩
        exact ⟨⟨⟨list, hlist⟩, hlists⟩, hcount, hfits, toFinset_keys_insertEntry ▸ hroom⟩
      · rintro ⟨⟨⟨list, hlist⟩, hlists⟩, hcount, hfits, hroom⟩
        rw [← @toFinset_keys_insertEntry m.1 list] at hroom
        obtain ⟨c, hc⟩ := (ih (insertEntry_ordered h)).mpr ⟨hlists, hcount, hroom⟩
        exact ⟨c, list, hlist, hfits, hc⟩

theorem decode_isOk_iff {s : S} {members : List (Str × Json S N)} :
    (∃ c, decode (.object s members) = .ok c) ↔ Readable members := by
  rw [decode, visitMembers_isOk_iff ordered_nil]
  constructor
  · rintro ⟨hlists, hcount, hroom⟩
    refine ⟨hlists, hcount, ?_⟩
    by_cases hnames : pathNames members = []
    · rw [hnames]
      exact Nat.zero_lt_succ _
    · simpa [RoomFrom, hnames] using hroom
  · rintro ⟨hlists, hcount, hroom⟩
    exact ⟨hlists, hcount, fun _ => by simpa using hroom⟩

theorem mem_pathNames {name : Str} {members : List (Str × Json S N)} :
    name ∈ pathNames members ↔ name ∈ members.map Prod.fst ∧ name ≠ capabilitiesName := by
  simp only [pathNames, List.mem_filter, decide_eq_true_eq]

/-- A name keeps its list through members that do not mention it as a path. -/
theorem get_of_notMem {capabilities : Option (List Str)} {byPath : List (Str × List Str)}
    {members : List (Str × Json S N)} {c : Capabilities}
    (h : visitMembers capabilities byPath members = .ok c) {name : Str}
    (hname : name ∉ pathNames members) : get name c.byPath = get name byPath := by
  induction members generalizing capabilities byPath with
  | nil =>
    rw [visitMembers, Except.ok.injEq] at h
    rw [← h]
  | cons m members ih =>
    have htail : name ∉ pathNames members := by
      intro hmem
      rw [mem_pathNames] at hmem hname
      exact hname ⟨List.mem_cons_of_mem _ hmem.1, hmem.2⟩
    obtain ⟨list, -, ⟨-, -, h⟩ | ⟨hkey, -, h⟩⟩ := visitMembers_cons_eq_ok_iff.mp h
    · exact ih h htail
    · have hne : name ≠ m.1 := by
        rintro rfl
        exact hname (mem_pathNames.mpr ⟨List.mem_cons_self, hkey⟩)
      rw [ih h htail, get_insertEntry, if_neg hne]

/-- Of several members with one path the last one stays. -/
theorem get_of_last {capabilities : Option (List Str)} {byPath : List (Str × List Str)}
    {pre post : List (Str × Json S N)} {name : Str} {x : Json S N} {c : Capabilities}
    (h : visitMembers capabilities byPath (pre ++ (name, x) :: post) = .ok c)
    (hname : name ≠ capabilitiesName) (hlast : name ∉ pathNames post) :
    ∃ list, strings x = some list ∧ get name c.byPath = some list := by
  induction pre generalizing capabilities byPath with
  | nil =>
    obtain ⟨list, ⟨hlist, -⟩, ⟨hkey, -⟩ | ⟨-, -, h⟩⟩ := visitMembers_cons_eq_ok_iff.mp h
    · exact absurd hkey hname
    · exact ⟨list, hlist, by rw [get_of_notMem h hlast, get_insertEntry, if_pos rfl]⟩
  | cons m pre ih =>
    obtain ⟨list, -, ⟨-, -, h⟩ | ⟨-, -, h⟩⟩ := visitMembers_cons_eq_ok_iff.mp h
    · exact ih h
    · exact ih h

theorem validateCapabilityPath_eq_ok {path sent : Str} (h : validateCapabilityPath path = .ok sent) :
    sent = trimMatches (· == '/') path ∧ sent ≠ [] := by
  rw [validateCapabilityPath] at h
  split_ifs at h with hempty
  obtain ⟨segments, hsegments, hjoin⟩ := OpenBao.bind_eq_ok_iff.mp h
  have htrim := (validatePath_eq_ok_iff.mp hsegments).2.2.1
  have hsent : join '/' segments = sent := Except.ok.inj hjoin
  rw [← hsent, ← htrim]
  exact ⟨rfl, hempty⟩

/-- A normal form does not end in a slash, and looking up by a spelling that does not
end in one looks up its normal form. -/
theorem lookup_key {path sent : Str} (h : validateCapabilityPath path = .ok sent) :
    sent.getLast? ≠ some '/' ∧ (path.dropWhile (· == '/')).getLast? = path.getLast? ∧
      (path.getLast? ≠ some '/' → path.dropWhile (· == '/') = sent) := by
  obtain ⟨rfl, hne⟩ := validateCapabilityPath_eq_ok h
  have hdrop : path.dropWhile (· == '/') ≠ [] := by
    intro hnil
    rw [trimMatches, hnil] at hne
    exact hne rfl
  have hlast : (path.dropWhile (· == '/')).getLast? = path.getLast? := by
    conv_rhs => rw [← List.takeWhile_append_dropWhile (p := (· == '/')) (l := path)]
    rw [List.getLast?_append_of_ne_nil _ hdrop]
  refine ⟨?_, hlast, ?_⟩
  · rw [trimMatches] at hne ⊢
    rw [List.getLast?_eq_some_getLast hne]
    simpa using List.rdropWhile_last_not (· == '/') (path.dropWhile (· == '/')) hne
  · intro hpath
    rw [trimMatches, eq_comm, List.rdropWhile_eq_self_iff]
    intro hl
    rw [← hlast, List.getLast?_eq_some_getLast hl] at hpath
    simpa using hpath

theorem mem_of_mapM {α β : Type} {f : α → Except Error β} {xs : List α} {ys : List β}
    (h : xs.mapM f = .ok ys) :
    (∀ x ∈ xs, ∃ y ∈ ys, f x = .ok y) ∧ ∀ y ∈ ys, ∃ x ∈ xs, f x = .ok y := by
  induction xs generalizing ys with
  | nil =>
    obtain rfl : ([] : List β) = ys := Except.ok.inj h
    simp
  | cons x xs ih =>
    rw [List.mapM_cons, OpenBao.bind_eq_ok_iff] at h
    obtain ⟨y, hy, h⟩ := h
    obtain ⟨zs, hzs, h⟩ := OpenBao.bind_eq_ok_iff.mp h
    obtain rfl : y :: zs = ys := Except.ok.inj h
    obtain ⟨hl, hr⟩ := ih hzs
    refine ⟨?_, ?_⟩
    · refine List.forall_mem_cons.mpr ⟨⟨y, List.mem_cons_self, hy⟩, fun x hx => ?_⟩
      obtain ⟨z, hz, hf⟩ := hl x hx
      exact ⟨z, List.mem_cons_of_mem _ hz, hf⟩
    · refine List.forall_mem_cons.mpr ⟨⟨x, List.mem_cons_self, hy⟩, fun z hz => ?_⟩
      obtain ⟨x, hx, hf⟩ := hr z hz
      exact ⟨x, List.mem_cons_of_mem _ hx, hf⟩

/-- Every spelling has a normal form among those sent, and none is sent for nothing. -/
theorem sent_of_validate {paths sent : List Str} (h : validateCapabilityPaths paths = .ok sent) :
    (∀ path ∈ paths, ∃ s ∈ sent, validateCapabilityPath path = .ok s) ∧
      ∀ s ∈ sent, ∃ path ∈ paths, validateCapabilityPath path = .ok s := by
  obtain ⟨validated, hvalidated, h⟩ := OpenBao.bind_eq_ok_iff.mp h
  split_ifs at h with hempty
  obtain rfl : validated = sent := Except.ok.inj h
  exact mem_of_mapM hvalidated

section

variable {paths sent : List Str} {lists : Str → List Str} {members : List (Str × Json S N)}

theorem KeyedBy.mem_pathNames_iff (h : KeyedBy sent lists members)
    (hreserved : capabilitiesName ∉ sent) {name : Str} : name ∈ pathNames members ↔ name ∈ sent := by
  rw [mem_pathNames]
  constructor
  · rintro ⟨hname, hne⟩
    obtain ⟨m, hm, rfl⟩ := List.mem_map.mp hname
    exact (h.only m hm).resolve_right hne
  · intro hname
    obtain ⟨x, hx, -⟩ := h.answered name hname
    exact ⟨List.mem_map.mpr ⟨_, hx, rfl⟩, fun heq => hreserved (heq ▸ hname)⟩

theorem KeyedBy.pathNames_nodup (h : KeyedBy sent lists members) : (pathNames members).Nodup :=
  h.distinct.filter _

/-- The paths that an answer can hold, counted by its names. -/
theorem KeyedBy.card_sent (h : KeyedBy sent lists members) (hreserved : capabilitiesName ∉ sent) :
    sent.toFinset.card = (pathNames members).length := by
  have hset : sent.toFinset = (pathNames members).toFinset := by
    ext name
    rw [List.mem_toFinset, List.mem_toFinset, h.mem_pathNames_iff hreserved]
  rw [hset, List.toFinset_card_of_nodup h.pathNames_nodup]

theorem KeyedBy.get_eq (h : KeyedBy sent lists members) {c : Capabilities}
    (hc : visitMembers none [] members = .ok c) {name : Str} (hname : name ∈ sent)
    (hne : name ≠ capabilitiesName) : get name c.byPath = some (lists name) := by
  obtain ⟨x, hx, hlist⟩ := h.answered name hname
  obtain ⟨pre, post, rfl⟩ := List.append_of_mem hx
  have hlast : name ∉ pathNames post := by
    have hdistinct := h.distinct
    rw [List.map_append, List.map_cons, List.nodup_append, List.nodup_cons] at hdistinct
    exact fun hmem => hdistinct.2.1.1 (mem_pathNames.mp hmem).1
  obtain ⟨list, hstrings, hget⟩ := get_of_last hc hne hlast
  rw [hget, ← hlist, hstrings]

theorem faithful_iff_lookable {s : S} (h : validateCapabilityPaths paths = .ok sent)
    (hk : KeyedBy sent lists members) :
    Faithful paths lists (.object s members) ↔ Lookable paths sent members := by
  obtain ⟨hforth, hback⟩ := sent_of_validate h
  constructor
  · rintro ⟨c, hc, hfound⟩
    have hreadable : Readable members := decode_isOk_iff.mp ⟨c, hc⟩
    have hkey : ∀ path ∈ paths, ∀ s, validateCapabilityPath path = .ok s →
        path.getLast? ≠ some '/' ∧ s ≠ capabilitiesName := by
      intro path hpath s hs
      have hsome := hfound path hpath s hs
      have hmem : path.dropWhile (· == '/') ∈ pathNames members := by
        by_contra hnot
        rw [Capabilities.forPath, get_of_notMem hc hnot] at hsome
        cases hsome
      obtain ⟨hslash, hlast, heq⟩ := lookup_key hs
      rw [mem_pathNames] at hmem
      obtain ⟨m, hm, hmkey⟩ := List.mem_map.mp hmem.1
      have hin := (hk.only m hm).resolve_right (hmkey ▸ hmem.2)
      obtain ⟨path', -, hpath'⟩ := hback _ hin
      have hnoslash := (lookup_key hpath').1
      rw [hmkey, hlast] at hnoslash
      exact ⟨hnoslash, heq hnoslash ▸ hmem.2⟩
    have hreserved : capabilitiesName ∉ sent := by
      intro hmem
      obtain ⟨path, hpath, hs⟩ := hback _ hmem
      exact (hkey path hpath _ hs).2 rfl
    refine ⟨?_, hreserved, ?_, ?_⟩
    · intro path hpath
      obtain ⟨s, -, hs⟩ := hforth path hpath
      exact (hkey path hpath s hs).1
    · have hroom := hreadable.room
      rw [List.toFinset_card_of_nodup (hk.pathNames_nodup.sublist (List.dropLast_sublist _)),
        List.length_dropLast, ← hk.card_sent hreserved] at hroom
      omega
    · intro m hm list hlist
      obtain ⟨list', hlist', hlength⟩ := hreadable.lists m hm
      rw [hlist] at hlist'
      exact Option.some.inj hlist' ▸ hlength
  · intro hl
    have hreadable : Readable members := by
      refine ⟨?_, ?_, ?_⟩
      · intro m hm
        obtain ⟨list, hlist⟩ := hk.values m hm
        exact ⟨list, hlist, hl.shortLists m hm list hlist⟩
      · exact List.nodup_iff_count_le_one.mp hk.distinct capabilitiesName
      · have hcard := hk.card_sent hl.notReserved
        have hfew := hl.fewPaths
        rw [List.toFinset_card_of_nodup (hk.pathNames_nodup.sublist (List.dropLast_sublist _)),
          List.length_dropLast]
        have hpos : 0 < maxResponseStrings := Nat.zero_lt_succ _
        omega
    obtain ⟨c, hc⟩ := (decode_isOk_iff (s := s)).mpr hreadable
    refine ⟨c, hc, ?_⟩
    intro path hpath s hs
    obtain ⟨s', hs', heq⟩ := hforth path hpath
    obtain rfl : s = s' := Except.ok.inj (hs.symm.trans heq)
    rw [Capabilities.forPath, (lookup_key hs).2.2 (hl.noFinalSlash path hpath)]
    exact hk.get_eq hc hs' fun heq => hl.notReserved (heq ▸ hs')

/-- Look-up by the caller's spellings and the refusal of repeated paths hold exactly for
answers whose paths are spelled without a final slash, are not named like the combined
list and stay within the limits, and for repetitions in answers that do not decode. -/
theorem capabilityAnswers_iff (s : S) (h : validateCapabilityPaths paths = .ok sent) :
    ((KeyedBy sent lists members → Faithful paths lists (.object s members)) ∧
      (RepeatsPath members → ∃ e, decode (.object s members) = .error e)) ↔
    ((KeyedBy sent lists members → Lookable paths sent members) ∧
      (RepeatsPath members → ¬ Readable members)) := by
  refine and_congr ?_ ?_
  · exact forall_congr' fun hk => faithful_iff_lookable h hk
  · refine forall_congr' fun _ => ?_
    rw [← decode_isOk_iff (s := s)]
    cases decode (.object s members) <;> simp

end

end

/-- The answer with one list of one string under one path. -/
def oneList (path capability : String) : List (Str × Json Unit ℕ) :=
  [(path.toList, .array () [.string () capability.toList])]

theorem oneList_keyedBy (path capability : String) :
    KeyedBy [path.toList] (fun _ => [capability.toList]) (oneList path capability) where
  distinct := List.nodup_singleton _
  answered := by
    intro name hname
    rw [List.mem_singleton] at hname
    exact ⟨_, by rw [hname]; exact List.mem_singleton_self _, rfl⟩
  only := by
    intro m hm
    rw [List.mem_singleton.mp hm]
    exact .inl (List.mem_singleton_self _)
  values := by
    intro m hm
    rw [List.mem_singleton.mp hm]
    exact ⟨_, rfl⟩

theorem leadingSlash_looksUp :
    Faithful ["/secret/data/app".toList] (fun _ => ["read".toList])
      (.object () (oneList "secret/data/app" "read")) := by
  have hlookable : Lookable ["/secret/data/app".toList] ["secret/data/app".toList]
      (oneList "secret/data/app" "read") := by
    refine ⟨by decide +kernel, by decide +kernel, by decide +kernel, ?_⟩
    intro m hm list hlist
    rw [List.mem_singleton.mp hm] at hlist
    obtain rfl : ["read".toList] = list := Option.some.inj hlist
    exact Nat.succ_le_succ (Nat.zero_le _)
  have hone : ¬ RepeatsPath (oneList "secret/data/app" "read") :=
    not_not.mpr (oneList_keyedBy _ _).pathNames_nodup
  exact ((capabilityAnswers_iff () (by decide +kernel)).mpr
    ⟨fun _ => hlookable, fun hrepeats => absurd hrepeats hone⟩).1 (oneList_keyedBy _ _)

/-- A final slash hides a granted capability, and of two lists for one path one is kept. -/
theorem finalSlash_hides_list :
    (validateCapabilityPaths ["secret/metadata/".toList] = .ok ["secret/metadata".toList] ∧
      KeyedBy ["secret/metadata".toList] (fun _ => ["list".toList])
        (oneList "secret/metadata" "list") ∧
      ¬ Faithful ["secret/metadata/".toList] (fun _ => ["list".toList])
        (.object () (oneList "secret/metadata" "list"))) ∧
    RepeatsPath (oneList "secret/a" "deny" ++ oneList "secret/a" "sudo") ∧
      decode (.object () (oneList "secret/a" "deny" ++ oneList "secret/a" "sudo")) =
        .ok ⟨[], [("secret/a".toList, ["sudo".toList])]⟩ := by
  have hvalid : validateCapabilityPaths ["secret/metadata/".toList] =
      .ok ["secret/metadata".toList] := by decide +kernel
  have hkeyed := oneList_keyedBy "secret/metadata" "list"
  refine ⟨⟨hvalid, hkeyed, ?_⟩, ?_, by decide +kernel⟩
  · intro hfaithful
    have hslash := ((faithful_iff_lookable hvalid hkeyed).mp hfaithful).noFinalSlash
    exact hslash _ (List.mem_singleton_self _) (by decide +kernel)
  · have hnames : pathNames (oneList "secret/a" "deny" ++ oneList "secret/a" "sudo") =
        ["secret/a".toList, "secret/a".toList] := by decide +kernel
    rw [RepeatsPath, hnames]
    simp

end OpenBao.CapabilityAnswers
