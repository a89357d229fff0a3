import OpenBao.JsonTrees
import OpenBao.KeyOrderedMaps
import Mathlib.Data.Char
import Mathlib.Data.List.Lex

/-!
# Bounded JSON values

Decoding an unstructured response field under one budget of values and string bytes.
The visitor is modelled over the syntax tree whose events it receives.
-/

namespace OpenBao.BoundedJsonValues
open Utf8Text JsonTrees KeyOrderedMaps

def maxBoundedJsonDepth : ℕ := 64
def maxBoundedJsonNodes : ℕ := 262144
def maxBoundedJsonStringBytes : ℕ := 16 * 1024 * 1024

/-- `f64::is_finite` of the float with these bits. -/
def isFinite (bits : UInt64) : Bool := (bits >>> 52) &&& 0x7ff != 0x7ff

/-- The numbers of the JSON library, which are also what its parser reports. -/
inductive JsonNumber where
  | posInt (value : UInt64)
  | negInt (value : Int64) (negative : value < 0)
  | float (bits : UInt64) (finite : isFinite bits = true)
  deriving DecidableEq

/-- `Number::from(i64)`. -/
def JsonNumber.fromI64 (value : Int64) : JsonNumber :=
  if h : value < 0 then .negInt value h else .posInt value.toUInt64

/-- `Number::from_f64`. -/
def JsonNumber.fromF64 (bits : UInt64) : Option JsonNumber :=
  if h : isFinite bits = true then some (.float bits h) else none

/-- A decoded value. The members of an object stand in key order, as its map keeps them;
the bytewise order of text is that of its scalar values. -/
inductive JsonValue where
  | null
  | bool (value : Bool)
  | number (value : JsonNumber)
  | string (text : Str)
  | array (values : List JsonValue)
  | object (members : List (Str × JsonValue))

structure JsonValueBudget where
  nodesRemaining : ℕ
  stringBytesRemaining : ℕ
  deriving DecidableEq, Repr

namespace JsonValueBudget

def new : JsonValueBudget := ⟨maxBoundedJsonNodes, maxBoundedJsonStringBytes⟩

def takeNode (budget : JsonValueBudget) : Except String JsonValueBudget :=
  if budget.nodesRemaining < 1 then .error "OpenBao JSON document exceeds node limit"
  else .ok { budget with nodesRemaining := budget.nodesRemaining - 1 }

def takeString (budget : JsonValueBudget) (bytes : ℕ) : Except String JsonValueBudget :=
  if budget.stringBytesRemaining < bytes then
    .error "OpenBao JSON document exceeds string byte limit"
  else .ok { budget with stringBytesRemaining := budget.stringBytesRemaining - bytes }

end JsonValueBudget

/-- `usize::saturating_add(1)`. -/
def childDepth (depth : ℕ) : ℕ := min (depth + 1) (2 ^ 64 - 1)

/-- What the seed does before it asks for the value. -/
def enter (depth : ℕ) (budget : JsonValueBudget) : Except String JsonValueBudget :=
  if maxBoundedJsonDepth < depth then .error "OpenBao JSON document exceeds nesting limit"
  else budget.takeNode

/-- The visitor method that a number reaches. -/
def visitNumber : JsonNumber → Except String JsonValue
  | .posInt value => .ok (.number (.posInt value))
  | .negInt value _ => .ok (.number (.fromI64 value))
  | .float bits _ =>
    match JsonNumber.fromF64 bits with
    | some number => .ok (.number number)
    | none => .error "OpenBao JSON document contains a non-finite number"

section

variable {S : Type}

mutual
/-- `BoundedJsonValueSeed::deserialize` with the visitor's methods. -/
def seed : ℕ → JsonValueBudget → Json S JsonNumber → Except String (JsonValue × JsonValueBudget)
  | depth, budget, .null _ => do return (.null, ← enter depth budget)
  | depth, budget, .bool _ value => do return (.bool value, ← enter depth budget)
  | depth, budget, .number _ number => do
    let budget ← enter depth budget
    return (← visitNumber number, budget)
  | depth, budget, .string _ text => do
    let budget ← enter depth budget
    return (.string text, ← budget.takeString (byteLen text))
  | depth, budget, .array _ items => do
    let budget ← enter depth budget
    let (values, budget) ← visitSeq depth budget [] items
    return (.array values, budget)
  | depth, budget, .object _ members => do
    let budget ← enter depth budget
    let (values, budget) ← visitMap depth budget [] members
    return (.object values, budget)
termination_by structural _ _ j => j

/-- The loop of `visit_seq` with the values pushed so far. -/
def visitSeq : ℕ → JsonValueBudget → List JsonValue → List (Json S JsonNumber) →
    Except String (List JsonValue × JsonValueBudget)
  | _, budget, values, [] => .ok (values, budget)
  | depth, budget, values, x :: xs => do
    let (value, budget) ← seed (childDepth depth) budget x
    visitSeq depth budget (values ++ [value]) xs
termination_by structural _ _ _ xs => xs

/-- The loop of `visit_map` with the map so far. -/
def visitMap : ℕ → JsonValueBudget → List (Str × JsonValue) → List (Str × Json S JsonNumber) →
    Except String (List (Str × JsonValue) × JsonValueBudget)
  | _, budget, values, [] => .ok (values, budget)
  | depth, budget, values, (key, x) :: ms => do
    let budget ← budget.takeString (byteLen key)
    let (value, budget) ← seed (childDepth depth) budget x
    match insertEntry key value values with
    | (some _, _) => .error "OpenBao JSON document contains a duplicate key"
    | (none, values) => visitMap depth budget values ms
termination_by structural _ _ _ ms => ms
end

/-- `BoundedJsonValue::deserialize`. -/
def decode (document : Json S JsonNumber) : Except String JsonValue := do
  let (value, _) ← seed 0 .new document
  return value

mutual
/-- The document itself, with every object's members in key order. -/
def ofDocument : Json S JsonNumber → JsonValue
  | .null _ => .null
  | .bool _ value => .bool value
  | .number _ number => .number number
  | .string _ text => .string text
  | .array _ items => .array (ofItems items)
  | .object _ members => .object (sortByKey (ofMembers members))
termination_by structural j => j

def ofItems : List (Json S JsonNumber) → List JsonValue
  | [] => []
  | x :: xs => ofDocument x :: ofItems xs
termination_by structural xs => xs

def ofMembers : List (Str × Json S JsonNumber) → List (Str × JsonValue)
  | [] => []
  | (key, x) :: ms => (key, ofDocument x) :: ofMembers ms
termination_by structural ms => ms
end

/-- The bounds on a document as a whole. -/
structure WithinLimits (document : Json S JsonNumber) : Prop where
  nesting : ∀ p ∈ document.valuesAt 0, p.1 ≤ maxBoundedJsonDepth
  values : (document.valuesAt 0).length ≤ maxBoundedJsonNodes
  bytes : Json.textBytes (document.valuesAt 0) ≤ maxBoundedJsonStringBytes
  keys : ∀ p ∈ document.valuesAt 0, p.2.keys.Nodup

/-- What is asked of each value by itself. -/
def Fits (p : ℕ × Json S JsonNumber) : Prop := p.1 ≤ maxBoundedJsonDepth ∧ p.2.keys.Nodup

/-- Between two states of the budget stand some values and a number of other bytes. -/
def Charged (bytes : ℕ) (values : List (ℕ × Json S JsonNumber)) (budget rest : JsonValueBudget) :
    Prop :=
  values.length + rest.nodesRemaining = budget.nodesRemaining ∧
    bytes + Json.textBytes values + rest.stringBytesRemaining = budget.stringBytesRemaining

theorem enter_eq_ok_iff {depth : ℕ} {budget rest : JsonValueBudget} :
    enter depth budget = .ok rest ↔ depth ≤ maxBoundedJsonDepth ∧
      rest.nodesRemaining + 1 = budget.nodesRemaining ∧
      rest.stringBytesRemaining = budget.stringBytesRemaining := by
  obtain ⟨nodes, bytes⟩ := rest
  rw [enter, JsonValueBudget.takeNode]
  split_ifs with hdepth hnodes
  · simp only [false_iff, not_and]
    omega
  · simp only [false_iff, not_and]
    omega
  · simp only [Except.ok.injEq, JsonValueBudget.mk.injEq]
    omega

theorem takeString_eq_ok_iff {budget rest : JsonValueBudget} {bytes : ℕ} :
    budget.takeString bytes = .ok rest ↔ rest.nodesRemaining = budget.nodesRemaining ∧
      bytes + rest.stringBytesRemaining = budget.stringBytesRemaining := by
  obtain ⟨nodes, left⟩ := rest
  rw [JsonValueBudget.takeString]
  split_ifs with hbytes
  · simp only [false_iff, not_and]
    omega
  · simp only [Except.ok.injEq, JsonValueBudget.mk.injEq]
    omega

/-- A number comes back as it was reported. -/
theorem visitNumber_eq (number : JsonNumber) : visitNumber number = .ok (.number number) := by
  cases number with
  | posInt value => rfl
  | negInt value negative => rw [visitNumber, JsonNumber.fromI64, dif_pos negative]
  | float bits finite => rw [visitNumber, JsonNumber.fromF64, dif_pos finite]

theorem charged_append_iff {b c : ℕ} {xs ys : List (ℕ × Json S JsonNumber)}
    {budget rest : JsonValueBudget} :
    Charged (b + c) (xs ++ ys) budget rest ↔
      ∃ middle, Charged b xs budget middle ∧ Charged c ys middle rest := by
  simp only [Charged, List.length_append, Json.textBytes_append]
  constructor
  · rintro ⟨hnodes, hbytes⟩
    refine ⟨⟨ys.length + rest.nodesRemaining, c + Json.textBytes ys + rest.stringBytesRemaining⟩,
      ⟨?_, ?_⟩, rfl, rfl⟩
    · simp only
      omega
    · simp only
      omega
  · rintro ⟨middle, ⟨hnodes, hbytes⟩, hnodes', hbytes'⟩
    omega

/-- A name is charged before its value, and both before the members behind them. -/
theorem charged_member_iff {bytes c : ℕ} {xs ys : List (ℕ × Json S JsonNumber)}
    {budget rest : JsonValueBudget} :
    Charged (bytes + c) (xs ++ ys) budget rest ↔
      ∃ named, budget.takeString bytes = .ok named ∧
        ∃ middle, Charged 0 xs named middle ∧ Charged c ys middle rest := by
  have happend : ∀ named, (∃ middle, Charged 0 xs named middle ∧ Charged c ys middle rest) ↔
      Charged c (xs ++ ys) named rest := by
    intro named
    rw [← charged_append_iff, Nat.zero_add]
  simp only [happend]
  simp only [takeString_eq_ok_iff, Charged]
  constructor
  · rintro ⟨hnodes, hbytes⟩
    refine ⟨⟨budget.nodesRemaining, c + Json.textBytes (xs ++ ys) + rest.stringBytesRemaining⟩,
      ⟨rfl, ?_⟩, hnodes, rfl⟩
    simp only
    omega
  · rintro ⟨named, ⟨hn, hb⟩, hnodes, hbytes⟩
    omega

theorem childDepth_eq {depth : ℕ} (h : depth ≤ maxBoundedJsonDepth) :
    childDepth depth = depth + 1 := by
  rw [maxBoundedJsonDepth] at h
  rw [childDepth]
  omega

/-- The specification of the seed on one value. -/
def Decoded (x : Json S JsonNumber) : Prop :=
  ∀ depth budget value rest, seed depth budget x = .ok (value, rest) ↔
    (∀ p ∈ x.valuesAt depth, Fits p) ∧ Charged 0 (x.valuesAt depth) budget rest ∧
      value = ofDocument x

theorem visitSeq_eq_ok_iff {items : List (Json S JsonNumber)} (h : ∀ x ∈ items, Decoded x)
    {depth : ℕ} (hdepth : depth ≤ maxBoundedJsonDepth) {budget rest : JsonValueBudget}
    {values out : List JsonValue} :
    visitSeq depth budget values items = .ok (out, rest) ↔
      (∀ p ∈ items.flatMap (Json.valuesAt (depth + 1)), Fits p) ∧
      Charged 0 (items.flatMap (Json.valuesAt (depth + 1))) budget rest ∧
      out = values ++ ofItems items := by
  induction items generalizing budget values with
  | nil =>
    obtain ⟨nodes, bytes⟩ := rest
    obtain ⟨nodes', bytes'⟩ := budget
    simp only [visitSeq, Charged, ofItems, Except.ok.injEq, Prod.mk.injEq, List.flatMap_nil,
      JsonValueBudget.mk.injEq, List.not_mem_nil, false_implies, implies_true, true_and,
      List.length_nil, Json.textBytes_nil, Nat.zero_add, List.append_nil]
    grind
  | cons x xs ih =>
    obtain ⟨hx, hxs⟩ := List.forall_mem_cons.mp h
    have hsplit := @charged_append_iff S 0 0 (x.valuesAt (depth + 1))
      (xs.flatMap (Json.valuesAt (depth + 1))) budget rest
    rw [Nat.zero_add] at hsplit
    rw [visitSeq, childDepth_eq hdepth, List.flatMap_cons, List.forall_mem_append, hsplit,
      Limits.bind_eq_ok_iff]
    simp only [Prod.exists, hx (depth + 1) budget, ih hxs, ofItems]
    grind

theorem visitMap_cons_eq_ok_iff {depth : ℕ} {budget rest : JsonValueBudget}
    {values out : List (Str × JsonValue)} (hv : Ordered values) {m : Str × Json S JsonNumber}
    {ms : List (Str × Json S JsonNumber)} :
    visitMap depth budget values (m :: ms) = .ok (out, rest) ↔
      ∃ named, budget.takeString (byteLen m.1) = .ok named ∧
        ∃ value middle, seed (childDepth depth) named m.2 = .ok (value, middle) ∧
          m.1 ∉ values.map Prod.fst ∧
          visitMap depth middle (insertEntry m.1 value values).2 ms = .ok (out, rest) := by
  rw [visitMap, Limits.bind_eq_ok_iff]
  simp only [Limits.bind_eq_ok_iff, Prod.exists]
  refine exists_congr fun named => and_congr_right fun _ => ?_
  refine exists_congr fun value => exists_congr fun middle => and_congr_right fun _ => ?_
  rw [← @insertEntry_fst_eq_none_iff _ _ _ m.1 value values hv]
  obtain ⟨old, entries⟩ := insertEntry m.1 value values
  cases old <;> simp

theorem visitMap_eq_ok_iff {members : List (Str × Json S JsonNumber)}
    (h : ∀ m ∈ members, Decoded m.2) {depth : ℕ} (hdepth : depth ≤ maxBoundedJsonDepth)
    {budget rest : JsonValueBudget} {values out : List (Str × JsonValue)} (hv : Ordered values) :
    visitMap depth budget values members = .ok (out, rest) ↔
      ((∀ key ∈ members.map Prod.fst, key ∉ values.map Prod.fst) ∧ (members.map Prod.fst).Nodup) ∧
      (∀ p ∈ members.flatMap (fun m => m.2.valuesAt (depth + 1)), Fits p) ∧
      Charged ((members.map Prod.fst).map byteLen).sum
        (members.flatMap fun m => m.2.valuesAt (depth + 1)) budget rest ∧
      out = insertAll values (ofMembers members) := by
  induction members generalizing budget values with
  | nil =>
    obtain ⟨nodes, bytes⟩ := rest
    obtain ⟨nodes', bytes'⟩ := budget
    simp [visitMap, Charged, ofMembers, insertAll]
    grind
  | cons m ms ih =>
    obtain ⟨hm, hms⟩ := List.forall_mem_cons.mp h
    have hkeys : ∀ value, (∀ key ∈ ms.map Prod.fst,
        key ∉ (insertEntry m.1 value values).2.map Prod.fst) ↔
        (∀ key ∈ ms.map Prod.fst, key ∉ values.map Prod.fst) ∧ m.1 ∉ ms.map Prod.fst := by
      intro value
      simp only [mem_keys_insertEntry]
      grind
    rw [visitMap_cons_eq_ok_iff hv, childDepth_eq hdepth, List.flatMap_cons,
      List.forall_mem_append, List.map_cons, List.map_cons, List.sum_cons, charged_member_iff]
    simp only [hm (depth + 1), ih hms (insertEntry_ordered hv), hkeys, ofMembers, insertAll,
      List.foldl_cons, List.forall_mem_cons, List.nodup_cons]
    grind

/-- A value is charged for itself before what stands in it. -/
theorem entered_iff {depth bytes : ℕ} {x : Json S JsonNumber} {inside : List (ℕ × Json S JsonNumber)}
    {budget rest : JsonValueBudget} (h : (x.texts.map byteLen).sum = bytes) :
    (∃ entered, enter depth budget = .ok entered ∧ Charged bytes inside entered rest) ↔
      depth ≤ maxBoundedJsonDepth ∧ Charged 0 ((depth, x) :: inside) budget rest := by
  simp only [enter_eq_ok_iff, Charged, List.length_cons, Json.textBytes_cons, h]
  constructor
  · rintro ⟨entered, ⟨hdepth, hn, hb⟩, hnodes, hbytes⟩
    exact ⟨hdepth, by omega, by omega⟩
  · rintro ⟨hdepth, hnodes, hbytes⟩
    refine ⟨⟨inside.length + rest.nodesRemaining, budget.stringBytesRemaining⟩,
      ⟨hdepth, ?_, rfl⟩, rfl, ?_⟩
    · simp only
      omega
    · simp only
      omega

theorem charged_nil_iff {budget rest : JsonValueBudget} :
    Charged 0 ([] : List (ℕ × Json S JsonNumber)) budget rest ↔ budget = rest := by
  obtain ⟨nodes, bytes⟩ := rest
  obtain ⟨nodes', bytes'⟩ := budget
  simp only [Charged, List.length_nil, Json.textBytes_nil, JsonValueBudget.mk.injEq]
  omega

theorem decoded_scalar {x : Json S JsonNumber} {result : JsonValue}
    (hseed : ∀ depth budget, seed depth budget x = do return (result, ← enter depth budget))
    (hvalues : ∀ depth, x.valuesAt depth = [(depth, x)]) (htexts : x.texts = []) (hkeys : x.keys = [])
    (hresult : ofDocument x = result) : Decoded x := by
  intro depth budget value rest
  have hentered := @entered_iff S depth 0 x [] budget rest (by rw [htexts]; rfl)
  simp only [charged_nil_iff, exists_eq_right] at hentered
  rw [hseed, hvalues, hresult, Limits.bind_eq_ok_iff, List.forall_mem_singleton, Fits, hkeys]
  simp only [pure, Except.pure, Except.ok.injEq, Prod.mk.injEq]
  grind

theorem keys_ofMembers (members : List (Str × Json S JsonNumber)) :
    (ofMembers members).map Prod.fst = members.map Prod.fst := by
  induction members with
  | nil => rfl
  | cons m ms ih => rw [ofMembers, List.map_cons, ih, List.map_cons]

/-- A container whose inside is decoded as specified. -/
theorem container_eq_ok_iff {α : Type} {depth bytes : ℕ} {x : Json S JsonNumber}
    {inside : JsonValueBudget → Except String (α × JsonValueBudget)} {wrap : α → JsonValue}
    {values : List (ℕ × Json S JsonNumber)} {budget rest : JsonValueBudget} {value : JsonValue}
    {result : α} {P : Prop} (hbytes : (x.texts.map byteLen).sum = bytes)
    (h : depth ≤ maxBoundedJsonDepth → ∀ entered out, inside entered = .ok (out, rest) ↔
      P ∧ Charged bytes values entered rest ∧ out = result) :
    (enter depth budget >>= fun entered =>
        inside entered >>= fun p => .ok (wrap p.1, p.2)) = .ok (value, rest) ↔
      (depth ≤ maxBoundedJsonDepth ∧ P) ∧ Charged 0 ((depth, x) :: values) budget rest ∧
        value = wrap result := by
  have hentered :
      (∃ entered, enter depth budget = .ok entered ∧ Charged bytes values entered rest) ↔
        depth ≤ maxBoundedJsonDepth ∧ Charged 0 ((depth, x) :: values) budget rest :=
    entered_iff hbytes
  simp only [Limits.bind_eq_ok_iff, Prod.exists, Except.ok.injEq, Prod.mk.injEq]
  by_cases hdepth : depth ≤ maxBoundedJsonDepth
  · constructor
    · rintro ⟨entered, henter, out, _, hinside, rfl, rfl⟩
      obtain ⟨hp, hcharged, rfl⟩ := (h hdepth entered out).mp hinside
      exact ⟨⟨hdepth, hp⟩, (hentered.mp ⟨entered, henter, hcharged⟩).2, rfl⟩
    · rintro ⟨⟨-, hp⟩, hcharged, rfl⟩
      obtain ⟨entered, henter, hcharged⟩ := hentered.mpr ⟨hdepth, hcharged⟩
      exact ⟨entered, henter, result, rest, (h hdepth entered result).mpr ⟨hp, hcharged, rfl⟩,
        rfl, rfl⟩
  · constructor
    · rintro ⟨entered, henter, -⟩
      exact absurd (enter_eq_ok_iff.mp henter).1 hdepth
    · rintro ⟨⟨hd, -⟩, -⟩
      exact absurd hd hdepth

theorem seed_eq_ok_iff (document : Json S JsonNumber) : Decoded document := by
  induction document using Json.induct with
  | null s => exact decoded_scalar (fun _ _ => rfl) (fun _ => rfl) rfl rfl rfl
  | bool s b => exact decoded_scalar (fun _ _ => rfl) (fun _ => rfl) rfl rfl rfl
  | number s number =>
    refine decoded_scalar (fun depth budget => ?_) (fun _ => rfl) rfl rfl rfl
    rw [seed, visitNumber_eq]
    rfl
  | string s text =>
    intro depth budget value rest
    have hentered := @entered_iff S depth (byteLen text) (.string s text) [] budget rest
      (by simp [Json.texts])
    have htaken : ∀ entered, Charged (byteLen text) ([] : List (ℕ × Json S JsonNumber)) entered rest ↔
        entered.takeString (byteLen text) = .ok rest := by
      intro entered
      simp only [Charged, takeString_eq_ok_iff, List.length_nil, Json.textBytes_nil]
      omega
    simp only [htaken] at hentered
    simp only [seed, Limits.bind_eq_ok_iff, pure, Except.pure, Except.ok.injEq, Prod.mk.injEq,
      Json.valuesAt, List.forall_mem_singleton, Fits, Json.keys, ofDocument]
    grind
  | array s items ih =>
    intro depth budget value rest
    have hfits : Fits (depth, Json.array s items) ↔ depth ≤ maxBoundedJsonDepth := by
      simp [Fits, Json.keys]
    rw [seed, Json.valuesAt_array, List.forall_mem_cons, hfits, ofDocument]
    exact container_eq_ok_iff rfl fun hdepth entered out => visitSeq_eq_ok_iff ih hdepth
  | object s members ih =>
    intro depth budget value rest
    have hfits : Fits (depth, Json.object s members) ↔
        depth ≤ maxBoundedJsonDepth ∧ (members.map Prod.fst).Nodup := Iff.rfl
    rw [seed, Json.valuesAt_object, List.forall_mem_cons, hfits, ofDocument,
      @and_assoc (depth ≤ maxBoundedJsonDepth)]
    refine container_eq_ok_iff (x := .object s members) rfl fun hdepth entered out => ?_
    rw [visitMap_eq_ok_iff ih hdepth ordered_nil]
    have hsorted : (members.map Prod.fst).Nodup →
        insertAll [] (ofMembers members) = sortByKey (ofMembers members) := by
      rw [← keys_ofMembers]
      exact insertAll_eq_sortByKey
    simp only [List.map_nil, List.not_mem_nil, not_false_eq_true, implies_true, true_and]
    constructor
    · rintro ⟨hn, hp, hcharged, rfl⟩
      exact ⟨⟨hn, hp⟩, hcharged, hsorted hn⟩
    · rintro ⟨⟨hn, hp⟩, hcharged, rfl⟩
      exact ⟨hn, hp, hcharged, (hsorted hn).symm⟩

/-- Decoding succeeds exactly within the limits, and gives the document itself. -/
theorem boundedJsonValue_exact (document : Json S JsonNumber) (value : JsonValue) :
    decode document = .ok value ↔ WithinLimits document ∧ value = ofDocument document := by
  simp only [decode, Limits.bind_eq_ok_iff, Prod.exists, pure, Except.pure, Except.ok.injEq,
    seed_eq_ok_iff document 0, Charged, JsonValueBudget.new, Nat.zero_add]
  constructor
  · rintro ⟨v, rest, ⟨hfits, ⟨hnodes, hbytes⟩, hv⟩, rfl⟩
    exact ⟨⟨fun p hp => (hfits p hp).1, by omega, by omega, fun p hp => (hfits p hp).2⟩, hv⟩
  · rintro ⟨h, rfl⟩
    refine ⟨_, ⟨maxBoundedJsonNodes - (document.valuesAt 0).length,
      maxBoundedJsonStringBytes - Json.textBytes (document.valuesAt 0)⟩,
      ⟨fun p hp => ⟨h.nesting p hp, h.keys p hp⟩, ⟨?_, ?_⟩, rfl⟩, rfl⟩
    · exact Nat.add_sub_of_le h.values
    · exact Nat.add_sub_of_le h.bytes

end

end OpenBao.BoundedJsonValues
