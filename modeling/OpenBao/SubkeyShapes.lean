import OpenBao.BoundedJsonValues
import OpenBao.CapabilityAnswers

/-!
# Shapes of secrets

The keys of a versioned secret can be read without its values: as an object whose leaves are
null. The reader is modelled over the syntax tree whose events it receives. It takes nothing else
for a shape, however deep, and what it takes has the paths of the document.
-/

namespace OpenBao.SubkeyShapes
open BoundedJsonValues CapabilityAnswers JsonTrees KeyOrderedMaps Utf8Text

def maxKv2SubkeyNodes : ℕ := maxResponseStrings
def maxKv2SubkeyDepth : ℕ := 64

def invalidSubkeyLeaf : String := "OpenBao KV subkey shape contains a non-null leaf"

/-- What the seed does before it asks for the value. -/
def enter (depth remaining : ℕ) : Except String ℕ :=
  if maxKv2SubkeyDepth < depth then .error "OpenBao KV subkey shape exceeds depth limit"
  else if remaining = 0 then .error "OpenBao KV subkey shape exceeds node limit"
  else .ok (remaining - 1)

section

variable {S N : Type}

mutual
/-- `BoundedSubkeysSeed::deserialize` with the visitor's methods, and the nodes that remain. -/
def seed : ℕ → ℕ → Json S N → Except String (JsonValue × ℕ)
  | depth, remaining, .null _ => do return (.null, ← enter depth remaining)
  | depth, remaining, .object _ members => do
    let remaining ← enter depth remaining
    let (values, remaining) ← visitMap depth remaining [] members
    return (.object values, remaining)
  | depth, remaining, .bool _ _ => enter depth remaining >>= fun _ => .error invalidSubkeyLeaf
  | depth, remaining, .number _ _ => enter depth remaining >>= fun _ => .error invalidSubkeyLeaf
  | depth, remaining, .string _ _ => enter depth remaining >>= fun _ => .error invalidSubkeyLeaf
  | depth, remaining, .array _ _ => enter depth remaining >>= fun _ => .error invalidSubkeyLeaf
termination_by structural _ _ j => j

/-- The loop of `visit_map` with the map so far. Behind the last node it only looks whether
another entry follows. -/
def visitMap : ℕ → ℕ → List (Str × JsonValue) → List (Str × Json S N) →
    Except String (List (Str × JsonValue) × ℕ)
  | _, remaining, values, [] => .ok (values, remaining)
  | depth, remaining, values, (key, x) :: ms =>
    if remaining = 0 then .error "OpenBao KV subkey shape exceeds node limit"
    else do
      let (value, remaining) ← seed (depth + 1) remaining x
      match insertEntry key value values with
      | (some _, _) => .error "OpenBao KV subkey shape contains duplicate keys"
      | (none, values) => visitMap depth remaining values ms
termination_by structural _ _ _ ms => ms
end

/-- `deserialize_bounded_subkeys`. -/
def deserializeBoundedSubkeys (document : Json S N) : Except String JsonValue := do
  let (value, _) ← seed 0 maxKv2SubkeyNodes document
  return value

mutual
/-- The keys of a document, which is all that a shape has. -/
def shapeOf : Json S N → JsonValue
  | .object _ members => .object (sortByKey (shapesOf members))
  | .null _ => .null
  | .bool _ _ => .null
  | .number _ _ => .null
  | .string _ _ => .null
  | .array _ _ => .null
termination_by structural j => j

def shapesOf : List (Str × Json S N) → List (Str × JsonValue)
  | [] => []
  | (key, x) :: ms => (key, shapeOf x) :: shapesOf ms
termination_by structural ms => ms
end

/-- A value that holds no value of a secret by itself. -/
def Masked : Json S N → Prop
  | .null _ | .object _ _ => True
  | .bool _ _ | .number _ _ | .string _ _ | .array _ _ => False

/-- What is asked of each value by itself. -/
def Fits (p : ℕ × Json S N) : Prop :=
  p.1 ≤ maxKv2SubkeyDepth ∧ p.2.keys.Nodup ∧ Masked p.2

/-- The bounds on a document as a whole. -/
structure WithinLimits (document : Json S N) : Prop where
  nesting : ∀ p ∈ document.valuesAt 0, p.1 ≤ maxKv2SubkeyDepth
  nodes : (document.valuesAt 0).length ≤ maxKv2SubkeyNodes
  keys : ∀ p ∈ document.valuesAt 0, p.2.keys.Nodup
  masked : ∀ p ∈ document.valuesAt 0, Masked p.2

theorem enter_eq_ok_iff {depth remaining rest : ℕ} :
    enter depth remaining = .ok rest ↔ depth ≤ maxKv2SubkeyDepth ∧ rest + 1 = remaining := by
  rw [enter]
  split_ifs with hdepth hnodes
  · simp only [false_iff, not_and]
    omega
  · simp only [false_iff, not_and]
    omega
  · rw [Except.ok.injEq]
    omega

/-- The specification of the seed on one value. -/
def Decoded (x : Json S N) : Prop :=
  ∀ depth remaining value rest, seed depth remaining x = .ok (value, rest) ↔
    (∀ p ∈ x.valuesAt depth, Fits p) ∧ (x.valuesAt depth).length + rest = remaining ∧
      value = shapeOf x

theorem visitMap_cons_eq_ok_iff {depth remaining rest : ℕ} {values out : List (Str × JsonValue)}
    (hv : Ordered values) {m : Str × Json S N} {ms : List (Str × Json S N)} :
    visitMap depth remaining values (m :: ms) = .ok (out, rest) ↔
      remaining ≠ 0 ∧ ∃ value middle, seed (depth + 1) remaining m.2 = .ok (value, middle) ∧
        m.1 ∉ values.map Prod.fst ∧
        visitMap depth middle (insertEntry m.1 value values).2 ms = .ok (out, rest) := by
  rw [visitMap]
  split_ifs with hremaining
  · simp [hremaining]
  · rw [Limits.bind_eq_ok_iff]
    simp only [Prod.exists, hremaining, ne_eq, not_false_eq_true, true_and]
    refine exists_congr fun value => exists_congr fun middle => and_congr_right fun _ => ?_
    rw [← @insertEntry_fst_eq_none_iff _ _ _ m.1 value values hv]
    obtain ⟨old, entries⟩ := insertEntry m.1 value values
    cases old <;> simp

/-- The loop reads the members in turn, each behind the nodes that the ones before it took. -/
theorem visitMap_eq_ok_iff {members : List (Str × Json S N)} (h : ∀ m ∈ members, Decoded m.2)
    {depth remaining rest : ℕ} {values out : List (Str × JsonValue)} (hv : Ordered values) :
    visitMap depth remaining values members = .ok (out, rest) ↔
      ((∀ key ∈ members.map Prod.fst, key ∉ values.map Prod.fst) ∧ (members.map Prod.fst).Nodup) ∧
      (∀ p ∈ members.flatMap (fun m => m.2.valuesAt (depth + 1)), Fits p) ∧
      (members.flatMap fun m => m.2.valuesAt (depth + 1)).length + rest = remaining ∧
      out = insertAll values (shapesOf members) := by
  induction members generalizing remaining values with
  | nil =>
    simp [visitMap, shapesOf, insertAll]
    grind
  | cons m ms ih =>
    obtain ⟨hm, hms⟩ := List.forall_mem_cons.mp h
    have hkeys : ∀ value, (∀ key ∈ ms.map Prod.fst,
        key ∉ (insertEntry m.1 value values).2.map Prod.fst) ↔
        (∀ key ∈ ms.map Prod.fst, key ∉ values.map Prod.fst) ∧ m.1 ∉ ms.map Prod.fst := by
      intro value
      simp only [mem_keys_insertEntry]
      grind
    have hpos := Json.valuesAt_pos (depth + 1) m.2
    have hsplit : ∀ xs ys : List (ℕ × Json S N), 0 < xs.length →
        ((xs ++ ys).length + rest = remaining ↔
          remaining ≠ 0 ∧ ∃ middle, xs.length + middle = remaining ∧ ys.length + rest = middle) := by
      intro xs ys hxs
      rw [List.length_append]
      constructor
      · intro hlength
        exact ⟨by omega, ys.length + rest, by omega, rfl⟩
      · rintro ⟨-, middle, hmiddle, rfl⟩
        omega
    rw [visitMap_cons_eq_ok_iff hv, List.flatMap_cons, List.forall_mem_append, hsplit _ _ hpos,
      List.map_cons, List.forall_mem_cons, List.nodup_cons]
    simp only [hm (depth + 1), ih hms (insertEntry_ordered hv), hkeys, shapesOf, insertAll,
      List.foldl_cons]
    grind

theorem keys_shapesOf (members : List (Str × Json S N)) :
    (shapesOf members).map Prod.fst = members.map Prod.fst := by
  induction members with
  | nil => rfl
  | cons m ms ih => rw [shapesOf, List.map_cons, ih, List.map_cons]

/-- No leaf but null is a shape. -/
theorem decoded_refused {x : Json S N}
    (hseed : ∀ depth remaining, seed depth remaining x =
      (enter depth remaining >>= fun _ => .error invalidSubkeyLeaf)) (hmasked : ¬ Masked x) :
    Decoded x := by
  intro depth remaining value rest
  rw [hseed, Limits.bind_eq_ok_iff]
  constructor
  · rintro ⟨_, -, h⟩
    cases h
  · rintro ⟨hfits, -⟩
    exact absurd (hfits _ (Json.self_mem_valuesAt depth x)).2.2 hmasked

theorem seed_eq_ok_iff (document : Json S N) : Decoded document := by
  induction document using Json.induct with
  | null s =>
    intro depth remaining value rest
    have hfits : Fits (depth, (Json.null s : Json S N)) ↔ depth ≤ maxKv2SubkeyDepth := by
      simp [Fits, Masked, Json.keys]
    rw [seed, Limits.bind_eq_ok_iff, Json.valuesAt, List.forall_mem_singleton, hfits]
    simp only [enter_eq_ok_iff, pure, Except.pure, Except.ok.injEq, Prod.mk.injEq, shapeOf,
      List.length_singleton]
    grind
  | bool s b => exact decoded_refused (fun _ _ => by rw [seed]) id
  | number s n => exact decoded_refused (fun _ _ => by rw [seed]) id
  | string s t => exact decoded_refused (fun _ _ => by rw [seed]) id
  | array s items ih => exact decoded_refused (fun _ _ => by rw [seed]) id
  | object s members ih =>
    intro depth remaining value rest
    have hfits : Fits (depth, Json.object s members) ↔
        depth ≤ maxKv2SubkeyDepth ∧ (members.map Prod.fst).Nodup := by
      simp [Fits, Masked, Json.keys]
    have hsorted : (members.map Prod.fst).Nodup →
        insertAll [] (shapesOf members) = sortByKey (shapesOf members) := by
      rw [← keys_shapesOf]
      exact insertAll_eq_sortByKey
    rw [seed, Limits.bind_eq_ok_iff, Json.valuesAt_object, List.forall_mem_cons, hfits, shapeOf,
      List.length_cons]
    simp only [Limits.bind_eq_ok_iff, Prod.exists, enter_eq_ok_iff, pure, Except.pure,
      Except.ok.injEq, Prod.mk.injEq, visitMap_eq_ok_iff ih ordered_nil, List.map_nil,
      List.not_mem_nil, not_false_eq_true, implies_true, true_and]
    constructor
    · rintro ⟨entered, ⟨hdepth, hentered⟩, out, left, ⟨hn, hp, hlength, rfl⟩, rfl, rfl⟩
      refine ⟨⟨⟨hdepth, hn⟩, hp⟩, by omega, ?_⟩
      rw [hsorted hn]
    · rintro ⟨⟨⟨hdepth, hn⟩, hp⟩, hlength, rfl⟩
      refine ⟨remaining - 1, ⟨hdepth, by omega⟩, _, rest, ⟨hn, hp, by omega, rfl⟩, ?_, rfl⟩
      rw [hsorted hn]

theorem deserializeBoundedSubkeys_eq_ok_iff {document : Json S N} {shape : JsonValue} :
    deserializeBoundedSubkeys document = .ok shape ↔
      WithinLimits document ∧ shape = shapeOf document := by
  simp only [deserializeBoundedSubkeys, Limits.bind_eq_ok_iff, Prod.exists, pure, Except.pure,
    Except.ok.injEq, seed_eq_ok_iff document 0]
  constructor
  · rintro ⟨value, rest, ⟨hfits, hnodes, hvalue⟩, rfl⟩
    exact ⟨⟨fun p hp => (hfits p hp).1, by omega, fun p hp => (hfits p hp).2.1,
      fun p hp => (hfits p hp).2.2⟩, hvalue⟩
  · rintro ⟨h, rfl⟩
    exact ⟨_, maxKv2SubkeyNodes - (document.valuesAt 0).length,
      ⟨fun p hp => ⟨h.nesting p hp, h.keys p hp, h.masked p hp⟩, Nat.add_sub_of_le h.nodes, rfl⟩,
      rfl⟩

/-! ### Paths -/

/-- The names that lead from a document to a value in it, through objects. -/
inductive HasPath : Json S N → List Str → Prop where
  | here {x} : HasPath x []
  | inside {s members key x path} (hmem : (key, x) ∈ members) (h : HasPath x path) :
      HasPath (.object s members) (key :: path)

/-- The names that lead from a decoded value to one in it. -/
inductive NamesPath : JsonValue → List Str → Prop where
  | here {value} : NamesPath value []
  | inside {members key value path} (hmem : (key, value) ∈ members) (h : NamesPath value path) :
      NamesPath (.object members) (key :: path)

theorem mem_shapesOf {members : List (Str × Json S N)} {key : Str} {value : JsonValue} :
    (key, value) ∈ shapesOf members ↔ ∃ x, (key, x) ∈ members ∧ value = shapeOf x := by
  induction members with
  | nil => simp [shapesOf]
  | cons m ms ih =>
    obtain ⟨name, x⟩ := m
    rw [shapesOf, List.mem_cons, ih]
    constructor
    · rintro (hhead | ⟨y, hy, rfl⟩)
      · obtain ⟨rfl, rfl⟩ := Prod.mk.inj hhead
        exact ⟨x, .head _, rfl⟩
      · exact ⟨y, .tail _ hy, rfl⟩
    · rintro ⟨y, hy, rfl⟩
      rcases List.mem_cons.mp hy with hhead | hrest
      · obtain ⟨rfl, rfl⟩ := Prod.mk.inj hhead
        exact .inl rfl
      · exact .inr ⟨y, hrest, rfl⟩

theorem mem_sortedShapes {members : List (Str × Json S N)} {key : Str} {value : JsonValue} :
    (key, value) ∈ sortByKey (shapesOf members) ↔ ∃ x, (key, x) ∈ members ∧ value = shapeOf x := by
  rw [sortByKey, (List.perm_insertionSort _ _).mem_iff, mem_shapesOf]

/-- A shape has the paths of its document. -/
theorem namesPath_shapeOf_iff {document : Json S N} {path : List Str} :
    NamesPath (shapeOf document) path ↔ HasPath document path := by
  induction path generalizing document with
  | nil => exact ⟨fun _ => .here, fun _ => .here⟩
  | cons key path ih =>
    cases document with
    | null | bool | number | string | array =>
      constructor
      · intro h
        rw [shapeOf] at h
        cases h
      · intro h
        cases h
    | object s members =>
      rw [shapeOf]
      constructor
      · intro h
        cases h with
        | inside hmem h =>
          obtain ⟨x, hx, rfl⟩ := mem_sortedShapes.mp hmem
          exact .inside hx (ih.mp h)
      · intro h
        cases h with
        | inside hmem h => exact .inside (mem_sortedShapes.mpr ⟨_, hmem, rfl⟩) (ih.mpr h)

/-- The leaves of a decoded value that are not objects. -/
inductive Leaf : JsonValue → JsonValue → Prop where
  | self {value} (h : ∀ members, value ≠ .object members) : Leaf value value
  | inside {members key value leaf} (hmem : (key, value) ∈ members) (h : Leaf value leaf) :
      Leaf (.object members) leaf

theorem leaf_of_shapeOf {document : Json S N} {leaf : JsonValue} (h : Leaf (shapeOf document) leaf) :
    leaf = .null := by
  induction document using Json.induct with
  | null | bool | number | string | array =>
    rw [shapeOf] at h
    cases h with
    | self => rfl
  | object s members ih =>
    rw [shapeOf] at h
    cases h with
    | self hobject => exact absurd rfl (hobject _)
    | inside hmem h =>
      obtain ⟨x, hx, rfl⟩ := mem_sortedShapes.mp hmem
      exact ih _ hx h

/-- A response is taken for a shape exactly if it is one, within the limits on its depth and on
its nodes. What is given out has the paths of the response and nothing at their ends. -/
theorem subkeys_law (document : Json S N) :
    (∀ shape, deserializeBoundedSubkeys document = .ok shape ↔
      WithinLimits document ∧ shape = shapeOf document) ∧
    (∀ shape path, deserializeBoundedSubkeys document = .ok shape →
      (NamesPath shape path ↔ HasPath document path)) ∧
    ∀ shape leaf, deserializeBoundedSubkeys document = .ok shape → Leaf shape leaf → leaf = .null := by
  refine ⟨fun shape => deserializeBoundedSubkeys_eq_ok_iff, fun shape path h => ?_,
    fun shape leaf h hleaf => ?_⟩
  · obtain ⟨-, rfl⟩ := deserializeBoundedSubkeys_eq_ok_iff.mp h
    exact namesPath_shapeOf_iff
  · obtain ⟨-, rfl⟩ := deserializeBoundedSubkeys_eq_ok_iff.mp h
    exact leaf_of_shapeOf hleaf

example : deserializeBoundedSubkeys (.object () [(['b'], .null ()), (['a'], .object () [])] :
    Json Unit ℕ) = .ok (.object [(['a'], .object []), (['b'], .null)]) := by
  rfl

end

end OpenBao.SubkeyShapes
