import OpenBao.MemoTables
import OpenBao.RouteTemplates

/-!
# The memoised segment matcher

`route_segments_match` as the source runs it: indices into both lists and a table of the
answers found so far. Its meaning is a cut of the path into one block for each segment of
the template.
-/

namespace OpenBao.RouteSegments
open Utf8Text MemoTables RouteTemplates

abbrev Memo := Table Bool

variable {template actual : List Str} {memo : Memo} {i j : ℕ}

/-- The assignment to the cell at the end of `route_segments_match_at`. -/
def store (templateIndex actualIndex : ℕ) (found : Option (Bool × Memo)) :
    Option (Bool × Memo) := do
  let (result, memo) ← found
  let memo ← memo.write templateIndex actualIndex result
  return (result, memo)

/-- `route_segments_match_at`. No result is a panic of an index out of range. -/
def routeSegmentsMatchAt (template actual : List Str) (templateIndex actualIndex : ℕ)
    (memo : Memo) : Option (Bool × Memo) :=
  match memo.read templateIndex actualIndex with
  | none => none
  | some (some result) => some (result, memo)
  | some none =>
    store templateIndex actualIndex <|
      if templateIndex = template.length then some (actualIndex == actual.length, memo)
      else match _hexpected : template[templateIndex]? with
        | none => none
        | some expected =>
          if routePlaceholderIsMultiSegment expected then
            anyWith (routeSegmentsMatchAt template actual (templateIndex + 1))
              (List.range' (actualIndex + 1) (actual.length - actualIndex)) memo
          else if isPlaceholder expected then
            if actualIndex < actual.length then
              routeSegmentsMatchAt template actual (templateIndex + 1) (actualIndex + 1) memo
            else some (false, memo)
          else if actualIndex = actual.length then some (false, memo)
          else match actual[actualIndex]? with
            | none => none
            | some actualSegment =>
              if literalMatches expected actualSegment then
                routeSegmentsMatchAt template actual (templateIndex + 1) (actualIndex + 1) memo
              else some (false, memo)
termination_by template.length - templateIndex
decreasing_by all_goals have := (List.getElem?_eq_some_iff.mp _hexpected).1; omega

/-- `route_segments_match` with its table. -/
def routeSegmentsMatchMemo (template actual : List Str) : Option Bool :=
  (routeSegmentsMatchAt template actual 0 0
    (.empty (template.length + 1) (actual.length + 1))).map Prod.fst

/-- The blocks of path segments that a template segment takes. -/
inductive Takes : Str → List Str → Prop where
  | many {expected : Str} {block : List Str}
      (hexpected : expected = ":path".toList ∨ expected = ":prefix".toList) (hblock : block ≠ []) :
      Takes expected block
  | named {name : Str} (segment : Str) (hpath : ':' :: name ≠ ":path".toList)
      (hmany : ':' :: name ≠ ":prefix".toList) : Takes (':' :: name) [segment]
  | angled (name segment : Str) : Takes ('<' :: name ++ ['>']) [segment]
  | alternative {alternatives segment : Str} (hmem : segment ∈ alternatives.splitOn '|')
      (hsegment : segment ≠ []) : Takes ('(' :: alternatives ++ [')']) [segment]
  | literal {expected : Str} (hnamed : ∀ name, expected ≠ ':' :: name)
      (hangled : ∀ name, expected ≠ '<' :: name ++ ['>'])
      (hchoice : ∀ alternatives, expected ≠ '(' :: alternatives ++ [')']) :
      Takes expected [expected]

/-- The path can be cut into one block for each template segment, in order. -/
def Matches (template actual : List Str) : Prop :=
  ∃ blocks : List (List Str), blocks.flatten = actual ∧ List.Forall₂ Takes template blocks

/-- A table that some calls have filled, one after the other. -/
inductive Searched (template actual : List Str) : Memo → Prop where
  | start : Searched template actual (.empty (template.length + 1) (actual.length + 1))
  | call {memo memo' : Memo} {i j : ℕ} {result : Bool} (h : Searched template actual memo)
      (hi : i ≤ template.length) (hj : j ≤ actual.length)
      (hcall : routeSegmentsMatchAt template actual i j memo = some (result, memo')) :
      Searched template actual memo'

/-! ### The table agrees with the matcher without a table -/

/-- The answer of the matcher from two indices on. -/
def answerAt (template actual : List Str) (i j : ℕ) : Bool :=
  routeSegmentsMatch (template.drop i) (actual.drop j)

abbrev AgreesWith (template actual : List Str) : Memo → Prop :=
  Table.Agrees (answerAt template actual) (template.length + 1) (actual.length + 1)

theorem drop_eq_cons {α : Type} {l : List α} {a : α} (h : l[i]? = some a) :
    l.drop i = a :: l.drop (i + 1) := by
  obtain ⟨hi, rfl⟩ := List.getElem?_eq_some_iff.mp h
  exact List.drop_eq_getElem_cons hi

theorem answerAt_length : answerAt template actual template.length j = true ↔
    actual.length ≤ j := by
  simp [answerAt, routeSegmentsMatch]

theorem answerAt_many {expected : Str} (h : template[i]? = some expected)
    (hmany : routePlaceholderIsMultiSegment expected = true) :
    answerAt template actual i j =
      (List.range' (j + 1) (actual.length - j)).any (answerAt template actual (i + 1)) := by
  rw [answerAt, drop_eq_cons h]
  simp only [routeSegmentsMatch, hmany, if_true]
  rw [List.length_drop, List.range'_eq_map_range, List.any_map]
  congr 1
  funext n
  rw [Function.comp_apply, answerAt, List.drop_drop, Nat.add_assoc, Nat.add_comm 1]

/-- One segment, if there is one. -/
theorem answerAt_one {expected : Str} (h : template[i]? = some expected)
    (hone : routePlaceholderIsMultiSegment expected = false) :
    answerAt template actual i j =
      match actual[j]? with
      | none => false
      | some segment => (isPlaceholder expected || literalMatches expected segment) &&
          answerAt template actual (i + 1) (j + 1) := by
  rw [answerAt, drop_eq_cons h]
  simp only [routeSegmentsMatch, hone, Bool.false_eq_true, if_false]
  cases hsegment : actual[j]? with
  | none =>
    rw [List.drop_eq_nil_of_le (List.getElem?_eq_none_iff.mp hsegment)]
    simp
  | some segment =>
    rw [drop_eq_cons hsegment]
    cases isPlaceholder expected <;> simp [answerAt]

/-- A computed answer is stored, and the table still agrees. -/
theorem store_eq {found : Option (Bool × Memo)} (hi : i ≤ template.length)
    (hj : j ≤ actual.length)
    (hfound : ∃ memo, found = some (answerAt template actual i j, memo) ∧
      AgreesWith template actual memo) :
    ∃ memo', store i j found = some (answerAt template actual i j, memo') ∧
      AgreesWith template actual memo' := by
  obtain ⟨memo, rfl, hmemo⟩ := hfound
  obtain ⟨memo', hwrite, hmemo'⟩ :=
    hmemo.write (Nat.lt_succ_of_le hi) (Nat.lt_succ_of_le hj)
  exact ⟨memo', by simp [store, hwrite], hmemo'⟩

/-- A call from indices in range answers as the matcher without a table does. -/
theorem routeSegmentsMatchAt_eq (hi : i ≤ template.length) (hj : j ≤ actual.length)
    (hmemo : AgreesWith template actual memo) :
    ∃ memo', routeSegmentsMatchAt template actual i j memo =
      some (answerAt template actual i j, memo') ∧ AgreesWith template actual memo' := by
  induction hd : template.length - i generalizing i j memo with
  | zero =>
    obtain rfl : i = template.length := by omega
    rw [routeSegmentsMatchAt]
    obtain hread | hread := hmemo.read_eq (Nat.lt_succ_of_le hi) (Nat.lt_succ_of_le hj)
    · rw [hread]
      refine store_eq hi hj ⟨memo, ?_, hmemo⟩
      rw [if_pos rfl]
      congr 2
      rw [Bool.eq_iff_iff, answerAt_length, beq_iff_eq]
      omega
    · rw [hread]
      exact ⟨memo, rfl, hmemo⟩
  | succ d ih =>
    rw [routeSegmentsMatchAt]
    obtain hread | hread := hmemo.read_eq (Nat.lt_succ_of_le hi) (Nat.lt_succ_of_le hj)
    · rw [hread]
      refine store_eq hi hj ?_
      have hnext : ∀ k ≤ actual.length, ∀ memo, AgreesWith template actual memo →
          ∃ memo', routeSegmentsMatchAt template actual (i + 1) k memo =
            some (answerAt template actual (i + 1) k, memo') ∧ AgreesWith template actual memo' :=
        fun k hk memo hmemo => ih (by omega) hk hmemo (by omega)
      rw [if_neg (by omega)]
      have hsome : template[i]? = some template[i] := List.getElem?_eq_getElem (by omega)
      split
      · next h => rw [hsome] at h; cases h
      · next expected hexpected =>
        split
        · next hmany =>
          rw [answerAt_many hexpected hmany]
          refine anyWith_eq hmemo fun k hk memo hmemo => hnext k ?_ memo hmemo
          obtain ⟨hlow, hhigh⟩ := List.mem_range'_1.mp hk
          omega
        · next hone =>
          rw [answerAt_one hexpected (Bool.eq_false_iff.mpr hone)]
          split
          · next hplaceholder =>
            split
            · next hlt =>
              rw [List.getElem?_eq_getElem hlt, hplaceholder]
              simpa using hnext (j + 1) hlt memo hmemo
            · next hge =>
              rw [List.getElem?_eq_none_iff.mpr (by omega)]
              exact ⟨memo, rfl, hmemo⟩
          · next hliteral =>
            rw [Bool.eq_false_iff.mpr hliteral]
            split
            · next hend =>
              rw [List.getElem?_eq_none_iff.mpr hend.ge]
              exact ⟨memo, rfl, hmemo⟩
            · next hlt =>
              rw [List.getElem?_eq_getElem (show j < actual.length by omega)]
              dsimp only
              split
              · next hmatch =>
                rw [hmatch]
                simpa using hnext (j + 1) (by omega) memo hmemo
              · next hmatch =>
                rw [Bool.eq_false_iff.mpr hmatch]
                exact ⟨memo, rfl, hmemo⟩
    · rw [hread]
      exact ⟨memo, rfl, hmemo⟩

/-- The table does not change the answer. -/
theorem routeSegmentsMatchMemo_eq (template actual : List Str) :
    routeSegmentsMatchMemo template actual = some (routeSegmentsMatch template actual) := by
  have hempty : AgreesWith template actual
      (.empty (template.length + 1) (actual.length + 1)) := Table.agrees_empty
  obtain ⟨memo', heq, -⟩ := routeSegmentsMatchAt_eq (Nat.zero_le _) (Nat.zero_le _) hempty
  rw [routeSegmentsMatchMemo, heq]
  rfl

/-! ### The meaning of the matcher -/

/-- Text between two different characters. -/
theorem bracketed_iff {a b : Char} (hab : a ≠ b) {s : Str} :
    s.head? = some a ∧ s.getLast? = some b ↔ ∃ inner, s = a :: inner ++ [b] := by
  constructor
  · rintro ⟨hhead, hlast⟩
    obtain ⟨rest, rfl⟩ := List.head?_eq_some_iff.mp hhead
    obtain ⟨front, hfront⟩ := List.getLast?_eq_some_iff.mp hlast
    cases front with
    | nil => exact absurd (List.cons.inj hfront).1 hab
    | cons c inner =>
      obtain ⟨rfl, rfl⟩ := List.cons.inj hfront
      exact ⟨inner, rfl⟩
  · rintro ⟨inner, rfl⟩
    exact ⟨rfl, List.getLast?_concat⟩

theorem isPlaceholder_iff {s : Str} : isPlaceholder s = true ↔
    (∃ name, s = ':' :: name) ∨ ∃ name, s = '<' :: name ++ ['>'] := by
  rw [isPlaceholder, Bool.or_eq_true, Bool.and_eq_true, beq_iff_eq, beq_iff_eq, beq_iff_eq,
    bracketed_iff (by decide), List.head?_eq_some_iff]

theorem routePlaceholderIsMultiSegment_iff {s : Str} :
    routePlaceholderIsMultiSegment s = true ↔ s = ":path".toList ∨ s = ":prefix".toList := by
  rw [routePlaceholderIsMultiSegment, Bool.or_eq_true, beq_iff_eq, beq_iff_eq]

theorem literalMatches_choice {alternatives segment : Str} :
    literalMatches ('(' :: alternatives ++ [')']) segment = true ↔
      segment ∈ alternatives.splitOn '|' ∧ segment ≠ [] := by
  have hends := (bracketed_iff (a := '(') (b := ')') (by decide)).mpr ⟨alternatives, rfl⟩
  rw [literalMatches, if_pos (by rw [hends.1, hends.2]; rfl)]
  simp

theorem takes_many {expected : Str} {block : List Str}
    (hmany : routePlaceholderIsMultiSegment expected = true) :
    Takes expected block ↔ block ≠ [] := by
  constructor
  · rintro (⟨-, hblock⟩ | _ | _ | _ | _)
    · exact hblock
    all_goals simp
  · exact .many (routePlaceholderIsMultiSegment_iff.mp hmany)

theorem takes_one {expected : Str} {block : List Str}
    (hone : routePlaceholderIsMultiSegment expected = false) :
    Takes expected block ↔ ∃ segment, block = [segment] ∧
      (isPlaceholder expected = true ∨ literalMatches expected segment = true) := by
  constructor
  · rintro (⟨hmany, -⟩ | ⟨segment, -, -⟩ | ⟨name, segment⟩ | ⟨hmem, hsegment⟩ |
      ⟨-, -, hchoice⟩)
    · rw [routePlaceholderIsMultiSegment_iff.mpr hmany] at hone
      cases hone
    · exact ⟨segment, rfl, .inl (isPlaceholder_iff.mpr (.inl ⟨_, rfl⟩))⟩
    · exact ⟨segment, rfl, .inl (isPlaceholder_iff.mpr (.inr ⟨name, rfl⟩))⟩
    · exact ⟨_, rfl, .inr (literalMatches_choice.mpr ⟨hmem, hsegment⟩)⟩
    · refine ⟨_, rfl, .inr ?_⟩
      rw [literalMatches, if_neg, beq_self_eq_true]
      rw [Bool.and_eq_true, beq_iff_eq, beq_iff_eq, bracketed_iff (by decide)]
      rintro ⟨inner, h⟩
      exact hchoice inner h
  · rintro ⟨segment, rfl, h⟩
    by_cases hplaceholder : isPlaceholder expected = true
    · obtain ⟨name, rfl⟩ | ⟨name, rfl⟩ := isPlaceholder_iff.mp hplaceholder
      · refine .named segment ?_ ?_ <;> intro h
        · simp [routePlaceholderIsMultiSegment, h] at hone
        · simp [routePlaceholderIsMultiSegment, h] at hone
      · exact .angled name segment
    · have hliteral := h.resolve_left hplaceholder
      rw [isPlaceholder_iff, not_or, not_exists, not_exists] at hplaceholder
      by_cases hchoice : ∃ alternatives, expected = '(' :: alternatives ++ [')']
      · obtain ⟨alternatives, rfl⟩ := hchoice
        obtain ⟨hmem, hsegment⟩ := literalMatches_choice.mp hliteral
        exact .alternative hmem hsegment
      · rw [literalMatches, if_neg, beq_iff_eq] at hliteral
        · rw [← hliteral]
          exact .literal hplaceholder.1 hplaceholder.2 (not_exists.mp hchoice)
        · rwa [Bool.and_eq_true, beq_iff_eq, beq_iff_eq, bracketed_iff (by decide)]

theorem matches_nil : Matches [] actual ↔ actual = [] := by
  constructor
  · rintro ⟨blocks, rfl, h⟩
    cases h
    rfl
  · rintro rfl
    exact ⟨[], rfl, .nil⟩

theorem matches_cons {expected : Str} : Matches (expected :: template) actual ↔
    ∃ block rest, actual = block ++ rest ∧ Takes expected block ∧ Matches template rest := by
  constructor
  · rintro ⟨_, rfl, h⟩
    cases h with
    | cons htakes hrest => exact ⟨_, _, rfl, htakes, _, rfl, hrest⟩
  · rintro ⟨block, _, rfl, htakes, blocks, rfl, hrest⟩
    exact ⟨block :: blocks, rfl, .cons htakes hrest⟩

theorem routeSegmentsMatch_iff : routeSegmentsMatch template actual = true ↔
    Matches template actual := by
  induction template generalizing actual with
  | nil => simp [routeSegmentsMatch, matches_nil]
  | cons expected template ih =>
    rw [matches_cons]
    cases hmany : routePlaceholderIsMultiSegment expected with
    | true =>
      simp only [routeSegmentsMatch, hmany, if_true, List.any_eq_true, List.mem_range, ih,
        takes_many hmany]
      constructor
      · rintro ⟨n, hn, h⟩
        refine ⟨actual.take (n + 1), _, (List.take_append_drop _ _).symm, ?_, h⟩
        rw [← List.length_pos_iff, List.length_take]
        omega
      · rintro ⟨block, rest, rfl, hblock, h⟩
        have hpos := List.length_pos_iff.mpr hblock
        refine ⟨block.length - 1, by rw [List.length_append]; omega, ?_⟩
        rwa [Nat.sub_add_cancel hpos, List.drop_left]
    | false =>
      simp only [takes_one hmany]
      cases actual with
      | nil =>
        have hfalse : routeSegmentsMatch (expected :: template) [] = false := by
          simp [routeSegmentsMatch, hmany]
        simp [hfalse]
      | cons segment rest =>
        have hcons : routeSegmentsMatch (expected :: template) (segment :: rest) =
            ((isPlaceholder expected || literalMatches expected segment) &&
              routeSegmentsMatch template rest) := by
          simp only [routeSegmentsMatch, hmany, Bool.false_eq_true, if_false]
          cases isPlaceholder expected <;> simp
        rw [hcons, Bool.and_eq_true, Bool.or_eq_true, ih]
        constructor
        · rintro ⟨htakes, h⟩
          exact ⟨[segment], rest, rfl, ⟨segment, rfl, htakes⟩, h⟩
        · rintro ⟨_, _, heq, ⟨_, rfl, htakes⟩, h⟩
          obtain ⟨rfl, rfl⟩ := List.cons.inj heq
          exact ⟨htakes, h⟩

theorem Searched.agrees (h : Searched template actual memo) : AgreesWith template actual memo := by
  induction h with
  | start => exact Table.agrees_empty
  | call _ hi hj hcall ih =>
    obtain ⟨memo', heq, hmemo'⟩ := routeSegmentsMatchAt_eq hi hj ih
    rw [hcall] at heq
    cases heq
    exact hmemo'

/-- The matcher with its table never leaves a list and answers by the blocks. Whatever calls
have filled the table, a stored answer is that of the lists from the two indices on. -/
theorem routeSegmentsMatchMemo_spec (template actual : List Str) :
    (∃ result, routeSegmentsMatchMemo template actual = some result ∧
      (result = true ↔ Matches template actual)) ∧
    (∀ memo, Searched template actual memo → ∀ i ≤ template.length, ∀ j ≤ actual.length,
      ∃ result memo', routeSegmentsMatchAt template actual i j memo = some (result, memo') ∧
        (result = true ↔ Matches (template.drop i) (actual.drop j))) ∧
    ∀ memo, Searched template actual memo → ∀ i j result,
      memo.read i j = some (some result) →
        (result = true ↔ Matches (template.drop i) (actual.drop j)) := by
  refine ⟨?_, fun memo hmemo i hi j hj => ?_, fun memo hmemo i j result hread => ?_⟩
  · exact ⟨_, routeSegmentsMatchMemo_eq template actual, routeSegmentsMatch_iff⟩
  · obtain ⟨memo', heq, -⟩ := routeSegmentsMatchAt_eq hi hj hmemo.agrees
    exact ⟨_, memo', heq, routeSegmentsMatch_iff⟩
  · rw [hmemo.agrees.answer i j result hread]
    exact routeSegmentsMatch_iff

theorem configTemplate_matches :
    routeSegmentsMatchMemo [":path".toList, "config".toList]
      ["team".toList, "ldap".toList, "config".toList] = some true := by
  obtain ⟨⟨result, heq, hiff⟩, -⟩ := routeSegmentsMatchMemo_spec
    [":path".toList, "config".toList] ["team".toList, "ldap".toList, "config".toList]
  have hconfig : Takes "config".toList ["config".toList] := by
    refine .literal ?_ ?_ ?_ <;> simp
  rw [heq, hiff.mpr ⟨[["team".toList, "ldap".toList], ["config".toList]], rfl,
    .cons (.many (.inl rfl) (by simp)) (.cons hconfig .nil)⟩]

end OpenBao.RouteSegments
