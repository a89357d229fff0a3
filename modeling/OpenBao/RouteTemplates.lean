import Mathlib.Data.List.Infix
import OpenBao.ClientErrors
import OpenBao.DelimitedLists
import OpenBao.Utf8Text

/-!
# Route templates

Matching of documented route templates against the segments of a request path, with
the optional groups, placeholders and query parts that the templates use.
-/

namespace OpenBao.RouteTemplates
open DelimitedLists Utf8Text

def maxOptionalRouteExpansions : ℕ := 8

/-- The text before the first `(/` and the text behind its parenthesis. -/
def findOptional : Str → Option (Str × Str)
  | '(' :: '/' :: rest => some ([], '/' :: rest)
  | [] => none
  | c :: rest => (findOptional rest).map fun p => (c :: p.1, p.2)

/-- What one round makes of one expansion: without and with its first optional group. -/
def expandFirst (expansion : Str) : Except Error (Option (List Str)) :=
  match findOptional expansion with
  | none => .ok none
  | some (before, tail) =>
    match splitOnce ')' tail with
    | none => .error (.internal "OpenBao optional route template is invalid")
    | some (optional, after) => .ok (some [before ++ after, before ++ optional ++ after])

/-- One pass over the expansions: the next list, and whether anything changed. -/
def expandRound : List Str → Except Error (List Str × Bool)
  | [] => .ok ([], false)
  | expansion :: expansions => do
    let first ← expandFirst expansion
    let (next, changed) ← expandRound expansions
    match first with
    | none => return (expansion :: next, changed)
    | some both => return (both ++ next, true)

/-- The rounds of the expansion loop, at most `fuel` of them. -/
def expandRounds : ℕ → List Str → Except Error (List Str)
  | 0, _ => .error (.internal "OpenBao optional route expansion limit exceeded")
  | fuel + 1, expansions => do
    let (next, changed) ← expandRound expansions
    if maxOptionalRouteExpansions < next.length then
      .error (.internal "OpenBao optional route expansion limit exceeded")
    else if !changed then return next
    else expandRounds fuel next

def expandOptionalRouteTemplates (template : Str) : Except Error (List Str) :=
  expandRounds (maxOptionalRouteExpansions + 1) [template]

def routePlaceholderIsMultiSegment (segment : Str) : Bool :=
  segment == ":path".toList || segment == ":prefix".toList

def isPlaceholder (segment : Str) : Bool :=
  segment.head? == some ':' || segment.head? == some '<' && segment.getLast? == some '>'

/-- A literal segment, or one of the alternatives in parentheses. -/
def literalMatches (expected actual : Str) : Bool :=
  if expected.head? == some '(' && expected.getLast? == some ')' then
    (expected.tail.dropLast.splitOn '|').any fun alternative =>
      alternative ≠ [] && alternative == actual
  else expected == actual

/-- `route_segments_match_at` from the current indices on. The memo table of the source
stores its results. -/
def routeSegmentsMatch : List Str → List Str → Bool
  | [], actual => actual.isEmpty
  | expected :: template, actual =>
    if routePlaceholderIsMultiSegment expected then
      (List.range actual.length).any fun n => routeSegmentsMatch template (actual.drop (n + 1))
    else if isPlaceholder expected then
      match actual with
      | [] => false
      | _ :: rest => routeSegmentsMatch template rest
    else
      match actual with
      | [] => false
      | segment :: rest => literalMatches expected segment && routeSegmentsMatch template rest

/-- The segments of a template path. -/
def templateSegments (template : Str) : List Str :=
  ((template.dropWhile (· == '/')).splitOn '/').filter (· ≠ [])

def routePathMatches (template : Str) (pathSegments : List Str) : Bool :=
  template.head? == some '/' && routeSegmentsMatch (templateSegments template) pathSegments

/-- The path of a template and its query part. -/
def cutQuery (template : Str) : Except Error (Str × Option Str) :=
  match splitOnce '?' template with
  | some (path, query) =>
    if '?' ∈ query then .error (.internal "OpenBao route template query is invalid")
    else .ok (path, some query)
  | none => .ok (template, none)

/-- The loop over the parts of a query template. -/
def queryPartsMatch (query : List (Str × Str)) : List Str → Except Error Bool
  | [] => .ok true
  | expected :: rest =>
    match splitOnce '=' expected with
    | none => .error (.internal "OpenBao route template query is invalid")
    | some (key, value) =>
      if key = [] ∨ value = [] then
        .error (.internal "OpenBao route template query is invalid")
      else
        match (query.filter (·.1 == key)).map (·.2) with
        | [] => if value.head? == some ':' then queryPartsMatch query rest else .ok false
        | given :: more =>
          if more ≠ [] || value.head? == some ':' && given == []
              || !(value.head? == some ':') && given ≠ value then
            .ok false
          else queryPartsMatch query rest

def routeTemplateMatches (template : Str) (pathSegments : List Str) (query : List (Str × Str)) :
    Except Error Bool := do
  let (pathTemplate, queryTemplate) ← cutQuery template
  let expansions ← expandOptionalRouteTemplates pathTemplate
  if !expansions.any (routePathMatches · pathSegments) then return false
  match queryTemplate with
  | none => return true
  | some queryTemplate => queryPartsMatch query (queryTemplate.splitOn '&')

def routeTemplateSpecificity (template : Str) : ℕ :=
  let (path, query) := match splitOnce '?' template with
    | some (path, query) => (path, some query)
    | none => (template, none)
  let segments := (path.splitOn '/').filter (· ≠ [])
  let staticSegments := segments.filter fun segment =>
    !(segment.head? == some ':') && !"(/:".toList.isPrefixOf segment
  (match query with
    | none => 0
    | some query => (query.splitOn '&').length * 10000) + staticSegments.length * 100 + segments.length

/-! A changed round lengthens the list, so the limit ends the loop within its fuel. -/

theorem expandRound_length {expansions next : List Str} {changed : Bool}
    (h : expandRound expansions = .ok (next, changed)) :
    expansions.length + (if changed then 1 else 0) ≤ next.length := by
  induction expansions generalizing next changed with
  | nil =>
    cases h
    simp
  | cons expansion expansions ih =>
    obtain ⟨first, hfirst, h⟩ := bind_eq_ok_iff.mp h
    obtain ⟨⟨next', changed'⟩, hnext, h⟩ := bind_eq_ok_iff.mp h
    have hih := ih hnext
    cases first with
    | none =>
      cases h
      simp only [List.length_cons]
      omega
    | some both =>
      have hboth : both.length = 2 := by
        revert hfirst
        unfold expandFirst
        split
        · simp
        · split
          · simp
          · intro hb
            cases hb
            rfl
      cases h
      simp only [List.length_cons, List.length_append, if_true]
      split at hih <;> omega

/-- More fuel changes nothing. -/
theorem expandRounds_succ {fuel : ℕ} {expansions : List Str} (hpos : 0 < fuel)
    (h : maxOptionalRouteExpansions < fuel + expansions.length) :
    expandRounds (fuel + 1) expansions = expandRounds fuel expansions := by
  induction fuel generalizing expansions with
  | zero => omega
  | succ fuel ih =>
    rw [expandRounds, expandRounds]
    cases hr : expandRound expansions with
    | error e => rfl
    | ok r =>
      obtain ⟨next, changed⟩ := r
      have hlen := expandRound_length hr
      change (if _ then _ else _) = (if _ then _ else _)
      by_cases hmax : maxOptionalRouteExpansions < next.length
      · rw [if_pos hmax, if_pos hmax]
      · rw [if_neg hmax, if_neg hmax]
        cases changed with
        | false => rfl
        | true =>
          simp only [if_true] at hlen
          exact ih (by omega) (by omega)

/-- The loop of the source: a round, and then the rest unless nothing changed. -/
theorem expandRounds_unfold {expansions : List Str} (h : expansions ≠ []) :
    expandRounds (maxOptionalRouteExpansions + 1) expansions = (do
      let (next, changed) ← expandRound expansions
      if maxOptionalRouteExpansions < next.length then
        .error (.internal "OpenBao optional route expansion limit exceeded")
      else if !changed then return next
      else expandRounds (maxOptionalRouteExpansions + 1) next) := by
  have hpos := List.length_pos_of_ne_nil h
  rw [← expandRounds_succ (Nat.succ_pos _) (by omega), expandRounds]

example : expandOptionalRouteTemplates "/a(/:b)/c".toList =
    .ok ["/a/c".toList, "/a/:b/c".toList] := by
  decide +kernel

end OpenBao.RouteTemplates
