import OpenBao.RouteTemplates

/-!
# Optional groups of a route template

What the expansion loop makes of a template with optional groups, and which templates it
rejects. The loop rewrites the first `(/` of every text and scans the result again, so its
answer is that of the single groups only where no rewriting makes a new `(/`.
-/

namespace OpenBao.RouteExpansion
open DelimitedLists Utf8Text RouteTemplates

/-! ### The loop without a bound on its rounds -/

def expansionLimitError : Error := .internal "OpenBao optional route expansion limit exceeded"

/-- The loop of `expand_optional_route_templates`: what it returns, if it returns. -/
inductive Expands : List Str → Except Error (List Str) → Prop where
  | invalid {expansions : List Str} {e : Error} (h : expandRound expansions = .error e) :
      Expands expansions (.error e)
  | limit {expansions next : List Str} {changed : Bool}
      (h : expandRound expansions = .ok (next, changed))
      (hmax : maxOptionalRouteExpansions < next.length) :
      Expands expansions (.error expansionLimitError)
  | settled {expansions next : List Str} (h : expandRound expansions = .ok (next, false))
      (hmax : next.length ≤ maxOptionalRouteExpansions) : Expands expansions (.ok next)
  | again {expansions next : List Str} {result : Except Error (List Str)}
      (h : expandRound expansions = .ok (next, true))
      (hmax : next.length ≤ maxOptionalRouteExpansions) (hnext : Expands next result) :
      Expands expansions result

variable {expansions : List Str} {result : Except Error (List Str)}

/-- The rounds within the bound are the rounds of the loop. -/
theorem expands_of_expandRounds {fuel : ℕ}
    (h : maxOptionalRouteExpansions < fuel + expansions.length) (hpos : 0 < fuel) :
    Expands expansions (expandRounds fuel expansions) := by
  induction fuel generalizing expansions with
  | zero => omega
  | succ fuel ih =>
    rw [expandRounds]
    cases hround : expandRound expansions with
    | error e => exact .invalid hround
    | ok r =>
      obtain ⟨next, changed⟩ := r
      have hlength := expandRound_length hround
      change Expands _ (if _ then _ else _)
      split
      · next hmax => exact .limit hround hmax
      · next hmax =>
        cases changed with
        | false => exact .settled hround (by omega)
        | true =>
          simp only [if_true] at hlength
          exact .again hround (by omega) (ih (by omega) (by omega))

theorem Expands.unique {result' : Except Error (List Str)} (h : Expands expansions result)
    (h' : Expands expansions result') : result = result' := by
  induction h with
  | invalid h =>
    cases h' with
    | invalid h' =>
      rw [h] at h'
      exact congrArg _ (Except.error.inj h')
    | limit h' _ | settled h' _ | again h' _ _ =>
      rw [h] at h'
      cases h'
  | limit h hmax =>
    cases h' with
    | limit => rfl
    | invalid h' =>
      rw [h] at h'
      cases h'
    | settled h' hmax' | again h' hmax' _ =>
      rw [h] at h'
      cases h'
      omega
  | settled h hmax =>
    cases h' with
    | settled h' =>
      rw [h] at h'
      cases h'
      rfl
    | limit h' hmax' =>
      rw [h] at h'
      cases h'
      omega
    | invalid h' | again h' _ _ =>
      rw [h] at h'
      cases h'
  | again h hmax _ ih =>
    cases h' with
    | again h' _ hnext' =>
      rw [h] at h'
      cases h'
      exact ih hnext'
    | limit h' hmax' =>
      rw [h] at h'
      cases h'
      omega
    | invalid h' | settled h' _ =>
      rw [h] at h'
      cases h'

/-- The loop returns for every template, and its bound on the rounds is never met. -/
theorem expands_iff {template : Str} :
    Expands [template] result ↔ result = expandOptionalRouteTemplates template := by
  have hloop : Expands [template] (expandOptionalRouteTemplates template) :=
    expands_of_expandRounds (by simp only [List.length_singleton]; omega) (Nat.succ_pos _)
  exact ⟨fun h => h.unique hloop, fun h => h ▸ hloop⟩

/-! ### Templates made of optional groups -/

/-- An optional group `(/x)` and the text in front of it. -/
structure OptionalGroup where
  before : Str
  inner : Str

def templateText : List OptionalGroup → Str → Str
  | [], last => last
  | g :: groups, last => g.before ++ '(' :: '/' :: g.inner ++ ')' :: templateText groups last

/-- Each group deleted or replaced by its text. -/
def choices : List OptionalGroup → Str → List Str
  | [], last => [last]
  | g :: groups, last =>
    (choices groups last).map (g.before ++ ·) ++
      (choices groups last).map (g.before ++ '/' :: g.inner ++ ·)

/-- Text that contains no `(/`. -/
def NoOpening (text : Str) : Prop := ¬ ['(', '/'] <:+: text

/-- Groups without parentheses, separated by text that contains no `(/`. -/
structure Separated (groups : List OptionalGroup) (last : Str) : Prop where
  before : ∀ g ∈ groups, NoOpening g.before
  inner : ∀ g ∈ groups, '(' ∉ g.inner ∧ ')' ∉ g.inner
  last : NoOpening last

/-- Text that opens no group, whatever stands behind it. -/
structure Closed (text : Str) : Prop where
  noOpening : NoOpening text
  noEnd : text.getLast? ≠ some '('

theorem noOpening_nil : NoOpening [] := by
  simp [NoOpening]

theorem noOpening_cons {c : Char} {text : Str} :
    NoOpening (c :: text) ↔ ¬(c = '(' ∧ text.head? = some '/') ∧ NoOpening text := by
  rw [NoOpening, NoOpening, List.infix_cons_iff, not_or]
  refine and_congr_left fun _ => not_congr ?_
  rw [List.cons_prefix_cons, List.head?_eq_some_iff]
  refine and_congr eq_comm ⟨fun h => ?_, fun ⟨rest, h⟩ => h ▸ ⟨rest, rfl⟩⟩
  obtain ⟨rest, rfl⟩ := h
  exact ⟨rest, rfl⟩

theorem Closed.append {p q : Str} (hp : Closed p) (hq : NoOpening q) : NoOpening (p ++ q) := by
  obtain ⟨hopen, hend⟩ := hp
  induction p with
  | nil => exact hq
  | cons c p ih =>
    obtain ⟨hc, hopen⟩ := noOpening_cons.mp hopen
    cases p with
    | nil => exact noOpening_cons.mpr ⟨fun h => hend (by simp [h.1]), hq⟩
    | cons d p => exact noOpening_cons.mpr ⟨hc, ih hopen (by simpa using hend)⟩

theorem Closed.append_closed {p q : Str} (hp : Closed p) (hq : Closed q) : Closed (p ++ q) where
  noOpening := hp.append hq.noOpening
  noEnd := by
    have hend := hq.noEnd
    rw [List.getLast?_append]
    cases hlast : q.getLast? with
    | none => exact hp.noEnd
    | some c => rwa [hlast] at hend

theorem closed_of_noParenthesis {text : Str} (h : '(' ∉ text) : Closed text where
  noOpening := fun hmem => h (hmem.subset List.mem_cons_self)
  noEnd := fun hlast => h (List.mem_of_getLast? hlast)

theorem findOptional_eq_none {text : Str} (h : NoOpening text) : findOptional text = none := by
  fun_induction findOptional text with
  | case1 rest => exact absurd ⟨[], rest, rfl⟩ h
  | case2 => rfl
  | case3 c rest _ ih => rw [ih (noOpening_cons.mp h).2, Option.map_none]

theorem findOptional_append {text rest : Str} (h : NoOpening text) :
    findOptional (text ++ '(' :: '/' :: rest) = some (text, '/' :: rest) := by
  induction text with
  | nil => rw [List.nil_append, findOptional]
  | cons c text ih =>
    obtain ⟨hc, htext⟩ := noOpening_cons.mp h
    rw [List.cons_append, findOptional, ih htext, Option.map_some]
    rintro tail rfl heq
    refine hc ⟨rfl, ?_⟩
    cases text with
    | nil => cases heq
    | cons d text => simp_all

/-- The two texts that a round makes of one with a group behind a text that opens none. -/
theorem expandFirst_group {text inner rest : Str} (h : NoOpening text) (hinner : ')' ∉ inner) :
    expandFirst (text ++ '(' :: '/' :: inner ++ ')' :: rest) =
      .ok (some [text ++ rest, text ++ '/' :: inner ++ rest]) := by
  have hparen : ')' ∉ '/' :: inner := by simp [hinner]
  have hcut : findOptional (text ++ '(' :: '/' :: (inner ++ ')' :: rest)) =
      some (text, '/' :: (inner ++ ')' :: rest)) := findOptional_append h
  rw [expandFirst, List.append_assoc, List.cons_append, List.cons_append, hcut]
  dsimp only
  rw [← List.cons_append, splitOnce_append hparen]

theorem expandRound_plain {texts : List Str} (h : ∀ text ∈ texts, NoOpening text) :
    expandRound texts = .ok (texts, false) := by
  induction texts with
  | nil => rfl
  | cons text texts ih =>
    have hrest := ih fun other hother => h other (List.mem_cons_of_mem _ hother)
    have hnone := findOptional_eq_none (h text List.mem_cons_self)
    rw [expandRound, expandFirst, hnone, hrest]
    rfl

/-- The texts in front of the second group, after the first one has been rewritten. -/
def rewritten (g : OptionalGroup) (texts : List Str) : List Str :=
  texts.flatMap fun text => [text ++ g.before, text ++ g.before ++ '/' :: g.inner]

variable {g : OptionalGroup} {groups : List OptionalGroup} {last : Str} {texts : List Str}

/-- One round rewrites the first group in every text. -/
theorem expandRound_groups (hbefore : NoOpening g.before) (hinner : ')' ∉ g.inner)
    (htexts : ∀ text ∈ texts, Closed text) (hne : texts ≠ []) :
    expandRound (texts.map (· ++ templateText (g :: groups) last)) =
      .ok ((rewritten g texts).map (· ++ templateText groups last), true) := by
  induction texts with
  | nil => exact absurd rfl hne
  | cons text texts ih =>
    have hopen := (htexts text List.mem_cons_self).append hbefore
    have htext : text ++ templateText (g :: groups) last =
        text ++ g.before ++ '(' :: '/' :: g.inner ++ ')' :: templateText groups last := by
      simp [templateText]
    rw [List.map_cons, expandRound, htext, expandFirst_group hopen hinner]
    by_cases hrest : texts = []
    · subst hrest
      simp [rewritten, expandRound]
      rfl
    · rw [ih (fun other hother => htexts other (List.mem_cons_of_mem _ hother)) hrest]
      simp [rewritten]
      rfl

theorem rewritten_length : (rewritten g texts).length = 2 * texts.length := by
  simp [rewritten, Nat.mul_comm]

theorem rewritten_closed (hbefore : Closed g.before) (hinner : '(' ∉ g.inner)
    (htexts : ∀ text ∈ texts, Closed text) : ∀ text ∈ rewritten g texts, Closed text := by
  intro text htext
  obtain ⟨origin, horigin, hmem⟩ := List.mem_flatMap.mp htext
  have hdeleted := (htexts origin horigin).append_closed hbefore
  have hkept : Closed ('/' :: g.inner) := closed_of_noParenthesis (by simp [hinner])
  obtain rfl | rfl : text = origin ++ g.before ∨ text = origin ++ g.before ++ '/' :: g.inner := by
    simpa using hmem
  · exact hdeleted
  · exact hdeleted.append_closed hkept

theorem choices_length : (choices groups last).length = 2 ^ groups.length := by
  induction groups with
  | nil => rfl
  | cons g groups ih =>
    simp only [choices, List.length_append, List.length_map, ih, List.length_cons]
    omega

theorem choices_rewritten :
    (rewritten g texts).flatMap (fun text => (choices groups last).map (text ++ ·)) =
      texts.flatMap fun text => (choices (g :: groups) last).map (text ++ ·) := by
  rw [rewritten, List.flatMap_assoc]
  congr 1
  funext text
  simp [choices, Function.comp_def]

/-- The rounds rewrite group by group, until the limit or the last group. -/
theorem expandRounds_groups (hsep : Separated groups last)
    (hclosed : ∀ g ∈ groups, g.before.getLast? ≠ some '(')
    (htexts : ∀ text ∈ texts, Closed text) (hne : texts ≠ []) :
    expandRounds (maxOptionalRouteExpansions + 1) (texts.map (· ++ templateText groups last)) =
      if texts.length * 2 ^ groups.length ≤ maxOptionalRouteExpansions then
        .ok (texts.flatMap fun text => (choices groups last).map (text ++ ·))
      else .error expansionLimitError := by
  induction groups generalizing texts with
  | nil =>
    have hplain : ∀ text ∈ texts.map (· ++ templateText [] last), NoOpening text := by
      intro text htext
      obtain ⟨origin, horigin, rfl⟩ := List.mem_map.mp htext
      exact (htexts origin horigin).append hsep.last
    rw [expandRounds, expandRound_plain hplain]
    simp only [List.length_nil, Nat.pow_zero, Nat.mul_one, choices, List.map_cons, List.map_nil,
      ← List.map_eq_flatMap]
    change (if maxOptionalRouteExpansions < _ then _ else _) = _
    rw [List.length_map]
    by_cases hmax : texts.length ≤ maxOptionalRouteExpansions
    · rw [if_neg (by omega), if_pos hmax]
      rfl
    · rw [if_pos (by omega), if_neg hmax]
      rfl
  | cons g groups ih =>
    have hg := List.mem_cons_self (a := g) (l := groups)
    have hmap : texts.map (· ++ templateText (g :: groups) last) ≠ [] := by simpa using hne
    have hrest : Separated groups last :=
      ⟨fun g hg => hsep.before g (List.mem_cons_of_mem _ hg),
        fun g hg => hsep.inner g (List.mem_cons_of_mem _ hg), hsep.last⟩
    have hcount : texts.length * 2 ^ (g :: groups).length =
        2 * texts.length * 2 ^ groups.length := by
      rw [List.length_cons, Nat.pow_succ, Nat.mul_comm 2 texts.length, Nat.mul_assoc,
        Nat.mul_comm 2]
    have hle : 2 * texts.length ≤ 2 * texts.length * 2 ^ groups.length :=
      Nat.le_mul_of_pos_right _ (Nat.two_pow_pos _)
    rw [expandRounds_unfold hmap,
      expandRound_groups (hsep.before g hg) (hsep.inner g hg).2 htexts hne]
    change (if maxOptionalRouteExpansions < _ then _ else expandRounds _ _) = _
    rw [List.length_map, rewritten_length, hcount]
    by_cases hmax : maxOptionalRouteExpansions < 2 * texts.length
    · rw [if_pos hmax, if_neg (by omega)]
      rfl
    · have hnext := ih hrest (fun g hg => hclosed g (List.mem_cons_of_mem _ hg))
        (rewritten_closed ⟨hsep.before g hg, hclosed g hg⟩ (hsep.inner g hg).1 htexts)
        (List.ne_nil_of_length_pos (by
          rw [rewritten_length]
          have := List.length_pos_of_ne_nil hne
          omega))
      rw [if_neg hmax, hnext, rewritten_length, choices_rewritten]

/-! ### Groups that are never closed -/

/-- A text with a `(/` that no `)` follows. -/
def Unclosed (text : Str) : Prop := ∃ front rest, text = front ++ '(' :: '/' :: rest ∧ ')' ∉ rest

/-- The first `(/` is the unclosed one or stands in front of it. -/
theorem findOptional_front (front rest : Str) :
    ∃ before tail, findOptional (front ++ '(' :: '/' :: rest) = some (before, tail) ∧
      (tail = '/' :: rest ∨ ∃ middle, tail = middle ++ '(' :: '/' :: rest) := by
  induction front with
  | nil => exact ⟨[], '/' :: rest, by rw [List.nil_append, findOptional], .inl rfl⟩
  | cons c front ih =>
    by_cases hopen : ∃ tail, c :: front = '(' :: '/' :: tail
    · obtain ⟨tail, htail⟩ := hopen
      refine ⟨[], '/' :: tail ++ '(' :: '/' :: rest, ?_, .inr ⟨'/' :: tail, rfl⟩⟩
      rw [htail, List.cons_append, List.cons_append, findOptional]
    · obtain ⟨before, tail, hfind, htail⟩ := ih
      refine ⟨c :: before, tail, ?_, htail⟩
      rw [List.cons_append, findOptional, hfind, Option.map_some]
      rintro other rfl heq
      cases front with
      | nil => cases heq
      | cons d front =>
        obtain ⟨rfl, -⟩ := List.cons.inj heq
        exact hopen ⟨front, rfl⟩

/-- An unclosed group stays unclosed when a group in front of it is rewritten. -/
theorem expandFirst_unclosed {text : Str} (h : Unclosed text) :
    (∃ e, expandFirst text = .error e) ∨
      ∃ deleted kept, expandFirst text = .ok (some [deleted, kept]) ∧ Unclosed deleted := by
  obtain ⟨front, rest, rfl, hrest⟩ := h
  obtain ⟨before, tail, hfind, htail⟩ := findOptional_front front rest
  rw [expandFirst, hfind]
  dsimp only
  cases hcut : splitOnce ')' tail with
  | none => exact .inl ⟨_, rfl⟩
  | some cut =>
    obtain ⟨optional, after⟩ := cut
    refine .inr ⟨_, _, rfl, ?_⟩
    obtain ⟨rfl, hoptional⟩ := splitOnce_eq_some_iff.mp hcut
    have hbehind : ')' ∉ '(' :: '/' :: rest := by simp [hrest]
    obtain htail | ⟨middle, htail⟩ := htail
    · have hmem : ')' ∈ '/' :: rest := htail ▸ List.mem_append_right _ List.mem_cons_self
      exact absurd (List.mem_cons_of_mem _ hmem) hbehind
    · obtain ⟨more, rfl, hmore⟩ | ⟨more, rfl, hmore⟩ := List.append_eq_append_iff.mp htail
      · cases more with
        | nil =>
          rw [List.nil_append] at hmore
          cases hmore
        | cons c more =>
          obtain ⟨rfl, rfl⟩ := List.cons.inj hmore
          exact ⟨before ++ more, rest, (List.append_assoc ..).symm, hrest⟩
      · exact absurd (hmore ▸ List.mem_append_right _ List.mem_cons_self) hbehind

/-- What a round does with each of its texts. -/
theorem expandRound_mem {texts next : List Str} {changed : Bool} {text : Str}
    (h : expandRound texts = .ok (next, changed)) (htext : text ∈ texts) :
    ∃ first, expandFirst text = .ok first ∧ (∀ other ∈ first.getD [text], other ∈ next) ∧
      (first.isSome → changed = true) := by
  induction texts generalizing next changed with
  | nil => cases htext
  | cons head texts ih =>
    obtain ⟨first, hfirst, h⟩ := bind_eq_ok_iff.mp h
    obtain ⟨⟨next', changed'⟩, hnext, h⟩ := bind_eq_ok_iff.mp h
    cases htext with
    | head =>
      refine ⟨first, hfirst, ?_⟩
      cases first <;> cases h <;> simp +contextual
    | tail _ htext =>
      obtain ⟨found, hfound, hmem, hchanged⟩ := ih hnext htext
      refine ⟨found, hfound, fun other hother => ?_, fun hsome => ?_⟩
      · have hother := hmem other hother
        cases first <;> cases h <;> simp [hother]
      · have hchanged := hchanged hsome
        cases first <;> cases h <;> simp [hchanged]

theorem expandRound_unclosed {texts next : List Str} {changed : Bool} {text : Str}
    (h : expandRound texts = .ok (next, changed)) (htext : text ∈ texts)
    (hunclosed : Unclosed text) : changed = true ∧ ∃ other ∈ next, Unclosed other := by
  obtain ⟨first, hfirst, hmem, hchanged⟩ := expandRound_mem h htext
  obtain ⟨e, herror⟩ | ⟨deleted, kept, hok, hdeleted⟩ := expandFirst_unclosed hunclosed
  · rw [hfirst] at herror
    cases herror
  · rw [hfirst] at hok
    cases hok
    exact ⟨hchanged rfl, deleted, hmem deleted (by simp), hdeleted⟩

theorem Expands.error_of_unclosed {text : Str} (h : Expands expansions result)
    (htext : text ∈ expansions) (hunclosed : Unclosed text) : ∃ e, result = .error e := by
  induction h generalizing text with
  | invalid => exact ⟨_, rfl⟩
  | limit => exact ⟨_, rfl⟩
  | settled hround =>
    obtain ⟨hchanged, -⟩ := expandRound_unclosed hround htext hunclosed
    cases hchanged
  | again hround _ _ ih =>
    obtain ⟨-, other, hother, hunclosed⟩ := expandRound_unclosed hround htext hunclosed
    exact ih hother hunclosed

/-! ### Matching a path -/

/-- The query part of `route_template_matches`. -/
def queryMatches (query : List (Str × Str)) : Option Str → Except Error Bool
  | none => .ok true
  | some queryTemplate => queryPartsMatch query (queryTemplate.splitOn '&')

theorem routeTemplateMatches_iff {template path : Str} {queryTemplate : Option Str}
    {expansions pathSegments : List Str} {query : List (Str × Str)}
    (hcut : cutQuery template = .ok (path, queryTemplate))
    (hexpand : expandOptionalRouteTemplates path = .ok expansions) :
    routeTemplateMatches template pathSegments query = .ok true ↔
      (∃ expansion ∈ expansions, routePathMatches expansion pathSegments = true) ∧
        queryMatches query queryTemplate = .ok true := by
  have hrun : routeTemplateMatches template pathSegments query =
      if !expansions.any (routePathMatches · pathSegments) then .ok false
      else queryMatches query queryTemplate := by
    rw [routeTemplateMatches, hcut]
    change (expandOptionalRouteTemplates path >>= _) = _
    rw [hexpand]
    cases queryTemplate <;> rfl
  rw [hrun, ← List.any_eq_true]
  cases expansions.any (routePathMatches · pathSegments) <;> simp

theorem expandOptionalRouteTemplates_plain {template : Str} (h : NoOpening template) :
    expandOptionalRouteTemplates template = .ok [template] := by
  have hround : expandRound [template] = .ok ([template], false) :=
    expandRound_plain (by simpa using h)
  rw [expandOptionalRouteTemplates, expandRounds, hround]
  rfl

theorem templateText_append {tail : Str} :
    templateText groups (last ++ tail) = templateText groups last ++ tail := by
  induction groups with
  | nil => rfl
  | cons g groups ih => simp [templateText, ih]

theorem choices_append {tail : Str} :
    choices groups (last ++ tail) = (choices groups last).map (· ++ tail) := by
  induction groups with
  | nil => rfl
  | cons g groups ih => simp [choices, ih, Function.comp_def]

theorem mem_choices_cons {choice : Str} : choice ∈ choices (g :: groups) last ↔
    ∃ rest ∈ choices groups last,
      choice = g.before ++ rest ∨ choice = g.before ++ '/' :: g.inner ++ rest := by
  simp only [choices, List.mem_append, List.mem_map]
  constructor
  · rintro (⟨rest, hrest, rfl⟩ | ⟨rest, hrest, rfl⟩)
    · exact ⟨rest, hrest, .inl rfl⟩
    · exact ⟨rest, hrest, .inr rfl⟩
  · rintro ⟨rest, hrest, rfl | rfl⟩
    · exact .inl ⟨rest, hrest, rfl⟩
    · exact .inr ⟨rest, hrest, rfl⟩

/-- A character other than those of the groups' frame is in no text made of the parts. -/
theorem not_mem_template {c : Char} (hc : c ≠ '(' ∧ c ≠ '/' ∧ c ≠ ')')
    (hgroups : ∀ g ∈ groups, c ∉ g.before ∧ c ∉ g.inner) (hlast : c ∉ last) :
    c ∉ templateText groups last ∧ ∀ choice ∈ choices groups last, c ∉ choice := by
  induction groups with
  | nil => simpa [templateText, choices] using hlast
  | cons g groups ih =>
    obtain ⟨htext, hchoices⟩ := ih fun g hg => hgroups g (List.mem_cons_of_mem _ hg)
    obtain ⟨hbefore, hinner⟩ := hgroups g List.mem_cons_self
    refine ⟨by simp [templateText, htext, hbefore, hinner, hc], fun choice hchoice => ?_⟩
    obtain ⟨rest, hrest, rfl | rfl⟩ := mem_choices_cons.mp hchoice
    · simp [hbefore, hchoices rest hrest]
    · simp [hbefore, hinner, hchoices rest hrest, hc.2.1]

theorem choices_noOpening (hsep : Separated groups last)
    (hclosed : ∀ g ∈ groups, g.before.getLast? ≠ some '(') :
    ∀ choice ∈ choices groups last, NoOpening choice := by
  induction groups with
  | nil => simpa [choices] using hsep.last
  | cons g groups ih =>
    have hrest := ih
      ⟨fun g hg => hsep.before g (List.mem_cons_of_mem _ hg),
        fun g hg => hsep.inner g (List.mem_cons_of_mem _ hg), hsep.last⟩
      fun g hg => hclosed g (List.mem_cons_of_mem _ hg)
    have hg := List.mem_cons_self (a := g) (l := groups)
    have hbefore : Closed g.before := ⟨hsep.before g hg, hclosed g hg⟩
    have hkept : Closed ('/' :: g.inner) :=
      closed_of_noParenthesis (by simp [(hsep.inner g hg).1])
    intro choice hchoice
    obtain ⟨rest, hmem, rfl | rfl⟩ := mem_choices_cons.mp hchoice
    · exact hbefore.append (hrest rest hmem)
    · exact (hbefore.append_closed hkept).append (hrest rest hmem)

/-- Groups that the rounds rewrite one by one: no text in front of a group ends in `(`. -/
theorem expandOptionalRouteTemplates_groups (hsep : Separated groups last)
    (hclosed : ∀ g ∈ groups, g.before.getLast? ≠ some '(') :
    expandOptionalRouteTemplates (templateText groups last) =
      if 2 ^ groups.length ≤ maxOptionalRouteExpansions then .ok (choices groups last)
      else .error expansionLimitError := by
  have hnil : ∀ text ∈ [([] : Str)], Closed text := by
    simpa using Closed.mk noOpening_nil (by simp)
  have hstart := expandRounds_groups hsep hclosed hnil (by simp)
  simpa [expandOptionalRouteTemplates] using hstart

theorem cutQuery_plain {path : Str} (h : '?' ∉ path) : cutQuery path = .ok (path, none) := by
  rw [cutQuery, splitOnce_eq_none_iff.mpr h]

theorem cutQuery_append {path : Str} (h : '?' ∉ path) (queryTemplate : Str) :
    cutQuery (path ++ '?' :: queryTemplate) =
      if '?' ∈ queryTemplate then .error (.internal "OpenBao route template query is invalid")
      else .ok (path, some queryTemplate) := by
  rw [cutQuery, splitOnce_append h]

/-- Cut off the same query part, the template matches as one of its choices does. -/
theorem matches_iff_choice {tail : Str} {queryTemplate : Option Str} {pathSegments : List Str}
    {query : List (Str × Str)} (hsep : Separated groups last)
    (hclosed : ∀ g ∈ groups, g.before.getLast? ≠ some '(')
    (hfew : 2 ^ groups.length ≤ maxOptionalRouteExpansions)
    (hcut : ∀ path, path = templateText groups last ∨ path ∈ choices groups last →
      cutQuery (path ++ tail) = .ok (path, queryTemplate)) :
    routeTemplateMatches (templateText groups last ++ tail) pathSegments query = .ok true ↔
      ∃ choice ∈ choices groups last,
        routeTemplateMatches (choice ++ tail) pathSegments query = .ok true := by
  have hexpand := expandOptionalRouteTemplates_groups hsep hclosed
  rw [if_pos hfew] at hexpand
  rw [routeTemplateMatches_iff (hcut _ (.inl rfl)) hexpand]
  have hchoice : ∀ choice ∈ choices groups last,
      (routeTemplateMatches (choice ++ tail) pathSegments query = .ok true ↔
        routePathMatches choice pathSegments = true ∧
          queryMatches query queryTemplate = .ok true) := by
    intro choice hchoice
    rw [routeTemplateMatches_iff (hcut _ (.inr hchoice))
      (expandOptionalRouteTemplates_plain (choices_noOpening hsep hclosed choice hchoice))]
    simp
  constructor
  · rintro ⟨⟨choice, hmem, hpath⟩, hquery⟩
    exact ⟨choice, hmem, (hchoice choice hmem).mpr ⟨hpath, hquery⟩⟩
  · rintro ⟨choice, hmem, h⟩
    obtain ⟨hpath, hquery⟩ := (hchoice choice hmem).mp h
    exact ⟨⟨choice, hmem, hpath⟩, hquery⟩

theorem routeTemplateMatches_groups {pathSegments : List Str} {query : List (Str × Str)}
    (hsep : Separated groups last) (hclosed : ∀ g ∈ groups, g.before.getLast? ≠ some '(')
    (hfew : 2 ^ groups.length ≤ maxOptionalRouteExpansions)
    (hquery : ∀ g ∈ groups, '?' ∉ g.before ∧ '?' ∉ g.inner) :
    routeTemplateMatches (templateText groups last) pathSegments query = .ok true ↔
      ∃ choice ∈ choices groups last,
        routeTemplateMatches choice pathSegments query = .ok true := by
  cases hcut : splitOnce '?' last with
  | none =>
    obtain ⟨htext, hchoices⟩ :=
      not_mem_template (by decide) hquery (splitOnce_eq_none_iff.mp hcut)
    have hparts : ∀ path, path = templateText groups last ∨ path ∈ choices groups last →
        cutQuery (path ++ []) = .ok (path, none) := by
      intro path hpath
      rw [List.append_nil]
      obtain rfl | hpath := hpath
      · exact cutQuery_plain htext
      · exact cutQuery_plain (hchoices path hpath)
    have h : routeTemplateMatches (templateText groups last ++ []) pathSegments query =
        .ok true ↔ _ := matches_iff_choice hsep hclosed hfew hparts
    simpa using h
  | some cut =>
    obtain ⟨front, queryTemplate⟩ := cut
    obtain ⟨rfl, hfront⟩ := splitOnce_eq_some_iff.mp hcut
    obtain ⟨htext, hchoices⟩ := not_mem_template (by decide) hquery hfront
    have hpart : ∀ path, path = templateText groups front ∨ path ∈ choices groups front →
        '?' ∉ path := by
      rintro path (rfl | hpath)
      · exact htext
      · exact hchoices path hpath
    rw [templateText_append, choices_append]
    simp only [List.mem_map, exists_exists_and_eq_and]
    by_cases hmore : '?' ∈ queryTemplate
    · have hfalse : ∀ path, path = templateText groups front ∨ path ∈ choices groups front →
          routeTemplateMatches (path ++ '?' :: queryTemplate) pathSegments query ≠ .ok true := by
        intro path hpath h
        rw [routeTemplateMatches, cutQuery_append (hpart path hpath), if_pos hmore] at h
        cases h
      exact iff_of_false (hfalse _ (.inl rfl)) fun ⟨choice, hmem, h⟩ => hfalse _ (.inr hmem) h
    · have hlast : NoOpening front := fun hmem =>
        hsep.last (hmem.trans (List.prefix_append _ _).isInfix)
      have hparts : ∀ path, path = templateText groups front ∨ path ∈ choices groups front →
          cutQuery (path ++ '?' :: queryTemplate) = .ok (path, some queryTemplate) := by
        intro path hpath
        rw [cutQuery_append (hpart path hpath), if_neg hmore]
      exact matches_iff_choice ⟨hsep.before, hsep.inner, hlast⟩ hclosed hfew hparts

/-- The loop returns for every template. Groups without parentheses, each behind a text that
neither contains `(/` nor ends in `(`, are deleted or kept independently, up to the limit; a
`(/` that is never closed is refused. With no `?` in front of the last group the template
matches as one of its choices does. -/
theorem expandOptionalRouteTemplates_exact :
    (∀ template result,
      Expands [template] result ↔ result = expandOptionalRouteTemplates template) ∧
    (∀ groups last, Separated groups last → (∀ g ∈ groups, g.before.getLast? ≠ some '(') →
      (choices groups last).length = 2 ^ groups.length ∧
      expandOptionalRouteTemplates (templateText groups last) =
        if 2 ^ groups.length ≤ 8 then .ok (choices groups last)
        else .error expansionLimitError) ∧
    (∀ front rest, ')' ∉ rest →
      ∃ e, expandOptionalRouteTemplates (front ++ '(' :: '/' :: rest) = .error e) ∧
    ∀ groups last, Separated groups last → (∀ g ∈ groups, g.before.getLast? ≠ some '(') →
      2 ^ groups.length ≤ 8 → (∀ g ∈ groups, '?' ∉ g.before ∧ '?' ∉ g.inner) →
      ∀ pathSegments query,
        routeTemplateMatches (templateText groups last) pathSegments query = .ok true ↔
          ∃ choice ∈ choices groups last,
            routeTemplateMatches choice pathSegments query = .ok true := by
  refine ⟨fun template result => expands_iff, fun groups last hsep hclosed => ?_, ?_, ?_⟩
  · exact ⟨choices_length, expandOptionalRouteTemplates_groups hsep hclosed⟩
  · intro front rest hrest
    have hloop := expands_iff.mpr (rfl : _ = expandOptionalRouteTemplates
      (front ++ '(' :: '/' :: rest))
    exact hloop.error_of_unclosed List.mem_cons_self ⟨front, rest, rfl, hrest⟩
  · intro groups last hsep hclosed hfew hquery pathSegments query
    exact routeTemplateMatches_groups hsep hclosed hfew hquery

theorem separated_singleton {before inner : Str} (hbefore : NoOpening before)
    (hinner : '(' ∉ inner ∧ ')' ∉ inner) (hlast : NoOpening last) :
    Separated [⟨before, inner⟩] last where
  before g hg := by
    rw [List.mem_singleton.mp hg]
    exact hbefore
  inner g hg := by
    rw [List.mem_singleton.mp hg]
    exact hinner
  last := hlast

theorem optionalSegment_expands : expandOptionalRouteTemplates "/a(/:b)/c".toList =
    .ok ["/a/c".toList, "/a/:b/c".toList] := by
  have hsep : Separated [⟨"/a".toList, ":b".toList⟩] "/c".toList :=
    separated_singleton (by simp [NoOpening, List.infix_cons_iff]) (by simp)
      (by simp [NoOpening, List.infix_cons_iff])
  have hexpand := (expandOptionalRouteTemplates_exact.2.1 _ _ hsep (by simp)).2
  exact hexpand

/-- Behind a `(` the rewritten group opens another one, which the loop then refuses. And a
`?` in front of a group cuts the template before any group is expanded. -/
theorem rescanned_groups_differ :
    (¬∀ groups last, Separated groups last → 2 ^ groups.length ≤ 8 →
      expandOptionalRouteTemplates (templateText groups last) = .ok (choices groups last)) ∧
    ¬∀ groups last, Separated groups last → (∀ g ∈ groups, g.before.getLast? ≠ some '(') →
      2 ^ groups.length ≤ 8 → ∀ pathSegments query,
        routeTemplateMatches (templateText groups last) pathSegments query = .ok true ↔
          ∃ choice ∈ choices groups last,
            routeTemplateMatches choice pathSegments query = .ok true := by
  constructor
  · intro h
    have hsep : Separated [⟨"(".toList, "x".toList⟩] [] :=
      separated_singleton (by simp [NoOpening, List.infix_cons_iff]) (by simp) noOpening_nil
    have hexpand := h _ _ hsep (by decide)
    revert hexpand
    decide +kernel
  · intro h
    have hsep : Separated [⟨"/a?x=1".toList, "b".toList⟩] [] :=
      separated_singleton (by simp [NoOpening, List.infix_cons_iff]) (by simp) noOpening_nil
    have hmatch := (h _ _ hsep (by simp) (by decide) ["a".toList] [("x".toList, "1".toList)]).mpr
      ⟨"/a?x=1".toList, by simp [choices], by decide +kernel⟩
    revert hmatch
    decide +kernel

end OpenBao.RouteExpansion
