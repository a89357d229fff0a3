import OpenBao.RegisteredRoutes

/-!
# Forms of route templates

A template stands for the segment lists that its optional groups leave. Such a form is
filled with one argument for each placeholder; two forms overlap when some path fills
both.
-/

namespace OpenBao.RouteForms
open RegisteredRoutes RouteTemplates Utf8Text

inductive Segment where
  | literal (text : Str)
  | placeholder (name : Str)
  deriving DecidableEq, Repr

namespace Segment

def text : Segment → Str
  | literal text => text
  | placeholder name => name

def ofText (text : Str) : Segment :=
  if isPlaceholder text then .placeholder text else .literal text

def Fits : Segment → Str → Prop
  | literal text, actual => text = actual
  | placeholder _, _ => True

/-- Nothing but a literal text or a single segment. -/
def isPlain (segment : Segment) : Bool :=
  !routePlaceholderIsMultiSegment segment.text &&
    !(segment.text.head? == some '(' && segment.text.getLast? == some ')')

@[simp] theorem text_ofText (text : Str) : (ofText text).text = text := by
  unfold ofText
  split <;> rfl

end Segment

def lit (text : String) : Segment := .literal text.toList

def hole (name : String) : Segment := .placeholder name.toList

/-- The forms of a template, as the matching loop of the source tries them. -/
def routeForms (template : Str) : List (List Segment) :=
  match cutQuery template with
  | .error _ => []
  | .ok (path, _) =>
    match expandOptionalRouteTemplates path with
    | .error _ => []
    | .ok expansions => (expansions.filter (·.head? == some '/')).map fun expansion =>
        (templateSegments expansion).map .ofText

/-- The path fills the form. -/
def Fills (form : List Segment) (path : List Str) : Prop := List.Forall₂ Segment.Fits form path

def arity (form : List Segment) : ℕ :=
  form.countP fun segment => segment matches .placeholder _

/-- The form with its placeholders replaced from left to right. -/
def fill : List Segment → List Str → List Str
  | [], _ => []
  | .literal text :: form, arguments => text :: fill form arguments
  | .placeholder _ :: form, argument :: arguments => argument :: fill form arguments
  | .placeholder _ :: _, [] => []

/-- Some path fills both forms. -/
def overlap : List Segment → List Segment → Bool
  | [], [] => true
  | .literal a :: as, .literal b :: bs => a == b && overlap as bs
  | _ :: as, _ :: bs => overlap as bs
  | _, _ => false

variable {form form' : List Segment} {path arguments arguments' : List Str}

theorem overlap_of_fills (h : Fills form path) (h' : Fills form' path) :
    overlap form form' = true := by
  induction h generalizing form' with
  | nil =>
    cases h'
    rfl
  | @cons segment actual form rest hfit _ ih =>
    cases h' with
    | @cons segment' _ form' _ hfit' hrest' =>
      have hrest := ih hrest'
      cases segment with
      | placeholder name => exact hrest
      | literal text =>
        cases segment' with
        | placeholder name => exact hrest
        | literal text' =>
          cases hfit
          cases hfit'
          simpa [overlap] using hrest

theorem fill_fills (h : arguments.length = arity form) : Fills form (fill form arguments) := by
  induction form generalizing arguments with
  | nil => exact .nil
  | cons segment form ih =>
    cases segment with
    | literal text => exact .cons rfl (ih (by simpa [arity] using h))
    | placeholder name =>
      cases arguments with
      | nil => simp [arity] at h
      | cons argument arguments => exact .cons trivial (ih (by simpa [arity] using h))

/-- Every argument can be read off the filled form. -/
theorem fill_injective (h : arguments.length = arity form) (h' : arguments'.length = arity form)
    (hfill : fill form arguments = fill form arguments') : arguments = arguments' := by
  induction form generalizing arguments arguments' with
  | nil =>
    rw [List.length_eq_zero_iff.mp h, List.length_eq_zero_iff.mp h']
  | cons segment form ih =>
    cases segment with
    | literal text =>
      exact ih (by simpa [arity] using h) (by simpa [arity] using h') (List.cons.inj hfill).2
    | placeholder name =>
      cases arguments with
      | nil => simp [arity] at h
      | cons argument arguments =>
        cases arguments' with
        | nil => simp [arity] at h'
        | cons argument' arguments' =>
          obtain ⟨rfl, hrest⟩ := List.cons.inj hfill
          rw [ih (by simpa [arity] using h) (by simpa [arity] using h') hrest]

theorem map_fill {f : Str → Str}
    (h : ∀ text, .literal text ∈ form → f text = text) :
    (fill form arguments).map f = fill form (arguments.map f) := by
  induction form generalizing arguments with
  | nil => rfl
  | cons segment form ih =>
    have hform := fun text ht => h text (List.mem_cons_of_mem _ ht)
    cases segment with
    | literal text =>
      rw [fill, fill, List.map_cons, ih hform, h text List.mem_cons_self]
    | placeholder name =>
      cases arguments with
      | nil => rfl
      | cons argument arguments => rw [fill, List.map_cons, List.map_cons, fill, ih hform]

theorem mem_fill {text : Str} (h : text ∈ fill form arguments) :
    .literal text ∈ form ∨ text ∈ arguments := by
  induction form generalizing arguments with
  | nil => simp [fill] at h
  | cons segment form ih =>
    cases segment with
    | literal first =>
      rcases List.mem_cons.mp h with rfl | h
      · exact .inl List.mem_cons_self
      · exact (ih h).imp_left (List.mem_cons_of_mem _)
    | placeholder name =>
      cases arguments with
      | nil => simp [fill] at h
      | cons argument arguments =>
        rcases List.mem_cons.mp h with rfl | h
        · exact .inr List.mem_cons_self
        · exact (ih h).imp (List.mem_cons_of_mem _) (List.mem_cons_of_mem _)

/-- A form that matches the segments of a path is filled by them. -/
theorem fills_of_routeSegmentsMatch (hplain : form.all Segment.isPlain = true)
    (hlit : ∀ segment ∈ form, segment = .ofText segment.text)
    (h : routeSegmentsMatch (form.map Segment.text) path = true) : Fills form path := by
  induction form generalizing path with
  | nil =>
    obtain rfl : path = [] := by simpa [routeSegmentsMatch] using h
    exact .nil
  | cons segment form ih =>
    simp only [List.all_cons, Bool.and_eq_true, Segment.isPlain, Bool.not_eq_true'] at hplain
    obtain ⟨⟨hsingle, hnoGroup⟩, hplain⟩ := hplain
    have hrest : ∀ rest, routeSegmentsMatch (form.map Segment.text) rest = true → Fills form rest :=
      fun rest => ih hplain fun other hother => hlit other (List.mem_cons_of_mem _ hother)
    simp only [List.map_cons, routeSegmentsMatch, hsingle, Bool.false_eq_true, if_false] at h
    rw [hlit segment List.mem_cons_self]
    split at h
    · next hplaceholder =>
      split at h
      · cases h
      · next actual rest =>
        refine .cons ?_ (hrest rest h)
        rw [Segment.ofText, if_pos hplaceholder]
        trivial
    · next hliteral =>
      split at h
      · cases h
      · next actual rest =>
        rw [literalMatches, hnoGroup, Bool.and_eq_true] at h
        refine .cons ?_ (hrest rest h.2)
        rw [Segment.ofText, if_neg hliteral]
        exact eq_of_beq h.1

/-- A template that matches a path has a form that the path fills. -/
theorem exists_fills_of_matches {template : Str} {query : List (Str × Str)}
    (hplain : (routeForms template).all (·.all Segment.isPlain) = true)
    (h : routeTemplateMatches template path query = .ok true) :
    ∃ form ∈ routeForms template, Fills form path := by
  unfold routeTemplateMatches at h
  obtain ⟨⟨pathTemplate, queryTemplate⟩, hcut, h⟩ := bind_eq_ok_iff.mp h
  obtain ⟨expansions, hexpand, h⟩ := bind_eq_ok_iff.mp h
  cases hany : expansions.any (routePathMatches · path) with
  | false => simp [hany, pure, Except.pure] at h
  | true =>
    obtain ⟨expansion, hmem, hmatch⟩ := List.any_eq_true.mp hany
    rw [routePathMatches, Bool.and_eq_true] at hmatch
    have hforms : (templateSegments expansion).map .ofText ∈ routeForms template := by
      simp only [routeForms, hcut, hexpand]
      exact List.mem_map_of_mem (List.mem_filter.mpr ⟨hmem, hmatch.1⟩)
    refine ⟨_, hforms, fills_of_routeSegmentsMatch (List.all_eq_true.mp hplain _ hforms) ?_ ?_⟩
    · intro segment hsegment
      obtain ⟨text, -, rfl⟩ := List.mem_map.mp hsegment
      rw [Segment.text_ofText]
    · have htext : Segment.text ∘ Segment.ofText = id := funext Segment.text_ofText
      rw [List.map_map, htext, List.map_id]
      exact hmatch.2

end OpenBao.RouteForms
