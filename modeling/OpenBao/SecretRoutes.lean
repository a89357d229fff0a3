import OpenBao.RouteForms

/-!
# Requests of the secret engines

A handle of a secret engine builds its paths from its mount and from literals and
arguments. What the registry documents for a call is a form and the arguments that fill
it. Where each argument is one segment, the path is the filled form.
-/

namespace OpenBao.SecretRoutes
open DelimitedLists PathValidation RegisteredRoutes RouteForms RouteTemplates Utf8Text

/-- The loop of an engine's `path` over its tail. -/
def extendSegments : List Str → List Str → Except Error (List Str)
  | segments, [] => .ok segments
  | segments, segment :: tail => do
    extendSegments (segments ++ (← validateEndpointPath segment)) tail

/-- `path` of a handle with the validated mount. -/
def enginePath (mount tail : List Str) : Except Error Str :=
  (extendSegments mount tail).map (join '/')

/-- The text without the slashes around it. -/
def trimSlashes (text : Str) : Str := trimMatches (· == '/') text

/-- The text spells one segment. -/
def OneSegment (text : Str) : Prop := trimSlashes text ≠ [] ∧ '/' ∉ trimSlashes text

/-- An argument of a call: a text of the caller, or one that the client writes itself. -/
inductive Argument where
  | text (raw : Str)
  | choice (raw : Str) (plain : raw ≠ [] ∧ '/' ∉ raw)
  deriving DecidableEq, Repr

def Argument.raw : Argument → Str
  | .text raw => raw
  | .choice raw _ => raw

/-- The segment that the argument is to fill. -/
def Argument.value (argument : Argument) : Str := trimSlashes argument.raw

structure DocumentedRoute where
  method : OpenBaoHttpMethod
  template : Str
  /-- One form of the template, behind its mount. -/
  form : List Segment
  /-- The other templates that a path of this form can match; they have a literal for its
  placeholder. -/
  reserved : List Str := []
  deriving DecidableEq, Repr

/-- The form begins with a literal that is no root operation, and no literal holds a slash. -/
def DocumentedRoute.wellFormed (route : DocumentedRoute) : Bool :=
  (match route.form.head? with
    | some (.literal text) => text ∉ rootOperations
    | _ => false) &&
  route.form.all fun segment =>
    match segment with
    | .literal text => text ≠ [] && '/' ∉ text
    | .placeholder _ => true

/-- The template has the form. -/
def DocumentedRoute.listed (documentedMount : Str) (route : DocumentedRoute) : Bool :=
  (routeForms route.template).contains (.literal documentedMount :: route.form)

/-- No other entry of the registry overlaps the form, but for the reserved ones. -/
def DocumentedRoute.separated (documentedMount : Str) (registry : List (OpenBaoHttpMethod × Str))
    (route : DocumentedRoute) : Bool :=
  registry.all fun entry =>
    entry.1 != route.method ||
      ((routeForms entry.2).all fun form =>
        !overlap (.literal documentedMount :: route.form) form) ||
      entry.2 == route.template || route.reserved.contains entry.2

/-- The routes of a table do not overlap, and none overlaps another entry. -/
def checkRoutes (documentedMount : Str) (registry : List (OpenBaoHttpMethod × Str))
    (routes : List DocumentedRoute) : Bool :=
  registry.all (fun entry => (routeForms entry.2).all (·.all Segment.isPlain)) &&
    routes.all fun route =>
      route.wellFormed && route.listed documentedMount && route.separated documentedMount registry

/-- A secret engine: its calls as the client sends them, and what is documented of them. -/
structure SecretEngine where
  Call : Type
  Route : Type
  scopePrefix : Str
  documentedMount : Str
  httpMethod : Call → Method
  path : List Str → Call → Except Error Str
  /-- The registry entries below the scope. -/
  registry : List (OpenBaoHttpMethod × Str)
  routes : List Route
  documentation : Route → DocumentedRoute
  documented : Call → Route × List Argument

variable {text : Str} {mount segments tail : List Str}

theorem pathSegments_append {more : List Str} (h : PathSegments segments)
    (hmore : ∀ segment ∈ more, CanonicalSegment segment) : PathSegments (segments ++ more) where
  nonempty := List.append_ne_nil_of_left_ne_nil h.nonempty _
  segment := fun segment hs => (List.mem_append.mp hs).elim (h.segment segment) (hmore segment)

theorem join_concat {last : Str} (h : segments ≠ []) :
    join '/' (segments ++ [last]) = join '/' segments ++ '/' :: last := by
  induction segments with
  | nil => exact absurd rfl h
  | cons first segments ih =>
    cases segments with
    | nil => simp [join]
    | cons second segments =>
      have hrest := ih (List.cons_ne_nil _ _)
      simp only [join, List.cons_append, List.intercalate_cons_cons] at hrest ⊢
      rw [hrest, List.append_assoc, List.append_assoc, List.append_assoc]

theorem validateEndpointPath_join (hs : PathSegments segments) {result : List Str}
    (h : validateEndpointPath (join '/' segments) = .ok result) : result = segments := by
  have hne : result ≠ [] := by
    rintro rfl
    obtain ⟨-, -, hj, -⟩ := validatePath_eq_ok_iff.mp h
    rw [hs.trimMatches_join] at hj
    exact hs.join_ne_nil hj
  exact ((validateMountPath_join hs).mp (validateMountPath_eq_ok_iff.mpr ⟨h, hne⟩)).1

theorem OneSegment.of_noSlash (hne : text ≠ []) (hs : '/' ∉ text) :
    OneSegment text ∧ trimSlashes text = text := by
  have hslash : ∀ c ∈ text, (c == '/') = false := by
    intro c hc
    rw [beq_eq_false_iff_ne]
    rintro rfl
    exact hs hc
  have htrim : trimSlashes text = text :=
    trimMatches_eq_self (fun c hc => hslash c (List.mem_of_mem_head? hc))
      fun c hc => hslash c (List.mem_of_mem_getLast? hc)
  exact ⟨by rwa [OneSegment, htrim, and_iff_left hs], htrim⟩

theorem OneSegment.validateEndpointPath (h : OneSegment text)
    (hv : validateEndpointPath text = .ok segments) : segments = [trimSlashes text] := by
  obtain ⟨-, -, hj, ⟨rfl, -⟩ | hc⟩ := validatePath_eq_ok_iff.mp hv
  · exact absurd hj h.1
  · have hone : (join '/' [trimSlashes text]).splitOn '/' = [trimSlashes text] :=
      List.splitOn_intercalate '/' (by simpa using h.2) (by simp)
    have htrim : join '/' [trimSlashes text] = trimSlashes text := by simp [join]
    rw [htrim, trimSlashes, hj, hc.splitOn_join] at hone
    rw [trimSlashes, hj]
    exact hone

/-- A validated name of one segment stands for itself in a path. -/
theorem OneSegment.validateMountPath (h : OneSegment text)
    (hv : validateMountPath text = .ok segments) :
    segments = [trimSlashes text] ∧
      PathValidation.validateEndpointPath (trimSlashes text) =
        PathValidation.validateEndpointPath text := by
  have htext := (validateMountPath_eq_ok_iff.mp hv).1
  obtain rfl := h.validateEndpointPath htext
  have hjoin : join '/' [trimSlashes text] = trimSlashes text := by simp [join]
  have htrim := (validateMountPath_eq_ok_iff.mp (validateMountPath_idem hv)).1
  rw [hjoin] at htrim
  exact ⟨rfl, htrim.trans htext.symm⟩

theorem extendSegments_congr {tail' : List Str}
    (h : List.Forall₂ (fun a b => validateEndpointPath a = validateEndpointPath b) tail tail') :
    extendSegments segments tail = extendSegments segments tail' := by
  induction h generalizing segments with
  | nil => rfl
  | cons hab _ ih =>
    rw [extendSegments, extendSegments, hab]
    exact bind_congr fun added => ih

theorem enginePath_congr {tail' : List Str}
    (h : List.Forall₂ (fun a b => validateEndpointPath a = validateEndpointPath b) tail tail') :
    enginePath mount tail = enginePath mount tail' := by
  rw [enginePath, enginePath, extendSegments_congr h]

/-- Each tail entry of one segment adds that segment. -/
theorem extendSegments_eq_ok {result : List Str} (hs : PathSegments segments)
    (htail : ∀ text ∈ tail, OneSegment text) (h : extendSegments segments tail = .ok result) :
    result = segments ++ tail.map trimSlashes ∧ PathSegments result := by
  induction tail generalizing segments with
  | nil =>
    cases h
    exact ⟨by simp, hs⟩
  | cons text tail ih =>
    obtain ⟨added, hadded, h⟩ := bind_eq_ok_iff.mp h
    have hcanonical := (validateEndpointPath_segments hadded).2
    obtain rfl := (htail text List.mem_cons_self).validateEndpointPath hadded
    have hrest := ih (pathSegments_append hs hcanonical)
      (fun other ho => htail other (List.mem_cons_of_mem _ ho)) h
    simpa using hrest

theorem enginePath_eq_ok {p : Str} (hmount : PathSegments mount)
    (htail : ∀ text ∈ tail, OneSegment text) (h : enginePath mount tail = .ok p) :
    p = join '/' (mount ++ tail.map trimSlashes) ∧
      PathSegments (mount ++ tail.map trimSlashes) := by
  unfold enginePath at h
  cases hr : extendSegments mount tail with
  | error e => simp [hr, Except.map] at h
  | ok result =>
    obtain ⟨rfl, hresult⟩ := extendSegments_eq_ok hmount htail hr
    simp only [hr, Except.map, Except.ok.injEq] at h
    exact ⟨h.symm, hresult⟩

theorem reqwestMethod_injective {a b : OpenBaoHttpMethod} {method : Method}
    (ha : reqwestMethod a = .ok method) (hb : reqwestMethod b = .ok method) : a = b := by
  have h := ha.trans hb.symm
  revert h
  cases a <;> cases b <;> simp [reqwestMethod]

theorem secretRegistryPath_eq_ok {documentedMount registryPath : Str}
    (hdocumented : validateMountPath documentedMount = .ok [documentedMount])
    (hactual : validateMountPath (join '/' mount) = .ok mount)
    (hsegments : PathSegments (mount ++ segments))
    (h : secretRegistryPath documentedMount (join '/' mount) (join '/' (mount ++ segments)) =
      .ok registryPath) :
    registryPath = join '/' (markRoot (documentedMount :: segments)) := by
  obtain ⟨documented, hd, h⟩ := bind_eq_ok_iff.mp h
  obtain rfl := Except.ok.inj (hd.symm.trans hdocumented)
  obtain ⟨actual, ha, h⟩ := bind_eq_ok_iff.mp h
  obtain rfl := Except.ok.inj (ha.symm.trans hactual)
  obtain ⟨path, hp, h⟩ := bind_eq_ok_iff.mp h
  obtain rfl := validateEndpointPath_join hsegments hp
  split at h
  · cases h
  · cases h
    rw [List.drop_left]

/-- Behind a first segment that is no root operation the registry path is the path. -/
theorem markRoot_cons {documentedMount first : Str} (h : first ∉ rootOperations) :
    markRoot (documentedMount :: first :: segments) = documentedMount :: first :: segments := by
  cases segments with
  | nil => simp [markRoot, h]
  | cons second segments => rfl

/-- What a resolved endpoint was selected by. -/
theorem resolved_selects {operations : List OpenBaoOperation} {client : Client}
    {ensured : Except Error CompatibilityProbe.OpenBaoCompatibilityReport} {scopePrefix : Str}
    {method : Method} {registryPath : Str} {query : List (Str × Str)} {pluginMount : Option Str}
    {resolved : ResolvedOpenBaoEndpoint}
    (h : resolveRegisteredOpenbaoEndpoint operations client ensured scopePrefix method registryPath
      query pluginMount = .ok resolved) :
    ∃ path, validateEndpointPath registryPath = .ok path ∧
      Selects operations scopePrefix method path query resolved.operation ∧
        resolved.method = method := by
  obtain ⟨path, hpath, h⟩ := bind_eq_ok_iff.mp h
  obtain ⟨report, -, h⟩ := bind_eq_ok_iff.mp h
  split at h
  · cases h
  · split at h
    · cases h
    · obtain ⟨found, hfound, h⟩ := bind_eq_ok_iff.mp h
      obtain ⟨operation, hselect, h⟩ := bind_eq_ok_iff.mp h
      obtain ⟨_, -, h⟩ := bind_eq_ok_iff.mp h
      obtain ⟨sent, hsent, h⟩ := bind_eq_ok_iff.mp h
      cases h
      have hselects := selects_of_eq_ok hfound hselect
      exact ⟨path, hpath, hselects, Except.ok.inj (hsent.symm.trans hselects.sendsMethod)⟩

namespace SecretEngine

variable (engine : SecretEngine)

def route (c : engine.Call) : DocumentedRoute := engine.documentation (engine.documented c).1

def arguments (c : engine.Call) : List Argument := (engine.documented c).2

def values (c : engine.Call) : List Str := (engine.arguments c).map Argument.value

/-- The documented route with the arguments of a call in its placeholders. -/
def filled (c : engine.Call) : List Str := fill (engine.route c).form (engine.values c)

def OneSegmentArguments (c : engine.Call) : Prop :=
  ∀ text, .text text ∈ engine.arguments c → OneSegment text

/-- The operations below the engine's scope are those of its table. -/
def Registers (operations : List OpenBaoOperation) : Prop :=
  ∀ operation ∈ operations, engine.scopePrefix <+: operation.pathTemplate →
    (operation.method, operation.pathTemplate) ∈ engine.registry

/-- The documentation is in order: the table lists every route, and the routes pass the
checks against the registry. -/
structure Documents : Prop where
  mount : validateMountPath engine.documentedMount = .ok [engine.documentedMount]
  complete : ∀ r, r ∈ engine.routes
  checked : checkRoutes engine.documentedMount engine.registry
    (engine.routes.map engine.documentation) = true

/-- What holds of the calls of an engine whose documentation is in order. -/
structure Sound : Prop extends engine.Documents where
  sends : ∀ c, reqwestMethod (engine.route c).method = .ok (engine.httpMethod c)
  arity : ∀ c, (engine.arguments c).length = arity (engine.route c).form
  builds : ∀ c mount p, PathSegments mount → engine.OneSegmentArguments c →
    engine.path mount c = .ok p →
      p = join '/' (mount ++ engine.filled c) ∧ PathSegments (mount ++ engine.filled c)
  distinct : ∀ c c', (engine.route c).method = (engine.route c').method →
    engine.filled c = engine.filled c' → (engine.documented c).1 = (engine.documented c').1

/-- The route of a call is the documented one, with the call's arguments in place. -/
structure Dispatched (mount : List Str) (c : engine.Call) (route : RegisteredOpenBaoRoute) :
    Prop where
  wirePath : route.wirePath = join '/' (mount ++ engine.filled c)
  form : .literal engine.documentedMount :: (engine.route c).form ∈
    routeForms (engine.route c).template
  arity : (engine.values c).length = RouteForms.arity (engine.route c).form
  sends : route.resolved.method = engine.httpMethod c
  method : route.resolved.operation.method = (engine.route c).method
  template : route.resolved.operation.pathTemplate = (engine.route c).template ∨
    route.resolved.operation.pathTemplate ∈ (engine.route c).reserved
  /-- The path also fills the operation that was selected. -/
  selected : ∃ form ∈ routeForms route.resolved.operation.pathTemplate,
    Fills form (engine.documentedMount :: engine.filled c)

variable {engine} {c c' : engine.Call} {p : Str}

theorem Documents.checks (h : engine.Documents) (r : engine.Route) :
    (engine.documentation r).wellFormed = true ∧
      (engine.documentation r).listed engine.documentedMount = true ∧
        (engine.documentation r).separated engine.documentedMount engine.registry = true := by
  have hchecked := h.checked
  rw [checkRoutes, Bool.and_eq_true] at hchecked
  have hr := List.all_eq_true.mp hchecked.2 _ (List.mem_map_of_mem (h.complete r))
  simpa only [Bool.and_eq_true, and_assoc] using hr

theorem Documents.plain (h : engine.Documents) {entry : OpenBaoHttpMethod × Str}
    (hentry : entry ∈ engine.registry) :
    (routeForms entry.2).all (·.all Segment.isPlain) = true := by
  have hchecked := h.checked
  rw [checkRoutes, Bool.and_eq_true] at hchecked
  exact List.all_eq_true.mp hchecked.1 _ hentry

theorem Documents.literals (h : engine.Documents) (r : engine.Route) (text : Str)
    (ht : .literal text ∈ (engine.documentation r).form) : text ≠ [] ∧ '/' ∉ text := by
  have hform := (h.checks r).1
  rw [DocumentedRoute.wellFormed, Bool.and_eq_true] at hform
  simpa using List.all_eq_true.mp hform.2 _ ht

theorem Documents.first (h : engine.Documents) (r : engine.Route) :
    ∃ text rest, (engine.documentation r).form = .literal text :: rest ∧ text ∉ rootOperations := by
  have hform := (h.checks r).1
  rw [DocumentedRoute.wellFormed, Bool.and_eq_true] at hform
  have hhead := hform.1
  split at hhead
  · next text heq =>
    obtain ⟨rest, hrest⟩ := List.head?_eq_some_iff.mp heq
    exact ⟨text, rest, hrest, by simpa using hhead⟩
  · cases hhead

theorem Documents.form (h : engine.Documents) (r : engine.Route) :
    .literal engine.documentedMount :: (engine.documentation r).form ∈
      routeForms (engine.documentation r).template :=
  List.contains_iff_mem.mp (h.checks r).2.1

/-- What else the path of a route can mean is reserved. -/
theorem Documents.separates (h : engine.Documents) (r : engine.Route)
    {entry : OpenBaoHttpMethod × Str} (hentry : entry ∈ engine.registry)
    (hmethod : entry.1 = (engine.documentation r).method) {form : List Segment}
    (hform : form ∈ routeForms entry.2)
    (hoverlap : overlap (.literal engine.documentedMount :: (engine.documentation r).form) form =
      true) :
    entry.2 = (engine.documentation r).template ∨
      entry.2 ∈ (engine.documentation r).reserved := by
  have hsep := List.all_eq_true.mp (h.checks r).2.2 entry hentry
  simp only [Bool.or_eq_true, bne_iff_ne, beq_iff_eq, List.contains_iff_mem] at hsep
  rcases hsep with ((hne | hdisjoint) | htemplate) | hreserved
  · exact absurd hmethod hne
  · have hnone := List.all_eq_true.mp hdisjoint form hform
    rw [hoverlap] at hnone
    cases hnone
  · exact .inl htemplate
  · exact .inr hreserved

/-- A path built of the documented literals and the arguments is the route, filled. -/
theorem Documents.filled_of_enginePath (h : engine.Documents) (hmount : PathSegments mount)
    (hargs : engine.OneSegmentArguments c)
    (hbuilt : enginePath mount (fill (engine.route c).form ((engine.arguments c).map Argument.raw)) =
      .ok p) :
    p = join '/' (mount ++ engine.filled c) ∧ PathSegments (mount ++ engine.filled c) := by
  have hliteral : ∀ text, .literal text ∈ (engine.route c).form →
      OneSegment text ∧ trimSlashes text = text :=
    fun text ht => OneSegment.of_noSlash (h.literals _ text ht).1 (h.literals _ text ht).2
  have hone : ∀ text ∈ fill (engine.route c).form ((engine.arguments c).map Argument.raw),
      OneSegment text := by
    intro text ht
    rcases mem_fill ht with ht | ht
    · exact (hliteral text ht).1
    · obtain ⟨argument, hmem, rfl⟩ := List.mem_map.mp ht
      cases argument with
      | text raw => exact hargs raw hmem
      | choice raw hplain => exact (OneSegment.of_noSlash hplain.1 hplain.2).1
  have hresult := enginePath_eq_ok hmount hone hbuilt
  rw [map_fill fun text ht => (hliteral text ht).2, List.map_map] at hresult
  exact hresult

theorem Sound.arity_values (h : engine.Sound) (c : engine.Call) :
    (engine.values c).length = RouteForms.arity (engine.route c).form := by
  rw [values, List.length_map, h.arity]

theorem fills_filled (hc : (engine.arguments c).length = RouteForms.arity (engine.route c).form) :
    Fills (engine.route c).form (engine.filled c) :=
  fill_fills (by rw [values, List.length_map, hc])

/-- Dispatch selects the documented operation, or one with a literal in an argument's
place. -/
theorem Sound.dispatched (h : engine.Sound) {operations : List OpenBaoOperation}
    (hregisters : engine.Registers operations) {client : Client}
    {ensured : Except Error CompatibilityProbe.OpenBaoCompatibilityReport}
    {query : List (Str × Str)} {route : RegisteredOpenBaoRoute} {mountText : Str}
    (hmount : validateMountPath mountText = .ok mount) (hargs : engine.OneSegmentArguments c)
    (hpath : engine.path mount c = .ok p)
    (hroute : resolveRegisteredOpenbaoRoute operations client ensured (engine.httpMethod c)
      (.secretMount engine.scopePrefix engine.documentedMount (join '/' mount) p) query =
        .ok route) :
    engine.Dispatched mount c route := by
  have hcanonical := (validateMountPath_canonical hmount).toPathSegments
  obtain ⟨rfl, hsegments⟩ := h.builds c mount p hcanonical hargs hpath
  obtain ⟨registryPath, hregistry, hroute⟩ := bind_eq_ok_iff.mp hroute
  obtain ⟨resolved, hresolved, hroute⟩ := bind_eq_ok_iff.mp hroute
  cases hroute
  obtain rfl := secretRegistryPath_eq_ok h.mount (validateMountPath_idem hmount) hsegments hregistry
  obtain ⟨first, rest, hform, hfirst⟩ := h.first (engine.documented c).1
  have hfilled : engine.filled c = first :: fill rest (engine.values c) := by
    rw [filled, route, hform, fill]
  have hregistered : PathSegments (engine.documentedMount :: engine.filled c) := by
    refine ⟨by simp, List.forall_mem_cons.mpr ⟨?_, fun segment hs => ?_⟩⟩
    · exact (validateMountPath_canonical h.mount).segment _ List.mem_cons_self
    · exact hsegments.segment segment (List.mem_append_right _ hs)
  rw [hfilled, markRoot_cons hfirst, ← hfilled] at hresolved
  obtain ⟨_, hvalid, hselects, hmethod⟩ := resolved_selects hresolved
  obtain rfl := validateEndpointPath_join hregistered hvalid
  have hentry := hregisters _ hselects.mem hselects.scope
  have hop : resolved.operation.method = (engine.route c).method :=
    reqwestMethod_injective hselects.sendsMethod (h.sends c)
  obtain ⟨form, hforms, hfills⟩ := exists_fills_of_matches (h.plain hentry) hselects.routeMatches
  have hfill : Fills (.literal engine.documentedMount :: (engine.route c).form)
      (engine.documentedMount :: engine.filled c) :=
    .cons rfl (fills_filled (h.arity c))
  exact
    { wirePath := rfl
      form := h.form _
      arity := h.arity_values c
      sends := hmethod
      method := hop
      template := h.separates _ hentry hop hforms (overlap_of_fills hfill hfills)
      selected := ⟨form, hforms, hfills⟩ }

/-- Calls with the same filled route have overlapping forms. -/
theorem overlap_of_filled_eq
    (hc : (engine.arguments c).length = RouteForms.arity (engine.route c).form)
    (hc' : (engine.arguments c').length = RouteForms.arity (engine.route c').form)
    (h : engine.filled c = engine.filled c') :
    overlap (engine.route c).form (engine.route c').form = true := by
  have hfills := fills_filled hc
  rw [h] at hfills
  exact overlap_of_fills hfills (fills_filled hc')

/-- What a table check establishes of every two routes with one method and overlapping forms,
it establishes of the routes of two calls that look the same. -/
theorem Documents.check_of_filled_eq (h : engine.Documents)
    {check : engine.Route → engine.Route → Bool}
    (hcheck : (engine.routes.all fun r => engine.routes.all fun r' =>
      check r r' || (engine.documentation r).method != (engine.documentation r').method ||
        !overlap (engine.documentation r).form (engine.documentation r').form) = true)
    (hc : (engine.arguments c).length = RouteForms.arity (engine.route c).form)
    (hc' : (engine.arguments c').length = RouteForms.arity (engine.route c').form)
    (hmethod : (engine.route c).method = (engine.route c').method)
    (hfilled : engine.filled c = engine.filled c') :
    check (engine.documented c).1 (engine.documented c').1 = true := by
  have hoverlap := overlap_of_filled_eq hc hc' hfilled
  have hpair := List.all_eq_true.mp (List.all_eq_true.mp hcheck _
    (h.complete (engine.documented c).1)) _ (h.complete (engine.documented c').1)
  unfold route at hmethod hoverlap
  simpa only [hoverlap, hmethod, bne_self_eq_false, Bool.not_true, Bool.or_false] using hpair

/-- The method and the path of a request determine its documented route and arguments. -/
theorem Sound.determined (h : engine.Sound) (hmount : PathSegments mount)
    (hargs : engine.OneSegmentArguments c) (hargs' : engine.OneSegmentArguments c')
    (hmethod : engine.httpMethod c = engine.httpMethod c')
    (hpath : engine.path mount c = .ok p) (hpath' : engine.path mount c' = .ok p) :
    (engine.documented c).1 = (engine.documented c').1 ∧ engine.values c = engine.values c' := by
  obtain ⟨rfl, hsegments⟩ := h.builds c mount p hmount hargs hpath
  obtain ⟨hjoin, hsegments'⟩ := h.builds c' mount _ hmount hargs' hpath'
  have hfilled : engine.filled c = engine.filled c' := by
    have hsplit := congrArg (List.splitOn '/') hjoin
    rw [hsegments.splitOn_join, hsegments'.splitOn_join] at hsplit
    exact List.append_cancel_left hsplit
  have hroute := h.distinct c c'
    (reqwestMethod_injective (h.sends c) (hmethod ▸ h.sends c')) hfilled
  refine ⟨hroute, ?_⟩
  have hsame : engine.route c = engine.route c' := by rw [route, hroute, route]
  rw [filled, filled, ← hsame] at hfilled
  exact fill_injective (h.arity_values c) (hsame ▸ h.arity_values c') hfilled

end SecretEngine

end OpenBao.SecretRoutes
