import OpenBao.PkiRoutes
import OpenBao.TransitRoutes

/-!
# From arguments to routes

What the Transit and PKI calls with arguments of one segment send, against the generated
registry.
-/

namespace OpenBao.RouteIntegrity
open CompatibilityPolicy CompatibilityProbe PathValidation PkiRoutes RegisteredRoutes RouteForms
open SecretRoutes TransitRoutes Utf8Text

/-- A call that passes its local checks is dispatched as documented, and its method and
path tell its documented route and its arguments. -/
structure KeepsArguments (engine : SecretEngine) (operations : List OpenBaoOperation) : Prop where
  dispatched : ∀ {mountText : Str} {mount : List Str} {c : engine.Call} {p : Str} {client : Client}
    {ensured : Except Error OpenBaoCompatibilityReport} {query : List (Str × Str)}
    {route : RegisteredOpenBaoRoute},
    validateMountPath mountText = .ok mount → engine.OneSegmentArguments c →
    engine.path mount c = .ok p →
    resolveRegisteredOpenbaoRoute operations client ensured (engine.httpMethod c)
        (.secretMount engine.scopePrefix engine.documentedMount (join '/' mount) p) query =
      .ok route →
    engine.Dispatched mount c route
  determined : ∀ {mountText : Str} {mount : List Str} {c c' : engine.Call} {p : Str},
    validateMountPath mountText = .ok mount → engine.OneSegmentArguments c →
    engine.OneSegmentArguments c' → engine.httpMethod c = engine.httpMethod c' →
    engine.path mount c = .ok p → engine.path mount c' = .ok p →
    (engine.documented c).1 = (engine.documented c').1 ∧ engine.values c = engine.values c'

theorem keepsArguments_of_sound {engine : SecretEngine} {operations : List OpenBaoOperation}
    (h : engine.Sound) (hregisters : engine.Registers operations) :
    KeepsArguments engine operations where
  dispatched hmount hargs hpath hroute := h.dispatched hregisters hmount hargs hpath hroute
  determined hmount hargs hargs' hmethod hpath hpath' :=
    h.determined (validateMountPath_canonical hmount).toPathSegments hargs hargs' hmethod hpath hpath'

/-- The Transit and PKI handles keep their arguments in place. -/
theorem secretEngines_keepArguments {operations : List OpenBaoOperation}
    (htransit : transit.Registers operations) (hpki : pki.Registers operations) :
    KeepsArguments transit operations ∧ KeepsArguments pki operations :=
  ⟨keepsArguments_of_sound transit_sound htransit, keepsArguments_of_sound pki_sound hpki⟩

/-- The registry entry that rotates a key. -/
def rotateKey : OpenBaoOperation where
  id := "openbao.post.transit.keys.name.rotate.6ad8bb5e8f6c3361"
  method := .post
  pathTemplate := "/transit/keys/:name/rotate".toList
  disposition := .typed
  ranges :=
    [⟨⟨2, 0, 0⟩, ⟨2, 6, 3⟩, .taggedDocumentation, false⟩,
      ⟨⟨2, 6, 4⟩, ⟨2, 6, 4⟩, .taggedDocumentation, false⟩,
      ⟨⟨2, 6, 5⟩, ⟨2, 6, 5⟩, .taggedDocumentation, false⟩,
      ⟨⟨2, 7, 0⟩, ⟨2, 7, 0⟩, .taggedDocumentation, false⟩,
      ⟨⟨2, 7, 1⟩, ⟨2, 7, 1⟩, .taggedDocumentation, false⟩,
      ⟨⟨2, 7, 2⟩, ⟨2, 7, 2⟩, .taggedDocumentation, false⟩]

def strictClient : Client := ⟨some .automaticStrict, []⟩

theorem rotateKey_dispatched :
    (KeepsArguments transit [rotateKey] ∧ KeepsArguments pki [rotateKey]) ∧
      transit.Dispatched ["team".toList, "crypto".toList] (.rotateKey "/signing/".toList)
        ⟨⟨rotateKey.id, rotateKey, "POST"⟩, "team/crypto/keys/signing/rotate".toList⟩ := by
  have htransit : transit.Registers [rotateKey] := by
    intro operation hmem _
    obtain rfl := List.mem_singleton.mp hmem
    decide +kernel
  have hpki : pki.Registers [rotateKey] := by
    intro operation hmem hscope
    obtain rfl := List.mem_singleton.mp hmem
    exact absurd hscope (by decide +kernel)
  have hkeeps := secretEngines_keepArguments htransit hpki
  have hroute : resolveRegisteredOpenbaoRoute [rotateKey] strictClient
      (ensureCompatibility strictClient (.response 200 (.value "2.7.2".toList))) "POST"
      (.secretMount "/transit/".toList "transit".toList "team/crypto".toList
        "team/crypto/keys/signing/rotate".toList) [] =
        .ok ⟨⟨rotateKey.id, rotateKey, "POST"⟩, "team/crypto/keys/signing/rotate".toList⟩ := by
    decide +kernel
  have hmount : validateMountPath "team/crypto".toList = .ok ["team".toList, "crypto".toList] := by
    decide +kernel
  refine ⟨hkeeps, hkeeps.1.dispatched hmount ?_ ?_ hroute⟩
  · intro text ht
    change Argument.text text ∈ [Argument.text "/signing/".toList] at ht
    obtain rfl := Argument.text.inj (List.mem_singleton.mp ht)
    exact ⟨by decide +kernel, by decide +kernel⟩
  · decide +kernel

/-- `encrypt` and `batch_encrypt` share their route; a key name with a slash reaches the
route of another method, and an empty role leaves the optional group of its route out. -/
theorem calls_share_paths :
    (TransitCall.encrypt "a".toList ≠ .batchEncrypt "a".toList ∧
      (TransitCall.encrypt "a".toList).httpMethod = (TransitCall.batchEncrypt "a".toList).httpMethod ∧
      (TransitCall.encrypt "a".toList).path ["transit".toList] = .ok "transit/encrypt/a".toList ∧
      (TransitCall.batchEncrypt "a".toList).path ["transit".toList] =
        .ok "transit/encrypt/a".toList) ∧
    ((TransitCall.createKey "a/rotate".toList).httpMethod =
        (TransitCall.rotateKey "a".toList).httpMethod ∧
      (TransitCall.createKey "a/rotate".toList).path ["transit".toList] =
        .ok "transit/keys/a/rotate".toList ∧
      (TransitCall.rotateKey "a".toList).path ["transit".toList] =
        .ok "transit/keys/a/rotate".toList) ∧
    ((PkiCall.signVerbatimAtRole []).httpMethod = PkiCall.signVerbatim.httpMethod ∧
      (PkiCall.signVerbatimAtRole []).path ["pki".toList] = .ok "pki/sign-verbatim".toList ∧
      PkiCall.signVerbatim.path ["pki".toList] = .ok "pki/sign-verbatim".toList) := by
  decide +kernel

end OpenBao.RouteIntegrity
