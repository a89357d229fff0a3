import OpenBao.ClientErrors
import OpenBao.JsonTrees

/-!
# The review of a control-group request

A review body is read twice. `validate` walks the whole text under one countdown of
values, and only then the derived decoder takes the fields and keeps two of them as
they stand in the body. The reading of JSON itself is a parameter.
-/

namespace OpenBao.ControlGroupReview
open Utf8Text JsonTrees

def maxBytes : ℕ := 512 * 1024
def maxDepth : ℕ := 16
def maxNodes : ℕ := 4096
def maxItems : ℕ := 256
def maxString : ℕ := 64 * 1024

def invalid : Error := .decode "invalid or oversized control-group review response"

/-- Why `validate` refuses a text: the parser does, or the walk with its message. The walk
runs while the text is read, so of two reasons the earlier one in the text is reported;
whether there is one does not depend on that. -/
inductive JsonError where
  | unparsed
  | custom (message : String)
  deriving DecidableEq, Repr

/-- The part of `visit_map` between a name and its value. -/
def admitKey (_ : ℕ) (seen : List Str) (key : Str) : Except String Unit :=
  if maxString < byteLen key then .error "control-group key limit"
  else if key ∈ seen then .error "duplicate control-group key"
  else .ok ()

/-- The limits of `Check`. -/
def check : Limits where
  nesting := maxDepth
  items := some maxItems
  members := fun _ => maxItems
  stringBytes := maxString
  admitKey := admitKey
  nodeText := "control-group node limit"
  nestingText := "control-group depth limit"
  stringText := "control-group string limit"
  arrayText := "control-group array or node limit"
  objectText := "control-group object or node limit"

section

variable {N : Type} (parse : Parser N)

def validate (bytes : Bytes) : Except JsonError Unit :=
  match parse bytes with
  | none => .error .unparsed
  | some document =>
    match check.walk 0 maxNodes document with
    | .error message => .error (.custom message)
    | .ok _ => .ok ()

structure ControlGroupAuthorization where
  entityId : Str
  entityName : Str
  deriving DecidableEq, Repr

structure ControlGroupRequest where
  approved : Bool
  requestOperation : Str
  requestPath : Str
  requestData : Bytes
  requestEntity : Bytes
  authorizations : List ControlGroupAuthorization
  deriving DecidableEq, Repr

def decodeBool : Json Span N → Option Bool
  | .bool _ value => some value
  | _ => none

def decodeString : Json Span N → Option Str
  | .string _ text => some text
  | _ => none

def authorizationFields : List Str := ["entity_id".toList, "entity_name".toList]

def decodeAuthorization (j : Json Span N) : Option ControlGroupAuthorization := do
  match ← j.structFields authorizationFields with
  | [entityId, entityName] => return ⟨← decodeString entityId, ← decodeString entityName⟩
  | _ => none

def decodeAuthorizations : Json Span N → Option (List ControlGroupAuthorization)
  | .array _ items => items.mapM decodeAuthorization
  | _ => none

def envelopeFields : List Str := ["data".toList]

def reviewFields : List Str :=
  ["approved".toList, "request_operation".toList, "request_path".toList, "request_data".toList,
    "request_entity".toList, "authorizations".toList]

/-- The derived decoder of `Review`. A raw field is its slice of the body. -/
def decodeReview (body : Bytes) (j : Json Span N) : Option ControlGroupRequest := do
  match ← j.structFields reviewFields with
  | [approved, requestOperation, requestPath, requestData, requestEntity, authorizations] =>
    return ⟨← decodeBool approved, ← decodeString requestOperation, ← decodeString requestPath,
      requestData.span.slice body, requestEntity.span.slice body,
      ← decodeAuthorizations authorizations⟩
  | _ => none

/-- The derived decoder of `Envelope`. -/
def decodeEnvelope (body : Bytes) (j : Json Span N) : Option ControlGroupRequest := do
  match ← j.structFields envelopeFields with
  | [data] => decodeReview body data
  | _ => none

def startsWithBrace (raw : Bytes) : Bool := raw.head? == some 0x7b

def fromEnvelope (body : Bytes) : Except Error ControlGroupRequest :=
  if maxBytes < body.length then .error invalid
  else
    match validate parse body with
    | .error _ => .error invalid
    | .ok () =>
      match (parse body).bind (decodeEnvelope body) with
      | none => .error invalid
      | some data =>
        if !(startsWithBrace data.requestData || data.requestData == asBytes "null".toList) ||
            !startsWithBrace data.requestEntity then
          .error invalid
        else .ok data

/-- The bounds that the documentation of the request type states for its body. -/
structure WithinLimits (document : Json Span N) : Prop where
  nesting : ∀ p ∈ document.valuesAt 0, p.2.IsContainer → p.1 + 1 ≤ maxDepth
  values : (document.valuesAt 0).length ≤ maxNodes
  sizes : ∀ p ∈ document.valuesAt 0, p.2.size ≤ maxItems
  texts : ∀ p ∈ document.valuesAt 0, ∀ text ∈ p.2.texts, byteLen text ≤ maxString
  keys : ∀ p ∈ document.valuesAt 0, p.2.keys.Nodup

theorem keysAdmitted_iff {depth : ℕ} {keys : List Str} :
    check.KeysAdmitted depth [] keys ↔ (∀ key ∈ keys, byteLen key ≤ maxString) ∧ keys.Nodup := by
  have h : ∀ seen key, check.admitKey depth seen key = .ok () ↔ byteLen key ≤ maxString ∧
      (false = true → seen.countP (fun _ => false) < 0) ∧ key ∉ seen := by
    intro seen key
    simp only [check, admitKey]
    split_ifs <;> simp <;> grind
  rw [check.keysAdmitted_iff h (by simp)]
  simp

theorem admitted_iff {depth : ℕ} {j : Json Span N} :
    check.Admitted depth j ↔ (j.IsContainer → depth + 1 ≤ maxDepth) ∧ j.size ≤ maxItems ∧
      (∀ text ∈ j.texts, byteLen text ≤ maxString) ∧ j.keys.Nodup := by
  cases j with
  | null | bool | number => simp [Limits.Admitted, Json.IsContainer, Json.size, Json.texts, Json.keys]
  | string s text =>
    simp [Limits.Admitted, Json.IsContainer, Json.size, Json.texts, Json.keys, check]
  | array s items =>
    simp only [Limits.Admitted, Json.IsContainer, Json.size, Json.texts, Json.keys, check,
      Nat.succ_le_iff, true_implies, List.not_mem_nil, false_implies, implies_true, List.nodup_nil,
      and_true, Option.mem_some_iff, forall_eq']
  | object s members =>
    rw [Limits.Admitted, keysAdmitted_iff]
    simp only [Json.IsContainer, Json.size, Json.texts, Json.keys, check, Nat.succ_le_iff,
      true_implies]

theorem walk_check_iff {document : Json Span N} :
    (∃ rest, check.walk 0 maxNodes document = .ok rest) ↔ WithinLimits document := by
  simp only [check.walk_eq_ok_iff document 0 maxNodes, admitted_iff]
  constructor
  · rintro ⟨rest, hadmitted, hlength⟩
    exact ⟨fun p hp => (hadmitted p hp).1, by omega, fun p hp => (hadmitted p hp).2.1,
      fun p hp => (hadmitted p hp).2.2.1, fun p hp => (hadmitted p hp).2.2.2⟩
  · intro h
    refine ⟨maxNodes - (document.valuesAt 0).length, fun p hp => ?_, ?_⟩
    · exact ⟨h.nesting p hp, h.sizes p hp, h.texts p hp, h.keys p hp⟩
    · have := h.values
      omega

variable {parse}

theorem validate_eq_ok_iff {bytes : Bytes} :
    validate parse bytes = .ok () ↔ ∃ document, parse bytes = some document ∧ WithinLimits document := by
  rw [validate]
  cases hparse : parse bytes with
  | none => simp
  | some document =>
    simp only [Option.some.injEq, exists_eq_left', ← walk_check_iff]
    cases check.walk 0 maxNodes document <;> simp

/-- The decoder keeps the two raw fields as slices of the body. -/
theorem decodeReview_raw {body : Bytes} {j : Json Span N} {request : ControlGroupRequest}
    (h : decodeReview body j = some request) : ∃ requestData requestEntity,
      Json.IsField reviewFields "request_data".toList requestData j ∧
      Json.IsField reviewFields "request_entity".toList requestEntity j ∧
      request.requestData = requestData.span.slice body ∧
      request.requestEntity = requestEntity.span.slice body := by
  simp only [decodeReview, Option.bind_eq_bind, Option.bind_eq_some_iff] at h
  obtain ⟨fields, hfields, h⟩ := h
  split at h
  · next approved operation path data entity authorizations =>
    refine ⟨data, entity, ?_, ?_, ?_⟩
    · exact Json.isField_of_structFields hfields (i := 3) rfl rfl
    · exact Json.isField_of_structFields hfields (i := 4) rfl rfl
    · simp only [Option.bind_eq_some_iff, Option.pure_def, Option.some.injEq] at h
      obtain ⟨_, -, _, -, _, -, _, -, rfl⟩ := h
      exact ⟨rfl, rfl⟩
  · cases h

theorem decodeEnvelope_data {body : Bytes} {j : Json Span N} {request : ControlGroupRequest}
    (h : decodeEnvelope body j = some request) : ∃ data,
      Json.IsField envelopeFields "data".toList data j ∧ decodeReview body data = some request := by
  simp only [decodeEnvelope, Option.bind_eq_bind, Option.bind_eq_some_iff] at h
  obtain ⟨fields, hfields, h⟩ := h
  split at h
  · next data => exact ⟨data, Json.isField_of_structFields hfields (i := 0) rfl rfl, h⟩
  · cases h

/-- What an accepted body has passed. -/
theorem fromEnvelope_eq_ok_iff {body : Bytes} {request : ControlGroupRequest} :
    fromEnvelope parse body = .ok request ↔ body.length ≤ maxBytes ∧ validate parse body = .ok () ∧
      (parse body).bind (decodeEnvelope body) = some request ∧
      (startsWithBrace request.requestData = true ∨ request.requestData = asBytes "null".toList) ∧
      startsWithBrace request.requestEntity = true := by
  rw [fromEnvelope]
  by_cases hlength : maxBytes < body.length
  · have hle : ¬ body.length ≤ maxBytes := by omega
    simp [hlength, hle]
  · have hle : body.length ≤ maxBytes := by omega
    cases hvalid : validate parse body with
    | error e => simp [hlength]
    | ok u =>
      cases hdata : (parse body).bind (decodeEnvelope body) with
      | none => simp [hlength]
      | some data =>
        simp only [hlength, if_false, hle, true_and, Option.some.injEq]
        grind

/-- `validate` accepts exactly the texts within the limits, and what `fromEnvelope` accepts
is within them and keeps the payload and the entity byte for byte. -/
theorem controlGroupReview_exact (parse : Parser N) (bytes : Bytes) :
    (validate parse bytes = .ok () ↔
      ∃ document, parse bytes = some document ∧ WithinLimits document) ∧
    ∀ request, bytes.length ≤ maxBytes → fromEnvelope parse bytes = .ok request →
      validate parse bytes = .ok () ∧
      ∃ document data requestData requestEntity, parse bytes = some document ∧
        Json.IsField envelopeFields "data".toList data document ∧
        Json.IsField reviewFields "request_data".toList requestData data ∧
        Json.IsField reviewFields "request_entity".toList requestEntity data ∧
        request.requestData = requestData.span.slice bytes ∧
        request.requestEntity = requestEntity.span.slice bytes := by
  refine ⟨validate_eq_ok_iff, fun request _ h => ?_⟩
  obtain ⟨-, hvalid, hdecoded, -⟩ := fromEnvelope_eq_ok_iff.mp h
  obtain ⟨document, hparse, henvelope⟩ := Option.bind_eq_some_iff.mp hdecoded
  obtain ⟨data, hdata, hreview⟩ := decodeEnvelope_data henvelope
  obtain ⟨requestData, requestEntity, hd, he, hfields⟩ := decodeReview_raw hreview
  exact ⟨hvalid, document, data, requestData, requestEntity, hparse, hdata, hd, he, hfields⟩

end

/-! A review of a read, and what the library reads in its text. -/

def readBody : Bytes :=
  asBytes ("\x7b\"data\":\x7b\"approved\":true,\"request_operation\":\"read\",".toList ++
    "\"request_path\":\"p\",\"request_data\": \x7b\"a\":1\x7d,\"request_entity\":".toList ++
    "\x7b\x7d,\"authorizations\":[]\x7d\x7d".toList)

def readDocument : Json Span ℕ :=
  .object ⟨0, 136⟩ [("data".toList, .object ⟨8, 135⟩ [
    ("approved".toList, .bool ⟨20, 24⟩ true),
    ("request_operation".toList, .string ⟨45, 51⟩ "read".toList),
    ("request_path".toList, .string ⟨67, 70⟩ "p".toList),
    ("request_data".toList, .object ⟨87, 94⟩ [("a".toList, .number ⟨92, 93⟩ 1)]),
    ("request_entity".toList, .object ⟨112, 114⟩ []),
    ("authorizations".toList, .array ⟨132, 134⟩ [])])]

def readRequest : ControlGroupRequest :=
  ⟨true, "read".toList, "p".toList, asBytes "\x7b\"a\":1\x7d".toList, asBytes "\x7b\x7d".toList, []⟩

theorem fromEnvelope_readBody : fromEnvelope (fun _ => some readDocument) readBody =
    .ok readRequest := by
  decide +kernel

theorem controlGroupReview_exact_read :
    validate (fun _ => some readDocument) readBody = .ok () ∧ ∃ data requestData,
      Json.IsField envelopeFields "data".toList data readDocument ∧
        Json.IsField reviewFields "request_data".toList requestData data ∧
        readRequest.requestData = requestData.span.slice readBody := by
  have hexact := (controlGroupReview_exact (fun _ => some readDocument) readBody).2
  obtain ⟨hvalid, _, data, requestData, -, ⟨⟩, henvelope, hreview, -, hdata, -⟩ :=
    hexact readRequest (by decide +kernel) fromEnvelope_readBody
  exact ⟨hvalid, data, requestData, henvelope, hreview, hdata⟩

end OpenBao.ControlGroupReview
