import OpenBao.ClientErrors
import OpenBao.JsonTrees

/-!
# Consistency indices

The index that a server names in the header `X-Vault-Index`: base64 of a JSON envelope with
the cluster and an opaque value.
-/

namespace OpenBao.ConsistencyIndices
open JsonTrees Utf8Text

/-! Header values. -/

/-- The bytes that `HeaderValue::to_str` accepts. -/
def isVisibleAscii (byte : UInt8) : Bool := 0x20 ≤ byte && byte < 0x7f || byte == 0x09

/-- The bytes of a header value. -/
def isHeaderByte (byte : UInt8) : Bool := 0x20 ≤ byte && byte != 0x7f || byte == 0x09

/-- `HeaderValue::from_str`. -/
def headerValueFromStr (bytes : Bytes) : Option Bytes :=
  if bytes.all isHeaderByte then some bytes else none

def maxIndexHeaderBytes : ℕ := 4096

def isGraphic (byte : UInt8) : Bool := 0x21 ≤ byte && byte ≤ 0x7e

/-- Non-empty text of at most `limit` graphic bytes. -/
def isBoundedText (limit : ℕ) (value : Str) : Bool :=
  value ≠ [] && byteLen value ≤ limit && (asBytes value).all isGraphic

def invalidIndex : Error := .decode "invalid OpenBao consistency index"

/-- The decoders that the client uses: standard base64 in constant time, and JSON. -/
structure Codec (N : Type) where
  decodeSecret : Bytes → Option Bytes
  parse : Parser N

variable {N : Type} (codec : Codec N)

structure IndexPayload where
  cluster : Str
  value : Str
  deriving DecidableEq, Repr

def payloadFields : List Str := ["cluster".toList, "value".toList]

/-- The derived decoder. It refuses unknown fields. -/
def decodePayload (j : Json Span N) : Option IndexPayload := do
  if j.keys.any fun key => !payloadFields.contains key then none
  else
    match ← j.structFields payloadFields with
    | [.string _ cluster, .string _ value] => return ⟨cluster, value⟩
    | _ => none

def decodeEnvelope (wire : Bytes) : Option IndexPayload := do
  if wire = [] ∨ maxIndexHeaderBytes < wire.length then none
  else do
    let decoded ← codec.decodeSecret wire
    let payload ← decodePayload (← codec.parse decoded)
    if isBoundedText 256 payload.cluster && isBoundedText 2048 payload.value then some payload
    else none

/-- An index keeps its text, and the cluster that the text names. -/
structure ConsistencyIndex where
  encoded : Bytes
  cluster : Str
  decodes : (decodeEnvelope codec encoded).map IndexPayload.cluster = some cluster

namespace ConsistencyIndex

def fromEncoded (encoded : Bytes) : Except Error (ConsistencyIndex codec) :=
  match h : (decodeEnvelope codec encoded).map IndexPayload.cluster with
  | none => .error invalidIndex
  | some cluster => .ok ⟨encoded, cluster, h⟩

/-- The values of the header `X-Vault-Index`, in order. -/
def fromHeaders (values : List Bytes) : Except Error (Option (ConsistencyIndex codec)) :=
  match values with
  | [] => .ok none
  | value :: others =>
    if others ≠ [] ∨ maxIndexHeaderBytes < value.length then .error invalidIndex
    else if !value.all isVisibleAscii then .error invalidIndex
    else (fromEncoded codec value).map some

variable {codec}

def matchesCluster (index : ConsistencyIndex codec) (expected : Str) : Bool :=
  index.cluster == expected

def toHeaderValue (index : ConsistencyIndex codec) : Except Error Bytes :=
  match headerValueFromStr index.encoded with
  | some value => .ok value
  | none => .error invalidIndex

theorem fromEncoded_encoded {encoded : Bytes} {index : ConsistencyIndex codec}
    (h : fromEncoded codec encoded = .ok index) : index.encoded = encoded := by
  unfold fromEncoded at h
  split at h
  · cases h
  · cases h
    rfl

theorem fromEncoded_of_decodes {encoded : Bytes} {cluster : Str}
    (h : (decodeEnvelope codec encoded).map IndexPayload.cluster = some cluster) :
    fromEncoded codec encoded = .ok ⟨encoded, cluster, h⟩ := by
  unfold fromEncoded
  split
  · next hnone =>
    rw [h] at hnone
    cases hnone
  · next found hfound =>
    rw [h] at hfound
    obtain rfl := Option.some.inj hfound
    rfl

theorem toHeaderValue_eq_ok {index : ConsistencyIndex codec} {value : Bytes}
    (h : index.toHeaderValue = .ok value) : value = index.encoded := by
  unfold toHeaderValue headerValueFromStr at h
  split at h
  · next hv =>
    split at hv
    · cases hv
      cases h
      rfl
    · cases hv
  · cases h

/-- Headers give no index where there is none, and an index only where it stands alone. -/
theorem fromHeaders_eq_ok {values : List Bytes} {result : Option (ConsistencyIndex codec)}
    (h : fromHeaders codec values = .ok result) :
    (values = [] ∧ result = none) ∨ ∃ value index,
      values = [value] ∧ result = some index ∧ fromEncoded codec value = .ok index := by
  unfold fromHeaders at h
  split at h
  · cases h
    exact .inl ⟨rfl, rfl⟩
  · next value others =>
    split at h
    · cases h
    · next hone =>
      split at h
      · cases h
      · have hothers : others = [] := by
          by_contra hne
          exact hone (.inl hne)
        subst hothers
        cases he : fromEncoded codec value with
        | error e => simp [he, Except.map] at h
        | ok index =>
          simp only [he, Except.map, Except.ok.injEq] at h
          exact .inr ⟨value, index, rfl, h.symm, he⟩

end ConsistencyIndex

inductive ConsistencyFallback where
  | fail | forwardActiveNode
  deriving DecidableEq, Repr

inductive ConsistencyPolicy where
  | fail
  | forwardActiveNode
  | awaitState (fallback : ConsistencyFallback)
  deriving DecidableEq, Repr

def ConsistencyPolicy.headerValues : ConsistencyPolicy → List String
  | fail => ["fail"]
  | forwardActiveNode => ["forward-active-node"]
  | awaitState .fail => ["await-state", "fail"]
  | awaitState .forwardActiveNode => ["await-state", "forward-active-node"]

end OpenBao.ConsistencyIndices
