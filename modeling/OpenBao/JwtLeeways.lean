import OpenBao.BoundedJsonValues
import OpenBao.CidrValues
import OpenBao.DurationText

/-!
# Leeways of JWT roles

A leeway is a number of seconds, a duration or the variant that disables a check of the token's
times. The variant and the duration share one form on the wire, and roles accept both.
-/

namespace OpenBao.JwtLeeways
open BoundedJsonValues CidrValues DurationText Utf8Text

inductive JwtLeeway where
  | seconds (seconds : UInt64)
  | duration (duration : Str)
  | disableTimeValidation
  deriving DecidableEq

def serialize : JwtLeeway → JsonValue
  | .seconds seconds => .number (.posInt seconds)
  | .duration duration => .string duration
  | .disableTimeValidation => .string "-1".toList

/-! The visitor. -/

inductive DecodeError where
  | custom (message : String)
  | invalidType (expected : String)
  deriving DecidableEq

def expecting : String := "a JWT leeway duration, integer seconds, or explicit -1 disable value"

def visitU64 (value : UInt64) : JwtLeeway := .seconds value

def visitI64 (value : Int64) : Except DecodeError JwtLeeway :=
  if value = -1 then .ok .disableTimeValidation
  else if value < 0 then .error (.custom "JWT leeway must be non-negative or exactly -1")
  else .ok (.seconds value.toUInt64)

/-- `visit_str` and `visit_string`. -/
def visitStr (value : Str) : JwtLeeway :=
  if value = "-1".toList then .disableTimeValidation else .duration value

def deserialize : JsonValue → Except DecodeError JwtLeeway
  | .number (.posInt value) => .ok (visitU64 value)
  | .number (.negInt value _) => visitI64 value
  | .string text => .ok (visitStr text)
  | _ => .error (.invalidType expecting)

/-- The fields of a role that its validation reads, and the leeways. -/
structure JwtRole where
  clockSkewLeeway : Option JwtLeeway := none
  expirationLeeway : Option JwtLeeway := none
  notBeforeLeeway : Option JwtLeeway := none
  callbackMode : Option Str := none
  maxAge : Option Str := none
  tokenBoundCidrs : List Str := []

namespace JwtRole

def validateMaxAge (role : JwtRole) : Except Error Unit :=
  match role.maxAge with
  | some maxAge => validateDurationParameter maxAge "jwt auth max_age"
  | none => .ok ()

def validateCallbackMode (role : JwtRole) : Except Error Unit :=
  if role.callbackMode.any
      (· ∉ ["client".toList, "direct".toList, "device".toList]) then
    .error (.invalidParameter "jwt auth callback_mode must be client, direct, or device")
  else .ok ()

/-- `none` is a panic. -/
def validate (role : JwtRole) : Option (Except Error Unit) :=
  match role.validateMaxAge.bind fun _ => role.validateCallbackMode with
  | .error e => some (.error e)
  | .ok () => validateCidrList "jwt auth token_bound_cidrs" role.tokenBoundCidrs

def leeways (role : JwtRole) : List (Option JwtLeeway) :=
  [role.clockSkewLeeway, role.expirationLeeway, role.notBeforeLeeway]

end JwtRole

/-- The check that the CEL roles make of each leeway. -/
def validateCelLeeway (leeway : Option JwtLeeway) : Except Error Unit :=
  match leeway with
  | some (.duration duration) => validateDurationParameter duration "JWT CEL leeway"
  | _ => .ok ()

/-! ## What the server disables -/

-- How the server reads a text as a duration of signed seconds.
variable {readDuration : Str → Option ℤ} {leeway : Option JwtLeeway} {v : JwtLeeway} {text : Str}

/-- The server reads the text as no check. -/
def NegativeText (readDuration : Str → Option ℤ) (text : Str) : Prop :=
  text = "-1".toList ∨ ∃ seconds, readDuration text = some seconds ∧ seconds < 0

/-- The server reads the value as no check. -/
def Disables (readDuration : Str → Option ℤ) : JsonValue → Prop
  | .number (.negInt _ _) => True
  | .string text => NegativeText readDuration text
  | _ => False

theorem disables_serialize_iff : Disables readDuration (serialize v) ↔
    v = .disableTimeValidation ∨ ∃ text, v = .duration text ∧ NegativeText readDuration text := by
  cases v with
  | seconds seconds => simp [serialize, Disables]
  | duration duration => simp [serialize, Disables]
  | disableTimeValidation => simp [serialize, Disables, NegativeText]

/-- Every leeway is read back, except the duration that has the text of the variant. -/
theorem deserialize_serialize_iff :
    deserialize (serialize v) = .ok v ↔ v ≠ .duration "-1".toList := by
  cases v with
  | seconds seconds => simp [serialize, deserialize, visitU64]
  | duration duration =>
    by_cases h : duration = "-1".toList <;> simp [serialize, deserialize, visitStr, h]
  | disableTimeValidation => simp [serialize, deserialize, visitStr]

/-- What was read is written so that it is read again. -/
theorem deserialize_serialize_of_deserialize {value : JsonValue}
    (h : deserialize value = .ok v) : deserialize (serialize v) = .ok v := by
  rw [deserialize_serialize_iff]
  rintro rfl
  unfold deserialize at h
  split at h
  · cases h
  · unfold visitI64 at h
    split_ifs at h
    cases h
  · next text =>
    have hread := Except.ok.inj h
    unfold visitStr at hread
    split_ifs at hread with htext
    exact htext (JwtLeeway.duration.inj hread)
  · cases h

/-- With the check of the CEL roles every leeway is read back. -/
theorem deserialize_serialize_of_validateCelLeeway (h : validateCelLeeway (some v) = .ok ()) :
    deserialize (serialize v) = .ok v := by
  rw [deserialize_serialize_iff]
  rintro rfl
  have haccepted := validateDurationParameter_eq_ok_iff.mp h
  revert haccepted
  decide +kernel

/-- A field disables its check by the named variant alone, and is read back as it was. -/
structure NamedOnly (readDuration : Str → Option ℤ) (leeway : Option JwtLeeway) : Prop where
  disables : (∃ v, leeway = some v ∧ Disables readDuration (serialize v)) ↔
    leeway = some .disableTimeValidation
  read : ∀ v, leeway = some v → deserialize (serialize v) = .ok v

theorem namedOnly_iff : NamedOnly readDuration leeway ↔
    ∀ text, leeway = some (.duration text) → ¬ NegativeText readDuration text := by
  constructor
  · rintro h text rfl hnegative
    have hname := h.disables.mp ⟨_, rfl, disables_serialize_iff.mpr (.inr ⟨text, rfl, hnegative⟩)⟩
    cases hname
  · intro h
    constructor
    · constructor
      · rintro ⟨v, rfl, hdisables⟩
        rcases disables_serialize_iff.mp hdisables with rfl | ⟨text, rfl, hnegative⟩
        · rfl
        · exact absurd hnegative (h text rfl)
      · rintro rfl
        exact ⟨_, rfl, disables_serialize_iff.mpr (.inl rfl)⟩
    · rintro v rfl
      rw [deserialize_serialize_iff]
      rintro rfl
      exact h _ rfl (.inl rfl)

/-- The leeways have no part in the verdict. -/
theorem validate_leeways (role : JwtRole) (clockSkew expiration notBefore : Option JwtLeeway) :
    JwtRole.validate { role with
      clockSkewLeeway := clockSkew, expirationLeeway := expiration, notBeforeLeeway := notBefore } =
    role.validate := rfl

/-- In an accepted role the checks are disabled by the named variant alone exactly where no
duration is a text that disables them. -/
theorem accepted_namedOnly_iff {role : JwtRole} (_haccepted : role.validate = some (.ok ()))
    (readDuration : Str → Option ℤ) :
    (∀ leeway ∈ role.leeways, NamedOnly readDuration leeway) ↔
      ∀ text, some (.duration text) ∈ role.leeways → ¬ NegativeText readDuration text := by
  constructor
  · intro h text hmem
    exact namedOnly_iff.mp (h _ hmem) text rfl
  · intro h leeway hmem
    rw [namedOnly_iff]
    rintro text rfl
    exact h text hmem

/-- Durations of whole seconds, minutes and hours. -/
def readWhole (text : Str) : Option ℤ :=
  if text = "60s".toList then some 60 else if text = "-5m".toList then some (-300) else none

def deviceRole : JwtRole where
  expirationLeeway := some (.duration "60s".toList)
  notBeforeLeeway := some .disableTimeValidation
  callbackMode := some "device".toList
  maxAge := some "1h".toList
  tokenBoundCidrs := ["10.0.0.0/8".toList]

theorem deviceRole_accepted : deviceRole.validate = some (.ok ()) := by decide +kernel

theorem deviceRole_namedOnly :
    (∀ leeway ∈ deviceRole.leeways, NamedOnly readWhole leeway) ↔
      ∀ text, some (.duration text) ∈ deviceRole.leeways → ¬ NegativeText readWhole text :=
  accepted_namedOnly_iff deviceRole_accepted readWhole

/-- A duration of `-1` is accepted, disables the check whatever else the server reads, and comes
back as the named variant. -/
theorem duration_disables :
    ∃ role : JwtRole, role.validate = some (.ok ()) ∧
      role.expirationLeeway = some (.duration "-1".toList) ∧
      (∀ readDuration, Disables readDuration (serialize (.duration "-1".toList))) ∧
      deserialize (serialize (.duration "-1".toList)) = .ok .disableTimeValidation := by
  refine ⟨{ deviceRole with expirationLeeway := some (.duration "-1".toList) },
    ?_, rfl, fun _ => .inl rfl, rfl⟩
  have hverdict := validate_leeways deviceRole deviceRole.clockSkewLeeway
    (some (.duration "-1".toList)) deviceRole.notBeforeLeeway
  exact hverdict.trans deviceRole_accepted

end OpenBao.JwtLeeways
