import Mathlib.Data.Nat.Notation

/-!
# Errors of the client

The error type shared by path validation, the policy builder, the compatibility
probe, the request router, the readiness loops and the bootstrap run, with the
classifications these callers branch on.
-/

namespace OpenBao

/-- An exact stable server version. -/
structure OpenBaoVersion where
  major : ℕ
  minor : ℕ
  patch : ℕ
  deriving DecidableEq, Repr

inductive OpenBaoVersionRequirement where
  | exact (version : OpenBaoVersion)
  | inclusive (minimum maximum : OpenBaoVersion)
  deriving DecidableEq, Repr

/-- The variants of `Error` that the modelled functions build or inspect. -/
inductive Error where
  | invalidPath (message : String)
  | invalidParameter (message : String)
  | invalidBaseUrl (message : String)
  | invalidHeader (message : String)
  | invalidTimeout (message : String)
  | rawApiDisabled
  | missingToken
  | internal (message : String)
  | invalidOpenBaoVersion (message : String)
  | invalidOpenBaoVersionRequirement (message : String)
  | unsupportedOpenBaoVersion (version : OpenBaoVersion)
  | unsupportedOpenBaoCapability (endpoint : String) (version : OpenBaoVersion)
  | unsupportedOpenBaoRequestField (endpoint field : String) (version : OpenBaoVersion)
  | openBaoVersionMismatch (detected : OpenBaoVersion) (requirement : OpenBaoVersionRequirement)
  | unknownOpenBaoVersion (version : OpenBaoVersion)
  | openBaoCompatibilityProbe (message : String)
  | bootstrapContention (message : String)
  | unsafeBootstrapConfiguration (message : String)
  | transport (message : String)
  | decode (message : String)
  | api (status : ℕ) (errors : List String)
  deriving DecidableEq, Repr

namespace Error

/-- HTTP status when the failure was an API error. -/
def status : Error → Option ℕ
  | .api status _ => some status
  | _ => none

def isNotFound (e : Error) : Bool := e.status == some 404

/-- Whether retrying later may succeed. -/
def isTemporary : Error → Bool
  | .transport _ => true
  | .api status _ =>
    status == 429 || status == 503 ||
      (decide (500 ≤ status ∧ status < 600) && status != 501 && status != 505)
  | _ => false

end Error

/-- What `?` continues with. -/
theorem bind_eq_ok_iff {ε α β : Type} {x : Except ε α} {f : α → Except ε β} {r : β} :
    (x >>= f) = .ok r ↔ ∃ a, x = .ok a ∧ f a = .ok r := by
  cases x <;> simp [bind, Except.bind]

theorem bind_unit_eq_ok_iff {ε β : Type} {x : Except ε Unit} {f : Unit → Except ε β} {r : β} :
    (x >>= f) = .ok r ↔ x = .ok () ∧ f () = .ok r := by
  rw [bind_eq_ok_iff]
  exact ⟨fun ⟨_, h⟩ => h, fun h => ⟨(), h⟩⟩

end OpenBao
