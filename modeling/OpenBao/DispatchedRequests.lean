import OpenBao.RegisteredRoutes
import OpenBao.RequestPrograms

/-!
# Requests of one call

What a call of a secret engine does before its request leaves the client: it asks for the
compatibility report, checks the request fields that only some profiles have, and
resolves its route. A call is a program over the requests of the client.
-/

namespace OpenBao.DispatchedRequests
open CompatibilityPolicy CompatibilityProbe PathValidation RegisteredRoutes RequestPrograms
open RequestPrograms.Prog Utf8Text

inductive Request where
  /-- The probe of the public health endpoint. -/
  | health
  | operation (method : Method) (wirePath : Str)
  deriving DecidableEq, Repr

/-- What comes back for a request; the answer of an operation as it is read. -/
abbrev Answer (α : Type) : Request → Type
  | .health => HealthExchange
  | .operation _ _ => Except Error α

/-- A call whose operation answers with `α`. -/
abbrev Call (α β : Type) := Prog Request (Answer α) (Except Error β)

/-- The client as one call finds it. -/
structure Client extends RegisteredRoutes.Client where
  verification : CompatibilityVerificationState
  /-- Whether the call's request can be built: its URL, the transport for a sensitive
  request, its headers and its encoded body. -/
  prepare : Method → Str → Except Error Unit

variable {α β γ : Type}

/-- What `ensure_compatibility` returns without a probe. -/
def settled? : CompatibilityVerificationState → Option (Except Error OpenBaoCompatibilityReport)
  | .complete result => some (result.mapError compatibilityError)
  | .running waiters =>
    if waiters.length ≥ maxCompatibilityWaiters then some (.error tooManyWaitersError) else none
  | .pending => none

/-- A call that finds a probe in flight waits for its answer, and makes the probe itself
when the other call is dropped. -/
def ensureCompatibility (client : Client) : Call α (OpenBaoCompatibilityReport × Client) :=
  match settled? client.verification with
  | some result => .done (result.map fun report => (report, client))
  | none =>
    .send .health fun exchange =>
      let result := evaluateCompatibilityPolicy client.policy exchange
      .done ((result.mapError compatibilityError).map fun report =>
        (report, { client with verification := .complete result }))

/-! Request fields that only some profiles have. -/

structure VersionedRequestField where
  endpoint : String
  field : String
  minimum : OpenBaoVersion
  maximum : Option OpenBaoVersion
  resumedAt : Option OpenBaoVersion
  deriving DecidableEq, Repr

namespace VersionedRequestField

def since (endpoint field : String) (minimum : OpenBaoVersion) : VersionedRequestField :=
  ⟨endpoint, field, minimum, none, none⟩

def supports (rule : VersionedRequestField) (version : OpenBaoVersion) : Bool :=
  (version ≥ rule.minimum && rule.maximum.all (version ≤ ·)) || rule.resumedAt.any (version ≥ ·)

/-- A control of the latest contract needs more than a fallback profile. -/
def validateSelection (rule : VersionedRequestField) (version : OpenBaoVersion)
    (status : OpenBaoCompatibilityStatus) : Except Error Unit :=
  let selectedMinimum := (rule.resumedAt.filter (version ≥ ·)).getD rule.minimum
  if selectedMinimum ≥ ⟨2, 7, 0⟩ ∧ status ≠ .verified ∧ status ≠ .assumed then
    .error (.unsupportedOpenBaoRequestField rule.endpoint rule.field version)
  else .ok ()

end VersionedRequestField

def validateRequestFields (version : OpenBaoVersion) :
    List (VersionedRequestField × Bool) → Except Error Unit
  | [] => .ok ()
  | (rule, isSelected) :: fields =>
    if isSelected && !rule.supports version then
      .error (.unsupportedOpenBaoRequestField rule.endpoint rule.field version)
    else validateRequestFields version fields

/-- The checks of `validate_versioned_request_fields` on a report. -/
def checkRequestFields (report : OpenBaoCompatibilityReport)
    (fields : List (VersionedRequestField × Bool)) : Except Error Unit :=
  match routingProfile report with
  | none => .error (.internal "OpenBao compatibility report has no request-field profile")
  | some version =>
    if !isRoutableProfile version then .error (.unsupportedOpenBaoVersion version)
    else do
      fields.forM fun (field, selected) =>
        if selected then field.validateSelection version report.status else .ok ()
      validateRequestFields version fields

def validateVersionedRequestFields (client : Client)
    (fields : List (VersionedRequestField × Bool)) : Call α Client :=
  (ensureCompatibility client).andThen fun (report, client) =>
    .done ((checkRequestFields report fields).map fun _ => client)

/-! Dispatch. -/

variable (operations : List OpenBaoOperation)

/-- `request_secret_json_internal`, without a query and additional headers. -/
def requestSecretJson (client : Client) (binding : RegisteredRouteBinding) (method : Method) :
    Call α α :=
  -- The paths are checked before the report is asked for, and again in `resolve…`.
  attempt (binding.registryPath >>= validateEndpointPath) fun _ =>
    (ensureCompatibility client).andThen fun (report, client) =>
      attempt (resolveRegisteredOpenbaoRoute operations client.toClient (.ok report) method
        binding []) fun route =>
        (ensureCompatibility client).andThen fun (_, client) =>
          attempt (client.prepare route.resolved.method route.wirePath) fun _ =>
            .send (.operation route.resolved.method route.wirePath) .done

/-- The call returns an error and has sent nothing. -/
def RefusedUnsent (p : Call α β) : Prop := ∃ e, p = .done (.error e)

/-- The report lets the request through: the fields, the route and the request itself are
accepted. -/
def Admits (client : Client) (binding : RegisteredRouteBinding) (method : Method)
    (report : OpenBaoCompatibilityReport) : Prop :=
  ∃ route, resolveRegisteredOpenbaoRoute operations client.toClient (.ok report) method binding [] =
    .ok route ∧ client.prepare route.resolved.method route.wirePath = .ok ()

/-- Nothing stops the request before one is sent: its paths are valid, and either the server
has to be probed or the report at hand admits it. -/
def Dispatches (client : Client) (binding : RegisteredRouteBinding) (method : Method) : Prop :=
  (∃ segments, (binding.registryPath >>= validateEndpointPath) = .ok segments) ∧
    (settled? client.verification = none ∨
      ∃ report, settled? client.verification = some (.ok report) ∧
        Admits operations client binding method report)

theorem refusedUnsent_error (e : Error) : RefusedUnsent (.done (.error e) : Call α β) := ⟨e, rfl⟩

theorem not_refusedUnsent_send {req : Request} {next : Answer α req → Call α β} :
    ¬ RefusedUnsent (.send req next : Call α β) := by
  rintro ⟨e, h⟩
  cases h

theorem refusedUnsent_attempt_iff {result : Except Error β} {next : β → Call α γ} :
    RefusedUnsent (attempt result next) ↔ ∀ b, result = .ok b → RefusedUnsent (next b) := by
  cases result with
  | error e => simp [refusedUnsent_error]
  | ok b => simp

/-- The compatibility report stops a call that it is known for, and no other. -/
theorem refusedUnsent_ensureCompatibility_iff {client : Client}
    {next : OpenBaoCompatibilityReport × Client → Call α γ} :
    RefusedUnsent ((ensureCompatibility client).andThen next) ↔
      settled? client.verification ≠ none ∧ ∀ report,
        settled? client.verification = some (.ok report) → RefusedUnsent (next (report, client)) := by
  unfold ensureCompatibility
  cases settled? client.verification with
  | none =>
    constructor
    · exact fun h => absurd h not_refusedUnsent_send
    · exact fun h => absurd rfl h.1
  | some result =>
    cases result with
    | error e => simp [Except.map, done_andThen, refusedUnsent_error]
    | ok report => simp [Except.map, done_andThen]

theorem refusedUnsent_validateVersionedRequestFields_iff {client : Client}
    {fields : List (VersionedRequestField × Bool)} {next : Client → Call α γ} :
    RefusedUnsent ((validateVersionedRequestFields client fields).andThen next) ↔
      settled? client.verification ≠ none ∧ ∀ report,
        settled? client.verification = some (.ok report) → checkRequestFields report fields = .ok () →
          RefusedUnsent (next client) := by
  rw [validateVersionedRequestFields, Prog.andThen_assoc, refusedUnsent_ensureCompatibility_iff]
  refine and_congr_right fun _ => forall₂_congr fun report _ => ?_
  rw [done_andThen, refusedUnsent_attempt_iff]
  cases checkRequestFields report fields with
  | error e => simp [Except.map]
  | ok _ => simp [Except.map]

/-- Behind a known report the request is refused unless the report admits it. -/
theorem refusedUnsent_admission_iff {client : Client} {binding : RegisteredRouteBinding}
    {method : Method} {report : OpenBaoCompatibilityReport}
    (hreport : settled? client.verification = some (.ok report)) :
    RefusedUnsent (attempt (resolveRegisteredOpenbaoRoute operations client.toClient (.ok report)
      method binding []) fun route =>
        (ensureCompatibility client).andThen fun (_, client) =>
          attempt (client.prepare route.resolved.method route.wirePath) fun _ =>
            (.send (.operation route.resolved.method route.wirePath) .done : Call α α)) ↔
      ¬ Admits operations client binding method report := by
  simp only [Admits, not_exists, not_and, refusedUnsent_attempt_iff,
    refusedUnsent_ensureCompatibility_iff, hreport]
  refine forall₂_congr fun route _ => ?_
  constructor
  · intro h hprepare
    exact not_refusedUnsent_send (h.2 report rfl () hprepare)
  · intro h
    exact ⟨nofun, fun _ _ _ hprepare => absurd hprepare h⟩

theorem refusedUnsent_requestSecretJson_iff {client : Client} {binding : RegisteredRouteBinding}
    {method : Method} :
    RefusedUnsent (requestSecretJson operations client binding method : Call α α) ↔
      ¬ Dispatches operations client binding method := by
  rw [requestSecretJson, refusedUnsent_attempt_iff, Dispatches, not_and, forall_exists_index]
  refine forall₂_congr fun segments _ => ?_
  rw [refusedUnsent_ensureCompatibility_iff, not_or, not_exists]
  refine and_congr_right fun _ => forall_congr' fun report => ?_
  rw [not_and]
  exact forall_congr' fun hreport => refusedUnsent_admission_iff operations hreport

end OpenBao.DispatchedRequests
