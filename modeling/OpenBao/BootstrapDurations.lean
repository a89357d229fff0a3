import OpenBao.BootstrapIdempotence
import OpenBao.BootstrapPreview
import OpenBao.DurationText

/-!
# The durations of roles

A server may read a duration back as a number of seconds, which the client's decoder
turns into a bare decimal. The comparisons are on text, and no accepted duration is a
bare decimal.
-/

namespace OpenBao.BootstrapDurations
open BootstrapComparisons BootstrapFields BootstrapIdempotence BootstrapObjects BootstrapPlan
open BootstrapPreview BootstrapQuietServer BootstrapRecords BootstrapRun BootstrapServer
open BootstrapTruth DelimitedLists DurationText RequestPrograms Utf8Text

/-! ## Accepted durations are no decimals -/

/-- An accepted component ends with a unit. -/
theorem exists_unit_of_validateComponents {bytes : Bytes} {allowZero : Bool} {index : ℕ}
    {last : Option ℕ} (h : validateComponents bytes allowZero index last = true)
    (hindex : index < bytes.length) :
    ∃ stop unit scale, index ≤ stop ∧ bytes[stop]? = some unit ∧ unitScale unit = some scale ∧
      validateComponents bytes allowZero (stop + 1) (some scale) = true := by
  rw [validateComponents, dif_pos hindex] at h
  dsimp only at h
  split at h
  · cases h
  split at h
  · cases h
  split at h
  · cases h
  split at h
  · cases h
  split at h
  · cases h
  next scale hscale =>
  split at h
  · cases h
  obtain ⟨unit, hunit, hscale⟩ := Option.bind_eq_some_iff.mp hscale
  exact ⟨_, unit, scale, le_advanceWhile _ _ _, hunit, hscale, h⟩

/-- The last byte of an accepted string is a unit. -/
theorem validateComponents_getLast? {bytes : Bytes} {allowZero : Bool} {index : ℕ}
    {last : Option ℕ} (h : validateComponents bytes allowZero index last = true)
    (hindex : index < bytes.length) :
    ∃ unit scale, bytes.getLast? = some unit ∧ unitScale unit = some scale := by
  induction hn : bytes.length - index using Nat.strong_induction_on generalizing index last with
  | _ n ih =>
    obtain ⟨stop, unit, scale, hle, hunit, hscale, hrest⟩ :=
      exists_unit_of_validateComponents h hindex
    by_cases hstop : stop + 1 < bytes.length
    · exact ih (bytes.length - (stop + 1)) (by omega) hrest hstop rfl
    · obtain ⟨hlt, -⟩ := List.getElem?_eq_some_iff.mp hunit
      have hlast : bytes.length - 1 = stop := by omega
      exact ⟨unit, scale, by rw [List.getLast?_eq_getElem?, hlast, hunit], hscale⟩

theorem isAsciiDigit_of_mem_decimal {n : ℕ} {byte : UInt8} (h : byte ∈ asBytes (decimal n)) :
    isAsciiDigit byte = true :=
  List.all_eq_true.mp (all_isAsciiDigit_iff.mpr fun _ => isDigit_of_mem_decimal) byte h

/-- An accepted duration is no bare number. -/
theorem decimal_ne {n : ℕ} {duration : Str} (h : validateDurationString duration false = true) :
    decimal n ≠ duration := by
  rintro rfl
  unfold validateDurationString at h
  split_ifs at h with hnil
  have hindex : 0 < (asBytes (decimal n)).length := by
    apply List.length_pos_of_ne_nil
    intro hbytes
    exact hnil (asBytes_injective hbytes)
  obtain ⟨unit, scale, hunit, hscale⟩ := validateComponents_getLast? h hindex
  have hdigit := isAsciiDigit_of_mem_decimal (List.mem_of_getLast? hunit)
  rw [isAsciiDigit_of_unitScale hscale] at hdigit
  cases hdigit

/-! ## The duration fields of the roles -/

inductive DurationField where
  | ttl | maxTtl | notBeforeDuration | defaultTtl | rotationPeriod
  | secretIdTtl | tokenTtl | tokenMaxTtl | tokenExplicitMaxTtl | tokenPeriod
  deriving DecidableEq

inductive RoleKind where
  | pki | database | databaseStatic | approle
  deriving DecidableEq

namespace RoleKind

abbrev object : RoleKind → ObjectKind
  | pki => .pkiRole
  | database => .databaseRole
  | databaseStatic => .databaseStaticRole
  | approle => .approleRole

def operation : (role : RoleKind) → Str → Str → role.object.Desired → BootstrapOperation
  | pki => .pkiRole
  | database => .databaseRole
  | databaseStatic => .databaseStaticRole
  | approle => .approleRole

/-- The duration that a request supplies in a field. -/
def duration : (role : RoleKind) → role.object.Desired → DurationField → Option Str
  | pki => fun (desired : PkiRole) field =>
    match field with
    | .ttl => desired.ttl
    | .maxTtl => desired.maxTtl
    | .notBeforeDuration => desired.notBeforeDuration
    | _ => none
  | database => fun (desired : DatabaseRole) field =>
    match field with
    | .defaultTtl => desired.defaultTtl
    | .maxTtl => desired.maxTtl
    | _ => none
  | databaseStatic => fun (desired : DatabaseStaticRole) field =>
    match field with
    | .rotationPeriod => desired.rotationPeriod
    | _ => none
  | approle => fun (desired : AppRoleRoleRequest) field =>
    match field with
    | .secretIdTtl => desired.secretIdTtl
    | .tokenTtl => desired.tokenTtl
    | .tokenMaxTtl => desired.tokenMaxTtl
    | .tokenExplicitMaxTtl => desired.tokenExplicitMaxTtl
    | .tokenPeriod => desired.tokenPeriod
    | _ => none

/-- The request with its durations spelled differently. -/
def respell (spell : DurationField → Str → Str) : (role : RoleKind) → role.object.Desired →
    role.object.Desired
  | pki => fun (desired : PkiRole) =>
    { desired with
      ttl := desired.ttl.map (spell .ttl)
      maxTtl := desired.maxTtl.map (spell .maxTtl)
      notBeforeDuration := desired.notBeforeDuration.map (spell .notBeforeDuration) }
  | database => fun (desired : DatabaseRole) =>
    { desired with
      defaultTtl := desired.defaultTtl.map (spell .defaultTtl)
      maxTtl := desired.maxTtl.map (spell .maxTtl) }
  | databaseStatic => fun (desired : DatabaseStaticRole) =>
    { desired with rotationPeriod := desired.rotationPeriod.map (spell .rotationPeriod) }
  | approle => fun (desired : AppRoleRoleRequest) =>
    { desired with
      secretIdTtl := desired.secretIdTtl.map (spell .secretIdTtl)
      tokenTtl := desired.tokenTtl.map (spell .tokenTtl)
      tokenMaxTtl := desired.tokenMaxTtl.map (spell .tokenMaxTtl)
      tokenExplicitMaxTtl := desired.tokenExplicitMaxTtl.map (spell .tokenExplicitMaxTtl)
      tokenPeriod := desired.tokenPeriod.map (spell .tokenPeriod) }

end RoleKind

/-- The comparison looks at the field. -/
def Compared : DurationField → Prop
  | .notBeforeDuration => False
  | _ => True

/-- The compared durations of the request are spelled as they were written. -/
def SpelledAsWritten (spell : DurationField → Str → Str) (role : RoleKind)
    (desired : role.object.Desired) : Prop :=
  ∀ field, Compared field → ∀ written ∈ role.duration desired field, spell field written = written

theorem optionHeld_map_iff {spell : Str → Str} {existing desired : Option Str}
    (h : OptionHeld existing (desired.map spell)) :
    OptionHeld existing desired ↔ ∀ written ∈ desired, spell written = written := by
  cases desired with
  | none => simp
  | some written =>
    have hexisting : existing = some (spell written) := h _ rfl
    simp [OptionHeld, hexisting]

section Respelled

variable {spell : DurationField → Str → Str}

theorem pkiRoleHeld_respell_iff {existing desired : PkiRole}
    (h : PkiRoleHeld existing (comparedPkiRole (RoleKind.pki.respell spell desired))) :
    PkiRoleHeld existing (comparedPkiRole desired) ↔ SpelledAsWritten spell .pki desired := by
  constructor
  · intro hmatch field hcompared written hwritten
    cases field with
    | ttl => exact (optionHeld_map_iff h.ttl).mp hmatch.ttl written hwritten
    | maxTtl => exact (optionHeld_map_iff h.maxTtl).mp hmatch.maxTtl written hwritten
    | notBeforeDuration => cases hcompared
    | _ => cases hwritten
  · intro hspelled
    have httl : OptionHeld existing.ttl desired.ttl :=
      (optionHeld_map_iff h.ttl).mpr (hspelled .ttl trivial)
    have hmaxTtl : OptionHeld existing.maxTtl desired.maxTtl :=
      (optionHeld_map_iff h.maxTtl).mpr (hspelled .maxTtl trivial)
    exact { h with ttl := httl, maxTtl := hmaxTtl }

theorem databaseRoleHeld_respell_iff {existing desired : DatabaseRole}
    (h : DatabaseRoleHeld existing (RoleKind.database.respell spell desired)) :
    DatabaseRoleHeld existing desired ↔ SpelledAsWritten spell .database desired := by
  constructor
  · intro hmatch field hcompared written hwritten
    cases field with
    | defaultTtl => exact (optionHeld_map_iff h.defaultTtl).mp hmatch.defaultTtl written hwritten
    | maxTtl => exact (optionHeld_map_iff h.maxTtl).mp hmatch.maxTtl written hwritten
    | _ => cases hwritten
  · intro hspelled
    have hdefaultTtl : OptionHeld existing.defaultTtl desired.defaultTtl :=
      (optionHeld_map_iff h.defaultTtl).mpr (hspelled .defaultTtl trivial)
    have hmaxTtl : OptionHeld existing.maxTtl desired.maxTtl :=
      (optionHeld_map_iff h.maxTtl).mpr (hspelled .maxTtl trivial)
    exact { h with defaultTtl := hdefaultTtl, maxTtl := hmaxTtl }

theorem databaseStaticRoleHeld_respell_iff {existing desired : DatabaseStaticRole}
    (h : DatabaseStaticRoleHeld existing (RoleKind.databaseStatic.respell spell desired)) :
    DatabaseStaticRoleHeld existing desired ↔ SpelledAsWritten spell .databaseStatic desired := by
  constructor
  · intro hmatch field hcompared written hwritten
    cases field with
    | rotationPeriod =>
      exact (optionHeld_map_iff h.rotationPeriod).mp hmatch.rotationPeriod written hwritten
    | _ => cases hwritten
  · intro hspelled
    have hrotationPeriod : OptionHeld existing.rotationPeriod desired.rotationPeriod :=
      (optionHeld_map_iff h.rotationPeriod).mpr (hspelled .rotationPeriod trivial)
    exact { h with rotationPeriod := hrotationPeriod }

theorem appRoleRoleHeld_respell_iff {existing desired : AppRoleRoleRequest}
    (h : AppRoleRoleHeld existing (comparedAppRoleRole (RoleKind.approle.respell spell desired))) :
    AppRoleRoleHeld existing (comparedAppRoleRole desired) ↔
      SpelledAsWritten spell .approle desired := by
  constructor
  · intro hmatch field hcompared written hwritten
    cases field with
    | secretIdTtl => exact (optionHeld_map_iff h.secretIdTtl).mp hmatch.secretIdTtl written hwritten
    | tokenTtl => exact (optionHeld_map_iff h.tokenTtl).mp hmatch.tokenTtl written hwritten
    | tokenMaxTtl => exact (optionHeld_map_iff h.tokenMaxTtl).mp hmatch.tokenMaxTtl written hwritten
    | tokenExplicitMaxTtl =>
      exact (optionHeld_map_iff h.tokenExplicitMaxTtl).mp hmatch.tokenExplicitMaxTtl written hwritten
    | tokenPeriod => exact (optionHeld_map_iff h.tokenPeriod).mp hmatch.tokenPeriod written hwritten
    | _ => cases hwritten
  · intro hspelled
    have hsecretIdTtl : OptionHeld existing.secretIdTtl desired.secretIdTtl :=
      (optionHeld_map_iff h.secretIdTtl).mpr (hspelled .secretIdTtl trivial)
    have htokenTtl : OptionHeld existing.tokenTtl desired.tokenTtl :=
      (optionHeld_map_iff h.tokenTtl).mpr (hspelled .tokenTtl trivial)
    have htokenMaxTtl : OptionHeld existing.tokenMaxTtl desired.tokenMaxTtl :=
      (optionHeld_map_iff h.tokenMaxTtl).mpr (hspelled .tokenMaxTtl trivial)
    have htokenExplicitMaxTtl : OptionHeld existing.tokenExplicitMaxTtl desired.tokenExplicitMaxTtl :=
      (optionHeld_map_iff h.tokenExplicitMaxTtl).mpr (hspelled .tokenExplicitMaxTtl trivial)
    have htokenPeriod : OptionHeld existing.tokenPeriod desired.tokenPeriod :=
      (optionHeld_map_iff h.tokenPeriod).mpr (hspelled .tokenPeriod trivial)
    exact { h with
      secretIdTtl := hsecretIdTtl
      tokenTtl := htokenTtl
      tokenMaxTtl := htokenMaxTtl
      tokenExplicitMaxTtl := htokenExplicitMaxTtl
      tokenPeriod := htokenPeriod }

/-- A readback of the respelled request matches if no compared spelling differs. -/
theorem matchesDesired_respell_iff {role : RoleKind} {existing : role.object.Existing}
    {desired : role.object.Desired} (hsafe : role.object.unsafeConfiguration existing = none)
    (h : FieldsHeld role.object existing (role.respell spell desired)) :
    role.object.matchesDesired existing desired = true ↔ SpelledAsWritten spell role desired := by
  have hcompared := fieldsHeld_compared h
  cases role with
  | pki =>
    rw [matchesDesired_iff (by decide), and_iff_right hsafe]
    exact pkiRoleHeld_respell_iff hcompared
  | database =>
    rw [matchesDesired_iff (by decide), and_iff_right hsafe]
    exact databaseRoleHeld_respell_iff hcompared
  | databaseStatic =>
    rw [matchesDesired_iff (by decide), and_iff_right hsafe]
    exact databaseStaticRoleHeld_respell_iff hcompared
  | approle =>
    rw [matchesDesired_iff (by decide), and_iff_right hsafe]
    exact appRoleRoleHeld_respell_iff hcompared

end Respelled

/-! ## The two forms of a readback -/

def unitSeconds : Char → ℕ
  | 'h' => 3600
  | 'm' => 60
  | _ => 1

/-- The length of the components behind a number already read. -/
def componentSeconds : ℕ → Str → ℕ
  | _, [] => 0
  | number, c :: rest =>
    if c.isDigit then componentSeconds (number * 10 + (c.toNat - '0'.toNat)) rest
    else number * unitSeconds c + componentSeconds 0 rest

/-- The length of a duration in seconds. -/
def durationSeconds (duration : Str) : ℕ := componentSeconds 0 duration

example : durationSeconds "1h30m5s".toList = 5405 := by decide

/-- The JSON of a duration. -/
inductive StringOrU64 where
  | string (value : Str)
  | u64 (value : ℕ)

/-- `deserialize_optional_string_or_u64` on a value that is present. -/
def deserializeStringOrU64 : StringOrU64 → Str
  | .string value => value
  | .u64 value => decimal value

/-- A field's readback: the string as written, or its seconds. -/
def readBack (asSeconds : DurationField → Bool) (field : DurationField) (written : Str) :
    StringOrU64 :=
  if asSeconds field then .u64 (durationSeconds written) else .string written

def decoded (asSeconds : DurationField → Bool) (field : DurationField) (written : Str) : Str :=
  deserializeStringOrU64 (readBack asSeconds field written)

theorem decoded_eq_iff {asSeconds : DurationField → Bool} {field : DurationField} {written : Str}
    (h : validateDurationString written false = true) :
    decoded asSeconds field written = written ↔ asSeconds field = false := by
  unfold decoded readBack
  cases asSeconds field with
  | false => simp [deserializeStringOrU64]
  | true => simp [deserializeStringOrU64, decimal_ne h]

/-- No compared duration of the request is read back in seconds. -/
def ReadAsWritten (asSeconds : DurationField → Bool) (role : RoleKind)
    (desired : role.object.Desired) : Prop :=
  ∀ field, Compared field → role.duration desired field ≠ none → asSeconds field = false

/-- The durations of the request are accepted. -/
def ValidDurations (role : RoleKind) (desired : role.object.Desired) : Prop :=
  ∀ field, ∀ written ∈ role.duration desired field, validateDurationString written false = true

theorem spelledAsWritten_iff {asSeconds : DurationField → Bool} {role : RoleKind}
    {desired : role.object.Desired} (hvalid : ValidDurations role desired) :
    SpelledAsWritten (decoded asSeconds) role desired ↔ ReadAsWritten asSeconds role desired := by
  constructor
  · intro h field hcompared hsupplied
    obtain ⟨written, hwritten⟩ := Option.ne_none_iff_exists'.mp hsupplied
    exact (decoded_eq_iff (hvalid field written hwritten)).mp (h field hcompared written hwritten)
  · intro h field hcompared written hwritten
    refine (decoded_eq_iff (hvalid field written hwritten)).mpr (h field hcompared ?_)
    rw [Option.mem_def.mp hwritten]
    exact Option.some_ne_none _

/-! ## Runs for a role -/

/-- Every read of an object is answered. -/
structure Answers (rule : ReadRule) (kind : ObjectKind) (address : ObjectAddress) : Prop where
  missing : Answered (rule.answer (.readObject kind address) none)
  readable : ∀ existing, rule.answer (.readObject kind address) (some existing) = .ok existing

/-- The server stores the request and reads it back, up to the form of the durations. -/
structure Faithful (backend : Backend) (asSeconds : DurationField → Bool) (role : RoleKind)
    (desired : role.object.Desired) : Prop where
  fieldsHeld : ∀ prior, FieldsHeld role.object (backend.object role.object prior desired)
    (role.respell (decoded asSeconds) desired)
  safe : ∀ prior, (∀ existing ∈ prior, role.object.unsafeConfiguration existing = none) →
    role.object.unsafeConfiguration (backend.object role.object prior desired) = none

section Runs

variable {backend : Backend} {rule : ReadRule} {kind : ObjectKind} {address : ObjectAddress}
variable {desired : kind.Desired} {s : Server}

/-- A server that takes every write. -/
abbrev taking (backend : Backend) (rule : ReadRule) : Environment Answer Server :=
  quiet backend rule (accepting fun _ => True)

theorem Answers.of_some {existing : kind.Existing} (h : Answers rule kind address)
    (hobject : s.objects kind address = some existing) :
    rule.answer (.readObject kind address) (view s (.readObject kind address)) = .ok existing :=
  (congrArg (rule.answer (.readObject kind address)) hobject).trans (h.readable existing)

theorem Answers.of_none (h : Answers rule kind address) (hobject : s.objects kind address = none) :
    ∃ e, rule.answer (.readObject kind address) (view s (.readObject kind address)) = .error e ∧
      e.isNotFound = true := by
  have hview : view s (.readObject kind address) = none := hobject
  have hfound := (rule.truthful plainBackend s (.readObject kind address) rfl).2
  rw [hview] at hfound ⊢
  have hmissing := h.missing
  cases hanswer : rule.answer (.readObject kind address) none with
  | ok existing =>
    rw [hanswer, hobject] at hfound
    cases hfound
  | error e =>
    rw [hanswer] at hmissing
    exact ⟨e, rfl, hmissing⟩

theorem writeAndVerify_readBack {status : BootstrapStepStatus} (h : Answers rule kind address) :
    Ensures (taking backend rule) s (writeAndVerify kind address desired status)
      fun _ result s' =>
        s' = s.setObject kind address (backend.object kind (s.objects kind address) desired) ∧
          result = if kind.matchesDesired (backend.object kind (s.objects kind address) desired)
            desired then .ok status else .error bootstrapContentionError := by
  refine ensures_write rfl (.inr trivial) () ⟨trivial, rfl⟩ (fun _ _ h => h.2) fun _ => ?_
  refine ensures_read rfl ?_
  rw [h.of_some (Server.setObject_objects ..)]
  dsimp only
  split_ifs with hmatch
  · exact ensures_done ⟨rfl, rfl⟩
  · exact ensures_done ⟨rfl, rfl⟩

/-- What a step leaves when every readback matches. -/
def Converged (rule : ReadRule) (kind : ObjectKind) (address : ObjectAddress)
    (desired : kind.Desired) (s' : Server) : Except Error BootstrapStepStatus → Prop
  | .ok _ => ObjectHolds s' kind address desired ∧ Readable rule s' (.object kind address)
  | .error e => e ≠ bootstrapContentionError

theorem writeAndVerify_converges {status : BootstrapStepStatus} (h : Answers rule kind address)
    (hmatch : kind.matchesDesired (backend.object kind (s.objects kind address) desired) desired =
      true) :
    Ensures (taking backend rule) s (writeAndVerify kind address desired status)
      fun _ result s' => Converged rule kind address desired s' result := by
  refine (writeAndVerify_readBack h).mono fun _ result s' hwritten => ?_
  obtain ⟨rfl, rfl⟩ := hwritten
  rw [if_pos hmatch]
  have hstored := Server.setObject_objects s kind address
    (backend.object kind (s.objects kind address) desired)
  exact ⟨⟨_, hstored, hmatch⟩, backend.object kind (s.objects kind address) desired,
    h.of_some hstored⟩

theorem ensureObject_converges (h : Answers rule kind address)
    (hmatch : ∀ prior, (∀ existing ∈ prior, kind.unsafeConfiguration existing = none) →
      kind.matchesDesired (backend.object kind prior desired) desired = true) (s : Server) :
    Ensures (taking backend rule) s (ensureObject kind address desired)
      fun _ result s' => Converged rule kind address desired s' result := by
  refine ensures_read rfl ?_
  cases hobject : s.objects kind address with
  | some existing =>
    rw [h.of_some hobject]
    dsimp only
    cases hunsafe : kind.unsafeConfiguration existing with
    | some message => exact ensures_done (fun h => nomatch h)
    | none =>
      dsimp only
      split_ifs with hsame
      · exact ensures_done ⟨⟨existing, hobject, hsame⟩, existing, h.of_some hobject⟩
      · refine writeAndVerify_converges h (hmatch _ ?_)
        rw [hobject]
        rintro _ ⟨⟩
        exact hunsafe
  | none =>
    obtain ⟨e, hanswer, hnotFound⟩ := h.of_none hobject
    rw [hanswer]
    dsimp only
    rw [if_pos hnotFound]
    refine writeAndVerify_converges h (hmatch _ ?_)
    rw [hobject]
    rintro _ ⟨⟩

/-- A new object whose readback differs is taken for another client's. -/
theorem ensureObject_contends (h : Answers rule kind address)
    (hobject : s.objects kind address = none)
    (hdiffers : ¬ kind.matchesDesired (backend.object kind none desired) desired = true) :
    Ensures (taking backend rule) s (ensureObject kind address desired)
      fun _ result _ => result = .error bootstrapContentionError := by
  refine ensures_read rfl ?_
  obtain ⟨e, hanswer, hnotFound⟩ := h.of_none hobject
  rw [hanswer]
  dsimp only
  rw [if_pos hnotFound]
  refine (writeAndVerify_readBack h).mono fun _ result s' hwritten => ?_
  obtain ⟨-, rfl⟩ := hwritten
  rw [hobject, if_neg hdiffers]

theorem runOperation_role (role : RoleKind) (mount name : Str) (desired : role.object.Desired) :
    ∃ targetType target, runOperation {} (role.operation mount name desired) =
      BootstrapReport.record {} targetType target (ensureObject role.object ⟨mount, name⟩ desired) := by
  cases role <;> exact ⟨_, _, rfl⟩

/-- A step decides how the run of its plan ends. -/
theorem ensures_run_role {env : Environment Answer Server} {plan : AdminBootstrap}
    {role : RoleKind} {mount name : Str} {desired : role.object.Desired}
    {Q : Except Error BootstrapReport → Server → Prop}
    (hplan : plan.operations = [role.operation mount name desired])
    (h : ∀ targetType target, Ensures env s (ensureObject role.object ⟨mount, name⟩ desired)
      fun _ result s' => Q (result.map fun status =>
        { steps := [⟨targetType, target, status⟩] }) s') :
    Ensures env s (run plan) fun _ result s' => Q result s' := by
  obtain ⟨targetType, target, hoperation⟩ := runOperation_role role mount name desired
  rw [run, hplan]
  refine ensures_traverse_singleton ?_
  rw [hoperation]
  exact ensures_record (h targetType target)

/-- A role converges exactly when no compared duration is read back in seconds: then no
run ends in contention and a second run changes nothing, and otherwise the run that
creates the role ends in contention. -/
theorem role_converges_iff {plan : AdminBootstrap} {role : RoleKind} {mount name : Str}
    {desired : role.object.Desired} {asSeconds : DurationField → Bool}
    (hplan : plan.operations = [role.operation mount name desired])
    (hvalid : ValidDurations role desired) (hfaithful : Faithful backend asSeconds role desired)
    (hanswers : Answers rule role.object ⟨mount, name⟩) :
    (∀ prior, (∀ existing ∈ prior, role.object.unsafeConfiguration existing = none) →
      (role.object.matchesDesired (backend.object role.object prior desired) desired = true ↔
        ReadAsWritten asSeconds role desired)) ∧
    (ReadAsWritten asSeconds role desired → ∀ s, Ensures (taking backend rule) s (run plan)
      fun _ result s' => result ≠ .error bootstrapContentionError ∧ ∀ report, result = .ok report →
        Ensures (taking backend rule) s' (run plan) fun _ again s'' =>
          s'' = s' ∧ ∃ report', again = .ok report' ∧ report'.isConverged = true) ∧
    (¬ ReadAsWritten asSeconds role desired → ∀ s, s.objects role.object ⟨mount, name⟩ = none →
      Ensures (taking backend rule) s (run plan)
        fun _ result _ => result = .error bootstrapContentionError) := by
  have hiff : ∀ prior, (∀ existing ∈ prior, role.object.unsafeConfiguration existing = none) →
      (role.object.matchesDesired (backend.object role.object prior desired) desired = true ↔
        ReadAsWritten asSeconds role desired) := fun prior hprior =>
    (matchesDesired_respell_iff (hfaithful.safe prior hprior) (hfaithful.fieldsHeld prior)).trans
      (spelledAsWritten_iff hvalid)
  refine ⟨hiff, fun hread s => ?_, fun hread s hobject => ?_⟩
  · refine ensures_run_role hplan fun targetType target => ?_
    have hstep := ensureObject_converges hanswers
      (fun prior hprior => (hiff prior hprior).mpr hread) s
    refine hstep.mono fun _ result s' hconverged => ?_
    cases result with
    | error e => exact ⟨fun h => hconverged (Except.error.inj h), fun _ h => nomatch h⟩
    | ok status =>
      obtain ⟨hholds, hreadable⟩ := hconverged
      refine ⟨(fun h => nomatch h), fun _ _ => ensures_run_role hplan fun targetType target => ?_⟩
      refine (ensureObject_again hholds hreadable).ensures.mono fun _ again s'' h => ?_
      obtain ⟨rfl, rfl⟩ := h
      exact ⟨rfl, _, rfl, rfl⟩
  · have hdiffers : ¬ role.object.matchesDesired (backend.object role.object none desired) desired =
        true := fun hmatch => hread ((hiff none (fun _ h => nomatch h)).mp hmatch)
    refine ensures_run_role hplan fun targetType target => ?_
    refine (ensureObject_contends hanswers hobject hdiffers).mono fun _ result _ h => ?_
    rw [h]
    rfl

end Runs

/-! ## A token's TTL read back in seconds -/

def ttlRole : AppRoleRoleRequest := { tokenTtl := some "1h".toList }

def ttlPlan : AdminBootstrap :=
  ⟨[.approleRole "approle".toList "web".toList ttlRole], by decide,
    by simp [BootstrapOperation.Accepted]⟩

/-- A server that reads the durations of AppRole roles back in seconds. -/
def secondsBackend : Backend :=
  { plainBackend with
    object := fun kind _ desired =>
      match kind, desired with
      | .approleRole, desired => RoleKind.approle.respell (decoded fun _ => true) desired
      | kind, desired => plainBackend.object kind none desired }

theorem ttlRole_valid : ValidDurations .approle ttlRole := by
  intro field written hwritten
  cases field with
  | tokenTtl =>
    obtain rfl := Option.some.inj hwritten
    decide +kernel
  | _ => cases hwritten

theorem secondsBackend_faithful : Faithful secondsBackend (fun _ => true) .approle ttlRole where
  fieldsHeld _ := appRoleRoleHeld_self _
  safe _ _ := rfl

theorem plainReads_answers (kind : ObjectKind) (address : ObjectAddress) :
    Answers plainReads kind address := ⟨rfl, fun _ => rfl⟩

theorem ttlRole_converges_iff :
    (∀ prior, (∀ existing ∈ prior,
        RoleKind.approle.object.unsafeConfiguration existing = none) →
      (RoleKind.approle.object.matchesDesired
          (secondsBackend.object RoleKind.approle.object prior ttlRole) ttlRole = true ↔
        ReadAsWritten (fun _ => true) .approle ttlRole)) ∧
    (ReadAsWritten (fun _ => true) .approle ttlRole → ∀ s,
      Ensures (taking secondsBackend plainReads) s (run ttlPlan) fun _ result s' =>
        result ≠ .error bootstrapContentionError ∧ ∀ report, result = .ok report →
          Ensures (taking secondsBackend plainReads) s' (run ttlPlan) fun _ again s'' =>
            s'' = s' ∧ ∃ report', again = .ok report' ∧ report'.isConverged = true) ∧
    (¬ ReadAsWritten (fun _ => true) .approle ttlRole → ∀ s,
      s.objects RoleKind.approle.object ⟨some "approle".toList, "web".toList⟩ = none →
      Ensures (taking secondsBackend plainReads) s (run ttlPlan)
        fun _ result _ => result = .error bootstrapContentionError) :=
  role_converges_iff rfl ttlRole_valid secondsBackend_faithful (plainReads_answers _ _)

/-- Without other clients the run takes its own write for another client's. -/
theorem ttlRole_contends :
    validateDurationParameter "1h".toList "approle token_ttl" = .ok () ∧
      (secondsBackend.object .approleRole none ttlRole).tokenTtl = some "3600".toList ∧
      Ensures (taking secondsBackend plainReads) .empty (run ttlPlan)
        fun _ result _ => result = .error bootstrapContentionError := by
  have hobject : (secondsBackend.object .approleRole none ttlRole).tokenTtl = some "3600".toList := by
    decide
  have hdiffers : ¬ ObjectKind.approleRole.matchesDesired
      (secondsBackend.object .approleRole none ttlRole) ttlRole = true := by decide
  refine ⟨validateDurationParameter_eq_ok_iff.mpr (ttlRole_valid .tokenTtl _ rfl), hobject, ?_⟩
  have hplan : ttlPlan.operations =
      [RoleKind.approle.operation "approle".toList "web".toList ttlRole] := rfl
  refine ensures_run_role hplan fun targetType target => ?_
  refine (ensureObject_contends (plainReads_answers _ _) rfl hdiffers).mono fun _ result _ h => ?_
  rw [h]
  rfl

end OpenBao.BootstrapDurations
