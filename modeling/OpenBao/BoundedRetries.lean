import OpenBao.ClientErrors
import OpenBao.Durations
import OpenBao.PanickingOperations

/-!
# Bounded retries

A request that may be repeated is sent again after temporary errors, with exponential,
jittered and capped delays in between. A computation that panics yields nothing.
-/

namespace OpenBao.BoundedRetries
open BinaryRounding Durations PanickingOperations

/-! ### Retry policies -/

def maxRetryAttempts : ℕ := 8
def maxRetryDelay : Duration := .fromSecs 60
def defaultRetryJitterPercent : ℕ := 20
def u32Bits : ℕ := 32
def u64Max : ℕ := 2 ^ 64 - 1

structure RetryPolicy where
  maxAttempts : ℕ
  initialDelay : Duration
  maxDelay : Duration
  jitterPercent : ℕ
  attempts_pos : 0 < maxAttempts
  attempts_le : maxAttempts ≤ maxRetryAttempts
  initial_le : initialDelay ≤ maxDelay
  max_le : maxDelay ≤ maxRetryDelay
  percent_le : jitterPercent ≤ defaultRetryJitterPercent

namespace RetryPolicy

def exponential (maxAttempts : ℕ) (initialDelay maxDelay : Duration) : Except Error RetryPolicy :=
  if hzero : maxAttempts = 0 then
    .error (.invalidParameter "retry attempts must be greater than zero")
  else if hattempts : maxRetryAttempts < maxAttempts then
    .error (.invalidParameter "retry attempts exceed maximum allowed value")
  else if initialDelay.isZero || maxDelay.isZero then
    .error (.invalidParameter "retry delays must be greater than zero")
  else if hdelays : maxRetryDelay < initialDelay ∨ maxRetryDelay < maxDelay then
    .error (.invalidParameter "retry delays exceed maximum allowed value")
  else if hordered : maxDelay < initialDelay then
    .error (.invalidParameter "initial retry delay must not exceed maximum retry delay")
  else
    .ok {
      maxAttempts, initialDelay, maxDelay
      jitterPercent := defaultRetryJitterPercent
      attempts_pos := Nat.pos_of_ne_zero hzero
      attempts_le := Nat.le_of_not_lt hattempts
      initial_le := le_of_not_gt hordered
      max_le := le_of_not_gt fun h => hdelays (.inr h)
      percent_le := Nat.le_refl _ }

def withoutJitter (policy : RetryPolicy) : RetryPolicy :=
  { policy with jitterPercent := 0, percent_le := Nat.zero_le _ }

end RetryPolicy

/-! ### Delays -/

/-- What one jitter computation finds: the random number of the operating system, the time
since 1970 unless the clock is before it, and the counter of fallback seeds. -/
structure JitterSample where
  random : Option (BitVec 64)
  clock : Option Duration
  counter : BitVec 64

/-- `u64::try_from(duration.as_nanos()).unwrap_or(u64::MAX)`. -/
def durationToSaturatingNanos (duration : Duration) : ℕ :=
  if duration.asNanos ≤ u64Max then duration.asNanos else u64Max

def retryJitterFallbackSeed (sample : JitterSample) (retryIndex : ℕ) : BitVec 64 :=
  let nanos := BitVec.ofNat 64 ((sample.clock.map durationToSaturatingNanos).getD 0)
  nanos ^^^ sample.counter.rotateLeft 17 ^^^ (BitVec.ofNat 64 retryIndex).rotateLeft 31

/-- `weakFallback` is the feature `allow-weak-jitter-fallback-acknowledged`; without it there
is no jitter where the operating system has no random number. -/
def retryJitterNanos (weakFallback : Bool) (sample : JitterSample) (maxNanos retryIndex : ℕ) :
    Option (Option ℕ) :=
  let modulus := min (maxNanos + 1) u64Max
  let seed := match sample.random with
    | some seed => some seed
    | none => if weakFallback then some (retryJitterFallbackSeed sample retryIndex) else none
  match seed with
  | some seed => (rem seed.toNat modulus).map some
  | none => some none

namespace RetryPolicy

def addJitter (policy : RetryPolicy) (weakFallback : Bool) (sample : JitterSample)
    (base : Duration) (retryIndex : ℕ) : Option Duration :=
  if policy.jitterPercent = 0 ∨ base.isZero then some base
  else do
    let maxJitter ← base.mulF64 (binary64 (policy.jitterPercent / 100))
    if maxJitter.isZero then some base
    else
      let maxNanos := durationToSaturatingNanos maxJitter
      if maxNanos = 0 then some base
      else
        match ← retryJitterNanos weakFallback sample maxNanos retryIndex with
        | none => some base
        | some jitterNanos =>
          some (min (base.saturatingAdd (.fromNanos jitterNanos)) policy.maxDelay)

def delayForRetry (policy : RetryPolicy) (weakFallback : Bool) (sample : JitterSample)
    (retryIndex : ℕ) : Option Duration :=
  let shift := min retryIndex (u32Bits - 1)
  let multiplier := (shiftLeft (1#32) shift).getD (BitVec.allOnes 32)
  let base := min (policy.initialDelay.saturatingMul multiplier.toNat) policy.maxDelay
  policy.addJitter weakFallback sample base retryIndex

end RetryPolicy

/-! ### Requests -/

inductive RetryableMethod where
  | get | head | list
  deriving DecidableEq, Repr

def isTokenChar (c : Char) : Bool := c.isAlphanum || "!#$%&'*+-.^_`|~".contains c

/-- `Method::from_bytes`: every token names a method. -/
def methodFromBytes (name : String) : Except String String :=
  if name ≠ "" ∧ name.toList.all isTokenChar then .ok name else .error "invalid HTTP method"

def RetryableMethod.asMethod : RetryableMethod → Except Error String
  | .get => .ok "GET"
  | .head => .ok "HEAD"
  | .list => (methodFromBytes "LIST").mapError .invalidHeader

structure JsonRequest (β : Type) where
  method : String
  path : String
  body : Option β

inductive Action (β : Type) where
  | request (sent : JsonRequest β)
  | delay (length : Duration)

variable {α β : Type}

section
variable (weakFallback : Bool) (samples : ℕ → JitterSample) (outcomes : ℕ → Except Error α)
  (method : RetryableMethod) (path : String) (body : Option β) (policy : RetryPolicy)

/-- The loop, after as many requests as sent. The requests' outcomes and the jitter samples
are given by the number of requests before them. -/
def retryLoop : ℕ → ℕ → ℕ → ℕ → Option (List (Action β) × Except Error α)
  | 0, _, _, _ => none
  | rounds + 1, sent, attempt, retryIndex =>
    match method.asMethod with
    | .error error => some ([], .error error)
    | .ok verb =>
      let request := .request ⟨verb, path, body⟩
      match outcomes sent with
      | .ok response => some ([request], .ok response)
      | .error error =>
        if attempt < policy.maxAttempts ∧ error.isTemporary = true then do
          let length ← policy.delayForRetry weakFallback (samples sent) retryIndex
          let nextAttempt ← add usizeMax attempt 1
          let nextIndex ← add usizeMax retryIndex 1
          let (actions, result) ← retryLoop rounds (sent + 1) nextAttempt nextIndex
          some (request :: .delay length :: actions, result)
        else some ([request], .error error)

/-- At most so many rounds of the loop. -/
def requestJsonWithRetry (rounds : ℕ) : Option (List (Action β) × Except Error α) :=
  retryLoop weakFallback samples outcomes method path body policy rounds 0 1 0

end

/-! ### What a bounded retry does -/

/-- Requests with one delay between two of them. -/
def interleaved (request : JsonRequest β) (delays : List Duration) : List (Action β) :=
  .request request :: delays.flatMap fun length => [.delay length, .request request]

def IsTemporaryError (outcome : Except Error α) : Prop :=
  ∃ error, outcome = .error error ∧ error.isTemporary = true

/-- The delay before retry `i`, without jitter and in nanoseconds. -/
def backoffNanos (initialDelay maxDelay : Duration) (i : ℕ) : ℕ :=
  min (initialDelay.asNanos * 2 ^ i) maxDelay.asNanos

/-- A number of attempts in bounds, each but the last with a temporary error, and the delays
in between. The last one may be followed by no further attempt. -/
structure IsBounded (maxAttempts : ℕ) (initialDelay maxDelay : Duration)
    (outcomes : ℕ → Except Error α) (delays : List Duration) : Prop where
  attempts : delays.length + 1 ≤ maxAttempts
  retried : ∀ i < delays.length, IsTemporaryError (outcomes i)
  settled : IsTemporaryError (outcomes delays.length) → delays.length + 1 = maxAttempts
  bounds : ∀ d ∈ delays, initialDelay ≤ d ∧ d ≤ maxDelay

variable {weakFallback : Bool} {samples : ℕ → JitterSample} {outcomes : ℕ → Except Error α}
  {method : RetryableMethod} {path : String} {body : Option β} {policy : RetryPolicy}

/-! ### One delay -/

theorem maxDelay_asNanos_le (policy : RetryPolicy) :
    policy.maxDelay.asNanos ≤ 60 * nanosPerSec := by
  have hle := Duration.le_iff_asNanos.mp policy.max_le
  rwa [maxRetryDelay, Duration.fromSecs, Duration.asNanos_saturating_of_le (by decide)] at hle

/-- The modulus is not zero, and below the largest number it is not cut off. -/
theorem retryJitterNanos_of_lt (weakFallback : Bool) (sample : JitterSample) {maxNanos : ℕ}
    (retryIndex : ℕ) (h : maxNanos < u64Max) :
    ∃ jitter, retryJitterNanos weakFallback sample maxNanos retryIndex = some jitter ∧
      ∀ nanos, jitter = some nanos → nanos ≤ maxNanos := by
  have hmodulus : min (maxNanos + 1) u64Max = maxNanos + 1 := by omega
  simp only [retryJitterNanos, hmodulus, rem_of_pos (Nat.succ_pos maxNanos), Option.map_some]
  split
  · refine ⟨_, rfl, fun nanos hnanos => ?_⟩
    obtain rfl := Option.some.inj hnanos
    exact Nat.le_of_lt_succ (Nat.mod_lt _ (Nat.succ_pos maxNanos))
  · exact ⟨none, rfl, nofun⟩

/-- Jitter prolongs a delay, up to the longest one. -/
theorem addJitter_exact (weakFallback : Bool) (sample : JitterSample) {base : Duration}
    (retryIndex : ℕ) (hbase : base ≤ policy.maxDelay) :
    ∃ extra length, policy.addJitter weakFallback sample base retryIndex = some length ∧
      length.asNanos = min (base.asNanos + extra) policy.maxDelay.asNanos ∧
      (policy.jitterPercent = 0 → extra = 0) := by
  have hnanos := Duration.le_iff_asNanos.mp hbase
  have hmax := maxDelay_asNanos_le policy
  have hunchanged : base.asNanos = min (base.asNanos + 0) policy.maxDelay.asNanos := by omega
  by_cases hnone : policy.jitterPercent = 0 ∨ base.isZero = true
  · exact ⟨0, base, if_pos hnone, hunchanged, fun _ => rfl⟩
  · have hpercent : (policy.jitterPercent : ℚ) / 100 ≤ 2 ^ 0 := by
      rw [pow_zero, div_le_one (by norm_num)]
      exact_mod_cast policy.percent_le.trans (by decide)
    have hsecs : base.secs ≤ 2 ^ 6 := by
      simp only [Duration.asNanos, nanosPerSec] at hnanos hmax
      omega
    obtain ⟨maxJitter, hproduct, hlimit⟩ :=
      Duration.mulF64_of_le (binary64_le hpercent) hsecs (by decide)
    have hsaturating : durationToSaturatingNanos maxJitter = maxJitter.asNanos :=
      if_pos (hlimit.trans (by decide))
    have hlt : durationToSaturatingNanos maxJitter < u64Max :=
      hsaturating.trans_lt (hlimit.trans_lt (by decide))
    obtain ⟨jitter, hjitter, hbound⟩ :=
      retryJitterNanos_of_lt weakFallback sample retryIndex hlt
    rw [RetryPolicy.addJitter, if_neg hnone, hproduct, Option.bind_eq_bind, Option.bind_some]
    by_cases hzero : maxJitter.isZero = true
    · exact ⟨0, base, if_pos hzero, hunchanged, fun _ => rfl⟩
    by_cases hnanosZero : durationToSaturatingNanos maxJitter = 0
    · exact ⟨0, base, by rw [if_neg hzero, if_pos hnanosZero], hunchanged, fun _ => rfl⟩
    · rw [if_neg hzero, if_neg hnanosZero, hjitter, Option.bind_eq_bind, Option.bind_some]
      cases jitter with
      | none => exact ⟨0, base, rfl, hunchanged, fun _ => rfl⟩
      | some extra =>
        have hextra : extra ≤ 2 ^ (6 + 1) * nanosPerSec :=
          (hbound extra rfl).trans (hsaturating.trans_le hlimit)
        have hsum : base.asNanos + extra ≤ Duration.max.asNanos := by
          calc base.asNanos + extra ≤ 60 * nanosPerSec + 2 ^ (6 + 1) * nanosPerSec :=
                Nat.add_le_add (hnanos.trans hmax) hextra
            _ ≤ Duration.max.asNanos := by decide
        refine ⟨extra, _, rfl, ?_, fun h => absurd (.inl h) hnone⟩
        rw [Duration.asNanos_min, Duration.saturatingAdd,
          Duration.asNanos_fromNanos (hextra.trans_lt (by decide)),
          Duration.asNanos_saturating_of_le hsum]

theorem multiplier_eq {i : ℕ} (hi : i < 32) :
    ((shiftLeft (1#32) (min i (u32Bits - 1))).getD (BitVec.allOnes 32)).toNat = 2 ^ i := by
  have hshift : min i (u32Bits - 1) = i := by
    unfold u32Bits
    omega
  have hpower : 2 ^ i < 2 ^ 32 := Nat.pow_lt_pow_right (by decide) hi
  rw [hshift, shiftLeft_of_lt hi, Option.getD_some, BitVec.toNat_shiftLeft, Nat.shiftLeft_eq,
    BitVec.toNat_one (by decide), Nat.one_mul, Nat.mod_eq_of_lt hpower]

theorem delayForRetry_exact (weakFallback : Bool) (sample : JitterSample) {i : ℕ} (hi : i < 32) :
    ∃ extra length, policy.delayForRetry weakFallback sample i = some length ∧
      length.asNanos = min (backoffNanos policy.initialDelay policy.maxDelay i + extra)
        policy.maxDelay.asNanos ∧
      (policy.jitterPercent = 0 → extra = 0) := by
  have hinitial := Duration.le_iff_asNanos.mp policy.initial_le
  have hmax := maxDelay_asNanos_le policy
  have hpower : 2 ^ i < 2 ^ 32 := Nat.pow_lt_pow_right (by decide) hi
  have hproduct : policy.initialDelay.asNanos * 2 ^ i ≤ Duration.max.asNanos := by
    calc policy.initialDelay.asNanos * 2 ^ i ≤ 60 * nanosPerSec * 2 ^ 32 :=
          Nat.mul_le_mul (hinitial.trans hmax) hpower.le
      _ ≤ Duration.max.asNanos := by decide
  have hbase : (min (policy.initialDelay.saturatingMul (2 ^ i)) policy.maxDelay).asNanos =
      backoffNanos policy.initialDelay policy.maxDelay i := by
    rw [Duration.asNanos_min, Duration.saturatingMul, Duration.asNanos_saturating_of_le hproduct]
    rfl
  have hjitter := addJitter_exact weakFallback sample i
    (min_le_right (policy.initialDelay.saturatingMul (2 ^ i)) policy.maxDelay)
  rw [hbase] at hjitter
  rwa [RetryPolicy.delayForRetry, multiplier_eq hi]

/-! ### A run -/

theorem asMethod_eq_ok (method : RetryableMethod) : ∃ verb, method.asMethod = .ok verb := by
  cases method with
  | get => exact ⟨_, rfl⟩
  | head => exact ⟨_, rfl⟩
  | list =>
    have htoken : methodFromBytes "LIST" = .ok "LIST" := if_pos (by decide +kernel)
    exact ⟨"LIST", by rw [RetryableMethod.asMethod, htoken]; rfl⟩

/-- The delays of a run from some request on, each the one its retry computes. -/
structure Retried (weakFallback : Bool) (samples : ℕ → JitterSample)
    (outcomes : ℕ → Except Error α) (policy : RetryPolicy) (sent : ℕ) (delays : List Duration) :
    Prop where
  attempts : sent + delays.length < policy.maxAttempts
  retried : ∀ i < delays.length, IsTemporaryError (outcomes (sent + i))
  settled : IsTemporaryError (outcomes (sent + delays.length)) →
    sent + delays.length + 1 = policy.maxAttempts
  computed : ∀ i length, delays[i]? = some length →
    policy.delayForRetry weakFallback (samples (sent + i)) (sent + i) = some length

variable {sent : ℕ} {delays : List Duration} {length : Duration}

theorem Retried.last (hsent : sent < policy.maxAttempts)
    (h : IsTemporaryError (outcomes sent) → sent + 1 = policy.maxAttempts) :
    Retried weakFallback samples outcomes policy sent [] where
  attempts := hsent
  retried i hi := absurd hi (Nat.not_lt_zero i)
  settled := h
  computed i length h := by cases h

theorem Retried.cons (htemporary : IsTemporaryError (outcomes sent))
    (hlength : policy.delayForRetry weakFallback (samples sent) sent = some length)
    (h : Retried weakFallback samples outcomes policy (sent + 1) delays) :
    Retried weakFallback samples outcomes policy sent (length :: delays) := by
  have hcount : sent + (length :: delays).length = sent + 1 + delays.length := by
    rw [List.length_cons]
    omega
  constructor
  · rw [hcount]
    exact h.attempts
  · intro i hi
    cases i with
    | zero => exact htemporary
    | succ i =>
      have hnext := h.retried i (Nat.lt_of_succ_lt_succ hi)
      rwa [Nat.add_right_comm] at hnext
  · rw [hcount]
    exact h.settled
  · intro i d hd
    cases i with
    | zero =>
      obtain rfl := Option.some.inj hd
      exact hlength
    | succ i =>
      have hnext := h.computed i d hd
      rwa [Nat.add_right_comm] at hnext

/-- With as many rounds as attempts are left, the loop returns. -/
theorem retryLoop_exact {verb : String} (hverb : method.asMethod = .ok verb) (rounds : ℕ)
    (hrounds : policy.maxAttempts ≤ sent + rounds) (hsent : sent < policy.maxAttempts) :
    ∃ delays, retryLoop weakFallback samples outcomes method path body policy rounds sent
        (sent + 1) sent =
      some (interleaved ⟨verb, path, body⟩ delays, outcomes (sent + delays.length)) ∧
      Retried weakFallback samples outcomes policy sent delays := by
  induction rounds generalizing sent with
  | zero => omega
  | succ rounds ih =>
    have hattempts := policy.attempts_le
    unfold maxRetryAttempts at hattempts
    rw [retryLoop, hverb]
    cases houtcome : outcomes sent with
    | ok response =>
      refine ⟨[], by simp only [List.length_nil, Nat.add_zero, houtcome]; rfl, .last hsent ?_⟩
      rintro ⟨error, herror, -⟩
      rw [houtcome] at herror
      cases herror
    | error error =>
      by_cases hretry : sent + 1 < policy.maxAttempts ∧ error.isTemporary = true
      · obtain ⟨_, length, hlength, -⟩ :=
          @delayForRetry_exact policy weakFallback (samples sent) sent (by omega)
        obtain ⟨delays, hloop, hrest⟩ := @ih (sent + 1) (by omega) hretry.1
        refine ⟨length :: delays, ?_, .cons ⟨error, houtcome, hretry.2⟩ hlength hrest⟩
        have hattempt : sent + 1 + 1 ≤ usizeMax := by
          unfold usizeMax
          omega
        have hcount : sent + (length :: delays).length = sent + 1 + delays.length := by
          rw [List.length_cons]
          omega
        have hindex : sent + 1 ≤ usizeMax := Nat.le_of_succ_le hattempt
        simp only [if_pos hretry, hlength, add_of_le hattempt, add_of_le hindex, hloop, hcount,
          Option.bind_eq_bind, Option.bind_some]
        rfl
      · refine ⟨[], ?_, .last hsent ?_⟩
        · simp only [if_neg hretry, List.length_nil, Nat.add_zero, houtcome]
          rfl
        · rintro ⟨error', herror, htemporary⟩
          rw [houtcome] at herror
          cases herror
          have hlast : ¬sent + 1 < policy.maxAttempts := fun h => hretry ⟨h, htemporary⟩
          omega

theorem exponential_eq_ok {maxAttempts : ℕ} {initialDelay maxDelay : Duration}
    (h : RetryPolicy.exponential maxAttempts initialDelay maxDelay = .ok policy) :
    policy.maxAttempts = maxAttempts ∧ policy.initialDelay = initialDelay ∧
      policy.maxDelay = maxDelay := by
  unfold RetryPolicy.exponential at h
  split_ifs at h
  obtain rfl := Except.ok.inj h
  exact ⟨rfl, rfl, rfl⟩

theorem exponential_accepts {maxAttempts : ℕ} {initialDelay maxDelay : Duration}
    (hpos : 0 < maxAttempts) (hattempts : maxAttempts ≤ maxRetryAttempts)
    (hinitial : 0 < initialDelay.asNanos) (hordered : initialDelay ≤ maxDelay)
    (hmax : maxDelay ≤ maxRetryDelay) :
    ∃ policy, RetryPolicy.exponential maxAttempts initialDelay maxDelay = .ok policy := by
  have hnanos := Duration.le_iff_asNanos.mp hordered
  have hnonzero : ¬(initialDelay.isZero || maxDelay.isZero) = true := by
    rw [Bool.or_eq_true, Duration.isZero_iff, Duration.isZero_iff]
    omega
  have hdelays : ¬(maxRetryDelay < initialDelay ∨ maxRetryDelay < maxDelay) :=
    not_or.mpr ⟨not_lt_of_ge (hordered.trans hmax), not_lt_of_ge hmax⟩
  rw [RetryPolicy.exponential, dif_neg (Nat.ne_of_gt hpos), dif_neg (Nat.not_lt_of_le hattempts),
    if_neg hnonzero, dif_neg hdelays, dif_neg (not_lt_of_ge hordered)]
  exact ⟨_, rfl⟩

/-- Every delay of a whole run is a capped power, prolonged by the jitter. -/
theorem Retried.delay_eq (h : Retried weakFallback samples outcomes policy 0 delays) {i : ℕ}
    (hi : i < delays.length) : ∃ extra,
      delays[i].asNanos = min (backoffNanos policy.initialDelay policy.maxDelay i + extra)
        policy.maxDelay.asNanos ∧ (policy.jitterPercent = 0 → extra = 0) := by
  have hattempts := h.attempts
  have hlimit := policy.attempts_le
  unfold maxRetryAttempts at hlimit
  obtain ⟨extra, length, hlength, hnanos, hextra⟩ :=
    @delayForRetry_exact policy weakFallback (samples i) i (by omega)
  have hcomputed := h.computed i _ (List.getElem?_eq_getElem hi)
  rw [Nat.zero_add, hlength] at hcomputed
  obtain rfl := Option.some.inj hcomputed
  exact ⟨extra, hnanos, hextra⟩

theorem Retried.isBounded (h : Retried weakFallback samples outcomes policy 0 delays) :
    IsBounded policy.maxAttempts policy.initialDelay policy.maxDelay outcomes delays where
  attempts := by
    have hattempts := h.attempts
    omega
  retried := by
    have hretried := h.retried
    simp only [Nat.zero_add] at hretried
    exact hretried
  settled := by
    have hsettled := h.settled
    simp only [Nat.zero_add] at hsettled
    exact hsettled
  bounds := by
    intro d hd
    obtain ⟨i, hi, rfl⟩ := List.getElem_of_mem hd
    obtain ⟨extra, hnanos, -⟩ := h.delay_eq hi
    have hordered := Duration.le_iff_asNanos.mp policy.initial_le
    have hpower : policy.initialDelay.asNanos ≤ policy.initialDelay.asNanos * 2 ^ i :=
      Nat.le_mul_of_pos_right _ (Nat.two_pow_pos i)
    rw [Duration.le_iff_asNanos, Duration.le_iff_asNanos, hnanos]
    unfold backoffNanos
    omega

theorem backoffNanos_mono (initialDelay maxDelay : Duration) :
    Monotone (backoffNanos initialDelay maxDelay) := by
  intro i j hij
  have hpower : initialDelay.asNanos * 2 ^ i ≤ initialDelay.asNanos * 2 ^ j :=
    Nat.mul_le_mul_left _ (Nat.pow_le_pow_right two_pos hij)
  unfold backoffNanos
  omega

/-- Without jitter the delays are exactly the capped powers. -/
theorem Retried.delays_eq (h : Retried weakFallback samples outcomes policy 0 delays)
    (hjitter : policy.jitterPercent = 0) : delays.map Duration.asNanos =
      (List.range delays.length).map (backoffNanos policy.initialDelay policy.maxDelay) := by
  apply List.ext_getElem (by simp)
  intro i hi _
  rw [List.length_map] at hi
  obtain ⟨extra, hnanos, hextra⟩ := h.delay_eq hi
  rw [List.getElem_map, List.getElem_map, List.getElem_range, hnanos, hextra hjitter]
  unfold backoffNanos
  omega

theorem pairwise_of_backoff {initialDelay maxDelay : Duration}
    (h : delays.map Duration.asNanos =
      (List.range delays.length).map (backoffNanos initialDelay maxDelay)) :
    delays.Pairwise (· ≤ ·) := by
  have hrange : ((List.range delays.length).map (backoffNanos initialDelay maxDelay)).Pairwise
      (· ≤ ·) := by
    rw [List.pairwise_map]
    exact List.pairwise_lt_range.imp fun hij => backoffNanos_mono _ _ (Nat.le_of_lt hij)
  rw [← h, List.pairwise_map] at hrange
  exact hrange

/-- A retry that is asked for returns the outcome of its last request, which is the first one
that is no temporary error or the last one allowed, behind requests with delays in bounds in
between. Without jitter every delay doubles the one before, up to the longest one. -/
theorem requestJsonWithRetry_bounded {maxAttempts rounds : ℕ} {initialDelay maxDelay : Duration}
    (h : RetryPolicy.exponential maxAttempts initialDelay maxDelay = .ok policy)
    (hrounds : maxAttempts ≤ rounds) (weakFallback : Bool) (samples : ℕ → JitterSample)
    (outcomes : ℕ → Except Error α) (method : RetryableMethod) (path : String)
    (body : Option β) :
    ∃ verb, method.asMethod = .ok verb ∧
      (∃ delays, requestJsonWithRetry weakFallback samples outcomes method path body policy
          rounds = some (interleaved ⟨verb, path, body⟩ delays, outcomes delays.length) ∧
        IsBounded maxAttempts initialDelay maxDelay outcomes delays) ∧
      ∃ delays, requestJsonWithRetry weakFallback samples outcomes method path body
          policy.withoutJitter rounds =
            some (interleaved ⟨verb, path, body⟩ delays, outcomes delays.length) ∧
        IsBounded maxAttempts initialDelay maxDelay outcomes delays ∧
        delays.map Duration.asNanos =
          (List.range delays.length).map (backoffNanos initialDelay maxDelay) ∧
        delays.Pairwise (· ≤ ·) := by
  obtain ⟨rfl, rfl, rfl⟩ := exponential_eq_ok h
  obtain ⟨verb, hverb⟩ := asMethod_eq_ok method
  have hrun : ∀ policy' : RetryPolicy, policy'.maxAttempts = policy.maxAttempts →
      ∃ delays, requestJsonWithRetry weakFallback samples outcomes method path body policy'
          rounds = some (interleaved ⟨verb, path, body⟩ delays, outcomes delays.length) ∧
        Retried weakFallback samples outcomes policy' 0 delays := by
    intro policy' hattempts
    have hloop := @retryLoop_exact α β weakFallback samples outcomes method path body policy' 0
      verb hverb rounds (by omega) policy'.attempts_pos
    simp only [Nat.zero_add] at hloop
    exact hloop
  refine ⟨verb, hverb, ?_, ?_⟩
  · obtain ⟨delays, hresult, hretried⟩ := hrun policy rfl
    exact ⟨delays, hresult, hretried.isBounded⟩
  · obtain ⟨delays, hresult, hretried⟩ := hrun policy.withoutJitter rfl
    have hdelays := hretried.delays_eq rfl
    exact ⟨delays, hresult, hretried.isBounded, hdelays, pairwise_of_backoff hdelays⟩

theorem requestJsonWithRetry_bounded_list : ∃ policy,
    RetryPolicy.exponential 3 (.fromNanos 100000000) (.fromSecs 1) = .ok policy ∧
      ∃ delays, requestJsonWithRetry false (fun _ => ⟨some 7, none, 0⟩)
          (fun _ => (.error (.transport "reset") : Except Error Unit)) .list "auth/token/accessors"
          (none : Option Unit) policy 3 =
        some (interleaved ⟨"LIST", "auth/token/accessors", none⟩ delays,
          .error (.transport "reset")) ∧ delays.length = 2 := by
  obtain ⟨policy, hpolicy⟩ := @exponential_accepts 3 (.fromNanos 100000000) (.fromSecs 1)
    (by decide) (by decide) (by decide) (Duration.le_iff_asNanos.mpr (by decide))
    (Duration.le_iff_asNanos.mpr (by decide))
  have hmethod : RetryableMethod.list.asMethod = .ok "LIST" := by decide +kernel
  obtain ⟨verb, hverb, ⟨delays, hrun, hbounded⟩, -⟩ := requestJsonWithRetry_bounded hpolicy
    (Nat.le_refl 3) false (fun _ => ⟨some 7, none, 0⟩)
    (fun _ => (.error (.transport "reset") : Except Error Unit)) .list "auth/token/accessors"
    (none : Option Unit)
  obtain rfl := Except.ok.inj (hmethod.symm.trans hverb)
  have hlast := hbounded.settled ⟨_, rfl, rfl⟩
  exact ⟨policy, hpolicy, delays, hrun, by omega⟩

end OpenBao.BoundedRetries
