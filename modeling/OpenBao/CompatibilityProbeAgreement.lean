import OpenBao.CompatibilityProbe
import OpenBao.SingleFlight

/-!
# Agreement on the compatibility result

The probe refines a cell that one party at a time may lease. What holds of the cell
over whole runs then holds of the cache: one leader, and a result that stays.
-/

namespace OpenBao.CompatibilityProbeAgreement
open CompatibilityProbe Relation SingleFlight

variable {Caller : Type} [DecidableEq Caller]

/-- The cell without the name of the party that leases it. -/
def anonymous {Party Value : Type*} : Cell Party Value → Cell Unit Value
  | .idle => .idle
  | .leased _ => .leased ()
  | .settled v => .settled v

/-- The cache without its waiters. -/
def outline : CompatibilityVerificationState → Cell Unit CachedCompatibilityResult
  | .pending => .idle
  | .running _ => .leased ()
  | .complete result => .settled result

theorem outline_eq_settled_iff {v : CompatibilityVerificationState}
    {result : CachedCompatibilityResult} :
    outline v = .settled result ↔ v = .complete result := by
  cases v <;> simp [outline]

theorem outline_eq_leased_iff {v : CompatibilityVerificationState} :
    outline v = .leased () ↔ ∃ waiters, v = .running waiters := by
  cases v <;> simp [outline]

theorem anonymous_eq_settled_iff {Party Value : Type*} {cell : Cell Party Value} {v : Value} :
    anonymous cell = .settled v ↔ cell = .settled v := by
  cases cell <;> simp [anonymous]

@[simp] theorem outline_pollWait (token : Token) (waker : Waker)
    (v : CompatibilityVerificationState) : outline (v.pollWait token waker).2 = outline v := by
  cases v with
  | running waiters =>
    simp only [CompatibilityVerificationState.pollWait]
    split
    · rfl
    · split <;> rfl
  | _ => rfl

@[simp] theorem outline_dropWait (token : Token) (v : CompatibilityVerificationState) :
    outline (v.dropWait token) = outline v := by
  cases v <;> rfl

@[simp] theorem wake_eq_leading_iff {wakers : List Waker} {phase : Phase} :
    phase.wake wakers = .leading ↔ phase = .leading := by
  cases phase <;> simp [Phase.wake]

/-- The cell that the cache and the callers' phases stand for. -/
def Abstracts (s : ProbeSystem Caller) (cell : Cell Caller CachedCompatibilityResult) : Prop :=
  outline s.verification = anonymous cell ∧ ∀ c, s.phase c = .leading ↔ cell = .leased c

/-- A step of a caller that neither was nor becomes the leader. -/
theorem Abstracts.goto {s : ProbeSystem Caller} {cell : Cell Caller CachedCompatibilityResult}
    (h : Abstracts s cell) {c : Caller} {phase : Phase} {v : CompatibilityVerificationState}
    (hold : s.phase c ≠ .leading) (hnew : phase ≠ .leading)
    (hv : outline v = outline s.verification) : Abstracts (s.goto c phase v) cell := by
  refine ⟨hv.trans h.1, fun d => ?_⟩
  by_cases hd : d = c
  · subst hd
    rw [ProbeSystem.goto_phase_self, ← h.2 d]
    exact iff_of_false hnew hold
  · rw [ProbeSystem.goto_phase_of_ne hd]
    exact h.2 d

/-- The leader gives up its lease. -/
theorem Abstracts.gotoWaking {s : ProbeSystem Caller} {c : Caller}
    {cell cell' : Cell Caller CachedCompatibilityResult} {phase : Phase}
    {after : List Waker × CompatibilityVerificationState}
    (h : Abstracts s cell) (hc : s.phase c = .leading) (hnew : phase ≠ .leading)
    (hv : outline after.2 = anonymous cell') (hfree : ∀ d, cell' ≠ .leased d) :
    Abstracts (s.gotoWaking c phase after) cell' := by
  refine ⟨hv, fun d => iff_of_false ?_ (hfree d)⟩
  by_cases hd : d = c
  · subst hd
    rwa [ProbeSystem.gotoWaking_phase_self]
  · rw [ProbeSystem.gotoWaking_phase_of_ne hd, wake_eq_leading_iff, h.2 d, (h.2 c).mp hc]
    simpa using Ne.symm hd

theorem step_simulates {s s' : ProbeSystem Caller} {cell : Cell Caller CachedCompatibilityResult}
    (hs : Step s s') (h : Abstracts s cell) :
    ∃ cell', ReflGen Move cell cell' ∧ Abstracts s' cell' := by
  cases hs with
  | enter c token hphase hfresh =>
    cases hv : s.verification with
    | pending =>
      have hidle : cell = .idle := by
        cases cell <;> simp [Abstracts, hv, outline, anonymous] at h ⊢
      subst hidle
      refine ⟨.leased c, .single (.lease c), rfl, fun d => ?_⟩
      by_cases hd : d = c
      · subst hd
        simp [CompatibilityVerificationState.chooseAction, Phase.ofAction]
      · rw [ProbeSystem.goto_phase_of_ne hd, h.2 d]
        simpa using Ne.symm hd
    | running waiters => exact ⟨cell, .refl, h.goto (by simp [hphase]) nofun (by rw [hv]; rfl)⟩
    | complete result => exact ⟨cell, .refl, h.goto (by simp [hphase]) nofun (by rw [hv]; rfl)⟩
  | poll c token waker hphase =>
    refine ⟨cell, .refl, h.goto ?_ ?_ (outline_pollWait ..)⟩
    · intro hl
      simp [hl, Phase.pollable?] at hphase
    · cases (s.verification.pollWait token waker).1 <;> simp [Phase.ofPoll]
  | dropReady c token outcome hphase =>
    refine ⟨cell, .refl, h.goto (by simp [hphase]) ?_ (outline_dropWait ..)⟩
    cases outcome <;> simp [Phase.ofOutcome, Phase.ofResult]
  | cancelWait c token waker woken hphase =>
    exact ⟨cell, .refl, h.goto (by simp [hphase]) nofun (outline_dropWait ..)⟩
  | complete c result hphase =>
    obtain rfl := (h.2 c).mp hphase
    refine ⟨.settled result, .single (.settle c result), h.gotoWaking hphase nofun ?_ nofun⟩
    cases s.verification <;> rfl
  | cancelLead c hphase =>
    obtain rfl := (h.2 c).mp hphase
    refine ⟨.idle, .single (.release c), h.gotoWaking hphase nofun ?_ nofun⟩
    obtain ⟨waiters, hv⟩ := outline_eq_leased_iff.mp h.1
    rw [hv]
    rfl

theorem steps_simulate {s s' : ProbeSystem Caller} {cell : Cell Caller CachedCompatibilityResult}
    (hs : Steps s s') (h : Abstracts s cell) :
    ∃ cell', ReflTransGen Move cell cell' ∧ Abstracts s' cell' := by
  refine run_simulates ?_ hs h
  exact fun _ _ _ => step_simulates

omit [DecidableEq Caller] in
theorem init_abstracts (policy : Option OpenBaoCompatibilityPolicy) :
    ∃ cell, Abstracts (.init policy : ProbeSystem Caller) cell := by
  cases hv : newVerification policy with
  | pending =>
    exact ⟨.idle, by simp [ProbeSystem.init, hv, outline, anonymous], by simp [ProbeSystem.init]⟩
  | running waiters =>
    cases policy with
    | none => simp [newVerification] at hv
    | some policy =>
      cases policy <;> simp [newVerification, OpenBaoCompatibilityPolicy.immediateReport] at hv
  | complete result =>
    exact ⟨.settled result, by simp [ProbeSystem.init, hv, outline, anonymous],
      by simp [ProbeSystem.init]⟩

/-- Every reachable state stands for a cell. -/
theorem reachable_abstracts {policy : Option OpenBaoCompatibilityPolicy} {s : ProbeSystem Caller}
    (h : Reachable policy s) : ∃ cell, Abstracts s cell := by
  obtain ⟨cell, hc⟩ : ∃ cell, Abstracts (.init policy : ProbeSystem Caller) cell :=
    init_abstracts policy
  obtain ⟨cell', -, hc'⟩ := steps_simulate h hc
  exact ⟨cell', hc'⟩

/-- A cached result is final. -/
theorem Abstracts.complete_final {s s' : ProbeSystem Caller}
    {cell : Cell Caller CachedCompatibilityResult} (h : Abstracts s cell)
    {result : CachedCompatibilityResult} (hv : s.verification = .complete result)
    (hs : Steps s s') : s'.verification = .complete result := by
  have hc : cell = .settled result := by
    rw [← anonymous_eq_settled_iff, ← h.1, outline_eq_settled_iff]
    exact hv
  obtain ⟨cell', hrun, h'⟩ := steps_simulate hs (hc ▸ h)
  rw [← outline_eq_settled_iff, h'.1, settled_final hrun]
  rfl

/-- A caller that has a result has the cached one, or was turned away. -/
def AgreesWith (v : CompatibilityVerificationState) : Phase → Prop
  | .ready _ (.complete result) => v = .complete result
  | .returned returned =>
    returned = .error tooManyWaitersError ∨
      ∃ result, v = .complete result ∧ returned = result.mapError compatibilityError
  | _ => True

theorem AgreesWith.ofResult {v : CompatibilityVerificationState}
    {result : CachedCompatibilityResult} (h : v = .complete result) :
    AgreesWith v (.ofResult result) := .inr ⟨result, h, rfl⟩

@[simp] theorem agreesWith_wake {v : CompatibilityVerificationState} {wakers : List Waker}
    {phase : Phase} : AgreesWith v (phase.wake wakers) ↔ AgreesWith v phase := by
  cases phase <;> rfl

theorem AgreesWith.mono {v v' : CompatibilityVerificationState} {phase : Phase}
    (h : AgreesWith v phase) (hv : ∀ result, v = .complete result → v' = .complete result) :
    AgreesWith v' phase := by
  cases phase with
  | ready token outcome =>
    cases outcome with
    | complete result => exact hv result h
    | _ => trivial
  | returned returned =>
    rcases h with h | ⟨result, h, hr⟩
    · exact .inl h
    · exact .inr ⟨result, hv result h, hr⟩
  | _ => trivial

/-- The phase that a step gives its own caller. -/
theorem agreesWith_pollWait (token : Token) (waker : Waker) (v : CompatibilityVerificationState) :
    AgreesWith (v.pollWait token waker).2 (.ofPoll token waker (v.pollWait token waker).1) := by
  cases v with
  | pending => trivial
  | complete result => exact rfl
  | running waiters =>
    simp only [CompatibilityVerificationState.pollWait]
    split
    · trivial
    · split <;> trivial

theorem agreesWith_chooseAction (token : Token) (v : CompatibilityVerificationState) :
    AgreesWith v.chooseAction.2 (.ofAction token v.chooseAction.1) := by
  cases v with
  | complete result => exact .ofResult rfl
  | _ => trivial

theorem agreesWith_dropWait {v : CompatibilityVerificationState} {token : Token}
    {outcome : CompatibilityWaitOutcome} (h : AgreesWith v (.ready token outcome)) :
    AgreesWith (v.dropWait token) (.ofOutcome outcome) := by
  cases outcome with
  | complete result =>
    rw [show v = .complete result from h]
    exact .ofResult rfl
  | retry => trivial
  | tooManyWaiters => exact .inl rfl

/-- Agreement moves from the callers before a step to those after it. -/
theorem agreed_gotoWaking {s : ProbeSystem Caller} {c : Caller} {phase : Phase}
    {after : List Waker × CompatibilityVerificationState}
    (h : ∀ d, AgreesWith s.verification (s.phase d)) (hc : AgreesWith after.2 phase)
    (hv : ∀ result, s.verification = .complete result → after.2 = .complete result) (d : Caller) :
    AgreesWith after.2 ((s.gotoWaking c phase after).phase d) := by
  by_cases hd : d = c
  · subst hd
    rwa [ProbeSystem.gotoWaking_phase_self]
  · rw [ProbeSystem.gotoWaking_phase_of_ne hd, agreesWith_wake]
    exact (h d).mono hv

theorem agreed_goto {s : ProbeSystem Caller} {c : Caller} {phase : Phase}
    {v : CompatibilityVerificationState} (h : ∀ d, AgreesWith s.verification (s.phase d))
    (hc : AgreesWith v phase)
    (hv : ∀ result, s.verification = .complete result → v = .complete result) (d : Caller) :
    AgreesWith v ((s.goto c phase v).phase d) := by
  by_cases hd : d = c
  · subst hd
    rwa [ProbeSystem.goto_phase_self]
  · rw [ProbeSystem.goto_phase_of_ne hd]
    exact (h d).mono hv

theorem step_agreed {s s' : ProbeSystem Caller} {cell : Cell Caller CachedCompatibilityResult}
    (hs : Step s s') (ha : Abstracts s cell) (h : ∀ c, AgreesWith s.verification (s.phase c)) :
    ∀ c, AgreesWith s'.verification (s'.phase c) := by
  have hv : ∀ result, s.verification = .complete result → s'.verification = .complete result :=
    fun result hr => ha.complete_final hr (.single hs)
  cases hs with
  | enter c token hphase hfresh => exact agreed_goto h (agreesWith_chooseAction ..) hv
  | poll c token waker hphase => exact agreed_goto h (agreesWith_pollWait ..) hv
  | dropReady c token outcome hphase =>
    exact agreed_goto h (agreesWith_dropWait (hphase ▸ h c)) hv
  | cancelWait c token waker woken hphase => exact agreed_goto h trivial hv
  | complete c result hphase =>
    refine agreed_gotoWaking h (.ofResult ?_) hv
    cases s.verification <;> rfl
  | cancelLead c hphase => exact agreed_gotoWaking h trivial hv

theorem reachable_agreed {policy : Option OpenBaoCompatibilityPolicy} {s : ProbeSystem Caller}
    (h : Reachable policy s) : ∀ c, AgreesWith s.verification (s.phase c) := by
  induction h with
  | refl => exact fun c => trivial
  | tail hrun hs ih =>
    obtain ⟨cell, hc⟩ := reachable_abstracts hrun
    exact step_agreed hs hc ih

/-- The cache is running exactly while one caller leads, no two callers lead at
once, a cached result is final, and whoever returns returns it, unless turned away. -/
theorem ensureCompatibility_agreement {policy : Option OpenBaoCompatibilityPolicy}
    {s : ProbeSystem Caller} (h : Reachable policy s) :
    ((∃ waiters, s.verification = .running waiters) ↔ ∃ c, s.phase c = .leading) ∧
    (∀ c d, s.phase c = .leading → s.phase d = .leading → c = d) ∧
    (∀ result s', s.verification = .complete result → Steps s s' →
      s'.verification = .complete result) ∧
    (∀ c returned, s.phase c = .returned returned →
      returned = .error tooManyWaitersError ∨
        ∃ result, s.verification = .complete result ∧
          returned = result.mapError compatibilityError) := by
  obtain ⟨cell, hc⟩ := reachable_abstracts h
  refine ⟨?_, ?_, fun result s' hv hs => hc.complete_final hv hs, fun c returned hr => ?_⟩
  · rw [← outline_eq_leased_iff, hc.1]
    cases cell with
    | leased c => simpa [anonymous] using ⟨c, (hc.2 c).mpr rfl⟩
    | idle => simp [anonymous, hc.2]
    | settled result => simp [anonymous, hc.2]
  · intro c d hl hl'
    have he := ((hc.2 c).mp hl).symm.trans ((hc.2 d).mp hl')
    simpa using he
  · have ha := reachable_agreed h c
    rwa [hr] at ha

theorem ensureCompatibility_agreement_led :
    ∃ s : ProbeSystem ℕ, s.phase 0 = .leading ∧ (∃ waiters, s.verification = .running waiters) ∧
      ∀ d, s.phase d = .leading → d = 0 := by
  have hr : Reachable (some .automaticStrict)
      ((ProbeSystem.init (some .automaticStrict) : ProbeSystem ℕ).goto 0 .leading (.running [])) :=
    .single (Step.enter 0 0 rfl ⟨fun c => by simp [ProbeSystem.init, Phase.token?], nofun⟩)
  have hl := ProbeSystem.goto_phase_self (ProbeSystem.init (some .automaticStrict)) 0 .leading
    (.running [])
  exact ⟨_, hl, (ensureCompatibility_agreement hr).1.mpr ⟨0, hl⟩,
    fun d hd => (ensureCompatibility_agreement hr).2.1 d 0 hd hl⟩

end OpenBao.CompatibilityProbeAgreement
