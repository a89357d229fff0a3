import Mathlib.Data.List.Nodup
import OpenBao.CompatibilityProbe

/-!
# The queue of the compatibility probe

A suspended caller is in the list with its latest waker until that waker is fired.
-/

namespace OpenBao.CompatibilityWaitQueue
open CompatibilityProbe

variable {Caller : Type} [DecidableEq Caller]

/-- The registered waiters. -/
def waitersOf : CompatibilityVerificationState → List CompatibilityWaiter
  | .running waiters => waiters
  | _ => []

theorem running_of_mem_waitersOf {v : CompatibilityVerificationState} {e : CompatibilityWaiter}
    (h : e ∈ waitersOf v) : ∃ waiters, v = .running waiters ∧ e ∈ waiters := by
  cases v with
  | running waiters => exact ⟨waiters, rfl, h⟩
  | _ => simp [waitersOf] at h

/-! ## What the guarded sections do to the list -/

@[simp] theorem waitersOf_chooseAction (v : CompatibilityVerificationState) :
    waitersOf v.chooseAction.2 = waitersOf v := by
  cases v <;> rfl

@[simp] theorem waitersOf_dropWait (token : Token) (v : CompatibilityVerificationState) :
    waitersOf (v.dropWait token) = (waitersOf v).filter fun e => e.token ≠ token := by
  cases v <;> rfl

theorem leaderComplete_spec (result : CachedCompatibilityResult)
    (v : CompatibilityVerificationState) :
    (v.leaderComplete result).1 = (waitersOf v).map (·.waker) ∧
      waitersOf (v.leaderComplete result).2 = [] := by
  cases v <;> exact ⟨rfl, rfl⟩

theorem leaderDrop_spec (v : CompatibilityVerificationState) :
    v.leaderDrop.1 = (waitersOf v).map (·.waker) ∧ waitersOf v.leaderDrop.2 = [] := by
  cases v <;> exact ⟨rfl, rfl⟩

theorem renewWaker_eq_none {token : Token} {waker : Waker} {waiters : List CompatibilityWaiter}
    (h : CompatibilityVerificationState.renewWaker token waker waiters = none) :
    ∀ e ∈ waiters, e.token ≠ token := by
  induction waiters with
  | nil => simp
  | cons waiter waiters ih =>
    rw [CompatibilityVerificationState.renewWaker] at h
    split_ifs at h with ht
    rw [Option.map_eq_none_iff] at h
    simpa [ht] using ih h

/-- Renewal replaces one entry in its place. -/
theorem renewWaker_eq_some {token : Token} {waker : Waker}
    {waiters renewed : List CompatibilityWaiter}
    (h : CompatibilityVerificationState.renewWaker token waker waiters = some renewed) :
    ∃ before old after, waiters = before ++ old :: after ∧ old.token = token ∧
      renewed = before ++ ⟨token, waker⟩ :: after := by
  induction waiters generalizing renewed with
  | nil => simp [CompatibilityVerificationState.renewWaker] at h
  | cons waiter waiters ih =>
    rw [CompatibilityVerificationState.renewWaker] at h
    split_ifs at h with ht hw
    · obtain rfl := Option.some.inj h
      refine ⟨[], waiter, waiters, rfl, ht, ?_⟩
      rw [← ht, ← Waker.willWake_iff.mp hw]
      rfl
    · obtain rfl := Option.some.inj h
      exact ⟨[], waiter, waiters, rfl, ht, by rw [← ht]; rfl⟩
    · obtain ⟨tail, htail, rfl⟩ := Option.map_eq_some_iff.mp h
      obtain ⟨before, old, after, rfl, hold, rfl⟩ := ih htail
      exact ⟨waiter :: before, old, after, rfl, hold, rfl⟩

/-- A list in which no token repeats, of bounded length. -/
structure WellFormedQueue (waiters : List CompatibilityWaiter) : Prop where
  nodup : (waiters.map (·.token)).Nodup
  bound : waiters.length ≤ maxCompatibilityWaiters

theorem wellFormedQueue_nil : WellFormedQueue [] := ⟨List.nodup_nil, Nat.zero_le _⟩

theorem WellFormedQueue.filter {waiters : List CompatibilityWaiter} (h : WellFormedQueue waiters)
    (p : CompatibilityWaiter → Bool) : WellFormedQueue (waiters.filter p) :=
  ⟨h.nodup.sublist (List.filter_sublist.map _), Nat.le_trans (List.length_filter_le ..) h.bound⟩

/-- The one entry of a token. -/
theorem WellFormedQueue.filter_token {waiters : List CompatibilityWaiter}
    (h : WellFormedQueue waiters) {e : CompatibilityWaiter} (he : e ∈ waiters) :
    waiters.filter (fun d => d.token = e.token) = [e] := by
  obtain ⟨before, after, rfl⟩ := List.append_of_mem he
  have hn := h.nodup
  simp only [List.map_append, List.map_cons, List.nodup_append, List.nodup_cons, List.mem_map,
    List.mem_cons] at hn
  rw [List.filter_append, List.filter_cons_of_pos (by simp)]
  have hb : before.filter (fun d => d.token = e.token) = [] :=
    List.filter_eq_nil_iff.mpr fun d hd => by
      simpa using hn.2.2 _ ⟨d, hd, rfl⟩ _ (.inl rfl)
  have ha : after.filter (fun d => d.token = e.token) = [] :=
    List.filter_eq_nil_iff.mpr fun d hd => by
      simpa using fun ht => hn.2.1.1 ⟨d, hd, ht⟩
  rw [hb, ha, List.nil_append]

/-- A poll that stays pending leaves one entry for its token, with its waker. -/
theorem pollWait_pending {token : Token} {waker : Waker} {v : CompatibilityVerificationState}
    (hq : WellFormedQueue (waitersOf v)) (h : (v.pollWait token waker).1 = none) :
    WellFormedQueue (waitersOf (v.pollWait token waker).2) ∧
      ∀ e, e ∈ waitersOf (v.pollWait token waker).2 ↔
        e = ⟨token, waker⟩ ∨ e ∈ waitersOf v ∧ e.token ≠ token := by
  cases v with
  | pending => simp [CompatibilityVerificationState.pollWait] at h
  | complete result => simp [CompatibilityVerificationState.pollWait] at h
  | running waiters =>
    simp only [waitersOf] at hq ⊢
    cases hr : CompatibilityVerificationState.renewWaker token waker waiters with
    | some renewed =>
      obtain ⟨before, old, after, rfl, rfl, rfl⟩ := renewWaker_eq_some hr
      simp only [CompatibilityVerificationState.pollWait, hr]
      refine ⟨⟨by simpa using hq.nodup, by simpa using hq.bound⟩, fun e => ?_⟩
      have hn := hq.nodup
      simp only [List.map_append, List.map_cons, List.nodup_append, List.nodup_cons,
        List.mem_map, List.mem_cons] at hn
      have hb : e ∈ before → e.token ≠ old.token := fun he => hn.2.2 _ ⟨e, he, rfl⟩ _ (.inl rfl)
      have ha : e ∈ after → e.token ≠ old.token := fun he ht => hn.2.1.1 ⟨e, he, ht⟩
      have ho : e = old → e.token = old.token := fun he => he ▸ rfl
      simp only [List.mem_append, List.mem_cons]
      tauto
    | none =>
      have hnew := renewWaker_eq_none hr
      simp only [CompatibilityVerificationState.pollWait, hr] at h ⊢
      split_ifs at h ⊢ with hfull
      refine ⟨⟨?_, by simp only [List.length_append, List.length_singleton]; omega⟩, fun e => ?_⟩
      · rw [List.map_append, List.map_singleton, List.nodup_append]
        refine ⟨hq.nodup, List.nodup_singleton _, fun t ht u hu => ?_⟩
        obtain ⟨e, he, rfl⟩ := List.mem_map.mp ht
        rw [List.mem_singleton.mp hu]
        exact hnew e he
      · have he : e ∈ waiters → e.token ≠ token := hnew e
        simp only [List.mem_append, List.mem_singleton]
        tauto

/-- A poll that is ready leaves the list, which does not hold its token. -/
theorem pollWait_ready {token : Token} {waker : Waker} {v : CompatibilityVerificationState}
    {outcome : CompatibilityWaitOutcome} (h : (v.pollWait token waker).1 = some outcome) :
    waitersOf (v.pollWait token waker).2 = waitersOf v ∧ ∀ e ∈ waitersOf v, e.token ≠ token := by
  cases v with
  | pending => simp [CompatibilityVerificationState.pollWait, waitersOf]
  | complete result => simp [CompatibilityVerificationState.pollWait, waitersOf]
  | running waiters =>
    cases hr : CompatibilityVerificationState.renewWaker token waker waiters with
    | some renewed => simp [CompatibilityVerificationState.pollWait, hr] at h
    | none =>
      simp only [CompatibilityVerificationState.pollWait, hr] at h ⊢
      split_ifs at h ⊢ with hfull
      exact ⟨rfl, renewWaker_eq_none hr⟩

/-! ## The queue invariant -/

/-- The list holds exactly the suspended callers that have not been woken, and no
two live waits share a token. -/
structure QueueInvariant (s : ProbeSystem Caller) : Prop where
  queue : WellFormedQueue (waitersOf s.verification)
  registered : ∀ token waker, ⟨token, waker⟩ ∈ waitersOf s.verification ↔
    ∃ c, s.phase c = .suspended token waker false
  tokens : ∀ c d token, (s.phase c).token? = some token → (s.phase d).token? = some token → c = d

omit [DecidableEq Caller] in
/-- The entries of the other callers. -/
theorem QueueInvariant.others {s : ProbeSystem Caller} (h : QueueInvariant s) (c : Caller)
    (token : Token) (waker : Waker) :
    (∃ d, d ≠ c ∧ s.phase d = .suspended token waker false) ↔
      ⟨token, waker⟩ ∈ waitersOf s.verification ∧ (s.phase c).token? ≠ some token := by
  rw [h.registered]
  constructor
  · rintro ⟨d, hd, hp⟩
    exact ⟨⟨d, hp⟩, fun hc => hd (h.tokens d c token (by rw [hp]; rfl) hc)⟩
  · rintro ⟨⟨d, hp⟩, hc⟩
    refine ⟨d, ?_, hp⟩
    rintro rfl
    exact hc (by rw [hp]; rfl)

/-- A step that fires no waker: the list changes at the caller's own entry only, and
the caller keeps its token, drops it, or gets a new one. -/
theorem QueueInvariant.goto {s : ProbeSystem Caller} (h : QueueInvariant s) {c : Caller}
    {phase : Phase} {v : CompatibilityVerificationState} (hq : WellFormedQueue (waitersOf v))
    (hmem : ∀ token waker, ⟨token, waker⟩ ∈ waitersOf v ↔ phase = .suspended token waker false ∨
      ⟨token, waker⟩ ∈ waitersOf s.verification ∧ (s.phase c).token? ≠ some token)
    (htoken : ∀ token, phase.token? = some token → ∀ d, d ≠ c → (s.phase d).token? ≠ some token) :
    QueueInvariant (s.goto c phase v) := by
  refine ⟨hq, fun token waker => ?_, fun d e token hd he => ?_⟩
  · rw [ProbeSystem.goto_verification, hmem, ← h.others c]
    constructor
    · rintro (hp | ⟨d, hd, hp⟩)
      · exact ⟨c, by rwa [ProbeSystem.goto_phase_self]⟩
      · exact ⟨d, by rwa [ProbeSystem.goto_phase_of_ne hd]⟩
    · rintro ⟨d, hp⟩
      by_cases hd : d = c
      · subst hd
        rw [ProbeSystem.goto_phase_self] at hp
        exact .inl hp
      · rw [ProbeSystem.goto_phase_of_ne hd] at hp
        exact .inr ⟨d, hd, hp⟩
  · by_cases hdc : d = c
    · by_cases hec : e = c
      · rw [hdc, hec]
      · subst hdc
        rw [ProbeSystem.goto_phase_self] at hd
        rw [ProbeSystem.goto_phase_of_ne hec] at he
        exact absurd he (htoken token hd e hec)
    · rw [ProbeSystem.goto_phase_of_ne hdc] at hd
      by_cases hec : e = c
      · subst hec
        rw [ProbeSystem.goto_phase_self] at he
        exact absurd hd (htoken token he d hdc)
      · rw [ProbeSystem.goto_phase_of_ne hec] at he
        exact h.tokens d e token hd he

@[simp] theorem wake_token? (wakers : List Waker) (phase : Phase) :
    (phase.wake wakers).token? = phase.token? := by
  cases phase <;> rfl

/-- The end of a leader: the list is emptied and everyone in it is woken. -/
theorem QueueInvariant.gotoWaking {s : ProbeSystem Caller} (h : QueueInvariant s) {c : Caller}
    {phase : Phase} {after : List Waker × CompatibilityVerificationState}
    (hafter : after.1 = (waitersOf s.verification).map (·.waker) ∧ waitersOf after.2 = [])
    (hphase : phase.token? = none) : QueueInvariant (s.gotoWaking c phase after) := by
  have htoken : ∀ d token, ((s.gotoWaking c phase after).phase d).token? = some token →
      (s.phase d).token? = some token := by
    intro d token hd
    by_cases hdc : d = c
    · subst hdc
      rw [ProbeSystem.gotoWaking_phase_self, hphase] at hd
      cases hd
    · rwa [ProbeSystem.gotoWaking_phase_of_ne hdc, wake_token?] at hd
  refine ⟨by simpa [hafter.2] using wellFormedQueue_nil, fun token waker => ?_,
    fun d e token hd he => h.tokens d e token (htoken d token hd) (htoken e token he)⟩
  rw [ProbeSystem.gotoWaking_verification, hafter.2]
  refine iff_of_false (by simp) ?_
  rintro ⟨d, hp⟩
  by_cases hdc : d = c
  · subst hdc
    rw [ProbeSystem.gotoWaking_phase_self] at hp
    simp [hp, Phase.token?] at hphase
  · rw [ProbeSystem.gotoWaking_phase_of_ne hdc] at hp
    cases hs : s.phase d with
    | suspended token' waker' woken =>
      rw [hs, Phase.wake, Phase.suspended.injEq, Bool.or_eq_false_iff] at hp
      obtain ⟨rfl, rfl, rfl, hw⟩ := hp
      -- An unwoken caller is registered, so its waker is among those fired.
      have hm := (h.registered token' waker').mpr ⟨d, hs⟩
      rw [hafter.1, decide_eq_false_iff_not] at hw
      exact hw (List.mem_map_of_mem hm)
    | _ => simp [hs, Phase.wake] at hp

theorem token?_of_pollable? {phase : Phase} {token : Token}
    (h : phase.pollable? = some token) : phase.token? = some token := by
  cases phase <;> simp_all [Phase.pollable?, Phase.token?]

theorem QueueInvariant.poll {s : ProbeSystem Caller} (h : QueueInvariant s) {c : Caller}
    {token : Token} (hc : (s.phase c).token? = some token) (waker : Waker) :
    QueueInvariant (s.goto c (.ofPoll token waker (s.verification.pollWait token waker).1)
      (s.verification.pollWait token waker).2) := by
  have hothers : ∀ t, some token = some t → ∀ d, d ≠ c → (s.phase d).token? ≠ some t := by
    intro t ht d hd hdt
    rw [← ht] at hdt
    exact hd (h.tokens d c token hdt hc)
  cases hp : (s.verification.pollWait token waker).1 with
  | none =>
    obtain ⟨hq, hmem⟩ := pollWait_pending h.queue hp
    refine h.goto hq (fun t w => ?_) hothers
    rw [hmem, hc]
    simp [Phase.ofPoll, eq_comm]
  | some outcome =>
    obtain ⟨hsame, hmem⟩ := pollWait_ready hp
    refine h.goto (hsame ▸ h.queue) (fun t w => ?_) hothers
    have ht : ⟨t, w⟩ ∈ waitersOf s.verification → t ≠ token := hmem ⟨t, w⟩
    have hne : some token ≠ some t ↔ t ≠ token := by simp [eq_comm]
    rw [hsame, hc, hne]
    simp only [Phase.ofPoll, reduceCtorEq, false_or]
    tauto

/-- The drop of a wait removes its entry. -/
theorem QueueInvariant.dropWait {s : ProbeSystem Caller} (h : QueueInvariant s) {c : Caller}
    {token : Token} (hc : (s.phase c).token? = some token) {phase : Phase}
    (hphase : phase.token? = none) :
    QueueInvariant (s.goto c phase (s.verification.dropWait token)) := by
  refine h.goto ?_ (fun t w => ?_) (by simp [hphase])
  · rw [waitersOf_dropWait]
    exact h.queue.filter _
  · have hne : phase ≠ .suspended t w false := by
      rintro rfl
      simp [Phase.token?] at hphase
    have ht : some token ≠ some t ↔ t ≠ token := by simp [eq_comm]
    simp [waitersOf_dropWait, hne, hc, ht]

theorem step_queueInvariant {s s' : ProbeSystem Caller} (hs : Step s s') (h : QueueInvariant s) :
    QueueInvariant s' := by
  cases hs with
  | enter c token hphase hfresh =>
    refine h.goto (by simpa using h.queue) (fun t w => ?_) (fun t ht d hd => ?_)
    · have hne : Phase.ofAction token s.verification.chooseAction.1 ≠ .suspended t w false := by
        cases s.verification.chooseAction.1 <;> simp [Phase.ofAction, Phase.ofResult]
      simp [hne, hphase, Phase.token?]
    · have he : t = token := by
        cases ha : s.verification.chooseAction.1 <;>
          simp_all [Phase.ofAction, Phase.ofResult, Phase.token?]
      rw [he]
      exact hfresh.1 d
  | poll c token waker hphase => exact h.poll (token?_of_pollable? hphase) waker
  | dropReady c token outcome hphase =>
    refine h.dropWait (by rw [hphase]; rfl) ?_
    cases outcome <;> rfl
  | cancelWait c token waker woken hphase => exact h.dropWait (by rw [hphase]; rfl) rfl
  | complete c result hphase => exact h.gotoWaking (leaderComplete_spec ..) rfl
  | cancelLead c hphase => exact h.gotoWaking (leaderDrop_spec _) rfl

omit [DecidableEq Caller] in
theorem init_queueInvariant (policy : Option OpenBaoCompatibilityPolicy) :
    QueueInvariant (.init policy : ProbeSystem Caller) := by
  have hw : waitersOf (newVerification policy) = [] := by
    cases policy with
    | none => rfl
    | some policy => cases policy <;> rfl
  refine ⟨?_, ?_, ?_⟩
  · simpa [ProbeSystem.init, hw] using wellFormedQueue_nil
  · simp [ProbeSystem.init, hw]
  · simp [ProbeSystem.init, Phase.token?]

theorem reachable_queueInvariant {policy : Option OpenBaoCompatibilityPolicy}
    {s : ProbeSystem Caller} (h : Reachable policy s) : QueueInvariant s := by
  induction h with
  | refl => exact init_queueInvariant policy
  | tail _ hs ih => exact step_queueInvariant hs ih

/-- A suspended caller has been woken since its latest poll, or the running list
holds its token once and with the waker of that poll. The list holds suspended
callers only and stays within its bound. -/
theorem compatibilityWait_woken_or_registered {policy : Option OpenBaoCompatibilityPolicy}
    {s : ProbeSystem Caller} (h : Reachable policy s) :
    (∀ c token waker woken, s.phase c = .suspended token waker woken →
      woken = true ∨ ∃ waiters, s.verification = .running waiters ∧
        waiters.filter (fun e => e.token = token) = [⟨token, waker⟩]) ∧
    (∀ waiters, s.verification = .running waiters →
      waiters.length ≤ maxCompatibilityWaiters ∧
        ∀ e ∈ waiters, ∃ c woken, s.phase c = .suspended e.token e.waker woken) := by
  have hi := reachable_queueInvariant h
  constructor
  · intro c token waker woken hc
    cases woken with
    | true => exact .inl rfl
    | false =>
      have hm := (hi.registered token waker).mpr ⟨c, hc⟩
      obtain ⟨waiters, hv, hm⟩ := running_of_mem_waitersOf hm
      have hq := hi.queue
      rw [hv] at hq
      exact .inr ⟨waiters, hv, hq.filter_token hm⟩
  · intro waiters hv
    have hq := hi.queue
    have hr := hi.registered
    rw [hv] at hq hr
    refine ⟨hq.bound, fun e he => ?_⟩
    obtain ⟨c, hc⟩ := (hr e.token e.waker).mp he
    exact ⟨c, false, hc⟩

theorem compatibilityWait_woken_or_registered_once :
    ∃ s : ProbeSystem ℕ, s.phase 1 = .suspended 7 ⟨1, 1⟩ false ∧
      ∃ waiters, s.verification = .running waiters ∧
        waiters.filter (fun e => e.token = 7) = [⟨7, ⟨1, 1⟩⟩] := by
  let led : ProbeSystem ℕ :=
    (ProbeSystem.init (some .automaticStrict)).goto 0 .leading (.running [])
  let waited : ProbeSystem ℕ := led.goto 1 (.waiting 7) (.running [])
  let polled : ProbeSystem ℕ :=
    waited.goto 1 (.suspended 7 ⟨1, 1⟩ false) (.running [⟨7, ⟨1, 1⟩⟩])
  have hlead : Step (ProbeSystem.init (some .automaticStrict)) led :=
    .enter 0 0 rfl ⟨fun c => by simp [ProbeSystem.init, Phase.token?], nofun⟩
  have hfresh : led.Unallocated 7 := by
    refine ⟨fun c => ?_, by simp [led]⟩
    by_cases hc : c = 0
    · simp [hc, led, Phase.token?]
    · rw [ProbeSystem.goto_phase_of_ne hc]
      nofun
  have hwait : Step led waited := .enter 1 7 rfl hfresh
  have hpoll : Step waited polled := .poll 1 7 ⟨1, 1⟩ rfl
  have hr : Reachable (some .automaticStrict) polled :=
    ((Relation.ReflTransGen.single hlead).tail hwait).tail hpoll
  exact ⟨polled, rfl,
    ((compatibilityWait_woken_or_registered hr).1 1 7 ⟨1, 1⟩ false rfl).resolve_left nofun⟩

end OpenBao.CompatibilityWaitQueue
