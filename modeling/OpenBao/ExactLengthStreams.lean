import OpenBao.PolledStreams

/-!
# Request streams of exact length

The stream that carries a snapshot restore: it forwards the chunks of an inner stream as
long as their total stays within the declared content length, and its end says whether
the declared length was met.
-/

namespace OpenBao.ExactLengthStreams
open PolledStreams

variable {E : Type}

/-- A chunk of bytes, whose length is a `usize`. -/
structure Chunk where
  bytes : List UInt8
  fits : bytes.length < 2 ^ 64

def Chunk.length (chunk : Chunk) : ℕ := chunk.bytes.length

inductive IoErrorKind where
  | invalidData | unexpectedEof | other
  deriving DecidableEq, Repr

structure IoError where
  kind : IoErrorKind
  message : String
  deriving DecidableEq, Repr

/-- The answers of the inner stream, poll by poll. -/
abbrev InnerStream (E : Type) := ℕ → Poll (Option (Except E Chunk))

/-- The stream; `inner` counts the polls of the inner stream so far. -/
structure ExactLengthRequestStream where
  inner : ℕ
  remaining : ℕ
  terminal : Bool

/-- `u64::try_from(length).unwrap_or(u64::MAX)`. -/
def lengthU64 (length : ℕ) : ℕ := if length < 2 ^ 64 then length else 2 ^ 64 - 1

namespace ExactLengthRequestStream

def new (contentLength : ℕ) : ExactLengthRequestStream := ⟨0, contentLength, false⟩

def pollNext (inner : InnerStream E) (this : ExactLengthRequestStream) :
    Poll (Option (Except IoError Chunk)) × ExactLengthRequestStream :=
  if this.terminal then (.ready none, this)
  else
    let polled := { this with inner := this.inner + 1 }
    let ended := { polled with terminal := true }
    match inner this.inner with
    | .pending => (.pending, polled)
    | .ready (some (.ok chunk)) =>
      if chunk.bytes = [] then
        (.ready (some (.error ⟨.invalidData, "OpenBao request stream produced an empty chunk"⟩)),
          ended)
      else
        let length := lengthU64 chunk.bytes.length
        if this.remaining < length then
          (.ready (some (.error
            ⟨.invalidData, "OpenBao request stream exceeded declared length"⟩)), ended)
        else (.ready (some (.ok chunk)), { polled with remaining := this.remaining - length })
    | .ready (some (.error _)) =>
      (.ready (some (.error ⟨.other, "OpenBao request stream failed"⟩)), ended)
    | .ready none =>
      if this.remaining = 0 then (.ready none, ended)
      else
        (.ready (some (.error
          ⟨.unexpectedEof, "OpenBao request stream ended before declared length"⟩)), ended)

end ExactLengthRequestStream

open ExactLengthRequestStream

/-! ### What a run yields -/

section
variable (inner : InnerStream E) (contentLength : ℕ)

def run (n : ℕ) : ExactLengthRequestStream := stateAfter (pollNext inner) (new contentLength) n

def out (n : ℕ) : Poll (Option (Except IoError Chunk)) :=
  answer (pollNext inner) (new contentLength) n

/-- The chunks among the first `n` items. -/
def okChunks (n : ℕ) : List Chunk :=
  (items (pollNext inner) (new contentLength) n).filterMap Except.toOption

/-- The chunks among the first `n` answers of the inner stream. -/
def innerChunks (n : ℕ) : List Chunk :=
  (List.range n).filterMap fun k => (inner k).item?.bind Except.toOption

end

def total (chunks : List Chunk) : ℕ := (chunks.map Chunk.length).sum

/-- An answer that is passed on: nothing yet, or a chunk with bytes in it. -/
def IsPassed (event : Poll (Option (Except E Chunk))) : Prop :=
  event = .pending ∨ ∃ chunk : Chunk, chunk.bytes ≠ [] ∧ event = .ready (some (.ok chunk))

def IsErr (event : Poll (Option (Except IoError Chunk))) : Prop :=
  ∃ e, event = .ready (some (.error e))

/-- The stream ends with no error in front of the end. -/
def EndsCleanly (inner : InnerStream E) (contentLength : ℕ) : Prop :=
  ∃ n, out inner contentLength n = .ready none ∧ ∀ m < n, ¬IsErr (out inner contentLength m)

/-- The inner stream ends behind chunks with bytes in them, of the declared total. -/
def EndsExactly (inner : InnerStream E) (contentLength : ℕ) : Prop :=
  ∃ n, inner n = .ready none ∧ (∀ m < n, IsPassed (inner m)) ∧
    total (innerChunks inner n) = contentLength

/-! ### One poll -/

variable {inner : InnerStream E} {contentLength n : ℕ} {this : ExactLengthRequestStream}

theorem lengthU64_chunk (chunk : Chunk) : lengthU64 chunk.bytes.length = chunk.length :=
  if_pos chunk.fits

theorem pollNext_terminal (h : this.terminal = true) :
    pollNext inner this = (.ready none, this) := if_pos h

/-- A poll before the end passes an answer on, ends the stream, or fails and ends it. -/
theorem pollNext_cases (h : this.terminal = false) :
    (inner this.inner = .pending ∧
      pollNext inner this = (.pending, { this with inner := this.inner + 1 })) ∨
    (∃ chunk : Chunk, inner this.inner = .ready (some (.ok chunk)) ∧ chunk.bytes ≠ [] ∧
      chunk.length ≤ this.remaining ∧ pollNext inner this = (.ready (some (.ok chunk)),
        ⟨this.inner + 1, this.remaining - chunk.length, false⟩)) ∨
    (inner this.inner = .ready none ∧ this.remaining = 0 ∧
      pollNext inner this = (.ready none, ⟨this.inner + 1, this.remaining, true⟩)) ∨
    ((∀ chunk : Chunk, inner this.inner = .ready (some (.ok chunk)) →
        chunk.bytes ≠ [] → this.remaining < chunk.length) ∧
      (inner this.inner = .ready none → this.remaining ≠ 0) ∧ inner this.inner ≠ .pending ∧
      ∃ e, pollNext inner this =
        (.ready (some (.error e)), ⟨this.inner + 1, this.remaining, true⟩)) := by
  obtain ⟨position, remaining, terminal⟩ := this
  subst h
  simp only [pollNext, Bool.false_eq_true, if_false]
  cases hinner : inner position with
  | pending => exact .inl ⟨rfl, rfl⟩
  | ready item =>
    cases item with
    | none =>
      by_cases hzero : remaining = 0
      · exact .inr (.inr (.inl ⟨rfl, hzero, if_pos hzero⟩))
      · exact .inr (.inr (.inr ⟨by simp, fun _ => hzero, by simp, _, if_neg hzero⟩))
    | some result =>
      cases result with
      | error e => exact .inr (.inr (.inr ⟨by simp, by simp, by simp, _, rfl⟩))
      | ok chunk =>
        by_cases hempty : chunk.bytes = []
        · refine .inr (.inr (.inr ⟨?_, by simp, by simp, _, if_pos hempty⟩))
          rintro _ ⟨⟩ hbytes
          exact absurd hempty hbytes
        · simp only [if_neg hempty, lengthU64_chunk]
          by_cases hlong : remaining < chunk.length
          · refine .inr (.inr (.inr ⟨?_, by simp, by simp, _, if_pos hlong⟩))
            rintro _ ⟨⟩ -
            exact hlong
          · exact .inr (.inl ⟨chunk, rfl, hempty, by omega, if_neg hlong⟩)

/-! ### A run -/

theorem okChunks_succ (n : ℕ) : okChunks inner contentLength (n + 1) =
    okChunks inner contentLength n ++
      ((out inner contentLength n).item?.bind Except.toOption).toList := by
  rw [okChunks, okChunks, items_succ, List.filterMap_append, out]
  cases (answer (pollNext inner) (new contentLength) n).item? with
  | none => rfl
  | some item => cases item <;> rfl

theorem innerChunks_succ (n : ℕ) : innerChunks inner (n + 1) =
    innerChunks inner n ++ ((inner n).item?.bind Except.toOption).toList := by
  rw [innerChunks, innerChunks, List.range_succ, List.filterMap_append]
  cases h : (inner n).item?.bind Except.toOption <;> simp [h]

theorem total_append (chunks more : List Chunk) :
    total (chunks ++ more) = total chunks + total more := by
  simp [total]

theorem total_innerChunks_mono {m : ℕ} (h : n ≤ m) :
    total (innerChunks inner n) ≤ total (innerChunks inner m) := by
  induction m, h using Nat.le_induction with
  | base => exact Nat.le_refl _
  | succ m _ ih =>
    rw [innerChunks_succ, total_append]
    omega

/-- The first `n` answers have been passed on. -/
structure Passing (inner : InnerStream E) (contentLength n : ℕ) : Prop where
  terminal : (run inner contentLength n).terminal = false
  position : (run inner contentLength n).inner = n
  passed : ∀ m < n, IsPassed (inner m)
  chunks : okChunks inner contentLength n = innerChunks inner n
  budget : total (innerChunks inner n) + (run inner contentLength n).remaining = contentLength
  answers : ∀ m < n, ¬IsErr (out inner contentLength m) ∧ out inner contentLength m ≠ .ready none

/-- The poll after `n` polls ends the stream, cleanly or with an error. -/
structure Stops (inner : InnerStream E) (contentLength n : ℕ) : Prop where
  passing : Passing inner contentLength n
  terminal : (run inner contentLength (n + 1)).terminal = true
  position : (run inner contentLength (n + 1)).inner = n + 1
  answer : out inner contentLength n = .ready none ∧ inner n = .ready none ∧
      total (innerChunks inner n) = contentLength ∨
    IsErr (out inner contentLength n) ∧
      (inner n = .ready none → total (innerChunks inner n) ≠ contentLength) ∧
      (IsPassed (inner n) → contentLength < total (innerChunks inner (n + 1)))

theorem passing_zero : Passing inner contentLength 0 where
  terminal := rfl
  position := rfl
  passed _ h := absurd h (Nat.not_lt_zero _)
  chunks := rfl
  budget := Nat.zero_add _
  answers _ h := absurd h (Nat.not_lt_zero _)

theorem innerChunks_pending (h : inner n = .pending) :
    innerChunks inner (n + 1) = innerChunks inner n := by
  rw [innerChunks_succ, h]
  exact List.append_nil _

theorem total_innerChunks_chunk {chunk : Chunk} (h : inner n = .ready (some (.ok chunk))) :
    total (innerChunks inner (n + 1)) = total (innerChunks inner n) + chunk.length := by
  rw [innerChunks_succ, h, total_append]
  rfl

/-- An answer that is passed on. -/
theorem Passing.pass {remaining : ℕ}
    (h : Passing inner contentLength n) (hpassed : IsPassed (inner n))
    (hrun : run inner contentLength (n + 1) = ⟨n + 1, remaining, false⟩)
    (hout : (out inner contentLength n).item?.bind Except.toOption =
      (inner n).item?.bind Except.toOption)
    (hanswer : ¬IsErr (out inner contentLength n) ∧ out inner contentLength n ≠ .ready none)
    (hbudget : total (innerChunks inner (n + 1)) + remaining = contentLength) :
    Passing inner contentLength (n + 1) where
  terminal := by rw [hrun]
  position := by rw [hrun]
  passed m hm := by
    obtain hm | rfl := Nat.lt_succ_iff_lt_or_eq.mp hm
    · exact h.passed m hm
    · exact hpassed
  chunks := by rw [okChunks_succ, innerChunks_succ, h.chunks, hout]
  budget := by rwa [hrun]
  answers m hm := by
    obtain hm | rfl := Nat.lt_succ_iff_lt_or_eq.mp hm
    · exact h.answers m hm
    · exact hanswer

/-- The poll after passed answers passes one more or ends the stream. -/
theorem Passing.next (h : Passing inner contentLength n) :
    Passing inner contentLength (n + 1) ∨ Stops inner contentLength n := by
  have hbudget := h.budget
  have hpoll := @pollNext_cases E inner _ h.terminal
  rw [h.position] at hpoll
  have hrun : run inner contentLength (n + 1) = (pollNext inner (run inner contentLength n)).2 :=
    rfl
  have hout : out inner contentLength n = (pollNext inner (run inner contentLength n)).1 := rfl
  obtain ⟨hinner, hp⟩ | ⟨chunk, hinner, hbytes, hfits, hp⟩ | ⟨hinner, hzero, hp⟩ |
    ⟨hlong, hend, hpending, e, hp⟩ := hpoll <;> rw [hp] at hrun hout
  · rw [h.terminal] at hrun
    refine .inl (h.pass (.inl hinner) hrun (by rw [hout, hinner]; rfl) ?_ ?_)
    · rw [hout]
      exact ⟨by rintro ⟨e, ⟨⟩⟩, by simp⟩
    · rwa [innerChunks_pending hinner]
  · refine .inl (h.pass (.inr ⟨chunk, hbytes, hinner⟩) hrun (by rw [hout, hinner]; rfl) ?_ ?_)
    · rw [hout]
      exact ⟨by rintro ⟨e, ⟨⟩⟩, by simp⟩
    · rw [total_innerChunks_chunk hinner]
      omega
  · exact .inr ⟨h, by rw [hrun], by rw [hrun], .inl ⟨hout, hinner, by omega⟩⟩
  · refine .inr ⟨h, by rw [hrun], by rw [hrun], .inr ⟨⟨e, hout⟩, fun hn => ?_, ?_⟩⟩
    · have := hend hn
      omega
    · rintro (hn | ⟨chunk, hbytes, hchunk⟩)
      · exact absurd hn hpending
      · have hfar := hlong chunk hchunk hbytes
        rw [total_innerChunks_chunk hchunk]
        omega

theorem passing_or_stops (inner : InnerStream E) (contentLength n : ℕ) :
    Passing inner contentLength n ∨ ∃ m < n, Stops inner contentLength m := by
  induction n with
  | zero => exact .inl passing_zero
  | succ n ih =>
    obtain h | ⟨m, hm, hstops⟩ := ih
    · obtain hnext | hstops := h.next
      · exact .inl hnext
      · exact .inr ⟨n, Nat.lt_succ_self n, hstops⟩
    · exact .inr ⟨m, Nat.lt_succ_of_lt hm, hstops⟩

/-- Behind the end nothing changes, and the inner stream is not polled. -/
theorem Stops.after (h : Stops inner contentLength n) {m : ℕ} (hm : n < m) :
    run inner contentLength m = run inner contentLength (n + 1) ∧
      out inner contentLength m = .ready none := by
  have hkept : ∀ this, this = run inner contentLength (n + 1) →
      (pollNext inner this).2 = run inner contentLength (n + 1) := by
    rintro this rfl
    rw [pollNext_terminal h.terminal]
  have hsame : run inner contentLength m = run inner contentLength (n + 1) :=
    stateAfter_invariant (P := fun this => this = _) rfl hkept hm
  refine ⟨hsame, ?_⟩
  change (pollNext inner (run inner contentLength m)).1 = _
  rw [hsame, pollNext_terminal h.terminal]

theorem Stops.okChunks_eq (h : Stops inner contentLength n) {m : ℕ} (hm : n < m) :
    okChunks inner contentLength m = innerChunks inner n := by
  induction m, hm using Nat.le_induction with
  | base =>
    rw [okChunks_succ, h.passing.chunks]
    obtain ⟨hout, -⟩ | ⟨⟨e, hout⟩, -⟩ := h.answer <;> rw [hout] <;> exact List.append_nil _
  | succ m hm ih =>
    rw [okChunks_succ, ih, (h.after hm).2]
    exact List.append_nil _

/-- The first end or error is where the run stops. -/
theorem stops_of_answer (h : out inner contentLength n = .ready none ∨
    IsErr (out inner contentLength n)) : ∃ m ≤ n, Stops inner contentLength m := by
  obtain hpassing | ⟨m, hm, hstops⟩ := passing_or_stops inner contentLength (n + 1)
  · obtain ⟨herr, hnone⟩ := hpassing.answers n (Nat.lt_succ_self n)
    obtain h | h := h
    · exact absurd h hnone
    · exact absurd h herr
  · exact ⟨m, Nat.le_of_lt_succ hm, hstops⟩

/-- As long as the inner stream stays within the declared length, its answers are passed. -/
theorem passing_of_passed (hpassed : ∀ m < n, IsPassed (inner m))
    (hlength : total (innerChunks inner n) ≤ contentLength) : Passing inner contentLength n := by
  obtain h | ⟨m, hm, hstops⟩ := passing_or_stops inner contentLength n
  · exact h
  · obtain ⟨-, hnone, -⟩ | ⟨-, -, hlong⟩ := hstops.answer
    · obtain h | ⟨chunk, -, h⟩ := hpassed m hm <;> rw [h] at hnone <;> cases hnone
    · have := hlong (hpassed m hm)
      have hmono : total (innerChunks inner (m + 1)) ≤ total (innerChunks inner n) :=
        total_innerChunks_mono (Nat.succ_le_of_lt hm)
      omega

theorem endsCleanly_iff : EndsCleanly inner contentLength ↔ EndsExactly inner contentLength := by
  constructor
  · rintro ⟨n, hnone, hclean⟩
    obtain ⟨m, hm, hstops⟩ := stops_of_answer (.inl hnone)
    obtain ⟨-, hinner, htotal⟩ | ⟨⟨e, herr⟩, -⟩ := hstops.answer
    · exact ⟨m, hinner, hstops.passing.passed, htotal⟩
    · obtain hm | rfl := Nat.lt_or_eq_of_le hm
      · exact absurd ⟨e, herr⟩ (hclean m hm)
      · rw [hnone] at herr
        cases herr
  · rintro ⟨n, hinner, hpassed, htotal⟩
    have hpassing := passing_of_passed hpassed htotal.le
    refine ⟨n, ?_, fun m hm => (hpassing.answers m hm).1⟩
    obtain hnext | hstops := hpassing.next
    · obtain h | ⟨chunk, -, h⟩ := hnext.passed n (Nat.lt_succ_self n) <;> rw [hinner] at h <;>
        cases h
    · obtain ⟨hout, -⟩ | ⟨-, hshort, -⟩ := hstops.answer
      · exact hout
      · exact absurd htotal (hshort hinner)

/-- A clean end comes behind all the chunks of the inner stream, of the declared total. -/
theorem okChunks_of_cleanEnd (hnone : out inner contentLength n = .ready none)
    (hclean : ∀ m < n, ¬IsErr (out inner contentLength m)) :
    okChunks inner contentLength n = innerChunks inner (run inner contentLength (n + 1)).inner ∧
      total (okChunks inner contentLength n) = contentLength := by
  obtain ⟨m, hm, hstops⟩ := stops_of_answer (.inl hnone)
  obtain ⟨-, hinner, htotal⟩ | ⟨herr, -⟩ := hstops.answer
  · have hchunks : okChunks inner contentLength n = innerChunks inner m := by
      obtain hm | rfl := Nat.lt_or_eq_of_le hm
      · exact hstops.okChunks_eq hm
      · exact hstops.passing.chunks
    have hall : innerChunks inner (m + 1) = innerChunks inner m := by
      rw [innerChunks_succ, hinner]
      exact List.append_nil _
    rw [hchunks, (hstops.after (Nat.lt_succ_of_le hm)).1, hstops.position, hall]
    exact ⟨rfl, htotal⟩
  · obtain hm | rfl := Nat.lt_or_eq_of_le hm
    · exact absurd herr (hclean m hm)
    · obtain ⟨e, herr⟩ := herr
      rw [hnone] at herr
      cases herr

/-- The chunks are a prefix of the inner ones within the declared length; the stream ends
cleanly exactly when the inner stream ends at that length, and then behind all its chunks;
every other end is one error, the last item; and behind either nothing is polled. -/
theorem exactLengthRequestStream_law (inner : InnerStream E) (contentLength : ℕ) :
    (∀ n, okChunks inner contentLength n <+:
        innerChunks inner (run inner contentLength n).inner ∧
      total (okChunks inner contentLength n) ≤ contentLength) ∧
    (EndsCleanly inner contentLength ↔ EndsExactly inner contentLength) ∧
    (∀ n, out inner contentLength n = .ready none →
      (∀ m < n, ¬IsErr (out inner contentLength m)) →
        okChunks inner contentLength n =
          innerChunks inner (run inner contentLength (n + 1)).inner ∧
        total (okChunks inner contentLength n) = contentLength) ∧
    (∀ n, out inner contentLength n = .ready none ∨ IsErr (out inner contentLength n) →
      ¬EndsCleanly inner contentLength →
        ∃ m, IsErr (out inner contentLength m) ∧
          (∀ k < m, ¬IsErr (out inner contentLength k) ∧ out inner contentLength k ≠ .ready none) ∧
          ∀ k > m, out inner contentLength k = .ready none) ∧
    ∀ n, out inner contentLength n = .ready none ∨ IsErr (out inner contentLength n) →
      ∀ m > n, out inner contentLength m = .ready none ∧
        (run inner contentLength m).inner = (run inner contentLength (n + 1)).inner := by
  refine ⟨fun n => ?_, endsCleanly_iff, fun n => okChunks_of_cleanEnd, fun n hn hdirty => ?_,
    fun n hn m hm => ?_⟩
  · obtain h | ⟨m, hm, hstops⟩ := passing_or_stops inner contentLength n
    · rw [h.chunks, h.position]
      have := h.budget
      exact ⟨List.prefix_rfl, by omega⟩
    · rw [hstops.okChunks_eq hm, (hstops.after hm).1, hstops.position, innerChunks_succ]
      have := hstops.passing.budget
      exact ⟨List.prefix_append _ _, by omega⟩
  · obtain ⟨m, -, hstops⟩ := stops_of_answer hn
    refine ⟨m, ?_, hstops.passing.answers, fun k hk => (hstops.after hk).2⟩
    obtain ⟨-, hinner, htotal⟩ | ⟨herr, -⟩ := hstops.answer
    · exact absurd (endsCleanly_iff.mpr ⟨m, hinner, hstops.passing.passed, htotal⟩) hdirty
    · exact herr
  · obtain ⟨k, hk, hstops⟩ := stops_of_answer hn
    have hfirst := hstops.after (Nat.lt_succ_of_le hk)
    have hlater := hstops.after (Nat.lt_of_le_of_lt hk hm)
    exact ⟨hlater.2, by rw [hlater.1, hfirst.1]⟩

/-- One chunk of the declared length and then the end. -/
def oneChunk (chunk : Chunk) : InnerStream E
  | 0 => .ready (some (.ok chunk))
  | _ + 1 => .ready none

theorem oneChunk_endsCleanly :
    EndsCleanly (oneChunk ⟨[0x65, 0x78], by decide⟩ : InnerStream Unit) 2 := by
  refine (exactLengthRequestStream_law _ 2).2.1.mpr ⟨1, rfl, fun m hm => ?_, rfl⟩
  obtain rfl : m = 0 := by omega
  exact .inr ⟨_, by simp, rfl⟩

end OpenBao.ExactLengthStreams
