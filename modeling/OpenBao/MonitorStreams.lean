import OpenBao.ClientErrors
import OpenBao.LineFrames
import OpenBao.PolledStreams

/-!
# Monitor streams

The stream of a server's log: it polls the response body for chunks and yields their lines
as frames of bounded length, each without its line feed. An error ends it.
-/

namespace OpenBao.MonitorStreams
open LineFrames PolledStreams

/-! ### Options, frames and the body -/

def defaultMonitorFrameBytes : ℕ := 64 * 1024
def maxMonitorFrameBytes : ℕ := 1024 * 1024
def maxMonitorTransportChunkBytes : ℕ := 1024 * 1024
def maxMonitorChunksPerPoll : ℕ := 64
def usizeMax : ℕ := 2 ^ 64 - 1

/-- `\n`. -/
def newline : UInt8 := 0x0a

inductive MonitorLogFormat where
  | standard | json
  deriving DecidableEq, Repr

structure MonitorOptions where
  logFormat : MonitorLogFormat
  maxFrameBytes : ℕ
  pos : 1 ≤ maxFrameBytes
  le_max : maxFrameBytes ≤ maxMonitorFrameBytes

namespace MonitorOptions

def default : MonitorOptions := ⟨.standard, defaultMonitorFrameBytes, by decide, by decide⟩

def withLogFormat (options : MonitorOptions) (logFormat : MonitorLogFormat) : MonitorOptions :=
  { options with logFormat }

def withMaxFrameBytes (options : MonitorOptions) (maxFrameBytes : ℕ) :
    Except Error MonitorOptions :=
  if h : 1 ≤ maxFrameBytes ∧ maxFrameBytes ≤ maxMonitorFrameBytes then
    .ok { options with maxFrameBytes, pos := h.1, le_max := h.2 }
  else .error (.invalidParameter "monitor frame limit must be between 1 byte and 1 MiB")

end MonitorOptions

structure MonitorFrame where
  format : MonitorLogFormat
  contents : List UInt8
  deriving DecidableEq, Repr

/-- What an error of the transport says about itself. -/
structure TransportFailure where
  isTimeout : Bool
  isConnect : Bool
  isRedirect : Bool
  isBody : Bool
  isDecode : Bool
  isRequest : Bool

def classifyHttpTransportError (error : TransportFailure) : String :=
  if error.isTimeout then "request timed out"
  else if error.isConnect then "connection failed"
  else if error.isRedirect then "redirect failed"
  else if error.isBody then "request or response body failed"
  else if error.isDecode then "response body could not be decoded"
  else if error.isRequest then "request could not be sent"
  else "request failed before an OpenBao response was received"

def httpTransportError (error : TransportFailure) : Error :=
  .transport (classifyHttpTransportError error)

abbrev Event := Poll (Option (Except TransportFailure (List UInt8)))
abbrev Item := Except Error MonitorFrame

/-- The answers of the response body, poll by poll. -/
abbrev Body := ℕ → Event

/-! ### The stream -/

/-- `body` counts the polls of the response body so far, and `wakeups` the calls of
`wake_by_ref`. -/
structure MonitorStream where
  body : ℕ
  wakeups : ℕ
  chunk : Option (List UInt8)
  chunkOffset : ℕ
  pending : List UInt8
  format : MonitorLogFormat
  maxFrameBytes : ℕ
  terminal : Bool

namespace MonitorStream

def new (options : MonitorOptions) : MonitorStream where
  body := 0
  wakeups := 0
  chunk := none
  chunkOffset := 0
  pending := []
  format := options.logFormat
  maxFrameBytes := options.maxFrameBytes
  terminal := false

def finishFrame (this : MonitorStream) (suffix : List UInt8) : MonitorFrame × MonitorStream :=
  (⟨this.format, this.pending ++ suffix⟩, { this with pending := [] })

def frameTooLarge (this : MonitorStream) : Poll (Option Item) × MonitorStream :=
  (.ready (some (.error (.decode "OpenBao monitor frame exceeds configured limit"))),
    { this with terminal := true, pending := [] })

def saturatingAdd (a b : ℕ) : ℕ := min (a + b) usizeMax

/-- The loop's body up to the budget: it may return, or go on. -/
def readChunk (this : MonitorStream) : Option (Poll (Option Item)) × MonitorStream :=
  match this.chunk with
  | none => (none, this)
  | some chunk =>
    let taken := { this with chunk := none }
    let remaining := chunk.drop this.chunkOffset
    match remaining.findIdx? (· == newline) with
    | some position =>
      if this.maxFrameBytes < saturatingAdd this.pending.length position then
        (some taken.frameTooLarge.1, taken.frameTooLarge.2)
      else
        let (frame, finished) := taken.finishFrame (remaining.take position)
        let offset := this.chunkOffset + (position + 1)
        if offset < chunk.length then
          (some (.ready (some (.ok frame))),
            { finished with chunkOffset := offset, chunk := some chunk })
        else (some (.ready (some (.ok frame))), { finished with chunkOffset := 0 })
    | none =>
      if this.maxFrameBytes < saturatingAdd this.pending.length remaining.length then
        (some taken.frameTooLarge.1, taken.frameTooLarge.2)
      else (none, { taken with pending := this.pending ++ remaining, chunkOffset := 0 })

/-- The loop's body from the poll of the response body on. -/
def pollBody (body : Body) (this : MonitorStream) :
    Option (Poll (Option Item)) × MonitorStream :=
  let polled := { this with body := this.body + 1 }
  let stopped := { polled with terminal := true, pending := [] }
  match body this.body with
  | .pending => (some .pending, polled)
  | .ready (some (.ok chunk)) =>
    if chunk = [] then (none, polled)
    else if maxMonitorTransportChunkBytes < chunk.length then
      (some (.ready (some (.error
        (.decode "OpenBao monitor transport chunk exceeds internal limit")))), stopped)
    else (none, { polled with chunk := some chunk })
  | .ready (some (.error error)) =>
    (some (.ready (some (.error (httpTransportError error)))), stopped)
  | .ready none =>
    let ended := { polled with terminal := true }
    if this.pending = [] then (some (.ready none), ended)
    else
      let (frame, finished) := ended.finishFrame []
      (some (.ready (some (.ok frame))), finished)

/-- The loop; the budget is what is left of the chunks of a poll. -/
def pollLoop (body : Body) : ℕ → MonitorStream → Poll (Option Item) × MonitorStream
  | budget, this =>
    match this.readChunk, budget with
    | (some answer, next), _ => (answer, next)
    | (none, next), 0 => (.pending, { next with wakeups := next.wakeups + 1 })
    | (none, next), budget + 1 =>
      match next.pollBody body with
      | (some answer, polled) => (answer, polled)
      | (none, polled) => pollLoop body budget polled

/-- A poll with a budget of chunks; `maxMonitorChunksPerPoll` is the one of the source. -/
def pollNext (budget : ℕ) (body : Body) (this : MonitorStream) :
    Poll (Option Item) × MonitorStream :=
  if this.terminal then (.ready none, this) else pollLoop body budget this

end MonitorStream

open MonitorStream

/-! ### What arrives and what a run yields -/

def Event.bytes : Event → List UInt8
  | .ready (some (.ok chunk)) => chunk
  | _ => []

/-- Nothing yet, or a chunk that is not too long. -/
def Event.IsPassed (event : Event) : Prop :=
  event = .pending ∨
    ∃ chunk, event = .ready (some (.ok chunk)) ∧ chunk.length ≤ maxMonitorTransportChunkBytes

/-- The chunks among the first `k` answers of the body, put together. -/
def received (body : Body) (k : ℕ) : List UInt8 := (List.range k).flatMap fun i => (body i).bytes

/-- The first `k` answers of the body give no reason for an error. -/
structure Undisturbed (limit : ℕ) (body : Body) (k : ℕ) : Prop where
  passed : ∀ i < k, (body i).IsPassed
  fits : Fits newline limit (received body k)

section
variable (budget : ℕ) (body : Body) (options : MonitorOptions)

def run (n : ℕ) : MonitorStream := stateAfter (pollNext budget body) (new options) n
def out (n : ℕ) : Poll (Option Item) := answer (pollNext budget body) (new options) n
def yielded (n : ℕ) : List Item := items (pollNext budget body) (new options) n

/-- The items of a run that ends. -/
def Yields (expected : List Item) : Prop :=
  ∃ n, yielded budget body options n = expected ∧ ∀ m ≥ n, out budget body options m = .ready none

end

def okFrames (options : MonitorOptions) (lines : List (List UInt8)) : List Item :=
  lines.map fun line => .ok ⟨options.logFormat, line⟩

/-- The waker of the poll is woken, or the body has it. -/
def IsWoken (body : Body) (before after : MonitorStream) : Prop :=
  before.wakeups < after.wakeups ∨ ∃ k, before.body ≤ k ∧ k < after.body ∧ body k = .pending

variable {budget least k n : ℕ} {body : Body} {options : MonitorOptions}
  {this before next : MonitorStream} {lines : List (List UInt8)}

/-! ### One poll -/

/-- What is left of the chunk. -/
def MonitorStream.unread (this : MonitorStream) : List UInt8 :=
  match this.chunk with
  | none => []
  | some chunk => chunk.drop this.chunkOffset

/-- A running stream that has yielded some lines: what has arrived is these lines, the
unfinished one and what is left of the chunk. -/
structure Framing (options : MonitorOptions) (body : Body) (lines : List (List UInt8))
    (this : MonitorStream) : Prop where
  running : this.terminal = false
  format : this.format = options.logFormat
  limit : this.maxFrameBytes = options.maxFrameBytes
  fit : ∀ line ∈ lines, newline ∉ line ∧ line.length ≤ options.maxFrameBytes
  pending : newline ∉ this.pending ∧ this.pending.length ≤ options.maxFrameBytes
  history : received body this.body = terminated newline lines ++ (this.pending ++ this.unread)
  passed : ∀ i < this.body, (body i).IsPassed
  idle : this.chunk = none → this.chunkOffset = 0
  /-- The chunk is not read to its end, and what arrived before it fits. -/
  held : ∀ chunk, this.chunk = some chunk → this.chunkOffset < chunk.length ∧
    ∃ k, this.body = k + 1 ∧ (body k).bytes = chunk ∧
      Fits newline options.maxFrameBytes (received body k)

/-- The answer at which a stream ends, behind the lines it has yielded, and the answer of the
body that is the reason. -/
inductive Ending (options : MonitorOptions) (body : Body) (lines : List (List UInt8)) (k : ℕ) :
    Poll (Option Item) → Prop
  | finished (hbody : body k = .ready none)
      (hreceived : received body k = terminated newline lines) : Ending options body lines k
        (.ready none)
  | unfinished {rest : List UInt8} (hbody : body k = .ready none) (hrest : newline ∉ rest)
      (hlength : rest.length ≤ options.maxFrameBytes) (hne : rest ≠ [])
      (hreceived : received body k = terminated newline lines ++ rest) :
      Ending options body lines k (.ready (some (.ok ⟨options.logFormat, rest⟩)))
  | failed {rest : List UInt8} {error : TransportFailure}
      (hbody : body k = .ready (some (.error error))) (hrest : newline ∉ rest)
      (hreceived : received body k = terminated newline lines ++ rest) :
      Ending options body lines k (.ready (some (.error (httpTransportError error))))
  | oversized {rest chunk : List UInt8} (hbody : body k = .ready (some (.ok chunk)))
      (hlong : maxMonitorTransportChunkBytes < chunk.length) (hrest : newline ∉ rest)
      (hreceived : received body k = terminated newline lines ++ rest) :
      Ending options body lines k (.ready (some (.error
        (.decode "OpenBao monitor transport chunk exceeds internal limit"))))
  | tooLarge {chunk rest piece : List UInt8} {more : List (List UInt8)}
      (hbody : body k = .ready (some (.ok chunk)))
      (hshort : chunk.length ≤ maxMonitorTransportChunkBytes)
      (hreceived : received body (k + 1) = terminated newline lines ++ rest)
      (hpieces : rest.splitOn newline = piece :: more)
      (hlong : options.maxFrameBytes < piece.length) :
      Ending options body lines k (.ready (some (.error
        (.decode "OpenBao monitor frame exceeds configured limit"))))

/-- What a poll of a running stream comes to. -/
inductive Reaction (options : MonitorOptions) (body : Body) (lines : List (List UInt8))
    (before : MonitorStream) (least : ℕ) : Poll (Option Item) × MonitorStream → Prop
  | waits {next : MonitorStream} (h : Framing options body lines next)
      (hwoken : IsWoken body before next) (hbody : least ≤ next.body) :
      Reaction options body lines before least (.pending, next)
  | yields {line : List UInt8} {next : MonitorStream}
      (h : Framing options body (lines ++ [line]) next) (hbody : before.body ≤ next.body) :
      Reaction options body lines before least
        (.ready (some (.ok ⟨options.logFormat, line⟩)), next)
  | stops {k : ℕ} {answer : Poll (Option Item)} {next : MonitorStream}
      (h : Ending options body lines k answer) (hundisturbed :
        Undisturbed options.maxFrameBytes body k) (hnext : next.terminal = true) :
      Reaction options body lines before least (answer, next)

theorem not_isPassed_end : ¬Event.IsPassed (.ready none) := by
  rintro (h | ⟨chunk, h, -⟩) <;> cases h

theorem not_isPassed_error {error : TransportFailure} :
    ¬Event.IsPassed (.ready (some (.error error))) := by
  rintro (h | ⟨chunk, h, -⟩) <;> cases h

theorem isPassed_chunk_iff {chunk : List UInt8} :
    Event.IsPassed (.ready (some (.ok chunk))) ↔
      chunk.length ≤ maxMonitorTransportChunkBytes := by
  constructor
  · rintro (h | ⟨chunk', h, hshort⟩) <;> cases h
    exact hshort
  · exact fun hshort => .inr ⟨chunk, rfl, hshort⟩

theorem received_succ (body : Body) (k : ℕ) :
    received body (k + 1) = received body k ++ (body k).bytes := by
  rw [received, received, List.range_succ, List.flatMap_append, List.flatMap_singleton]

/-- A line feed that is found is the first one. -/
theorem cut_of_findIdx? {text : List UInt8} {position : ℕ}
    (h : text.findIdx? (· == newline) = some position) :
    text = text.take position ++ newline :: text.drop (position + 1) ∧
      newline ∉ text.take position ∧ position < text.length := by
  obtain ⟨hlt, hfound, hfirst⟩ := List.findIdx?_eq_some_iff_getElem.mp h
  have hnewline : text[position] = newline := beq_iff_eq.mp hfound
  refine ⟨?_, fun hmem => ?_, hlt⟩
  · rw [← hnewline, ← List.drop_eq_getElem_cons hlt, List.take_append_drop]
  · obtain ⟨i, hi, heq⟩ := List.mem_take_iff_getElem.mp hmem
    have hne := hfirst i (by omega)
    exact hne (beq_iff_eq.mpr heq)

/-- The saturating sum exceeds the limit exactly when the sum does. -/
theorem Framing.exceeds_iff (h : Framing options body lines this) (a b : ℕ) :
    this.maxFrameBytes < saturatingAdd a b ↔ options.maxFrameBytes < a + b := by
  have hle := options.le_max
  unfold maxMonitorFrameBytes at hle
  rw [h.limit]
  unfold saturatingAdd usizeMax
  omega

theorem Framing.undisturbed (h : Framing options body lines this) (hchunk : this.chunk = none) :
    Undisturbed options.maxFrameBytes body this.body where
  passed := h.passed
  fits := by
    rw [h.history, MonitorStream.unread, hchunk, List.append_nil]
    exact fits_unfinished h.fit h.pending.1 h.pending.2

/-- What arrived before the chunk is undisturbed. -/
theorem Framing.undisturbed_held {chunk : List UInt8} (h : Framing options body lines this)
    (hchunk : this.chunk = some chunk) : ∃ k, this.body = k + 1 ∧
      body k = .ready (some (.ok chunk)) ∧ chunk.length ≤ maxMonitorTransportChunkBytes ∧
      Undisturbed options.maxFrameBytes body k := by
  obtain ⟨hoffset, k, hk, hbytes, hfits⟩ := h.held chunk hchunk
  have hundisturbed : Undisturbed options.maxFrameBytes body k :=
    ⟨fun i hi => h.passed i (by omega), hfits⟩
  obtain hpending | ⟨chunk', hbody, hshort⟩ := h.passed k (by omega)
  · rw [hpending] at hbytes
    subst hbytes
    exact absurd hoffset (Nat.not_lt_zero _)
  · rw [hbody] at hbytes
    obtain rfl : chunk' = chunk := hbytes
    exact ⟨k, hk, hbody, hshort, hundisturbed⟩

/-- The rest of a chunk without a line feed is kept. -/
theorem Framing.keep {chunk : List UInt8} (h : Framing options body lines this)
    (hchunk : this.chunk = some chunk) (hnone : newline ∉ chunk.drop this.chunkOffset)
    (hlength : (this.pending ++ chunk.drop this.chunkOffset).length ≤ options.maxFrameBytes) :
    Framing options body lines { this with
      chunk := none
      pending := this.pending ++ chunk.drop this.chunkOffset
      chunkOffset := 0 } where
  running := h.running
  format := h.format
  limit := h.limit
  fit := h.fit
  pending := ⟨by simp [h.pending.1, hnone], hlength⟩
  history := by
    have hhistory := h.history
    simp only [MonitorStream.unread, hchunk] at hhistory
    simpa only [MonitorStream.unread, List.append_nil] using hhistory
  passed := h.passed
  idle _ := rfl
  held _ hnone := nomatch hnone

/-- A line that ends in the chunk is yielded; the chunk is kept until it is read to its end. -/
theorem Framing.finish {chunk line rest : List UInt8} {after : Option (List UInt8)} {offset : ℕ}
    (h : Framing options body lines this) (hchunk : this.chunk = some chunk)
    (hcut : chunk.drop this.chunkOffset = line ++ newline :: rest) (hline : newline ∉ line)
    (hlength : (this.pending ++ line).length ≤ options.maxFrameBytes)
    (hafter : after = some chunk ∧ offset < chunk.length ∧ chunk.drop offset = rest ∨
      after = none ∧ offset = 0 ∧ rest = []) :
    Framing options body (lines ++ [this.pending ++ line])
      { this with pending := [], chunkOffset := offset, chunk := after } where
  running := h.running
  format := h.format
  limit := h.limit
  fit := by
    intro line' hmem
    obtain hmem | hmem := List.mem_append.mp hmem
    · exact h.fit line' hmem
    · obtain rfl := List.mem_singleton.mp hmem
      exact ⟨by simp [h.pending.1, hline], hlength⟩
  pending := ⟨List.not_mem_nil, Nat.zero_le _⟩
  history := by
    have hunread : MonitorStream.unread
        { this with pending := [], chunkOffset := offset, chunk := after } = rest := by
      obtain ⟨rfl, -, hdrop⟩ | ⟨rfl, -, rfl⟩ := hafter
      · exact hdrop
      · rfl
    have hhistory := h.history
    simp only [MonitorStream.unread, hchunk, hcut] at hhistory
    rw [hunread, hhistory, terminated_append]
    simp [terminated]
  passed := h.passed
  idle := by
    obtain ⟨rfl, -, -⟩ | ⟨-, rfl, -⟩ := hafter
    · intro hnone
      cases hnone
    · exact fun _ => rfl
  held := by
    intro chunk' hchunk'
    obtain ⟨rfl, hoffset, -⟩ | ⟨rfl, -, -⟩ := hafter
    · obtain rfl := Option.some.inj hchunk'
      exact ⟨hoffset, (h.held _ hchunk).2⟩
    · cases hchunk'

theorem readChunk_not_found {chunk : List UInt8} (hchunk : this.chunk = some chunk)
    (hfind : (chunk.drop this.chunkOffset).findIdx? (· == newline) = none) :
    this.readChunk =
      if this.maxFrameBytes <
          saturatingAdd this.pending.length (chunk.drop this.chunkOffset).length then
        (some { this with chunk := none }.frameTooLarge.1,
          { this with chunk := none }.frameTooLarge.2)
      else (none, { this with
        chunk := none
        pending := this.pending ++ chunk.drop this.chunkOffset
        chunkOffset := 0 }) := by
  simp only [MonitorStream.readChunk, hchunk, hfind]

theorem readChunk_found {chunk : List UInt8} {position : ℕ} (hchunk : this.chunk = some chunk)
    (hfind : (chunk.drop this.chunkOffset).findIdx? (· == newline) = some position) :
    this.readChunk =
      if this.maxFrameBytes < saturatingAdd this.pending.length position then
        (some { this with chunk := none }.frameTooLarge.1,
          { this with chunk := none }.frameTooLarge.2)
      else
        (some (.ready (some (.ok ⟨this.format,
            this.pending ++ (chunk.drop this.chunkOffset).take position⟩))),
          if this.chunkOffset + (position + 1) < chunk.length then
            { this with
              pending := [], chunkOffset := this.chunkOffset + (position + 1), chunk := some chunk }
          else { this with pending := [], chunkOffset := 0, chunk := none }) := by
  simp only [MonitorStream.readChunk, hchunk, hfind, MonitorStream.finishFrame]
  split_ifs <;> rfl

/-- A line that is too long, finished or not, ends the stream. -/
theorem Framing.refuse {chunk piece : List UInt8} {more : List (List UInt8)}
    (h : Framing options body lines this) (hchunk : this.chunk = some chunk)
    (hpieces : (this.pending ++ chunk.drop this.chunkOffset).splitOn newline = piece :: more)
    (hlong : options.maxFrameBytes < piece.length) :
    Reaction options body lines this least { this with chunk := none }.frameTooLarge := by
  obtain ⟨k, hk, hbody, hshort, hundisturbed⟩ := h.undisturbed_held hchunk
  have hreceived := h.history
  simp only [MonitorStream.unread, hchunk, hk] at hreceived
  exact .stops (.tooLarge hbody hshort hreceived hpieces hlong) hundisturbed rfl

theorem Framing.readChunk_of_not_found {chunk : List UInt8}
    (h : Framing options body lines this) (hchunk : this.chunk = some chunk)
    (hfind : (chunk.drop this.chunkOffset).findIdx? (· == newline) = none) :
    (∃ next, this.readChunk = (none, next) ∧ Framing options body lines next ∧
      next.chunk = none ∧ next.body = this.body ∧ next.wakeups = this.wakeups) ∨
    ∃ answer next, this.readChunk = (some answer, next) ∧
      Reaction options body lines this least (answer, next) := by
  have hnone : newline ∉ chunk.drop this.chunkOffset := fun hmem =>
    absurd (List.findIdx?_eq_none_iff.mp hfind newline hmem) (by simp)
  have hread := readChunk_not_found hchunk hfind
  have hexceeds := h.exceeds_iff this.pending.length (chunk.drop this.chunkOffset).length
  rw [← List.length_append] at hexceeds
  by_cases hlong : options.maxFrameBytes < (this.pending ++ chunk.drop this.chunkOffset).length
  · rw [if_pos (hexceeds.mpr hlong)] at hread
    have hboth : newline ∉ this.pending ++ chunk.drop this.chunkOffset := by
      simp [h.pending.1, hnone]
    exact .inr ⟨_, _, hread, h.refuse hchunk (List.splitOn_eq_singleton hboth) hlong⟩
  · rw [if_neg (mt hexceeds.mp hlong)] at hread
    exact .inl ⟨_, hread, h.keep hchunk hnone (Nat.le_of_not_lt hlong), rfl, rfl, rfl⟩

theorem Framing.readChunk_of_found {chunk : List UInt8} {position : ℕ}
    (h : Framing options body lines this) (hchunk : this.chunk = some chunk)
    (hfind : (chunk.drop this.chunkOffset).findIdx? (· == newline) = some position) :
    ∃ answer next, this.readChunk = (some answer, next) ∧
      Reaction options body lines this least (answer, next) := by
  obtain ⟨hcut, hline, hposition⟩ := cut_of_findIdx? hfind
  have hlength : (this.pending ++ (chunk.drop this.chunkOffset).take position).length =
      this.pending.length + position := by
    rw [List.length_append, List.length_take]
    omega
  have hread := readChunk_found hchunk hfind
  have hexceeds := h.exceeds_iff this.pending.length position
  rw [← hlength] at hexceeds
  by_cases hlong :
      options.maxFrameBytes < (this.pending ++ (chunk.drop this.chunkOffset).take position).length
  · rw [if_pos (hexceeds.mpr hlong)] at hread
    have hboth : newline ∉ this.pending ++ (chunk.drop this.chunkOffset).take position := by
      simp [h.pending.1, hline]
    have hpieces := List.splitOn_append_cons_self_of_not_mem hboth
      ((chunk.drop this.chunkOffset).drop (position + 1))
    rw [List.append_assoc, ← hcut] at hpieces
    exact ⟨_, _, hread, h.refuse hchunk hpieces hlong⟩
  · rw [if_neg (mt hexceeds.mp hlong)] at hread
    have hrest : chunk.drop (this.chunkOffset + (position + 1)) =
        (chunk.drop this.chunkOffset).drop (position + 1) := by rw [List.drop_drop]
    have hfits := Nat.le_of_not_lt hlong
    -- The chunk is dropped with its last line feed.
    by_cases hoffset : this.chunkOffset + (position + 1) < chunk.length
    · rw [if_pos hoffset] at hread
      have hyields : Reaction options body lines this least _ :=
        .yields (h.finish hchunk hcut hline hfits (.inl ⟨rfl, hoffset, hrest⟩)) (Nat.le_refl _)
      rw [← h.format] at hyields
      exact ⟨_, _, hread, hyields⟩
    · rw [if_neg hoffset] at hread
      have hempty : (chunk.drop this.chunkOffset).drop (position + 1) = [] := by
        rw [← hrest, List.drop_eq_nil_of_le (Nat.le_of_not_lt hoffset)]
      have hyields : Reaction options body lines this least _ :=
        .yields (h.finish hchunk hcut hline hfits (.inr ⟨rfl, rfl, hempty⟩)) (Nat.le_refl _)
      rw [← h.format] at hyields
      exact ⟨_, _, hread, hyields⟩

/-- Reading the chunk leaves a running stream without one, or the poll returns. -/
theorem readChunk_cases (h : Framing options body lines this) :
    (∃ next, this.readChunk = (none, next) ∧ Framing options body lines next ∧
      next.chunk = none ∧ next.body = this.body ∧ next.wakeups = this.wakeups) ∨
    ∃ answer next, this.readChunk = (some answer, next) ∧
      Reaction options body lines this least (answer, next) := by
  cases hchunk : this.chunk with
  | none =>
    have hread : this.readChunk = (none, this) := by rw [MonitorStream.readChunk, hchunk]
    exact .inl ⟨this, hread, h, hchunk, rfl, rfl⟩
  | some chunk =>
    cases hfind : (chunk.drop this.chunkOffset).findIdx? (· == newline) with
    | none => exact h.readChunk_of_not_found hchunk hfind
    | some position => exact .inr (h.readChunk_of_found hchunk hfind)

/-- An answer of the body that is passed leaves nothing or its chunk to read. -/
theorem Framing.polled {after : Option (List UInt8)} (h : Framing options body lines this)
    (hchunk : this.chunk = none) (hpassed : (body this.body).IsPassed)
    (hafter : after = none ∧ (body this.body).bytes = [] ∨
      ∃ chunk, after = some chunk ∧ chunk ≠ [] ∧ (body this.body).bytes = chunk) :
    Framing options body lines { this with body := this.body + 1, chunk := after } where
  running := h.running
  format := h.format
  limit := h.limit
  fit := h.fit
  pending := h.pending
  history := by
    have hhistory := h.history
    simp only [MonitorStream.unread, hchunk, List.append_nil] at hhistory
    have hunread : MonitorStream.unread { this with body := this.body + 1, chunk := after } =
        (body this.body).bytes := by
      obtain ⟨rfl, hbytes⟩ | ⟨chunk, rfl, -, hbytes⟩ := hafter
      · exact hbytes.symm
      · rw [hbytes]
        simp only [MonitorStream.unread, h.idle hchunk, List.drop_zero]
    rw [received_succ, hhistory, hunread, List.append_assoc]
  passed := by
    intro i hi
    obtain hi | rfl := Nat.lt_succ_iff_lt_or_eq.mp hi
    · exact h.passed i hi
    · exact hpassed
  idle _ := h.idle hchunk
  held := by
    intro chunk hafter'
    obtain ⟨rfl, -⟩ | ⟨chunk', rfl, hne, hbytes⟩ := hafter
    · cases hafter'
    · obtain rfl := Option.some.inj hafter'
      have hpos : this.chunkOffset < chunk'.length := by
        rw [h.idle hchunk]
        exact List.length_pos_of_ne_nil hne
      exact ⟨hpos, this.body, rfl, hbytes, (h.undisturbed hchunk).fits⟩

/-- The end of the body returns. -/
theorem pollBody_ended (h : Framing options body lines this) (hchunk : this.chunk = none)
    (hbody : body this.body = .ready none) :
    ∃ answer next, this.pollBody body = (some answer, next) ∧
      Reaction options body lines this least (answer, next) := by
  have hundisturbed := h.undisturbed hchunk
  have hreceived := h.history
  simp only [MonitorStream.unread, hchunk, List.append_nil] at hreceived
  have hread := MonitorStream.pollBody.eq_1 body this
  simp only [hbody, MonitorStream.finishFrame, List.append_nil] at hread
  by_cases hempty : this.pending = []
  · rw [if_pos hempty] at hread
    rw [hempty, List.append_nil] at hreceived
    exact ⟨_, _, hread, .stops (.finished hbody hreceived) hundisturbed rfl⟩
  · rw [if_neg hempty] at hread
    have hending : Ending options body lines this.body _ :=
      .unfinished hbody h.pending.1 h.pending.2 hempty hreceived
    rw [← h.format] at hending
    exact ⟨_, _, hread, .stops hending hundisturbed rfl⟩

/-- A chunk is taken up unless it is too long. -/
theorem pollBody_chunk {chunk : List UInt8} (h : Framing options body lines this)
    (hchunk : this.chunk = none) (hbody : body this.body = .ready (some (.ok chunk))) :
    (∃ next, this.pollBody body = (none, next) ∧ Framing options body lines next ∧
      next.body = this.body + 1 ∧ next.wakeups = this.wakeups) ∨
    ∃ answer next, this.pollBody body = (some answer, next) ∧
      Reaction options body lines this least (answer, next) := by
  have hreceived := h.history
  simp only [MonitorStream.unread, hchunk, List.append_nil] at hreceived
  have hread := MonitorStream.pollBody.eq_1 body this
  simp only [hbody] at hread
  by_cases hempty : chunk = []
  · rw [if_pos hempty] at hread
    have hpassed : (body this.body).IsPassed := by
      rw [hbody, isPassed_chunk_iff, hempty]
      exact Nat.zero_le _
    have hnext := h.polled hchunk hpassed (.inl ⟨rfl, by rw [hbody]; exact hempty⟩)
    rw [← hchunk] at hnext
    exact .inl ⟨_, hread, hnext, rfl, rfl⟩
  · rw [if_neg hempty] at hread
    by_cases hlong : maxMonitorTransportChunkBytes < chunk.length
    · rw [if_pos hlong] at hread
      have hending : Ending options body lines this.body _ :=
        .oversized hbody hlong h.pending.1 hreceived
      exact .inr ⟨_, _, hread, .stops hending (h.undisturbed hchunk) rfl⟩
    · rw [if_neg hlong] at hread
      have hpassed : (body this.body).IsPassed := by
        rw [hbody, isPassed_chunk_iff]
        exact Nat.le_of_not_lt hlong
      have hnext := h.polled hchunk hpassed
        (.inr ⟨chunk, rfl, hempty, by rw [hbody]; rfl⟩)
      exact .inl ⟨_, hread, hnext, rfl, rfl⟩

/-- Polling the body leaves a running stream, or the poll returns. -/
theorem pollBody_cases (h : Framing options body lines this) (hchunk : this.chunk = none)
    (hleast : least ≤ this.body + 1) :
    (∃ next, this.pollBody body = (none, next) ∧ Framing options body lines next ∧
      next.body = this.body + 1 ∧ next.wakeups = this.wakeups) ∨
    ∃ answer next, this.pollBody body = (some answer, next) ∧
      Reaction options body lines this least (answer, next) := by
  cases hbody : body this.body with
  | pending =>
    have hread : this.pollBody body = (some .pending, { this with body := this.body + 1 }) := by
      rw [MonitorStream.pollBody, hbody]
    have hnext := h.polled hchunk (.inl hbody) (.inl ⟨rfl, by rw [hbody]; rfl⟩)
    rw [← hchunk] at hnext
    have hwoken : IsWoken body this { this with body := this.body + 1 } :=
      .inr ⟨this.body, Nat.le_refl _, Nat.lt_succ_self _, hbody⟩
    exact .inr ⟨_, _, hread, .waits hnext hwoken hleast⟩
  | ready item =>
    cases item with
    | none => exact .inr (pollBody_ended h hchunk hbody)
    | some result =>
      cases result with
      | error error =>
        have hreceived := h.history
        simp only [MonitorStream.unread, hchunk, List.append_nil] at hreceived
        have hread := MonitorStream.pollBody.eq_1 body this
        simp only [hbody] at hread
        have hending : Ending options body lines this.body _ :=
          .failed hbody h.pending.1 hreceived
        exact .inr ⟨_, _, hread, .stops hending (h.undisturbed hchunk) rfl⟩
      | ok chunk => exact pollBody_chunk h hchunk hbody

theorem pollLoop_of_answer {answer : Poll (Option Item)} (budget : ℕ)
    (h : this.readChunk = (some answer, next)) : pollLoop body budget this = (answer, next) := by
  unfold pollLoop
  rw [h]

theorem pollLoop_zero (h : this.readChunk = (none, next)) :
    pollLoop body 0 this = (.pending, { next with wakeups := next.wakeups + 1 }) := by
  unfold pollLoop
  rw [h]

theorem pollLoop_succ (budget : ℕ) (h : this.readChunk = (none, next)) :
    pollLoop body (budget + 1) this =
      match next.pollBody body with
      | (some answer, polled) => (answer, polled)
      | (none, polled) => pollLoop body budget polled := by
  conv_lhs => unfold pollLoop
  rw [h]

/-- What the rest of a poll comes to, the poll comes to. -/
theorem Reaction.of_later {later : MonitorStream} {result : Poll (Option Item) × MonitorStream}
    (h : Reaction options body lines later least result) (hbody : before.body ≤ later.body)
    (hwakeups : before.wakeups = later.wakeups) :
    Reaction options body lines before least result := by
  cases h with
  | waits hframing hwoken hleast =>
    refine .waits hframing ?_ hleast
    obtain hwoken | ⟨k, hk, hafter, hpending⟩ := hwoken
    · exact .inl (hwakeups.trans_lt hwoken)
    · exact .inr ⟨k, hbody.trans hk, hafter, hpending⟩
  | yields hframing hlater => exact .yields hframing (hbody.trans hlater)
  | stops hending hundisturbed hterminal => exact .stops hending hundisturbed hterminal

theorem pollLoop_reaction (budget : ℕ) (h : Framing options body lines this)
    (hleast : least ≤ this.body + min budget 1) :
    Reaction options body lines this least (pollLoop body budget this) := by
  induction budget generalizing this with
  | zero =>
    obtain ⟨next, hread, hnext, -, hbody, hwakeups⟩ | ⟨answer, next, hread, hreaction⟩ :=
      @readChunk_cases least body options this lines h
    · rw [pollLoop_zero hread]
      refine .waits ?_ (.inl ?_) ?_
      · exact ⟨hnext.running, hnext.format, hnext.limit, hnext.fit, hnext.pending, hnext.history,
          hnext.passed, hnext.idle, hnext.held⟩
      · exact Nat.lt_succ_of_le hwakeups.ge
      · exact hleast.trans (by rw [← hbody]; exact Nat.le_refl _)
    · rw [pollLoop_of_answer _ hread]
      exact hreaction
  | succ budget ih =>
    have hstep : least ≤ this.body + 1 := by omega
    obtain ⟨next, hread, hnext, hchunk, hbody, hwakeups⟩ | ⟨answer, next, hread, hreaction⟩ :=
      @readChunk_cases least body options this lines h
    · rw [← hbody] at hstep
      obtain ⟨polled, hpoll, hpolled, hcount, hsame⟩ | ⟨answer, polled, hpoll, hreaction⟩ :=
        pollBody_cases hnext hchunk hstep
      · rw [pollLoop_succ budget hread, hpoll]
        have hrest := ih hpolled (by omega)
        exact hrest.of_later (by omega) (by omega)
      · rw [pollLoop_succ budget hread, hpoll]
        exact hreaction.of_later hbody.ge hwakeups.symm
    · rw [pollLoop_of_answer _ hread]
      exact hreaction

/-! ### Runs -/

theorem received_mono (body : Body) {j k : ℕ} (h : j ≤ k) :
    received body j <+: received body k := by
  induction k, h using Nat.le_induction with
  | base => exact List.prefix_rfl
  | succ k _ ih =>
    rw [received_succ]
    exact ih.trans (List.prefix_append _ _)

theorem Undisturbed.of_le {limit j : ℕ} (h : Undisturbed limit body k) (hle : j ≤ k) :
    Undisturbed limit body j where
  passed i hi := h.passed i (by omega)
  fits := by
    obtain ⟨more, hmore⟩ := received_mono body hle
    have hfits := h.fits
    rw [← hmore] at hfits
    exact hfits.of_append

/-- What ends a stream is a disturbance, or the end of the body. -/
theorem Ending.not_undisturbed {answer : Poll (Option Item)}
    (h : Ending options body lines k answer) (hfit : ∀ line ∈ lines, newline ∉ line) :
    ¬Undisturbed options.maxFrameBytes body (k + 1) := by
  intro hundisturbed
  have hpassed := hundisturbed.passed k (Nat.lt_succ_self k)
  cases h with
  | finished hbody =>
    rw [hbody] at hpassed
    exact not_isPassed_end hpassed
  | unfinished hbody =>
    rw [hbody] at hpassed
    exact not_isPassed_end hpassed
  | failed hbody =>
    rw [hbody] at hpassed
    exact not_isPassed_error hpassed
  | oversized hbody hlong =>
    rw [hbody, isPassed_chunk_iff] at hpassed
    omega
  | tooLarge _ _ hreceived hpieces hlong =>
    have hfits := hundisturbed.fits
    rw [hreceived] at hfits
    exact not_fits_of_long hfit hpieces hlong hfits

/-- The first `n` polls have yielded some lines, and the stream runs on. -/
structure Running (budget : ℕ) (body : Body) (options : MonitorOptions) (n : ℕ)
    (lines : List (List UInt8)) : Prop where
  framing : Framing options body lines (run budget body options n)
  items : yielded budget body options n = okFrames options lines
  progress : 0 < budget → n ≤ lines.length + (run budget body options n).body

/-- The poll after `n` polls is the last one of a stream. -/
structure Stopped (budget : ℕ) (body : Body) (options : MonitorOptions) (n : ℕ)
    (lines : List (List UInt8)) (k : ℕ) : Prop where
  running : Running budget body options n lines
  ending : Ending options body lines k (out budget body options n)
  undisturbed : Undisturbed options.maxFrameBytes body k
  terminal : (run budget body options (n + 1)).terminal = true

theorem running_zero (budget : ℕ) (body : Body) (options : MonitorOptions) :
    Running budget body options 0 [] where
  framing := {
    running := rfl
    format := rfl
    limit := rfl
    fit := fun _ h => absurd h List.not_mem_nil
    pending := ⟨List.not_mem_nil, Nat.zero_le _⟩
    history := rfl
    passed := fun i hi => absurd hi (Nat.not_lt_zero i)
    idle := fun _ => rfl
    held := fun _ h => nomatch h }
  items := rfl
  progress _ := Nat.zero_le _

theorem yielded_succ (n : ℕ) : yielded budget body options (n + 1) =
    yielded budget body options n ++ (out budget body options n).item?.toList := items_succ n

theorem Running.reaction (h : Running budget body options n lines) :
    Reaction options body lines (run budget body options n)
      ((run budget body options n).body + min budget 1)
      (out budget body options n, run budget body options (n + 1)) := by
  have hpoll : pollNext budget body (run budget body options n) =
      pollLoop body budget (run budget body options n) := by
    rw [MonitorStream.pollNext, h.framing.running]
    rfl
  have hreaction := pollLoop_reaction budget h.framing (Nat.le_refl _)
  rw [← hpoll] at hreaction
  exact hreaction

/-- A poll of a running stream lets it run on or ends it. -/
theorem Running.step (h : Running budget body options n lines) :
    (∃ lines', Running budget body options (n + 1) lines') ∨
      ∃ k, Stopped budget body options n lines k := by
  have hreaction := h.reaction
  have hprogress := h.progress
  have hitems := @yielded_succ budget body options n
  generalize hresult : (out budget body options n, run budget body options (n + 1)) = result
    at hreaction
  cases hreaction with
  | waits hnext _ hbody =>
    obtain ⟨hout, rfl⟩ := Prod.mk.inj hresult
    refine .inl ⟨lines, hnext, ?_, fun hbudget => ?_⟩
    · rw [hitems, h.items, hout]
      exact List.append_nil _
    · have hn := hprogress hbudget
      omega
  | @yields line next hnext hbody =>
    obtain ⟨hout, rfl⟩ := Prod.mk.inj hresult
    refine .inl ⟨lines ++ [line], hnext, ?_, fun hbudget => ?_⟩
    · rw [hitems, h.items, hout, okFrames, okFrames, List.map_append]
      rfl
    · have hn := hprogress hbudget
      rw [List.length_append, List.length_singleton]
      omega
  | stops hending hundisturbed hterminal =>
    obtain ⟨rfl, rfl⟩ := Prod.mk.inj hresult
    exact .inr ⟨_, h, hending, hundisturbed, hterminal⟩

theorem running_or_stopped (budget : ℕ) (body : Body) (options : MonitorOptions) (n : ℕ) :
    (∃ lines, Running budget body options n lines) ∨
      ∃ m < n, ∃ lines k, Stopped budget body options m lines k := by
  induction n with
  | zero => exact .inl ⟨[], running_zero budget body options⟩
  | succ n ih =>
    obtain ⟨lines, hrunning⟩ | ⟨m, hm, hstopped⟩ := ih
    · obtain hnext | ⟨k, hstopped⟩ := hrunning.step
      · exact .inl hnext
      · exact .inr ⟨n, Nat.lt_succ_self n, lines, k, hstopped⟩
    · exact .inr ⟨m, Nat.lt_succ_of_lt hm, hstopped⟩

/-- Behind the end there is nothing. -/
theorem Stopped.after (h : Stopped budget body options n lines k) {m : ℕ} (hm : n < m) :
    out budget body options m = .ready none := by
  have hterminal : (run budget body options m).terminal = true := by
    have hkept : ∀ this : MonitorStream, this.terminal = true →
        (pollNext budget body this).2.terminal = true := by
      intro this hthis
      rw [MonitorStream.pollNext, if_pos hthis]
      exact hthis
    exact stateAfter_invariant (P := fun this : MonitorStream => this.terminal = true)
      h.terminal hkept hm
  change (pollNext budget body (run budget body options m)).1 = _
  rw [MonitorStream.pollNext, if_pos hterminal]

theorem Stopped.items (h : Stopped budget body options n lines k) {m : ℕ} (hm : n < m) :
    yielded budget body options m =
      okFrames options lines ++ (out budget body options n).item?.toList := by
  induction m, hm using Nat.le_induction with
  | base => rw [yielded_succ, h.running.items]
  | succ m hm ih =>
    rw [yielded_succ, ih, h.after hm]
    exact List.append_nil _

theorem Stopped.yields (h : Stopped budget body options n lines k) :
    Yields budget body options
      (okFrames options lines ++ (out budget body options n).item?.toList) :=
  ⟨n + 1, h.items (Nat.lt_succ_self n), fun _ hm => h.after hm⟩

theorem Framing.length_le (h : Framing options body lines this) :
    lines.length ≤ (received body this.body).length := by
  have hle := length_le_terminated newline lines
  rw [h.history, List.length_append]
  omega

/-- A running stream is one answer of the body ahead of what is undisturbed, at most. -/
theorem Framing.undisturbed_pred (h : Framing options body lines this) (hk : k < this.body) :
    Undisturbed options.maxFrameBytes body k := by
  cases hchunk : this.chunk with
  | none => exact (h.undisturbed hchunk).of_le (Nat.le_of_lt hk)
  | some chunk =>
    obtain ⟨j, hj, -, -, hundisturbed⟩ := h.undisturbed_held hchunk
    exact hundisturbed.of_le (by omega)

/-- A stream that goes on for long has polled the body often. -/
theorem Running.lt_body (h : Running budget body options n lines) (hbudget : 0 < budget)
    (hn : k + 1 + (received body (k + 1)).length < n) :
    k + 1 < (run budget body options n).body := by
  by_contra hle
  have hprogress := h.progress hbudget
  have hlength := h.framing.length_le
  have hmono := (received_mono body (Nat.le_of_not_lt hle)).length_le
  omega

/-- The first disturbance ends the stream. -/
theorem exists_stopped (hbudget : 0 < budget) (h : Undisturbed options.maxFrameBytes body k)
    (hnot : ¬Undisturbed options.maxFrameBytes body (k + 1)) :
    ∃ n lines, Stopped budget body options n lines k := by
  obtain ⟨lines, hrunning⟩ | ⟨n, -, lines, j, hstopped⟩ :=
    running_or_stopped budget body options (k + 2 + (received body (k + 1)).length)
  · have hbody := hrunning.lt_body hbudget (k := k) (by omega)
    exact absurd (hrunning.framing.undisturbed_pred hbody) hnot
  · have hdisturbed := hstopped.ending.not_undisturbed fun line hline =>
      (hstopped.running.framing.fit line hline).1
    have hjk : ¬j < k := fun hlt => hdisturbed (h.of_le hlt)
    have hkj : ¬k < j := fun hlt => hnot (hstopped.undisturbed.of_le hlt)
    obtain rfl : j = k := by omega
    exact ⟨n, lines, hstopped⟩

/-! ### What a stream yields -/

/-- The items of a stream that answer `k` of the body ends. -/
def expected (options : MonitorOptions) (body : Body) (k : ℕ) : List Item :=
  match body k with
  | .pending => []
  | .ready none => okFrames options (frames newline (received body k))
  | .ready (some (.error error)) =>
    okFrames options (completeLines newline (received body k)) ++
      [.error (httpTransportError error)]
  | .ready (some (.ok chunk)) =>
    if maxMonitorTransportChunkBytes < chunk.length then
      okFrames options (completeLines newline (received body k)) ++
        [.error (.decode "OpenBao monitor transport chunk exceeds internal limit")]
    else
      okFrames options (fittingLines newline options.maxFrameBytes (received body (k + 1))) ++
        [.error (.decode "OpenBao monitor frame exceeds configured limit")]

theorem Ending.items_eq {answer : Poll (Option Item)} (h : Ending options body lines k answer)
    (hfit : ∀ line ∈ lines, newline ∉ line ∧ line.length ≤ options.maxFrameBytes) :
    okFrames options lines ++ answer.item?.toList = expected options body k := by
  have hlines : ∀ line ∈ lines, newline ∉ line := fun line hline => (hfit line hline).1
  cases h with
  | finished hbody hreceived =>
    simp only [expected, hbody]
    rw [hreceived, frames_terminated hlines]
    exact List.append_nil _
  | unfinished hbody hrest _ hne hreceived =>
    simp only [expected, hbody]
    rw [hreceived, frames_unfinished hlines hrest hne, okFrames, okFrames, List.map_append]
    rfl
  | failed hbody hrest hreceived =>
    simp only [expected, hbody]
    rw [hreceived, completeLines_unfinished hlines hrest]
    rfl
  | oversized hbody hlong hrest hreceived =>
    simp only [expected, hbody]
    rw [if_pos hlong, hreceived, completeLines_unfinished hlines hrest]
    rfl
  | tooLarge hbody hshort hreceived hpieces hlong =>
    simp only [expected, hbody]
    rw [if_neg (Nat.not_lt_of_le hshort), hreceived, fittingLines_eq hfit hpieces hlong]
    rfl

theorem yields_expected (hbudget : 0 < budget) (h : Undisturbed options.maxFrameBytes body k)
    (hnot : ¬Undisturbed options.maxFrameBytes body (k + 1)) :
    Yields budget body options (expected options body k) := by
  obtain ⟨n, lines, hstopped⟩ := exists_stopped hbudget h hnot
  rw [← hstopped.ending.items_eq hstopped.running.framing.fit]
  exact hstopped.yields

theorem yielded_length_le {frame : MonitorFrame}
    (h : .ok frame ∈ yielded budget body options n) :
    frame.contents.length ≤ options.maxFrameBytes := by
  have hlines : ∀ {n lines}, Running budget body options n lines →
      .ok frame ∈ okFrames options lines → frame.contents.length ≤ options.maxFrameBytes := by
    intro n lines hrunning hmem
    obtain ⟨line, hline, heq⟩ := List.mem_map.mp hmem
    obtain rfl := Except.ok.inj heq
    exact (hrunning.framing.fit line hline).2
  obtain ⟨lines, hrunning⟩ | ⟨m, hm, lines, k, hstopped⟩ :=
    running_or_stopped budget body options n
  · rw [hrunning.items] at h
    exact hlines hrunning h
  · rw [hstopped.items hm] at h
    obtain hmem | hlast := List.mem_append.mp h
    · exact hlines hstopped.running hmem
    · have hending := hstopped.ending
      generalize out budget body options m = answer at hlast hending
      cases hending with
      | unfinished _ _ hlength =>
        obtain rfl := Except.ok.inj (List.mem_singleton.mp hlast)
        exact hlength
      | finished => cases hlast
      | failed => cases List.mem_singleton.mp hlast
      | oversized => cases List.mem_singleton.mp hlast
      | tooLarge => cases List.mem_singleton.mp hlast

/-- A poll that has to wait is followed by another one. -/
theorem isWoken_of_pending (h : out budget body options n = .pending) :
    IsWoken body (run budget body options n) (run budget body options (n + 1)) := by
  obtain ⟨lines, hrunning⟩ | ⟨m, hm, lines, k, hstopped⟩ :=
    running_or_stopped budget body options n
  · have hreaction := hrunning.reaction
    rw [h] at hreaction
    generalize run budget body options (n + 1) = after at hreaction
    cases hreaction with
    | waits _ hwoken => exact hwoken
    | stops hending => cases hending
  · rw [hstopped.after hm] at h
    cases h

/-- A stream that nothing disturbs has yielded complete lines of what has arrived. -/
theorem exists_running (h : ∀ k, Undisturbed options.maxFrameBytes body k) (n : ℕ) :
    ∃ lines, Running budget body options n lines := by
  obtain hrunning | ⟨m, -, lines, k, hstopped⟩ := running_or_stopped budget body options n
  · exact hrunning
  · have hdisturbed := hstopped.ending.not_undisturbed fun line hline =>
      (hstopped.running.framing.fit line hline).1
    exact absurd (h (k + 1)) hdisturbed

theorem Framing.completeLines_eq (h : Framing options body lines this) :
    lines <+: completeLines newline (received body this.body) := by
  have hprefix := completeLines_mono newline (terminated newline lines)
    (this.pending ++ this.unread)
  have hlines := completeLines_unfinished (fun line hline => (h.fit line hline).1)
    (List.not_mem_nil (a := newline))
  rw [List.append_nil] at hlines
  rwa [hlines, ← h.history] at hprefix

/-- Whatever arrived before the last answer has been read. -/
theorem Framing.received_read (h : Framing options body lines this) (hk : k + 1 < this.body) :
    received body k <+: terminated newline lines ++ this.pending := by
  have hhistory := h.history
  cases hchunk : this.chunk with
  | none =>
    simp only [MonitorStream.unread, hchunk, List.append_nil] at hhistory
    rw [← hhistory]
    exact received_mono body (by omega)
  | some chunk =>
    obtain ⟨-, j, hj, hbytes, -⟩ := h.held chunk hchunk
    simp only [MonitorStream.unread, hchunk] at hhistory
    rw [hj, received_succ, hbytes, ← List.append_assoc] at hhistory
    have hcut : received body j ++ chunk.take this.chunkOffset =
        terminated newline lines ++ this.pending := by
      apply (List.append_left_inj (chunk.drop this.chunkOffset)).mp
      rw [List.append_assoc, List.take_append_drop, hhistory]
    rw [← hcut]
    exact (received_mono body (by omega)).trans (List.prefix_append _ _)

/-- Every complete line is yielded in the end. -/
theorem exists_yielded (hbudget : 0 < budget) (h : ∀ k, Undisturbed options.maxFrameBytes body k)
    (k : ℕ) : ∃ n, okFrames options (completeLines newline (received body k)) <+:
      yielded budget body options n := by
  obtain ⟨lines, hrunning⟩ := @exists_running budget body options h
    (k + 2 + (received body (k + 1)).length)
  have hbody := hrunning.lt_body hbudget (k := k) (by omega)
  obtain ⟨more, hmore⟩ := hrunning.framing.received_read hbody
  have hprefix := completeLines_mono newline (received body k) more
  have hlines := completeLines_unfinished
    (fun line hline => (hrunning.framing.fit line hline).1) hrunning.framing.pending.1
  rw [hmore, hlines] at hprefix
  refine ⟨k + 2 + (received body (k + 1)).length, ?_⟩
  rw [hrunning.items]
  exact hprefix.map _

/-- A stream whose body ends undisturbed yields the frames of what has arrived, and the first
disturbance ends it with one error behind the lines completed before. Without either it yields
every complete line. No frame is too long, and a poll that has to wait is woken. -/
theorem monitorStream_law (hbudget : 0 < budget) (body : Body) (options : MonitorOptions) :
    (∀ k, Undisturbed options.maxFrameBytes body k →
      (body k = .ready none →
        Yields budget body options (okFrames options (frames newline (received body k)))) ∧
      (∀ error, body k = .ready (some (.error error)) →
        Yields budget body options (okFrames options (completeLines newline (received body k)) ++
          [.error (httpTransportError error)])) ∧
      ∀ chunk, body k = .ready (some (.ok chunk)) →
        (maxMonitorTransportChunkBytes < chunk.length →
          Yields budget body options (okFrames options (completeLines newline (received body k)) ++
            [.error (.decode "OpenBao monitor transport chunk exceeds internal limit")])) ∧
        (chunk.length ≤ maxMonitorTransportChunkBytes →
          ¬Fits newline options.maxFrameBytes (received body (k + 1)) →
          Yields budget body options
            (okFrames options
                (fittingLines newline options.maxFrameBytes (received body (k + 1))) ++
              [.error (.decode "OpenBao monitor frame exceeds configured limit")]))) ∧
    ((∀ k, Undisturbed options.maxFrameBytes body k) →
      (∀ n, ∃ lines, yielded budget body options n = okFrames options lines ∧
        lines <+: completeLines newline (received body (run budget body options n).body)) ∧
      ∀ k, ∃ n, okFrames options (completeLines newline (received body k)) <+:
        yielded budget body options n) ∧
    (∀ n frame, .ok frame ∈ yielded budget body options n →
      frame.contents.length ≤ options.maxFrameBytes) ∧
    ∀ n, out budget body options n = .pending →
      IsWoken body (run budget body options n) (run budget body options (n + 1)) := by
  refine ⟨fun k h => ?_, fun h => ?_, fun n frame => yielded_length_le, fun n => isWoken_of_pending⟩
  · have hyields := fun hnot => @yields_expected budget k body options hbudget h hnot
    have hfails : ∀ event : Event, body k = event → ¬event.IsPassed →
        Yields budget body options (expected options body k) := by
      intro event hbody hnot
      apply hyields
      intro hnext
      have hpassed := hnext.passed k (Nat.lt_succ_self k)
      rw [hbody] at hpassed
      exact hnot hpassed
    refine ⟨fun hbody => ?_, fun error hbody => ?_, fun chunk hbody => ⟨fun hlong => ?_, ?_⟩⟩
    · have hitems := hfails _ hbody not_isPassed_end
      simp only [expected, hbody] at hitems
      exact hitems
    · have hitems := hfails _ hbody not_isPassed_error
      simp only [expected, hbody] at hitems
      exact hitems
    · have hnot : ¬Event.IsPassed (.ready (some (.ok chunk))) := by
        rw [isPassed_chunk_iff]
        exact Nat.not_le_of_lt hlong
      have hitems := hfails _ hbody hnot
      simp only [expected, hbody] at hitems
      rwa [if_pos hlong] at hitems
    · intro hshort hlong
      have hitems := hyields fun hnext => hlong hnext.fits
      simp only [expected, hbody] at hitems
      rwa [if_neg (Nat.not_lt_of_le hshort)] at hitems
  · refine ⟨fun n => ?_, exists_yielded hbudget h⟩
    obtain ⟨lines, hrunning⟩ := @exists_running budget body options h n
    exact ⟨lines, hrunning.items, hrunning.framing.completeLines_eq⟩

/-- `ab\nc`, a pause, `d`, and the end. -/
def twoChunks : Body
  | 0 => .ready (some (.ok [0x61, 0x62, 0x0a, 0x63]))
  | 1 => .pending
  | 2 => .ready (some (.ok [0x64]))
  | _ + 3 => .ready none

theorem monitorStream_law_twoChunks :
    Yields maxMonitorChunksPerPoll twoChunks .default
      [.ok ⟨.standard, [0x61, 0x62]⟩, .ok ⟨.standard, [0x63, 0x64]⟩] := by
  have hundisturbed : Undisturbed MonitorOptions.default.maxFrameBytes twoChunks 3 := by
    refine ⟨fun i hi => ?_, ?_⟩
    · match i, hi with
      | 0, _ => exact .inr ⟨_, rfl, by decide⟩
      | 1, _ => exact .inl rfl
      | 2, _ => exact .inr ⟨_, rfl, by decide⟩
    · unfold Fits
      decide
  exact ((monitorStream_law (by decide) twoChunks .default).1 3 hundisturbed).1 rfl

end OpenBao.MonitorStreams
