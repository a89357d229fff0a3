import OpenBao.BoundedLogs
import OpenBao.ClientErrors
import OpenBao.Utf8Text

/-!
# Request body buffers

The two writers that collect a serialised request within the client's size limit. The
sanitizing buffer moves its bytes to a new allocation when it grows and wipes the old one
before it is released. An allocation that fails ends the program and is not modelled.
-/

namespace OpenBao.RequestBodyBuffers
open BoundedLogs Utf8Text

def requestBodyTooLarge : Error :=
  .invalidParameter "OpenBao request exceeds configured client limit"

/-! ### Vectors -/

/-- A `Vec<u8>` and its capacity. -/
structure Vec where
  bytes : Bytes
  capacity : ℕ
  fits : bytes.length ≤ capacity

/-- The platform: the largest `usize`, the capacity granted for a requested one, and what
the wiping functions of the sanitization library leave of a vector. -/
structure Platform where
  usizeMax : ℕ
  grant : ℕ → ℕ
  le_grant : ∀ n, n ≤ grant n
  wipeBytes : Vec → Vec
  wipeVec : Vec → Vec

namespace Vec

def new : Vec := ⟨[], 0, Nat.le_refl 0⟩

def withCapacity (platform : Platform) (capacity : ℕ) : Vec :=
  ⟨[], platform.grant capacity, Nat.zero_le _⟩

/-- `Vec::extend_from_slice`, which moves to another allocation when it has to. -/
def extendFromSlice (platform : Platform) (v : Vec) (input : Bytes) : Vec :=
  if h : v.bytes.length + input.length ≤ v.capacity then
    ⟨v.bytes ++ input, v.capacity, by rwa [List.length_append]⟩
  else ⟨v.bytes ++ input, platform.grant (v.bytes ++ input).length, platform.le_grant _⟩

@[simp] theorem extendFromSlice_bytes (platform : Platform) (v : Vec) (input : Bytes) :
    (v.extendFromSlice platform input).bytes = v.bytes ++ input := by
  rw [extendFromSlice]
  split <;> rfl

theorem extendFromSlice_capacity {platform : Platform} {v : Vec} {input : Bytes}
    (h : v.bytes.length + input.length ≤ v.capacity) :
    (v.extendFromSlice platform input).capacity = v.capacity := by
  rw [extendFromSlice, dif_pos h]

end Vec

/-! ### The sanitizing buffer -/

structure SanitizingBodyBuffer where
  bytes : Vec
  limit : ℕ
  exceeded : Bool

namespace SanitizingBodyBuffer

def new (limit : ℕ) : SanitizingBodyBuffer := ⟨.new, limit, false⟩

def wipeAllocation (platform : Platform) (this : SanitizingBodyBuffer) : SanitizingBodyBuffer :=
  { this with bytes := platform.wipeVec (platform.wipeBytes this.bytes) }

/-- `mem::swap` of the two vectors. -/
def swapBytes (this replacement : SanitizingBodyBuffer) :
    SanitizingBodyBuffer × SanitizingBodyBuffer :=
  ({ this with bytes := replacement.bytes }, { replacement with bytes := this.bytes })

/-- The growth in `try_extend`: a larger allocation is filled with a copy, the old one is
wiped, and the two are swapped. The second buffer, with the old allocation, is dropped. -/
def grow (platform : Platform) (this : SanitizingBodyBuffer) (required : ℕ) :
    SanitizingBodyBuffer × SanitizingBodyBuffer :=
  let capacity := max (max (min (this.bytes.capacity * 2) platform.usizeMax) required) 8
  let replacement := { new this.limit with bytes := .withCapacity platform capacity }
  let replacement :=
    { replacement with bytes := replacement.bytes.extendFromSlice platform this.bytes.bytes }
  let this := this.wipeAllocation platform
  this.swapBytes replacement

/-- The buffer with room for the input, and the one that is dropped when it had to grow. -/
def reserve (platform : Platform) (this : SanitizingBodyBuffer) (input : Bytes) :
    SanitizingBodyBuffer × Option SanitizingBodyBuffer :=
  let required := min (this.bytes.bytes.length + input.length) platform.usizeMax
  if this.bytes.capacity < required then
    let (this, dropped) := this.grow platform required
    (this, some dropped)
  else (this, none)

def tryExtend (platform : Platform) (this : SanitizingBodyBuffer) (input : Bytes) :
    Except Error Unit × SanitizingBodyBuffer :=
  if this.limit - this.bytes.bytes.length < input.length then
    (.error requestBodyTooLarge, { this with exceeded := true })
  else
    let this := (this.reserve platform input).1
    (.ok (), { this with bytes := this.bytes.extendFromSlice platform input })

variable {platform : Platform} {this : SanitizingBodyBuffer} {input : Bytes}

/-- Growing loses, repeats and zeroes no byte, whatever wiping does to the old vector. -/
theorem reserve_bytes : (this.reserve platform input).1.bytes.bytes = this.bytes.bytes ∧
    (this.reserve platform input).1.limit = this.limit ∧
    (this.reserve platform input).1.exceeded = this.exceeded := by
  dsimp only [reserve]
  split
  · simp [grow, swapBytes, wipeAllocation, Vec.withCapacity]
  · exact ⟨rfl, rfl, rfl⟩

/-- What the growth of a buffer guarantees: the input fits behind it, so that writing it moves
the bytes to no other allocation, and the allocation that it leaves is wiped. -/
structure Grown (this : SanitizingBodyBuffer) (platform : Platform) (input : Bytes) : Prop where
  room : (this.reserve platform input).1.bytes.bytes.length + input.length ≤
    (this.reserve platform input).1.bytes.capacity
  stays : this.bytes.bytes.length + input.length ≤ this.limit →
    (this.tryExtend platform input).2.bytes.capacity =
      (this.reserve platform input).1.bytes.capacity
  keeps : (this.reserve platform input).2 = none → (this.reserve platform input).1 = this
  wiped : ∀ dropped, (this.reserve platform input).2 = some dropped →
    dropped.bytes = platform.wipeVec (platform.wipeBytes this.bytes)

theorem reserve_room (h : this.bytes.bytes.length + input.length ≤ platform.usizeMax) :
    (this.reserve platform input).1.bytes.bytes.length + input.length ≤
      (this.reserve platform input).1.bytes.capacity := by
  rw [reserve_bytes.1]
  dsimp only [reserve]
  rw [Nat.min_eq_left h]
  split
  · dsimp only [grow, swapBytes]
    have hgrant := platform.le_grant (max (max (min (this.bytes.capacity * 2) platform.usizeMax)
      (this.bytes.bytes.length + input.length)) 8)
    rw [Vec.extendFromSlice_capacity]
    · exact le_trans (by omega) hgrant
    · have hcopied : 0 + this.bytes.bytes.length ≤ _ := le_trans (by omega) hgrant
      exact hcopied
  · next hroom => exact Nat.le_of_not_lt hroom

theorem reserve_grown (h : this.bytes.bytes.length + input.length ≤ platform.usizeMax) :
    this.Grown platform input where
  room := reserve_room h
  stays hlimit := by
    have hfits : ¬this.limit - this.bytes.bytes.length < input.length := by omega
    rw [tryExtend, if_neg hfits]
    exact Vec.extendFromSlice_capacity (reserve_room h)
  keeps hnone := by
    dsimp only [reserve] at hnone ⊢
    split at hnone
    · cases hnone
    · next hroom => rw [if_neg hroom]
  wiped dropped hdropped := by
    dsimp only [reserve] at hdropped
    split at hdropped
    · obtain rfl := Option.some.inj hdropped
      rfl
    · cases hdropped

end SanitizingBodyBuffer

/-! ### The secret writer -/

/-- Its `SecretVec` is the list of its bytes. -/
structure BoundedSecretWriter where
  bytes : Bytes
  limit : ℕ
  exceeded : Bool

namespace BoundedSecretWriter

def new (limit : ℕ) : BoundedSecretWriter := ⟨[], limit, false⟩

def tryExtend (this : BoundedSecretWriter) (input : Bytes) :
    Except Error Unit × BoundedSecretWriter :=
  if this.limit - this.bytes.length < input.length then
    (.error requestBodyTooLarge, { this with exceeded := true })
  else (.ok (), { this with bytes := this.bytes ++ input })

end BoundedSecretWriter

/-! ### Serialisation -/

/-- What the serialiser does with a payload: the pieces it writes, and whether it then fails
of itself. Its output is complete when it does not. -/
structure Serialization where
  pieces : List Bytes
  fails : Bool

/-- `Write::write_all` of a writer that takes a piece whole. -/
def writeAll {β : Type} (extend : β → Bytes → Except Error Unit × β) (writer : β)
    (piece : Bytes) : Except Error Unit × β :=
  if piece = [] then (.ok (), writer) else extend writer piece

/-- `serde_json::to_writer`, which stops at the first piece that is refused. -/
def toWriter {β : Type} (extend : β → Bytes → Except Error Unit × β) (writer : β)
    (payload : Serialization) : Bool × β :=
  match writePieces (writeAll extend) writer payload.pieces with
  | (.ok (), writer) => (!payload.fails, writer)
  | (.error _, writer) => (false, writer)

def encodeBoundedJson (payload : Serialization) (limit : ℕ) : Except Error Bytes :=
  let (written, writer) := toWriter BoundedSecretWriter.tryExtend (.new limit) payload
  if written then .ok writer.bytes
  else if writer.exceeded then .error requestBodyTooLarge
  else .error (.decode "OpenBao request could not be encoded")

/-- The bytes of the body. -/
def encodeBoundedJsonBody (platform : Platform) (payload : Serialization)
    (writer : SanitizingBodyBuffer) : Except Error Bytes :=
  let (written, writer) := toWriter (SanitizingBodyBuffer.tryExtend platform) writer payload
  if written then .ok writer.bytes.bytes
  else if writer.exceeded then .error requestBodyTooLarge
  else .error (.decode "OpenBao request could not be encoded")

/-! ### Both buffers are logs of bounded length -/

variable {limit : ℕ}

def SanitizingBodyBuffer.Represents (this : SanitizingBodyBuffer) (log : BoundedLog UInt8 limit) :
    Prop :=
  this.bytes.bytes = log.held ∧ this.exceeded = log.refused ∧ this.limit = limit

def BoundedSecretWriter.Represents (this : BoundedSecretWriter) (log : BoundedLog UInt8 limit) :
    Prop :=
  this.bytes = log.held ∧ this.exceeded = log.refused ∧ this.limit = limit

theorem sanitizingBodyBuffer_implements (platform : Platform) (limit : ℕ) :
    Implements (SanitizingBodyBuffer.tryExtend platform)
      (@SanitizingBodyBuffer.Represents limit) requestBodyTooLarge := by
  refine implements_of_room (fun _ _ => rfl) ?_ ?_ ?_
  · rintro this log ⟨hbytes, -, hlimit⟩
    rw [hbytes, hlimit]
  · rintro this log input ⟨hbytes, hrefused, hlimit⟩ hfits
    obtain ⟨hreserve, hsame, hexceeded⟩ := @SanitizingBodyBuffer.reserve_bytes platform this input
    obtain ⟨hofferHeld, hofferRefused⟩ := BoundedLog.offer_of_admits hfits
    refine ⟨?_, ?_, hsame.trans hlimit⟩
    · rw [hofferHeld, ← hbytes, ← hreserve]
      exact Vec.extendFromSlice_bytes _ _ _
    · rw [hofferRefused, ← hrefused]
      exact hexceeded
  · rintro this log input ⟨hbytes, -, hlimit⟩ hfits
    obtain ⟨hofferHeld, hofferRefused⟩ := BoundedLog.offer_of_not_admits hfits
    exact ⟨hbytes.trans hofferHeld.symm, hofferRefused.symm, hlimit⟩

theorem boundedSecretWriter_implements (limit : ℕ) :
    Implements BoundedSecretWriter.tryExtend (@BoundedSecretWriter.Represents limit)
      requestBodyTooLarge := by
  refine implements_of_room (fun _ _ => rfl) ?_ ?_ ?_
  · rintro this log ⟨hbytes, -, hlimit⟩
    rw [hbytes, hlimit]
  · rintro this log input ⟨hbytes, hrefused, hlimit⟩ hfits
    obtain ⟨hofferHeld, hofferRefused⟩ := BoundedLog.offer_of_admits hfits
    refine ⟨?_, hrefused.trans hofferRefused.symm, hlimit⟩
    rw [hofferHeld, ← hbytes]
  · rintro this log input ⟨hbytes, -, hlimit⟩ hfits
    obtain ⟨hofferHeld, hofferRefused⟩ := BoundedLog.offer_of_not_admits hfits
    exact ⟨hbytes.trans hofferHeld.symm, hofferRefused.symm, hlimit⟩

/-- Skipping empty pieces changes nothing. -/
theorem writeAll_implements {β : Type} {extend : β → Bytes → Except Error Unit × β}
    {represents : β → BoundedLog UInt8 limit → Prop}
    (h : Implements extend represents requestBodyTooLarge) :
    Implements (writeAll extend) represents requestBodyTooLarge where
  result b log input hb := by
    by_cases hempty : input = []
    · have hfits : log.Admits [] := log.fits
      rw [writeAll, if_pos hempty, hempty, if_pos hfits]
    · rw [writeAll, if_neg hempty, h.result b log input hb]
  step b log input hb := by
    by_cases hempty : input = []
    · have hfits : log.Admits [] := log.fits
      have hsame : log.offer [] = log := by
        rw [BoundedLog.offer, dif_pos hfits]
        simp
      rw [writeAll, if_pos hempty, hempty, hsame]
      exact hb
    · rw [writeAll, if_neg hempty]
      exact h.step b log input hb

/-! ### The laws -/

section
variable {β : Type} (extend : β → Bytes → Except Error Unit × β) (bytes : β → Bytes)
  (exceeded : β → Bool) (start : β) (limit : ℕ)

/-- What a buffer does in every sequence of calls. -/
structure BufferLaw : Prop where
  accepts : ∀ inputs input, (extend (after extend start inputs) input).1 = .ok () ↔
    (bytes (after extend start inputs)).length + input.length ≤ limit
  refuses : ∀ inputs input, limit < (bytes (after extend start inputs)).length + input.length →
    (extend (after extend start inputs) input).1 = .error requestBodyTooLarge ∧
      bytes (after extend start (inputs ++ [input])) = bytes (after extend start inputs) ∧
      exceeded (after extend start (inputs ++ [input])) = true
  contents : ∀ inputs, bytes (after extend start inputs) = (accepted limit 0 inputs).flatten
  bounded : ∀ inputs, (bytes (after extend start inputs)).length ≤ limit
  forGood : ∀ inputs more, exceeded (after extend start inputs) = true →
    exceeded (after extend start (inputs ++ more)) = true
  onlyRefused : ∀ inputs, exceeded (after extend start inputs) = true →
    accepted limit 0 inputs ≠ inputs

end

theorem after_append {β : Type} {extend : β → Bytes → Except Error Unit × β} {start : β}
    (inputs more : List Bytes) :
    after extend start (inputs ++ more) = after extend (after extend start inputs) more :=
  List.foldl_append

theorem bufferLaw_of_implements {β : Type} {extend : β → Bytes → Except Error Unit × β}
    {represents : β → BoundedLog UInt8 limit → Prop} {bytes : β → Bytes} {exceeded : β → Bool}
    {start : β} (h : Implements extend represents requestBodyTooLarge)
    (hstart : represents start .empty)
    (hview : ∀ b log, represents b log → bytes b = log.held ∧ exceeded b = log.refused) :
    BufferLaw extend bytes exceeded start limit := by
  have hafter := h.after hstart
  refine ⟨fun inputs input => ?_, fun inputs input hlong => ?_, fun inputs => ?_, fun inputs => ?_,
    fun inputs more hex => ?_, fun inputs hex => ?_⟩
  · rw [h.result _ _ input (hafter inputs), (hview _ _ (hafter inputs)).1]
    by_cases hfits : (BoundedLog.empty.offerAll inputs : BoundedLog UInt8 limit).Admits input
    · rw [if_pos hfits]
      exact iff_of_true rfl hfits
    · rw [if_neg hfits]
      exact iff_of_false (by simp) hfits
  · rw [(hview _ _ (hafter inputs)).1] at hlong
    have hfits : ¬(BoundedLog.empty.offerAll inputs : BoundedLog UInt8 limit).Admits input :=
      Nat.not_le_of_lt hlong
    have hnext := hview _ _ (h.step _ _ input (hafter inputs))
    rw [after_append, h.result _ _ input (hafter inputs), if_neg hfits,
      (hview _ _ (hafter inputs)).1]
    obtain ⟨hofferHeld, hofferRefused⟩ := BoundedLog.offer_of_not_admits hfits
    exact ⟨rfl, hnext.1.trans hofferHeld, hnext.2.trans hofferRefused⟩
  · rw [(hview _ _ (hafter inputs)).1, BoundedLog.offerAll_held]
    rfl
  · rw [(hview _ _ (hafter inputs)).1]
    exact (BoundedLog.empty.offerAll inputs).fits
  · rw [(hview _ _ (hafter inputs)).2] at hex
    rw [after_append, (hview _ _ (h.after (hafter inputs) more)).2]
    exact BoundedLog.refused_offerAll more hex
  · rw [(hview _ _ (hafter inputs)).2, BoundedLog.offerAll_refused] at hex
    exact hex.resolve_left (by simp [BoundedLog.empty])

/-- What an encoder returns for a payload. -/
structure EncodeLaw (encode : Serialization → Except Error Bytes) (limit : ℕ) : Prop where
  complete : ∀ payload bytes, encode payload = .ok bytes ↔
    payload.fails = false ∧ bytes = payload.pieces.flatten ∧
      payload.pieces.flatten.length ≤ limit
  stopped : ∀ payload, limit < payload.pieces.flatten.length →
    encode payload = .error requestBodyTooLarge
  failed : ∀ payload, payload.pieces.flatten.length ≤ limit → payload.fails = true →
    encode payload = .error (.decode "OpenBao request could not be encoded")

theorem encodeLaw_of_implements {β : Type} {extend : β → Bytes → Except Error Unit × β}
    {represents : β → BoundedLog UInt8 limit → Prop} {bytes : β → Bytes} {exceeded : β → Bool}
    {start : β} {encode : Serialization → Except Error Bytes}
    (h : Implements extend represents requestBodyTooLarge) (hstart : represents start .empty)
    (hview : ∀ b log, represents b log → bytes b = log.held ∧ exceeded b = log.refused)
    (hencode : ∀ payload, encode payload =
      if (toWriter extend start payload).1 then .ok (bytes (toWriter extend start payload).2)
      else if exceeded (toWriter extend start payload).2 then .error requestBodyTooLarge
      else .error (.decode "OpenBao request could not be encoded")) :
    EncodeLaw encode limit := by
  have hadmits : ∀ pieces : List Bytes,
      (BoundedLog.empty : BoundedLog UInt8 limit).Admits pieces.flatten ↔
        pieces.flatten.length ≤ limit := by
    intro pieces
    rw [BoundedLog.Admits]
    simp [BoundedLog.empty]
  have hfits : ∀ payload : Serialization, payload.pieces.flatten.length ≤ limit →
      encode payload = if payload.fails then
        .error (.decode "OpenBao request could not be encoded")
      else .ok payload.pieces.flatten := by
    intro payload hle
    obtain ⟨b, log, hwrite, hb, hheld, hrefused⟩ :=
      (writeAll_implements h).writePieces_ok hstart ((hadmits payload.pieces).mpr hle)
    have hrun : toWriter extend start payload = (!payload.fails, b) := by
      rw [toWriter, hwrite]
    rw [hencode, hrun, (hview b log hb).1, (hview b log hb).2, hheld, hrefused]
    cases payload.fails <;> rfl
  have hlong : ∀ payload : Serialization, limit < payload.pieces.flatten.length →
      encode payload = .error requestBodyTooLarge := by
    intro payload hlt
    obtain ⟨b, log, hwrite, hb, hrefused⟩ := (writeAll_implements h).writePieces_error hstart
      (mt (hadmits payload.pieces).mp (Nat.not_le_of_lt hlt))
    have hrun : toWriter extend start payload = (false, b) := by
      rw [toWriter, hwrite]
    rw [hencode, hrun, (hview b log hb).2, hrefused]
    rfl
  refine ⟨fun payload bytes => ?_, hlong, fun payload hle hfails => ?_⟩
  · by_cases hle : payload.pieces.flatten.length ≤ limit
    · rw [hfits payload hle]
      constructor
      · intro hok
        split at hok
        · cases hok
        · next hfails => exact ⟨Bool.eq_false_iff.mpr hfails, (Except.ok.inj hok).symm, hle⟩
      · rintro ⟨hfails, rfl, -⟩
        rw [hfails]
        rfl
    · rw [hlong payload (by omega)]
      exact iff_of_false (by simp) fun hok => hle hok.2.2
  · rw [hfits payload hle, hfails]
    rfl

/-- Both buffers accept what fits and hold exactly that, what an encoder returns is the
complete serialisation within the limit, and a buffer that grows leaves no copy behind. -/
theorem requestBody_law (platform : Platform) (limit : ℕ) :
    BufferLaw (SanitizingBodyBuffer.tryExtend platform) (·.bytes.bytes) (·.exceeded)
      (.new limit) limit ∧
    BufferLaw BoundedSecretWriter.tryExtend (·.bytes) (·.exceeded) (.new limit) limit ∧
    EncodeLaw (encodeBoundedJson · limit) limit ∧
    EncodeLaw (encodeBoundedJsonBody platform · (.new limit)) limit ∧
    ∀ (this : SanitizingBodyBuffer) (input : Bytes),
      this.bytes.bytes.length + input.length ≤ platform.usizeMax → this.Grown platform input := by
  have hbody := sanitizingBodyBuffer_implements platform limit
  have hsecret := boundedSecretWriter_implements limit
  have hbodyStart : SanitizingBodyBuffer.Represents (.new limit)
      (.empty : BoundedLog UInt8 limit) := ⟨rfl, rfl, rfl⟩
  have hsecretStart : BoundedSecretWriter.Represents (.new limit)
      (.empty : BoundedLog UInt8 limit) := ⟨rfl, rfl, rfl⟩
  refine ⟨bufferLaw_of_implements hbody hbodyStart fun b log h => ⟨h.1, h.2.1⟩,
    bufferLaw_of_implements hsecret hsecretStart fun b log h => ⟨h.1, h.2.1⟩, ?_, ?_,
    fun this input hlength => SanitizingBodyBuffer.reserve_grown hlength⟩
  · exact encodeLaw_of_implements hsecret hsecretStart (fun b log h => ⟨h.1, h.2.1⟩) fun _ => rfl
  · exact encodeLaw_of_implements hbody hbodyStart (fun b log h => ⟨h.1, h.2.1⟩) fun _ => rfl

/-- Sixty-four bits, exact allocations, and wiping that zeroes and empties. -/
def platform64 : Platform where
  usizeMax := 2 ^ 64 - 1
  grant n := n
  le_grant _ := Nat.le_refl _
  wipeBytes v := ⟨v.bytes.map fun _ => 0, v.capacity, by simpa using v.fits⟩
  wipeVec _ := .new

theorem refusedWrite_held :
    (after (SanitizingBodyBuffer.tryExtend platform64) (.new 4)
      [[1, 2], [3, 4, 5], [6]]).bytes.bytes = [1, 2, 6] :=
  (requestBody_law platform64 4).1.contents _

end OpenBao.RequestBodyBuffers
