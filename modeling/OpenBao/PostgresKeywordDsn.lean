import OpenBao.DsnText
import OpenBao.KeywordValueGrammar

/-!
# PostgreSQL keyword/value connection strings

The byte-index scanner of the source. Slices are checked, so that a slice out of
range would show as a missing result. What the scanner accepts is compared with
the keyword/value grammar under two classes of white space.
-/

namespace OpenBao.PostgresKeywordDsn
open DelimitedLists DsnText KeywordValueGrammar Utf8Text

/-- `&bytes[start..stop]`, or nothing where the source would panic. -/
def slice (bytes : Bytes) (start stop : ℕ) : Option Bytes :=
  if start ≤ stop ∧ stop ≤ bytes.length then some ((bytes.drop start).take (stop - start)) else none

def decodeKeywordValue : Bytes → Option Bytes
  | [] => some []
  | byte :: rest =>
    if byte = 0x5c then
      match rest with
      | [] => none
      | byte :: rest => (decodeKeywordValue rest).map (byte :: ·)
    else (decodeKeywordValue rest).map (byte :: ·)

/-- The byte that ends a value. -/
def endsValue (quoted : Bool) (byte : UInt8) : Bool :=
  quoted && byte == 0x27 || !quoted && isAsciiWhitespace byte

/-- The value loop. It returns the offset it stops at and whether an escape is
open there. -/
def advanceValue (quoted : Bool) (bytes : Bytes) (offset : ℕ) (escaped : Bool) : ℕ × Bool :=
  match h : bytes[offset]? with
  | none => (offset, escaped)
  | some byte =>
    if escaped then advanceValue quoted bytes (offset + 1) false
    else if byte = 0x5c then advanceValue quoted bytes (offset + 1) true
    else if endsValue quoted byte then (offset, false)
    else advanceValue quoted bytes (offset + 1) false
termination_by bytes.length - offset
decreasing_by
  all_goals
    have := (List.getElem?_eq_some_iff.mp h).1
    omega

/-- What one round of the outer loop finds. -/
inductive Round where
  | stop
  | reject
  | assignment (keyStart keyEnd valueStart valueEnd next : ℕ)

/-- The key, the white space around `=` and the value, from `offset` on. -/
def scanRound (bytes : Bytes) (offset : ℕ) : Round :=
  let keyStart := advanceWhile isAsciiWhitespace bytes offset
  if keyStart = bytes.length then .stop
  else
    let keyEnd := advanceWhile (keyByte isAsciiWhitespace) bytes keyStart
    let assign := advanceWhile isAsciiWhitespace bytes keyEnd
    if bytes[assign]? ≠ some 0x3d then .reject
    else
      let start := advanceWhile isAsciiWhitespace bytes (assign + 1)
      if bytes[start]? = some 0x27 then
        let value := advanceValue true bytes (start + 1) false
        if bytes[value.1]? ≠ some 0x27 then .reject
        else if (bytes[value.1 + 1]?).any (fun byte => !isAsciiWhitespace byte) then .reject
        else .assignment keyStart keyEnd (start + 1) value.1 (value.1 + 1)
      else
        let value := advanceValue false bytes start false
        if value.2 then .reject
        else .assignment keyStart keyEnd start value.1 value.1

theorem le_advanceValue (quoted : Bool) (bytes : Bytes) (offset : ℕ) (escaped : Bool) :
    offset ≤ (advanceValue quoted bytes offset escaped).1 := by
  fun_induction advanceValue quoted bytes offset escaped <;> omega

theorem slice_self (bytes : Bytes) {start : ℕ} (h : start ≤ bytes.length) :
    slice bytes start start = some [] := by
  simp [slice, h]

/-- A slice begins with the byte at its start. -/
theorem slice_cons {bytes raw : Bytes} {start stop : ℕ} {b : UInt8} (hb : bytes[start]? = some b)
    (h : slice bytes (start + 1) stop = some raw) : slice bytes start stop = some (b :: raw) := by
  rw [slice] at h ⊢
  split_ifs at h with hr
  obtain ⟨n, rfl⟩ : ∃ n, stop = start + 1 + n := ⟨stop - (start + 1), by omega⟩
  rw [Option.some.injEq] at h
  rw [if_pos ⟨by omega, hr.2⟩, drop_of_getElem? hb, ← h]
  have h₁ : start + 1 + n - start = n + 1 := by omega
  have h₂ : start + 1 + n - (start + 1) = n := by omega
  rw [h₁, h₂, List.take_succ_cons]

theorem slice_advanceWhile (p : UInt8 → Bool) {bytes : Bytes} {start : ℕ}
    (h : start ≤ bytes.length) :
    slice bytes start (advanceWhile p bytes start) = some ((bytes.drop start).takeWhile p) := by
  have hle := advanceWhile_le p h
  rw [slice, if_pos ⟨le_advanceWhile p bytes start, hle⟩, take_advanceWhile]

theorem decodeKeywordValue_cons {b : UInt8} (hb : b ≠ 0x5c) (raw : Bytes) :
    decodeKeywordValue (b :: raw) = (decodeKeywordValue raw).map (b :: ·) := by
  cases raw <;> simp [decodeKeywordValue, hb]

/-- The place of a reader inside a value. -/
def valuePlace (quoted escaped : Bool) (k v : Bytes) : Place :=
  match quoted, escaped with
  | true, false => .quoted k v
  | true, true => .quotedEscape k v
  | false, false => .bare k v
  | false, true => .bareEscape k v

/-- Decoding inside a value, perhaps behind a backslash. -/
def decodeFrom (escaped : Bool) (raw : Bytes) : Option Bytes :=
  match escaped, raw with
  | false, raw => decodeKeywordValue raw
  | true, [] => none
  | true, b :: raw => (decodeKeywordValue raw).map (b :: ·)

/-- What a value loop that closes its last escape has read. -/
structure ValueRead (quoted escaped : Bool) (bytes : Bytes) (offset stop : ℕ) : Prop where
  le : stop ≤ bytes.length
  ends : ∀ b ∈ (bytes.drop stop).head?, endsValue quoted b = true
  value : ∃ raw value, slice bytes offset stop = some raw ∧ decodeFrom escaped raw = some value ∧
    ∀ k v, readSettings isAsciiWhitespace (valuePlace quoted escaped k v) (bytes.drop offset) =
      readSettings isAsciiWhitespace (valuePlace quoted false k (v ++ value)) (bytes.drop stop)

theorem read_escaped (quoted : Bool) (k v : Bytes) (b : UInt8) (bs : Bytes) :
    readSettings isAsciiWhitespace (valuePlace quoted true k v) (b :: bs) =
      readSettings isAsciiWhitespace (valuePlace quoted false k (v ++ [b])) bs := by
  cases quoted <;> simp [valuePlace, readSettings, step]

theorem read_backslash (quoted : Bool) (k v bs : Bytes) :
    readSettings isAsciiWhitespace (valuePlace quoted false k v) (0x5c :: bs) =
      readSettings isAsciiWhitespace (valuePlace quoted true k v) bs := by
  cases quoted with
  | true => simp [valuePlace, readSettings, step]
  | false => simp [valuePlace, readSettings, step, isAsciiWhitespace]

theorem read_plain {quoted : Bool} {b : UInt8} (hb : b ≠ 0x5c) (he : endsValue quoted b = false)
    (k v bs : Bytes) :
    readSettings isAsciiWhitespace (valuePlace quoted false k v) (b :: bs) =
      readSettings isAsciiWhitespace (valuePlace quoted false k (v ++ [b])) bs := by
  cases quoted with
  | true =>
    have hq : b ≠ 0x27 := by simpa [endsValue] using he
    simp [valuePlace, readSettings, step, hb, hq]
  | false =>
    have hs : isAsciiWhitespace b = false := by simpa [endsValue] using he
    simp [valuePlace, readSettings, step, hb, hs]

theorem advanceValue_read {quoted : Bool} {bytes : Bytes} {offset : ℕ} {escaped : Bool}
    (ho : offset ≤ bytes.length) (he : (advanceValue quoted bytes offset escaped).2 = false) :
    ValueRead quoted escaped bytes offset (advanceValue quoted bytes offset escaped).1 := by
  fun_induction advanceValue quoted bytes offset escaped with
  | case1 offset escaped h =>
    have hd : bytes.drop offset = [] :=
      List.drop_eq_nil_of_le (List.getElem?_eq_none_iff.mp h)
    simp only at he
    subst he
    exact ⟨ho, by simp [hd], [], [], slice_self bytes ho, rfl, by simp⟩
  | case2 offset byte h ih =>
    have hlt := (List.getElem?_eq_some_iff.mp h).1
    obtain ⟨hle, hends, raw, value, hraw, hvalue, hread⟩ := ih hlt he
    refine ⟨hle, hends, byte :: raw, byte :: value, slice_cons h hraw, ?_, ?_⟩
    · simpa [decodeFrom] using hvalue
    · intro k v
      rw [drop_of_getElem? h, read_escaped, hread]
      simp
  | case3 offset escaped hesc h ih =>
    have hlt := (List.getElem?_eq_some_iff.mp h).1
    obtain ⟨hle, hends, raw, value, hraw, hvalue, hread⟩ := ih hlt he
    obtain rfl : escaped = false := by simpa using hesc
    refine ⟨hle, hends, 0x5c :: raw, value, slice_cons h hraw, ?_, ?_⟩
    · cases raw with
      | nil => simp [decodeFrom] at hvalue
      | cons b raw => simpa [decodeFrom, decodeKeywordValue] using hvalue
    · intro k v
      rw [drop_of_getElem? h, read_backslash, hread]
  | case4 offset escaped byte h hesc hb hstop =>
    obtain rfl : escaped = false := by simpa using hesc
    refine ⟨ho, ?_, [], [], slice_self bytes ho, rfl, by simp⟩
    simpa [drop_of_getElem? h] using hstop
  | case5 offset escaped byte h hesc hb hstop ih =>
    have hlt := (List.getElem?_eq_some_iff.mp h).1
    obtain ⟨hle, hends, raw, value, hraw, hvalue, hread⟩ := ih hlt he
    obtain rfl : escaped = false := by simpa using hesc
    refine ⟨hle, hends, byte :: raw, byte :: value, slice_cons h hraw, ?_, ?_⟩
    · have hv : decodeKeywordValue raw = some value := hvalue
      rw [decodeFrom, decodeKeywordValue_cons hb, hv]
      rfl
    · intro k v
      rw [drop_of_getElem? h, read_plain hb (by simpa using hstop), hread]
      simp

theorem scanRound_stop {bytes : Bytes} {offset : ℕ} (h : scanRound bytes offset = .stop) :
    readSettings isAsciiWhitespace .gap (bytes.drop offset) = some [] := by
  simp only [scanRound] at h
  split_ifs at h with hk
  rw [read_gap, ← drop_advanceWhile, hk, List.drop_length]
  rfl

/-- An assignment the scanner finds, as the grammar reads it. -/
structure AssignmentRead (bytes : Bytes) (offset ks ke vs ve next : ℕ) : Prop where
  lt : offset < next
  le : next ≤ bytes.length
  setting : ∃ key raw value, slice bytes ks ke = some key ∧ slice bytes vs ve = some raw ∧
    decodeKeywordValue raw = some value ∧
    readSettings isAsciiWhitespace .gap (bytes.drop offset) =
      (readSettings isAsciiWhitespace .gap (bytes.drop next)).map fun rest => (key, value) :: rest

/-- The scanner's way to a value is the grammar's. -/
theorem read_to_value {bytes : Bytes} {offset keyStart keyEnd assign start : ℕ}
    (hks : keyStart = advanceWhile isAsciiWhitespace bytes offset)
    (hke : keyEnd = advanceWhile (keyByte isAsciiWhitespace) bytes keyStart)
    (hassign : assign = advanceWhile isAsciiWhitespace bytes keyEnd)
    (hstart : start = advanceWhile isAsciiWhitespace bytes (assign + 1))
    (hlt : keyStart < bytes.length) (heq : bytes[assign]? = some 0x3d) :
    readSettings isAsciiWhitespace .gap (bytes.drop offset) =
      readSettings isAsciiWhitespace
        (.valueStart ((bytes.drop keyStart).takeWhile (keyByte isAsciiWhitespace)))
        (bytes.drop start) := by
  have hne : (bytes.drop offset).dropWhile isAsciiWhitespace ≠ [] := by
    rw [← drop_advanceWhile, ← hks]
    simp [hlt]
  have hrest : (((bytes.drop offset).dropWhile isAsciiWhitespace).dropWhile
      (keyByte isAsciiWhitespace)).dropWhile isAsciiWhitespace = 0x3d :: bytes.drop (assign + 1) := by
    rw [← drop_advanceWhile, ← hks, ← drop_advanceWhile, ← hke, ← drop_advanceWhile, ← hassign,
      drop_of_getElem? heq]
  rw [read_assignment (by decide) hne hrest, ← drop_advanceWhile, ← drop_advanceWhile, ← hks,
    ← hstart]

theorem advanceValue_closed {quoted : Bool} {bytes : Bytes} {offset : ℕ} {escaped : Bool}
    (h : (advanceValue quoted bytes offset escaped).1 < bytes.length) :
    (advanceValue quoted bytes offset escaped).2 = false := by
  fun_induction advanceValue quoted bytes offset escaped with
  | case1 offset escaped hn =>
    have := List.getElem?_eq_none_iff.mp hn
    simp only at h
    omega
  | case2 offset byte hb ih => exact ih h
  | case3 offset escaped hesc hb ih => exact ih h
  | case4 => rfl
  | case5 offset escaped byte hb hesc hne hstop ih => exact ih h

/-- A quoted value and its closing quote. -/
theorem read_quotedValue {bytes : Bytes} {start stop : ℕ} (hq : bytes[start]? = some 0x27)
    (hstop : stop = (advanceValue true bytes (start + 1) false).1)
    (hclose : bytes[stop]? = some 0x27) :
    ∃ raw value, slice bytes (start + 1) stop = some raw ∧ decodeKeywordValue raw = some value ∧
      ∀ k, readSettings isAsciiWhitespace (.valueStart k) (bytes.drop start) =
        (readSettings isAsciiWhitespace .gap (bytes.drop (stop + 1))).map
          fun rest => (k, value) :: rest := by
  have hlt := (List.getElem?_eq_some_iff.mp hq).1
  have hsl := (List.getElem?_eq_some_iff.mp hclose).1
  subst hstop
  obtain ⟨-, -, raw, value, hraw, hvalue, hread⟩ := advanceValue_read hlt (advanceValue_closed hsl)
  refine ⟨raw, value, hraw, hvalue, ?_⟩
  intro k
  have hk := hread k []
  simp only [valuePlace, List.nil_append] at hk
  have hfirst : readSettings isAsciiWhitespace (.valueStart k) (0x27 :: bytes.drop (start + 1)) =
      readSettings isAsciiWhitespace (.quoted k []) (bytes.drop (start + 1)) := by
    simp [readSettings, step, isAsciiWhitespace]
  rw [drop_of_getElem? hq, hfirst, hk, drop_of_getElem? hclose, read_quoted_end]

/-- An unquoted value up to white space or the end. -/
theorem read_bareValue {bytes : Bytes} {start stop : ℕ} (hs : start ≤ bytes.length)
    (hspace : ∀ b ∈ (bytes.drop start).head?, isAsciiWhitespace b = false)
    (hq : bytes[start]? ≠ some 0x27) (hstop : stop = (advanceValue false bytes start false).1)
    (hclosed : (advanceValue false bytes start false).2 = false) :
    stop ≤ bytes.length ∧ ∃ raw value, slice bytes start stop = some raw ∧
      decodeKeywordValue raw = some value ∧
      ∀ k, readSettings isAsciiWhitespace (.valueStart k) (bytes.drop start) =
        (readSettings isAsciiWhitespace .gap (bytes.drop stop)).map
          fun rest => (k, value) :: rest := by
  subst hstop
  obtain ⟨hle, hends, raw, value, hraw, hvalue, hread⟩ := advanceValue_read hs hclosed
  refine ⟨hle, raw, value, hraw, hvalue, ?_⟩
  intro k
  have hk := hread k []
  simp only [valuePlace, List.nil_append] at hk
  rw [read_valueStart_bare hspace (by rwa [List.head?_drop]), hk, read_bare_end]
  intro b hb
  simpa [endsValue] using hends b hb

theorem scanRound_assignment {bytes : Bytes} {offset ks ke vs ve next : ℕ}
    (ho : offset ≤ bytes.length) (h : scanRound bytes offset = .assignment ks ke vs ve next) :
    AssignmentRead bytes offset ks ke vs ve next := by
  simp only [scanRound] at h
  generalize hks : advanceWhile isAsciiWhitespace bytes offset = keyStart at h
  generalize hke : advanceWhile (keyByte isAsciiWhitespace) bytes keyStart = keyEnd at h
  generalize ha : advanceWhile isAsciiWhitespace bytes keyEnd = assign at h
  generalize hst : advanceWhile isAsciiWhitespace bytes (assign + 1) = start at h
  have h₁ : offset ≤ keyStart := hks ▸ le_advanceWhile _ _ _
  have h₂ : keyStart ≤ keyEnd := hke ▸ le_advanceWhile _ _ _
  have h₃ : keyEnd ≤ assign := ha ▸ le_advanceWhile _ _ _
  have h₄ : assign + 1 ≤ start := hst ▸ le_advanceWhile _ _ _
  have hle : keyStart ≤ bytes.length := hks ▸ advanceWhile_le _ ho
  have hkey : slice bytes keyStart keyEnd = some ((bytes.drop keyStart).takeWhile
      (keyByte isAsciiWhitespace)) := hke ▸ slice_advanceWhile _ hle
  split_ifs at h with hstop hassign hquote hclose hafter hesc
  · have heq := not_not.mp hassign
    have hread := read_to_value hks.symm hke.symm ha.symm hst.symm (by omega) heq
    obtain ⟨raw, value, hraw, hvalue, hv⟩ := read_quotedValue hquote rfl (not_not.mp hclose)
    have hcl := (List.getElem?_eq_some_iff.mp (not_not.mp hclose)).1
    have hav := le_advanceValue true bytes (start + 1) false
    cases h
    exact ⟨by omega, by omega, _, raw, value, hkey, hraw, hvalue, by rw [hread, hv]⟩
  · have heq := not_not.mp hassign
    have hal := (List.getElem?_eq_some_iff.mp heq).1
    have hread := read_to_value hks.symm hke.symm ha.symm hst.symm (by omega) heq
    have hsl : start ≤ bytes.length := hst ▸ advanceWhile_le _ (by omega)
    have hspace : ∀ b ∈ (bytes.drop start).head?, isAsciiWhitespace b = false := by
      intro b hb
      rw [← hst, drop_advanceWhile] at hb
      have := List.head?_dropWhile_not isAsciiWhitespace (bytes.drop (assign + 1))
      rw [hb] at this
      simpa using this
    obtain ⟨hle', raw, value, hraw, hvalue, hv⟩ :=
      read_bareValue hsl hspace hquote rfl (by simpa using hesc)
    have hav := le_advanceValue false bytes start false
    cases h
    exact ⟨by omega, hle', _, raw, value, hkey, hraw, hvalue, by rw [hread, hv]⟩

/-- What the body of the loop does with an assignment: reject the DSN, or go on
with the new values of `tls_mode` and `host`. Nothing where a slice panics. -/
def checkAssignment (bytes : Bytes) (allowedModes : List Bytes) (ks ke vs ve : ℕ)
    (tlsMode : Bool) (host : Option Bytes) : Option (Option (Bool × Option Bytes)) := do
  let key ← slice bytes ks ke
  if isCaseVariant key then some none
  else if key = sslmodeKey then
    if tlsMode then some none
    else
      let raw ← slice bytes vs ve
      match decodeKeywordValue raw with
      | none => some none
      | some value => if value ∈ allowedModes then some (some (true, host)) else some none
  else if key = hostKey then
    if host.isSome then some none
    else
      let raw ← slice bytes vs ve
      match decodeKeywordValue raw with
      | none => some none
      | some value => some (some (tlsMode, some value))
  else if key = serviceKey ∨ key = servicefileKey then some none
  else some (some (tlsMode, host))

/-- The last line of the scanner. -/
def verdict (tlsMode : Bool) (host : Option Bytes) : Bool :=
  tlsMode && host.any postgresHostsAreExplicitTcp

/-- The outer loop from `offset` on. -/
def scanAssignments (bytes : Bytes) (allowedModes : List Bytes) (offset : ℕ) (tlsMode : Bool)
    (host : Option Bytes) : Option Bool :=
  if _ho : offset < bytes.length then
    match _h : scanRound bytes offset with
    | .stop => some (verdict tlsMode host)
    | .reject => some false
    | .assignment ks ke vs ve next =>
      match checkAssignment bytes allowedModes ks ke vs ve tlsMode host with
      | none => none
      | some none => some false
      | some (some (tlsMode, host)) => scanAssignments bytes allowedModes next tlsMode host
  else some (verdict tlsMode host)
termination_by bytes.length - offset
decreasing_by
  have := (scanRound_assignment _ho.le _h).lt
  omega

def postgresKeywordDsnUsesTcpTlsModes (dsn : Str) (allowedModes : List Bytes) : Option Bool :=
  scanAssignments (asBytes dsn) allowedModes 0 false none

/-- A connection over TCP, under one of the modes, without indirections. -/
structure TcpTlsSettings (allowedModes : List Bytes) (settings : List Setting) : Prop where
  mode : ∃ m ∈ allowedModes, lastAssigned sslmodeKey settings = some m
  noService : ∀ s ∈ settings, s.1 ≠ serviceKey ∧ s.1 ≠ servicefileKey
  hosts : ∃ value text, lastAssigned hostKey settings = some value ∧
    fromUtf8 value = some text ∧ TcpHostList text

/-- The checks of the loop on settings already read. -/
def checkSettings (allowedModes : List Bytes) : Bool → Option Bytes → List Setting → Bool
  | tlsMode, host, [] => verdict tlsMode host
  | tlsMode, host, (key, value) :: rest =>
    if isCaseVariant key then false
    else if key = sslmodeKey then
      !tlsMode && value ∈ allowedModes && checkSettings allowedModes true host rest
    else if key = hostKey then
      host.isNone && checkSettings allowedModes tlsMode (some value) rest
    else if key = serviceKey ∨ key = servicefileKey then false
    else checkSettings allowedModes tlsMode host rest

theorem checkAssignment_eq {bytes key raw value : Bytes} {allowedModes : List Bytes}
    {ks ke vs ve : ℕ} (hk : slice bytes ks ke = some key) (hv : slice bytes vs ve = some raw)
    (hd : decodeKeywordValue raw = some value) (tlsMode : Bool) (host : Option Bytes)
    (rest : List Setting) :
    ∃ next, checkAssignment bytes allowedModes ks ke vs ve tlsMode host = some next ∧
      checkSettings allowedModes tlsMode host ((key, value) :: rest) =
        match next with
        | none => false
        | some (tlsMode, host) => checkSettings allowedModes tlsMode host rest := by
  have hh : host.isNone = !host.isSome := by cases host <;> rfl
  simp only [checkAssignment, hk, hv, hd, bind, Option.bind_some, checkSettings, hh]
  split_ifs <;> simp_all

/-- The scanner never panics, and what it accepts the grammar reads as settings
that pass its checks. -/
theorem scanAssignments_spec (bytes : Bytes) (allowedModes : List Bytes) (offset : ℕ)
    (tlsMode : Bool) (host : Option Bytes) (ho : offset ≤ bytes.length) :
    ∃ accepted, scanAssignments bytes allowedModes offset tlsMode host = some accepted ∧
      (accepted = true → ∃ settings,
        readSettings isAsciiWhitespace .gap (bytes.drop offset) = some settings ∧
          checkSettings allowedModes tlsMode host settings = true) := by
  fun_induction scanAssignments bytes allowedModes offset tlsMode host with
  | case1 offset tlsMode host hlt h =>
    exact ⟨_, rfl, fun hv => ⟨[], scanRound_stop h, hv⟩⟩
  | case2 offset tlsMode host hlt h => exact ⟨false, rfl, by simp⟩
  | case3 offset tlsMode host hlt ks ke vs ve next h hc =>
    obtain ⟨-, -, key, raw, value, hk, hv, hd, -⟩ := scanRound_assignment ho h
    obtain ⟨result, hr, -⟩ := checkAssignment_eq hk hv hd tlsMode host []
    rw [hr] at hc
    simp at hc
  | case4 offset tlsMode host hlt ks ke vs ve next h hc => exact ⟨false, rfl, by simp⟩
  | case5 offset tlsMode host hlt ks ke vs ve next h tlsMode' host' hc ih =>
    obtain ⟨-, hle, key, raw, value, hk, hv, hd, hread⟩ := scanRound_assignment ho h
    obtain ⟨accepted, ha, hs⟩ := ih hle
    refine ⟨accepted, ha, ?_⟩
    intro hacc
    obtain ⟨settings, hset, hcheck⟩ := hs hacc
    obtain ⟨result, hr, he⟩ := checkAssignment_eq hk hv hd tlsMode host settings
    rw [hc, Option.some.injEq] at hr
    subst hr
    exact ⟨(key, value) :: settings, by rw [hread, hset]; rfl, by rw [he]; exact hcheck⟩
  | case6 offset tlsMode host hlt =>
    refine ⟨_, rfl, fun hv => ⟨[], ?_, hv⟩⟩
    rw [List.drop_eq_nil_of_le (by omega)]
    rfl

/-- Settings that pass the checks connect over TCP under an allowed mode. -/
theorem checkSettings_spec {allowedModes : List Bytes} {tlsMode : Bool} {host : Option Bytes}
    {settings : List Setting} (h : checkSettings allowedModes tlsMode host settings = true) :
    (tlsMode = false → ∃ m ∈ allowedModes, lastAssigned sslmodeKey settings = some m) ∧
    (tlsMode = true → lastAssigned sslmodeKey settings = none) ∧
    (∀ s ∈ settings, s.1 ≠ serviceKey ∧ s.1 ≠ servicefileKey) ∧
    ∃ value, (lastAssigned hostKey settings).or host = some value ∧
      postgresHostsAreExplicitTcp value = true := by
  induction settings generalizing tlsMode host with
  | nil =>
    rw [checkSettings, verdict, Bool.and_eq_true, Option.any_eq_true] at h
    obtain ⟨ht, value, hv, hok⟩ := h
    exact ⟨by simp [ht], fun _ => rfl, by simp, value, by simpa [lastAssigned_nil] using hv, hok⟩
  | cons s settings ih =>
    obtain ⟨key, value⟩ := s
    rw [checkSettings] at h
    simp only [lastAssigned_cons]
    split_ifs at h with hcase hssl hhost hservice
    · subst hssl
      simp only [Bool.and_eq_true, Bool.not_eq_eq_eq_not, Bool.not_true, decide_eq_true_eq] at h
      obtain ⟨⟨rfl, hm⟩, h⟩ := h
      obtain ⟨-, hnone, hs, hv⟩ := ih h
      refine ⟨fun _ => ⟨value, hm, by simp [hnone rfl]⟩, by simp, ?_, ?_⟩
      · intro s hs'
        rcases List.mem_cons.mp hs' with rfl | hs'
        · exact ⟨(by decide : sslmodeKey ≠ serviceKey), (by decide : sslmodeKey ≠ servicefileKey)⟩
        · exact hs s hs'
      · rw [if_neg (by decide), Option.or_none]
        exact hv
    · subst hhost
      simp only [Bool.and_eq_true, Option.isNone_iff_eq_none] at h
      obtain ⟨rfl, h⟩ := h
      obtain ⟨hm, hnone, hs, hv⟩ := ih h
      rw [if_neg hssl, Option.or_none, if_pos rfl, Option.or_none]
      refine ⟨hm, hnone, ?_, hv⟩
      intro s hs'
      rcases List.mem_cons.mp hs' with rfl | hs'
      · exact ⟨(by decide : hostKey ≠ serviceKey), (by decide : hostKey ≠ servicefileKey)⟩
      · exact hs s hs'
    · obtain ⟨hm, hnone, hs, hv⟩ := ih h
      rw [if_neg hssl, Option.or_none, if_neg hhost, Option.or_none]
      refine ⟨hm, hnone, ?_, hv⟩
      intro s hs'
      rcases List.mem_cons.mp hs' with rfl | hs'
      · exact not_or.mp hservice
      · exact hs s hs'

theorem tcpTlsSettings_of_check {allowedModes : List Bytes} {settings : List Setting}
    (h : checkSettings allowedModes false none settings = true) :
    TcpTlsSettings allowedModes settings := by
  obtain ⟨hm, -, hs, value, hv, hok⟩ := checkSettings_spec h
  obtain ⟨text, ht, hlist⟩ := postgresHostsAreExplicitTcp_spec hok
  rw [Option.or_none] at hv
  exact ⟨hm rfl, hs, value, text, hv, ht, hlist⟩

/-- White space as the driver counts it, vertical tab included. -/
def driverSpace (b : UInt8) : Bool := isAsciiWhitespace b || b == 0x0b

/-- A vertical tab stands where the driver takes it for white space. -/
def looseVerticalTab (dsn : Str) : Bool := loose driverSpace (· == 0x0b) .gap (asBytes dsn)

/-- The driver's settings of an accepted DSN without loose vertical tabs. -/
theorem driver_settings {dsn : Str} {allowedModes : List Bytes}
    (h : postgresKeywordDsnUsesTcpTlsModes dsn allowedModes = some true)
    (hl : looseVerticalTab dsn = false) :
    ∃ settings, readSettings driverSpace .gap (asBytes dsn) = some settings ∧
      TcpTlsSettings allowedModes settings := by
  obtain ⟨accepted, ha, hs⟩ :=
    scanAssignments_spec (asBytes dsn) allowedModes 0 false none (Nat.zero_le _)
  rw [postgresKeywordDsnUsesTcpTlsModes, ha, Option.some.injEq] at h
  obtain ⟨settings, hr, hc⟩ := hs h
  have hagree : ∀ b, (b == 0x0b) = false → driverSpace b = isAsciiWhitespace b := by
    intro b hb
    simp [driverSpace, hb]
  rw [List.drop_zero] at hr
  exact ⟨settings, by rw [read_congr hagree hl, hr], tcpTlsSettings_of_check hc⟩

end OpenBao.PostgresKeywordDsn
