import OpenBao.ClientErrors
import OpenBao.DelimitedLists
import OpenBao.IpAddresses
import OpenBao.PanickingOperations
import OpenBao.Utf8Text

/-!
# CIDR values

Network addresses with their prefix length. The prefix is read by the integer parser of the
standard library, which takes a plus sign before the digits: apart from that sign exactly the
canonical network addresses are accepted.
-/

namespace OpenBao.CidrValues
open DelimitedLists IpAddresses PanickingOperations Utf8Text

/-- `str::parse::<u8>`. -/
def parseU8 (text : Str) : Option ℕ :=
  let digits :=
    match text with
    | '+' :: rest => rest
    | _ => text
  if digits.isEmpty || !digits.all Char.isDigit then none
  else if 255 < Nat.ofDigitChars 10 digits 0 then none
  else some (Nat.ofDigitChars 10 digits 0)

/-- The mask of a prefix, whose shift panics at the width of the word. -/
def networkMask (w prefixLength : ℕ) : Option (BitVec w) :=
  if prefixLength = 0 then some 0
  else (sub w prefixLength).bind (shiftLeft (BitVec.allOnes w))

def hostBitsAreZero {w : ℕ} (address : BitVec w) (prefixLength : ℕ) : Option Bool :=
  (networkMask w prefixLength).map fun mask => address &&& ~~~mask == 0

/-- `none` is a panic. -/
def validateCidr (value : Str) (field : String) : Option (Except Error Unit) :=
  match splitOnce '/' value with
  | none =>
    some (.error (.invalidParameter (field ++ " must contain CIDR values such as 192.0.2.0/24")))
  | some (ip, prefixText) =>
    if ip.isEmpty || prefixText.isEmpty || prefixText.contains '/' then
      some (.error (.invalidParameter (field ++ " contains malformed CIDR value")))
    else
      match parseIpAddr ip with
      | none => some (.error (.invalidParameter (field ++ " contains invalid CIDR address")))
      | some address =>
        match parseU8 prefixText with
        | none => some (.error (.invalidParameter (field ++ " contains invalid CIDR prefix")))
        | some prefixLength =>
          let maxPrefix := if address.isIpv4 then 32 else 128
          if maxPrefix < prefixLength then
            some (.error (.invalidParameter
              (field ++ " CIDR prefix exceeds /" ++ toString maxPrefix)))
          else
            (match address with
              | .v4 address => hostBitsAreZero address prefixLength
              | .v6 address => hostBitsAreZero address prefixLength).map fun zero =>
            if !zero then .error (.invalidParameter
              (field ++ " CIDR value must be a network address with host bits zeroed"))
            else .ok ()

def validateCidrList (field : String) : List Str → Option (Except Error Unit)
  | [] => some (.ok ())
  | value :: values =>
    (validateCidr value field).bind fun
      | .error e => some (.error e)
      | .ok () => validateCidrList field values

/-- A network address in canonical form: the bits behind its prefix are zero. -/
structure Canonical (address : IpAddr) (digits : Str) : Prop where
  nonempty : digits ≠ []
  digit : ∀ c ∈ digits, c.isDigit = true
  bounded : Nat.ofDigitChars 10 digits 0 ≤ address.width
  hostBits : ∀ i, Nat.ofDigitChars 10 digits 0 ≤ i → i < address.width → address.bit i = false

/-- The text `A/P`. -/
def IsCidr (value : Str) : Prop :=
  ∃ ip digits address, value = ip ++ '/' :: digits ∧ parseIpAddr ip = some address ∧
    Canonical address digits

/-- The text `A/+P`. -/
def SignedCidr (value : Str) : Prop :=
  ∃ ip digits address, value = ip ++ '/' :: '+' :: digits ∧ parseIpAddr ip = some address ∧
    Canonical address digits

variable {value text ip digits : Str} {field : String} {address : IpAddr} {n : ℕ}

/-- What is read behind the sign. -/
theorem digits_eq_some_iff :
    (if digits.isEmpty || !digits.all Char.isDigit then none
      else if 255 < Nat.ofDigitChars 10 digits 0 then none
      else some (Nat.ofDigitChars 10 digits 0)) = some n ↔
    digits ≠ [] ∧ (∀ c ∈ digits, c.isDigit = true) ∧ Nat.ofDigitChars 10 digits 0 = n ∧
      n ≤ 255 := by
  split_ifs with hinvalid hlarge
  · refine iff_of_false (fun h => nomatch h) fun h => ?_
    rw [Bool.or_eq_true, List.isEmpty_iff, Bool.not_eq_true', List.all_eq_false] at hinvalid
    rcases hinvalid with hempty | ⟨c, hc, hdigit⟩
    · exact h.1 hempty
    · exact hdigit (h.2.1 c hc)
  · exact iff_of_false (fun h => nomatch h) fun h => by omega
  · rw [Bool.not_eq_true, Bool.or_eq_false_iff, List.isEmpty_eq_false_iff, Bool.not_eq_false',
      List.all_eq_true] at hinvalid
    rw [Option.some.injEq, and_iff_right hinvalid.1, and_iff_right hinvalid.2]
    exact ⟨fun heq => ⟨heq, by omega⟩, And.left⟩

theorem parseU8_eq_some_iff : parseU8 text = some n ↔
    ∃ digits, (text = digits ∨ text = '+' :: digits) ∧ digits ≠ [] ∧
      (∀ c ∈ digits, c.isDigit = true) ∧ Nat.ofDigitChars 10 digits 0 = n ∧ n ≤ 255 := by
  have hplus : ∀ digits : Str, ¬ ∀ c ∈ '+' :: digits, c.isDigit = true := by
    intro digits hdigits
    have hsign := hdigits '+' List.mem_cons_self
    cases hsign
  unfold parseU8
  split
  · next rest =>
    dsimp only
    rw [digits_eq_some_iff]
    constructor
    · exact fun h => ⟨rest, .inr rfl, h⟩
    · rintro ⟨digits, rfl | heq, h⟩
      · exact absurd h.2.1 (hplus rest)
      · obtain ⟨-, rfl⟩ := List.cons.inj heq
        exact h
  · next hother =>
    dsimp only
    rw [digits_eq_some_iff]
    constructor
    · exact fun h => ⟨text, .inl rfl, h⟩
    · rintro ⟨digits, rfl | heq, h⟩
      · exact h
      · exact absurd heq (hother digits)

/-- The mask is computed for every prefix within the width. -/
theorem networkMask_eq {w prefixLength : ℕ} (h : prefixLength ≤ w) :
    networkMask w prefixLength = some (BitVec.allOnes w <<< (w - prefixLength)) := by
  unfold networkMask
  split_ifs with hzero
  · rw [hzero, Nat.sub_zero, BitVec.shiftLeft_eq_zero (Nat.le_refl w)]
    rfl
  · rw [sub_of_le h, Option.bind_some, shiftLeft_of_lt (by omega)]

/-- Outside of the mask the address is zero exactly when the bits behind the prefix are. -/
theorem and_not_mask_eq_zero_iff {w prefixLength : ℕ} (x : BitVec w) (h : prefixLength ≤ w) :
    x &&& ~~~(BitVec.allOnes w <<< (w - prefixLength)) = 0 ↔
      ∀ i, prefixLength ≤ i → i < w → x.getMsbD i = false := by
  have hbit : ∀ j, j < w → (x &&& ~~~(BitVec.allOnes w <<< (w - prefixLength))).getLsbD j =
      (x.getLsbD j && decide (j < w - prefixLength)) := by
    intro j hj
    simp only [BitVec.getLsbD_and, BitVec.getLsbD_not, BitVec.getLsbD_shiftLeft,
      BitVec.getLsbD_allOnes, hj, decide_true, Bool.true_and]
    congr 1
    by_cases hlow : j < w - prefixLength
    · simp [hlow]
    · have hshift : j - (w - prefixLength) < w := by omega
      simp [hlow, hshift]
  constructor
  · intro hzero i hi hiw
    have hj := hbit (w - 1 - i) (by omega)
    rw [hzero] at hj
    have hlow : w - 1 - i < w - prefixLength := by omega
    rw [BitVec.getMsbD, decide_eq_true hiw, Bool.true_and]
    simpa [hlow] using hj.symm
  · intro hbits
    apply BitVec.eq_of_getLsbD_eq
    intro j hj
    rw [hbit j hj]
    by_cases hlow : j < w - prefixLength
    · have hmsb := hbits (w - 1 - j) (by omega) (by omega)
      rw [BitVec.getMsbD, decide_eq_true (by omega), Bool.true_and] at hmsb
      have hindex : w - 1 - (w - 1 - j) = j := by omega
      rw [hindex] at hmsb
      simp [hmsb]
    · simp [hlow]

theorem hostBitsAreZero_eq {w prefixLength : ℕ} (x : BitVec w) (h : prefixLength ≤ w) :
    ∃ zero, hostBitsAreZero x prefixLength = some zero ∧
      (zero = true ↔ ∀ i, prefixLength ≤ i → i < w → x.getMsbD i = false) := by
  refine ⟨_, by rw [hostBitsAreZero, networkMask_eq h, Option.map_some], ?_⟩
  rw [beq_iff_eq]
  exact and_not_mask_eq_zero_iff x h

/-- The text behind the slash is read as a prefix, with or without a sign. -/
def PrefixText (address : IpAddr) (text : Str) : Prop :=
  Canonical address text ∨ ∃ digits, text = '+' :: digits ∧ Canonical address digits

theorem prefixText_iff {text : Str} : PrefixText address text ↔
    ∃ n, parseU8 text = some n ∧ n ≤ address.width ∧
      ∀ i, n ≤ i → i < address.width → address.bit i = false := by
  have hwidth : address.width ≤ 255 := by
    cases address
    · exact (by decide : 32 ≤ 255)
    · exact (by decide : 128 ≤ 255)
  constructor
  · rintro (h | ⟨digits, rfl, h⟩)
    · have hbounded := h.bounded
      exact ⟨_, parseU8_eq_some_iff.mpr ⟨text, .inl rfl, h.nonempty, h.digit, rfl, by omega⟩,
        hbounded, h.hostBits⟩
    · have hbounded := h.bounded
      exact ⟨_, parseU8_eq_some_iff.mpr ⟨digits, .inr rfl, h.nonempty, h.digit, rfl, by omega⟩,
        hbounded, h.hostBits⟩
  · rintro ⟨n, hparse, hbounded, hbits⟩
    obtain ⟨digits, htext, hnonempty, hdigit, rfl, -⟩ := parseU8_eq_some_iff.mp hparse
    have hcanonical : Canonical address digits := ⟨hnonempty, hdigit, hbounded, hbits⟩
    rcases htext with rfl | rfl
    · exact .inl hcanonical
    · exact .inr ⟨digits, rfl, hcanonical⟩

theorem PrefixText.plain {text : Str} (h : PrefixText address text) :
    text ≠ [] ∧ '/' ∉ text := by
  have hdigits : ∀ digits, Canonical address digits → '/' ∉ digits := by
    intro digits hcanonical hmem
    have hslash := hcanonical.digit '/' hmem
    cases hslash
  rcases h with h | ⟨digits, rfl, h⟩
  · exact ⟨h.nonempty, hdigits text h⟩
  · refine ⟨List.cons_ne_nil _ _, fun hmem => ?_⟩
    rcases List.mem_cons.mp hmem with hsign | hmem
    · cases hsign
    · exact hdigits digits h hmem

/-- What is behind the slash is judged by the width of the address and its bits. -/
theorem hostBits_verdict (address : IpAddr) (n : ℕ) (field : String) :
    ∃ verdict, (if (if address.isIpv4 then 32 else 128) < n then
        some (.error (.invalidParameter (field ++ " CIDR prefix exceeds /" ++
          toString (if address.isIpv4 then 32 else 128))))
      else
        (match address with
          | .v4 address => hostBitsAreZero address n
          | .v6 address => hostBitsAreZero address n).map fun zero =>
        if !zero then .error (.invalidParameter
          (field ++ " CIDR value must be a network address with host bits zeroed"))
        else .ok ()) = some verdict ∧
      (verdict = (.ok () : Except Error Unit) ↔
        n ≤ address.width ∧ ∀ i, n ≤ i → i < address.width → address.bit i = false) := by
  have hmaximum : (if address.isIpv4 = true then 32 else 128) = address.width := by
    cases address <;> rfl
  rw [hmaximum]
  by_cases hlong : address.width < n
  · rw [if_pos hlong]
    exact ⟨_, rfl, iff_of_false (fun h => nomatch h) fun h => by omega⟩
  · rw [if_neg hlong, and_iff_right (Nat.le_of_not_lt hlong)]
    have hzero : ∃ zero, (match address with
        | .v4 address => hostBitsAreZero address n
        | .v6 address => hostBitsAreZero address n) = some zero ∧
          (zero = true ↔ ∀ i, n ≤ i → i < address.width → address.bit i = false) := by
      cases address with
      | v4 address => exact hostBitsAreZero_eq address (Nat.le_of_not_lt hlong)
      | v6 address => exact hostBitsAreZero_eq address (Nat.le_of_not_lt hlong)
    obtain ⟨zero, hread, hbits⟩ := hzero
    rw [hread, ← hbits]
    cases zero with
    | true => exact ⟨_, rfl, iff_of_true rfl rfl⟩
    | false => exact ⟨_, rfl, iff_of_false (fun h => nomatch h) (fun h => nomatch h)⟩

/-- Every text gets a verdict, and the accepted ones are an address, a slash and a prefix. -/
theorem validateCidr_verdict (value : Str) (field : String) :
    ∃ verdict, validateCidr value field = some verdict ∧
      (verdict = .ok () ↔ ∃ ip text address, splitOnce '/' value = some (ip, text) ∧
        parseIpAddr ip = some address ∧ PrefixText address text) := by
  unfold validateCidr
  cases hsplit : splitOnce '/' value with
  | none => exact ⟨_, rfl, iff_of_false (fun h => nomatch h) fun ⟨_, _, _, h, _⟩ => nomatch h⟩
  | some parts =>
    obtain ⟨ip, prefixText⟩ := parts
    have hparts : (∃ ip' text address, some (ip, prefixText) = some (ip', text) ∧
        parseIpAddr ip' = some address ∧ PrefixText address text) ↔
          ∃ address, parseIpAddr ip = some address ∧ PrefixText address prefixText := by
      constructor
      · rintro ⟨_, _, address, heq, h⟩
        obtain ⟨rfl, rfl⟩ := Prod.mk.inj (Option.some.inj heq)
        exact ⟨address, h⟩
      · rintro ⟨address, h⟩
        exact ⟨ip, prefixText, address, rfl, h⟩
    dsimp only
    rw [hparts]
    split_ifs with hmalformed
    · refine ⟨_, rfl, iff_of_false (fun h => nomatch h) ?_⟩
      rintro ⟨address, hip, hprefix⟩
      obtain ⟨hnonempty, hslash⟩ := hprefix.plain
      simp only [Bool.or_eq_true, List.isEmpty_iff, List.contains_iff_mem] at hmalformed
      rcases hmalformed with (rfl | hempty) | hmem
      · cases hip
      · exact hnonempty hempty
      · exact hslash hmem
    cases hip : parseIpAddr ip with
    | none => exact ⟨_, rfl, iff_of_false (fun h => nomatch h) fun ⟨_, h, _⟩ => nomatch h⟩
    | some address =>
      simp only [Option.some.injEq, exists_eq_left', prefixText_iff]
      cases hprefix : parseU8 prefixText with
      | none => exact ⟨_, rfl, iff_of_false (fun h => nomatch h) fun ⟨_, h, _⟩ => nomatch h⟩
      | some n =>
        simp only [Option.some.injEq, exists_eq_left']
        exact hostBits_verdict address n field

/-- An address has no slash. -/
theorem slash_notMem_of_parseIpAddr (h : parseIpAddr ip = some address) : '/' ∉ ip := by
  intro hmem
  have hchar := isAddressChar_of_parseIpAddr h '/' hmem
  revert hchar
  decide

theorem validateCidr_eq_ok_iff :
    validateCidr value field = some (.ok ()) ↔ IsCidr value ∨ SignedCidr value := by
  obtain ⟨verdict, hverdict, hok⟩ := validateCidr_verdict value field
  rw [hverdict, Option.some.injEq, hok]
  constructor
  · rintro ⟨ip, text, address, hsplit, hip, hprefix⟩
    obtain ⟨rfl, -⟩ := splitOnce_eq_some_iff.mp hsplit
    rcases hprefix with h | ⟨digits, rfl, h⟩
    · exact .inl ⟨ip, text, address, rfl, hip, h⟩
    · exact .inr ⟨ip, digits, address, rfl, hip, h⟩
  · rintro (⟨ip, digits, address, rfl, hip, h⟩ | ⟨ip, digits, address, rfl, hip, h⟩)
    · have hsplit := splitOnce_append (slash_notMem_of_parseIpAddr hip) digits
      exact ⟨ip, digits, address, hsplit, hip, .inl h⟩
    · have hsplit := splitOnce_append (slash_notMem_of_parseIpAddr hip) ('+' :: digits)
      exact ⟨ip, '+' :: digits, address, hsplit, hip, .inr ⟨digits, rfl, h⟩⟩

/-- A sign is no digit, so no text has both forms. -/
theorem not_isCidr_of_signedCidr (h : SignedCidr value) : ¬ IsCidr value := by
  obtain ⟨ip, digits, address, rfl, hip, -⟩ := h
  rintro ⟨ip', digits', address', heq, hip', hcanonical⟩
  have hsplit := splitOnce_append (slash_notMem_of_parseIpAddr hip) ('+' :: digits)
  rw [heq, splitOnce_append (slash_notMem_of_parseIpAddr hip') digits'] at hsplit
  obtain ⟨-, rfl⟩ := Prod.mk.inj (Option.some.inj hsplit)
  have hsign := hcanonical.digit '+' List.mem_cons_self
  cases hsign

/-- Validation never panics, and accepts exactly the canonical network addresses on every text
but those that have a plus sign before their prefix. -/
theorem validateCidr_exact_iff (value : Str) (field : String) :
    (validateCidr value field ≠ none ∧ (validateCidr value field = some (.ok ()) ↔ IsCidr value)) ↔
      ¬ SignedCidr value := by
  obtain ⟨verdict, hverdict, -⟩ := validateCidr_verdict value field
  have hdefined : validateCidr value field ≠ none := by
    rw [hverdict]
    exact Option.some_ne_none _
  rw [and_iff_right hdefined, validateCidr_eq_ok_iff]
  constructor
  · intro hexact hsigned
    exact not_isCidr_of_signedCidr hsigned (hexact.mp (.inr hsigned))
  · intro hunsigned
    exact or_iff_left hunsigned

/-- A list is accepted when its values are. -/
theorem validateCidrList_eq_ok_iff {values : List Str} :
    validateCidrList field values = some (.ok ()) ↔
      ∀ value ∈ values, validateCidr value field = some (.ok ()) := by
  induction values with
  | nil => exact iff_of_true rfl fun _ h => nomatch h
  | cons value values ih =>
    obtain ⟨verdict, hverdict, -⟩ := validateCidr_verdict value field
    rw [validateCidrList, List.forall_mem_cons, hverdict, Option.bind_some, ← ih]
    cases verdict with
    | error e => exact iff_of_false (fun h => nomatch h) fun h => nomatch h.1
    | ok _ => exact (and_iff_right rfl).symm

/-- A signed prefix is accepted. -/
theorem validateCidr_signed :
    validateCidr "10.0.0.0/+8".toList "allowed CIDR" = some (.ok ()) ∧
      ¬ IsCidr "10.0.0.0/+8".toList := by
  have haccepted : validateCidr "10.0.0.0/+8".toList "allowed CIDR" = some (.ok ()) := by
    decide +kernel
  refine ⟨haccepted, not_isCidr_of_signedCidr ?_⟩
  refine ⟨"10.0.0.0".toList, "8".toList, .v4 0x0a000000, rfl, by decide +kernel, ?_⟩
  exact ⟨by decide, List.all_eq_true.mp (by decide), by decide, by decide +kernel⟩

end OpenBao.CidrValues
