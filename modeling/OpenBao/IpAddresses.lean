import Mathlib.Algebra.GroupWithZero.Nat
import Mathlib.Data.List.TakeWhile
import Mathlib.Tactic.Common

/-!
# Texts of IP addresses

The readers of textual addresses. A reader takes a value off the front of a text and leaves
the rest; one that fails leaves the text as it was.
-/

namespace IpAddresses

abbrev Text := List Char

/-- An address in network order. -/
inductive IpAddr where
  | v4 (address : BitVec 32)
  | v6 (address : BitVec 128)
  deriving DecidableEq

namespace IpAddr

/-- `127.0.0.0/8`, and `::1`. -/
def isLoopback : IpAddr → Bool
  | v4 address => address.toNat / 2 ^ 24 == 127
  | v6 address => address == 1

def isIpv4 : IpAddr → Bool
  | v4 _ => true
  | v6 _ => false

def width : IpAddr → ℕ
  | v4 _ => 32
  | v6 _ => 128

/-- The bits of the address, the most significant one first. -/
def bit : IpAddr → ℕ → Bool
  | v4 address => address.getMsbD
  | v6 address => address.getMsbD

end IpAddr

/-! ## Readers -/

abbrev Reader (α : Type) := Text → Option (α × Text)

/-- The value of a digit in base 36, or 36. -/
def digitValue (c : Char) : ℕ :=
  if '0' ≤ c ∧ c ≤ '9' then c.toNat - 48
  else if 'a' ≤ c ∧ c ≤ 'z' then c.toNat - 87
  else if 'A' ≤ c ∧ c ≤ 'Z' then c.toNat - 55
  else 36

/-- `char::to_digit` yields a digit. -/
def isDigitOf (radix : ℕ) (c : Char) : Bool := digitValue c < radix

def numberValue (radix : ℕ) (digits : Text) : ℕ :=
  digits.foldl (fun n c => n * radix + digitValue c) 0

/-- A number of a bounded count of digits and a bounded value. -/
def readNumber (radix maxDigits maximum : ℕ) (allowZeroPrefix : Bool) : Reader ℕ := fun text =>
  let digits := text.takeWhile (isDigitOf radix)
  if maxDigits < digits.length || digits.isEmpty then none
  else if !allowZeroPrefix && digits.head? == some '0' && 1 < digits.length then none
  else if maximum < numberValue radix digits then none
  else some (numberValue radix digits, text.dropWhile (isDigitOf radix))

def readGivenChar (c : Char) : Text → Option Text
  | [] => none
  | d :: rest => if d = c then some rest else none

/-- A value behind a separator, which the first of a series does not have. -/
def readSeparator {α : Type} (separator : Char) (index : ℕ) (inner : Reader α) : Reader α :=
  fun text => if 0 < index then (readGivenChar separator text).bind inner else inner text

/-- The octets from an index on. -/
def readOctets : ℕ → ℕ → Reader (List ℕ)
  | _, 0 => fun text => some ([], text)
  | index, count + 1 => fun text =>
    (readSeparator '.' index (readNumber 10 3 255 false) text).bind fun octet =>
      (readOctets (index + 1) count octet.2).map fun octets => (octet.1 :: octets.1, octets.2)

/-- Digits of a base, the most significant one first. -/
def positional (base : ℕ) (digits : List ℕ) : ℕ := digits.foldl (fun n digit => n * base + digit) 0

def readIpv4Addr : Reader (BitVec 32) := fun text =>
  (readOctets 0 4 text).map fun octets => (BitVec.ofNat 32 (positional 256 octets.1), octets.2)

/-- What `read_groups` reads: the groups, whether the last two are an IPv4 address, the rest. -/
structure Groups where
  groups : List ℕ
  ipv4 : Bool
  rest : Text

/-- The groups from an index on, within a count of free places. -/
def readGroups : ℕ → ℕ → Text → Groups
  | _, 0, text => ⟨[], false, text⟩
  | index, count + 1, text =>
    match if 0 < count then readSeparator ':' index readIpv4Addr text else none with
    | some (address, rest) => ⟨[address.toNat / 65536, address.toNat % 65536], true, rest⟩
    | none =>
      match readSeparator ':' index (readNumber 16 4 65535 true) text with
      | some (group, rest) =>
        let more := readGroups (index + 1) count rest
        { more with groups := group :: more.groups }
      | none => ⟨[], false, text⟩

def ofGroups (groups : List ℕ) : BitVec 128 := BitVec.ofNat 128 (positional 65536 groups)

def readIpv6Addr : Reader (BitVec 128) := fun text =>
  let head := readGroups 0 8 text
  if head.groups.length = 8 then some (ofGroups head.groups, head.rest)
  else if head.ipv4 then none
  else
    (readGivenChar ':' head.rest).bind fun rest =>
      (readGivenChar ':' rest).map fun rest =>
        let tail := readGroups 0 (8 - (head.groups.length + 1)) rest
        let zeros := List.replicate (8 - head.groups.length - tail.groups.length) 0
        (ofGroups (head.groups ++ zeros ++ tail.groups), tail.rest)

def readIpAddr : Reader IpAddr := fun text =>
  match readIpv4Addr text with
  | some (address, rest) => some (.v4 address, rest)
  | none => (readIpv6Addr text).map fun address => (.v6 address.1, address.2)

/-- `str::parse::<IpAddr>`, which leaves nothing. -/
def parseIpAddr (text : Text) : Option IpAddr :=
  match readIpAddr text with
  | some (address, []) => some address
  | _ => none

example : parseIpAddr "127.0.0.1".toList = some (.v4 0x7f000001) := by decide +kernel
example : parseIpAddr "::ffff:1.2.3.4".toList = some (.v6 0xffff01020304) := by decide +kernel
example : parseIpAddr "01.2.3.4".toList = none := by decide +kernel
example : parseIpAddr "1:2:3:4:5:6:7:8::".toList = none := by decide +kernel

/-! ## What readers take -/

/-- The characters of addresses. -/
def isAddressChar (c : Char) : Bool := isDigitOf 16 c || c == '.' || c == ':'

/-- The rest is behind characters of addresses. -/
def Consumed (text rest : Text) : Prop :=
  ∃ taken : Text, text = taken ++ rest ∧ ∀ c ∈ taken, isAddressChar c = true

/-- A reader takes characters of addresses only. -/
def Consumes {α : Type} (reader : Reader α) : Prop :=
  ∀ text value rest, reader text = some (value, rest) → Consumed text rest

variable {α : Type} {text rest : Text} {reader : Reader α}

theorem Consumed.refl (text : Text) : Consumed text text := ⟨[], rfl, fun _ h => nomatch h⟩

theorem Consumed.trans {more : Text} (h : Consumed text rest) (hmore : Consumed rest more) :
    Consumed text more := by
  obtain ⟨taken, rfl, htaken⟩ := h
  obtain ⟨taken', rfl, htaken'⟩ := hmore
  refine ⟨taken ++ taken', by rw [List.append_assoc], ?_⟩
  exact List.forall_mem_append.mpr ⟨htaken, htaken'⟩

theorem readGivenChar_eq_some_iff {c : Char} : readGivenChar c text = some rest ↔ text = c :: rest := by
  cases text with
  | nil => exact iff_of_false (fun h => nomatch h) fun h => nomatch h
  | cons d text =>
    rw [readGivenChar, List.cons.injEq]
    split_ifs with heq
    · rw [Option.some.injEq, and_iff_right heq]
    · exact iff_of_false (fun h => nomatch h) fun h => heq h.1

theorem consumed_readGivenChar {c : Char} (hc : isAddressChar c = true)
    (h : readGivenChar c text = some rest) : Consumed text rest := by
  obtain rfl := readGivenChar_eq_some_iff.mp h
  exact ⟨[c], rfl, List.forall_mem_singleton.mpr hc⟩

theorem isAddressChar_of_isDigitOf {radix : ℕ} (hradix : radix ≤ 16) {c : Char}
    (h : isDigitOf radix c = true) : isAddressChar c = true := by
  have hdigit : isDigitOf 16 c = true := by
    unfold isDigitOf at h ⊢
    rw [decide_eq_true_eq] at h ⊢
    omega
  rw [isAddressChar, hdigit]
  rfl

theorem consumes_readNumber {radix maxDigits maximum : ℕ} {allowZeroPrefix : Bool}
    (hradix : radix ≤ 16) : Consumes (readNumber radix maxDigits maximum allowZeroPrefix) := by
  intro text value rest h
  unfold readNumber at h
  dsimp only at h
  split_ifs at h
  obtain ⟨-, rfl⟩ := Prod.mk.inj (Option.some.inj h)
  refine ⟨text.takeWhile (isDigitOf radix), List.takeWhile_append_dropWhile.symm, fun c hc => ?_⟩
  exact isAddressChar_of_isDigitOf hradix (List.mem_takeWhile_imp hc)

theorem Consumes.readSeparator {separator : Char} (h : Consumes reader)
    (hseparator : isAddressChar separator = true) (index : ℕ) :
    Consumes (readSeparator separator index reader) := by
  intro text value rest hread
  unfold IpAddresses.readSeparator at hread
  split_ifs at hread
  · obtain ⟨next, hnext, hvalue⟩ := Option.bind_eq_some_iff.mp hread
    exact (consumed_readGivenChar hseparator hnext).trans (h _ _ _ hvalue)
  · exact h _ _ _ hread

theorem readOctets_succ (index count : ℕ) (text : Text) :
    readOctets index (count + 1) text =
      (readSeparator '.' index (readNumber 10 3 255 false) text).bind fun octet =>
        (readOctets (index + 1) count octet.2).map fun octets => (octet.1 :: octets.1, octets.2) :=
  rfl

theorem consumes_readOctets (index count : ℕ) : Consumes (readOctets index count) := by
  induction count generalizing index with
  | zero =>
    intro text octets rest h
    obtain ⟨-, rfl⟩ := Prod.mk.inj (Option.some.inj h)
    exact .refl text
  | succ count ih =>
    intro text octets rest h
    obtain ⟨octet, hoctet, hrest⟩ := Option.bind_eq_some_iff.mp h
    obtain ⟨more, hmore, heq⟩ := Option.map_eq_some_iff.mp hrest
    obtain ⟨-, rfl⟩ := Prod.mk.inj heq
    have hnumber : Consumes (readNumber 10 3 255 false) := consumes_readNumber (by omega)
    exact (hnumber.readSeparator (by decide) index _ _ _ hoctet).trans (ih _ _ _ _ hmore)

theorem consumes_readIpv4Addr : Consumes readIpv4Addr := by
  intro text address rest h
  obtain ⟨octets, hoctets, heq⟩ := Option.map_eq_some_iff.mp h
  obtain ⟨-, rfl⟩ := Prod.mk.inj heq
  exact consumes_readOctets 0 4 _ _ _ hoctets

theorem consumed_readGroups (index count : ℕ) (text : Text) :
    Consumed text (readGroups index count text).rest := by
  induction count generalizing index text with
  | zero => exact .refl text
  | succ count ih =>
    rw [readGroups]
    split
    · next address rest haddress =>
      split_ifs at haddress
      exact consumes_readIpv4Addr.readSeparator (by decide) index _ _ _ haddress
    · split
      · next group rest hgroup =>
        have hnumber : Consumes (readNumber 16 4 65535 true) := consumes_readNumber (by omega)
        exact (hnumber.readSeparator (by decide) index _ _ _ hgroup).trans (ih _ _)
      · exact .refl text

theorem consumes_readIpv6Addr : Consumes readIpv6Addr := by
  intro text address rest h
  unfold readIpv6Addr at h
  dsimp only at h
  have hhead := consumed_readGroups 0 8 text
  split_ifs at h
  · obtain ⟨-, rfl⟩ := Prod.mk.inj (Option.some.inj h)
    exact hhead
  · obtain ⟨first, hfirst, h⟩ := Option.bind_eq_some_iff.mp h
    obtain ⟨second, hsecond, heq⟩ := Option.map_eq_some_iff.mp h
    obtain ⟨-, rfl⟩ := Prod.mk.inj heq
    have hcolons := (consumed_readGivenChar (by decide) hfirst).trans
      (consumed_readGivenChar (by decide) hsecond)
    exact hhead.trans (hcolons.trans (consumed_readGroups _ _ _))

theorem consumes_readIpAddr : Consumes readIpAddr := by
  intro text address rest h
  unfold readIpAddr at h
  split at h
  · next hread =>
    obtain ⟨-, rfl⟩ := Prod.mk.inj (Option.some.inj h)
    exact consumes_readIpv4Addr _ _ _ hread
  · obtain ⟨read, hread, heq⟩ := Option.map_eq_some_iff.mp h
    obtain ⟨-, rfl⟩ := Prod.mk.inj heq
    exact consumes_readIpv6Addr _ _ _ hread

theorem parseIpAddr_eq_some_iff {address : IpAddr} :
    parseIpAddr text = some address ↔ readIpAddr text = some (address, []) := by
  unfold parseIpAddr
  split
  · next address' hread => rw [hread, Option.some.injEq, Option.some.injEq, Prod.mk.injEq, and_iff_left rfl]
  · next hread =>
    exact iff_of_false (fun h => nomatch h) fun h => hread address h

/-- An address has no other characters. -/
theorem isAddressChar_of_parseIpAddr {address : IpAddr} (h : parseIpAddr text = some address) :
    ∀ c ∈ text, isAddressChar c = true := by
  obtain ⟨taken, rfl, htaken⟩ := consumes_readIpAddr _ _ _ (parseIpAddr_eq_some_iff.mp h)
  rwa [List.append_nil]

/-! ## The shape of addresses -/

theorem readNumber_taken {radix maxDigits maximum n : ℕ} {allowZeroPrefix : Bool}
    (h : readNumber radix maxDigits maximum allowZeroPrefix text = some (n, rest)) :
    ∃ digits, text = digits ++ rest ∧ digits ≠ [] ∧ ∀ c ∈ digits, isDigitOf radix c = true := by
  unfold readNumber at h
  dsimp only at h
  split_ifs at h with hcount
  obtain ⟨-, rfl⟩ := Prod.mk.inj (Option.some.inj h)
  refine ⟨text.takeWhile (isDigitOf radix), List.takeWhile_append_dropWhile.symm, ?_, ?_⟩
  · intro hempty
    rw [hempty] at hcount
    exact hcount (by simp)
  · exact fun c hc => List.mem_takeWhile_imp hc

/-- Octets behind a separator end with a period and a number. -/
theorem readOctets_taken {index count : ℕ} {octets : List ℕ} (hindex : 0 < index)
    (h : readOctets index (count + 1) text = some (octets, rest)) :
    ∃ front last, text = front ++ '.' :: last ++ rest ∧ last ≠ [] ∧
      ∀ c ∈ last, isDigitOf 10 c = true := by
  induction count generalizing index text octets with
  | zero =>
    obtain ⟨octet, hoctet, hmap⟩ := Option.bind_eq_some_iff.mp h
    obtain ⟨more, hmore, heq⟩ := Option.map_eq_some_iff.mp hmap
    rw [readSeparator, if_pos hindex] at hoctet
    obtain ⟨next, hnext, hnumber⟩ := Option.bind_eq_some_iff.mp hoctet
    obtain rfl := readGivenChar_eq_some_iff.mp hnext
    obtain ⟨digits, rfl, hnonempty, hdigits⟩ := readNumber_taken hnumber
    obtain rfl := Option.some.inj hmore
    obtain ⟨-, rfl⟩ := Prod.mk.inj heq
    exact ⟨[], digits, by simp, hnonempty, hdigits⟩
  | succ count ih =>
    obtain ⟨octet, hoctet, hmap⟩ := Option.bind_eq_some_iff.mp h
    obtain ⟨more, hmore, heq⟩ := Option.map_eq_some_iff.mp hmap
    obtain ⟨-, rfl⟩ := Prod.mk.inj heq
    have hnumber : Consumes (readNumber 10 3 255 false) := consumes_readNumber (by omega)
    obtain ⟨taken, htaken, -⟩ := hnumber.readSeparator (by decide) index _ _ _ hoctet
    obtain ⟨front, last, hrest, hlast⟩ := ih (Nat.succ_pos index) hmore
    refine ⟨taken ++ front, last, ?_, hlast⟩
    rw [htaken, hrest]
    simp

theorem readIpv4Addr_taken {address : BitVec 32} (h : readIpv4Addr text = some (address, rest)) :
    ∃ front last, text = front ++ '.' :: last ++ rest ∧ last ≠ [] ∧
      ∀ c ∈ last, isDigitOf 10 c = true := by
  obtain ⟨octets, hoctets, heq⟩ := Option.map_eq_some_iff.mp h
  obtain ⟨-, rfl⟩ := Prod.mk.inj heq
  obtain ⟨octet, hoctet, hmap⟩ := Option.bind_eq_some_iff.mp hoctets
  obtain ⟨more, hmore, heq⟩ := Option.map_eq_some_iff.mp hmap
  have hnumber : Consumes (readNumber 10 3 255 false) := consumes_readNumber (by omega)
  obtain ⟨taken, rfl, -⟩ := hnumber.readSeparator (by decide) 0 _ _ _ hoctet
  obtain ⟨front, last, hrest, hlast⟩ := readOctets_taken Nat.one_pos hmore
  refine ⟨taken ++ front, last, ?_, hlast⟩
  rw [hrest, ← heq]
  simp

/-- Groups behind a separator begin with a colon. -/
theorem colon_mem_of_readGroups {index count : ℕ} (hindex : 0 < index)
    (h : (readGroups index count text).groups ≠ []) : ':' ∈ text := by
  have hseparator : ∀ {α : Type} {inner : Reader α} {value : α} {rest : Text},
      readSeparator ':' index inner text = some (value, rest) → ':' ∈ text := by
    intro α inner value rest hread
    rw [readSeparator, if_pos hindex] at hread
    obtain ⟨next, hnext, -⟩ := Option.bind_eq_some_iff.mp hread
    rw [readGivenChar_eq_some_iff.mp hnext]
    exact List.mem_cons_self
  cases count with
  | zero => exact absurd rfl h
  | succ count =>
    rw [readGroups] at h
    split at h
    · next address rest haddress =>
      split_ifs at haddress
      exact hseparator haddress
    · split at h
      · next group rest hgroup => exact hseparator hgroup
      · exact absurd rfl h

theorem Consumed.mem {c : Char} (h : Consumed text rest) (hc : c ∈ rest) : c ∈ text := by
  obtain ⟨taken, rfl, -⟩ := h
  exact List.mem_append_right _ hc

/-- More than two groups are separated by colons. -/
theorem colon_mem_of_two_lt (h : 2 < (readGroups 0 8 text).groups.length) : ':' ∈ text := by
  rw [readGroups] at h
  split at h
  · exact absurd h (Nat.lt_irrefl 2)
  · split at h
    · next group rest hgroup =>
      have hnumber : Consumes (readNumber 16 4 65535 true) := consumes_readNumber (by omega)
      have hconsumed := hnumber.readSeparator (by decide) 0 _ _ _ hgroup
      refine hconsumed.mem (@colon_mem_of_readGroups rest 1 7 Nat.one_pos fun hnil => ?_)
      rw [List.length_cons, hnil] at h
      exact absurd h (by decide)
    · exact absurd h (Nat.not_lt_zero 2)

theorem colon_mem_of_readIpv6Addr {address : BitVec 128}
    (h : readIpv6Addr text = some (address, rest)) : ':' ∈ text := by
  unfold readIpv6Addr at h
  dsimp only at h
  split_ifs at h with hall
  · exact colon_mem_of_two_lt (by omega)
  · obtain ⟨next, hnext, -⟩ := Option.bind_eq_some_iff.mp h
    refine (consumed_readGroups 0 8 text).mem ?_
    rw [readGivenChar_eq_some_iff.mp hnext]
    exact List.mem_cons_self

/-- An address has a colon, or ends with a number behind a period. -/
theorem parseIpAddr_shape {address : IpAddr} (h : parseIpAddr text = some address) :
    ':' ∈ text ∨ ∃ front last, text = front ++ '.' :: last ∧ last ≠ [] ∧
      ∀ c ∈ last, isDigitOf 10 c = true := by
  have hread := parseIpAddr_eq_some_iff.mp h
  unfold readIpAddr at hread
  split at hread
  · next v4 rest hv4 =>
    obtain ⟨-, rfl⟩ := Prod.mk.inj (Option.some.inj hread)
    obtain ⟨front, last, htext, hlast⟩ := readIpv4Addr_taken hv4
    rw [List.append_nil] at htext
    exact .inr ⟨front, last, htext, hlast⟩
  · obtain ⟨v6, hv6, -⟩ := Option.map_eq_some_iff.mp hread
    exact .inl (colon_mem_of_readIpv6Addr hv6)

/-! ## Writing an IPv4 address -/

def showOctet (octet : ℕ) : Text := (toString octet).toList

def octet (address : BitVec 32) (index : ℕ) : ℕ := address.toNat / 256 ^ (3 - index) % 256

def showIpv4 (address : BitVec 32) : Text :=
  showOctet (octet address 0) ++ '.' :: (showOctet (octet address 1) ++
    '.' :: (showOctet (octet address 2) ++ '.' :: showOctet (octet address 3)))

theorem showOctet_eq (n : ℕ) : showOctet n = Nat.toDigits 10 n := by
  rw [showOctet, Nat.toString_eq_repr, Nat.toList_repr]

theorem showOctet_spec : ∀ n < 256, (showOctet n).all (isDigitOf 10) = true ∧
    (showOctet n).length ≤ 3 ∧ (showOctet n).isEmpty = false ∧
      ((showOctet n).head? == some '0' && 1 < (showOctet n).length) = false ∧
        numberValue 10 (showOctet n) = n := by
  simp only [showOctet_eq]
  decide +kernel

theorem readNumber_showOctet {n : ℕ} (h : n < 256)
    (hrest : ∀ c ∈ rest.head?, isDigitOf 10 c = false) :
    readNumber 10 3 255 false (showOctet n ++ rest) = some (n, rest) := by
  obtain ⟨hall, hlength, hempty, hzero, hvalue⟩ := showOctet_spec n h
  have hdigits := List.all_eq_true.mp hall
  have hstop : rest.takeWhile (isDigitOf 10) = [] ∧ rest.dropWhile (isDigitOf 10) = rest := by
    cases rest with
    | nil => exact ⟨rfl, rfl⟩
    | cons c rest =>
      have hc := hrest c rfl
      exact ⟨List.takeWhile_cons_of_neg (by simp [hc]), List.dropWhile_cons_of_neg (by simp [hc])⟩
  unfold readNumber
  dsimp only
  rw [List.takeWhile_append_of_pos hdigits, List.dropWhile_append_of_pos hdigits, hstop.1, hstop.2,
    List.append_nil, hvalue, hempty, Bool.not_false, Bool.true_and, hzero, Bool.or_false,
    if_neg (by simpa using hlength), if_neg (by decide), if_neg (by omega)]

theorem readIpv4Addr_showIpv4 (address : BitVec 32) :
    readIpv4Addr (showIpv4 address) = some (address, []) := by
  have hperiod : isDigitOf 10 '.' = false := by decide
  have hfirst : ∀ index, octet address index < 256 := fun _ => Nat.mod_lt _ (by decide)
  have hread : ∀ {index n : ℕ} {rest : Text}, 0 < index → n < 256 →
      (∀ c ∈ rest.head?, isDigitOf 10 c = false) →
        readSeparator '.' index (readNumber 10 3 255 false) ('.' :: (showOctet n ++ rest)) =
          some (n, rest) := by
    intro index n rest hindex hn hrest
    rw [readSeparator, if_pos hindex, readGivenChar, if_pos rfl, Option.bind_some]
    exact readNumber_showOctet hn hrest
  have hlast := @hread 3 (octet address 3) [] (by omega) (hfirst 3) (by simp)
  rw [List.append_nil] at hlast
  have hvalue : positional 256 [octet address 0, octet address 1, octet address 2,
      octet address 3] = address.toNat := by
    have hlt := address.isLt
    simp only [positional, octet, List.foldl_cons, List.foldl_nil]
    omega
  have hoctets : readOctets 0 4 (showIpv4 address) =
      some ([octet address 0, octet address 1, octet address 2, octet address 3], []) := by
    rw [showIpv4, readOctets_succ, readSeparator, if_neg (Nat.lt_irrefl 0),
      readNumber_showOctet (hfirst 0) (by simp [hperiod]), Option.bind_some, readOctets_succ,
      hread (by omega) (hfirst 1) (by simp [hperiod]), Option.bind_some, readOctets_succ,
      hread (by omega) (hfirst 2) (by simp [hperiod]), Option.bind_some, readOctets_succ, hlast]
    rfl
  rw [readIpv4Addr, hoctets, Option.map_some, hvalue, BitVec.ofNat_toNat, BitVec.setWidth_eq]

/-- An address that is written reads back. -/
theorem parseIpAddr_showIpv4 (address : BitVec 32) :
    parseIpAddr (showIpv4 address) = some (.v4 address) := by
  rw [parseIpAddr_eq_some_iff, readIpAddr, readIpv4Addr_showIpv4]

end IpAddresses
