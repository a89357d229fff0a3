import Mathlib.Data.Option.Basic
import OpenBao.DurationText
import OpenBao.PanickingOperations

/-!
# The grammar of duration strings

At most one component of each unit, in the order hours, minutes, seconds. The scanner over
byte positions accepts exactly this language, and run with the operations of the source,
which may panic, it ends with a verdict on every input.
-/

namespace OpenBao.DurationText
open DelimitedLists PanickingOperations Utf8Text

/-- The digits of a component: their value is within the limit, and not zero unless allowed. -/
structure Admitted (allowZero : Bool) (digits : Str) : Prop where
  nonempty : digits ≠ []
  digit : ∀ c ∈ digits, c.isDigit = true
  bounded : Nat.ofDigitChars 10 digits 0 ≤ maxDurationComponent
  nonzero : allowZero = false → Nat.ofDigitChars 10 digits 0 ≠ 0

/-- At most one component of a unit. -/
inductive Part (allowZero : Bool) (unit : Char) : Str → Prop
  | absent : Part allowZero unit []
  | component {digits : Str} (h : Admitted allowZero digits) :
    Part allowZero unit (digits ++ [unit])

/-- A duration: hours, then minutes, then seconds, not all of them absent. -/
structure IsDuration (allowZero : Bool) (value : Str) : Prop where
  nonempty : value ≠ []
  parts : ∃ hours minutes seconds, Part allowZero 'h' hours ∧ Part allowZero 'm' minutes ∧
    Part allowZero 's' seconds ∧ value = hours ++ minutes ++ seconds

/-! ## Components with increasing scales -/

/-- Runs of digits followed by units whose scales increase from the last one. -/
inductive Components {α : Type} (run : List α → Prop) (scale : α → Option ℕ) :
    Option ℕ → List α → Prop
  | done {last : Option ℕ} : Components run scale last []
  | more {last : Option ℕ} {digits : List α} {unit : α} {k : ℕ} {rest : List α}
    (hrun : run digits) (hscale : scale unit = some k) (hlast : ∀ previous ∈ last, previous < k)
    (hrest : Components run scale (some k) rest) :
    Components run scale last (digits ++ unit :: rest)

section Components

variable {α : Type} {run : List α → Prop} {scale : α → Option ℕ} {digit : α → Bool}
variable {last : Option ℕ} {xs : List α}

theorem takeWhile_digits {digits : List α} {unit : α} {rest : List α}
    (hdigits : ∀ a ∈ digits, digit a = true) (hunit : digit unit = false) :
    (digits ++ unit :: rest).takeWhile digit = digits ∧
      (digits ++ unit :: rest).dropWhile digit = unit :: rest := by
  constructor
  · rw [List.takeWhile_append_of_pos hdigits, List.takeWhile_cons_of_neg (by simp [hunit]),
      List.append_nil]
  · rw [List.dropWhile_append_of_pos hdigits, List.dropWhile_cons_of_neg (by simp [hunit])]

/-- The first component of a non-empty text is what a scan over its digits stops at. -/
theorem components_iff (hrun : ∀ digits, run digits → ∀ a ∈ digits, digit a = true)
    (hunit : ∀ unit k, scale unit = some k → digit unit = false) (hxs : xs ≠ []) :
    Components run scale last xs ↔
      ∃ unit k rest, xs.dropWhile digit = unit :: rest ∧ run (xs.takeWhile digit) ∧
        scale unit = some k ∧ (∀ previous ∈ last, previous < k) ∧
          Components run scale (some k) rest := by
  constructor
  · intro h
    cases h with
    | done => exact absurd rfl hxs
    | @more _ digits unit k rest hdigits hscale hlast hrest =>
      obtain ⟨htake, hdrop⟩ := @takeWhile_digits _ digit digits unit rest (hrun _ hdigits)
        (hunit _ _ hscale)
      refine ⟨unit, k, rest, hdrop, ?_, hscale, hlast, hrest⟩
      rwa [htake]
  · rintro ⟨unit, k, rest, hdrop, hdigits, hscale, hlast, hrest⟩
    have hsplit : xs.takeWhile digit ++ unit :: rest = xs := by
      rw [← hdrop, List.takeWhile_append_dropWhile]
    rw [← hsplit]
    exact .more hdigits hscale hlast hrest

/-- After the last scale comes at most one component of the next one. -/
theorem components_peel {k : ℕ} (hnext : ∀ j, (∀ previous ∈ last, previous < j) ↔ k ≤ j) :
    Components run scale last xs ↔
      ∃ part rest, (part = [] ∨ ∃ digits unit, run digits ∧ scale unit = some k ∧
        part = digits ++ [unit]) ∧ Components run scale (some k) rest ∧ xs = part ++ rest := by
  constructor
  · intro h
    cases h with
    | done => exact ⟨[], [], .inl rfl, .done, rfl⟩
    | @more _ digits unit j rest hrun hscale hlast hrest =>
      rcases Nat.eq_or_lt_of_le ((hnext j).mp hlast) with rfl | hlt
      · exact ⟨digits ++ [unit], rest, .inr ⟨digits, unit, hrun, hscale, rfl⟩, hrest, by simp⟩
      · refine ⟨[], digits ++ unit :: rest, .inl rfl, .more hrun hscale ?_ hrest, rfl⟩
        simpa using hlt
  · rintro ⟨part, rest, hpart, hrest, rfl⟩
    rcases hpart with rfl | ⟨digits, unit, hrun, hscale, rfl⟩
    · cases hrest with
      | done => exact .done
      | more hrun hscale hlast hrest =>
        refine .more hrun hscale ((hnext _).mpr ?_) hrest
        exact Nat.le_of_lt (hlast k rfl)
    · have hmore := Components.more hrun hscale ((hnext k).mpr (Nat.le_refl k)) hrest
      rwa [List.append_assoc, List.singleton_append]

end Components

/-! ## The scanner accepts the components -/

def digitsValue (component : ℕ) (digits : Bytes) : ℕ :=
  digits.foldl (fun n digit => n * 10 + (digit - 0x30).toNat) component

/-- The digits of a component in bytes. -/
structure AdmittedBytes (allowZero : Bool) (digits : Bytes) : Prop where
  nonempty : digits ≠ []
  digit : ∀ byte ∈ digits, isAsciiDigit byte = true
  bounded : digitsValue 0 digits ≤ maxDurationComponent
  nonzero : allowZero = false → digitsValue 0 digits ≠ 0

variable {allowZero : Bool} {bytes digits : Bytes} {component value : ℕ}

theorem le_digitsValue (component : ℕ) (digits : Bytes) : component ≤ digitsValue component digits := by
  induction digits generalizing component with
  | nil => exact Nat.le_refl _
  | cons digit rest ih =>
    have hrest := ih (component * 10 + (digit - 0x30).toNat)
    rw [digitsValue, List.foldl_cons]
    rw [digitsValue] at hrest
    omega

/-- No step from a component within the limit overflows. -/
theorem checked_step (h : component ≤ maxDurationComponent) (digit : UInt8) :
    ((checked (component * 10)).bind fun tens => checked (tens + (digit - 0x30).toNat)) =
      some (component * 10 + (digit - 0x30).toNat) := by
  have hdigit : (digit - 0x30).toNat < 256 := UInt8.toNat_lt _
  have hlimit : maxDurationComponent * 10 + 256 ≤ u64Max := by decide
  rw [checked, if_pos (by omega), Option.bind_some, checked, if_pos (by omega)]

theorem parseDigits_eq_some_iff (h : component ≤ maxDurationComponent) :
    parseDigits component digits = some value ↔
      (∀ byte ∈ digits, isAsciiDigit byte = true) ∧ digitsValue component digits = value ∧
        value ≤ maxDurationComponent := by
  induction digits generalizing component with
  | nil =>
    simp only [parseDigits, digitsValue, List.foldl_nil, Option.some.injEq, List.not_mem_nil,
      false_implies, implies_true, true_and]
    constructor
    · rintro rfl
      exact ⟨rfl, h⟩
    · exact And.left
  | cons digit rest ih =>
    have hstep := checked_step h digit
    rw [parseDigits]
    split_ifs with hdigit
    · refine iff_of_false (fun h => nomatch h) fun h => ?_
      have hmem := h.1 digit List.mem_cons_self
      rw [hmem] at hdigit
      cases hdigit
    · have hdigit : isAsciiDigit digit = true := by simpa using hdigit
      have hcons : digitsValue component (digit :: rest) =
        digitsValue (component * 10 + (digit - 0x30).toNat) rest := rfl
      rw [← Option.bind_assoc, hstep, Option.bind_some, hcons, List.forall_mem_cons]
      split_ifs with hlarge
      · refine iff_of_false (fun h => nomatch h) fun h => ?_
        obtain ⟨-, hvalue, hbound⟩ := h
        have hle := le_digitsValue (component * 10 + (digit - 0x30).toNat) rest
        omega
      · rw [ih (by omega), and_iff_right hdigit]

theorem parseDurationComponent_eq_some_iff :
    parseDurationComponent digits = some value ↔
      digits ≠ [] ∧ (∀ byte ∈ digits, isAsciiDigit byte = true) ∧ digitsValue 0 digits = value ∧
        value ≤ maxDurationComponent := by
  unfold parseDurationComponent
  split_ifs with hnil
  · simp [hnil]
  · rw [parseDigits_eq_some_iff (Nat.zero_le _), and_iff_right hnil]

theorem AdmittedBytes.parse (h : AdmittedBytes allowZero digits) :
    parseDurationComponent digits = some (digitsValue 0 digits) :=
  parseDurationComponent_eq_some_iff.mpr ⟨h.nonempty, h.digit, rfl, h.bounded⟩

/-- A component that is read is admitted unless it is a zero that is not allowed. -/
theorem admittedBytes_iff_of_parse (h : parseDurationComponent digits = some component) :
    AdmittedBytes allowZero digits ↔ ¬ (!allowZero && component == 0) = true := by
  obtain ⟨hnonempty, hall, rfl, hbound⟩ := parseDurationComponent_eq_some_iff.mp h
  constructor
  · intro hadmitted hzero
    simp only [Bool.and_eq_true, Bool.not_eq_true', beq_iff_eq] at hzero
    exact hadmitted.nonzero hzero.1 hzero.2
  · intro hzero
    refine ⟨hnonempty, hall, hbound, fun hallow heq => hzero ?_⟩
    rw [hallow, heq]
    rfl

/-- What one round of the component loop asks of the text behind `index`. -/
theorem validateComponents_round {index : ℕ} {last : Option ℕ} (h : index < bytes.length) :
    validateComponents bytes allowZero index last = true ↔
      ∃ unit k rest, (bytes.drop index).dropWhile isAsciiDigit = unit :: rest ∧
        AdmittedBytes allowZero ((bytes.drop index).takeWhile isAsciiDigit) ∧
          unitScale unit = some k ∧ (∀ previous ∈ last, previous < k) ∧
            validateComponents bytes allowZero
              (index + ((bytes.drop index).takeWhile isAsciiDigit).length + 1) (some k) = true := by
  have hstop := advanceWhile_eq isAsciiDigit bytes index
  rw [validateComponents, dif_pos h]
  dsimp only
  rw [take_advanceWhile, getElem?_advanceWhile, hstop]
  generalize (bytes.drop index).takeWhile isAsciiDigit = run
  by_cases hempty : index = index + run.length
  · rw [if_pos hempty]
    refine iff_of_false (fun h => nomatch h) fun h => ?_
    obtain ⟨-, -, -, -, hadmitted, -⟩ := h
    exact hadmitted.nonempty (List.length_eq_zero_iff.mp (by omega))
  rw [if_neg hempty]
  cases hparse : parseDurationComponent run with
  | none =>
    refine iff_of_false (fun h => nomatch h) fun h => ?_
    obtain ⟨-, -, -, -, hadmitted, -⟩ := h
    rw [hadmitted.parse] at hparse
    cases hparse
  | some component =>
    obtain ⟨-, -, -, hbound⟩ := parseDurationComponent_eq_some_iff.mp hparse
    have hadmitted := @admittedBytes_iff_of_parse allowZero run component hparse
    dsimp only
    rw [if_neg (Nat.not_lt_of_le hbound)]
    by_cases hzero : (!allowZero && component == 0) = true
    · rw [if_pos hzero]
      exact iff_of_false (fun h => nomatch h)
        fun ⟨_, _, _, _, hrun, _⟩ => hadmitted.mp hrun hzero
    rw [if_neg hzero]
    cases htail : (bytes.drop index).dropWhile isAsciiDigit with
    | nil => simp
    | cons unit rest =>
      rw [List.head?_cons, Option.bind_some]
      cases hscale : unitScale unit with
      | none =>
        refine iff_of_false (fun h => nomatch h) fun h => ?_
        obtain ⟨_, _, _, heq, -, hk, -⟩ := h
        obtain ⟨rfl, rfl⟩ := List.cons.inj heq
        rw [hscale] at hk
        cases hk
      | some k =>
        have hbefore : (∀ previous ∈ last, previous < k) ↔ ¬ last.any (k ≤ ·) = true := by
          cases last <;> simp
        have hround : (∃ unit' k' rest', unit :: rest = unit' :: rest' ∧
            AdmittedBytes allowZero run ∧ unitScale unit' = some k' ∧
              (∀ previous ∈ last, previous < k') ∧
                validateComponents bytes allowZero (index + run.length + 1) (some k') = true) ↔
            (∀ previous ∈ last, previous < k) ∧
              validateComponents bytes allowZero (index + run.length + 1) (some k) = true := by
          constructor
          · rintro ⟨_, _, _, heq, -, hk, hbelow, hrest⟩
            obtain ⟨rfl, rfl⟩ := List.cons.inj heq
            obtain rfl := Option.some.inj (hscale.symm.trans hk)
            exact ⟨hbelow, hrest⟩
          · rintro ⟨hbelow, hrest⟩
            exact ⟨unit, k, rest, rfl, hadmitted.mpr hzero, hscale, hbelow, hrest⟩
        rw [hround, hbefore]
        dsimp only
        split_ifs with hlast
        · exact iff_of_false (fun h => nomatch h) fun h => h.1 hlast
        · exact (and_iff_right hlast).symm

/-- The scanner accepts the components behind its position. -/
theorem validateComponents_iff {index : ℕ} {last : Option ℕ} (h : index ≤ bytes.length) :
    validateComponents bytes allowZero index last = true ↔
      Components (AdmittedBytes allowZero) unitScale last (bytes.drop index) := by
  induction hn : bytes.length - index using Nat.strong_induction_on generalizing index last with
  | _ n ih =>
    by_cases hindex : index < bytes.length
    · have hne : bytes.drop index ≠ [] := by
        intro hnil
        rw [List.drop_eq_nil_iff] at hnil
        omega
      rw [validateComponents_round hindex,
        components_iff (fun _ hrun => hrun.digit) (fun _ _ => isAsciiDigit_of_unitScale) hne]
      refine exists_congr fun unit => exists_congr fun k => exists_congr fun rest => ?_
      refine and_congr_right fun hdrop => ?_
      have hlength : (bytes.drop index).length =
          ((bytes.drop index).takeWhile isAsciiDigit).length + (rest.length + 1) := by
        conv_lhs => rw [← @List.takeWhile_append_dropWhile _ isAsciiDigit (bytes.drop index)]
        rw [hdrop, List.length_append, List.length_cons]
      rw [List.length_drop] at hlength
      have hrest : bytes.drop (index + ((bytes.drop index).takeWhile isAsciiDigit).length + 1) =
          rest := by
        rw [← advanceWhile_eq, ← List.drop_drop, drop_advanceWhile, hdrop, List.drop_one,
          List.tail_cons]
      rw [ih _ (by omega) (by omega) rfl, hrest]
    · rw [validateComponents, dif_neg hindex, List.drop_eq_nil_of_le (by omega)]
      exact iff_of_true rfl .done

/-! ## From bytes to characters -/

theorem digitsValue_map {s : Str} (h : ∀ c ∈ s, c.isDigit = true) (component : ℕ) :
    digitsValue component (s.map asciiByte) = Nat.ofDigitChars 10 s component := by
  induction s generalizing component with
  | nil => rfl
  | cons c s ih =>
    obtain ⟨hc, hs⟩ := List.forall_mem_cons.mp h
    rw [Nat.ofDigitChars_cons, ← ih hs, List.map_cons, digitsValue, List.foldl_cons, ← digitsValue,
      toNat_asciiByte_sub hc, Nat.mul_comm]

/-- `unit_scale` on characters. -/
def charScale (c : Char) : Option ℕ :=
  if c = 'h' then some 0 else if c = 'm' then some 1 else if c = 's' then some 2 else none

theorem unitScale_asciiByte {c : Char} (h : c.toNat < 128) :
    unitScale (asciiByte c) = charScale c := by
  have hhours := @asciiByte_beq c 'h' h (by decide)
  have hminutes := @asciiByte_beq c 'm' h (by decide)
  have hseconds := @asciiByte_beq c 's' h (by decide)
  rw [show asciiByte 'h' = 0x68 from rfl] at hhours
  rw [show asciiByte 'm' = 0x6d from rfl] at hminutes
  rw [show asciiByte 's' = 0x73 from rfl] at hseconds
  simp only [unitScale, charScale, hhours, hminutes, hseconds]

theorem admittedBytes_map_iff {s : Str} (h : ∀ c ∈ s, c.toNat < 128) :
    AdmittedBytes allowZero (s.map asciiByte) ↔ Admitted allowZero s := by
  have hdigits : (∀ byte ∈ s.map asciiByte, isAsciiDigit byte = true) ↔
      ∀ c ∈ s, c.isDigit = true := by
    rw [List.forall_mem_map]
    exact forall₂_congr fun c hc => by rw [isAsciiDigit_asciiByte (h c hc)]
  constructor
  · intro hadmitted
    have hall := hdigits.mp hadmitted.digit
    have hvalue := digitsValue_map hall 0
    refine ⟨fun hnil => hadmitted.nonempty (by rw [hnil]; rfl), hall, ?_, fun hallow => ?_⟩
    · rw [← hvalue]
      exact hadmitted.bounded
    · rw [← hvalue]
      exact hadmitted.nonzero hallow
  · intro hadmitted
    have hvalue := digitsValue_map hadmitted.digit 0
    refine ⟨fun hnil => hadmitted.nonempty (List.map_eq_nil_iff.mp hnil),
      hdigits.mpr hadmitted.digit, ?_, fun hallow => ?_⟩
    · rw [hvalue]
      exact hadmitted.bounded
    · rw [hvalue]
      exact hadmitted.nonzero hallow

theorem components_map_iff {s : Str} {last : Option ℕ} (h : ∀ c ∈ s, c.toNat < 128) :
    Components (AdmittedBytes allowZero) unitScale last (s.map asciiByte) ↔
      Components (Admitted allowZero) charScale last s := by
  constructor
  · intro hbytes
    generalize hmap : s.map asciiByte = bytes at hbytes
    induction hbytes generalizing s with
    | done =>
      obtain rfl := List.map_eq_nil_iff.mp hmap
      exact .done
    | more hrun hscale hlast hrest ih =>
      obtain ⟨digits, tail, rfl, rfl, htail⟩ := List.map_eq_append_iff.mp hmap
      obtain ⟨unit, rest, rfl, rfl, rfl⟩ := List.map_eq_cons_iff.mp htail
      obtain ⟨hdigits, hunit, hsmall⟩ :
          (∀ c ∈ digits, c.toNat < 128) ∧ unit.toNat < 128 ∧ ∀ c ∈ rest, c.toNat < 128 := by
        simpa only [List.forall_mem_append, List.forall_mem_cons] using h
      rw [unitScale_asciiByte hunit] at hscale
      exact .more ((admittedBytes_map_iff hdigits).mp hrun) hscale hlast (ih hsmall rfl)
  · intro hchars
    induction hchars with
    | done => exact .done
    | more hrun hscale hlast hrest ih =>
      obtain ⟨hdigits, hunit, hsmall⟩ := by
        simpa only [List.forall_mem_append, List.forall_mem_cons] using h
      rw [List.map_append, List.map_cons]
      refine .more ((admittedBytes_map_iff hdigits).mpr hrun) ?_ hlast (ih hsmall)
      rwa [unitScale_asciiByte hunit]

/-- Components are ASCII. -/
theorem Components.ascii {last : Option ℕ}
    (h : Components (AdmittedBytes allowZero) unitScale last bytes) :
    ∀ byte ∈ bytes, byte < 0x80 := by
  have hdigit : ∀ byte, isAsciiDigit byte = true → byte < 0x80 := by
    intro byte hbyte
    have hle : byte ≤ 0x39 := by
      simp only [isAsciiDigit, Bool.and_eq_true, decide_eq_true_eq] at hbyte
      exact hbyte.2
    exact UInt8.lt_of_le_of_lt hle (by decide)
  have hunit : ∀ byte k, unitScale byte = some k → byte < 0x80 := by
    intro byte k hscale
    unfold unitScale at hscale
    split_ifs at hscale with hhours hminutes hseconds
    · rw [eq_of_beq hhours]
      decide
    · rw [eq_of_beq hminutes]
      decide
    · rw [eq_of_beq hseconds]
      decide
  induction h with
  | done =>
    intro byte hbyte
    cases hbyte
  | more hrun hscale hlast hrest ih =>
    simp only [List.forall_mem_append, List.forall_mem_cons]
    exact ⟨fun byte hbyte => hdigit byte (hrun.digit byte hbyte), hunit _ _ hscale, ih⟩

/-- So are their characters. -/
theorem Components.chars_ascii {last : Option ℕ} {s : Str}
    (h : Components (Admitted allowZero) charScale last s) : ∀ c ∈ s, c.toNat < 128 := by
  have hdigit : ∀ c : Char, c.isDigit = true → c.toNat < 128 := by
    intro c hc
    have hrange := DecimalNumerals.toNat_of_isDigit hc
    omega
  have hunit : ∀ c k, charScale c = some k → c.toNat < 128 := by
    intro c k hscale
    unfold charScale at hscale
    split_ifs at hscale with hhours hminutes hseconds
    · rw [hhours]
      decide
    · rw [hminutes]
      decide
    · rw [hseconds]
      decide
  induction h with
  | done =>
    intro c hc
    cases hc
  | more hrun hscale hlast hrest ih =>
    simp only [List.forall_mem_append, List.forall_mem_cons]
    exact ⟨fun c hc => hdigit c (hrun.digit c hc), hunit _ _ hscale, ih⟩

/-- The scanner accepts a text exactly when its characters are components. -/
theorem validateDurationString_iff_components {value : Str} :
    validateDurationString value allowZero = true ↔
      value ≠ [] ∧ Components (Admitted allowZero) charScale none value := by
  unfold validateDurationString
  split_ifs with hnil
  · simp [hnil]
  rw [validateComponents_iff (Nat.zero_le _), List.drop_zero, and_iff_right hnil]
  by_cases hascii : isAscii value = true
  · rw [asBytes_eq_map hascii, components_map_iff (isAscii_iff.mp hascii)]
  · refine iff_of_false (fun h => hascii ?_) fun h => hascii ?_
    · exact List.all_eq_true.mpr fun byte hbyte => decide_eq_true (h.ascii byte hbyte)
    · exact isAscii_iff.mpr h.chars_ascii

/-! ## Hours, minutes, seconds -/

theorem part_iff {unit : Char} {part : Str} {k : ℕ}
    (hunit : ∀ c, charScale c = some k ↔ c = unit) :
    (part = [] ∨ ∃ digits c, Admitted allowZero digits ∧ charScale c = some k ∧
        part = digits ++ [c]) ↔ Part allowZero unit part := by
  constructor
  · rintro (rfl | ⟨digits, c, hdigits, hc, rfl⟩)
    · exact .absent
    · obtain rfl := (hunit c).mp hc
      exact .component hdigits
  · intro h
    cases h with
    | absent => exact .inl rfl
    | component hdigits => exact .inr ⟨_, unit, hdigits, (hunit unit).mpr rfl, rfl⟩

/-- Nothing follows the seconds. -/
theorem components_seconds_iff {s : Str} :
    Components (Admitted allowZero) charScale (some 2) s ↔ s = [] := by
  constructor
  · intro h
    cases h with
    | done => rfl
    | more hrun hscale hlast hrest =>
      have hlt := hlast 2 rfl
      unfold charScale at hscale
      split_ifs at hscale
      · cases hscale
        omega
      · cases hscale
        omega
      · cases hscale
        omega
  · rintro rfl
    exact .done

theorem forall_mem_some_lt_iff {k j : ℕ} : (∀ previous ∈ some k, previous < j) ↔ k + 1 ≤ j := by
  constructor
  · intro h
    exact h k rfl
  · rintro h previous ⟨⟩
    exact h

theorem components_iff_parts {s : Str} :
    Components (Admitted allowZero) charScale none s ↔
      ∃ hours minutes seconds, Part allowZero 'h' hours ∧ Part allowZero 'm' minutes ∧
        Part allowZero 's' seconds ∧ s = hours ++ minutes ++ seconds := by
  have hhours : ∀ c, charScale c = some 0 ↔ c = 'h' := by
    intro c
    unfold charScale
    split_ifs <;> simp_all
  have hminutes : ∀ c, charScale c = some 1 ↔ c = 'm' := by
    intro c
    unfold charScale
    split_ifs <;> simp_all
  have hseconds : ∀ c, charScale c = some 2 ↔ c = 's' := by
    intro c
    unfold charScale
    split_ifs <;> simp_all
  have hpeelHours := fun s => @components_peel _ (Admitted allowZero) charScale none s 0 (by simp)
  have hpeelMinutes := fun s => @components_peel _ (Admitted allowZero) charScale (some 0) s 1
    fun _ => forall_mem_some_lt_iff
  have hpeelSeconds := fun s => @components_peel _ (Admitted allowZero) charScale (some 1) s 2
    fun _ => forall_mem_some_lt_iff
  simp only [part_iff hhours] at hpeelHours
  simp only [part_iff hminutes] at hpeelMinutes
  simp only [part_iff hseconds, components_seconds_iff] at hpeelSeconds
  rw [hpeelHours]
  constructor
  · rintro ⟨hours, afterHours, hhoursPart, hafterHours, rfl⟩
    obtain ⟨minutes, afterMinutes, hminutesPart, hafterMinutes, rfl⟩ :=
      (hpeelMinutes _).mp hafterHours
    obtain ⟨seconds, _, hsecondsPart, rfl, rfl⟩ := (hpeelSeconds _).mp hafterMinutes
    exact ⟨hours, minutes, seconds, hhoursPart, hminutesPart, hsecondsPart, by simp⟩
  · rintro ⟨hours, minutes, seconds, hhoursPart, hminutesPart, hsecondsPart, rfl⟩
    refine ⟨hours, minutes ++ seconds, hhoursPart, (hpeelMinutes _).mpr ?_, by simp⟩
    refine ⟨minutes, seconds, hminutesPart, (hpeelSeconds _).mpr ?_, rfl⟩
    exact ⟨seconds, [], hsecondsPart, rfl, by simp⟩

theorem validateDurationString_iff {value : Str} :
    validateDurationString value allowZero = true ↔ IsDuration allowZero value := by
  rw [validateDurationString_iff_components, components_iff_parts]
  exact ⟨fun h => ⟨h.1, h.2⟩, fun h => ⟨h.nonempty, h.parts⟩⟩

/-! ## The scan with operations that may panic -/

/-- The loop of `parse_duration_component`. -/
def runDigits : ℕ → Bytes → Option (Option ℕ)
  | component, [] => some (some component)
  | component, digit :: rest =>
    if !isAsciiDigit digit then some none
    else (sub digit.toNat 0x30).bind fun value =>
      match (checked (component * 10)).bind fun tens => checked (tens + value) with
      | none => some none
      | some component =>
        if maxDurationComponent < component then some none else runDigits component rest

def runDurationComponent (digits : Bytes) : Option (Option ℕ) :=
  if digits = [] then some none else runDigits 0 digits

/-- The digit loop, within a number of rounds. -/
def skipDigits (bytes : Bytes) : ℕ → ℕ → Option ℕ
  | 0, _ => none
  | rounds + 1, index =>
    if index < bytes.length then
      (read bytes index).bind fun byte =>
        if isAsciiDigit byte then (add bytes.length index 1).bind (skipDigits bytes rounds)
        else some index
    else some index

/-- The component loop, within a number of rounds. The length of the text, which is a `usize`,
bounds the index. -/
def runComponents (bytes : Bytes) (allowZero : Bool) : ℕ → ℕ → Option ℕ → Option Bool
  | 0, _, _ => none
  | rounds + 1, index, last =>
    if index < bytes.length then
      (skipDigits bytes (rounds + 1) index).bind fun stop =>
        if index = stop then some false
        else (slice bytes index stop).bind fun digits =>
          (runDurationComponent digits).bind fun
            | none => some false
            | some component =>
              if maxDurationComponent < component then some false
              else if !allowZero && component == 0 then some false
              else if bytes.length ≤ stop then some false
              else (read bytes stop).bind fun unit =>
                match unitScale unit with
                | none => some false
                | some scale =>
                  if last.any (scale ≤ ·) then some false
                  else (add bytes.length stop 1).bind fun next =>
                    runComponents bytes allowZero rounds next (some scale)
    else some true

def runDurationString (rounds : ℕ) (value : Str) (allowZero : Bool) : Option Bool :=
  if value = [] then some false else runComponents (asBytes value) allowZero rounds 0 none

theorem runDigits_eq (component : ℕ) (digits : Bytes) :
    runDigits component digits = some (parseDigits component digits) := by
  induction digits generalizing component with
  | nil => rfl
  | cons digit rest ih =>
    rw [runDigits, parseDigits]
    split_ifs with hdigit
    · rfl
    have hle : (0x30 : UInt8) ≤ digit := by
      simp only [isAsciiDigit, Bool.not_eq_true', Bool.not_eq_false, Bool.and_eq_true,
        decide_eq_true_eq] at hdigit
      exact hdigit.1
    have hvalue : (digit - 0x30).toNat = digit.toNat - 0x30 := UInt8.toNat_sub_of_le _ _ hle
    have hle : 0x30 ≤ digit.toNat := UInt8.le_iff_toNat_le.mp hle
    rw [sub_of_le hle, Option.bind_some, hvalue, ← Option.bind_assoc]
    cases (checked (component * 10)).bind fun tens => checked (tens + (digit.toNat - 0x30)) with
    | none => rfl
    | some component =>
      dsimp only [Option.bind_some]
      split_ifs with hlarge
      · rfl
      · exact ih component

theorem runDurationComponent_eq (digits : Bytes) :
    runDurationComponent digits = some (parseDurationComponent digits) := by
  unfold runDurationComponent parseDurationComponent
  split_ifs
  · rfl
  · exact runDigits_eq 0 digits

theorem skipDigits_eq {rounds index : ℕ} (h : bytes.length - index < rounds)
    (hindex : index ≤ bytes.length) :
    skipDigits bytes rounds index = some (advanceWhile isAsciiDigit bytes index) := by
  induction rounds generalizing index with
  | zero => omega
  | succ rounds ih =>
    rw [skipDigits, advanceWhile]
    split_ifs with hlt
    · rw [read_of_lt hlt, Option.bind_some, List.getElem?_eq_getElem hlt]
      dsimp only
      split_ifs with hdigit
      · rw [add_of_le (by omega), Option.bind_some]
        exact ih (by omega) (by omega)
      · rfl
    · rw [List.getElem?_eq_none (by omega)]

/-- Within its rounds the loop ends with the verdict of the scanner: nothing panics. -/
theorem runComponents_eq {rounds index : ℕ} {last : Option ℕ}
    (h : bytes.length - index < rounds) (hindex : index ≤ bytes.length) :
    runComponents bytes allowZero rounds index last =
      some (validateComponents bytes allowZero index last) := by
  induction rounds generalizing index last with
  | zero => omega
  | succ rounds ih =>
    rw [runComponents, validateComponents]
    by_cases hlt : index < bytes.length
    · have hle := le_advanceWhile isAsciiDigit bytes index
      have hstop := advanceWhile_le isAsciiDigit hindex
      rw [if_pos hlt, dif_pos hlt, skipDigits_eq h hindex, Option.bind_some]
      dsimp only
      by_cases hempty : index = advanceWhile isAsciiDigit bytes index
      · rw [if_pos hempty, if_pos hempty]
      rw [if_neg hempty, if_neg hempty, slice_of_le hle hstop, Option.bind_some,
        runDurationComponent_eq, Option.bind_some]
      cases parseDurationComponent ((bytes.drop index).take
          (advanceWhile isAsciiDigit bytes index - index)) with
      | none => rfl
      | some component =>
        dsimp only
        by_cases hlarge : maxDurationComponent < component
        · rw [if_pos hlarge, if_pos hlarge]
        by_cases hzero : (!allowZero && component == 0) = true
        · rw [if_neg hlarge, if_neg hlarge, if_pos hzero, if_pos hzero]
        rw [if_neg hlarge, if_neg hlarge, if_neg hzero, if_neg hzero]
        by_cases hend : bytes.length ≤ advanceWhile isAsciiDigit bytes index
        · rw [if_pos hend, List.getElem?_eq_none hend]
          rfl
        rw [if_neg hend, read_of_lt (by omega), List.getElem?_eq_getElem (by omega),
          Option.bind_some, Option.bind_some]
        cases unitScale _ with
        | none => rfl
        | some scale =>
          dsimp only
          by_cases hlast : last.any (scale ≤ ·) = true
          · rw [if_pos hlast, if_pos hlast]
          · rw [if_neg hlast, if_neg hlast, add_of_le (by omega), Option.bind_some]
            exact ih (by omega) (by omega)
    · rw [if_neg hlt, dif_neg hlt]

/-- The scanner accepts exactly the durations, and its loops end without a panic on every
text. -/
theorem durationGrammar :
    (∀ value allowZero, validateDurationString value allowZero = true ↔
      IsDuration allowZero value) ∧
    ∀ value allowZero, runDurationString (byteLen value + 1) value allowZero =
      some (validateDurationString value allowZero) := by
  refine ⟨fun _ _ => validateDurationString_iff, fun value allowZero => ?_⟩
  unfold runDurationString validateDurationString
  split_ifs
  · rfl
  · exact runComponents_eq (Nat.lt_succ_of_le (Nat.sub_le _ _)) (Nat.zero_le _)

end OpenBao.DurationText
