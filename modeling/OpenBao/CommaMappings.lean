import OpenBao.ClientErrors
import OpenBao.PanickingOperations
import OpenBao.Utf8Text

/-!
# Comma-separated mappings

Policy and group names are sent as one text. Names are only tested for being blank, while
the readers of such a text trim every piece: the names come back as they were sent exactly
when none of them has white space at its ends.
-/

namespace OpenBao.CommaMappings
open DelimitedLists PanickingOperations Utf8Text

def maxMappingItems : ℕ := 4096
def maxMappingBytes : ℕ := 1024 * 1024
def maxResponseStrings : ℕ := 4096

def validateName (value : Str) (field : String) : Except Error Unit :=
  if maxMappingBytes < byteLen value then
    .error (.invalidParameter (field ++ " exceeds the byte limit"))
  else if (trim value).isEmpty || value.contains ',' || (asBytes value).any isAsciiControl then
    .error (.invalidParameter (field ++ " contains an invalid name"))
  else .ok ()

/-- The length loop, whose addition is checked. -/
def addLengths (field : String) : ℕ → List Str → Except Error ℕ
  | length, [] => .ok length
  | length, value :: rest =>
    match (add usizeMax length (byteLen value)).filter (· ≤ maxMappingBytes) with
    | none => .error (.invalidParameter (field ++ " exceeds the byte limit"))
    | some length => addLengths field length rest

def validateNames (field : String) : List Str → Except Error Unit
  | [] => .ok ()
  | value :: rest => validateName value field >>= fun _ => validateNames field rest

def encodedLength (values : List Str) (field : String) : Except Error ℕ :=
  if maxMappingItems < values.length then
    .error (.invalidParameter (field ++ " exceeds the item limit"))
  else addLengths field (values.length - 1) values >>= fun length =>
    validateNames field values >>= fun _ => .ok length

/-- The loop that writes the names from an index on. -/
def pushValues : ℕ → Str → List Str → Str
  | _, output, [] => output
  | index, output, value :: rest =>
    pushValues (index + 1) ((if index != 0 then output ++ [','] else output) ++ value) rest

/-- The allocator grants an exact capacity, or the names are rejected. -/
def encodeValues (reserves : ℕ → Bool) (values : List Str) (field : String) : Except Error Str :=
  encodedLength values field >>= fun length =>
    if reserves length then .ok (pushValues 0 [] values)
    else .error (.invalidParameter (field ++ " allocation failed"))

/-- `StringOrListVisitor::visit_str`. -/
def visitStr (maximum : ℕ) (value : Str) : Except String (List Str) :=
  if (trim value).isEmpty then .ok []
  else
    let values := ((value.splitOn ',').map trim).filter fun part => !part.isEmpty
    if maximum < values.length then .error "OpenBao string list exceeds item limit"
    else .ok values

variable {values : List Str} {value encoded : Str} {field : String} {length n : ℕ}
variable {reserves : ℕ → Bool}

/-! ## The length and the text -/

/-- A name that is accepted. -/
structure ValidName (value : Str) : Prop where
  bounded : byteLen value ≤ maxMappingBytes
  notBlank : trim value ≠ []
  noComma : ',' ∉ value
  noControl : ∀ byte ∈ asBytes value, isAsciiControl byte = false

theorem validateName_eq_ok_iff : validateName value field = .ok () ↔ ValidName value := by
  unfold validateName
  split_ifs with hlong hinvalid
  · exact iff_of_false (fun h => nomatch h) fun h => by
      have := h.bounded
      omega
  · refine iff_of_false (fun h => nomatch h) fun h => ?_
    simp only [Bool.or_eq_true, List.isEmpty_iff, List.contains_iff_mem, List.any_eq_true] at hinvalid
    rcases hinvalid with (hblank | hcomma) | ⟨byte, hbyte, hcontrol⟩
    · exact h.notBlank hblank
    · exact h.noComma hcomma
    · rw [h.noControl byte hbyte] at hcontrol
      cases hcontrol
  · simp only [Bool.or_eq_true, List.isEmpty_iff, List.contains_iff_mem, not_or,
      Bool.not_eq_true, List.any_eq_false] at hinvalid
    exact iff_of_true rfl ⟨by omega, hinvalid.1.1, hinvalid.1.2, hinvalid.2⟩

theorem validateNames_eq_ok_iff :
    validateNames field values = .ok () ↔ ∀ value ∈ values, ValidName value := by
  induction values with
  | nil => exact iff_of_true rfl fun _ h => nomatch h
  | cons value rest ih =>
    rw [validateNames, bind_eq_ok_iff, List.forall_mem_cons, ← ih]
    constructor
    · rintro ⟨_, hvalue, hrest⟩
      exact ⟨validateName_eq_ok_iff.mp hvalue, hrest⟩
    · rintro ⟨hvalue, hrest⟩
      exact ⟨(), validateName_eq_ok_iff.mpr hvalue, hrest⟩

/-- The loop yields the exact sum, whenever that is within the limit. -/
theorem addLengths_eq_ok_iff (h : length ≤ maxMappingBytes) :
    addLengths field length values = .ok n ↔
      n = length + (values.map byteLen).sum ∧ n ≤ maxMappingBytes := by
  induction values generalizing length with
  | nil =>
    rw [addLengths, Except.ok.injEq, List.map_nil, List.sum_nil, Nat.add_zero]
    constructor
    · rintro rfl
      exact ⟨rfl, h⟩
    · exact fun hn => hn.1.symm
  | cons value rest ih =>
    rw [addLengths, List.map_cons, List.sum_cons, ← Nat.add_assoc]
    by_cases hsum : length + byteLen value ≤ maxMappingBytes
    · have hfits : length + byteLen value ≤ usizeMax := by
        have hlimit : maxMappingBytes ≤ usizeMax := by decide
        omega
      rw [add_of_le hfits, Option.filter_some, if_pos (decide_eq_true hsum)]
      exact ih hsum
    · have hnone : (add usizeMax length (byteLen value)).filter (· ≤ maxMappingBytes) = none := by
        unfold add
        split_ifs
        · rw [Option.filter_some, if_neg (by simpa using hsum)]
        · rfl
      rw [hnone]
      refine iff_of_false (fun h => nomatch h) fun hn => ?_
      omega

theorem encodedLength_eq_ok_iff :
    encodedLength values field = .ok n ↔
      values.length ≤ maxMappingItems ∧ n = values.length - 1 + (values.map byteLen).sum ∧
        n ≤ maxMappingBytes ∧ ∀ value ∈ values, ValidName value := by
  unfold encodedLength
  split_ifs with hmany
  · exact iff_of_false (fun h => nomatch h) fun h => by omega
  · have hstart : values.length - 1 ≤ maxMappingBytes := by
      unfold maxMappingItems at hmany
      unfold maxMappingBytes
      omega
    rw [bind_eq_ok_iff, and_iff_right (Nat.le_of_not_lt hmany)]
    constructor
    · rintro ⟨length, hlength, hrest⟩
      obtain ⟨_, hnames, hn⟩ := bind_eq_ok_iff.mp hrest
      obtain rfl := Except.ok.inj hn
      obtain ⟨hsum, hbound⟩ := (addLengths_eq_ok_iff hstart).mp hlength
      exact ⟨hsum, hbound, validateNames_eq_ok_iff.mp hnames⟩
    · rintro ⟨hsum, hbound, hnames⟩
      refine ⟨n, (addLengths_eq_ok_iff hstart).mpr ⟨hsum, hbound⟩, ?_⟩
      exact bind_eq_ok_iff.mpr ⟨(), validateNames_eq_ok_iff.mpr hnames, rfl⟩

theorem pushValues_succ (index : ℕ) (output : Str) (values : List Str) :
    pushValues (index + 1) output values = output ++ values.flatMap fun value => ',' :: value := by
  induction values generalizing index output with
  | nil => rw [pushValues, List.flatMap_nil, List.append_nil]
  | cons value rest ih =>
    rw [pushValues, ih, List.flatMap_cons]
    simp

theorem join_cons_cons (value next : Str) (rest : List Str) :
    join ',' (value :: next :: rest) = value ++ ',' :: join ',' (next :: rest) := by
  simp [join]

/-- The names are joined by commas. -/
theorem pushValues_eq_join (values : List Str) : pushValues 0 [] values = join ',' values := by
  cases values with
  | nil => rfl
  | cons value rest =>
    have hjoin : ∀ (value : Str) (rest : List Str),
        join ',' (value :: rest) = value ++ rest.flatMap fun value => ',' :: value := by
      intro value rest
      induction rest generalizing value with
      | nil => simp [join]
      | cons next rest ih =>
        rw [join_cons_cons, ih, List.flatMap_cons, List.cons_append]
    rw [pushValues, pushValues_succ, hjoin]
    rfl

theorem encodeValues_eq_ok_iff :
    encodeValues reserves values field = .ok encoded ↔
      ∃ n, encodedLength values field = .ok n ∧ reserves n = true ∧ encoded = join ',' values := by
  rw [encodeValues, bind_eq_ok_iff, pushValues_eq_join]
  refine exists_congr fun n => and_congr_right fun _ => ?_
  split_ifs with hreserves
  · rw [Except.ok.injEq, and_iff_right hreserves, eq_comm]
  · exact iff_of_false (fun h => nomatch h) fun h => hreserves h.1

/-! ## Reading the text back -/

theorem byteLen_join (values : List Str) :
    byteLen (join ',' values) = values.length - 1 + (values.map byteLen).sum := by
  induction values with
  | nil => rfl
  | cons value rest ih =>
    cases rest with
    | nil => simp [join]
    | cons next rest =>
      have hcomma : byteLen (',' :: join ',' (next :: rest)) = 1 + byteLen (join ',' (next :: rest)) :=
        byteLen_append [','] _
      rw [join_cons_cons, byteLen_append, hcomma, ih]
      simp only [List.map_cons, List.sum_cons, List.length_cons]
      omega

/-- Some character of the text is not trimmed away. -/
theorem trim_ne_nil_iff : trim value ≠ [] ↔ ∃ c ∈ value, isWhitespace c = false := by
  constructor
  · intro h
    by_contra hall
    push Not at hall
    apply h
    have hdrop : value.dropWhile isWhitespace = [] := by
      rw [List.dropWhile_eq_nil_iff]
      intro c hc
      simpa using hall c hc
    rw [trim, trimMatches, hdrop]
    rfl
  · rintro ⟨c, hc, hplain⟩
    exact List.ne_nil_of_mem (mem_trimMatches hc hplain)

/-- Reading a text of accepted names gives them trimmed. -/
theorem visitStr_join {maximum : ℕ} (hnames : ∀ value ∈ values, ValidName value)
    (hcount : values.length ≤ maximum) :
    visitStr maximum (join ',' values) = .ok (values.map trim) := by
  unfold visitStr
  by_cases hempty : values = []
  · subst hempty
    rfl
  have hcommas : ∀ value ∈ values, ',' ∉ value := fun value hvalue => (hnames value hvalue).noComma
  have hsplit : (join ',' values).splitOn ',' = values := List.splitOn_intercalate ',' hcommas hempty
  have hkept : (values.map trim).filter (fun part => !part.isEmpty) = values.map trim := by
    apply List.filter_eq_self.mpr
    intro part hpart
    obtain ⟨value, hvalue, rfl⟩ := List.mem_map.mp hpart
    simpa using (hnames value hvalue).notBlank
  have hplain : trim (join ',' values) ≠ [] := by
    obtain ⟨value, hvalue⟩ := List.exists_mem_of_ne_nil values hempty
    obtain ⟨c, hc, hplain⟩ := trim_ne_nil_iff.mp (hnames value hvalue).notBlank
    exact trim_ne_nil_iff.mpr ⟨c, mem_intercalate_iff.mpr (.inl ⟨value, hvalue, hc⟩), hplain⟩
  rw [if_neg (by simpa using hplain)]
  dsimp only
  rw [hsplit, hkept, List.length_map, if_neg (by omega)]

/-- The text carries the names: it reads back as they were, and its length is the one that was
computed for it and bounded. -/
structure Lossless (values : List Str) (field : String) (encoded : Str) : Prop where
  read : visitStr maxResponseStrings encoded = .ok values
  length : encodedLength values field = .ok (byteLen encoded)
  exact : byteLen encoded = values.length - 1 + (values.map byteLen).sum
  bounded : byteLen encoded ≤ maxMappingBytes

/-- An encoding is lossless exactly when no name has white space at its ends. What is read
back from it are the trimmed names, and its length is the computed one in any case. -/
theorem lossless_iff (h : encodeValues reserves values field = .ok encoded) :
    (Lossless values field encoded ↔ ∀ value ∈ values, trim value = value) ∧
      visitStr maxResponseStrings encoded = .ok (values.map trim) ∧
      encodedLength values field = .ok (byteLen encoded) := by
  obtain ⟨n, hlength, -, rfl⟩ := encodeValues_eq_ok_iff.mp h
  obtain ⟨hcount, hsum, hbound, hnames⟩ := encodedLength_eq_ok_iff.mp hlength
  have hexact := byteLen_join values
  obtain rfl : n = byteLen (join ',' values) := by omega
  have hread : visitStr maxResponseStrings (join ',' values) = .ok (values.map trim) :=
    visitStr_join hnames hcount
  refine ⟨⟨fun hlossless => ?_, fun htrimmed => ?_⟩, hread, hlength⟩
  · have heq := hlossless.read
    rw [hread, Except.ok.injEq] at heq
    exact List.map_inj_left.mp (heq.trans (List.map_id values).symm)
  · have heq : values.map trim = values :=
      (List.map_inj_left.mpr htrimmed).trans (List.map_id values)
    rw [heq] at hread
    exact ⟨hread, hlength, hexact, hbound⟩

/-- Names with inner white space and beyond ASCII. -/
theorem lossless_iff_teams :
    (Lossless ["reader".toList, "Team A".toList, "équipe".toList] "LDAP policies"
        "reader,Team A,équipe".toList ↔
      ∀ value ∈ ["reader".toList, "Team A".toList, "équipe".toList], trim value = value) ∧
    visitStr maxResponseStrings "reader,Team A,équipe".toList =
      .ok (["reader".toList, "Team A".toList, "équipe".toList].map trim) ∧
    encodedLength ["reader".toList, "Team A".toList, "équipe".toList] "LDAP policies" =
      .ok (byteLen "reader,Team A,équipe".toList) := by
  refine @lossless_iff _ _ _ (fun _ => true) ?_
  decide +kernel

/-- A leading blank is accepted, and lost. -/
theorem not_lossless_leading_blank :
    encodeValues (fun _ => true) [" root".toList] "LDAP policies" = .ok " root".toList ∧
      visitStr maxResponseStrings " root".toList = .ok ["root".toList] ∧
      ¬ Lossless [" root".toList] "LDAP policies" " root".toList := by
  have hread : visitStr maxResponseStrings " root".toList = .ok ["root".toList] := by decide +kernel
  refine ⟨by decide +kernel, hread, fun h => ?_⟩
  have heq := h.read
  rw [hread] at heq
  revert heq
  decide

end OpenBao.CommaMappings
