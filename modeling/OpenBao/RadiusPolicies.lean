import OpenBao.CommaMappings
import OpenBao.JsonTrees

/-!
# Policies of RADIUS users

A server answers the policies of a user as an array of names or, as older servers do, as one
text with commas. The client keeps one text in both cases and takes exactly the mappings that
it could have written itself.
-/

namespace OpenBao.RadiusPolicies
open CommaMappings JsonTrees Utf8Text

/-- An error with the text of the source, or of the JSON library for a value of another type. -/
inductive ReadError where
  | custom (text : String)
  | invalidType (expecting : String)
  deriving DecidableEq, Repr

/-- The loop of `visit_str` over the pieces from an index on. -/
def visitPieces : ℕ → List Str → Except ReadError Unit
  | _, [] => .ok ()
  | index, policy :: policies =>
    if maxResponseStrings ≤ index then .error (.custom "RADIUS policy response exceeds item limit")
    else
      match validateName policy "RADIUS" with
      | .error _ => .error (.custom "invalid RADIUS policy response")
      | .ok _ => visitPieces (index + 1) policies

def visitText (value : Str) : Except ReadError Str :=
  if maxMappingBytes < byteLen value then
    .error (.custom "RADIUS policy response exceeds byte limit")
  else if value.isEmpty then .ok value
  else (visitPieces 0 (value.splitOn ',')).map fun _ => value

section

variable {S N : Type}

/-- The loop of `visit_seq` with the text so far. No sum comes near to the saturation of its
addition, since every name has been bounded before. -/
def visitSeq : ℕ → Str → List (Json S N) → Except ReadError Str
  | _, output, [] => .ok output
  | index, output, item :: items =>
    if index < maxResponseStrings then
      match item with
      | .string _ policy =>
        match validateName policy "RADIUS" with
        | .error _ => .error (.custom "invalid RADIUS policy response")
        | .ok _ =>
          let separator := if index != 0 then [','] else []
          if maxMappingBytes < byteLen output + separator.length + byteLen policy then
            .error (.custom "RADIUS policy response exceeds byte limit")
          else visitSeq (index + 1) (output ++ separator ++ policy) items
      | _ => .error (.invalidType "a string")
    else .error (.custom "RADIUS policy response exceeds item limit")

/-- `deserialize_radius_policies`. -/
def readPolicies : Json S N → Except ReadError Str
  | .null _ => .ok []
  | .string _ value => visitText value
  | .array _ items => visitSeq 0 [] items
  | _ => .error (.invalidType "a bounded policy string or string array")

def IsText (item : Json S N) (text : Str) : Prop := ∃ s, item = .string s text

/-- The names in a text. -/
def pieces (text : Str) : List Str := if text = [] then [] else text.splitOn ','

/-- The policies that an answer says. -/
def Policies : Json S N → List Str → Prop
  | .null _, values => values = []
  | .string _ text, values => values = pieces text
  | .array _ items, values => List.Forall₂ IsText items values
  | _, _ => False

/-- Names that a request may carry. -/
def Writable (values : List Str) (field : String) : Prop := ∃ n, encodedLength values field = .ok n

end

section Reading

variable {S N : Type} {values : List Str} {text : Str} {field : String}

theorem writable_iff : Writable values field ↔ values.length ≤ maxMappingItems ∧
    byteLen (join ',' values) ≤ maxMappingBytes ∧ ∀ value ∈ values, ValidName value := by
  unfold Writable
  simp only [encodedLength_eq_ok_iff, ← byteLen_join]
  constructor
  · rintro ⟨n, hcount, rfl, hbytes, hnames⟩
    exact ⟨hcount, hbytes, hnames⟩
  · rintro ⟨hcount, hbytes, hnames⟩
    exact ⟨_, hcount, rfl, hbytes, hnames⟩

theorem visitPieces_eq_ok_iff {index : ℕ} {policies : List Str} (hindex : index ≤ maxResponseStrings) :
    visitPieces index policies = .ok () ↔
      index + policies.length ≤ maxResponseStrings ∧ ∀ policy ∈ policies, ValidName policy := by
  induction policies generalizing index with
  | nil => simp [visitPieces, hindex]
  | cons policy policies ih =>
    rw [visitPieces, List.length_cons, List.forall_mem_cons]
    by_cases hroom : maxResponseStrings ≤ index
    · rw [if_pos hroom]
      exact iff_of_false (by intro h; cases h) fun h => by omega
    · rw [if_neg hroom, ← @validateName_eq_ok_iff policy "RADIUS"]
      cases validateName policy "RADIUS" with
      | error e => simp
      | ok _ =>
        dsimp only
        rw [ih (by omega), Nat.add_assoc, Nat.add_comm 1]
        simp

theorem join_pieces (text : Str) : join ',' (pieces text) = text := by
  unfold pieces
  split
  · next hempty =>
    rw [hempty]
    rfl
  · exact List.intercalate_splitOn ','

theorem visitText_eq_ok_iff {value : Str} :
    visitText value = .ok text ↔ Writable (pieces value) field ∧ text = value := by
  rw [writable_iff, join_pieces]
  unfold visitText pieces
  by_cases hlong : maxMappingBytes < byteLen value
  · rw [if_pos hlong]
    exact iff_of_false (by intro h; cases h) fun h => by omega
  · rw [if_neg hlong]
    by_cases hempty : value = []
    · rw [if_pos (by rw [hempty]; rfl), if_pos hempty, Except.ok.injEq]
      simpa [Nat.le_of_not_lt hlong] using eq_comm
    · rw [if_neg (by simpa using hempty), if_neg hempty]
      have hpieces := @visitPieces_eq_ok_iff 0 (value.splitOn ',') (Nat.zero_le _)
      rw [Nat.zero_add] at hpieces
      cases hvisit : visitPieces 0 (value.splitOn ',') with
      | error e =>
        refine iff_of_false (by intro h; cases h) fun h => ?_
        rw [hpieces.mpr ⟨h.1.1, h.1.2.2⟩] at hvisit
        cases hvisit
      | ok _ =>
        obtain ⟨hcount, hnames⟩ := hpieces.mp hvisit
        rw [and_iff_right ⟨hcount, Nat.le_of_not_lt hlong, hnames⟩]
        change Except.ok value = .ok text ↔ text = value
        rw [Except.ok.injEq]
        exact eq_comm

theorem byteLen_pushValues (index : ℕ) (output : Str) (values : List Str) :
    byteLen output ≤ byteLen (pushValues index output values) := by
  induction values generalizing index output with
  | nil => exact le_rfl
  | cons value values ih =>
    rw [pushValues]
    refine le_trans ?_ (ih _ _)
    split
    · rw [byteLen_append, byteLen_append]
      omega
    · rw [byteLen_append]
      omega

/-- Where the separator is added makes no difference. -/
theorem pushed_eq (index : ℕ) (output policy : Str) :
    output ++ (if index != 0 then [','] else []) ++ policy =
      (if index != 0 then output ++ [','] else output) ++ policy := by
  split
  · rfl
  · rw [List.append_nil]

theorem visitSeq_string (index : ℕ) (output : Str) (s : S) (policy : Str) (items : List (Json S N))
    (hindex : index < maxResponseStrings) :
    visitSeq index output (.string s policy :: items) = .ok text ↔ ValidName policy ∧
      byteLen ((if index != 0 then output ++ [','] else output) ++ policy) ≤ maxMappingBytes ∧
      visitSeq (index + 1) ((if index != 0 then output ++ [','] else output) ++ policy) items =
        .ok text := by
  have hlength : byteLen output + (if index != 0 then [','] else []).length + byteLen policy =
      byteLen ((if index != 0 then output ++ [','] else output) ++ policy) := by
    rw [← pushed_eq, byteLen_append, byteLen_append]
    split <;> rfl
  rw [visitSeq, if_pos hindex, ← @validateName_eq_ok_iff policy "RADIUS"]
  dsimp only
  cases validateName policy "RADIUS" with
  | error e => simp
  | ok _ =>
    dsimp only
    rw [hlength, pushed_eq, and_iff_right rfl]
    by_cases hlong :
        maxMappingBytes < byteLen ((if index != 0 then output ++ [','] else output) ++ policy)
    · rw [if_pos hlong]
      exact iff_of_false (by intro h; cases h) fun h => by omega
    · rw [if_neg hlong, and_iff_right (Nat.le_of_not_lt hlong)]

/-- The loop writes what a request of the same names would carry. -/
theorem visitSeq_eq_ok_iff {index : ℕ} {output : Str} {items : List (Json S N)}
    (hindex : index ≤ maxResponseStrings) (houtput : byteLen output ≤ maxMappingBytes) :
    visitSeq index output items = .ok text ↔ ∃ values, List.Forall₂ IsText items values ∧
      index + values.length ≤ maxResponseStrings ∧ (∀ value ∈ values, ValidName value) ∧
      byteLen text ≤ maxMappingBytes ∧ text = pushValues index output values := by
  induction items generalizing index output with
  | nil =>
    constructor
    · intro h
      obtain rfl := Except.ok.inj h
      exact ⟨[], .nil, hindex, by simp, houtput, rfl⟩
    · rintro ⟨values, hvalues, -, -, -, rfl⟩
      obtain rfl := List.forall₂_nil_left_iff.mp hvalues
      rfl
  | cons item items ih =>
    by_cases hroom : index < maxResponseStrings
    · constructor
      · intro h
        cases item with
        | string s policy =>
          obtain ⟨hname, hbytes, hrest⟩ := (visitSeq_string index output s policy items hroom).mp h
          obtain ⟨values, hvalues, hcount, hnames, hfits, rfl⟩ := (ih hroom hbytes).mp hrest
          refine ⟨policy :: values, .cons ⟨s, rfl⟩ hvalues, ?_, ?_, hfits, rfl⟩
          · rw [List.length_cons]
            omega
          · exact List.forall_mem_cons.mpr ⟨hname, hnames⟩
        | null | bool | number | array | object => simp [visitSeq, hroom] at h
      · rintro ⟨values, hvalues, hcount, hnames, hfits, rfl⟩
        obtain ⟨policy, rest, ⟨s, rfl⟩, hrest, rfl⟩ := List.forall₂_cons_left_iff.mp hvalues
        obtain ⟨hname, hnames⟩ := List.forall_mem_cons.mp hnames
        rw [List.length_cons] at hcount
        rw [pushValues] at hfits ⊢
        have hbytes := (byteLen_pushValues (index + 1) _ rest).trans hfits
        refine (visitSeq_string index output s policy items hroom).mpr ⟨hname, hbytes, ?_⟩
        exact (ih hroom hbytes).mpr ⟨rest, hrest, by omega, hnames, hfits, rfl⟩
    · refine iff_of_false (fun h => ?_) ?_
      · unfold visitSeq at h
        rw [if_neg hroom] at h
        cases h
      · rintro ⟨values, hvalues, hcount, -⟩
        obtain ⟨policy, rest, -, -, rfl⟩ := List.forall₂_cons_left_iff.mp hvalues
        rw [List.length_cons] at hcount
        omega

theorem readPolicies_eq_ok_iff {document : Json S N} :
    readPolicies document = .ok text ↔
      ∃ values, Policies document values ∧ Writable values field ∧ text = join ',' values := by
  cases document with
  | null s =>
    have hnil : Writable [] field := writable_iff.mpr ⟨Nat.zero_le _, Nat.zero_le _, by simp⟩
    simp [readPolicies, Policies, hnil, join, eq_comm]
  | string s value =>
    simp only [readPolicies, Policies, exists_eq_left, join_pieces]
    exact visitText_eq_ok_iff
  | array s items =>
    simp only [readPolicies, Policies, writable_iff]
    rw [visitSeq_eq_ok_iff (Nat.zero_le _) (Nat.zero_le _)]
    refine exists_congr fun values => and_congr_right fun _ => ?_
    rw [Nat.zero_add, pushValues_eq_join]
    constructor
    · rintro ⟨hcount, hnames, hfits, rfl⟩
      exact ⟨⟨hcount, hfits, hnames⟩, rfl⟩
    · rintro ⟨⟨hcount, hfits, hnames⟩, rfl⟩
      exact ⟨hcount, hnames, hfits, rfl⟩
  | bool | number | object => simp [readPolicies, Policies]

theorem pieces_join (h : ∀ value ∈ values, ValidName value) : pieces (join ',' values) = values := by
  by_cases hempty : values = []
  · rw [hempty]
    rfl
  · have hcommas : ∀ value ∈ values, ',' ∉ value := fun value hvalue => (h value hvalue).noComma
    have hsplit : (join ',' values).splitOn ',' = values :=
      List.splitOn_intercalate ',' hcommas hempty
    unfold pieces
    split
    · next hnone =>
      rw [hnone] at hsplit
      obtain ⟨value, hvalue⟩ := List.exists_mem_of_ne_nil values hempty
      rw [← hsplit] at hvalue
      obtain rfl : value = [] := by simpa using hvalue
      have hmem : ([] : Str) ∈ values := by
        rw [← hsplit]
        exact hvalue
      exact absurd rfl (h [] hmem).notBlank
    · exact hsplit

/-- An answer is taken exactly when it says policies that a request could carry, and what is
kept is the text of that request. So what was written is read back, whichever of the two forms
the server answers in, and the text determines the policies. -/
theorem radiusPolicies_law (reserves : ℕ → Bool) :
    (∀ (document : Json S N) text, readPolicies document = .ok text ↔ ∃ values,
      Policies document values ∧ Writable values "RADIUS user policies" ∧ text = join ',' values) ∧
    ∀ values encoded, encodeValues reserves values "RADIUS user policies" = .ok encoded →
      pieces encoded = values ∧
        ∀ document : Json S N, Policies document values → readPolicies document = .ok encoded := by
  refine ⟨fun _ _ => readPolicies_eq_ok_iff, fun values encoded h => ?_⟩
  obtain ⟨n, hlength, -, rfl⟩ := encodeValues_eq_ok_iff.mp h
  have hwritable : Writable values "RADIUS user policies" := ⟨n, hlength⟩
  refine ⟨pieces_join (writable_iff.mp hwritable).2.2, fun document hdocument => ?_⟩
  exact readPolicies_eq_ok_iff.mpr ⟨values, hdocument, hwritable, rfl⟩

end Reading

/-- A leading blank is not lost here, in either form. -/
theorem radiusPolicies_law_blank :
    readPolicies (.string () " root,équipe".toList : Json Unit Unit) = .ok " root,équipe".toList ∧
      readPolicies (.array () [.string () " root".toList, .string () "équipe".toList] :
        Json Unit Unit) = .ok " root,équipe".toList := by
  have hwrite : encodeValues (fun _ => true) [" root".toList, "équipe".toList]
      "RADIUS user policies" = .ok " root,équipe".toList := by decide +kernel
  have hread := ((@radiusPolicies_law Unit Unit fun _ => true).2 _ _ hwrite).2
  refine ⟨hread _ ?_, hread _ ?_⟩
  · change _ = pieces _
    decide +kernel
  · exact .cons ⟨(), rfl⟩ (.cons ⟨(), rfl⟩ .nil)

end OpenBao.RadiusPolicies
