import OpenBao.Utf8Text

/-!
# The keyword/value grammar

A string of assignments `key = value`, read one byte at a time. The class of
white space is a parameter, so that two readers can be compared: they agree on
every string whose questionable bytes are quoted or escaped.
-/

namespace OpenBao.KeywordValueGrammar
open Utf8Text

abbrev Setting := Bytes × Bytes

/-- Where a reader stands, with the key and the value read so far. -/
inductive Place where
  | gap
  | key (k : Bytes)
  | keyEnd (k : Bytes)
  | valueStart (k : Bytes)
  | bare (k v : Bytes)
  | bareEscape (k v : Bytes)
  | quoted (k v : Bytes)
  | quotedEscape (k v : Bytes)
  deriving DecidableEq

/-- The assignments that a byte completes, and the place behind it. -/
def step (space : UInt8 → Bool) : Place → UInt8 → Option (List Setting × Place)
  | .gap, b =>
    if space b then some ([], .gap) else if b = 0x3d then some ([], .valueStart [])
    else some ([], .key [b])
  | .key k, b =>
    if space b then some ([], .keyEnd k) else if b = 0x3d then some ([], .valueStart k)
    else some ([], .key (k ++ [b]))
  | .keyEnd k, b =>
    if space b then some ([], .keyEnd k) else if b = 0x3d then some ([], .valueStart k) else none
  | .valueStart k, b =>
    if space b then some ([], .valueStart k)
    else if b = 0x27 then some ([], .quoted k [])
    else if b = 0x5c then some ([], .bareEscape k [])
    else some ([], .bare k [b])
  | .bare k v, b =>
    if space b then some ([(k, v)], .gap) else if b = 0x5c then some ([], .bareEscape k v)
    else some ([], .bare k (v ++ [b]))
  | .bareEscape k v, b => some ([], .bare k (v ++ [b]))
  | .quoted k v, b =>
    if b = 0x27 then some ([(k, v)], .gap) else if b = 0x5c then some ([], .quotedEscape k v)
    else some ([], .quoted k (v ++ [b]))
  | .quotedEscape k v, b => some ([], .quoted k (v ++ [b]))

def finish : Place → Option (List Setting)
  | .gap => some []
  | .valueStart k => some [(k, [])]
  | .bare k v => some [(k, v)]
  | _ => none

/-- The assignments of a string, read from a place. -/
def readSettings (space : UInt8 → Bool) : Place → Bytes → Option (List Setting)
  | place, [] => finish place
  | place, b :: bs =>
    (step space place b).bind fun s => (readSettings space s.2 bs).map fun settings => s.1 ++ settings

/-- Places where white space has a meaning. -/
def Place.bySpace : Place → Bool
  | .bareEscape _ _ | .quoted _ _ | .quotedEscape _ _ => false
  | _ => true

/-- A byte of `odd` stands outside quotes and escapes. -/
def loose (space odd : UInt8 → Bool) : Place → Bytes → Bool
  | _, [] => false
  | place, b :: bs =>
    place.bySpace && odd b ||
      match step space place b with
      | none => false
      | some s => loose space odd s.2 bs

/-- The last value assigned to a key. -/
def lastAssigned (key : Bytes) (settings : List Setting) : Option Bytes :=
  ((settings.filter (fun s => s.1 = key)).getLast?).map Prod.snd

theorem lastAssigned_nil (key : Bytes) : lastAssigned key [] = none := rfl

/-- A later assignment replaces an earlier one. -/
theorem lastAssigned_cons (key : Bytes) (s : Setting) (settings : List Setting) :
    lastAssigned key (s :: settings) =
      (lastAssigned key settings).or (if s.1 = key then some s.2 else none) := by
  by_cases hk : s.1 = key
  · cases hl : (settings.filter (fun s => s.1 = key)).getLast? with
    | none => simp [lastAssigned, hk, List.getLast?_cons, hl]
    | some t => simp [lastAssigned, hk, List.getLast?_cons, hl]
  · simp [lastAssigned, hk]

theorem step_congr {space space' : UInt8 → Bool} {place : Place} {b : UInt8}
    (h : place.bySpace = true → space b = space' b) : step space place b = step space' place b := by
  cases place with
  | gap | key | keyEnd | valueStart | bare => simp only [step, h rfl]
  | bareEscape | quoted | quotedEscape => rfl

/-- Two readers agree on a string without loose bytes of the kind they classify
differently. -/
theorem read_congr {space space' odd : UInt8 → Bool} (h : ∀ b, odd b = false → space b = space' b)
    {place : Place} {bs : Bytes} (hl : loose space odd place bs = false) :
    readSettings space place bs = readSettings space' place bs := by
  induction bs generalizing place with
  | nil => rfl
  | cons b bs ih =>
    rw [loose, Bool.or_eq_false_iff] at hl
    have hs : step space place b = step space' place b := by
      apply step_congr
      intro hp
      rw [hp, Bool.true_and] at hl
      exact h b hl.1
    rw [readSettings, readSettings, ← hs]
    cases hn : step space place b with
    | none => rfl
    | some s =>
      rw [hn] at hl
      simp only [Option.bind_some, ih hl.2]

section Runs

variable {space : UInt8 → Bool}

/-- A place that white space does not leave. -/
theorem read_skip {place : Place} (h : ∀ b, space b = true → step space place b = some ([], place))
    (bs : Bytes) : readSettings space place bs = readSettings space place (bs.dropWhile space) := by
  induction bs with
  | nil => rfl
  | cons b bs ih =>
    cases hb : space b with
    | false => simp [hb]
    | true =>
      rw [List.dropWhile_cons_of_pos hb, ← ih, readSettings, h b hb]
      simp

theorem read_gap (bs : Bytes) :
    readSettings space .gap bs = readSettings space .gap (bs.dropWhile space) :=
  read_skip (fun b hb => by simp [step, hb]) bs

theorem read_valueStart (k bs : Bytes) :
    readSettings space (.valueStart k) bs = readSettings space (.valueStart k) (bs.dropWhile space) :=
  read_skip (fun b hb => by simp [step, hb]) bs

/-- A byte that belongs to a key. -/
def keyByte (space : UInt8 → Bool) (b : UInt8) : Bool := !space b && b != 0x3d

theorem read_key (k bs : Bytes) :
    readSettings space (.key k) bs =
      readSettings space (.key (k ++ bs.takeWhile (keyByte space))) (bs.dropWhile (keyByte space)) := by
  induction bs generalizing k with
  | nil => simp
  | cons b bs ih =>
    cases hb : keyByte space b with
    | false => simp [hb]
    | true =>
      have hs : step space (.key k) b = some ([], .key (k ++ [b])) := by
        simp only [keyByte, Bool.and_eq_true, Bool.not_eq_eq_eq_not, Bool.not_true, bne_iff_ne] at hb
        simp [step, hb.1, hb.2]
      rw [List.takeWhile_cons_of_pos hb, List.dropWhile_cons_of_pos hb, readSettings, hs]
      simp [ih (k ++ [b])]

/-- The first byte of an assignment is read as the first byte of its key. -/
theorem read_gap_eq_key {b : UInt8} (hb : space b = false) (bs : Bytes) :
    readSettings space .gap (b :: bs) = readSettings space (.key []) (b :: bs) := by
  simp [readSettings, step, hb]

/-- From the end of a key to the start of its value. -/
theorem read_key_assign {k bs rest : Bytes} (he : space 0x3d = false)
    (hb : bs.dropWhile space = 0x3d :: rest) :
    readSettings space (.key k) bs = readSettings space (.valueStart k) rest := by
  cases bs with
  | nil => simp at hb
  | cons b bs =>
    cases hs : space b with
    | false =>
      rw [List.dropWhile_cons_of_neg (by simp [hs]), List.cons.injEq] at hb
      obtain ⟨rfl, rfl⟩ := hb
      simp [readSettings, step, he]
    | true =>
      rw [List.dropWhile_cons_of_pos hs] at hb
      have hk : readSettings space (.key k) (b :: bs) = readSettings space (.keyEnd k) bs := by
        simp [readSettings, step, hs]
      rw [hk, read_skip (fun b hb => by simp [step, hb]), hb]
      simp [readSettings, step, he]

/-- From a gap to the start of the next value. -/
theorem read_assignment {bs rest : Bytes} (he : space 0x3d = false)
    (hne : bs.dropWhile space ≠ [])
    (ha : ((bs.dropWhile space).dropWhile (keyByte space)).dropWhile space = 0x3d :: rest) :
    readSettings space .gap bs =
      readSettings space (.valueStart ((bs.dropWhile space).takeWhile (keyByte space)))
        (rest.dropWhile space) := by
  obtain ⟨b, cs, hb⟩ := List.exists_cons_of_ne_nil hne
  have hs : space b = false := by
    have := List.head?_dropWhile_not space bs
    simpa [hb] using this
  rw [read_gap, hb, read_gap_eq_key hs, ← hb, read_key, read_key_assign he ha, read_valueStart]
  simp

/-- An unquoted value begins at once. -/
theorem read_valueStart_bare {k bs : Bytes} (hs : ∀ b ∈ bs.head?, space b = false)
    (hq : bs.head? ≠ some 0x27) :
    readSettings space (.valueStart k) bs = readSettings space (.bare k []) bs := by
  cases bs with
  | nil => rfl
  | cons b bs =>
    have hb := hs b rfl
    have hne : b ≠ 0x27 := by simpa using hq
    simp [readSettings, step, hb, hne]

theorem read_bare_end {k v bs : Bytes} (hs : ∀ b ∈ bs.head?, space b = true) :
    readSettings space (.bare k v) bs =
      (readSettings space .gap bs).map fun settings => (k, v) :: settings := by
  cases bs with
  | nil => rfl
  | cons b bs =>
    have hb := hs b rfl
    simp [readSettings, step, hb]

theorem read_quoted_end (k v bs : Bytes) :
    readSettings space (.quoted k v) (0x27 :: bs) =
      (readSettings space .gap bs).map fun settings => (k, v) :: settings := by
  simp [readSettings, step]

end Runs
end OpenBao.KeywordValueGrammar
