import OpenBao.BoundedReaders
import OpenBao.ClientConfigs
import OpenBao.JsonTrees
import OpenBao.KeyOrderedMaps
import Mathlib.Data.Char
import Mathlib.Data.List.Lex

/-!
# Rotation backups

The encrypted key shares of a rotation, grouped by the fingerprints of their recipients. A
server writes every share twice, in hex digits and in Base64, and the client accepts a backup
only where the two spellings mean the same bytes.
-/

namespace OpenBao.RotationBackups
open BoundedReaders ClientConfigs JsonTrees KeyOrderedMaps Utf8Text

def maxResponseStrings : ℕ := 4096
def maxRotationBackupGroups : ℕ := 256
def maxEncryptedShareTextBytes : ℕ := 16 * 1024

/-- The Base64 library. -/
structure Base64 where
  validateResult : Bytes → Bool
  decodeSecret : Bytes → Option Bytes

inductive DecodeError where
  | custom (text : String)
  | invalidType (expecting : String)
  | duplicateField (name : String)
  | trailing
  deriving DecidableEq, Repr

/-- Shares by fingerprint, in the order of the fingerprints. -/
abbrev Groups := List (Str × List Str)

structure RotationBackupWire where
  nonce : Option Str
  keys : Groups
  keysBase64 : Groups

structure OperatorRotationBackup where
  nonce : Option Str
  keys : Groups
  keysBase64 : Groups

structure OperatorRecoveryKeyBackup where
  nonce : Option Str
  keys : List (Str × Str)
  keysBase64 : List (Str × Str)

/-! ### Reading the shares -/

def isAsciiHexdigit (byte : UInt8) : Bool :=
  48 ≤ byte && byte ≤ 57 || 65 ≤ byte && byte ≤ 70 || 97 ≤ byte && byte ≤ 102

/-- `char::to_digit(16)` of the character with this byte. -/
def toDigit (byte : UInt8) : Option ℕ :=
  if 48 ≤ byte && byte ≤ 57 then some (byte.toNat - 48)
  else if 65 ≤ byte && byte ≤ 70 then some (byte.toNat - 55)
  else if 97 ≤ byte && byte ≤ 102 then some (byte.toNat - 87)
  else none

def validFingerprint (fingerprint : Str) : Bool :=
  byteLen fingerprint == 40 &&
    (asBytes fingerprint).all fun b => isAsciiDigit b || 97 ≤ b && b ≤ 102

section Reading

variable {S N : Type} (library : Base64) (base64 : Bool)

def validShare (bytes : Bytes) : Bool :=
  !bytes.isEmpty && bytes.length ≤ maxEncryptedShareTextBytes &&
    if base64 then library.validateResult bytes
    else bytes.length % 2 == 0 && bytes.all isAsciiHexdigit

def readShare : Json S N → Except DecodeError Str
  | .string _ share =>
    if validShare library base64 (asBytes share) then .ok share
    else .error (.custom "rotation backup share has invalid length or encoding")
  | _ => .error (.custom "invalid rotation backup share")

/-- `RotationBackupShares` with its limit. -/
def readShares (limit : ℕ) : Json S N → Except DecodeError (List Str)
  | .array _ items =>
    readItems limit (readShare library base64)
        (fun _ => .error (.custom "rotation backup exceeds aggregate share limit")) [] items >>=
      fun shares =>
        if shares = [] then .error (.custom "rotation backup share group is empty") else .ok shares
  | _ => .error (.invalidType "bounded nonempty encrypted backup shares")

/-- The loop of `RotationBackupMap` with the shares that may still come and the groups so far. -/
def visitMap : ℕ → Groups → List (Str × Json S N) → Except DecodeError Groups
  | _, groups, [] => .ok groups
  | remaining, groups, (fingerprint, value) :: members =>
    if groups.length < maxRotationBackupGroups then
      if !validFingerprint fingerprint then
        .error (.custom "invalid rotation backup PGP fingerprint")
      else if (get fingerprint groups).isSome then
        .error (.custom "duplicate rotation backup fingerprint")
      else
        readShares library base64 remaining value >>= fun shares =>
          if remaining < shares.length then
            .error (.custom "rotation backup exceeds aggregate share limit")
          else
            visitMap (remaining - shares.length) (insertEntry fingerprint shares groups).2 members
    else .error (.custom "rotation backup exceeds group limit")

/-- A map that is missing is empty. -/
def readGroups : Option (Json S N) → Except DecodeError Groups
  | none => .ok []
  | some (.object _ members) => visitMap library base64 maxResponseStrings [] members
  | some _ => .error (.invalidType "bounded encrypted rotation backup groups")

end Reading

/-! ### Comparing the spellings -/

def asChunks : Bytes → List (UInt8 × UInt8)
  | high :: low :: rest => (high, low) :: asChunks rest
  | _ => []

/-- Compares hex digits with bytes without decoding them. -/
def sameBytes (hex bytes : Bytes) : Bool :=
  hex.length / 2 == bytes.length &&
    ((asChunks hex).zip bytes).all fun (pair, byte) =>
      match toDigit pair.1, toDigit pair.2 with
      | some high, some low => high <<< 4 ||| low == byte.toNat
      | _, _ => false

section Comparing

variable (library : Base64)

def compareShare (hex encoded : Str) : Except DecodeError Unit :=
  match library.decodeSecret (asBytes encoded) with
  | none => .error (.custom "invalid rotation backup encoding")
  | some decoded =>
    if sameBytes (asBytes hex) decoded then .ok ()
    else .error (.custom "rotation backup encodings disagree")

def compareGroup (keysBase64 : Groups) (group : Str × List Str) : Except DecodeError Unit :=
  match get group.1 keysBase64 with
  | none => .error (.custom "rotation backup encodings have different recipients")
  | some encodedShares =>
    if group.2.length ≠ encodedShares.length then
      .error (.custom "rotation backup encodings have different share counts")
    else (group.2.zip encodedShares).forM fun shares => compareShare library shares.1 shares.2

def tryFrom (wire : RotationBackupWire) : Except DecodeError OperatorRotationBackup :=
  if wire.keys.isEmpty || wire.keysBase64.isEmpty then
    .error (.custom "rotation backup contains no recovery shares")
  else if wire.keys.length ≠ wire.keysBase64.length then
    .error (.custom "rotation backup encodings have different recipients")
  else
    wire.keys.forM (compareGroup library wire.keysBase64) >>= fun _ =>
      .ok ⟨wire.nonce, wire.keys, wire.keysBase64⟩

end Comparing

/-! ### The backup -/

section Backup

variable {S N : Type} (library : Base64)

/-- The value of a field that may be missing. -/
def fieldOf (name : String) (members : List (Str × Json S N)) :
    Except DecodeError (Option (Json S N)) :=
  match members.filter fun m => m.1 == name.toList with
  | [] => .ok none
  | [m] => .ok (some m.2)
  | _ => .error (.duplicateField name)

/-- What a derived decoder takes for the nonce, the keys and their Base64: by name from an
object, or by position from an array. -/
def fieldsOf : Json S N →
    Except DecodeError (Option (Json S N) × Option (Json S N) × Option (Json S N))
  | .object _ members => do
    return (← fieldOf "nonce" members, ← fieldOf "keys" members, ← fieldOf "keys_base64" members)
  | .array _ items =>
    if items.length ≤ 3 then .ok (items[0]?, items[1]?, items[2]?) else .error .trailing
  | _ => .error (.invalidType "struct RotationBackupWire")

def readNonce : Option (Json S N) → Except DecodeError (Option Str)
  | none | some (.null _) => .ok none
  | some (.string _ text) => .ok (some text)
  | some _ => .error (.invalidType "a string")

def readWire (document : Json S N) : Except DecodeError RotationBackupWire := do
  let (nonce, keys, keysBase64) ← fieldsOf document
  return ⟨← readNonce nonce, ← readGroups library false keys, ← readGroups library true keysBase64⟩

/-- `OperatorRotationBackup::deserialize`. -/
def operatorRotateBackupGrouped (document : Json S N) : Except DecodeError OperatorRotationBackup :=
  readWire library document >>= tryFrom library

def singleShare (group : Str × List Str) : Except DecodeError (Str × Str) :=
  match group.2 with
  | [share] => .ok (group.1, share)
  | _ => .error (.custom
    "rotation backup requires operator_rotate_backup_grouped for non-singleton share groups")

def singleRotationShares (groups : Groups) : Except DecodeError (List (Str × Str)) :=
  decodeAll singleShare groups

def operatorRotateBackup (document : Json S N) : Except DecodeError OperatorRecoveryKeyBackup := do
  let backup ← operatorRotateBackupGrouped library document
  return ⟨backup.nonce, ← singleRotationShares backup.keys,
    ← singleRotationShares backup.keysBase64⟩

end Backup

/-! ### What is accepted -/

/-- Bytes as hex digits. -/
def hexDecode : Bytes → Option Bytes
  | [] => some []
  | high :: low :: rest =>
    match toDigit high, toDigit low with
    | some high, some low => (hexDecode rest).map (UInt8.ofNat (16 * high + low) :: ·)
    | _, _ => none
  | [_] => none

section Specification

variable {S N : Type} (library : Base64) (base64 : Bool)

def IsShare (item : Json S N) (share : Str) : Prop :=
  (∃ s, item = .string s share) ∧ validShare library base64 (asBytes share) = true

/-- The shares of one recipient, of which there are some. -/
structure IsGroup (member : Str × Json S N) (group : Str × List Str) : Prop where
  key : member.1 = group.1
  fingerprint : validFingerprint group.1 = true
  nonempty : group.2 ≠ []
  shares : ∃ s items, member.2 = .array s items ∧
    List.Forall₂ (IsShare library base64) items group.2

def shareCount (groups : Groups) : ℕ := (groups.map fun group => group.2.length).sum

/-- The groups that a map says, in the order of their fingerprints. -/
structure IsMap (members : List (Str × Json S N)) (groups : Groups) : Prop where
  read : ∃ inOrder, List.Forall₂ (IsGroup library base64) members inOrder ∧
    groups = sortByKey inOrder
  distinct : (groups.map Prod.fst).Nodup
  few : groups.length ≤ maxRotationBackupGroups
  shares : shareCount groups ≤ maxResponseStrings

/-- Texts that decode to the shares of each recipient. -/
def Spell (decode : Bytes → Option Bytes) (groups : Groups) (recovered : List (Str × List Bytes)) :
    Prop :=
  List.Forall₂ (fun group shares => group.1 = shares.1 ∧
    List.Forall₂ (fun text bytes => decode (asBytes text) = some bytes) group.2 shares.2)
    groups recovered

/-- A backup that a document says: both maps spell the same shares of the same recipients, of
which there are some. -/
structure IsBackup (document : Json S N) (backup : OperatorRotationBackup) : Prop where
  fields : ∃ nonce s keys s' keysBase64,
    fieldsOf document = .ok (nonce, some (.object s keys), some (.object s' keysBase64)) ∧
      readNonce nonce = .ok backup.nonce ∧ IsMap library false keys backup.keys ∧
      IsMap library true keysBase64 backup.keysBase64
  nonempty : backup.keys ≠ []
  recovered : ∃ recovered, Spell hexDecode backup.keys recovered ∧
    Spell library.decodeSecret backup.keysBase64 recovered

end Specification

section Shares

variable {S N : Type} {library : Base64} {base64 : Bool}

theorem toDigit_lt {byte : UInt8} {digit : ℕ} (h : toDigit byte = some digit) : digit < 16 := by
  unfold toDigit at h
  simp only [Bool.and_eq_true, decide_eq_true_eq, UInt8.le_iff_toNat_le] at h
  split at h
  · next hrange =>
    obtain rfl := Option.some.inj h
    have hmax : byte.toNat ≤ 57 := hrange.2
    omega
  · split at h
    · next hrange =>
      obtain rfl := Option.some.inj h
      have hmax : byte.toNat ≤ 70 := hrange.2
      omega
    · split at h
      · next hrange =>
        obtain rfl := Option.some.inj h
        have hmax : byte.toNat ≤ 102 := hrange.2
        omega
      · cases h

/-- Two digits and the byte that they may mean. -/
def digitsMatch (high low byte : UInt8) : Bool :=
  match toDigit high, toDigit low with
  | some high, some low => high <<< 4 ||| low == byte.toNat
  | _, _ => false

theorem digitsMatch_iff {high low byte : UInt8} : digitsMatch high low byte = true ↔
    ∃ h l, toDigit high = some h ∧ toDigit low = some l ∧ byte = UInt8.ofNat (16 * h + l) := by
  unfold digitsMatch
  cases hhigh : toDigit high with
  | none => simp
  | some h =>
    cases hlow : toDigit low with
    | none => simp
    | some l =>
      have hl := toDigit_lt hlow
      have hh := toDigit_lt hhigh
      have hvalue : h <<< 4 ||| l = 16 * h + l := by
        rw [← Nat.shiftLeft_add_eq_or_of_lt hl, Nat.shiftLeft_eq]
        omega
      have hbyte : 16 * h + l = byte.toNat ↔ byte = UInt8.ofNat (16 * h + l) := by
        rw [← UInt8.toNat_inj, UInt8.toNat_ofNat', Nat.mod_eq_of_lt (by omega)]
        exact eq_comm
      simp [hvalue, hbyte]

theorem sameBytes_cons {high low byte : UInt8} {rest bytes : Bytes} :
    sameBytes (high :: low :: rest) (byte :: bytes) =
      (digitsMatch high low byte && sameBytes rest bytes) := by
  have hlength : (rest.length + 1 + 1) / 2 = rest.length / 2 + 1 := by omega
  have hcount : ((high :: low :: rest).length / 2 == (byte :: bytes).length) =
      (rest.length / 2 == bytes.length) := by
    simp [hlength]
  rw [sameBytes, hcount, asChunks, List.zip_cons_cons, List.all_cons, sameBytes, Bool.and_left_comm]
  rfl

/-- The comparison decodes. -/
theorem sameBytes_iff {hex : Bytes} (heven : hex.length % 2 = 0) (bytes : Bytes) :
    sameBytes hex bytes = true ↔ hexDecode hex = some bytes := by
  induction hex using hexDecode.induct generalizing bytes with
  | case1 => cases bytes <;> simp [sameBytes, asChunks, hexDecode]
  | case2 high low rest h l hhigh hlow ih =>
    rw [List.length_cons, List.length_cons] at heven
    rw [hexDecode, hhigh, hlow]
    cases bytes with
    | nil => simp [sameBytes]
    | cons byte bytes =>
      rw [sameBytes_cons, Bool.and_eq_true, digitsMatch_iff, ih (by omega)]
      simp [hhigh, hlow, eq_comm, and_comm]
  | case3 high low rest hnone =>
    rw [hexDecode]
    cases bytes with
    | nil => simp [sameBytes]
    | cons byte bytes =>
      rw [sameBytes_cons, Bool.and_eq_true, digitsMatch_iff]
      refine iff_of_false ?_ fun h => ?_
      · rintro ⟨⟨h, l, hhigh, hlow, -⟩, -⟩
        exact hnone h l hhigh hlow
      · split at h
        · next hhigh hlow => exact hnone _ _ hhigh hlow
        · cases h
  | case4 digit => simp at heven

theorem readShare_eq_ok_iff {item : Json S N} {share : Str} :
    readShare library base64 item = .ok share ↔ IsShare library base64 item share := by
  unfold readShare IsShare
  cases item with
  | string s text =>
    dsimp only
    split
    · next hvalid =>
      rw [Except.ok.injEq]
      constructor
      · rintro rfl
        exact ⟨⟨s, rfl⟩, hvalid⟩
      · rintro ⟨⟨s', heq⟩, -⟩
        exact (Json.string.inj heq).2
    · next hvalid =>
      refine iff_of_false (by intro h; cases h) ?_
      rintro ⟨⟨s', heq⟩, hshare⟩
      rw [(Json.string.inj heq).2] at hvalid
      exact hvalid hshare
  | null | bool | number | array | object => simp

theorem readShares_eq_ok_iff {limit : ℕ} {value : Json S N} {shares : List Str} :
    readShares library base64 limit value = .ok shares ↔
      shares ≠ [] ∧ shares.length ≤ limit ∧
        ∃ s items, value = .array s items ∧ List.Forall₂ (IsShare library base64) items shares := by
  unfold readShares
  cases value with
  | array s items =>
    have hread := fun all => @readItems_eq_ok_iff _ _ _ limit (readShare library base64)
      (fun _ => .error (.custom "rotation backup exceeds aggregate share limit"))
      (fun _ _ h => by cases h) items all
    simp only [readShare_eq_ok_iff] at hread
    rw [Limits.bind_eq_ok_iff]
    simp only [hread]
    constructor
    · rintro ⟨shares', ⟨hlimit, hall⟩, hresult⟩
      split at hresult
      · cases hresult
      · next hsome =>
        obtain rfl := Except.ok.inj hresult
        exact ⟨hsome, hall.length_eq ▸ hlimit, s, items, rfl, hall⟩
    · rintro ⟨hsome, hlimit, s', items', heq, hall⟩
      obtain ⟨-, rfl⟩ := Json.array.inj heq
      exact ⟨shares, ⟨hall.length_eq ▸ hlimit, hall⟩, if_neg hsome⟩
  | null | bool | number | string | object => simp

theorem visitMap_cons_eq_ok_iff {remaining : ℕ} {groups out : Groups} (hgroups : Ordered groups)
    {member : Str × Json S N} {members : List (Str × Json S N)} :
    visitMap library base64 remaining groups (member :: members) = .ok out ↔
      groups.length < maxRotationBackupGroups ∧ member.1 ∉ groups.map Prod.fst ∧
        ∃ shares, IsGroup library base64 member (member.1, shares) ∧ shares.length ≤ remaining ∧
          visitMap library base64 (remaining - shares.length)
            (insertEntry member.1 shares groups).2 members = .ok out := by
  rw [visitMap]
  simp only [get_isSome_iff hgroups]
  split_ifs with hroom hfingerprint hkey
  · refine iff_of_false (by intro h; cases h) ?_
    rintro ⟨-, -, shares, hgroup, -⟩
    simp [hgroup.fingerprint] at hfingerprint
  · exact iff_of_false (by intro h; cases h) fun h => h.2.1 hkey
  · rw [Limits.bind_eq_ok_iff, and_iff_right hroom, and_iff_right hkey]
    refine exists_congr fun shares => ?_
    rw [readShares_eq_ok_iff]
    constructor
    · rintro ⟨⟨hsome, hlimit, hshares⟩, hrest⟩
      rw [if_neg (not_lt.mpr hlimit)] at hrest
      exact ⟨⟨rfl, by simpa using hfingerprint, hsome, hshares⟩, hlimit, hrest⟩
    · rintro ⟨hgroup, hlimit, hrest⟩
      rw [if_neg (not_lt.mpr hlimit)]
      exact ⟨⟨hgroup.nonempty, hlimit, hgroup.shares⟩, hrest⟩
  · exact iff_of_false (by intro h; cases h) fun h => hroom h.1

theorem shareCount_cons (group : Str × List Str) (groups : Groups) :
    shareCount (group :: groups) = group.2.length + shareCount groups := by
  rw [shareCount, List.map_cons, List.sum_cons]
  rfl

/-- The loop reads the members, which are all groups of new recipients, and keeps to its limits. -/
theorem visitMap_eq_ok_iff {remaining : ℕ} {groups out : Groups} (hgroups : Ordered groups)
    (hroom : groups.length ≤ maxRotationBackupGroups) {members : List (Str × Json S N)} :
    visitMap library base64 remaining groups members = .ok out ↔
      ∃ read, List.Forall₂ (IsGroup library base64) members read ∧
        ((groups ++ read).map Prod.fst).Nodup ∧
        groups.length + read.length ≤ maxRotationBackupGroups ∧ shareCount read ≤ remaining ∧
        out = insertAll groups read := by
  induction members generalizing remaining groups with
  | nil => simp [visitMap, hroom, hgroups.keys_nodup, insertAll, shareCount, eq_comm]
  | cons member members ih =>
    rw [visitMap_cons_eq_ok_iff hgroups]
    have hinserted : ∀ shares, member.1 ∉ groups.map Prod.fst → ∀ rest,
        ((insertEntry member.1 shares groups).2 ++ rest).Perm
          (groups ++ (member.1, shares) :: rest) := fun shares hkey rest =>
      ((insertEntry_perm hkey).append_right rest).trans List.perm_middle.symm
    have hlengths : ∀ shares, member.1 ∉ groups.map Prod.fst →
        (insertEntry member.1 shares groups).2.length = groups.length + 1 := fun shares hkey =>
      (insertEntry_perm hkey).length_eq
    constructor
    · rintro ⟨hless, hkey, shares, hgroup, hlimit, hrest⟩
      obtain ⟨rest, hread, hnodup, hlength, hshares, rfl⟩ :=
        (ih (insertEntry_ordered hgroups) (by rw [hlengths shares hkey]; exact hless)).mp hrest
      rw [hlengths shares hkey] at hlength
      refine ⟨(member.1, shares) :: rest, .cons hgroup hread, ?_, ?_, ?_, rfl⟩
      · exact ((hinserted shares hkey rest).map Prod.fst).nodup_iff.mp hnodup
      · rw [List.length_cons]
        omega
      · rw [shareCount_cons]
        dsimp only
        omega
    · rintro ⟨read, hread, hnodup, hlength, hshares, rfl⟩
      obtain ⟨group, rest, hgroup, hrest, rfl⟩ := List.forall₂_cons_left_iff.mp hread
      obtain ⟨key, shares⟩ := group
      obtain rfl : member.1 = key := hgroup.key
      have hkey : member.1 ∉ groups.map Prod.fst := by
        intro hmem
        rw [List.map_append, List.nodup_append] at hnodup
        exact hnodup.2.2 _ hmem _ (by simp) rfl
      rw [List.length_cons] at hlength
      rw [shareCount_cons] at hshares
      dsimp only at hshares
      refine ⟨by omega, hkey, shares, hgroup, by omega, ?_⟩
      rw [ih (insertEntry_ordered hgroups) (by rw [hlengths shares hkey]; omega)]
      refine ⟨rest, hrest, ?_, ?_, by omega, rfl⟩
      · exact ((hinserted shares hkey rest).map Prod.fst).nodup_iff.mpr hnodup
      · rw [hlengths shares hkey]
        omega

theorem shareCount_perm {groups groups' : Groups} (h : groups.Perm groups') :
    shareCount groups = shareCount groups' :=
  (h.map _).sum_eq

theorem readGroups_eq_ok_iff {value : Option (Json S N)} {groups : Groups} :
    readGroups library base64 value = .ok groups ↔
      value = none ∧ groups = [] ∨
        ∃ s members, value = some (.object s members) ∧ IsMap library base64 members groups := by
  have hmap : ∀ members : List (Str × Json S N),
      visitMap library base64 maxResponseStrings [] members = .ok groups ↔
        IsMap library base64 members groups := by
    intro members
    rw [visitMap_eq_ok_iff ordered_nil (Nat.zero_le _)]
    constructor
    · rintro ⟨read, hread, hnodup, hlength, hshares, rfl⟩
      rw [List.nil_append] at hnodup
      rw [List.length_nil, Nat.zero_add] at hlength
      have hperm := sortByKey_perm read
      rw [insertAll_eq_sortByKey hnodup]
      exact ⟨⟨read, hread, rfl⟩, (hperm.map Prod.fst).nodup_iff.mpr hnodup,
        hperm.length_eq.trans_le hlength, (shareCount_perm hperm).trans_le hshares⟩
    · rintro ⟨⟨read, hread, rfl⟩, hdistinct, hfew, hshares⟩
      have hperm := sortByKey_perm read
      have hnodup := (hperm.map Prod.fst).nodup_iff.mp hdistinct
      refine ⟨read, hread, hnodup, ?_, (shareCount_perm hperm).symm.trans_le hshares,
        (insertAll_eq_sortByKey hnodup).symm⟩
      rw [List.length_nil, Nat.zero_add]
      exact hperm.length_eq.symm.trans_le hfew
  cases value with
  | none => simp [readGroups, eq_comm]
  | some value =>
    cases value with
    | object s members => simp [readGroups, hmap]
    | null | bool | number | string | array => simp [readGroups]

theorem IsMap.ordered {members : List (Str × Json S N)} {groups : Groups}
    (h : IsMap library base64 members groups) : Ordered groups := by
  obtain ⟨read, -, rfl⟩ := h.read
  exact sortByKey_ordered (((sortByKey_perm read).map Prod.fst).nodup_iff.mp h.distinct)

theorem even_of_validShare {bytes : Bytes} (h : validShare library false bytes = true) :
    bytes.length % 2 = 0 := by
  unfold validShare at h
  simp only [Bool.and_eq_true, Bool.false_eq_true, if_false, beq_iff_eq] at h
  exact h.2.1

/-- The shares in hex digits have two digits for each byte. -/
theorem IsMap.even {members : List (Str × Json S N)} {groups : Groups}
    (h : IsMap library false members groups) :
    ∀ group ∈ groups, ∀ share ∈ group.2, (asBytes share).length % 2 = 0 := by
  obtain ⟨read, hread, rfl⟩ := h.read
  intro group hgroup share hshare
  have hmem := (sortByKey_perm read).subset hgroup
  obtain ⟨i, hi, rfl⟩ := List.getElem_of_mem hmem
  obtain ⟨s, items, -, hshares⟩ := (hread.get (hread.length_eq ▸ hi) hi).shares
  obtain ⟨j, hj, rfl⟩ := List.getElem_of_mem hshare
  exact even_of_validShare (hshares.get (hshares.length_eq ▸ hj) hj).2

end Shares

section Comparison

variable {library : Base64}

theorem forM_eq_ok_iff {ε α : Type} {f : α → Except ε Unit} {items : List α} :
    items.forM f = .ok () ↔ ∀ item ∈ items, f item = .ok () := by
  induction items with
  | nil => exact iff_of_true rfl (by simp)
  | cons item items ih =>
    change (f item >>= fun _ => items.forM f) = .ok () ↔ _
    rw [bind_unit_eq_ok_iff, List.forall_mem_cons, ih]

theorem compareShare_eq_ok_iff {hex text : Str} (heven : (asBytes hex).length % 2 = 0) :
    compareShare library hex text = .ok () ↔
      ∃ bytes, hexDecode (asBytes hex) = some bytes ∧
        library.decodeSecret (asBytes text) = some bytes := by
  unfold compareShare
  cases library.decodeSecret (asBytes text) with
  | none => simp
  | some decoded => simp [← sameBytes_iff heven]

theorem compareGroup_eq_ok_iff {keysBase64 : Groups} {group : Str × List Str}
    (heven : ∀ share ∈ group.2, (asBytes share).length % 2 = 0) :
    compareGroup library keysBase64 group = .ok () ↔
      ∃ texts, get group.1 keysBase64 = some texts ∧
        List.Forall₂ (fun hex text => ∃ bytes, hexDecode (asBytes hex) = some bytes ∧
          library.decodeSecret (asBytes text) = some bytes) group.2 texts := by
  unfold compareGroup
  cases get group.1 keysBase64 with
  | none => simp
  | some texts =>
    dsimp only
    simp only [Option.some.injEq, exists_eq_left']
    rw [List.forall₂_iff_zip]
    split
    · next hlength => exact iff_of_false (by intro h; cases h) fun h => hlength h.1
    · next hlength =>
      rw [and_iff_right (not_not.mp hlength), forM_eq_ok_iff, Prod.forall]
      refine forall_congr' fun hex => forall_congr' fun text => ?_
      refine forall_congr' fun hmem => ?_
      exact compareShare_eq_ok_iff (heven hex (List.of_mem_zip hmem).1)

/-- A relation through a third value walks through a third list. -/
theorem forall₂_exists_iff {α β γ : Type} {R : α → γ → Prop} {R' : β → γ → Prop} {xs : List α}
    {ys : List β} : List.Forall₂ (fun x y => ∃ z, R x z ∧ R' y z) xs ys ↔
      ∃ zs, List.Forall₂ R xs zs ∧ List.Forall₂ R' ys zs := by
  constructor
  · intro h
    induction h with
    | nil => exact ⟨[], .nil, .nil⟩
    | cons hxy _ ih =>
      obtain ⟨z, hx, hy⟩ := hxy
      obtain ⟨zs, hxs, hys⟩ := ih
      exact ⟨z :: zs, .cons hx hxs, .cons hy hys⟩
  · rintro ⟨zs, hxs, hys⟩
    induction hxs generalizing ys with
    | nil =>
      cases hys
      exact .nil
    | cons hx _ ih =>
      cases hys with
      | cons hy hys => exact .cons ⟨_, hx, hy⟩ (ih hys)

theorem recovered_iff {keys keysBase64 : Groups} :
    List.Forall₂ (fun group group' => group.1 = group'.1 ∧
        List.Forall₂ (fun hex text => ∃ bytes, hexDecode (asBytes hex) = some bytes ∧
          library.decodeSecret (asBytes text) = some bytes) group.2 group'.2) keys keysBase64 ↔
      ∃ recovered, Spell hexDecode keys recovered ∧
        Spell library.decodeSecret keysBase64 recovered := by
  unfold Spell
  rw [← forall₂_exists_iff]
  have hpoint : ∀ group group' : Str × List Str, (group.1 = group'.1 ∧
      List.Forall₂ (fun hex text => ∃ bytes, hexDecode (asBytes hex) = some bytes ∧
        library.decodeSecret (asBytes text) = some bytes) group.2 group'.2) ↔
      ∃ shares : Str × List Bytes, (group.1 = shares.1 ∧
        List.Forall₂ (fun text bytes => hexDecode (asBytes text) = some bytes) group.2 shares.2) ∧
        group'.1 = shares.1 ∧ List.Forall₂
          (fun text bytes => library.decodeSecret (asBytes text) = some bytes) group'.2 shares.2 := by
    intro group group'
    rw [forall₂_exists_iff]
    constructor
    · rintro ⟨hkey, shares, hhex, htexts⟩
      exact ⟨(group.1, shares), ⟨rfl, hhex⟩, hkey.symm, htexts⟩
    · rintro ⟨shares, ⟨hkey, hhex⟩, hkey', htexts⟩
      exact ⟨hkey.trans hkey'.symm, shares.2, hhex, htexts⟩
  simp only [hpoint]

theorem tryFrom_eq_ok_iff {wire : RotationBackupWire} {backup : OperatorRotationBackup}
    (hkeys : Ordered wire.keys) (hkeysBase64 : Ordered wire.keysBase64)
    (heven : ∀ group ∈ wire.keys, ∀ share ∈ group.2, (asBytes share).length % 2 = 0) :
    tryFrom library wire = .ok backup ↔ wire.keys ≠ [] ∧
      (∃ recovered, Spell hexDecode wire.keys recovered ∧
        Spell library.decodeSecret wire.keysBase64 recovered) ∧
      backup = ⟨wire.nonce, wire.keys, wire.keysBase64⟩ := by
  rw [← recovered_iff, ← forall_get_iff hkeys hkeysBase64]
  unfold tryFrom
  split_ifs with hempty hlength
  · refine iff_of_false (by intro h; cases h) ?_
    rintro ⟨hsome, ⟨hlength, -⟩, -⟩
    rw [Bool.or_eq_true, List.isEmpty_iff, List.isEmpty_iff] at hempty
    have hnone := hempty.resolve_left hsome
    rw [hnone, List.length_nil, List.length_eq_zero_iff] at hlength
    exact hsome hlength
  · exact iff_of_false (by intro h; cases h) fun h => hlength h.2.1.1
  · rw [Bool.or_eq_true, List.isEmpty_iff, List.isEmpty_iff, not_or] at hempty
    rw [and_iff_right hempty.1, and_iff_right (not_not.mp hlength), bind_unit_eq_ok_iff,
      forM_eq_ok_iff, Except.ok.injEq, @eq_comm _ backup]
    refine and_congr_left fun _ => forall_congr' fun group => forall_congr' fun hgroup => ?_
    exact compareGroup_eq_ok_iff (heven group hgroup)

end Comparison

/-! ### The laws -/

section Laws

variable {S N : Type} {library : Base64}

theorem readWire_eq_ok_iff {document : Json S N} {wire : RotationBackupWire} :
    readWire library document = .ok wire ↔
      ∃ nonce keys keysBase64, fieldsOf document = .ok (nonce, keys, keysBase64) ∧
        readNonce nonce = .ok wire.nonce ∧ readGroups library false keys = .ok wire.keys ∧
        readGroups library true keysBase64 = .ok wire.keysBase64 := by
  unfold readWire
  simp only [Limits.bind_eq_ok_iff, Prod.exists, pure, Except.pure, Except.ok.injEq]
  constructor
  · rintro ⟨nonce, keys, keysBase64, hfields, _, hnonce, _, hkeys, _, hkeysBase64, rfl⟩
    exact ⟨nonce, keys, keysBase64, hfields, hnonce, hkeys, hkeysBase64⟩
  · rintro ⟨nonce, keys, keysBase64, hfields, hnonce, hkeys, hkeysBase64⟩
    exact ⟨nonce, keys, keysBase64, hfields, _, hnonce, _, hkeys, _, hkeysBase64, rfl⟩

theorem ordered_of_readGroups {base64 : Bool} {value : Option (Json S N)} {groups : Groups}
    (h : readGroups library base64 value = .ok groups) : Ordered groups := by
  rcases readGroups_eq_ok_iff.mp h with ⟨-, rfl⟩ | ⟨s, members, -, hmap⟩
  · exact ordered_nil
  · exact hmap.ordered

theorem even_of_readGroups {value : Option (Json S N)} {groups : Groups}
    (h : readGroups library false value = .ok groups) :
    ∀ group ∈ groups, ∀ share ∈ group.2, (asBytes share).length % 2 = 0 := by
  rcases readGroups_eq_ok_iff.mp h with ⟨-, rfl⟩ | ⟨s, members, -, hmap⟩
  · simp
  · exact hmap.even

theorem operatorRotateBackupGrouped_eq_ok_iff {document : Json S N} {backup : OperatorRotationBackup} :
    operatorRotateBackupGrouped library document = .ok backup ↔
      IsBackup library document backup := by
  rw [operatorRotateBackupGrouped, Limits.bind_eq_ok_iff]
  constructor
  · rintro ⟨wire, hwire, htry⟩
    obtain ⟨nonce, keys, keysBase64, hfields, hnonce, hkeys, hkeysBase64⟩ :=
      readWire_eq_ok_iff.mp hwire
    obtain ⟨hsome, ⟨recovered, hhex, htexts⟩, rfl⟩ := (tryFrom_eq_ok_iff
      (ordered_of_readGroups hkeys) (ordered_of_readGroups hkeysBase64)
      (even_of_readGroups hkeys)).mp htry
    have hlength : wire.keys.length = wire.keysBase64.length :=
      hhex.length_eq.trans htexts.length_eq.symm
    rcases readGroups_eq_ok_iff.mp hkeys with ⟨-, hnone⟩ | ⟨s, members, rfl, hmap⟩
    · exact absurd hnone hsome
    rcases readGroups_eq_ok_iff.mp hkeysBase64 with ⟨-, hnone⟩ | ⟨s', members', rfl, hmap'⟩
    · rw [hnone, List.length_nil, List.length_eq_zero_iff] at hlength
      exact absurd hlength hsome
    exact ⟨⟨nonce, s, members, s', members', hfields, hnonce, hmap, hmap'⟩, hsome,
      recovered, hhex, htexts⟩
  · rintro ⟨⟨nonce, s, keys, s', keysBase64, hfields, hnonce, hmap, hmap'⟩, hsome, hrecovered⟩
    refine ⟨⟨backup.nonce, backup.keys, backup.keysBase64⟩, readWire_eq_ok_iff.mpr
      ⟨nonce, _, _, hfields, hnonce, ?_, ?_⟩, ?_⟩
    · exact readGroups_eq_ok_iff.mpr (.inr ⟨s, keys, rfl, hmap⟩)
    · exact readGroups_eq_ok_iff.mpr (.inr ⟨s', keysBase64, rfl, hmap'⟩)
    · exact (tryFrom_eq_ok_iff hmap.ordered hmap'.ordered hmap.even).mpr ⟨hsome, hrecovered, rfl⟩

theorem singleShare_eq_ok_iff {group : Str × List Str} {share : Str × Str} :
    singleShare group = .ok share ↔ group = (share.1, [share.2]) := by
  obtain ⟨key, shares⟩ := group
  obtain ⟨key', text⟩ := share
  unfold singleShare
  split
  · next share hsingle =>
    dsimp only at hsingle
    rw [hsingle]
    simp
  · next hother =>
    refine iff_of_false (by intro h; cases h) fun h => ?_
    exact hother text (congrArg Prod.snd h)

theorem singleRotationShares_eq_ok_iff {groups : Groups} {shares : List (Str × Str)} :
    singleRotationShares groups = .ok shares ↔
      groups = shares.map fun share => (share.1, [share.2]) := by
  rw [singleRotationShares, decodeAll_eq_ok_iff]
  simp only [singleShare_eq_ok_iff]
  rw [← List.forall₂_map_right_iff (R := Eq), List.forall₂_eq_eq_eq]

/-- A backup is accepted exactly where its document keeps to the limits and spells the same
shares twice, in the same order for the same recipients; the older return type takes exactly
those with one share for each recipient and drops none. -/
theorem rotationBackup_law (library : Base64) (document : Json S N) :
    (∀ backup, operatorRotateBackupGrouped library document = .ok backup ↔
      IsBackup library document backup) ∧
    ∀ recovery, operatorRotateBackup library document = .ok recovery ↔
      IsBackup library document ⟨recovery.nonce,
        recovery.keys.map fun share => (share.1, [share.2]),
        recovery.keysBase64.map fun share => (share.1, [share.2])⟩ := by
  refine ⟨fun _ => operatorRotateBackupGrouped_eq_ok_iff, fun recovery => ?_⟩
  rw [← operatorRotateBackupGrouped_eq_ok_iff]
  unfold operatorRotateBackup
  simp only [Limits.bind_eq_ok_iff, pure, Except.pure, Except.ok.injEq,
    singleRotationShares_eq_ok_iff]
  constructor
  · rintro ⟨⟨nonce, keys, keysBase64⟩, hbackup, shares, rfl, shares', rfl, rfl⟩
    exact hbackup
  · intro hbackup
    exact ⟨_, hbackup, recovery.keys, rfl, recovery.keysBase64, rfl, rfl⟩

end Laws

/-- A library that knows one text. -/
def exampleBase64 : Base64 where
  validateResult bytes := bytes == asBytes "YWI=".toList
  decodeSecret bytes := if bytes == asBytes "YWI=".toList then some [0x61, 0x62] else none

def exampleDocument (digits : String) : Json Unit Unit :=
  .object () [
    ("keys_base64".toList, .object () [(List.replicate 40 'c',
      .array () [.string () "YWI=".toList])]),
    ("keys".toList, .object () [(List.replicate 40 'c', .array () [.string () digits.toList])])]

example : (operatorRotateBackup exampleBase64 (exampleDocument "6162")).isOk = true := by
  decide +kernel

example : (operatorRotateBackup exampleBase64 (exampleDocument "6163")).isOk = false := by
  decide +kernel

end OpenBao.RotationBackups
