import OpenBao.ClientErrors
import OpenBao.Utf8Text

/-!
# Capabilities and control-group requirements

The typed values a policy rule is made of. Factors and requirements carry their
bounds as fields, and their constructors accept exactly the values that exist.
-/

namespace OpenBao.ControlGroups
open Utf8Text

inductive AclCapability where
  | create | read | update | delete | list | patch | sudo | deny
  deriving DecidableEq, Repr

def AclCapability.asStr : AclCapability → Str
  | .create => "create".toList
  | .read => "read".toList
  | .update => "update".toList
  | .delete => "delete".toList
  | .list => "list".toList
  | .patch => "patch".toList
  | .sudo => "sudo".toList
  | .deny => "deny".toList

def maxFactors : ℕ := 8
def maxGroups : ℕ := 16
def maxOperations : ℕ := 6

def invalid : Error := .invalidParameter "invalid or oversized control-group policy requirement"

section Collecting

variable {α κ : Type*} [DecidableEq κ]

/-- The loop that copies items as long as they are few, accepted and distinct
under `key`. The length test precedes the look at an item. -/
def collectDistinct (limit : ℕ) (key : α → κ) (accept : α → Bool) :
    List α → List α → Except Error (List α)
  | checked, [] => .ok checked
  | checked, a :: rest =>
    if checked.length = limit || !accept a || checked.any (fun seen => key seen = key a) then
      .error invalid
    else collectDistinct limit key accept (checked ++ [a]) rest

theorem collectDistinct_eq_ok_iff {limit : ℕ} {key : α → κ} {accept : α → Bool}
    {checked items result : List α} (hc : checked.length ≤ limit)
    (hn : (checked.map key).Nodup) :
    collectDistinct limit key accept checked items = .ok result ↔
      result = checked ++ items ∧ (checked ++ items).length ≤ limit ∧
        (∀ a ∈ items, accept a = true) ∧ ((checked ++ items).map key).Nodup := by
  induction items generalizing checked with
  | nil =>
    simp only [collectDistinct, Except.ok.injEq, List.append_nil, List.not_mem_nil, false_implies,
      implies_true, hc, hn, and_true]
    exact eq_comm
  | cons a items ih =>
    simp only [collectDistinct]
    split
    · next h =>
      simp only [Bool.or_eq_true, decide_eq_true_eq, Bool.not_eq_eq_eq_not, Bool.not_true,
        List.any_eq_true] at h
      simp only [reduceCtorEq, false_iff]
      rintro ⟨-, hl, ha, hd⟩
      rcases h with (h | h) | ⟨seen, hs, h⟩
      · simp at hl
        omega
      · simp [ha a (by simp)] at h
      · rw [List.map_append, List.nodup_append] at hd
        exact hd.2.2 (key seen) (List.mem_map_of_mem hs) (key a) (by simp) h
    · next h =>
      simp only [Bool.or_eq_true, decide_eq_true_eq, Bool.not_eq_eq_eq_not, Bool.not_true,
        List.any_eq_true, not_or, not_exists, not_and] at h
      have hd : ((checked ++ [a]).map key).Nodup := by
        rw [List.map_append, List.nodup_append]
        refine ⟨hn, by simp, ?_⟩
        intro x hx y hy hxy
        obtain ⟨seen, hs, rfl⟩ := List.mem_map.mp hx
        simp only [List.map_cons, List.map_nil, List.mem_singleton] at hy
        exact h.2 seen hs (hxy.trans hy)
      rw [ih (by simp; omega) hd]
      have ha : accept a = true := by simpa using h.1.2
      simp [ha]

/-- Collecting from nothing returns the items themselves. -/
theorem collectDistinct_nil_eq_ok_iff {limit : ℕ} {key : α → κ} {accept : α → Bool}
    {items result : List α} :
    collectDistinct limit key accept [] items = .ok result ↔
      result = items ∧ items.length ≤ limit ∧ (∀ a ∈ items, accept a = true) ∧
        (items.map key).Nodup :=
  @collectDistinct_eq_ok_iff α κ _ limit key accept [] items result (by simp) (by simp)

end Collecting

def nameByte (byte : UInt8) : Bool :=
  isAsciiAlphanumeric byte || byte == 0x20 || byte == 0x2e || byte == 0x5f || byte == 0x2d

def validName (value : Str) (limit : ℕ) : Bool :=
  match asBytes value with
  | [] => false
  | first :: rest =>
    byteLen value ≤ limit && isAsciiAlphanumeric first && (first :: rest).all nameByte

/-- An identity approval factor. -/
structure ControlGroupFactor where
  name : Str
  groups : List Str
  approvals : ℕ
  name_valid : validName name 64 = true
  approvals_pos : 1 ≤ approvals
  approvals_le : approvals ≤ 128
  groups_ne_nil : groups ≠ []
  groups_length : groups.length ≤ maxGroups
  groups_valid : ∀ g ∈ groups, validName g 128 = true
  groups_nodup : groups.Nodup
  deriving DecidableEq

/-- `std::time::Duration`. -/
structure Duration where
  asSecs : ℕ
  subsecNanos : ℕ
  deriving DecidableEq

/-- A positive TTL and bounded factors with distinct labels. -/
structure ControlGroupRequirement where
  ttlSeconds : ℕ
  factors : List ControlGroupFactor
  ttlSeconds_pos : 1 ≤ ttlSeconds
  ttlSeconds_le : ttlSeconds ≤ 86400
  factors_ne_nil : factors ≠ []
  factors_length : factors.length ≤ maxFactors
  factors_nodup : (factors.map ControlGroupFactor.name).Nodup
  deriving DecidableEq

def ControlGroupFactor.new (name : Str) (groups : List Str) (approvals : ℕ) :
    Except Error ControlGroupFactor :=
  if h : validName name 64 = true ∧ 1 ≤ approvals ∧ approvals ≤ 128 then
    match hg : collectDistinct maxGroups id (fun value => validName value 128) [] groups with
    | .error e => .error e
    | .ok names =>
      if hn : names = [] then .error invalid
      else
        have hs := collectDistinct_nil_eq_ok_iff.mp hg
        .ok { name, groups := names, approvals
              name_valid := h.1
              approvals_pos := h.2.1
              approvals_le := h.2.2
              groups_ne_nil := hn
              groups_length := by simpa [hs.1] using hs.2.1
              groups_valid := by simpa [hs.1] using hs.2.2.1
              groups_nodup := by simpa [hs.1] using hs.2.2.2 }
  else .error invalid

def ControlGroupRequirement.new (ttl : Duration) (factors : List ControlGroupFactor) :
    Except Error ControlGroupRequirement :=
  if h : ttl.subsecNanos = 0 ∧ 1 ≤ ttl.asSecs ∧ ttl.asSecs ≤ 86400 then
    match hf : collectDistinct maxFactors ControlGroupFactor.name (fun _ => true) [] factors with
    | .error e => .error e
    | .ok checked =>
      if hn : checked = [] then .error invalid
      else
        have hs := collectDistinct_nil_eq_ok_iff.mp hf
        .ok { ttlSeconds := ttl.asSecs, factors := checked
              ttlSeconds_pos := h.2.1
              ttlSeconds_le := h.2.2
              factors_ne_nil := hn
              factors_length := by simpa [hs.1] using hs.2.1
              factors_nodup := by simpa [hs.1] using hs.2.2.2 }
  else .error invalid

/-- Every factor is accepted when built again from its own parts. -/
theorem ControlGroupFactor.new_parts (f : ControlGroupFactor) :
    ControlGroupFactor.new f.name f.groups f.approvals = .ok f := by
  have hc : collectDistinct maxGroups id (fun value => validName value 128) [] f.groups =
      .ok f.groups :=
    collectDistinct_nil_eq_ok_iff.mpr
      ⟨rfl, f.groups_length, f.groups_valid, by simpa using f.groups_nodup⟩
  rw [new, dif_pos ⟨f.name_valid, f.approvals_pos, f.approvals_le⟩]
  split
  · next h => simp [hc] at h
  · next names h =>
    rw [hc, Except.ok.injEq] at h
    subst h
    rw [dif_neg f.groups_ne_nil]

theorem ControlGroupRequirement.new_parts (r : ControlGroupRequirement) :
    ControlGroupRequirement.new ⟨r.ttlSeconds, 0⟩ r.factors = .ok r := by
  have hc : collectDistinct maxFactors ControlGroupFactor.name (fun _ => true) [] r.factors =
      .ok r.factors :=
    collectDistinct_nil_eq_ok_iff.mpr ⟨rfl, r.factors_length, by simp, r.factors_nodup⟩
  rw [new, dif_pos ⟨rfl, r.ttlSeconds_pos, r.ttlSeconds_le⟩]
  split
  · next h => simp [hc] at h
  · next checked h =>
    rw [hc, Except.ok.injEq] at h
    subst h
    rw [dif_neg r.factors_ne_nil]

def controlOperation (operation : AclCapability) : Bool := operation != .deny && operation != .sudo

def validateOperations (operations : List AclCapability) : Except Error (List AclCapability) := do
  let checked ← collectDistinct maxOperations id controlOperation [] operations
  if checked = [] then .error invalid else .ok checked

/-- The operations of a control-group rule. -/
structure ControlOperations (operations : List AclCapability) : Prop where
  nonempty : operations ≠ []
  count : operations.length ≤ maxOperations
  distinct : operations.Nodup
  allowed : ∀ operation ∈ operations, operation ≠ .deny ∧ operation ≠ .sudo

theorem validateOperations_eq_ok_iff {operations checked : List AclCapability} :
    validateOperations operations = .ok checked ↔
      checked = operations ∧ ControlOperations operations := by
  have hspec := @collectDistinct_nil_eq_ok_iff AclCapability _ _ maxOperations id controlOperation
    operations
  rw [validateOperations]
  cases hc : collectDistinct maxOperations id controlOperation [] operations with
  | error e =>
    simp only [bind, Except.bind, reduceCtorEq, false_iff, not_and]
    intro _ ho
    have := hspec.mpr ⟨rfl, ho.count, fun a ha => by simpa [controlOperation] using ho.allowed a ha,
      by simpa using ho.distinct⟩
    simp [hc] at this
  | ok result =>
    obtain ⟨rfl, hl, ha, hd⟩ := hspec.mp hc
    by_cases hn : result = []
    · simp only [bind, Except.bind, hn, if_true, reduceCtorEq, false_iff, not_and]
      exact fun _ ho => ho.nonempty rfl
    · simp only [bind, Except.bind, hn, if_false, Except.ok.injEq]
      constructor
      · intro h
        refine ⟨h.symm, hn, hl, by simpa using hd, ?_⟩
        intro a hm
        simpa [controlOperation] using ha a hm
      · exact fun h => h.1.symm

end OpenBao.ControlGroups
