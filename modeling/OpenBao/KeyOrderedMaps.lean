import Mathlib.Data.List.Forall2
import Mathlib.Data.List.Sort

/-!
# Maps in key order

A map as the list of its entries with strictly increasing keys, which is the order
it is walked in. Inserting reports the value that the key had before.
-/

namespace OpenBao.KeyOrderedMaps

variable {K V W : Type} [LinearOrder K]

def Ordered (entries : List (K × V)) : Prop := entries.Pairwise fun a b => a.1 < b.1

def insertEntry (key : K) (value : V) : List (K × V) → Option V × List (K × V)
  | [] => (none, [(key, value)])
  | (k, v) :: rest =>
    if key < k then (none, (key, value) :: (k, v) :: rest)
    else if key = k then (some v, (key, value) :: rest)
    else ((insertEntry key value rest).1, (k, v) :: (insertEntry key value rest).2)

def get (key : K) : List (K × V) → Option V
  | [] => none
  | (k, v) :: rest => if k = key then some v else get key rest

/-- Inserts members one after the other. -/
def insertAll (entries members : List (K × V)) : List (K × V) :=
  members.foldl (fun entries m => (insertEntry m.1 m.2 entries).2) entries

/-- Members in the order of their keys. -/
def sortByKey (members : List (K × V)) : List (K × V) :=
  members.insertionSort fun a b => a.1 ≤ b.1

theorem ordered_nil : Ordered ([] : List (K × V)) := List.Pairwise.nil

theorem insertEntry_perm {key : K} {value : V} {entries : List (K × V)}
    (h : key ∉ entries.map Prod.fst) :
    (insertEntry key value entries).2.Perm ((key, value) :: entries) := by
  induction entries with
  | nil => exact List.Perm.refl _
  | cons e rest ih =>
    simp only [List.map_cons, List.mem_cons, not_or] at h
    rw [insertEntry]
    split_ifs with hlt heq
    · exact List.Perm.refl _
    · exact absurd heq h.1
    · exact ((ih h.2).cons e).trans (List.Perm.swap _ _ _)

theorem key_of_mem_insertEntry {key : K} {value : V} {entries : List (K × V)} {e : K × V}
    (h : e ∈ (insertEntry key value entries).2) : e.1 = key ∨ e ∈ entries := by
  induction entries with
  | nil =>
    rw [insertEntry, List.mem_singleton] at h
    exact .inl (by rw [h])
  | cons e' rest ih =>
    rw [insertEntry] at h
    grind

theorem mem_keys_insertEntry {k key : K} {value : V} {entries : List (K × V)} :
    k ∈ (insertEntry key value entries).2.map Prod.fst ↔ k = key ∨ k ∈ entries.map Prod.fst := by
  induction entries with
  | nil => simp [insertEntry]
  | cons e rest ih =>
    rw [insertEntry]
    split_ifs with hlt heq
    · simp
    · simp [heq]
    · rw [List.map_cons, List.mem_cons, ih, List.map_cons, List.mem_cons, or_left_comm]

theorem get_insertEntry {k key : K} {value : V} {entries : List (K × V)} :
    get k (insertEntry key value entries).2 = if k = key then some value else get k entries := by
  induction entries with
  | nil => simp [insertEntry, get, eq_comm]
  | cons e rest ih =>
    rw [insertEntry]
    split_ifs with hlt heq hk hk
    all_goals simp only [get]
    all_goals grind

theorem insertEntry_ordered {key : K} {value : V} {entries : List (K × V)} (h : Ordered entries) :
    Ordered (insertEntry key value entries).2 := by
  induction entries with
  | nil => exact List.pairwise_singleton _ _
  | cons e rest ih =>
    obtain ⟨hfirst, hrest⟩ := List.pairwise_cons.mp h
    rw [insertEntry]
    split_ifs with hlt heq
    · refine List.pairwise_cons.mpr ⟨?_, h⟩
      intro e' he'
      obtain rfl | he' := List.mem_cons.mp he'
      · exact hlt
      · exact hlt.trans (hfirst e' he')
    · exact List.pairwise_cons.mpr ⟨fun e' he' => heq ▸ hfirst e' he', hrest⟩
    · refine List.pairwise_cons.mpr ⟨?_, ih hrest⟩
      intro e' he'
      obtain hkey | he' := key_of_mem_insertEntry he'
      · exact hkey ▸ lt_of_le_of_ne (not_lt.mp hlt) (Ne.symm heq)
      · exact hfirst e' he'

/-- The key had a value before exactly if it was there. -/
theorem insertEntry_fst_eq_none_iff {key : K} {value : V} {entries : List (K × V)} (h : Ordered entries) :
    (insertEntry key value entries).1 = none ↔ key ∉ entries.map Prod.fst := by
  induction entries with
  | nil => simp [insertEntry]
  | cons e rest ih =>
    obtain ⟨hfirst, hrest⟩ := List.pairwise_cons.mp h
    rw [insertEntry]
    split_ifs with hlt heq
    · have hnew : ∀ e' ∈ e :: rest, e'.1 ≠ key := by
        intro e' he'
        obtain rfl | he' := List.mem_cons.mp he'
        · exact hlt.ne'
        · exact (hlt.trans (hfirst e' he')).ne'
      simp only [true_iff]
      intro hkey
      obtain ⟨e', he', rfl⟩ := List.mem_map.mp hkey
      exact hnew e' he' rfl
    · simp [heq]
    · simp [ih hrest, heq]

theorem eq_of_perm {entries entries' : List (K × V)} (h : Ordered entries) (h' : Ordered entries')
    (hp : entries.Perm entries') : entries = entries' :=
  hp.eq_of_pairwise (fun _ _ _ _ hab hba => absurd hba (lt_asymm hab)) h h'

theorem sortByKey_perm (members : List (K × V)) : (sortByKey members).Perm members :=
  List.perm_insertionSort _ members

theorem sortByKey_ordered {members : List (K × V)} (h : (members.map Prod.fst).Nodup) :
    Ordered (sortByKey members) := by
  have hle : (sortByKey members).Pairwise fun a b => a.1 ≤ b.1 :=
    @List.pairwise_insertionSort _ (fun a b : K × V => a.1 ≤ b.1) _
      ⟨fun a b => le_total a.1 b.1⟩ ⟨fun _ _ _ => le_trans⟩ members
  have hne : (sortByKey members).Pairwise fun a b => a.1 ≠ b.1 :=
    List.pairwise_map.mp (((sortByKey_perm members).map Prod.fst).nodup_iff.mpr h)
  exact (hle.and hne).imp fun hab => lt_of_le_of_ne hab.1 hab.2

theorem insertAll_spec {entries members : List (K × V)} (h : Ordered entries)
    (hn : ((entries ++ members).map Prod.fst).Nodup) :
    Ordered (insertAll entries members) ∧ (insertAll entries members).Perm (entries ++ members) := by
  induction members generalizing entries with
  | nil => exact ⟨h, by simp [insertAll]⟩
  | cons m members ih =>
    have hnew : m.1 ∉ entries.map Prod.fst := by
      intro hm
      rw [List.map_append, List.nodup_append] at hn
      exact hn.2.2 m.1 hm m.1 (by simp) rfl
    have hp : ((insertEntry m.1 m.2 entries).2 ++ members).Perm (entries ++ m :: members) :=
      ((insertEntry_perm hnew).append_right members).trans List.perm_middle.symm
    have hinserted : Ordered (insertEntry m.1 m.2 entries).2 := insertEntry_ordered h
    obtain ⟨hordered, hperm⟩ := ih hinserted ((hp.map Prod.fst).nodup_iff.mpr hn)
    exact ⟨hordered, hperm.trans hp⟩

/-- Collecting members with distinct keys sorts them. -/
theorem insertAll_eq_sortByKey {members : List (K × V)} (h : (members.map Prod.fst).Nodup) :
    insertAll [] members = sortByKey members := by
  have hnil : Ordered ([] : List (K × V)) := ordered_nil
  obtain ⟨hordered, hperm⟩ := insertAll_spec hnil h
  exact eq_of_perm hordered (sortByKey_ordered h) (hperm.trans (sortByKey_perm members).symm)

theorem get_eq_some_iff {key : K} {value : V} {entries : List (K × V)} (h : Ordered entries) :
    get key entries = some value ↔ (key, value) ∈ entries := by
  induction entries with
  | nil => simp [get]
  | cons e rest ih =>
    obtain ⟨hfirst, hrest⟩ := List.pairwise_cons.mp h
    rw [get, List.mem_cons]
    split
    · next hkey =>
      have hnot : (key, value) ∉ rest := fun hmem => (hfirst _ hmem).ne hkey
      rw [or_iff_left hnot, Option.some.injEq, Prod.ext_iff]
      exact ⟨fun hvalue => ⟨hkey.symm, hvalue.symm⟩, fun heq => heq.2.symm⟩
    · next hkey =>
      have hne : (key, value) ≠ e := fun heq => hkey (congrArg Prod.fst heq).symm
      rw [or_iff_right hne, ih hrest]

theorem get_isSome_iff {key : K} {entries : List (K × V)} (h : Ordered entries) :
    (get key entries).isSome = true ↔ key ∈ entries.map Prod.fst := by
  simp [Option.isSome_iff_exists, get_eq_some_iff h]

theorem Ordered.keys_nodup {entries : List (K × V)} (h : Ordered entries) :
    (entries.map Prod.fst).Nodup :=
  List.pairwise_map.mpr (h.imp fun hlt => hlt.ne)

/-- Two maps of one size have the same keys when each key of one is a key of the other. -/
theorem keys_eq {entries : List (K × V)} {entries' : List (K × W)} (h : Ordered entries)
    (h' : Ordered entries') (hlength : entries.length = entries'.length)
    (hkeys : ∀ e ∈ entries, e.1 ∈ entries'.map Prod.fst) :
    entries.map Prod.fst = entries'.map Prod.fst := by
  have hsubset : entries.map Prod.fst ⊆ entries'.map Prod.fst := by
    intro key hkey
    obtain ⟨e, he, rfl⟩ := List.mem_map.mp hkey
    exact hkeys e he
  have hperm : (entries.map Prod.fst).Perm (entries'.map Prod.fst) := by
    refine (List.subperm_of_subset h.keys_nodup hsubset).perm_of_length_le ?_
    rw [List.length_map, List.length_map, hlength]
  have hsorted : (entries.map Prod.fst).Pairwise (· < ·) := List.pairwise_map.mpr h
  have hsorted' : (entries'.map Prod.fst).Pairwise (· < ·) := List.pairwise_map.mpr h'
  exact hperm.eq_of_pairwise (fun _ _ _ _ hab hba => absurd hba (lt_asymm hab)) hsorted hsorted'

/-- Looking up each entry of a map in another one of the same size walks through both at once. -/
theorem forall_get_iff {entries : List (K × V)} {entries' : List (K × W)} {R : V → W → Prop}
    (h : Ordered entries) (h' : Ordered entries') :
    (entries.length = entries'.length ∧
        ∀ e ∈ entries, ∃ value, get e.1 entries' = some value ∧ R e.2 value) ↔
      List.Forall₂ (fun e e' => e.1 = e'.1 ∧ R e.2 e'.2) entries entries' := by
  constructor
  · rintro ⟨hlength, hget⟩
    have hkeys := keys_eq h h' hlength fun e he => by
      obtain ⟨value, hvalue, -⟩ := hget e he
      exact List.mem_map.mpr ⟨_, (get_eq_some_iff h').mp hvalue, rfl⟩
    refine List.forall₂_iff_get.mpr ⟨hlength, fun i hi hi' => ?_⟩
    have hkey : (entries.get ⟨i, hi⟩).1 = (entries'.get ⟨i, hi'⟩).1 := by
      have hat : (entries.map Prod.fst)[i]? = (entries'.map Prod.fst)[i]? := by rw [hkeys]
      simpa [hi, hi'] using hat
    obtain ⟨value, hvalue, hR⟩ := hget _ (entries.get_mem ⟨i, hi⟩)
    have hsame : get (entries.get ⟨i, hi⟩).1 entries' = some (entries'.get ⟨i, hi'⟩).2 := by
      rw [hkey, get_eq_some_iff h']
      exact entries'.get_mem ⟨i, hi'⟩
    rw [Option.some.inj (hsame.symm.trans hvalue)]
    exact ⟨hkey, hR⟩
  · intro hall
    refine ⟨hall.length_eq, fun e he => ?_⟩
    obtain ⟨i, hi, rfl⟩ := List.getElem_of_mem he
    obtain ⟨hkey, hR⟩ := hall.get hi (hall.length_eq ▸ hi)
    refine ⟨_, ?_, hR⟩
    have hfound := (get_eq_some_iff h').mpr (entries'.get_mem ⟨i, hall.length_eq ▸ hi⟩)
    exact (congrArg (get · entries') hkey).trans hfound

end OpenBao.KeyOrderedMaps
