import Mathlib.Data.List.Nodup
import Mathlib.Order.Lattice

/-!
# Paging behind a cursor

A server holds keys in strict order and answers with the first ones behind a cursor; a
client asks on behind the last key of each page until a page is empty. What the
client sends for a key is a parameter: the loop visits every key once when the keys
that end a page are sent as they are, and visits some key again when one of them is
sent as something smaller.
-/

namespace OpenBao.CursorPages

variable {K O E : Type*} [LinearOrder O]

/-- The client's loop; no result means that the fuel ran out. -/
def paginate (ask : Option K → Except E (List K)) :
    ℕ → Option K → Option (Except E (List (List K)))
  | 0, _ => none
  | fuel + 1, after =>
    match ask after with
    | .error e => some (.error e)
    | .ok [] => some (.ok [])
    | .ok page => (paginate ask fuel page.getLast?).map fun rest => rest.map (page :: ·)

/-- The keys in pages of `limit`. -/
def pages (limit : ℕ) : List K → List (List K)
  | [] => []
  | key :: keys => (key :: keys.take (limit - 1)) :: pages limit (keys.drop (limit - 1))
termination_by keys => keys.length
decreasing_by
  simp only [List.length_drop, List.length_cons]
  omega

/-- The keys that end a page. -/
def pageEnds (limit : ℕ) (keys : List K) : List K := (pages limit keys).filterMap List.getLast?

/-- The server's answer behind the cursor that `send` makes of a key. -/
def ask (rank : K → O) (send : K → Except E K) (keys : List K) (limit : ℕ) :
    Option K → Except E (List K)
  | none => .ok (keys.take limit)
  | some key => (send key).map fun cursor =>
    (keys.filter fun k => rank cursor < rank k).take limit

theorem pages_flatten (limit : ℕ) (keys : List K) : (pages limit keys).flatten = keys := by
  fun_induction pages limit keys with
  | case1 => rfl
  | case2 key keys ih => rw [List.flatten_cons, ih, List.cons_append, List.take_append_drop]

theorem mem_of_mem_pageEnds {limit : ℕ} {keys : List K} {key : K} (h : key ∈ pageEnds limit keys) :
    key ∈ keys := by
  obtain ⟨page, hpage, hlast⟩ := List.mem_filterMap.mp h
  have hmem := List.mem_flatten_of_mem hpage (List.mem_of_getLast? hlast)
  rwa [pages_flatten] at hmem

variable {rank : K → O} {send : K → Except E K} {keys : List K} {limit : ℕ}

/-- Behind the last key of a prefix lies the rest. -/
theorem filter_behind {done rest : List K} {last : K}
    (hs : (done ++ rest).Pairwise fun a b => rank a < rank b) (hl : done.getLast? = some last) :
    (done ++ rest).filter (fun k => rank last < rank k) = rest := by
  obtain ⟨init, rfl⟩ := List.getLast?_eq_some_iff.mp hl
  obtain ⟨hdone, -, hcross⟩ := List.pairwise_append.mp hs
  have hbefore : ∀ a ∈ init, rank a < rank last := fun a ha =>
    (List.pairwise_append.mp hdone).2.2 a ha last (List.mem_singleton_self last)
  rw [List.filter_append, List.filter_eq_nil_iff.mpr, List.nil_append, List.filter_eq_self.mpr]
  · intro k hk
    exact decide_eq_true (hcross last (by simp) k hk)
  · intro a ha
    rw [decide_eq_true_eq, not_lt]
    rcases List.mem_append.mp ha with ha | ha
    · exact le_of_lt (hbefore a ha)
    · rw [List.mem_singleton.mp ha]

/-- The answer behind a page whose last key is sent as it is. -/
theorem ask_behind {done page rest : List K} {last : K}
    (hkeys : (done ++ page) ++ rest = keys) (hs : keys.Pairwise fun a b => rank a < rank b)
    (hl : page.getLast? = some last) (hsend : send last = .ok last) :
    ask rank send keys limit (some last) = .ok (rest.take limit) := by
  subst hkeys
  have hlast : (done ++ page).getLast? = some last := by rw [List.getLast?_append, hl]; rfl
  rw [ask, hsend, Except.map, filter_behind hs hlast]

theorem take_cons_of_pos (hlimit : 0 < limit) (key : K) (keys : List K) :
    (key :: keys).take limit = key :: keys.take (limit - 1) := by
  obtain ⟨n, rfl⟩ : ∃ n, limit = n + 1 := ⟨limit - 1, by omega⟩
  rfl

/-- One round of the loop with a page that is not empty. -/
theorem paginate_succ {f : Option K → Except E (List K)} {after : Option K} {key : K} {page : List K}
    (h : f after = .ok (key :: page)) (fuel : ℕ) :
    paginate f (fuel + 1) after =
      (paginate f fuel (key :: page).getLast?).map fun rest => rest.map ((key :: page) :: ·) := by
  rw [paginate, h]

theorem pages_cons (key : K) (keys : List K) :
    pages limit (key :: keys) =
      (key :: keys.take (limit - 1)) :: pages limit (keys.drop (limit - 1)) := by
  rw [pages]

/-- The ends of the pages of a list that is not empty. -/
theorem mem_pageEnds_cons {key last k : K} {keys : List K}
    (hlast : (key :: keys.take (limit - 1)).getLast? = some last) :
    k ∈ pageEnds limit (key :: keys) ↔ k = last ∨ k ∈ pageEnds limit (keys.drop (limit - 1)) := by
  rw [pageEnds, pages_cons, List.filterMap_cons_some hlast, List.mem_cons, pageEnds]

/-- With the keys that end a page sent as they are, the loop collects the pages. -/
theorem paginate_eq_pages (hlimit : 0 < limit) (hs : keys.Pairwise fun a b => rank a < rank b)
    {done rest : List K} {after : Option K} {fuel : ℕ} (hkeys : done ++ rest = keys)
    (hask : ask rank send keys limit after = .ok (rest.take limit))
    (hends : ∀ key ∈ pageEnds limit rest, send key = .ok key)
    (hfuel : (pages limit rest).length < fuel) :
    paginate (ask rank send keys limit) fuel after = some (.ok (pages limit rest)) := by
  obtain ⟨fuel, rfl⟩ : ∃ f, fuel = f + 1 := ⟨fuel - 1, by omega⟩
  fun_induction pages limit rest generalizing done after fuel with
  | case1 =>
    rw [paginate, hask]
    simp
  | case2 key rest ih =>
    rw [take_cons_of_pos hlimit] at hask
    rw [paginate_succ hask]
    obtain ⟨last, hlast⟩ : ∃ last, (key :: rest.take (limit - 1)).getLast? = some last :=
      ⟨_, List.getLast?_eq_some_getLast (List.cons_ne_nil _ _)⟩
    have hends := fun k hk => hends k ((mem_pageEnds_cons hlast).mpr hk)
    have hcut : (done ++ (key :: rest.take (limit - 1))) ++ rest.drop (limit - 1) = keys := by
      rw [← hkeys, List.append_assoc, List.cons_append, List.take_append_drop]
    have hbehind : ask rank send keys limit (some last) =
        .ok ((rest.drop (limit - 1)).take limit) := ask_behind hcut hs hlast (hends last (.inl rfl))
    obtain ⟨fuel, rfl⟩ : ∃ f, fuel = f + 1 :=
      ⟨fuel - 1, by simp only [List.length_cons] at hfuel; omega⟩
    rw [hlast, ih hcut hbehind (fun k hk => hends k (.inr hk)) fuel (by simpa using hfuel)]
    rfl

/-- Behind a cursor smaller than the last key the server starts with a visited key. -/
theorem exists_revisited {done page rest : List K} {last cursor : K} (hlimit : 0 < limit)
    (hkeys : (done ++ page) ++ rest = keys) (hl : last ∈ page) (hlt : rank cursor < rank last) :
    ∃ key ∈ done ++ page, ∃ more,
      (keys.filter fun k => rank cursor < rank k).take limit = key :: more := by
  subst hkeys
  have hmem : last ∈ (done ++ page).filter fun k => rank cursor < rank k :=
    List.mem_filter.mpr ⟨List.mem_append_right _ hl, decide_eq_true hlt⟩
  rw [List.filter_append]
  cases hf : (done ++ page).filter fun k => rank cursor < rank k with
  | nil => simp [hf] at hmem
  | cons key more =>
    refine ⟨key, (List.mem_filter.mp (hf ▸ List.mem_cons_self)).1, ?_⟩
    rw [List.cons_append, take_cons_of_pos hlimit]
    exact ⟨_, rfl⟩

/-- When some key that ends a page is refused or sent as something smaller, a loop that
ends at all visits a key again. -/
theorem not_nodup_of_paginate (hlimit : 0 < limit) (hs : keys.Pairwise fun a b => rank a < rank b)
    (hsend : ∀ key ∈ keys, send key = .ok key ∨ ∀ c, send key = .ok c → rank c < rank key)
    {done rest : List K} {after : Option K} {fuel : ℕ} {result : List (List K)}
    (hkeys : done ++ rest = keys)
    (hask : ask rank send keys limit after = .ok (rest.take limit))
    (hend : ∃ key ∈ pageEnds limit rest, send key ≠ .ok key)
    (hresult : paginate (ask rank send keys limit) fuel after = some (.ok result)) :
    ¬ (done ++ result.flatten).Nodup := by
  fun_induction pages limit rest generalizing done after fuel result with
  | case1 => simp [pageEnds, pages] at hend
  | case2 key rest ih =>
    cases fuel with
    | zero => cases hresult
    | succ fuel =>
      rw [take_cons_of_pos hlimit] at hask
      rw [paginate_succ hask] at hresult
      obtain ⟨last, hlast⟩ : ∃ last, (key :: rest.take (limit - 1)).getLast? = some last :=
        ⟨_, List.getLast?_eq_some_getLast (List.cons_ne_nil _ _)⟩
      have hcut : (done ++ (key :: rest.take (limit - 1))) ++ rest.drop (limit - 1) = keys := by
        rw [← hkeys, List.append_assoc, List.cons_append, List.take_append_drop]
      have hmem : last ∈ key :: rest.take (limit - 1) := List.mem_of_getLast? hlast
      rw [hlast] at hresult
      obtain ⟨outcome, houtcome, hresult⟩ := Option.map_eq_some_iff.mp hresult
      cases outcome with
      | error e => cases hresult
      | ok more =>
        cases hresult
        rw [List.flatten_cons, ← List.append_assoc]
        by_cases hgood : send last = .ok last
        · refine ih hcut (ask_behind hcut hs hlast hgood) ?_ houtcome
          obtain ⟨k, hk, hbad⟩ := hend
          rcases (mem_pageEnds_cons hlast).mp hk with rfl | hk
          · exact absurd hgood hbad
          · exact ⟨k, hk, hbad⟩
        · cases fuel with
          | zero => cases houtcome
          | succ fuel =>
            have hkey : last ∈ keys := by
              rw [← hcut]
              exact List.mem_append_left _ (List.mem_append_right _ hmem)
            cases hc : send last with
            | error e =>
              rw [paginate, ask, hc] at houtcome
              cases houtcome
            | ok cursor =>
              have hlt := (hsend last hkey).resolve_left hgood cursor hc
              obtain ⟨again, hagain, tail, htake⟩ := exists_revisited hlimit hcut hmem hlt
              have hanswer : ask rank send keys limit (some last) = .ok (again :: tail) := by
                rw [ask, hc, Except.map, htake]
              rw [paginate_succ hanswer] at houtcome
              obtain ⟨outcome, -, houtcome⟩ := Option.map_eq_some_iff.mp houtcome
              cases outcome with
              | error e => cases houtcome
              | ok rest' =>
                cases houtcome
                intro hnodup
                exact (List.nodup_append.mp hnodup).2.2 again hagain again (by simp) rfl

end OpenBao.CursorPages
