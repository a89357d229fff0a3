import Mathlib.Data.List.Lex
import OpenBao.CursorPages
import OpenBao.PathValidation

/-!
# List pagination

The pages of a KV v2 list, asked for one behind the other. The client sends the last key
of a page through the path validation, which drops the slash of a directory entry.
-/

namespace OpenBao.ListPagination
open CursorPages DelimitedLists PathValidation Utf8Text

instance linearOrderUInt8 : LinearOrder UInt8 where
  le_refl _ := UInt8.le_refl _
  le_trans _ _ _ := UInt8.le_trans
  le_antisymm _ _ := UInt8.le_antisymm
  le_total := UInt8.le_total
  lt_iff_le_not_ge a b := by
    rw [UInt8.not_le]
    exact ⟨fun h => ⟨UInt8.le_of_lt h, h⟩, And.right⟩
  toDecidableLE := inferInstance

def maxResponseStrings : ℕ := 4096

/-- The cursor that is sent for a key. -/
def sentCursor (key : Str) : Except Error Str :=
  match validateEndpointPath key with
  | .error e => .error e
  | .ok segments =>
    if segments = [] then .error (.invalidPath "pagination cursor must not be empty")
    else .ok (join '/' segments)

/-- `ListPageOptions`, with a cursor and a limit that passed their checks. -/
structure ListPageOptions where
  after : Option Str
  limit : Option ℕ
  limitBound : ∀ n ∈ limit, 0 < n ∧ n ≤ maxResponseStrings

namespace ListPageOptions

def new : ListPageOptions := ⟨none, none, nofun⟩

def withAfter (options : ListPageOptions) (after : Str) : Except Error ListPageOptions := do
  let cursor ← sentCursor after
  return { options with after := some cursor }

def withLimit (options : ListPageOptions) (limit : ℕ) : Except Error ListPageOptions :=
  if hzero : limit = 0 then
    .error (.invalidParameter "pagination limit must be greater than zero")
  else if hmax : limit > maxResponseStrings then
    .error (.invalidParameter "pagination limit exceeds maximum allowed value")
  else
    .ok
      { options with
        limit := some limit
        limitBound := by
          rintro n ⟨⟩
          omega }

def fromAfterLimit (after : Option Str) (limit : Option ℕ) : Except Error ListPageOptions := do
  let options ← match after with
    | some after => new.withAfter after
    | none => pure new
  match limit with
  | some limit => options.withLimit limit
  | none => pure options

def queryPairs (options : ListPageOptions) : List (String × Str) :=
  (match options.after with
    | some after => [("after", after)]
    | none => []) ++
  match options.limit with
    | some limit => [("limit", (Nat.repr limit).toList)]
    | none => []

end ListPageOptions

/-- `Kv2::list_after` for one path; `request` is what comes back for a query. -/
def listAfter (request : List (String × Str) → Except Error (List Str)) (after : Option Str)
    (limit : Option ℕ) : Except Error (List Str) := do
  let options ← ListPageOptions.fromAfterLimit after limit
  request options.queryPairs

/-- An entry of a KV v2 list: a name, or a directory's name with a slash. -/
def ListedKey (key : Str) : Prop :=
  ∃ name : Str, name ≠ [] ∧ '/' ∉ name ∧ (key = name ∨ key = name ++ ['/'])

/-- The keys below one path, in the server's order. -/
structure Listing where
  keys : List Str
  sorted : keys.Pairwise fun a b => asBytes a < asBytes b
  listed : ∀ key ∈ keys, ListedKey key

/-- The server: the first `limit` keys bytewise behind `after`. -/
def Listing.answer (listing : Listing) (query : List (String × Str)) : List Str :=
  let later := match query.lookup "after" with
    | some after => listing.keys.filter fun key => asBytes after < asBytes key
    | none => listing.keys
  match query.lookup "limit" with
  | some limit => later.take (Nat.ofDigitChars 10 limit 0)
  | none => later

/-- A request to the server; decoding refuses longer lists. -/
def Listing.request (listing : Listing) (query : List (String × Str)) : Except Error (List Str) :=
  if (listing.answer query).length > maxResponseStrings then
    .error (.decode "OpenBao response did not match expected schema")
  else .ok (listing.answer query)

/-- A key that the path validation returns as it is. -/
structure CursorKey (key : Str) : Prop where
  segment : CanonicalSegment key
  length : byteLen key ≤ maxPathBytes

/-- The pages that the loop over `list_after` collects, within `fuel` requests. -/
def collect (listing : Listing) (limit fuel : ℕ) : Option (Except Error (List (List Str))) :=
  paginate (fun after => listAfter listing.request after (some limit)) fuel none

/-- The loop ends, and its pages hold every key exactly once. -/
def VisitsOnce (listing : Listing) (limit : ℕ) : Prop :=
  ∃ fuel pages, collect listing limit fuel = some (.ok pages) ∧
    ∀ key, pages.flatten.count key = if key ∈ listing.keys then 1 else 0

/-- The query of a page request. -/
theorem queryPairs_of_page {limit : ℕ} (hpos : 0 < limit) (hmax : limit ≤ maxResponseStrings)
    (after : Option Str) :
    (ListPageOptions.fromAfterLimit after (some limit)).map ListPageOptions.queryPairs =
      match after with
      | none => .ok [("limit", (Nat.repr limit).toList)]
      | some key => (sentCursor key).map fun cursor =>
        [("after", cursor), ("limit", (Nat.repr limit).toList)] := by
  have hlimit : ∀ options : ListPageOptions, options.withLimit limit =
      .ok ⟨options.after, some limit, by rintro n ⟨⟩; omega⟩ := fun options => by
    rw [ListPageOptions.withLimit, dif_neg (by omega), dif_neg (by omega)]
  cases after with
  | none =>
    have hoptions : ListPageOptions.fromAfterLimit none (some limit) = .ok _ := hlimit .new
    rw [hoptions]
    rfl
  | some key =>
    have hoptions : ListPageOptions.fromAfterLimit (some key) (some limit) =
        (ListPageOptions.new.withAfter key >>= fun options => options.withLimit limit) := rfl
    rw [hoptions, ListPageOptions.withAfter]
    cases hc : sentCursor key with
    | error e =>
      simp only [hc]
      rfl
    | ok cursor =>
      simp only [hc, bind, Except.bind, pure, Except.pure, hlimit]
      rfl

/-- Requests for pages are those of a client that sends keys through `sentCursor`. -/
theorem listAfter_request (listing : Listing) {limit : ℕ} (hpos : 0 < limit)
    (hmax : limit ≤ maxResponseStrings) (after : Option Str) :
    listAfter listing.request after (some limit) =
      ask asBytes sentCursor listing.keys limit after := by
  have hpairs : listAfter listing.request after (some limit) =
      (ListPageOptions.fromAfterLimit after (some limit)).map ListPageOptions.queryPairs >>=
        listing.request := by
    rw [listAfter]
    cases ListPageOptions.fromAfterLimit after (some limit) <;> rfl
  have hrequest : ∀ query, ∀ keys : List Str, listing.answer query = keys.take limit →
      (Except.ok query >>= listing.request) = .ok (keys.take limit) := by
    intro query keys hq
    change listing.request query = _
    rw [Listing.request, hq, if_neg]
    rw [List.length_take]
    omega
  rw [hpairs, queryPairs_of_page hpos hmax]
  cases after with
  | none =>
    rw [ask]
    refine hrequest [("limit", (Nat.repr limit).toList)] listing.keys ?_
    simp [Listing.answer, List.lookup_cons]
  | some key =>
    cases hc : sentCursor key with
    | error e =>
      simp only [ask, hc]
      rfl
    | ok cursor =>
      simp only [ask, hc, Except.map]
      refine hrequest [("after", cursor), ("limit", (Nat.repr limit).toList)] _ ?_
      simp only [Listing.answer, List.lookup_cons, beq_self_eq_true, String.reduceBEq,
        Nat.toList_repr, Nat.ofDigitChars_ten_toDigits]
      exact congrArg (List.take limit) (List.filter_congr fun _ _ => decide_eq_decide.mpr Iff.rfl)

theorem sentCursor_eq_ok_iff {key cursor : Str} :
    sentCursor key = .ok cursor ↔
      ∃ segments, validateMountPath key = .ok segments ∧ join '/' segments = cursor := by
  unfold sentCursor
  cases hv : validateEndpointPath key with
  | error e => simp [validateMountPath_eq_ok_iff, hv]
  | ok segments =>
    simp only [validateMountPath_eq_ok_iff, hv]
    split
    · next h => simp [h]
    · next h => simp [h]

/-- The cursor is the key without its slashes at either end. -/
theorem trimMatches_of_sentCursor {key cursor : Str} (h : sentCursor key = .ok cursor) :
    trimMatches (· == '/') key = cursor := by
  obtain ⟨segments, hv, rfl⟩ := sentCursor_eq_ok_iff.mp h
  exact (validatePath_eq_ok_iff.mp hv).2.2.1

theorem trimMatches_name {name : Str} (h : '/' ∉ name) : trimMatches (· == '/') name = name := by
  have hmem : ∀ c ∈ name, (c == '/') = false := fun c hc =>
    beq_eq_false_iff_ne.mpr fun he => h (he ▸ hc)
  exact trimMatches_eq_self (fun a ha => hmem a (List.mem_of_mem_head? ha))
    fun a ha => hmem a (List.mem_of_mem_getLast? ha)

theorem trimMatches_directory {name : Str} (hn : name ≠ []) (h : '/' ∉ name) :
    trimMatches (· == '/') (name ++ ['/']) = name := by
  obtain ⟨c, cs, rfl⟩ := List.exists_cons_of_ne_nil hn
  have hc : (c == '/') = false := beq_eq_false_iff_ne.mpr fun he => h (by simp [he])
  have htrim := trimMatches_name h
  simp only [trimMatches, List.cons_append, List.dropWhile_cons, hc, Bool.false_eq_true,
    if_false] at htrim ⊢
  rw [← List.cons_append, List.rdropWhile_concat_pos _ _ _ (by simp)]
  exact htrim

theorem asBytes_lt_directory (name : Str) : asBytes name < asBytes (name ++ ['/']) := by
  rw [asBytes_append]
  have h : asBytes name ++ [] < asBytes name ++ asBytes ['/'] :=
    List.append_left_lt (List.nil_lt_cons _ _)
  rwa [List.append_nil] at h

/-- A listed key is sent as it is, sent as something smaller, or refused. -/
theorem ListedKey.sent {key : Str} (h : ListedKey key) :
    sentCursor key = .ok key ∨ ∀ cursor, sentCursor key = .ok cursor → asBytes cursor < asBytes key := by
  obtain ⟨name, hn, hslash, rfl | rfl⟩ := h
  · cases hc : sentCursor key with
    | error e => exact .inr nofun
    | ok cursor =>
      left
      rw [← trimMatches_of_sentCursor hc, trimMatches_name hslash]
  · right
    intro cursor hc
    rw [← trimMatches_of_sentCursor hc, trimMatches_directory hn hslash]
    exact asBytes_lt_directory name

/-- The keys that are sent as they are. -/
theorem ListedKey.sentCursor_eq_ok_iff {key : Str} (h : ListedKey key) :
    sentCursor key = .ok key ↔ CursorKey key := by
  constructor
  · intro hc
    obtain ⟨segments, hv, hj⟩ := ListPagination.sentCursor_eq_ok_iff.mp hc
    obtain ⟨hlen, hall, htrim, -⟩ := validatePath_eq_ok_iff.mp hv
    have hcanonical := validateMountPath_canonical hv
    have hne := hj ▸ hcanonical.toPathSegments.join_ne_nil
    refine ⟨⟨hne, hall, ?_, ?_⟩, hlen⟩
    · obtain ⟨name, hn, hslash, rfl | rfl⟩ := h
      · exact hslash
      · rw [trimMatches_directory hn hslash, hj] at htrim
        exact absurd htrim.symm (by simp)
    · obtain ⟨q, hq, he⟩ := hcanonical.toPathSegments.join_getLast?
      rw [hj] at he
      rw [he]
      exact hq.noFinalPeriod
  · rintro ⟨hsegment, hlen⟩
    have hpath : PathSegments [key] := ⟨by simp, fun s hs => List.mem_singleton.mp hs ▸ hsegment⟩
    have hjoin : join '/' [key] = key := by simp [join]
    refine ListPagination.sentCursor_eq_ok_iff.mpr ⟨[key], ?_, hjoin⟩
    have hv : validateMountPath (join '/' [key]) = .ok [key] :=
      (validateMountPath_join hpath).mpr ⟨rfl, by simp [maxPathSegments], by rwa [hjoin]⟩
    rwa [hjoin] at hv

theorem Listing.nodup (listing : Listing) : listing.keys.Nodup :=
  listing.sorted.imp fun {a b} h he => by
    subst he
    exact lt_irrefl _ h

theorem collect_eq (listing : Listing) {limit : ℕ} (hpos : 0 < limit)
    (hmax : limit ≤ maxResponseStrings) (fuel : ℕ) :
    collect listing limit fuel =
      paginate (ask asBytes sentCursor listing.keys limit) fuel none := by
  rw [collect, funext (listAfter_request listing hpos hmax)]

/-- A page that ends in a key which is not sent as it is spoils the loop. -/
theorem not_visitsOnce (listing : Listing) {limit : ℕ} (hpos : 0 < limit)
    (hmax : limit ≤ maxResponseStrings)
    (h : ∃ key ∈ pageEnds limit listing.keys, sentCursor key ≠ .ok key) :
    ¬ VisitsOnce listing limit := by
  rintro ⟨fuel, pages, hpages, hcount⟩
  rw [collect_eq listing hpos hmax] at hpages
  have hdup := not_nodup_of_paginate hpos listing.sorted
    (fun key hkey => (listing.listed key hkey).sent) (List.nil_append _) rfl h hpages
  refine hdup (List.nodup_iff_count_le_one.mpr fun key => ?_)
  rw [List.nil_append, hcount]
  split <;> omega

/-- The loop visits every key exactly once when, and only when, no page ends in a directory
entry or in another key that the path validation does not return as it is. -/
theorem visitsOnce_iff (listing : Listing) {limit : ℕ} (hpos : 0 < limit)
    (hmax : limit ≤ maxResponseStrings) :
    (VisitsOnce listing limit ↔ ∀ key ∈ pageEnds limit listing.keys, CursorKey key) ∧
      ∀ key ∈ listing.keys, sentCursor key = .ok key ↔ CursorKey key := by
  have hsent : ∀ key ∈ listing.keys, sentCursor key = .ok key ↔ CursorKey key :=
    fun key hkey => (listing.listed key hkey).sentCursor_eq_ok_iff
  refine ⟨⟨fun hvisits key hkey => ?_, fun hends => ?_⟩, hsent⟩
  · by_contra hbad
    have hmem := mem_of_mem_pageEnds hkey
    exact not_visitsOnce listing hpos hmax ⟨key, hkey, fun h => hbad ((hsent key hmem).mp h)⟩ hvisits
  · refine ⟨(pages limit listing.keys).length + 1, pages limit listing.keys, ?_, fun key => ?_⟩
    · rw [collect_eq listing hpos hmax]
      refine paginate_eq_pages hpos listing.sorted (List.nil_append _) rfl (fun key hkey => ?_)
        (Nat.lt_succ_self _)
      exact (hsent key (mem_of_mem_pageEnds hkey)).mpr (hends key hkey)
    · rw [pages_flatten]
      split
      · next h => exact List.count_eq_one_of_mem listing.nodup h
      · next h => exact List.count_eq_zero_of_not_mem h

def plainListing : Listing where
  keys := ["app".toList, "db".toList]
  sorted := by decide +kernel
  listed := by
    intro key hkey
    simp only [List.mem_cons, List.not_mem_nil, or_false] at hkey
    rcases hkey with rfl | rfl
    · exact ⟨_, by decide, by decide, .inl rfl⟩
    · exact ⟨_, by decide, by decide, .inl rfl⟩

theorem plainListing_visitsOnce_iff :
    (VisitsOnce plainListing 1 ↔ ∀ key ∈ pageEnds 1 plainListing.keys, CursorKey key) ∧
      ∀ key ∈ plainListing.keys, sentCursor key = .ok key ↔ CursorKey key :=
  visitsOnce_iff plainListing (by decide) (by decide)

def directoryListing : Listing where
  keys := ["team/".toList]
  sorted := List.pairwise_singleton _ _
  listed key hkey :=
    ⟨"team".toList, by decide, by decide, .inr (by simpa using hkey)⟩

/-- The cursor `team` lies before the entry `team/`, which comes back for ever. -/
theorem directoryListing_not_visitsOnce : ¬ VisitsOnce directoryListing 1 :=
  not_visitsOnce directoryListing (by decide) (by decide)
    ⟨"team/".toList, by simp [pageEnds, pages, directoryListing], by decide +kernel⟩

end OpenBao.ListPagination
