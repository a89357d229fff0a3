import OpenBao.DsnText
import OpenBao.KeywordValueGrammar

/-!
# PostgreSQL connection URIs

The hand-written URI check of the source and the driver's reading of the same
text. The driver discards query pieces that contain a semicolon.
-/

namespace OpenBao.PostgresUriDsn
open DelimitedLists DsnText KeywordValueGrammar Utf8Text

/-- The byte index of the first `c`. -/
def findChar (c : Char) : Str → Option ℕ
  | [] => none
  | d :: s => if d = c then some 0 else (findChar c s).map (byteLen [d] + ·)

/-- `&s[..stop]`, or nothing where the index is out of range or inside a
character. -/
def sliceTo : Str → ℕ → Option Str
  | _, 0 => some []
  | [], _ + 1 => none
  | c :: s, stop => if byteLen [c] ≤ stop then (sliceTo s (stop - byteLen [c])).map (c :: ·) else none

def postgresUriPortIsValid (port : Str) : Bool :=
  !port.isEmpty && port.all Char.isDigit && Nat.ofDigitChars 10 port 0 ≤ 65535 &&
    Nat.ofDigitChars 10 port 0 != 0

/-- The host behind an opening bracket. -/
def bracketedHost (bracketed : Str) : Option Str := do
  let (host, remainder) ← splitOnce ']' bracketed
  if host = [] ∨ '[' ∈ host ∨ ']' ∈ host then none
  else if remainder = [] then some host
  else
    let port ← remainder.dropPrefix? [':']
    if postgresUriPortIsValid port then some host else none

/-- The host of a text without brackets. -/
def plainHost (hostAndPort : Str) : Option Str :=
  if '[' ∈ hostAndPort ∨ ']' ∈ hostAndPort ∨ '%' ∈ hostAndPort then none
  else match rsplitOnce ':' hostAndPort with
    | some (host, port) =>
      if host = [] ∨ ':' ∈ host ∨ !postgresUriPortIsValid port then none else some host
    | none => some hostAndPort

/-- The part of `postgresUriAuthorityHost` behind the user information. -/
def hostOfHostAndPort (hostAndPort : Str) : Option Str :=
  if hostAndPort = [] then some []
  else match hostAndPort.dropPrefix? ['['] with
    | some bracketed => bracketedHost bracketed
    | none => plainHost hostAndPort

def postgresUriAuthorityHost (authority : Str) : Option Str :=
  match rsplitOnce '@' authority with
  | some (userinfo, hostAndPort) =>
    if '@' ∈ userinfo ∨ userinfo = [] then none else hostOfHostAndPort hostAndPort
  | none => hostOfHostAndPort authority

/-- The loop over the query. Nothing where the source returns `false`. -/
def uriParameters (allowedModes : List Bytes) :
    Bool → Option Bytes → List Str → Option (Bool × Option Bytes)
  | tlsMode, host, [] => some (tlsMode, host)
  | tlsMode, host, parameter :: rest => do
    let key ← percentDecodeStrict (cutParameter parameter).1
    if isCaseVariant key then none
    else if key = sslmodeKey then
      let value ← percentDecodeStrict (cutParameter parameter).2
      if tlsMode ∨ value ∉ allowedModes then none
      else uriParameters allowedModes true host rest
    else if key = hostKey then
      if host.isSome then none
      else
        let value ← percentDecodeStrict (cutParameter parameter).2
        uriParameters allowedModes tlsMode (some value) rest
    else if key = serviceKey ∨ key = servicefileKey then none
    else uriParameters allowedModes tlsMode host rest

def uriOf (dsn : Str) : Option Str :=
  (dsn.dropPrefix? "postgresql://".toList).or (dsn.dropPrefix? "postgres://".toList)

/-- The check behind the authority. -/
def uriVerdict (allowedModes : List Bytes) (authorityHost query : Str) : Bool :=
  match uriParameters allowedModes false none (query.splitOn '&') with
  | none => false
  | some (tlsMode, hostOverride) =>
    if !tlsMode then false
    else match hostOverride with
      | some host => postgresHostsAreExplicitTcp host
      | none => !authorityHost.isEmpty && postgresHostsAreExplicitTcp (asBytes authorityHost)

/-- The URI check. Nothing where the slice of the authority would panic. -/
def postgresUriUsesTcpTlsModes (dsn : Str) (allowedModes : List Bytes) : Option Bool :=
  match uriOf dsn with
  | none => some false
  | some uri =>
    if (asBytes dsn).any (fun byte => isAsciiWhitespace byte || isAsciiControl byte) ||
        uri.contains '#' then some false
    else match splitOnce '?' uri with
      | none => some false
      | some (location, query) => do
        let authority ← sliceTo location ((findChar '/' location).getD (byteLen location))
        match postgresUriAuthorityHost authority with
        | none => some false
        | some authorityHost => some (uriVerdict allowedModes authorityHost query)

/-- The authority as the driver delimits it. -/
def driverAuthority (uri : Str) : Str := uri.takeWhile fun c => c ≠ '/' && c ≠ '?'

/-- What follows the user information. -/
def driverHostAndPort (uri : Str) : Str :=
  ((rsplitOnce '@' (driverAuthority uri)).map Prod.snd).getD (driverAuthority uri)

/-- Hosts without brackets or port. -/
def hostsOf (hostAndPort : Str) : Str :=
  match hostAndPort.dropPrefix? ['['] with
  | some bracketed => ((rsplitOnce ']' bracketed).map Prod.fst).getD []
  | none => ((rsplitOnce ':' hostAndPort).map Prod.fst).getD hostAndPort

/-- The port behind the hosts. -/
def portOf (hostAndPort : Str) : Option Str :=
  match hostAndPort.dropPrefix? ['['] with
  | some bracketed => (rsplitOnce ']' bracketed).bind fun p => p.2.dropPrefix? [':']
  | none => (rsplitOnce ':' hostAndPort).map Prod.snd

def driverAuthorityHosts (uri : Str) : Str := hostsOf (driverHostAndPort uri)
def driverAuthorityPort (uri : Str) : Option Str := portOf (driverHostAndPort uri)

/-- Decimal digits that spell a TCP port. -/
def PortInRange (port : Str) : Prop :=
  port ≠ [] ∧ (∀ c ∈ port, c.isDigit = true) ∧ 1 ≤ Nat.ofDigitChars 10 port 0 ∧
    Nat.ofDigitChars 10 port 0 ≤ 65535

def pieceKey (piece : Str) : Option Bytes := percentDecodeStrict (cutParameter piece).1
def pieceValue (piece : Str) : Option Bytes := percentDecodeStrict (cutParameter piece).2

/-- The pieces of the query whose decoded key is `key`. -/
def piecesOf (key : Bytes) (pieces : List Str) : List Str :=
  pieces.filter fun piece => pieceKey piece = some key

def queryPieces (uri : Str) : List Str :=
  (((splitOnce '?' uri).map Prod.snd).getD []).splitOn '&'

/-- The settings that the driver takes from the query. -/
def driverQuery (pieces : List Str) : List Setting :=
  (pieces.filter fun piece => !piece.contains ';').filterMap fun piece => do
    let key ← pieceKey piece
    let value ← pieceValue piece
    some (key, value)

def firstValue (key : Bytes) (settings : List Setting) : Option Bytes :=
  (settings.find? fun s => s.1 = key).map Prod.snd

/-- Host text as the driver's reading needs it, by where the hosts come from. -/
def HostsAreTcp (uri : Str) : Option Bytes → Prop
  | some value => ∃ text, fromUtf8 value = some text ∧ TcpHostList text
  | none => TcpHostList (driverAuthorityHosts uri)

/-- The driver dials TCP hosts under an allowed mode, without indirections. -/
structure DriverConnects (allowedModes : List Bytes) (uri : Str) : Prop where
  mode : ∃ m ∈ allowedModes, firstValue sslmodeKey (driverQuery (queryPieces uri)) = some m
  noService : firstValue serviceKey (driverQuery (queryPieces uri)) = none ∧
    firstValue servicefileKey (driverQuery (queryPieces uri)) = none
  hosts : HostsAreTcp uri (firstValue hostKey (driverQuery (queryPieces uri)))

theorem byteLen_cons (c : Char) (s : Str) : byteLen (c :: s) = byteLen [c] + byteLen s :=
  byteLen_append [c] s

theorem byteLen_singleton_pos (c : Char) : 0 < byteLen [c] := by
  simp [byteLen, asBytes, String.utf8EncodeChar]
  split_ifs <;> simp

theorem sliceTo_cons (c : Char) (s : Str) (n : ℕ) :
    sliceTo (c :: s) (byteLen [c] + n) = (sliceTo s n).map (c :: ·) := by
  have hpos := byteLen_singleton_pos c
  obtain ⟨m, hm⟩ : ∃ m, byteLen [c] = m + 1 := ⟨byteLen [c] - 1, by omega⟩
  have he : byteLen [c] + n = (m + n) + 1 := by omega
  rw [he, sliceTo, ← he, if_pos (Nat.le_add_right _ _), Nat.add_sub_cancel_left]
  omega

/-- The slice up to the first `c` is the text before it. -/
theorem sliceTo_findChar (c : Char) (s : Str) :
    sliceTo s ((findChar c s).getD (byteLen s)) = some (s.takeWhile (· ≠ c)) := by
  induction s with
  | nil => rfl
  | cons d s ih =>
    by_cases hd : d = c
    · simp [findChar, hd, sliceTo]
    · have he : (findChar c (d :: s)).getD (byteLen (d :: s)) =
          byteLen [d] + (findChar c s).getD (byteLen s) := by
        rw [findChar, if_neg hd]
        cases findChar c s with
        | none => exact byteLen_cons d s
        | some n => rfl
      rw [he, sliceTo_cons, ih]
      simp [hd]

theorem postgresUriPortIsValid_iff {port : Str} :
    postgresUriPortIsValid port = true ↔ PortInRange port := by
  simp only [postgresUriPortIsValid, PortInRange, Bool.and_eq_true, Bool.not_eq_eq_eq_not,
    Bool.not_true, List.isEmpty_eq_false_iff, List.all_eq_true, decide_eq_true_eq, bne_iff_ne,
    Nat.one_le_iff_ne_zero]
  tauto

theorem bracketedHost_spec {bracketed host : Str} (h : bracketedHost bracketed = some host) :
    ∃ remainder, rsplitOnce ']' bracketed = some (host, remainder) ∧
      ∀ port ∈ remainder.dropPrefix? [':'], PortInRange port := by
  simp only [bracketedHost, bind, Option.bind_eq_some_iff, Prod.exists] at h
  obtain ⟨name, remainder, hcut, h⟩ := h
  obtain ⟨rfl, -⟩ := splitOnce_eq_some_iff.mp hcut
  split_ifs at h with hbad hrem
  · cases h
    subst hrem
    exact ⟨[], rsplitOnce_append (by simp) _, by simp [List.dropPrefix?]⟩
  · obtain ⟨port, hport, h⟩ := Option.bind_eq_some_iff.mp h
    split_ifs at h with hvalid
    cases h
    have hin := postgresUriPortIsValid_iff.mp hvalid
    refine ⟨remainder, rsplitOnce_append ?_ _, ?_⟩
    · rw [dropPrefix?_eq_some.mp hport]
      intro hm
      rcases List.mem_append.mp hm with hm | hm
      · simp at hm
      · exact absurd (hin.2.1 _ hm) (by decide)
    · rw [hport]
      intro port' hp
      cases hp
      exact hin

theorem plainHost_spec {hostAndPort host : Str} (h : plainHost hostAndPort = some host) :
    ((rsplitOnce ':' hostAndPort).map Prod.fst).getD hostAndPort = host ∧
      ∀ port ∈ (rsplitOnce ':' hostAndPort).map Prod.snd, PortInRange port := by
  rw [plainHost] at h
  split_ifs at h with hbad
  cases hr : rsplitOnce ':' hostAndPort with
  | none =>
    rw [hr] at h
    cases h
    exact ⟨rfl, by simp⟩
  | some p =>
    rw [hr] at h
    simp only at h
    split_ifs at h with hbad'
    cases h
    rw [not_or, not_or, Bool.not_eq_true, Bool.not_eq_false'] at hbad'
    exact ⟨rfl, by simpa using postgresUriPortIsValid_iff.mp hbad'.2.2⟩

/-- The host that the check returns is the driver's, and its port is in range. -/
theorem hostOfHostAndPort_spec {hostAndPort host : Str}
    (h : hostOfHostAndPort hostAndPort = some host) :
    hostsOf hostAndPort = host ∧ ∀ port ∈ portOf hostAndPort, PortInRange port := by
  by_cases hnil : hostAndPort = []
  · subst hnil
    cases h
    exact ⟨rfl, by simp [portOf, List.dropPrefix?, rsplitOnce, splitOnce]⟩
  · rw [hostOfHostAndPort, if_neg hnil] at h
    cases hb : hostAndPort.dropPrefix? ['['] with
    | some bracketed =>
      rw [hb] at h
      obtain ⟨remainder, hr, hport⟩ := bracketedHost_spec h
      simp only [hostsOf, portOf, hb, hr]
      exact ⟨rfl, hport⟩
    | none =>
      rw [hb] at h
      simp only [hostsOf, portOf, hb]
      exact plainHost_spec h

theorem postgresUriAuthorityHost_spec {authority host : Str}
    (h : postgresUriAuthorityHost authority = some host) :
    hostOfHostAndPort (((rsplitOnce '@' authority).map Prod.snd).getD authority) = some host := by
  rw [postgresUriAuthorityHost] at h
  cases hr : rsplitOnce '@' authority with
  | none =>
    rw [hr] at h
    exact h
  | some p =>
    rw [hr] at h
    simp only at h
    split_ifs at h
    exact h

theorem piecesOf_cons (key : Bytes) (piece : Str) (pieces : List Str) :
    piecesOf key (piece :: pieces) =
      if pieceKey piece = some key then piece :: piecesOf key pieces else piecesOf key pieces := by
  simp [piecesOf, List.filter_cons]

/-- What a query that passes the loop contains. -/
structure CheckedQuery (allowedModes : List Bytes) (tlsMode : Bool) (host : Option Bytes)
    (pieces : List Str) (tlsMode' : Bool) (host' : Option Bytes) : Prop where
  modeCount : (piecesOf sslmodeKey pieces).length + tlsMode.toNat = tlsMode'.toNat
  modeAllowed : ∀ piece ∈ piecesOf sslmodeKey pieces, ∃ m ∈ allowedModes, pieceValue piece = some m
  hosts : host.toList.map some ++ (piecesOf hostKey pieces).map pieceValue = host'.toList.map some
  noService : piecesOf serviceKey pieces = [] ∧ piecesOf servicefileKey pieces = []

theorem uriParameters_spec {allowedModes : List Bytes} {tlsMode tlsMode' : Bool}
    {host host' : Option Bytes} {pieces : List Str}
    (h : uriParameters allowedModes tlsMode host pieces = some (tlsMode', host')) :
    CheckedQuery allowedModes tlsMode host pieces tlsMode' host' := by
  induction pieces generalizing tlsMode host with
  | nil =>
    cases h
    exact ⟨by simp [piecesOf], by simp [piecesOf], by simp [piecesOf], by simp [piecesOf]⟩
  | cons piece pieces ih =>
    simp only [uriParameters, bind, Option.bind_eq_some_iff] at h
    obtain ⟨key, hkey, h⟩ := h
    have hk : pieceKey piece = some key := hkey
    split_ifs at h with hcase hssl hhost hsome hservice
    · obtain ⟨value, hvalue, h⟩ := Option.bind_eq_some_iff.mp h
      split_ifs at h with hbad
      obtain ⟨hm, ha, hh, hs⟩ := ih h
      rw [not_or, not_not, Bool.not_eq_true] at hbad
      obtain ⟨rfl, hin⟩ := hbad
      subst hssl
      refine ⟨?_, ?_, ?_, ?_⟩
      · rw [piecesOf_cons, if_pos hk, ← hm]
        simp
      · rw [piecesOf_cons, if_pos hk]
        intro p hp
        rcases List.mem_cons.mp hp with rfl | hp
        · exact ⟨value, hin, hvalue⟩
        · exact ha p hp
      · rwa [piecesOf_cons, if_neg (by rw [hk]; decide)]
      · rw [piecesOf_cons, piecesOf_cons, if_neg (by rw [hk]; decide), if_neg (by rw [hk]; decide)]
        exact hs
    · obtain ⟨value, hvalue, h⟩ := Option.bind_eq_some_iff.mp h
      obtain ⟨hm, ha, hh, hs⟩ := ih h
      subst hhost
      refine ⟨?_, ?_, ?_, ?_⟩
      · rwa [piecesOf_cons, if_neg (by rw [hk]; decide)]
      · rwa [piecesOf_cons, if_neg (by rw [hk]; decide)]
      · rw [piecesOf_cons, if_pos hk, ← hh]
        have hv : pieceValue piece = some value := hvalue
        have hn : host = none := by simpa using hsome
        simp [hn, hv]
      · rw [piecesOf_cons, piecesOf_cons, if_neg (by rw [hk]; decide), if_neg (by rw [hk]; decide)]
        exact hs
    · obtain ⟨hm, ha, hh, hs⟩ := ih h
      have hne : ∀ key' : Bytes, key ≠ key' → pieceKey piece ≠ some key' := by
        intro key' hk' he
        rw [hk, Option.some.injEq] at he
        exact hk' he
      rw [not_or] at hservice
      refine ⟨?_, ?_, ?_, ?_⟩
      · rwa [piecesOf_cons, if_neg (hne _ hssl)]
      · rwa [piecesOf_cons, if_neg (hne _ hssl)]
      · rwa [piecesOf_cons, if_neg (hne _ hhost)]
      · rw [piecesOf_cons, piecesOf_cons, if_neg (hne _ hservice.1), if_neg (hne _ hservice.2)]
        exact hs

/-- The driver's value of a key comes from the first piece of that key that has
no semicolon and a value that decodes. -/
theorem firstValue_driverQuery (key : Bytes) (pieces : List Str) :
    firstValue key (driverQuery pieces) =
      (((piecesOf key pieces).filter fun piece => !piece.contains ';').filterMap pieceValue).head? := by
  induction pieces with
  | nil => rfl
  | cons piece pieces ih =>
    rw [piecesOf_cons]
    by_cases hs : piece.contains ';' = true
    · have hd : driverQuery (piece :: pieces) = driverQuery pieces := by
        simp only [driverQuery, List.filter_cons, hs, Bool.not_true, Bool.false_eq_true, if_false]
      rw [hd, ih]
      split
      · simp only [List.filter_cons, hs, Bool.not_true, Bool.false_eq_true, if_false]
      · rfl
    · have hd : driverQuery (piece :: pieces) =
          ((pieceKey piece).bind fun k => (pieceValue piece).map fun v => (k, v)).toList ++
            driverQuery pieces := by
        simp only [driverQuery, List.filter_cons, hs, Bool.not_false, if_true, List.filterMap_cons]
        cases pieceKey piece with
        | none => rfl
        | some k => cases pieceValue piece <;> rfl
      have hn : ';' ∉ piece := by simpa using hs
      rw [hd]
      cases hk : pieceKey piece with
      | none => simpa using ih
      | some k =>
        cases hv : pieceValue piece with
        | none =>
          by_cases he : k = key
          · simpa [he, hn, hv, List.filter_cons] using ih
          · simpa [he] using ih
        | some v =>
          by_cases he : k = key
          · simp [he, hn, hv, firstValue]
          · simpa [he, firstValue] using ih

theorem driverAuthority_append {location : Str} (h : '?' ∉ location) (query : Str) :
    driverAuthority (location ++ '?' :: query) = location.takeWhile (· ≠ '/') := by
  induction location with
  | nil => rfl
  | cons c location ih =>
    have hc : c ≠ '?' := fun he => h (by simp [he])
    have hi := ih fun hm => h (List.mem_cons_of_mem _ hm)
    rw [driverAuthority] at hi ⊢
    by_cases hs : c = '/'
    · simp [hs]
    · simpa [hs, hc] using hi

/-- The check never slices inside a character or out of range. -/
theorem postgresUri_total (dsn : Str) (allowedModes : List Bytes) :
    ∃ accepted, postgresUriUsesTcpTlsModes dsn allowedModes = some accepted := by
  rw [postgresUriUsesTcpTlsModes]
  cases uriOf dsn with
  | none => exact ⟨_, rfl⟩
  | some uri =>
    simp only
    split
    · exact ⟨_, rfl⟩
    · cases splitOnce '?' uri with
      | none => exact ⟨_, rfl⟩
      | some p =>
        simp only [sliceTo_findChar, bind, Option.bind_some]
        cases postgresUriAuthorityHost (p.1.takeWhile (· ≠ '/')) with
        | none => exact ⟨_, rfl⟩
        | some host => exact ⟨_, rfl⟩

/-- What an accepted URI looks like. -/
theorem postgresUri_accepted {dsn uri : Str} {allowedModes : List Bytes} (hu : uriOf dsn = some uri)
    (h : postgresUriUsesTcpTlsModes dsn allowedModes = some true) :
    (∃ host, CheckedQuery allowedModes false none (queryPieces uri) true host ∧
      HostsAreTcp uri host) ∧
    ∀ port ∈ driverAuthorityPort uri, PortInRange port := by
  rw [postgresUriUsesTcpTlsModes, hu] at h
  simp only at h
  split at h
  · simp at h
  · cases hq : splitOnce '?' uri with
    | none => simp [hq] at h
    | some p =>
      obtain ⟨location, query⟩ := p
      obtain ⟨rfl, hno⟩ := splitOnce_eq_some_iff.mp hq
      simp only [hq, sliceTo_findChar, bind, Option.bind_some] at h
      cases ha : postgresUriAuthorityHost (location.takeWhile (· ≠ '/')) with
      | none =>
        rw [ha] at h
        simp at h
      | some host =>
        have hspec := hostOfHostAndPort_spec (postgresUriAuthorityHost_spec ha)
        rw [← driverAuthority_append hno query] at hspec
        rw [ha, Option.some.injEq, uriVerdict] at h
        have hpieces : queryPieces (location ++ '?' :: query) = query.splitOn '&' := by
          simp [queryPieces, hq]
        refine ⟨?_, hspec.2⟩
        rw [hpieces]
        cases hp : uriParameters allowedModes false none (query.splitOn '&') with
        | none => simp [hp] at h
        | some r =>
          obtain ⟨tlsMode, hostOverride⟩ := r
          rw [hp] at h
          cases tlsMode with
          | false => simp at h
          | true =>
            refine ⟨hostOverride, uriParameters_spec hp, ?_⟩
            cases hostOverride with
            | some value => exact postgresHostsAreExplicitTcp_spec h
            | none =>
              simp only [Bool.not_true, Bool.false_eq_true, if_false, Bool.and_eq_true] at h
              obtain ⟨text, ht, hlist⟩ := postgresHostsAreExplicitTcp_spec h.2
              rw [fromUtf8_asBytes, Option.some.injEq] at ht
              subst ht
              have he : driverAuthorityHosts (location ++ '?' :: query) = host := hspec.1
              rwa [HostsAreTcp, he]

/-- The driver keeps the TLS mode, and the host override where the authority
names no TCP host. -/
def DriverKeepsSettings (uri : Str) : Prop :=
  (∀ piece ∈ piecesOf sslmodeKey (queryPieces uri), ';' ∉ piece) ∧
    ((∀ piece ∈ piecesOf hostKey (queryPieces uri), ';' ∉ piece) ∨
      TcpHostList (driverAuthorityHosts uri))

theorem CheckedQuery.sslmode {allowedModes : List Bytes} {pieces : List Str} {host : Option Bytes}
    (h : CheckedQuery allowedModes false none pieces true host) :
    ∃ piece, piecesOf sslmodeKey pieces = [piece] ∧
      ∃ m ∈ allowedModes, pieceValue piece = some m := by
  have hl : (piecesOf sslmodeKey pieces).length = 1 := by simpa using h.modeCount
  obtain ⟨piece, hp⟩ := List.length_eq_one_iff.mp hl
  exact ⟨piece, hp, h.modeAllowed piece (by simp [hp])⟩

theorem firstValue_singleton {key : Bytes} {pieces : List Str} {piece : Str} {value : Bytes}
    (hp : piecesOf key pieces = [piece]) (hv : pieceValue piece = some value) :
    firstValue key (driverQuery pieces) = if ';' ∈ piece then none else some value := by
  rw [firstValue_driverQuery, hp]
  by_cases hs : ';' ∈ piece
  · simp [hs]
  · simp [hs, hv]

theorem firstValue_empty {key : Bytes} {pieces : List Str} (hp : piecesOf key pieces = []) :
    firstValue key (driverQuery pieces) = none := by
  rw [firstValue_driverQuery, hp]
  rfl

/-- An accepted URI connects as the check promises exactly when the driver keeps
the settings that the check read. -/
theorem driverConnects_iff {dsn uri : Str} {allowedModes : List Bytes} (hu : uriOf dsn = some uri)
    (h : postgresUriUsesTcpTlsModes dsn allowedModes = some true) :
    DriverConnects allowedModes uri ↔ DriverKeepsSettings uri := by
  obtain ⟨⟨host, hq, hhost⟩, -⟩ := postgresUri_accepted hu h
  obtain ⟨piece, hp, m, hm, hv⟩ := hq.sslmode
  have hmode := firstValue_singleton hp hv
  have hservice := And.intro (firstValue_empty hq.noService.1) (firstValue_empty hq.noService.2)
  have hsemi : (∀ q ∈ piecesOf sslmodeKey (queryPieces uri), ';' ∉ q) ↔ ';' ∉ piece := by simp [hp]
  have hdriver : (∃ m ∈ allowedModes,
      firstValue sslmodeKey (driverQuery (queryPieces uri)) = some m) ↔ ';' ∉ piece := by
    rw [hmode]
    constructor
    · intro ⟨m', _, he⟩ hs
      simp [hs] at he
    · intro hs
      exact ⟨m, hm, if_neg hs⟩
  have hhosts : HostsAreTcp uri (firstValue hostKey (driverQuery (queryPieces uri))) ↔
      (∀ q ∈ piecesOf hostKey (queryPieces uri), ';' ∉ q) ∨
        TcpHostList (driverAuthorityHosts uri) := by
    have hlist := hq.hosts
    cases host with
    | none =>
      have hn : piecesOf hostKey (queryPieces uri) = [] := by simpa using hlist
      rw [firstValue_empty hn, hn]
      exact ⟨fun _ => .inl (by simp), fun _ => hhost⟩
    | some value =>
      simp only [Option.toList_none, List.map_nil, List.nil_append, Option.toList_some,
        List.map_cons] at hlist
      obtain ⟨q, hq', hqv⟩ := List.map_eq_singleton_iff.mp hlist
      rw [firstValue_singleton hq' hqv, hq']
      by_cases hs : ';' ∈ q
      · simp [hs, HostsAreTcp]
      · rw [if_neg hs]
        exact ⟨fun _ => .inl (by simpa using hs), fun _ => hhost⟩
  constructor
  · intro hc
    exact ⟨hsemi.mpr (hdriver.mp hc.mode), hhosts.mp hc.hosts⟩
  · intro hk
    exact ⟨hdriver.mpr (hsemi.mp hk.1), hservice, hhosts.mpr hk.2⟩

/-- A security key that occurs twice, in any encoding, is rejected. -/
theorem postgresUri_duplicate {dsn uri : Str} {allowedModes : List Bytes}
    (hu : uriOf dsn = some uri) (hd : 1 < (piecesOf sslmodeKey (queryPieces uri)).length ∨
      1 < (piecesOf hostKey (queryPieces uri)).length) :
    postgresUriUsesTcpTlsModes dsn allowedModes = some false := by
  obtain ⟨accepted, ha⟩ := postgresUri_total dsn allowedModes
  cases accepted with
  | false => exact ha
  | true =>
    obtain ⟨⟨host, hq, -⟩, -⟩ := postgresUri_accepted hu ha
    have hm := hq.modeCount
    have hh := congrArg List.length hq.hosts
    have hle : host.toList.length ≤ 1 := by cases host <;> simp
    simp at hm hh
    omega

theorem postgresUri_badPort {dsn uri port : Str} {allowedModes : List Bytes}
    (hu : uriOf dsn = some uri) (hp : driverAuthorityPort uri = some port)
    (hbad : ¬ PortInRange port) :
    postgresUriUsesTcpTlsModes dsn allowedModes = some false := by
  obtain ⟨accepted, ha⟩ := postgresUri_total dsn allowedModes
  cases accepted with
  | false => exact ha
  | true => exact absurd ((postgresUri_accepted hu ha).2 port hp) hbad

end OpenBao.PostgresUriDsn
