import OpenBao.DsnText

/-!
# MySQL connection strings

`mysqlDsnTcpTlsMode` cuts a DSN at its last `@` and its first `?`. The driver
starts from the last `/` instead. The two readings are compared here.
-/

namespace OpenBao.MySqlDsn
open DelimitedLists DsnText Utf8Text

inductive MySqlDsnTlsMode where
  | encryptedWithoutVerification
  | verified
  deriving DecidableEq, Repr

def MySqlDsnTlsMode.text : MySqlDsnTlsMode → Str
  | .encryptedWithoutVerification => "skip-verify".toList
  | .verified => "true".toList

def tlsKey : Bytes := asBytes "tls".toList

/-- The loop over the `&`-separated parameters. -/
def tlsModeOf : Option MySqlDsnTlsMode → List Str → Option MySqlDsnTlsMode
  | mode, [] => mode
  | mode, parameter :: rest =>
    match percentDecodeStrict (cutParameter parameter).1 with
    | none => none
    | some key =>
      if key ≠ tlsKey then tlsModeOf mode rest
      else if mode.isSome then none
      else match percentDecodeStrict (cutParameter parameter).2 with
        | none => none
        | some value =>
          if value = asBytes MySqlDsnTlsMode.verified.text then tlsModeOf (some .verified) rest
          else if value = asBytes MySqlDsnTlsMode.encryptedWithoutVerification.text then
            tlsModeOf (some .encryptedWithoutVerification) rest
          else none

def mysqlDsnTcpTlsMode (dsn : Str) : Option MySqlDsnTlsMode :=
  if dsn.isEmpty || (asBytes dsn).any (fun byte => isAsciiControl byte || isAsciiWhitespace byte) then
    none
  else do
    let network ← (rsplitOnce '@' dsn).map Prod.snd
    let address ← network.dropPrefix? "tcp(".toList
    let (host, remainder) ← splitOnce ')' address
    if remainder.head? ≠ some '/' then none
    else if !postgresHostsAreExplicitTcp (asBytes host) then none
    else
      let query ← (splitOnce '?' dsn).map Prod.snd
      tlsModeOf none (query.splitOn '&')

/-- A DSN as the driver reads it. A later parameter replaces an earlier one. -/
structure DriverReading where
  net : Str
  address : Str
  parameters : List (Str × Str)
  deriving DecidableEq

/-- `net(address)`. -/
def readNetwork (network : Str) : Option (Str × Str) := do
  let (net, rest) ← splitOnce '(' network
  if rest.getLast? = some ')' then some (net, rest.dropLast) else none

/-- The pieces behind the first `?`. -/
def parameterTexts (text : Str) : List Str :=
  match splitOnce '?' text with
  | none => []
  | some (_, parameters) => parameters.splitOn '&'

/-- The parameters behind the first `?`. A piece without `=` is no parameter. -/
def readParameters (database : Str) : List (Str × Str) :=
  (parameterTexts database).filterMap (splitOnce '=')

/-- The driver's reading: the last `/` ends the address part and the last `@`
before it ends the credentials. -/
def driverReading (dsn : Str) : Option DriverReading := do
  let (left, database) ← rsplitOnce '/' dsn
  let (net, address) ← readNetwork (((rsplitOnce '@' left).map Prod.snd).getD left)
  some ⟨net, address, readParameters database⟩

def DriverReading.tls (reading : DriverReading) : Option Str :=
  ((reading.parameters.filter (fun p => p.1 = "tls".toList)).getLast?).map Prod.snd

/-- The driver dials TCP, with the TLS setting that the mode stands for. -/
def DriverUses (dsn : Str) (mode : MySqlDsnTlsMode) : Prop :=
  ∃ reading, driverReading dsn = some reading ∧ reading.net = "tcp".toList ∧
    '/' ∉ reading.address ∧ reading.tls = some mode.text

/-- The part of an accepted DSN behind the slash that follows its address. -/
def afterAddress (dsn : Str) : Str :=
  (((((rsplitOnce '@' dsn).map Prod.snd).bind (splitOnce ')')).map Prod.snd).getD []).drop 1

/-- The text up to that slash. -/
def throughAddress (dsn : Str) : Str := dsn.take (dsn.length - (afterAddress dsn).length)

/-- The parameter for a mode, without an escape. -/
def MySqlDsnTlsMode.parameter (mode : MySqlDsnTlsMode) : Str := "tls=".toList ++ mode.text

/-- No slash follows the address, and one of the parameters behind it is literally
`tls=true` or `tls=skip-verify`. Where a `?` stands before that slash too, it is
not the first of them, which the check then takes for the end of another. -/
structure TlsBehindAddress (dsn : Str) : Prop where
  slash : '/' ∉ afterAddress dsn
  parameter : ∃ mode : MySqlDsnTlsMode,
    mode.parameter ∈ (parameterTexts (afterAddress dsn)).tail ∨
      '?' ∉ throughAddress dsn ∧ mode.parameter ∈ parameterTexts (afterAddress dsn)

theorem tlsModeOf_some {mode result : MySqlDsnTlsMode} {parameters : List Str}
    (h : tlsModeOf (some mode) parameters = some result) :
    result = mode ∧
      ∀ p ∈ parameters, percentDecodeStrict (cutParameter p).1 ≠ some tlsKey := by
  induction parameters with
  | nil => simpa [tlsModeOf, eq_comm] using h
  | cons p parameters ih =>
    rw [tlsModeOf] at h
    cases hk : percentDecodeStrict (cutParameter p).1 with
    | none => simp [hk] at h
    | some key =>
      rw [hk] at h
      by_cases he : key = tlsKey
      · simp [he] at h
      · obtain ⟨hr, hp⟩ := ih (by simpa [he] using h)
        refine ⟨hr, ?_⟩
        intro q hq
        rcases List.mem_cons.mp hq with rfl | hq
        · simpa [hk] using he
        · exact hp q hq

/-- The check finds the value it reports in the only `tls` parameter it reads. -/
theorem tlsModeOf_none {result : MySqlDsnTlsMode} {parameters : List Str}
    (h : tlsModeOf none parameters = some result) :
    ∃ p, percentDecodeStrict (cutParameter p).2 = some (asBytes result.text) ∧
      ∀ q ∈ parameters, percentDecodeStrict (cutParameter q).1 = some tlsKey → q = p := by
  induction parameters with
  | nil => simp [tlsModeOf] at h
  | cons p parameters ih =>
    rw [tlsModeOf] at h
    cases hk : percentDecodeStrict (cutParameter p).1 with
    | none => simp [hk] at h
    | some key =>
      rw [hk] at h
      by_cases he : key = tlsKey
      · subst he
        cases hv : percentDecodeStrict (cutParameter p).2 with
        | none => simp [hv] at h
        | some value =>
          obtain ⟨mode, rfl, hs⟩ : ∃ mode : MySqlDsnTlsMode, value = asBytes mode.text ∧
              tlsModeOf (some mode) parameters = some result := by
            simp only [hv, ne_eq, not_true_eq_false, if_false, Option.isSome_none,
              Bool.false_eq_true] at h
            split_ifs at h with h₁ h₂
            · exact ⟨_, h₁, h⟩
            · exact ⟨_, h₂, h⟩
          obtain ⟨rfl, hrest⟩ := tlsModeOf_some hs
          refine ⟨p, hv, ?_⟩
          intro q hq hqk
          rcases List.mem_cons.mp hq with rfl | hq
          · rfl
          · exact absurd hqk (hrest q hq)
      · obtain ⟨r, hr, hp⟩ := ih (by simpa [he] using h)
        refine ⟨r, hr, ?_⟩
        intro q hq hqk
        rcases List.mem_cons.mp hq with rfl | hq
        · simp [hk, he] at hqk
        · exact hp q hq hqk

/-! ## Where the parameters stand -/

theorem parameterTexts_append_of_notMem {text : Str} (h : '?' ∉ text) (database : Str) :
    parameterTexts (text ++ database) = parameterTexts database := by
  by_cases hd : '?' ∈ database
  · obtain ⟨name, parameters, rfl, hname⟩ := List.eq_append_cons_of_mem hd
    rw [← List.append_assoc, parameterTexts, parameterTexts, splitOnce_append hname,
      splitOnce_append (by simp [h, hname])]
  · rw [parameterTexts, parameterTexts, splitOnce_eq_none_iff.mpr hd,
      splitOnce_eq_none_iff.mpr (by simp [h, hd])]

/-- Whatever stands in front of it, the check reads the parameters behind the
driver's first one. -/
theorem mem_parameterTexts_append {database p : Str} (h : p ∈ (parameterTexts database).tail)
    (text : Str) : p ∈ parameterTexts (text ++ database) := by
  by_cases ht : '?' ∈ text
  · obtain ⟨before, behind, rfl, hbefore⟩ := List.eq_append_cons_of_mem ht
    by_cases hd : '?' ∈ database
    · obtain ⟨name, parameters, rfl, hname⟩ := List.eq_append_cons_of_mem hd
      rw [parameterTexts, splitOnce_append hname] at h
      obtain ⟨ps, q, hcut⟩ := exists_splitOn_append '&' (behind ++ name ++ ['?']) parameters
      have hsplit : splitOnce '?' (before ++ '?' :: behind ++ (name ++ '?' :: parameters)) =
          some (before, behind ++ name ++ ['?'] ++ parameters) := by
        simpa using splitOnce_append hbefore (behind ++ name ++ ['?'] ++ parameters)
      rw [parameterTexts, hsplit]
      simp only [hcut]
      exact List.mem_append_right _ (List.mem_cons_of_mem _ h)
    · rw [parameterTexts, splitOnce_eq_none_iff.mpr hd] at h
      cases h
  · rw [parameterTexts_append_of_notMem ht]
    exact List.mem_of_mem_tail h

theorem splitOnce_parameter (mode : MySqlDsnTlsMode) :
    splitOnce '=' mode.parameter = some ("tls".toList, mode.text) :=
  splitOnce_append (by decide : '=' ∉ "tls".toList) mode.text

theorem eq_parameter {mode : MySqlDsnTlsMode} {p : Str}
    (h : splitOnce '=' p = some ("tls".toList, mode.text)) : p = mode.parameter := by
  rw [(splitOnce_eq_some_iff.mp h).1]
  rfl

theorem decoded_key {p value : Str} (h : splitOnce '=' p = some ("tls".toList, value)) :
    percentDecodeStrict (cutParameter p).1 = some tlsKey := by
  have hkey : percentDecodeStrict "tls".toList = some tlsKey := by decide +kernel
  rw [cutParameter, h, Option.getD_some]
  exact hkey

theorem decoded_text (mode : MySqlDsnTlsMode) :
    percentDecodeStrict (cutParameter mode.parameter).2 = some (asBytes mode.text) := by
  rw [cutParameter, splitOnce_parameter, Option.getD_some]
  cases mode with
  | encryptedWithoutVerification => decide +kernel
  | verified => decide +kernel

theorem MySqlDsnTlsMode.text_injective : Function.Injective MySqlDsnTlsMode.text := by
  intro mode mode' h
  have hlength := congrArg List.length h
  cases mode with
  | encryptedWithoutVerification =>
    cases mode' with
    | encryptedWithoutVerification => rfl
    | verified => exact absurd hlength (by decide)
  | verified =>
    cases mode' with
    | encryptedWithoutVerification => exact absurd hlength (by decide)
    | verified => rfl

/-- The driver uses the last literal `tls` parameter. -/
theorem tls_of_mem {net address : Str} {mode : MySqlDsnTlsMode} {before pieces : List Str}
    (hmem : mode.parameter ∈ pieces)
    (honly : ∀ p ∈ pieces, ∀ value, splitOnce '=' p = some ("tls".toList, value) →
      p = mode.parameter) :
    (DriverReading.mk net address ((before ++ pieces).filterMap (splitOnce '='))).tls =
      some mode.text := by
  have hlast : ((pieces.filterMap (splitOnce '=')).filter (fun p => p.1 = "tls".toList)).getLast? =
      some ("tls".toList, mode.text) := by
    have hne : ("tls".toList, mode.text) ∈
        (pieces.filterMap (splitOnce '=')).filter (fun p => p.1 = "tls".toList) :=
      List.mem_filter.mpr ⟨List.mem_filterMap.mpr ⟨_, hmem, splitOnce_parameter mode⟩, by simp⟩
    rw [List.getLast?_eq_some_getLast (List.ne_nil_of_mem hne), Option.some.injEq]
    obtain ⟨hin, hkey⟩ := List.mem_filter.mp (List.getLast_mem (List.ne_nil_of_mem hne))
    obtain ⟨p, hp, hcut⟩ := List.mem_filterMap.mp hin
    have hkey := of_decide_eq_true hkey
    obtain rfl := honly p hp _ (hcut.trans (congrArg some (Prod.ext hkey rfl)))
    rw [splitOnce_parameter, Option.some.injEq] at hcut
    exact hcut.symm
  rw [DriverReading.tls, List.filterMap_append, List.filter_append, List.getLast?_append, hlast]
  rfl

/-- The parts of a DSN whose address the check accepts. -/
structure TcpDsn where
  credentials : Str
  host : Str
  database : Str
  host_no_at : '@' ∉ host
  database_no_at : '@' ∉ database
  host_no_close : ')' ∉ host
  host_no_slash : '/' ∉ host

namespace TcpDsn

/-- The text up to the slash behind the address, then that slash and the rest. -/
def text (d : TcpDsn) : Str :=
  d.credentials ++ '@' :: ("tcp(".toList ++ d.host ++ ')' :: '/' :: d.database)

theorem no_at (d : TcpDsn) : '@' ∉ "tcp(".toList ++ d.host ++ ')' :: '/' :: d.database := by
  simp [d.host_no_at, d.database_no_at]

end TcpDsn

theorem exists_tcpDsn {dsn : Str} {mode : MySqlDsnTlsMode}
    (h : mysqlDsnTcpTlsMode dsn = some mode) :
    ∃ d : TcpDsn, d.text = dsn ∧ tlsModeOf none (parameterTexts dsn) = some mode := by
  rw [mysqlDsnTcpTlsMode] at h
  split at h
  · simp at h
  · simp only [bind, Option.bind_eq_some_iff, Option.map_eq_some_iff, Prod.exists,
      exists_eq_right] at h
    obtain ⟨network, ⟨credentials, hat⟩, address, htcp, host, remainder, hclose, h⟩ := h
    obtain ⟨rfl, hno⟩ := rsplitOnce_eq_some_iff.mp hat
    obtain rfl := dropPrefix?_eq_some.mp htcp
    obtain ⟨rfl, hhost⟩ := splitOnce_eq_some_iff.mp hclose
    split_ifs at h with hslash hhosts
    simp only [Option.bind_eq_some_iff, Option.map_eq_some_iff, Prod.exists,
      exists_eq_right] at h
    obtain ⟨query, ⟨before, hq⟩, h⟩ := h
    obtain ⟨database, rfl⟩ := List.head?_eq_some_iff.mp (not_not.mp hslash)
    rw [Bool.not_eq_true, Bool.not_eq_false'] at hhosts
    obtain ⟨text, ht, hlist⟩ := postgresHostsAreExplicitTcp_spec hhosts
    obtain rfl : host = text := by simpa using ht
    simp only [List.mem_append, List.mem_cons, not_or] at hno
    exact ⟨⟨credentials, host, database, hno.2.1, hno.2.2.2.2, hhost, hlist.noSlash⟩,
      by simp [TcpDsn.text], by rw [parameterTexts, hq]; exact h⟩

theorem TcpDsn.afterAddress_text (d : TcpDsn) : afterAddress d.text = d.database := by
  have hc : splitOnce ')' ("tcp(".toList ++ d.host ++ ')' :: '/' :: d.database) =
      some ("tcp(".toList ++ d.host, '/' :: d.database) :=
    splitOnce_append (by simp [d.host_no_close]) _
  rw [afterAddress, text, rsplitOnce_append d.no_at]
  simp only [Option.map_some, Option.bind_some, hc, Option.getD_some, List.drop_succ_cons,
    List.drop_zero]

theorem TcpDsn.throughAddress_append (d : TcpDsn) : throughAddress d.text ++ d.database = d.text := by
  have hlength : d.text.length - d.database.length =
      (d.credentials ++ '@' :: ("tcp(".toList ++ d.host ++ [')', '/'])).length := by
    simp [text]
    omega
  have ht : d.text =
      d.credentials ++ '@' :: ("tcp(".toList ++ d.host ++ [')', '/']) ++ d.database := by
    simp [text]
  rw [throughAddress, d.afterAddress_text, hlength, ht, List.take_left]

theorem readNetwork_append {net : Str} (h : '(' ∉ net) (address : Str) :
    readNetwork (net ++ '(' :: address) =
      if address.getLast? = some ')' then some (net, address.dropLast) else none := by
  simp [readNetwork, splitOnce_append h]

/-- The driver's reading when the last slash cuts off `database`. -/
theorem driverReading_append {credentials net address database : Str} (hd : '/' ∉ database)
    (hat : '@' ∉ net ++ '(' :: address) (hn : '(' ∉ net) :
    driverReading (credentials ++ '@' :: (net ++ '(' :: address) ++ '/' :: database) =
      if address.getLast? = some ')' then
        some ⟨net, address.dropLast, readParameters database⟩ else none := by
  rw [driverReading, rsplitOnce_append hd]
  simp only [bind, Option.bind_some, rsplitOnce_append hat, Option.map_some, Option.getD_some,
    readNetwork_append hn]
  split
  · simp
  · simp

/-- Without a slash behind the address the driver finds the address the check
found. -/
theorem TcpDsn.driverReading_text (d : TcpDsn) (h : '/' ∉ d.database) :
    driverReading d.text = some ⟨"tcp".toList, d.host, readParameters d.database⟩ := by
  have ht : d.text = d.credentials ++ '@' :: ("tcp".toList ++ '(' :: (d.host ++ [')'])) ++
      '/' :: d.database := by simp [text]
  rw [ht, driverReading_append h (by simp [d.host_no_at]) (by simp)]
  simp

/-- With one, the address it finds is no TCP address. -/
theorem TcpDsn.driverReading_slash (d : TcpDsn) (h : '/' ∈ d.database) {reading : DriverReading}
    (hr : driverReading d.text = some reading) : '/' ∈ reading.address := by
  obtain ⟨name, rest, hdb, hrest⟩ := exists_last_cut h
  have ht : d.text = d.credentials ++ '@' :: ("tcp".toList ++ '(' :: (d.host ++ ')' :: '/' :: name)) ++
      '/' :: rest := by simp [text, hdb]
  have hname : '@' ∉ name := fun hm => d.database_no_at (by simp [hdb, hm])
  rw [ht, driverReading_append hrest (by simp [d.host_no_at, hname]) (by simp)] at hr
  split_ifs at hr with hlast
  rw [Option.some.injEq] at hr
  subst hr
  rw [List.dropLast_append_of_ne_nil (by simp)]
  have : name ≠ [] := by
    rintro rfl
    simp at hlast
  obtain ⟨c, cs, rfl⟩ := List.exists_cons_of_ne_nil this
  simp

/-- The condition for a DSN in its parts. -/
theorem TcpDsn.driverUses (d : TcpDsn) {mode : MySqlDsnTlsMode}
    (hmode : tlsModeOf none (parameterTexts d.text) = some mode)
    (h : TlsBehindAddress d.text) : DriverUses d.text mode := by
  obtain ⟨hslash, mode', hparameter⟩ := h
  rw [d.afterAddress_text] at hslash hparameter
  refine ⟨_, d.driverReading_text hslash, rfl, d.host_no_slash, ?_⟩
  obtain ⟨before, pieces, hpieces, hmem, hread⟩ : ∃ before pieces,
      parameterTexts d.database = before ++ pieces ∧ mode'.parameter ∈ pieces ∧
        ∀ p ∈ pieces, p ∈ parameterTexts d.text := by
    rcases hparameter with hmem | ⟨hquestion, hmem⟩
    · obtain ⟨first, pieces, heq⟩ := List.exists_cons_of_ne_nil (List.ne_nil_of_mem
        (List.mem_of_mem_tail hmem))
      rw [heq, List.tail_cons] at hmem
      refine ⟨[first], pieces, heq, hmem, fun p hp => ?_⟩
      rw [← d.throughAddress_append]
      exact mem_parameterTexts_append (by rw [heq]; exact hp) _
    · refine ⟨[], _, rfl, hmem, fun p hp => ?_⟩
      rw [← d.throughAddress_append, parameterTexts_append_of_notMem hquestion]
      exact hp
  obtain ⟨p, hvalue, honly⟩ := tlsModeOf_none hmode
  obtain rfl := honly _ (hread _ hmem) (decoded_key (splitOnce_parameter mode'))
  rw [decoded_text, Option.some.injEq, asBytes_inj] at hvalue
  obtain rfl := MySqlDsnTlsMode.text_injective hvalue
  rw [readParameters, hpieces]
  exact tls_of_mem hmem fun q hq value hcut => honly q (hread q hq) (decoded_key hcut)

/-- What the check reports is what the driver does where the `tls` parameter is
plainly behind the address. Elsewhere the two agree only if the check has read its
mode out of the text before the address, past the driver's first parameter. -/
theorem driverUses_of_tlsBehindAddress {dsn : Str} {mode : MySqlDsnTlsMode}
    (h : mysqlDsnTcpTlsMode dsn = some mode) :
    (TlsBehindAddress dsn → DriverUses dsn mode) ∧
      (DriverUses dsn mode → TlsBehindAddress dsn ∨
        '?' ∈ throughAddress dsn ∧ '/' ∉ afterAddress dsn ∧
          (parameterTexts (afterAddress dsn)).head? = some mode.parameter) := by
  obtain ⟨d, rfl, hmode⟩ := exists_tcpDsn h
  refine ⟨d.driverUses hmode, ?_⟩
  intro ⟨reading, hr, _, hslash, htls⟩
  have hno : '/' ∉ d.database := fun hm => hslash (d.driverReading_slash hm hr)
  rw [d.driverReading_text hno, Option.some.injEq] at hr
  subst hr
  obtain ⟨⟨key, value⟩, hlast, hvalue⟩ := Option.map_eq_some_iff.mp htls
  obtain ⟨hmem, hkey⟩ := List.mem_filter.mp (List.mem_of_getLast? hlast)
  obtain ⟨p, hp, hcut⟩ := List.mem_filterMap.mp hmem
  obtain rfl : key = "tls".toList := of_decide_eq_true hkey
  obtain rfl : value = mode.text := hvalue
  obtain rfl := eq_parameter hcut
  have hafter := d.afterAddress_text
  by_cases htail : mode.parameter ∈ (parameterTexts d.database).tail
  · exact .inl ⟨hafter ▸ hno, mode, .inl (hafter ▸ htail)⟩
  by_cases hquestion : '?' ∈ throughAddress d.text
  · refine .inr ⟨hquestion, hafter ▸ hno, ?_⟩
    obtain ⟨first, pieces, heq⟩ := List.exists_cons_of_ne_nil (List.ne_nil_of_mem hp)
    rw [hafter, heq, List.head?_cons]
    rw [heq] at hp htail
    exact congrArg some ((List.mem_cons.mp hp).resolve_right htail).symm
  · exact .inl ⟨hafter ▸ hno, mode, .inr ⟨hquestion, hafter ▸ hp⟩⟩

/-- An ampersand in the user name and a question mark in the password, and the
parameter is still where the driver reads it. -/
theorem driverUses_of_tlsBehindAddress_password :
    DriverUses "a&b:p?x@tcp(db:3306)/app?loc=UTC&tls=true".toList .verified :=
  (driverUses_of_tlsBehindAddress (by decide +kernel)).1
    ⟨by decide +kernel, .verified, .inl (by decide +kernel)⟩

/-- A question mark in the password hides the driver's parameters. -/
theorem accepted_without_tls :
    ¬ ∀ (dsn : Str) (mode : MySqlDsnTlsMode),
      mysqlDsnTcpTlsMode dsn = some mode → DriverUses dsn mode := by
  intro h
  have hr : driverReading "u:p?tls=true&x@tcp(db)/app".toList =
      some ⟨"tcp".toList, "db".toList, []⟩ := by decide +kernel
  obtain ⟨reading, hread, -, -, htls⟩ :=
    h "u:p?tls=true&x@tcp(db)/app".toList .verified (by decide +kernel)
  rw [hr, Option.some.injEq] at hread
  subst hread
  simp [DriverReading.tls] at htls

end OpenBao.MySqlDsn
