import OpenBao.PostgresKeywordDsn
import OpenBao.PostgresUriDsn

/-!
# PostgreSQL connection strings

The choice between the two syntaxes, and what the whole check promises about the
connection that the driver makes.
-/

namespace OpenBao.PostgresDsn
open DelimitedLists DsnText KeywordValueGrammar PostgresKeywordDsn PostgresUriDsn Utf8Text

def postgresDsnUsesUriSyntax (dsn : Str) : Bool :=
  "postgresql://".toList.isPrefixOf dsn || "postgres://".toList.isPrefixOf dsn

/-- The byte index of the first occurrence of a text. -/
def findText (needle : Str) : Str → Option ℕ
  | [] => if needle = [] then some 0 else none
  | c :: s =>
    if needle.isPrefixOf (c :: s) then some 0 else (findText needle s).map (byteLen [c] + ·)

def isAsciiWhitespaceChar (c : Char) : Bool := c.toNat < 128 && isAsciiWhitespace (asciiByte c)

/-- `split_ascii_whitespace().next()`. -/
def firstAsciiWord (s : Str) : Option Str :=
  match s.dropWhile isAsciiWhitespaceChar with
  | [] => none
  | word => some (word.takeWhile fun c => !isAsciiWhitespaceChar c)

def postgresDsnHasUnsupportedUriLikePrefix (dsn : Str) : Bool :=
  match firstAsciiWord dsn with
  | none => false
  | some first =>
    match findText "://".toList first with
    | none => false
    | some schemeSeparator => (findChar '=' first).all fun assignment => schemeSeparator < assignment

def postgresDsnUsesTcpTlsModes (dsn : Str) (allowedModes : List Bytes) : Option Bool :=
  if postgresDsnUsesUriSyntax dsn then postgresUriUsesTcpTlsModes dsn allowedModes
  else if postgresDsnHasUnsupportedUriLikePrefix dsn then some false
  else postgresKeywordDsnUsesTcpTlsModes dsn allowedModes

def requireMode : Bytes := asBytes "require".toList
def verifyFullMode : Bytes := asBytes "verify-full".toList

/-- The keyword check finishes without a slice out of range. What it accepts the
driver reads as a TCP connection under an allowed mode, unless a vertical tab
stands outside quotes and escapes. -/
theorem keywordDsn_check {dsn : Str} (hu : postgresDsnUsesUriSyntax dsn = false)
    (allowedModes : List Bytes) :
    (∃ accepted, postgresDsnUsesTcpTlsModes dsn allowedModes = some accepted) ∧
    (postgresDsnUsesTcpTlsModes dsn allowedModes = some true → looseVerticalTab dsn = false →
      ∃ settings, readSettings driverSpace .gap (asBytes dsn) = some settings ∧
        TcpTlsSettings allowedModes settings) := by
  rw [postgresDsnUsesTcpTlsModes, if_neg (by simp [hu])]
  split
  · exact ⟨⟨false, rfl⟩, by simp⟩
  · obtain ⟨accepted, ha, -⟩ :=
      scanAssignments_spec (asBytes dsn) allowedModes 0 false none (Nat.zero_le _)
    exact ⟨⟨accepted, ha⟩, driver_settings⟩

theorem keywordDsn_check_plain :
    ∃ settings,
      readSettings driverSpace .gap (asBytes "host=db.example sslmode=verify-full".toList) =
        some settings ∧ TcpTlsSettings [verifyFullMode] settings :=
  (keywordDsn_check (by decide +kernel) [verifyFullMode]).2 (by decide +kernel) (by decide +kernel)

/-- Behind a vertical tab the driver finds an assignment that the check takes for
the rest of a value. -/
theorem keywordDsn_hidden_sslmode :
    ¬ ∀ (dsn : Str) (allowedModes : List Bytes), postgresDsnUsesUriSyntax dsn = false →
      postgresDsnUsesTcpTlsModes dsn allowedModes = some true →
      ∃ settings, readSettings driverSpace .gap (asBytes dsn) = some settings ∧
        TcpTlsSettings allowedModes settings := by
  intro h
  obtain ⟨settings, hs, ⟨m, hm, hmode⟩, -, -⟩ :=
    h "host=db.example sslmode=verify-full dbname=x\x0bsslmode=disable".toList [verifyFullMode]
      (by decide +kernel) (by decide +kernel)
  have hd : (readSettings driverSpace .gap (asBytes
      "host=db.example sslmode=verify-full dbname=x\x0bsslmode=disable".toList)).bind
      (lastAssigned sslmodeKey) = some (asBytes "disable".toList) := by decide +kernel
  rw [hs, Option.bind_some, hmode, Option.some.injEq] at hd
  rw [hd, List.mem_singleton] at hm
  exact absurd hm (by decide +kernel)

/-- A URI without an authority or a host parameter that the driver keeps leaves the
driver to its default host. -/
theorem not_driverConnects_of_noHost {uri : Str} {allowedModes : List Bytes}
    (hu : uri.head? = some '/')
    (hn : firstValue hostKey (driverQuery (queryPieces uri)) = none) :
    ¬ DriverConnects allowedModes uri := by
  rintro ⟨-, -, hhosts⟩
  obtain ⟨rest, rfl⟩ := List.head?_eq_some_iff.mp hu
  have ha : driverAuthorityHosts ('/' :: rest) = [] := by
    have hd : driverAuthority ('/' :: rest) = [] := by simp [driverAuthority]
    rw [driverAuthorityHosts, driverHostAndPort, hd]
    rfl
  rw [hn, HostsAreTcp, ha] at hhosts
  exact (hhosts [] (by simp)).1 (by simp [trim, trimMatches])

end OpenBao.PostgresDsn
