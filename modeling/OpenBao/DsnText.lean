import OpenBao.Utf8Text

/-!
# Parts of database connection strings

Percent decoding, case-insensitive key comparison and the host check that the
MySQL and PostgreSQL readers share.
-/

namespace OpenBao.DsnText
open DelimitedLists Utf8Text

def hexValue (byte : UInt8) : Option UInt8 :=
  if 0x30 ≤ byte && byte ≤ 0x39 then some (byte - 0x30)
  else if 0x61 ≤ byte && byte ≤ 0x66 then some (byte - 0x61 + 10)
  else if 0x41 ≤ byte && byte ≤ 0x46 then some (byte - 0x41 + 10)
  else none

def percentDecodeBytes : Bytes → Option Bytes
  | [] => some []
  | byte :: rest =>
    if byte = 0x25 then
      match rest with
      | high :: low :: rest =>
        match hexValue high, hexValue low with
        | some high, some low =>
          (percentDecodeBytes rest).map fun decoded => (high <<< 4 ||| low) :: decoded
        | _, _ => none
      | _ => none
    else (percentDecodeBytes rest).map fun decoded => (if byte = 0x2b then 0x20 else byte) :: decoded

def percentDecodeStrict (value : Str) : Option Bytes := percentDecodeBytes (asBytes value)

def asciiEqIgnoreCase (value expected : Bytes) : Bool :=
  value.length == expected.length &&
    (value.zip expected).all fun p => eqIgnoreAsciiCase p.1 p.2

def sslmodeKey : Bytes := asBytes "sslmode".toList
def hostKey : Bytes := asBytes "host".toList
def serviceKey : Bytes := asBytes "service".toList
def servicefileKey : Bytes := asBytes "servicefile".toList

/-- A security key in a spelling that only a case-insensitive reader takes for one. -/
def isCaseVariant (key : Bytes) : Bool :=
  key != sslmodeKey && key != hostKey && key != serviceKey && key != servicefileKey &&
    [sslmodeKey, hostKey, serviceKey, servicefileKey].any (asciiEqIgnoreCase key)

/-- `parameter.split_once('=').unwrap_or((parameter, ""))`. -/
def cutParameter (parameter : Str) : Str × Str := (splitOnce '=' parameter).getD (parameter, [])

def postgresHostIsWindowsAbsolutePath (host : Str) : Bool :=
  match asBytes host with
  | drive :: colon :: rest => isAsciiAlphabetic drive && colon == 0x3a && rest.head? != some 0x3a
  | _ => false

/-- One element of a host list, after trimming. -/
def hostIsExplicitTcp (host : Str) : Bool :=
  !host.isEmpty && (asBytes host).all (fun byte => !isAsciiWhitespace byte && !isAsciiControl byte) &&
    !host.any (fun c => c = '/' || c = '\\') && !postgresHostIsWindowsAbsolutePath host

def postgresHostsAreExplicitTcp (hosts : Bytes) : Bool :=
  match fromUtf8 hosts with
  | none => false
  | some hosts => (hosts.splitOn ',').all fun host => hostIsExplicitTcp (trim host)

/-- A comma-separated host list as a reader that dials TCP needs it. -/
def TcpHostList (hosts : Str) : Prop :=
  ∀ host ∈ hosts.splitOn ',', trim host ≠ [] ∧ '/' ∉ trim host ∧ '\\' ∉ trim host

theorem hostIsExplicitTcp_spec {host : Str} (h : hostIsExplicitTcp host = true) :
    host ≠ [] ∧ '/' ∉ host ∧ '\\' ∉ host := by
  simp only [hostIsExplicitTcp, Bool.and_eq_true, Bool.not_eq_eq_eq_not, Bool.not_true,
    List.isEmpty_eq_false_iff, List.any_eq_false, Bool.or_eq_true, decide_eq_true_eq, not_or] at h
  exact ⟨h.1.1.1, fun hm => (h.1.2 _ hm).1 rfl, fun hm => (h.1.2 _ hm).2 rfl⟩

theorem postgresHostsAreExplicitTcp_spec {hosts : Bytes}
    (h : postgresHostsAreExplicitTcp hosts = true) :
    ∃ text, fromUtf8 hosts = some text ∧ TcpHostList text := by
  rw [postgresHostsAreExplicitTcp] at h
  cases ht : fromUtf8 hosts with
  | none => simp [ht] at h
  | some text =>
    rw [ht] at h
    exact ⟨text, rfl, fun host hm => hostIsExplicitTcp_spec (List.all_eq_true.mp h host hm)⟩

/-- No element of a TCP host list brings in a slash. -/
theorem TcpHostList.noSlash {hosts : Str} (h : TcpHostList hosts) : '/' ∉ hosts := by
  intro hm
  obtain ⟨p, hp, hc⟩ := mem_splitOn_trim hm (by decide : '/' ≠ ',') (by decide)
  exact (h p hp).2.1 hc

end OpenBao.DsnText
