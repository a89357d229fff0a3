import OpenBao.ClientConfigs

/-!
# Configurations from environment variables

A setting is taken from the first of its variables that is not blank. What a configuration
that is read in this way looks like.
-/

namespace OpenBao.EnvironmentConfigs
open ClientConfigs ConsistencyContexts LoopbackHttp PathValidation Utf8Text

def addressEnvKeys : List String := ["OPENBAO_ADDR", "BAO_ADDR", "VAULT_ADDR"]
def tokenEnvKeys : List String := ["OPENBAO_TOKEN", "BAO_TOKEN", "VAULT_TOKEN"]
def namespaceEnvKeys : List String := ["OPENBAO_NAMESPACE", "BAO_NAMESPACE", "VAULT_NAMESPACE"]
def caCertEnvKeys : List String := ["OPENBAO_CACERT", "BAO_CACERT", "VAULT_CACERT"]
def rootsOnlyEnvKeys : List String :=
  ["OPENBAO_ONLY_ROOT_CERTIFICATES", "OPENBAO_TLS_ROOTS_ONLY", "BAO_ONLY_ROOT_CERTIFICATES",
    "BAO_TLS_ROOTS_ONLY", "VAULT_ONLY_ROOT_CERTIFICATES", "VAULT_TLS_ROOTS_ONLY"]
def localHttpEnvKeys : List String :=
  ["OPENBAO_ALLOW_LOCALHOST_HTTP", "BAO_ALLOW_LOCALHOST_HTTP", "VAULT_ALLOW_LOCALHOST_HTTP"]

def maxCaCertificateFileBytes : ℕ := 1024 * 1024

variable {Certificate Identity : Type}

/-- An opened certificate file. It may grow behind the reading of its metadata. -/
structure CaFile where
  metadata : Option (Bool × ℕ)
  contents : Option Bytes

/-- The file system and the certificate parser. -/
structure CaFiles (Certificate : Type) where
  openCaCertificateFile : Str → Option CaFile
  fromPem : Bytes → Option Certificate

def tlsError (message : String) : SetupError := .config (.invalidTlsConfig message)

def unreadable : SetupError := tlsError "failed to read the configured CA certificate file"

def irregular : SetupError :=
  tlsError "configured CA certificate must be a regular file no larger than 1 MiB"

/-- At most one byte above the limit is read. -/
def readConfiguredCaCertificateFile (files : CaFiles Certificate) (path : Str) :
    Except SetupError Bytes :=
  match files.openCaCertificateFile path with
  | none => .error unreadable
  | some file =>
    match file.metadata with
    | none => .error unreadable
    | some (isFile, length) =>
      if !isFile || maxCaCertificateFileBytes < length then .error irregular
      else
        match file.contents.map fun contents => contents.take (maxCaCertificateFileBytes + 1) with
        | none => .error unreadable
        | some pem => if maxCaCertificateFileBytes < pem.length then .error irregular else .ok pem

section Lookup

variable (lookup : String → Option Str)

def firstEnvValue (keys : List String) : Option (String × Str) :=
  keys.findSome? fun key =>
    (((lookup key).map trim).filter fun value => value ≠ []).map fun value => (key, value)

def envBool (keys : List String) : Except SetupError Bool :=
  match firstEnvValue lookup keys with
  | none => .ok false
  | some (key, value) =>
    let value := value.map Char.toLower
    if ["1".toList, "true".toList, "yes".toList, "on".toList].contains value then .ok true
    else if ["0".toList, "false".toList, "no".toList, "off".toList].contains value then .ok false
    else .error (.other (.invalidParameter
      (key ++ " must be one of 1, true, yes, on, 0, false, no, or off")))

variable (build : Build) (files : CaFiles Certificate)

def caCertificate : Except SetupError (Option Certificate) :=
  match firstEnvValue lookup caCertEnvKeys with
  | none => .ok none
  | some (_, path) =>
    readConfiguredCaCertificateFile files path >>= fun pem =>
      match files.fromPem pem with
      | none => .error (tlsError "failed to parse the configured CA certificate file")
      | some cert => .ok (some cert)

def withLocalHttp (config : OpenBaoConfig Certificate Identity) :
    Except SetupError (OpenBaoConfig Certificate Identity) :=
  envBool lookup localHttpEnvKeys >>= fun allowed =>
    if allowed then config.allowLocalhostHttp build else .ok config

def withNamespace (config : OpenBaoConfig Certificate Identity) :
    Except SetupError (OpenBaoConfig Certificate Identity) :=
  match firstEnvValue lookup namespaceEnvKeys with
  | none => .ok config
  | some (_, path) => config.setNamespace path

def withRoots (config : OpenBaoConfig Certificate Identity) (cert : Option Certificate) :
    Except SetupError (OpenBaoConfig Certificate Identity) :=
  envBool lookup rootsOnlyEnvKeys >>= fun rootsOnly =>
    match rootsOnly, cert with
    | true, none => .error (tlsError
        "root-only trust requires OPENBAO_CACERT, BAO_CACERT, or VAULT_CACERT")
    | true, some cert => config.onlyRootCertificates [cert]
    | false, some cert => .ok (config.addRootCertificate cert)
    | false, none => .ok config

def openbaoConfigFromEnvLookup : Except SetupError (OpenBaoConfig Certificate Identity) :=
  match firstEnvValue lookup addressEnvKeys with
  | none => .error (.config (.invalidBaseUrl "missing OPENBAO_ADDR, BAO_ADDR, or VAULT_ADDR"))
  | some (_, address) =>
    OpenBaoConfig.new build address >>= fun config =>
      withLocalHttp lookup build config >>= fun config =>
        withNamespace lookup config >>= fun config =>
          caCertificate lookup files >>= fun cert =>
            withRoots lookup config cert >>= fun config =>
              config.validate build >>= fun _ => .ok config

/-- The token is returned with its white space, which the client refuses later. -/
def openbaoTokenFromEnvLookup : Except Error Str :=
  match (tokenEnvKeys.filterMap lookup).find? fun value => trim value ≠ [] with
  | none => .error .missingToken
  | some token => .ok token

end Lookup

/-! ### What is read -/

section Reading

variable {lookup : String → Option Str} {keys : List String}

/-- A variable that is not set or holds only white space. -/
def Blank (lookup : String → Option Str) (key : String) : Prop :=
  ∀ text, lookup key = some text → trim text = []

/-- The variable is the first one that is not blank. -/
def First (lookup : String → Option Str) (keys : List String) (key : String) (text : Str) : Prop :=
  ∃ before after, keys = before ++ key :: after ∧ (∀ k ∈ before, Blank lookup k) ∧
    lookup key = some text ∧ trim text ≠ []

theorem effective_eq_none_iff {key : String} :
    (((lookup key).map trim).filter fun value => value ≠ []).map (fun value => (key, value)) =
      none ↔ Blank lookup key := by
  unfold Blank
  cases lookup key with
  | none => simp
  | some text => simp

theorem effective_eq_some_iff {key k : String} {value : Str} :
    (((lookup key).map trim).filter fun value => value ≠ []).map (fun value => (key, value)) =
      some (k, value) ↔ k = key ∧ ∃ text, lookup key = some text ∧ trim text ≠ [] ∧ value = trim text := by
  rw [Option.map_eq_some_iff]
  constructor
  · rintro ⟨v, hv, heq⟩
    obtain ⟨rfl, rfl⟩ := Prod.mk.inj heq
    obtain ⟨hmap, hne⟩ := Option.filter_eq_some_iff.mp hv
    obtain ⟨text, hlookup, rfl⟩ := Option.map_eq_some_iff.mp hmap
    exact ⟨rfl, text, hlookup, of_decide_eq_true hne, rfl⟩
  · rintro ⟨rfl, text, hlookup, hne, rfl⟩
    refine ⟨trim text, Option.filter_eq_some_iff.mpr ⟨?_, decide_eq_true hne⟩, rfl⟩
    rw [hlookup, Option.map_some]

theorem firstEnvValue_eq_none_iff :
    firstEnvValue lookup keys = none ↔ ∀ k ∈ keys, Blank lookup k := by
  rw [firstEnvValue, List.findSome?_eq_none_iff]
  exact forall₂_congr fun k _ => effective_eq_none_iff

theorem firstEnvValue_eq_some_iff {key : String} {value : Str} :
    firstEnvValue lookup keys = some (key, value) ↔
      ∃ text, First lookup keys key text ∧ value = trim text := by
  rw [firstEnvValue, List.findSome?_eq_some_iff]
  constructor
  · rintro ⟨before, k, after, hkeys, hvalue, hbefore⟩
    obtain ⟨rfl, text, hlookup, hne, rfl⟩ := effective_eq_some_iff.mp hvalue
    exact ⟨text, ⟨before, after, hkeys, fun k hk => effective_eq_none_iff.mp (hbefore k hk),
      hlookup, hne⟩, rfl⟩
  · rintro ⟨text, ⟨before, after, hkeys, hbefore, hlookup, hne⟩, rfl⟩
    exact ⟨before, key, after, hkeys, effective_eq_some_iff.mpr ⟨rfl, text, hlookup, hne, rfl⟩,
      fun k hk => effective_eq_none_iff.mpr (hbefore k hk)⟩

theorem First.firstEnvValue_eq {key : String} {text : Str} (h : First lookup keys key text) :
    firstEnvValue lookup keys = some (key, trim text) :=
  firstEnvValue_eq_some_iff.mpr ⟨text, h, rfl⟩

theorem find?_filterMap_eq_some_iff {text : Str} :
    (keys.filterMap lookup).find? (fun value => decide (trim value ≠ [])) = some text ↔
      ∃ key, First lookup keys key text := by
  induction keys with
  | nil =>
    refine iff_of_false (by simp) ?_
    rintro ⟨key, before, after, hkeys, -⟩
    simp at hkeys
  | cons k keys ih =>
    have hcons : (∃ key, First lookup (k :: keys) key text) ↔
        (lookup k = some text ∧ trim text ≠ []) ∨
          Blank lookup k ∧ ∃ key, First lookup keys key text := by
      constructor
      · rintro ⟨key, before, after, hkeys, hbefore, hlookup, hne⟩
        cases before with
        | nil =>
          obtain ⟨rfl, -⟩ := List.cons.inj hkeys
          exact .inl ⟨hlookup, hne⟩
        | cons b before =>
          obtain ⟨rfl, htail⟩ := List.cons.inj hkeys
          rw [List.forall_mem_cons] at hbefore
          exact .inr ⟨hbefore.1, key, before, after, htail, hbefore.2, hlookup, hne⟩
      · rintro (⟨hlookup, hne⟩ | ⟨hblank, key, before, after, rfl, hbefore, hfirst⟩)
        · exact ⟨k, [], keys, rfl, by simp, hlookup, hne⟩
        · exact ⟨key, k :: before, after, rfl, List.forall_mem_cons.mpr ⟨hblank, hbefore⟩, hfirst⟩
    rw [hcons, ← ih]
    cases hk : lookup k with
    | none =>
      rw [List.filterMap_cons_none hk]
      simp [Blank, hk]
    | some value =>
      rw [List.filterMap_cons_some hk, List.find?_cons]
      by_cases hblank : trim value = []
      · simp only [hblank, ne_eq, not_true_eq_false, decide_false, Option.some.injEq]
        refine (or_iff_right ?_).symm.trans (or_congr Iff.rfl (and_iff_right ?_).symm)
        · rintro ⟨rfl, hne⟩
          exact hne hblank
        · intro other hother
          rw [hk] at hother
          rwa [← Option.some.inj hother]
      · simp only [ne_eq, hblank, not_false_eq_true, decide_true, Option.some.injEq]
        refine (or_iff_left ?_).symm.trans (or_congr_left ?_)
        · exact fun h => hblank (h.1 value hk)
        · constructor
          · rintro rfl
            exact ⟨rfl, hblank⟩
          · exact fun h => h.1

end Reading

/-! ### The configuration -/

def onTexts : List Str := ["1".toList, "true".toList, "yes".toList, "on".toList]
def offTexts : List Str := ["0".toList, "false".toList, "no".toList, "off".toList]

/-- What a switch is read as. -/
inductive Switch (lookup : String → Option Str) (keys : List String) : Bool → Prop where
  | unset (h : ∀ k ∈ keys, Blank lookup k) : Switch lookup keys false
  | off {key text} (h : First lookup keys key text)
      (htext : (trim text).map Char.toLower ∈ offTexts) : Switch lookup keys false
  | on {key text} (h : First lookup keys key text)
      (htext : (trim text).map Char.toLower ∈ onTexts) : Switch lookup keys true

structure EnvSettings (Certificate : Type) where
  url : Url
  localHttp : Bool
  namespacePath : Option Str
  certificate : Option Certificate
  rootsOnly : Bool

/-- The defaults with what the variables set. -/
def EnvSettings.config (s : EnvSettings Certificate) : OpenBaoConfig Certificate Identity where
  baseUrl := s.url
  httpPolicy := if s.localHttp then .localhostHttpAllowed else .httpsOnly
  namespacePath := s.namespacePath
  rootCertificates := s.certificate.toList
  rootCertificateMode := if s.rootsOnly then .onlyConfigured else .mergeWithSystem

/-- The variables say these settings: each is taken from its first variable that is not blank. -/
structure Says (build : Build) (files : CaFiles Certificate) (lookup : String → Option Str)
    (s : EnvSettings Certificate) : Prop where
  address : ∃ key text, First lookup addressEnvKeys key text ∧ build.parseUrl (trim text) = .ok s.url
  localHttp : Switch lookup localHttpEnvKeys s.localHttp
  namespacePath : (∀ k ∈ namespaceEnvKeys, Blank lookup k) ∧ s.namespacePath = none ∨
    ∃ key text segments, First lookup namespaceEnvKeys key text ∧
      validateMountPath (trim text) = .ok segments ∧ s.namespacePath = some (join '/' segments)
  certificate : (∀ k ∈ caCertEnvKeys, Blank lookup k) ∧ s.certificate = none ∨
    ∃ key text pem cert, First lookup caCertEnvKeys key text ∧
      readConfiguredCaCertificateFile files (trim text) = .ok pem ∧
      files.fromPem pem = some cert ∧ s.certificate = some cert
  rootsOnly : Switch lookup rootsOnlyEnvKeys s.rootsOnly
  rooted : s.rootsOnly = true → s.certificate ≠ none

section Configuration

variable {build : Build} {files : CaFiles Certificate} {lookup : String → Option Str}

theorem not_on_and_off {text : Str} (hon : text ∈ onTexts) : text ∉ offTexts := by
  have hall : ∀ text ∈ onTexts, text ∉ offTexts := by decide +kernel
  exact hall text hon

theorem envBool_eq_ok_iff {keys : List String} {b : Bool} :
    envBool lookup keys = .ok b ↔ Switch lookup keys b := by
  have hon : ∀ text : Str, ["1".toList, "true".toList, "yes".toList, "on".toList].contains text =
      true ↔ text ∈ onTexts := fun text => List.contains_iff_mem
  have hoff : ∀ text : Str, ["0".toList, "false".toList, "no".toList, "off".toList].contains text =
      true ↔ text ∈ offTexts := fun text => List.contains_iff_mem
  unfold envBool
  split
  · next hnone =>
    constructor
    · rintro ⟨⟩
      exact .unset (firstEnvValue_eq_none_iff.mp hnone)
    · intro h
      cases h with
      | unset | off => rfl
      | on h =>
        rw [h.firstEnvValue_eq] at hnone
        cases hnone
  · next key value hsome =>
    obtain ⟨text, hfirst, rfl⟩ := firstEnvValue_eq_some_iff.mp hsome
    dsimp only
    constructor
    · intro h
      split at h
      · next hlower =>
        cases h
        exact .on hfirst ((hon _).mp hlower)
      · split at h
        · next hlower =>
          cases h
          exact .off hfirst ((hoff _).mp hlower)
        · cases h
    · intro h
      cases h with
      | unset h =>
        rw [firstEnvValue_eq_none_iff.mpr h] at hsome
        cases hsome
      | off h htext =>
        obtain ⟨-, htrim⟩ := Prod.mk.inj (Option.some.inj (hsome.symm.trans h.firstEnvValue_eq))
        rw [← htrim] at htext
        have hnot := mt (hon ((trim text).map Char.toLower)).mp fun hmem =>
          not_on_and_off hmem htext
        rw [if_neg hnot, if_pos ((hoff _).mpr htext)]
      | on h htext =>
        obtain ⟨-, htrim⟩ := Prod.mk.inj (Option.some.inj (hsome.symm.trans h.firstEnvValue_eq))
        rw [← htrim] at htext
        rw [if_pos ((hon _).mpr htext)]

/-- Each part of the configuration is set by its own step. -/
theorem withLocalHttp_eq_ok_iff {config next : OpenBaoConfig Certificate Identity} :
    withLocalHttp lookup build config = .ok next ↔
      ∃ b, Switch lookup localHttpEnvKeys b ∧
        if b then config.allowLocalhostHttp build = .ok next else next = config := by
  rw [withLocalHttp, bind_eq_ok_iff]
  refine exists_congr fun b => and_congr envBool_eq_ok_iff ?_
  cases b with
  | true => exact Iff.rfl
  | false => exact ⟨fun h => (Except.ok.inj h).symm, fun h => congrArg Except.ok h.symm⟩

theorem withNamespace_eq_ok_iff {config next : OpenBaoConfig Certificate Identity} :
    withNamespace lookup config = .ok next ↔
      ((∀ k ∈ namespaceEnvKeys, Blank lookup k) ∧ next = config) ∨
        ∃ key text segments, First lookup namespaceEnvKeys key text ∧
          validateMountPath (trim text) = .ok segments ∧
          next = { config with namespacePath := some (join '/' segments) } := by
  unfold withNamespace
  split
  · next hnone =>
    have hblank := firstEnvValue_eq_none_iff.mp hnone
    constructor
    · intro h
      exact .inl ⟨hblank, (Except.ok.inj h).symm⟩
    · rintro (⟨-, rfl⟩ | ⟨key, text, segments, hfirst, -⟩)
      · rfl
      · rw [hfirst.firstEnvValue_eq] at hnone
        cases hnone
  · next key path hsome =>
    obtain ⟨text, hfirst, rfl⟩ := firstEnvValue_eq_some_iff.mp hsome
    constructor
    · intro h
      obtain ⟨segments, hsegments, hnext⟩ := bind_eq_ok_iff.mp h
      exact .inr ⟨key, text, segments, hfirst, mapError_eq_ok_iff.mp hsegments,
        (Except.ok.inj hnext).symm⟩
    · rintro (⟨hblank, -⟩ | ⟨key', text', segments, hfirst', hsegments, rfl⟩)
      · rw [firstEnvValue_eq_none_iff.mpr hblank] at hsome
        cases hsome
      · obtain ⟨-, htrim⟩ :=
          Prod.mk.inj (Option.some.inj (hsome.symm.trans hfirst'.firstEnvValue_eq))
        rw [htrim]
        exact setNamespace_of_ok hsegments

theorem caCertificate_eq_ok_iff {cert : Option Certificate} :
    caCertificate lookup files = .ok cert ↔
      ((∀ k ∈ caCertEnvKeys, Blank lookup k) ∧ cert = none) ∨
        ∃ key text pem certificate, First lookup caCertEnvKeys key text ∧
          readConfiguredCaCertificateFile files (trim text) = .ok pem ∧
          files.fromPem pem = some certificate ∧ cert = some certificate := by
  unfold caCertificate
  split
  · next hnone =>
    have hblank := firstEnvValue_eq_none_iff.mp hnone
    constructor
    · intro h
      exact .inl ⟨hblank, (Except.ok.inj h).symm⟩
    · rintro (⟨-, rfl⟩ | ⟨key, text, pem, certificate, hfirst, -⟩)
      · rfl
      · rw [hfirst.firstEnvValue_eq] at hnone
        cases hnone
  · next key path hsome =>
    obtain ⟨text, hfirst, rfl⟩ := firstEnvValue_eq_some_iff.mp hsome
    constructor
    · intro h
      obtain ⟨pem, hpem, hcert⟩ := bind_eq_ok_iff.mp h
      split at hcert
      · cases hcert
      · next certificate hparsed =>
        exact .inr ⟨key, text, pem, certificate, hfirst, hpem, hparsed, (Except.ok.inj hcert).symm⟩
    · rintro (⟨hblank, -⟩ | ⟨key', text', pem, certificate, hfirst', hpem, hparsed, rfl⟩)
      · rw [firstEnvValue_eq_none_iff.mpr hblank] at hsome
        cases hsome
      · obtain ⟨-, htrim⟩ :=
          Prod.mk.inj (Option.some.inj (hsome.symm.trans hfirst'.firstEnvValue_eq))
        rw [htrim, hpem]
        change (match files.fromPem pem with
          | none => Except.error (tlsError "failed to parse the configured CA certificate file")
          | some cert => Except.ok (some cert)) = _
        rw [hparsed]

/-- The roots of a configuration that had none. -/
theorem withRoots_eq_ok_iff {config next : OpenBaoConfig Certificate Identity}
    {cert : Option Certificate} (hroots : config.rootCertificates = [])
    (hmode : config.rootCertificateMode = .mergeWithSystem) :
    withRoots lookup config cert = .ok next ↔
      ∃ b, Switch lookup rootsOnlyEnvKeys b ∧ (b = true → cert ≠ none) ∧
        next = { config with
          rootCertificates := cert.toList
          rootCertificateMode := if b then .onlyConfigured else .mergeWithSystem } := by
  rw [withRoots, bind_eq_ok_iff]
  refine exists_congr fun b => and_congr envBool_eq_ok_iff ?_
  cases b with
  | true =>
    cases cert with
    | none => exact iff_of_false (by intro h; cases h) fun h => h.1 rfl rfl
    | some cert =>
      exact ⟨fun h => ⟨by simp, (Except.ok.inj h).symm⟩, fun h => congrArg Except.ok h.2.symm⟩
  | false =>
    cases cert with
    | none =>
      have hsame : { config with
          rootCertificates := (none : Option Certificate).toList
          rootCertificateMode := .mergeWithSystem } = config := by
        change { config with rootCertificates := [], rootCertificateMode := .mergeWithSystem } = _
        rw [← hroots, ← hmode]
      exact ⟨fun h => ⟨by simp, (Except.ok.inj h).symm.trans hsame.symm⟩,
        fun h => congrArg Except.ok (hsame.symm.trans h.2.symm)⟩
    | some cert =>
      have hsame : { config with
          rootCertificates := (some cert).toList
          rootCertificateMode := .mergeWithSystem } = config.addRootCertificate cert := by
        unfold OpenBaoConfig.addRootCertificate
        rw [hroots, ← hmode]
        rfl
      exact ⟨fun h => ⟨by simp, (Except.ok.inj h).symm.trans hsame.symm⟩,
        fun h => congrArg Except.ok (hsame.symm.trans h.2.symm)⟩

theorem new_eq_ok_iff {baseUrl : Str} {config : OpenBaoConfig Certificate Identity} :
    OpenBaoConfig.new build baseUrl = .ok config ↔
      ∃ url, build.parseUrl baseUrl = .ok url ∧ validateBaseUrlComponents url = .ok () ∧
        config = { baseUrl := url } := by
  unfold ClientConfigs.OpenBaoConfig.new
  cases build.parseUrl baseUrl with
  | error message => exact iff_of_false (by intro h; cases h) (by rintro ⟨_, h, -⟩; cases h)
  | ok url =>
    simp only [Except.ok.injEq, exists_eq_left']
    unfold OpenBao.LoopbackHttp.OpenBaoConfig.new
    cases validateBaseUrlComponents url with
    | error e => exact iff_of_false (by intro h; cases h) (by rintro ⟨h, -⟩; cases h)
    | ok _ => exact ⟨fun h => ⟨rfl, (Except.ok.inj h).symm⟩, fun h => congrArg Except.ok h.2.symm⟩

/-- The configuration behind the opt-in. -/
def localConfig (url : Url) (localHttp : Bool) : OpenBaoConfig Certificate Identity where
  baseUrl := url
  httpPolicy := if localHttp then .localhostHttpAllowed else .httpsOnly

theorem withLocalHttp_new_iff {url : Url} {next : OpenBaoConfig Certificate Identity} :
    withLocalHttp lookup build { baseUrl := url } = .ok next ↔
      ∃ b, Switch lookup localHttpEnvKeys b ∧ next = localConfig url b ∧
        (b = true → next.validate build = .ok ()) := by
  rw [withLocalHttp_eq_ok_iff]
  refine exists_congr fun b => and_congr_right fun _ => ?_
  cases b with
  | true =>
    constructor
    · intro h
      obtain ⟨hvalidate, hnext⟩ := bind_unit_eq_ok_iff.mp h
      obtain rfl := Except.ok.inj hnext
      exact ⟨rfl, fun _ => hvalidate⟩
    · rintro ⟨rfl, hvalidate⟩
      exact bind_unit_eq_ok_iff.mpr ⟨hvalidate rfl, rfl⟩
  | false => exact ⟨fun h => ⟨h, by simp⟩, fun h => h.1⟩

/-- What is validated at the end was also valid behind the opt-in. -/
theorem localConfig_validate {s : EnvSettings Certificate}
    (h : (s.config : OpenBaoConfig Certificate Identity).validate build = .ok ()) :
    (localConfig s.url s.localHttp : OpenBaoConfig Certificate Identity).validate build = .ok () := by
  obtain ⟨hcomponents, htls, htoken, -, htransport⟩ := validate_eq_ok_iff.mp h
  exact validate_eq_ok_iff.mpr ⟨hcomponents, htls, htoken, .inl rfl, htransport⟩

/-- Reading the environment: the settings that the variables say, validated. -/
theorem openbaoConfigFromEnvLookup_eq_ok_iff {config : OpenBaoConfig Certificate Identity} :
    openbaoConfigFromEnvLookup lookup build files = .ok config ↔
      ∃ s, Says build files lookup s ∧ config = s.config ∧ config.validate build = .ok () := by
  unfold openbaoConfigFromEnvLookup
  split
  · next hnone =>
    refine iff_of_false (by intro h; cases h) ?_
    rintro ⟨s, hsays, -⟩
    obtain ⟨key, text, hfirst, -⟩ := hsays.address
    rw [hfirst.firstEnvValue_eq] at hnone
    cases hnone
  · next key address hsome =>
    constructor
    · intro h
      obtain ⟨text, hfirst, rfl⟩ := firstEnvValue_eq_some_iff.mp hsome
      obtain ⟨_, hnew, h⟩ := bind_eq_ok_iff.mp h
      obtain ⟨url, hurl, -, rfl⟩ := new_eq_ok_iff.mp hnew
      obtain ⟨opted, hlocal, h⟩ := bind_eq_ok_iff.mp h
      obtain ⟨b, hb, rfl, -⟩ := withLocalHttp_new_iff.mp hlocal
      obtain ⟨spaced, hspace, h⟩ := bind_eq_ok_iff.mp h
      obtain ⟨cert, hcert, h⟩ := bind_eq_ok_iff.mp h
      obtain ⟨rooted, hrooted, h⟩ := bind_eq_ok_iff.mp h
      obtain ⟨hvalidate, hconfig⟩ := bind_unit_eq_ok_iff.mp h
      obtain rfl := Except.ok.inj hconfig
      have haddress : ∃ key text, First lookup addressEnvKeys key text ∧
          build.parseUrl (trim text) = .ok url := ⟨key, text, hfirst, hurl⟩
      have hcertificate := caCertificate_eq_ok_iff.mp hcert
      rcases withNamespace_eq_ok_iff.mp hspace with ⟨hblank, rfl⟩ | ⟨k, path, segments, hk, hp, rfl⟩
      · obtain ⟨only, honly, hsome, rfl⟩ := (withRoots_eq_ok_iff rfl rfl).mp hrooted
        exact ⟨⟨url, b, none, cert, only⟩,
          ⟨haddress, hb, .inl ⟨hblank, rfl⟩, hcertificate, honly, hsome⟩, rfl, hvalidate⟩
      · obtain ⟨only, honly, hsome, rfl⟩ := (withRoots_eq_ok_iff rfl rfl).mp hrooted
        exact ⟨⟨url, b, some (join '/' segments), cert, only⟩,
          ⟨haddress, hb, .inr ⟨k, path, segments, hk, hp, rfl⟩, hcertificate, honly, hsome⟩, rfl,
          hvalidate⟩
    · rintro ⟨s, hsays, rfl, hvalidate⟩
      obtain ⟨key', text, hfirst, hurl⟩ := hsays.address
      obtain ⟨-, rfl⟩ := Prod.mk.inj (Option.some.inj (hsome.symm.trans hfirst.firstEnvValue_eq))
      have hcomponents := (validate_eq_ok_iff.mp hvalidate).1
      have hlocal := localConfig_validate hvalidate
      refine bind_eq_ok_iff.mpr ⟨_, new_eq_ok_iff.mpr ⟨s.url, hurl, hcomponents, rfl⟩, ?_⟩
      refine bind_eq_ok_iff.mpr ⟨_, withLocalHttp_new_iff.mpr
        ⟨s.localHttp, hsays.localHttp, rfl, fun _ => hlocal⟩, ?_⟩
      refine bind_eq_ok_iff.mpr ⟨{ localConfig s.url s.localHttp with
        namespacePath := s.namespacePath }, ?_, ?_⟩
      · refine withNamespace_eq_ok_iff.mpr ( hsays.namespacePath.imp (fun h => ⟨h.1, ?_⟩) ?_)
        · rw [h.2]
          rfl
        · rintro ⟨k, path, segments, hk, hp, hspace⟩
          exact ⟨k, path, segments, hk, hp, by rw [hspace]⟩
      · refine bind_eq_ok_iff.mpr ⟨s.certificate, caCertificate_eq_ok_iff.mpr hsays.certificate, ?_⟩
        refine bind_eq_ok_iff.mpr ⟨s.config, (withRoots_eq_ok_iff rfl rfl).mpr
          ⟨s.rootsOnly, hsays.rootsOnly, hsays.rooted, rfl⟩, ?_⟩
        exact bind_unit_eq_ok_iff.mpr ⟨hvalidate, rfl⟩

/-- A configuration from the environment is one that the public methods lead to. -/
theorem reachable_of_openbaoConfigFromEnvLookup {config : OpenBaoConfig Certificate Identity}
    (h : openbaoConfigFromEnvLookup lookup build files = .ok config) : Reachable build config := by
  unfold openbaoConfigFromEnvLookup at h
  split at h
  · cases h
  · next key address hsome =>
    obtain ⟨started, hnew, h⟩ := bind_eq_ok_iff.mp h
    have hreach : Reachable build started := .new hnew
    obtain ⟨opted, hlocal, h⟩ := bind_eq_ok_iff.mp h
    have hreach : Reachable build opted := by
      obtain ⟨b, -, hb⟩ := withLocalHttp_eq_ok_iff.mp hlocal
      cases b with
      | true => exact .call hreach .allowLocalhostHttp hb
      | false => exact hb ▸ hreach
    obtain ⟨spaced, hspace, h⟩ := bind_eq_ok_iff.mp h
    have hreach : Reachable build spaced := by
      unfold withNamespace at hspace
      split at hspace
      · exact Except.ok.inj hspace ▸ hreach
      · next _ path _ => exact .call hreach (.namespacePath path) hspace
    obtain ⟨cert, -, h⟩ := bind_eq_ok_iff.mp h
    obtain ⟨rooted, hrooted, h⟩ := bind_eq_ok_iff.mp h
    obtain ⟨-, hconfig⟩ := bind_unit_eq_ok_iff.mp h
    obtain rfl := Except.ok.inj hconfig
    obtain ⟨only, -, honly⟩ := bind_eq_ok_iff.mp hrooted
    split at honly
    · cases honly
    · next cert => exact .call hreach (.onlyRootCertificates [cert]) honly
    · next cert => exact .call hreach (.addRootCertificate cert) honly
    · exact Except.ok.inj honly ▸ hreach

theorem openbaoTokenFromEnvLookup_eq_ok_iff {token : Str} :
    openbaoTokenFromEnvLookup lookup = .ok token ↔ ∃ key, First lookup tokenEnvKeys key token := by
  rw [← find?_filterMap_eq_some_iff, openbaoTokenFromEnvLookup]
  cases (tokenEnvKeys.filterMap lookup).find? fun value => decide (trim value ≠ []) with
  | none => exact iff_of_false (by intro h; cases h) (by intro h; cases h)
  | some value => rw [Except.ok.injEq, Option.some.injEq]

/-- The limit holds although the file may grow while it is read. -/
theorem readConfiguredCaCertificateFile_length {path : Str} {pem : Bytes}
    (h : readConfiguredCaCertificateFile files path = .ok pem) :
    pem.length ≤ maxCaCertificateFileBytes := by
  unfold readConfiguredCaCertificateFile at h
  split at h
  · cases h
  · split at h
    · cases h
    · split at h
      · cases h
      · split at h
        · cases h
        · split at h
          · cases h
          · next hsmall =>
            obtain rfl := Except.ok.inj h
            exact not_lt.mp hsmall

/-- A client reads from its environment exactly the settings that the first non-blank
variables say, when they are valid; the result is one that the public methods lead to, and the
token is the text of its first non-blank variable. -/
theorem environmentConfig_law (build : Build) (files : CaFiles Certificate)
    (lookup : String → Option Str) :
    (∀ config : OpenBaoConfig Certificate Identity,
      openbaoConfigFromEnvLookup lookup build files = .ok config ↔
        ∃ s, Says build files lookup s ∧ config = s.config ∧ config.validate build = .ok ()) ∧
    (∀ config : OpenBaoConfig Certificate Identity,
      openbaoConfigFromEnvLookup lookup build files = .ok config → Reachable build config) ∧
    (∀ token, openbaoTokenFromEnvLookup lookup = .ok token ↔
      ∃ key, First lookup tokenEnvKeys key token) ∧
    ∀ path pem, readConfiguredCaCertificateFile files path = .ok pem →
      pem.length ≤ maxCaCertificateFileBytes :=
  ⟨fun _ => openbaoConfigFromEnvLookup_eq_ok_iff,
    fun _ h => reachable_of_openbaoConfigFromEnvLookup h,
    fun _ => openbaoTokenFromEnvLookup_eq_ok_iff,
    fun _ _ h => readConfiguredCaCertificateFile_length h⟩

end Configuration

/-- The first address variable is blank, and nothing else is set. -/
def exampleLookup (key : String) : Option Str :=
  if key = "OPENBAO_ADDR" then some " ".toList
  else if key = "BAO_ADDR" then some " https://10.0.0.1".toList else none

def exampleFiles : CaFiles Unit where
  openCaCertificateFile _ := none
  fromPem _ := none

def exampleSettings : EnvSettings Unit :=
  ⟨serverUrl, false, none, none, false⟩

theorem says_exampleSettings : Says exampleBuild exampleFiles exampleLookup exampleSettings where
  address := by
    refine ⟨"BAO_ADDR", " https://10.0.0.1".toList, ⟨["OPENBAO_ADDR"], ["VAULT_ADDR"], rfl, ?_, rfl,
      by decide +kernel⟩, rfl⟩
    intro k hk text htext
    obtain rfl := List.mem_singleton.mp hk
    obtain rfl := Option.some.inj htext
    decide +kernel
  localHttp := .unset (firstEnvValue_eq_none_iff.mp (by decide +kernel))
  namespacePath := .inl ⟨firstEnvValue_eq_none_iff.mp (by decide +kernel), rfl⟩
  certificate := .inl ⟨firstEnvValue_eq_none_iff.mp (by decide +kernel), rfl⟩
  rootsOnly := .unset (firstEnvValue_eq_none_iff.mp (by decide +kernel))
  rooted h := by cases h

theorem environmentConfig_law_example :
    openbaoConfigFromEnvLookup exampleLookup exampleBuild exampleFiles =
        .ok (exampleSettings.config : OpenBaoConfig Unit Unit) ∧
      Reachable exampleBuild (exampleSettings.config : OpenBaoConfig Unit Unit) := by
  obtain ⟨hread, hreach, -⟩ := @environmentConfig_law Unit Unit exampleBuild exampleFiles exampleLookup
  have hok := (hread exampleSettings.config).mpr ⟨_, says_exampleSettings, rfl, rfl⟩
  exact ⟨hok, hreach _ hok⟩

end OpenBao.EnvironmentConfigs
