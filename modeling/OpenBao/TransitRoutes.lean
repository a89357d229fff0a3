import Mathlib.Data.List.Forall2
import OpenBao.SecretRoutes

/-!
# Paths of the Transit engine

The calls whose documented route has a placeholder, with the text arguments and the
choices that go into their paths.
-/

namespace OpenBao.TransitRoutes
open PathValidation RegisteredRoutes RouteForms RouteTemplates SecretRoutes Utf8Text

inductive TransitDataKeyType where
  | plaintext | wrapped
  deriving DecidableEq, Repr

def TransitDataKeyType.asPathSegment : TransitDataKeyType → Str
  | plaintext => "plaintext".toList
  | wrapped => "wrapped".toList

theorem TransitDataKeyType.plain (a : TransitDataKeyType) :
    a.asPathSegment ≠ [] ∧ '/' ∉ a.asPathSegment := by
  cases a <;> decide +kernel

def TransitDataKeyType.argument (a : TransitDataKeyType) : Argument := .choice a.asPathSegment a.plain

inductive TransitRandomSource where
  | platform | all
  deriving DecidableEq, Repr

def TransitRandomSource.asPathSegment : TransitRandomSource → Str
  | platform => "platform".toList
  | all => "all".toList

theorem TransitRandomSource.plain (a : TransitRandomSource) :
    a.asPathSegment ≠ [] ∧ '/' ∉ a.asPathSegment := by
  cases a <;> decide +kernel

def TransitRandomSource.argument (a : TransitRandomSource) : Argument := .choice a.asPathSegment a.plain

inductive TransitHashAlgorithm where
  | sha1 | sha2_224 | sha2_256 | sha2_384 | sha2_512 | sha3_224 | sha3_256 | sha3_384 | sha3_512
  | none
  deriving DecidableEq, Repr

def TransitHashAlgorithm.asPathSegment : TransitHashAlgorithm → Str
  | sha1 => "sha1".toList
  | sha2_224 => "sha2-224".toList
  | sha2_256 => "sha2-256".toList
  | sha2_384 => "sha2-384".toList
  | sha2_512 => "sha2-512".toList
  | sha3_224 => "sha3-224".toList
  | sha3_256 => "sha3-256".toList
  | sha3_384 => "sha3-384".toList
  | sha3_512 => "sha3-512".toList
  | none => "none".toList

theorem TransitHashAlgorithm.plain (a : TransitHashAlgorithm) :
    a.asPathSegment ≠ [] ∧ '/' ∉ a.asPathSegment := by
  cases a <;> decide +kernel

def TransitHashAlgorithm.argument (a : TransitHashAlgorithm) : Argument := .choice a.asPathSegment a.plain

inductive TransitExportKeyType where
  | encryptionKey | signingKey | hmacKey | publicKey | certificateChain
  deriving DecidableEq, Repr

def TransitExportKeyType.asPathSegment : TransitExportKeyType → Str
  | encryptionKey => "encryption-key".toList
  | signingKey => "signing-key".toList
  | hmacKey => "hmac-key".toList
  | publicKey => "public-key".toList
  | certificateChain => "certificate-chain".toList

theorem TransitExportKeyType.plain (a : TransitExportKeyType) :
    a.asPathSegment ≠ [] ∧ '/' ∉ a.asPathSegment := by
  cases a <;> decide +kernel

def TransitExportKeyType.argument (a : TransitExportKeyType) : Argument := .choice a.asPathSegment a.plain

/-! ### Paths of the client -/

theorem allowedChar_of_isDigit {c : Char} (h : c.isDigit = true) : allowedChar c = true := by
  have hdigit : ∀ n < 58, 48 ≤ n → (n < 128 && !pathByteIsForbidden (UInt8.ofNat n)) = true := by
    decide
  simp only [Char.isDigit, Bool.and_eq_true, decide_eq_true_eq, ge_iff_le, UInt32.le_iff_toNat_le,
    Char.toNat_val] at h
  exact hdigit c.toNat (Nat.lt_succ_of_le h.2) h.1

/-- A number is written in characters that a path may have. -/
theorem decimal_canonical (n : ℕ) : CanonicalSegment (decimal n) := by
  have hdigit : ∀ c ∈ decimal n, ∀ d : Char, d.isDigit = false → c ≠ d := by
    rintro c hc d hd rfl
    rw [isDigit_of_mem_decimal hc] at hd
    cases hd
  refine ⟨decimal_ne_nil n, fun c hc => ?_, fun hs => ?_, fun hlast => ?_⟩
  · exact allowedChar_of_isDigit (isDigit_of_mem_decimal hc)
  · exact hdigit _ hs '/' rfl rfl
  · exact hdigit _ (List.mem_of_getLast? hlast) '.' rfl rfl

theorem decimal_plain (n : ℕ) : decimal n ≠ [] ∧ '/' ∉ decimal n :=
  ⟨(decimal_canonical n).nonempty, (decimal_canonical n).noSlash⟩

def number (n : ℕ) : Argument := .choice (decimal n) (decimal_plain n)

/-- `Transit::path`. -/
def path (mount tail : List Str) : Except Error Str := enginePath mount tail

def validateKeyName (name : Str) : Except Error (List Str) := validateMountPath name

def keyPath (mount : List Str) (name : Str) (suffix : Option Str) : Except Error Str := do
  let name ← validateKeyName name
  path mount ("keys".toList :: name ++ suffix.toList)

def operationPath (mount : List Str) (operation name : Str)
    (algorithm : Option TransitHashAlgorithm) : Except Error Str := do
  let name ← validateKeyName name
  path mount (operation :: name ++ (algorithm.map (·.asPathSegment)).toList)

def isWord (byte : UInt8) : Bool := isAsciiAlphanumeric byte || byte == 0x5f

/-- The check on names that the extensions make first. -/
def validateName (name : Str) : Except Error Unit :=
  let bytes := asBytes name
  if bytes.length > 256 || !bytes.head?.any isWord || !bytes.getLast?.any isWord ||
      !bytes.all (fun byte => isWord byte || byte == 0x2d || byte == 0x2e) then
    .error (.invalidParameter "invalid bounded Transit key or registry name")
  else .ok ()

def checkKeyVersion (version : Option ℕ) : Except Error Unit :=
  if version = some 0 then
    .error (.invalidParameter "Transit key version must be greater than zero")
  else .ok ()

def validateVersion (version : ℕ) : Except Error Unit :=
  if version = 0 ∨ version > 2147483647 then
    .error (.invalidParameter "Transit explicit version must be in 1..=2147483647")
  else .ok ()

/-- The methods of a Transit handle and of its extensions. Numbers stand for `u64`. -/
inductive TransitCall where
  | createKey (name : Str) | createMldsaKey (name : Str) | createExternalKey (name : Str)
  | readKey (name : Str) | readKeyDetails (name : Str) | deleteKey (name : Str)
  | updateKey (name : Str) | rotateKey (name : Str) | rotateExternalKey (name : Str)
  | importKey (name : Str) | importMldsaKey (name : Str)
  | importKeyVersion (name : Str) | importMldsaKeyVersion (name : Str)
  | softDeleteKey (name : Str) | restoreSoftDeletedKey (name : Str)
  | byokExport (destination source : Str) (version : Option ℕ)
  | exportKey (keyType : TransitExportKeyType) (name : Str) (version : Option ℕ)
  | exportKeyWithFormat (keyType : TransitExportKeyType) (name : Str) (version : Option ℕ)
  | backupKey (name : Str) | restoreKey (name : Option Str) | trimKey (name : Str)
  | generateCsr (name : Str) | setCertificate (name : Str)
  | encrypt (name : Str) | batchEncrypt (name : Str)
  | decrypt (name : Str) | batchDecrypt (name : Str)
  | rewrap (name : Str) | batchRewrap (name : Str)
  | dataKey (name : Str) (dataKeyType : TransitDataKeyType)
  | random (bytes : Option ℕ) | randomFromSource (source : TransitRandomSource) (bytes : Option ℕ)
  | hash (algorithm : TransitHashAlgorithm)
  | hmac (name : Str) (algorithm : Option TransitHashAlgorithm)
  | sign (name : Str) (algorithm : Option TransitHashAlgorithm)
  | batchSign (name : Str) (algorithm : Option TransitHashAlgorithm)
  | signMldsa (name : Str) | batchSignMldsa (name : Str)
  | verify (name : Str) (algorithm : Option TransitHashAlgorithm)
  | batchVerify (name : Str) (algorithm : Option TransitHashAlgorithm)
  | verifyMldsa (name : Str) | batchVerifyMldsa (name : Str)
  deriving DecidableEq, Repr

namespace TransitCall

def httpMethod : TransitCall → Method
  | readKey _ | readKeyDetails _ | byokExport _ _ _ | exportKey _ _ _ | exportKeyWithFormat _ _ _
  | backupKey _ => "GET"
  | deleteKey _ | softDeleteKey _ => "DELETE"
  | _ => "POST"

/-- The path that a method builds, behind its checks on names and versions. -/
def path (mount : List Str) : TransitCall → Except Error Str
  | createKey name | readKey name | deleteKey name => keyPath mount name none
  | createMldsaKey name | createExternalKey name | readKeyDetails name => do
    validateName name
    keyPath mount name none
  | updateKey name => keyPath mount name (some "config".toList)
  | rotateKey name => keyPath mount name (some "rotate".toList)
  | rotateExternalKey name => do
    validateName name
    keyPath mount name (some "rotate".toList)
  | importKey name => keyPath mount name (some "import".toList)
  | importMldsaKey name => do
    validateName name
    keyPath mount name (some "import".toList)
  | importKeyVersion name => keyPath mount name (some "import_version".toList)
  | importMldsaKeyVersion name => do
    validateName name
    keyPath mount name (some "import_version".toList)
  | softDeleteKey name => keyPath mount name (some "soft-delete".toList)
  | restoreSoftDeletedKey name => keyPath mount name (some "soft-delete-restore".toList)
  | byokExport destination source version => do
    checkKeyVersion version
    let destination ← validateKeyName destination
    let source ← validateKeyName source
    TransitRoutes.path mount
      ("byok-export".toList :: destination ++ source ++ (version.map decimal).toList)
  | exportKey keyType name version => do
    checkKeyVersion version
    let name ← validateKeyName name
    TransitRoutes.path mount
      ("export".toList :: keyType.asPathSegment :: name ++ (version.map decimal).toList)
  | exportKeyWithFormat keyType name version => do
    validateName name
    version.forM validateVersion
    let name ← validateKeyName name
    let path ← TransitRoutes.path mount ["export".toList, keyType.asPathSegment, join '/' name]
    return path ++ (match version with
      | some version => '/' :: decimal version
      | none => [])
  | backupKey name => do
    let name ← validateKeyName name
    TransitRoutes.path mount ["backup".toList, join '/' name]
  | restoreKey (some name) => do
    let name ← validateKeyName name
    TransitRoutes.path mount ["restore".toList, join '/' name]
  | restoreKey none => TransitRoutes.path mount ["restore".toList]
  | trimKey name => keyPath mount name (some "trim".toList)
  | generateCsr name => keyPath mount name (some "csr".toList)
  | setCertificate name => keyPath mount name (some "set-certificate".toList)
  | encrypt name | batchEncrypt name => operationPath mount "encrypt".toList name none
  | decrypt name | batchDecrypt name => operationPath mount "decrypt".toList name none
  | rewrap name | batchRewrap name => operationPath mount "rewrap".toList name none
  | dataKey name dataKeyType =>
    TransitRoutes.path mount ["datakey".toList, dataKeyType.asPathSegment, name]
  | random bytes => TransitRoutes.path mount ("random".toList :: (bytes.map decimal).toList)
  | randomFromSource source bytes =>
    TransitRoutes.path mount
      ("random".toList :: source.asPathSegment :: (bytes.map decimal).toList)
  | hash algorithm => TransitRoutes.path mount ["hash".toList, algorithm.asPathSegment]
  | hmac name algorithm => operationPath mount "hmac".toList name algorithm
  | sign name algorithm | batchSign name algorithm =>
    operationPath mount "sign".toList name algorithm
  | signMldsa name | batchSignMldsa name => do
    validateName name
    operationPath mount "sign".toList name none
  | verify name algorithm | batchVerify name algorithm =>
    operationPath mount "verify".toList name algorithm
  | verifyMldsa name | batchVerifyMldsa name => do
    validateName name
    operationPath mount "verify".toList name none

end TransitCall

/-! ### Documented routes -/

/-- The entries of the generated registry below `/transit/`. -/
def transitRegistry : List (OpenBaoHttpMethod × Str) :=
  [(.delete, "/transit/keys/:name".toList),
    (.delete, "/transit/keys/:name/soft-delete".toList),
    (.get, "/transit/backup/:name".toList),
    (.get, "/transit/byok-export/:destination/:source(/:version)".toList),
    (.get, "/transit/cache-config".toList),
    (.get, "/transit/config/keys".toList),
    (.get, "/transit/export/:key_type/:name(/:version)".toList),
    (.get, "/transit/keys/:name".toList),
    (.get, "/transit/wrapping_key".toList),
    (.list, "/transit/keys".toList),
    (.post, "/transit/cache-config".toList),
    (.post, "/transit/config/keys".toList),
    (.post, "/transit/datakey/:type/:name".toList),
    (.post, "/transit/decrypt/:name".toList),
    (.post, "/transit/encrypt/:name".toList),
    (.post, "/transit/hash(/:algorithm)".toList),
    (.post, "/transit/hmac/:name(/:algorithm)".toList),
    (.post, "/transit/keys/:name".toList),
    (.post, "/transit/keys/:name/config".toList),
    (.post, "/transit/keys/:name/csr".toList),
    (.post, "/transit/keys/:name/import".toList),
    (.post, "/transit/keys/:name/import_version".toList),
    (.post, "/transit/keys/:name/rotate".toList),
    (.post, "/transit/keys/:name/set-certificate".toList),
    (.post, "/transit/keys/:name/soft-delete-restore".toList),
    (.post, "/transit/keys/:name/trim".toList),
    (.post, "/transit/random(/:source)(/:bytes)".toList),
    (.post, "/transit/restore(/:name)".toList),
    (.post, "/transit/rewrap/:name".toList),
    (.post, "/transit/sign/:name(/:hash_algorithm)".toList),
    (.post, "/transit/verify/:name(/:hash_algorithm)".toList)]

/-- The documented routes, one for each form that a call can take. -/
inductive TransitRoute where
  | createKey | readKey | deleteKey | updateKey | rotateKey | importKey | importKeyVersion
  | softDeleteKey | restoreSoftDeletedKey | byokExport | byokExportVersion | exportKey
  | exportKeyVersion | backupKey | restoreKey | restoreKeyAs | trimKey | generateCsr
  | setCertificate | encrypt | decrypt | rewrap | dataKey | random | randomBytes | randomSource
  | randomSourceBytes | hash | hmac | hmacWith | sign | signWith | verify | verifyWith
  deriving DecidableEq, Repr

def TransitRoute.routes : List TransitRoute :=
  [.createKey, .readKey, .deleteKey, .updateKey, .rotateKey, .importKey, .importKeyVersion,
    .softDeleteKey, .restoreSoftDeletedKey, .byokExport, .byokExportVersion, .exportKey,
    .exportKeyVersion, .backupKey, .restoreKey, .restoreKeyAs, .trimKey, .generateCsr,
    .setCertificate, .encrypt, .decrypt, .rewrap, .dataKey, .random, .randomBytes,
    .randomSource, .randomSourceBytes, .hash, .hmac, .hmacWith, .sign, .signWith, .verify,
    .verifyWith]

def TransitRoute.documentation : TransitRoute → DocumentedRoute
  | createKey => ⟨.post, "/transit/keys/:name".toList, [lit "keys", hole ":name"], []⟩
  | readKey => ⟨.get, "/transit/keys/:name".toList, [lit "keys", hole ":name"], []⟩
  | deleteKey => ⟨.delete, "/transit/keys/:name".toList, [lit "keys", hole ":name"], []⟩
  | updateKey =>
    ⟨.post, "/transit/keys/:name/config".toList, [lit "keys", hole ":name", lit "config"], []⟩
  | rotateKey =>
    ⟨.post, "/transit/keys/:name/rotate".toList, [lit "keys", hole ":name", lit "rotate"], []⟩
  | importKey =>
    ⟨.post, "/transit/keys/:name/import".toList, [lit "keys", hole ":name", lit "import"], []⟩
  | importKeyVersion =>
    ⟨.post, "/transit/keys/:name/import_version".toList,
      [lit "keys", hole ":name", lit "import_version"], []⟩
  | softDeleteKey =>
    ⟨.delete, "/transit/keys/:name/soft-delete".toList,
      [lit "keys", hole ":name", lit "soft-delete"], []⟩
  | restoreSoftDeletedKey =>
    ⟨.post, "/transit/keys/:name/soft-delete-restore".toList,
      [lit "keys", hole ":name", lit "soft-delete-restore"], []⟩
  | byokExport =>
    ⟨.get, "/transit/byok-export/:destination/:source(/:version)".toList,
      [lit "byok-export", hole ":destination", hole ":source"], []⟩
  | byokExportVersion =>
    ⟨.get, "/transit/byok-export/:destination/:source(/:version)".toList,
      [lit "byok-export", hole ":destination", hole ":source", hole ":version"], []⟩
  | exportKey =>
    ⟨.get, "/transit/export/:key_type/:name(/:version)".toList,
      [lit "export", hole ":key_type", hole ":name"], []⟩
  | exportKeyVersion =>
    ⟨.get, "/transit/export/:key_type/:name(/:version)".toList,
      [lit "export", hole ":key_type", hole ":name", hole ":version"], []⟩
  | backupKey => ⟨.get, "/transit/backup/:name".toList, [lit "backup", hole ":name"], []⟩
  | restoreKey => ⟨.post, "/transit/restore(/:name)".toList, [lit "restore"], []⟩
  | restoreKeyAs => ⟨.post, "/transit/restore(/:name)".toList, [lit "restore", hole ":name"], []⟩
  | trimKey =>
    ⟨.post, "/transit/keys/:name/trim".toList, [lit "keys", hole ":name", lit "trim"], []⟩
  | generateCsr =>
    ⟨.post, "/transit/keys/:name/csr".toList, [lit "keys", hole ":name", lit "csr"], []⟩
  | setCertificate =>
    ⟨.post, "/transit/keys/:name/set-certificate".toList,
      [lit "keys", hole ":name", lit "set-certificate"], []⟩
  | encrypt => ⟨.post, "/transit/encrypt/:name".toList, [lit "encrypt", hole ":name"], []⟩
  | decrypt => ⟨.post, "/transit/decrypt/:name".toList, [lit "decrypt", hole ":name"], []⟩
  | rewrap => ⟨.post, "/transit/rewrap/:name".toList, [lit "rewrap", hole ":name"], []⟩
  | dataKey =>
    ⟨.post, "/transit/datakey/:type/:name".toList, [lit "datakey", hole ":type", hole ":name"], []⟩
  | random => ⟨.post, "/transit/random(/:source)(/:bytes)".toList, [lit "random"], []⟩
  | randomBytes =>
    ⟨.post, "/transit/random(/:source)(/:bytes)".toList, [lit "random", hole ":bytes"], []⟩
  | randomSource =>
    ⟨.post, "/transit/random(/:source)(/:bytes)".toList, [lit "random", hole ":source"], []⟩
  | randomSourceBytes =>
    ⟨.post, "/transit/random(/:source)(/:bytes)".toList,
      [lit "random", hole ":source", hole ":bytes"], []⟩
  | hash => ⟨.post, "/transit/hash(/:algorithm)".toList, [lit "hash", hole ":algorithm"], []⟩
  | hmac => ⟨.post, "/transit/hmac/:name(/:algorithm)".toList, [lit "hmac", hole ":name"], []⟩
  | hmacWith =>
    ⟨.post, "/transit/hmac/:name(/:algorithm)".toList,
      [lit "hmac", hole ":name", hole ":algorithm"], []⟩
  | sign => ⟨.post, "/transit/sign/:name(/:hash_algorithm)".toList, [lit "sign", hole ":name"], []⟩
  | signWith =>
    ⟨.post, "/transit/sign/:name(/:hash_algorithm)".toList,
      [lit "sign", hole ":name", hole ":hash_algorithm"], []⟩
  | verify =>
    ⟨.post, "/transit/verify/:name(/:hash_algorithm)".toList, [lit "verify", hole ":name"], []⟩
  | verifyWith =>
    ⟨.post, "/transit/verify/:name(/:hash_algorithm)".toList,
      [lit "verify", hole ":name", hole ":hash_algorithm"], []⟩

/-- The documented route of a method, and what fills its placeholders. -/
def TransitCall.documented : TransitCall → TransitRoute × List Argument
  | createKey name | createMldsaKey name | createExternalKey name => (.createKey, [.text name])
  | readKey name | readKeyDetails name => (.readKey, [.text name])
  | deleteKey name => (.deleteKey, [.text name])
  | updateKey name => (.updateKey, [.text name])
  | rotateKey name | rotateExternalKey name => (.rotateKey, [.text name])
  | importKey name | importMldsaKey name => (.importKey, [.text name])
  | importKeyVersion name | importMldsaKeyVersion name => (.importKeyVersion, [.text name])
  | softDeleteKey name => (.softDeleteKey, [.text name])
  | restoreSoftDeletedKey name => (.restoreSoftDeletedKey, [.text name])
  | byokExport destination source none => (.byokExport, [.text destination, .text source])
  | byokExport destination source (some version) =>
    (.byokExportVersion, [.text destination, .text source, number version])
  | exportKey keyType name none | exportKeyWithFormat keyType name none =>
    (.exportKey, [keyType.argument, .text name])
  | exportKey keyType name (some version) | exportKeyWithFormat keyType name (some version) =>
    (.exportKeyVersion, [keyType.argument, .text name, number version])
  | backupKey name => (.backupKey, [.text name])
  | restoreKey none => (.restoreKey, [])
  | restoreKey (some name) => (.restoreKeyAs, [.text name])
  | trimKey name => (.trimKey, [.text name])
  | generateCsr name => (.generateCsr, [.text name])
  | setCertificate name => (.setCertificate, [.text name])
  | encrypt name | batchEncrypt name => (.encrypt, [.text name])
  | decrypt name | batchDecrypt name => (.decrypt, [.text name])
  | rewrap name | batchRewrap name => (.rewrap, [.text name])
  | dataKey name dataKeyType => (.dataKey, [dataKeyType.argument, .text name])
  | random none => (.random, [])
  | random (some bytes) => (.randomBytes, [number bytes])
  | randomFromSource source none => (.randomSource, [source.argument])
  | randomFromSource source (some bytes) =>
    (.randomSourceBytes, [source.argument, number bytes])
  | hash algorithm => (.hash, [algorithm.argument])
  | hmac name none => (.hmac, [.text name])
  | hmac name (some algorithm) => (.hmacWith, [.text name, algorithm.argument])
  | sign name none | batchSign name none | signMldsa name | batchSignMldsa name =>
    (.sign, [.text name])
  | sign name (some algorithm) | batchSign name (some algorithm) =>
    (.signWith, [.text name, algorithm.argument])
  | verify name none | batchVerify name none | verifyMldsa name | batchVerifyMldsa name =>
    (.verify, [.text name])
  | verify name (some algorithm) | batchVerify name (some algorithm) =>
    (.verifyWith, [.text name, algorithm.argument])

def transit : SecretEngine where
  Call := TransitCall
  Route := TransitRoute
  scopePrefix := "/transit/".toList
  documentedMount := "transit".toList
  httpMethod := TransitCall.httpMethod
  path := TransitCall.path
  registry := transitRegistry
  routes := TransitRoute.routes
  documentation := TransitRoute.documentation
  documented := TransitCall.documented

theorem TransitRoute.mem_routes (r : TransitRoute) : r ∈ TransitRoute.routes := by
  cases r <;> decide

theorem transit_documents : transit.Documents where
  mount := by decide +kernel
  complete := TransitRoute.mem_routes
  checked := by
    simp only [transit, TransitRoute.routes, List.map_cons, List.map_nil,
      TransitRoute.documentation, transitRegistry, lit, hole]
    simp (disch := exact rfl) only [toList_eq_of]
    decide +kernel

/-! ### The calls against their documentation -/

theorem transit_sends (c : TransitCall) :
    reqwestMethod (transit.route c).method = .ok c.httpMethod := by
  change reqwestMethod c.documented.1.documentation.method = _
  unfold TransitCall.documented
  split <;> rfl

theorem transit_arity (c : TransitCall) :
    (transit.arguments c).length = RouteForms.arity (transit.route c).form := by
  change c.documented.2.length = RouteForms.arity c.documented.1.documentation.form
  unfold TransitCall.documented
  split <;> rfl

/-- The two forms of `random` with one argument are the only ones that overlap. -/
def onlyRandom (r r' : TransitRoute) : Bool :=
  r == .randomBytes && r' == .randomSource || r == .randomSource && r' == .randomBytes

theorem transit_forms_disjoint :
    (TransitRoute.routes.all fun r => TransitRoute.routes.all fun r' =>
      r == r' || onlyRandom r r' || r.documentation.method != r'.documentation.method ||
        !overlap r.documentation.form r'.documentation.form) = true := by
  decide +kernel

variable {mount : List Str} {name p : Str}

theorem validateKeyName_path (mount before after : List Str) {names : List Str} (hname : OneSegment name)
    (h : validateKeyName name = .ok names) :
    enginePath mount (before ++ names ++ after) = enginePath mount (before ++ name :: after) := by
  obtain ⟨rfl, hsame⟩ := hname.validateMountPath h
  rw [List.append_assoc]
  refine enginePath_congr ?_
  induction before with
  | nil => exact .cons hsame (List.forall₂_same.mpr fun _ _ => rfl)
  | cons first before ih => exact .cons rfl ih

theorem keyPath_built {suffix : Option Str} (hname : OneSegment name)
    (h : keyPath mount name suffix = .ok p) :
    enginePath mount ("keys".toList :: name :: suffix.toList) = .ok p := by
  obtain ⟨names, hnames, h⟩ := bind_eq_ok_iff.mp h
  exact (validateKeyName_path mount ["keys".toList] _ hname hnames).symm.trans h

theorem operationPath_built {operation : Str} {algorithm : Option TransitHashAlgorithm}
    (hname : OneSegment name) (h : operationPath mount operation name algorithm = .ok p) :
    enginePath mount (operation :: name :: (algorithm.map (·.asPathSegment)).toList) = .ok p := by
  obtain ⟨names, hnames, h⟩ := bind_eq_ok_iff.mp h
  exact (validateKeyName_path mount [operation] _ hname hnames).symm.trans h

/-- A name joined again is the name. -/
theorem joined_built (before : List Str) {names : List Str} (hname : OneSegment name)
    (hnames : validateKeyName name = .ok names)
    (h : enginePath mount (before ++ [join '/' names]) = .ok p) :
    enginePath mount (before ++ [name]) = .ok p := by
  have hsame := validateKeyName_path mount before [] hname hnames
  obtain ⟨rfl, -⟩ := hname.validateMountPath hnames
  have hjoin : join '/' [trimSlashes name] = trimSlashes name := by simp [join]
  rw [hjoin] at h
  rw [List.append_nil] at hsame
  exact hsame.symm.trans h

/-- The version behind an exported path is one more segment. -/
theorem exportKeyWithFormat_builds {keyType : TransitExportKeyType} {version : ℕ}
    (hmount : PathSegments mount)
    (hargs : transit.OneSegmentArguments (.exportKeyWithFormat keyType name (some version)))
    (hpath : enginePath mount ["export".toList, keyType.asPathSegment, name] = .ok p) :
    let c := TransitCall.exportKeyWithFormat keyType name (some version)
    p ++ '/' :: decimal version = join '/' (mount ++ transit.filled c) ∧
      PathSegments (mount ++ transit.filled c) := by
  have hshort : transit.OneSegmentArguments (.exportKeyWithFormat keyType name none) :=
    fun text ht => hargs text (List.mem_append_left [number version] ht)
  obtain ⟨rfl, hsegments⟩ := transit_documents.filled_of_enginePath hmount hshort hpath
  have hfilled : mount ++ transit.filled (.exportKeyWithFormat keyType name (some version)) =
      mount ++ transit.filled (.exportKeyWithFormat keyType name none) ++ [decimal version] := by
    have htrim := (OneSegment.of_noSlash (decimal_plain version).1 (decimal_plain version).2).2
    rw [List.append_assoc, List.append_cancel_left_eq]
    change [_, _, _, trimSlashes (decimal version)] = _
    rw [htrim]
    rfl
  intro c
  rw [hfilled]
  refine ⟨(join_concat hsegments.nonempty).symm, pathSegments_append hsegments ?_⟩
  simpa using decimal_canonical version

theorem transit_builds (c : TransitCall) (hmount : PathSegments mount)
    (hargs : transit.OneSegmentArguments c) (hpath : c.path mount = .ok p) :
    p = join '/' (mount ++ transit.filled c) ∧ PathSegments (mount ++ transit.filled c) := by
  have hbuilt := fun h => transit_documents.filled_of_enginePath (c := c) (p := p) hmount hargs h
  cases c with
  | createKey name | readKey name | deleteKey name | updateKey name | rotateKey name
  | importKey name | importKeyVersion name | softDeleteKey name | restoreSoftDeletedKey name
  | trimKey name | generateCsr name | setCertificate name =>
    have hbase := keyPath_built (hargs name List.mem_cons_self) hpath
    exact hbuilt hbase
  | createMldsaKey name | createExternalKey name | readKeyDetails name | rotateExternalKey name
  | importMldsaKey name | importMldsaKeyVersion name =>
    obtain ⟨_, -, hpath⟩ := bind_eq_ok_iff.mp hpath
    have hbase := keyPath_built (hargs name List.mem_cons_self) hpath
    exact hbuilt hbase
  | encrypt name | batchEncrypt name | decrypt name | batchDecrypt name | rewrap name
  | batchRewrap name =>
    have hbase := operationPath_built (hargs name List.mem_cons_self) hpath
    exact hbuilt hbase
  | signMldsa name | batchSignMldsa name | verifyMldsa name | batchVerifyMldsa name =>
    obtain ⟨_, -, hpath⟩ := bind_eq_ok_iff.mp hpath
    have hbase := operationPath_built (hargs name List.mem_cons_self) hpath
    exact hbuilt hbase
  | hmac name algorithm | sign name algorithm | batchSign name algorithm | verify name algorithm
  | batchVerify name algorithm =>
    have hname : OneSegment name := hargs name (by cases algorithm <;> exact List.mem_cons_self)
    have hbase := operationPath_built hname hpath
    cases algorithm with
    | none => exact hbuilt hbase
    | some algorithm => exact hbuilt hbase
  | dataKey name dataKeyType => exact hbuilt hpath
  | hash algorithm => exact hbuilt hpath
  | random bytes =>
    cases bytes with
    | none => exact hbuilt hpath
    | some bytes => exact hbuilt hpath
  | randomFromSource source bytes =>
    cases bytes with
    | none => exact hbuilt hpath
    | some bytes => exact hbuilt hpath
  | backupKey name =>
    obtain ⟨names, hnames, hpath⟩ := bind_eq_ok_iff.mp hpath
    have hbase := joined_built [_] (hargs name List.mem_cons_self) hnames hpath
    exact hbuilt hbase
  | restoreKey name =>
    cases name with
    | none => exact hbuilt hpath
    | some name =>
      obtain ⟨names, hnames, hpath⟩ := bind_eq_ok_iff.mp hpath
      have hbase := joined_built [_] (hargs name List.mem_cons_self) hnames hpath
      exact hbuilt hbase
  | exportKey keyType name version =>
    obtain ⟨_, -, hpath⟩ := bind_eq_ok_iff.mp hpath
    obtain ⟨names, hnames, hpath⟩ := bind_eq_ok_iff.mp hpath
    have hname : OneSegment name :=
      hargs name (by cases version <;> exact List.mem_cons_of_mem _ List.mem_cons_self)
    have hbase := (validateKeyName_path mount ["export".toList, keyType.asPathSegment]
      (version.map decimal).toList hname hnames).symm.trans hpath
    cases version with
    | none => exact hbuilt hbase
    | some version => exact hbuilt hbase
  | exportKeyWithFormat keyType name version =>
    obtain ⟨_, -, hpath⟩ := bind_eq_ok_iff.mp hpath
    obtain ⟨_, -, hpath⟩ := bind_eq_ok_iff.mp hpath
    obtain ⟨names, hnames, hpath⟩ := bind_eq_ok_iff.mp hpath
    obtain ⟨short, hshort, hpath⟩ := bind_eq_ok_iff.mp hpath
    cases hpath
    have hname : OneSegment name :=
      hargs name (by cases version <;> exact List.mem_cons_of_mem _ List.mem_cons_self)
    have hbase := joined_built ["export".toList, keyType.asPathSegment] hname hnames
      hshort
    cases version with
    | none =>
      rw [List.append_nil] at hbuilt ⊢
      exact hbuilt hbase
    | some version => exact exportKeyWithFormat_builds hmount hargs hbase
  | byokExport destination source version =>
    obtain ⟨_, -, hpath⟩ := bind_eq_ok_iff.mp hpath
    obtain ⟨destinations, hdestinations, hpath⟩ := bind_eq_ok_iff.mp hpath
    obtain ⟨sources, hsources, hpath⟩ := bind_eq_ok_iff.mp hpath
    have hd : OneSegment destination := hargs _ (by cases version <;> exact List.mem_cons_self)
    have hs : OneSegment source :=
      hargs _ (by cases version <;> exact List.mem_cons_of_mem _ List.mem_cons_self)
    have hsource := validateKeyName_path mount ("byok-export".toList :: destinations)
      (version.map decimal).toList hs hsources
    have hdestination := validateKeyName_path mount ["byok-export".toList]
      (source :: (version.map decimal).toList) hd hdestinations
    have hbase := hdestination.symm.trans (hsource.symm.trans hpath)
    cases version with
    | none => exact hbuilt hbase
    | some version => exact hbuilt hbase

theorem documented_randomBytes {c : TransitCall} (h : c.documented.1 = .randomBytes) :
    ∃ bytes, c = .random (some bytes) := by
  unfold TransitCall.documented at h
  split at h <;> first | exact ⟨_, rfl⟩ | cases h

theorem documented_randomSource {c : TransitCall} (h : c.documented.1 = .randomSource) :
    ∃ source, c = .randomFromSource source none := by
  unfold TransitCall.documented at h
  split at h <;> first | exact ⟨_, rfl⟩ | cases h

/-- A number of bytes is no source. -/
theorem random_filled_ne {bytes : ℕ} {source : TransitRandomSource} :
    transit.filled (.random (some bytes)) ≠ transit.filled (.randomFromSource source none) := by
  intro h
  have hnumber := (OneSegment.of_noSlash (decimal_plain bytes).1 (decimal_plain bytes).2).2
  have hsource := (OneSegment.of_noSlash source.plain.1 source.plain.2).2
  have hvalue : trimSlashes (decimal bytes) = trimSlashes source.asPathSegment :=
    (List.cons.inj (List.cons.inj h).2).1
  rw [hnumber, hsource] at hvalue
  have hletter : (source.asPathSegment.any fun c => !c.isDigit) = true := by
    cases source <;> decide +kernel
  obtain ⟨c, hc, hdigit⟩ := List.any_eq_true.mp hletter
  rw [isDigit_of_mem_decimal (hvalue ▸ hc)] at hdigit
  cases hdigit

theorem transit_distinct (c c' : TransitCall)
    (hmethod : (transit.route c).method = (transit.route c').method)
    (hfilled : transit.filled c = transit.filled c') : c.documented.1 = c'.documented.1 := by
  have hcheck : (c.documented.1 == c'.documented.1 ||
      onlyRandom c.documented.1 c'.documented.1) = true :=
    transit_documents.check_of_filled_eq transit_forms_disjoint (transit_arity c)
      (transit_arity c') hmethod hfilled
  simp only [Bool.or_eq_true, beq_iff_eq, onlyRandom, Bool.and_eq_true] at hcheck
  rcases hcheck with heq | ⟨hbytes, hsource⟩ | ⟨hsource, hbytes⟩
  · exact heq
  · obtain ⟨bytes, rfl⟩ := documented_randomBytes hbytes
    obtain ⟨source, rfl⟩ := documented_randomSource hsource
    exact absurd hfilled random_filled_ne
  · obtain ⟨bytes, rfl⟩ := documented_randomBytes hbytes
    obtain ⟨source, rfl⟩ := documented_randomSource hsource
    exact absurd hfilled.symm random_filled_ne

theorem transit_sound : transit.Sound where
  toDocuments := transit_documents
  sends := transit_sends
  arity := transit_arity
  builds c _ _ hmount hargs hpath := transit_builds c hmount hargs hpath
  distinct := transit_distinct

end OpenBao.TransitRoutes
