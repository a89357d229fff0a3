import Mathlib.Data.Char
import Mathlib.Data.List.Lex
import OpenBao.KeyOrderedMaps
import OpenBao.Utf8Text

/-!
# The JSON of a database connection

Typed fields and the caller's extra fields go into one object. The serializer refuses an extra
field whose key is on a list kept by hand; the lists cover every key that a typed field can
write, so no key is written twice.
-/

namespace OpenBao.DatabaseConnectionJson
open KeyOrderedMaps Utf8Text

/-- The value of a member. -/
inductive FieldValue where
  | text (value : Str)
  | texts (values : List Str)
  | flag (value : Bool)
  | number (value : ℤ)
  deriving DecidableEq

inductive MySqlPlugin where
  | mySql | aurora | rds | legacy
  deriving DecidableEq

def MySqlPlugin.pluginName : MySqlPlugin → String
  | mySql => "mysql-database-plugin"
  | aurora => "mysql-aurora-database-plugin"
  | rds => "mysql-rds-database-plugin"
  | legacy => "mysql-legacy-database-plugin"

structure PostgreSqlConnectionOptions where
  connectionUrl : Str
  username : Option Str := none
  password : Option Str := none
  maxOpenConnections : Option UInt32 := none
  maxIdleConnections : Option Int32 := none
  maxConnectionLifetime : Option Str := none
  usernameTemplate : Option Str := none
  disableEscaping : Option Bool := none
  passwordAuthentication : Option Str := none

structure MySqlConnectionOptions where
  plugin : MySqlPlugin
  connectionUrl : Str
  username : Option Str := none
  password : Option Str := none
  maxOpenConnections : Option UInt32 := none
  maxIdleConnections : Option Int32 := none
  maxConnectionLifetime : Option Str := none
  tlsCertificateKey : Option Str := none
  tlsCa : Option Str := none
  tlsServerName : Option Str := none
  tlsSkipVerify : Option Bool := none
  usernameTemplate : Option Str := none
  disableEscaping : Option Bool := none

structure CassandraConnectionOptions where
  hosts : Str
  username : Str
  password : Str
  port : Option UInt16 := none
  tls : Option Bool := none
  insecureTls : Option Bool := none
  tlsServerName : Option Str := none
  pemBundle : Option Str := none
  pemJson : Option Str := none
  skipVerification : Option Bool := none
  protocolVersion : Option UInt8 := none
  connectTimeout : Option Str := none
  localDatacenter : Option Str := none
  socketKeepAlive : Option Str := none
  consistency : Option Str := none
  usernameTemplate : Option Str := none

structure InfluxDbConnectionOptions where
  host : Str
  username : Str
  password : Str
  port : Option UInt16 := none
  tls : Option Bool := none
  insecureTls : Option Bool := none
  pemBundle : Option Str := none
  pemJson : Option Str := none
  connectTimeout : Option Str := none
  usernameTemplate : Option Str := none

structure ValkeyConnectionOptions where
  host : Str
  port : UInt16
  username : Str
  password : Str
  tls : Option Bool := some true
  insecureTls : Option Bool := none

inductive DatabaseBuiltinConnectionConfig where
  | postgreSql (options : PostgreSqlConnectionOptions)
  | mySql (options : MySqlConnectionOptions)
  | cassandra (options : CassandraConnectionOptions)
  | influxDb (options : InfluxDbConnectionOptions)
  | valkey (options : ValkeyConnectionOptions)

def DatabaseBuiltinConnectionConfig.pluginName : DatabaseBuiltinConnectionConfig → String
  | postgreSql _ => "postgresql-database-plugin"
  | mySql options => options.plugin.pluginName
  | cassandra _ => "cassandra-database-plugin"
  | influxDb _ => "influxdb-database-plugin"
  | valkey _ => "valkey-database-plugin"

/-- The extra fields stand in key order, as their map is walked. -/
structure DatabaseConnectionConfig where
  pluginName : Str
  pluginVersion : Option Str := none
  verifyConnection : Option Bool := none
  allowedRoles : List Str := []
  rootRotationStatements : List Str := []
  passwordPolicy : Option Str := none
  connectionUrl : Option Str := none
  username : Option Str := none
  password : Option Str := none
  disableEscaping : Option Bool := none
  extra : List (Str × Str) := []
  builtinOptions : Option DatabaseBuiltinConnectionConfig := none
  extra_ordered : Ordered extra := by exact ordered_nil

def databaseConnectionConfigFields : List String :=
  ["plugin_name", "plugin_version", "verify_connection", "allowed_roles",
    "root_rotation_statements", "password_policy", "connection_url", "username", "password",
    "disable_escaping"]

def databaseBuiltinConnectionFields : List String :=
  ["host", "hosts", "port", "tls", "insecure_tls", "tls_server_name", "tls_skip_verify", "tls_ca",
    "tls_certificate_key", "pem_bundle", "pem_json", "skip_verification", "protocol_version",
    "connect_timeout", "local_datacenter", "socket_keep_alive", "consistency",
    "username_template", "max_open_connections", "max_idle_connections",
    "max_connection_lifetime", "password_authentication", "connection_url", "username", "password",
    "disable_escaping"]

def extraCollisionError : String := "database connection extra field collides with a typed field"

/-! ## The serializer -/

/-- The members written so far. -/
abbrev Members := List (Str × FieldValue)

def serializeEntry (map : Members) (name : String) (value : FieldValue) : Members :=
  map ++ [(name.toList, value)]

/-- `optional_entry!` and `optional_secret_entry!`. -/
def optionalEntry (map : Members) (name : String) : Option FieldValue → Members
  | some value => serializeEntry map name value
  | none => map

def listEntry (map : Members) (name : String) (values : List Str) : Members :=
  if values.isEmpty then map else serializeEntry map name (.texts values)

def ofU32 (n : UInt32) : FieldValue := .number n.toNat
def ofI32 (n : Int32) : FieldValue := .number n.toInt
def ofU16 (n : UInt16) : FieldValue := .number n.toNat
def ofU8 (n : UInt8) : FieldValue := .number n.toNat

namespace DatabaseConnectionConfig

def serializeCommon (this : DatabaseConnectionConfig) : Members :=
  let map := serializeEntry [] "plugin_name" (.text this.pluginName)
  let map := optionalEntry map "plugin_version" (this.pluginVersion.map .text)
  let map := optionalEntry map "verify_connection" (this.verifyConnection.map .flag)
  let map := listEntry map "allowed_roles" this.allowedRoles
  let map := listEntry map "root_rotation_statements" this.rootRotationStatements
  let map := optionalEntry map "password_policy" (this.passwordPolicy.map .text)
  let map := optionalEntry map "connection_url" (this.connectionUrl.map .text)
  let map := optionalEntry map "username" (this.username.map .text)
  let map := optionalEntry map "password" (this.password.map .text)
  optionalEntry map "disable_escaping" (this.disableEscaping.map .flag)

def serializeBuiltin (map : Members) : DatabaseBuiltinConnectionConfig → Members
  | .postgreSql options =>
    let map := serializeEntry map "connection_url" (.text options.connectionUrl)
    let map := optionalEntry map "username" (options.username.map .text)
    let map := optionalEntry map "password" (options.password.map .text)
    let map := optionalEntry map "max_open_connections" (options.maxOpenConnections.map ofU32)
    let map := optionalEntry map "max_idle_connections" (options.maxIdleConnections.map ofI32)
    let map := optionalEntry map "max_connection_lifetime" (options.maxConnectionLifetime.map .text)
    let map := optionalEntry map "username_template" (options.usernameTemplate.map .text)
    let map := optionalEntry map "disable_escaping" (options.disableEscaping.map .flag)
    optionalEntry map "password_authentication" (options.passwordAuthentication.map .text)
  | .mySql options =>
    let map := serializeEntry map "connection_url" (.text options.connectionUrl)
    let map := optionalEntry map "username" (options.username.map .text)
    let map := optionalEntry map "password" (options.password.map .text)
    let map := optionalEntry map "max_open_connections" (options.maxOpenConnections.map ofU32)
    let map := optionalEntry map "max_idle_connections" (options.maxIdleConnections.map ofI32)
    let map := optionalEntry map "max_connection_lifetime" (options.maxConnectionLifetime.map .text)
    let map := optionalEntry map "tls_certificate_key" (options.tlsCertificateKey.map .text)
    let map := optionalEntry map "tls_ca" (options.tlsCa.map .text)
    let map := optionalEntry map "tls_server_name" (options.tlsServerName.map .text)
    let map := optionalEntry map "tls_skip_verify" (options.tlsSkipVerify.map .flag)
    let map := optionalEntry map "username_template" (options.usernameTemplate.map .text)
    optionalEntry map "disable_escaping" (options.disableEscaping.map .flag)
  | .cassandra options =>
    let map := serializeEntry map "hosts" (.text options.hosts)
    let map := serializeEntry map "username" (.text options.username)
    let map := serializeEntry map "password" (.text options.password)
    let map := optionalEntry map "port" (options.port.map ofU16)
    let map := optionalEntry map "tls" (options.tls.map .flag)
    let map := optionalEntry map "insecure_tls" (options.insecureTls.map .flag)
    let map := optionalEntry map "tls_server_name" (options.tlsServerName.map .text)
    let map := optionalEntry map "pem_bundle" (options.pemBundle.map .text)
    let map := optionalEntry map "pem_json" (options.pemJson.map .text)
    let map := optionalEntry map "skip_verification" (options.skipVerification.map .flag)
    let map := optionalEntry map "protocol_version" (options.protocolVersion.map ofU8)
    let map := optionalEntry map "connect_timeout" (options.connectTimeout.map .text)
    let map := optionalEntry map "local_datacenter" (options.localDatacenter.map .text)
    let map := optionalEntry map "socket_keep_alive" (options.socketKeepAlive.map .text)
    let map := optionalEntry map "consistency" (options.consistency.map .text)
    optionalEntry map "username_template" (options.usernameTemplate.map .text)
  | .influxDb options =>
    let map := serializeEntry map "host" (.text options.host)
    let map := serializeEntry map "username" (.text options.username)
    let map := serializeEntry map "password" (.text options.password)
    let map := optionalEntry map "port" (options.port.map ofU16)
    let map := optionalEntry map "tls" (options.tls.map .flag)
    let map := optionalEntry map "insecure_tls" (options.insecureTls.map .flag)
    let map := optionalEntry map "pem_bundle" (options.pemBundle.map .text)
    let map := optionalEntry map "pem_json" (options.pemJson.map .text)
    let map := optionalEntry map "connect_timeout" (options.connectTimeout.map .text)
    optionalEntry map "username_template" (options.usernameTemplate.map .text)
  | .valkey options =>
    let map := serializeEntry map "host" (.text options.host)
    let map := serializeEntry map "port" (ofU16 options.port)
    let map := serializeEntry map "username" (.text options.username)
    let map := serializeEntry map "password" (.text options.password)
    let map := optionalEntry map "tls" (options.tls.map .flag)
    optionalEntry map "insecure_tls" (options.insecureTls.map .flag)

/-- Some extra field has a key of the lists. -/
def extraCollides (this : DatabaseConnectionConfig) : Bool :=
  this.extra.any fun entry =>
    databaseConnectionConfigFields.any (fun field => entry.1 == field.toList) ||
      (this.builtinOptions.isSome &&
        databaseBuiltinConnectionFields.any fun field => entry.1 == field.toList)

/-- The checks of built-in options against the other fields. -/
def checkBuiltin (this : DatabaseConnectionConfig) : Except String Unit :=
  match this.builtinOptions with
  | none => .ok ()
  | some options =>
    if this.pluginName ≠ options.pluginName.toList then
      .error "database built-in options do not match plugin_name"
    else if this.connectionUrl.isSome || this.username.isSome || this.password.isSome ||
        this.disableEscaping.isSome then
      .error "database built-in options conflict with legacy typed fields"
    else .ok ()

def serialize (this : DatabaseConnectionConfig) : Except String Members :=
  if this.extraCollides then .error extraCollisionError
  else
    match this.checkBuiltin with
    | .error e => .error e
    | .ok () =>
      let map := this.serializeCommon
      let map :=
        match this.builtinOptions with
        | none => map
        | some options => serializeBuiltin map options
      .ok (this.extra.foldl (fun map entry => map ++ [(entry.1, .text entry.2)]) map)

end DatabaseConnectionConfig

/-! ## The typed fields of a configuration -/

/-- A field that a configuration of its shape could write, and its value when it is set. -/
abbrev TypedField := String × Option FieldValue

def listValue (values : List Str) : Option FieldValue :=
  if values.isEmpty then none else some (.texts values)

def DatabaseConnectionConfig.commonFields (this : DatabaseConnectionConfig) : List TypedField :=
  [("plugin_name", some (.text this.pluginName)),
    ("plugin_version", this.pluginVersion.map .text),
    ("verify_connection", this.verifyConnection.map .flag),
    ("allowed_roles", listValue this.allowedRoles),
    ("root_rotation_statements", listValue this.rootRotationStatements),
    ("password_policy", this.passwordPolicy.map .text)]

/-- The typed fields that a custom plugin has beside its extra ones. -/
def DatabaseConnectionConfig.legacyFields (this : DatabaseConnectionConfig) : List TypedField :=
  [("connection_url", this.connectionUrl.map .text), ("username", this.username.map .text),
    ("password", this.password.map .text), ("disable_escaping", this.disableEscaping.map .flag)]

def DatabaseBuiltinConnectionConfig.fields : DatabaseBuiltinConnectionConfig → List TypedField
  | postgreSql options =>
    [("connection_url", some (.text options.connectionUrl)),
      ("username", options.username.map .text),
      ("password", options.password.map .text),
      ("max_open_connections", options.maxOpenConnections.map ofU32),
      ("max_idle_connections", options.maxIdleConnections.map ofI32),
      ("max_connection_lifetime", options.maxConnectionLifetime.map .text),
      ("username_template", options.usernameTemplate.map .text),
      ("disable_escaping", options.disableEscaping.map .flag),
      ("password_authentication", options.passwordAuthentication.map .text)]
  | mySql options =>
    [("connection_url", some (.text options.connectionUrl)),
      ("username", options.username.map .text),
      ("password", options.password.map .text),
      ("max_open_connections", options.maxOpenConnections.map ofU32),
      ("max_idle_connections", options.maxIdleConnections.map ofI32),
      ("max_connection_lifetime", options.maxConnectionLifetime.map .text),
      ("tls_certificate_key", options.tlsCertificateKey.map .text),
      ("tls_ca", options.tlsCa.map .text),
      ("tls_server_name", options.tlsServerName.map .text),
      ("tls_skip_verify", options.tlsSkipVerify.map .flag),
      ("username_template", options.usernameTemplate.map .text),
      ("disable_escaping", options.disableEscaping.map .flag)]
  | cassandra options =>
    [("hosts", some (.text options.hosts)),
      ("username", some (.text options.username)),
      ("password", some (.text options.password)),
      ("port", options.port.map ofU16),
      ("tls", options.tls.map .flag),
      ("insecure_tls", options.insecureTls.map .flag),
      ("tls_server_name", options.tlsServerName.map .text),
      ("pem_bundle", options.pemBundle.map .text),
      ("pem_json", options.pemJson.map .text),
      ("skip_verification", options.skipVerification.map .flag),
      ("protocol_version", options.protocolVersion.map ofU8),
      ("connect_timeout", options.connectTimeout.map .text),
      ("local_datacenter", options.localDatacenter.map .text),
      ("socket_keep_alive", options.socketKeepAlive.map .text),
      ("consistency", options.consistency.map .text),
      ("username_template", options.usernameTemplate.map .text)]
  | influxDb options =>
    [("host", some (.text options.host)),
      ("username", some (.text options.username)),
      ("password", some (.text options.password)),
      ("port", options.port.map ofU16),
      ("tls", options.tls.map .flag),
      ("insecure_tls", options.insecureTls.map .flag),
      ("pem_bundle", options.pemBundle.map .text),
      ("pem_json", options.pemJson.map .text),
      ("connect_timeout", options.connectTimeout.map .text),
      ("username_template", options.usernameTemplate.map .text)]
  | valkey options =>
    [("host", some (.text options.host)),
      ("port", some (ofU16 options.port)),
      ("username", some (.text options.username)),
      ("password", some (.text options.password)),
      ("tls", options.tls.map .flag),
      ("insecure_tls", options.insecureTls.map .flag)]

def DatabaseConnectionConfig.builtinFields (this : DatabaseConnectionConfig) : List TypedField :=
  match this.builtinOptions with
  | none => []
  | some options => options.fields

def DatabaseConnectionConfig.typedFields (this : DatabaseConnectionConfig) : List TypedField :=
  this.commonFields ++ this.legacyFields ++ this.builtinFields

/-- The members of the fields that are set. -/
def present (fields : List TypedField) : Members :=
  fields.filterMap fun field => field.2.map fun value => (field.1.toList, value)

/-! ## What is written -/

variable {this : DatabaseConnectionConfig} {fields more : List TypedField} {map : Members}

theorem optionalEntry_eq (map : Members) (name : String) (value : Option FieldValue) :
    optionalEntry map name value = map ++ present [(name, value)] := by
  cases value with
  | none => exact (List.append_nil map).symm
  | some value => rfl

theorem serializeEntry_eq (map : Members) (name : String) (value : FieldValue) :
    serializeEntry map name value = map ++ present [(name, some value)] := rfl

theorem listEntry_eq (map : Members) (name : String) (values : List Str) :
    listEntry map name values = map ++ present [(name, listValue values)] := by
  unfold listEntry listValue
  split_ifs
  · exact (List.append_nil map).symm
  · rfl

theorem present_append (fields more : List TypedField) :
    present (fields ++ more) = present fields ++ present more := List.filterMap_append

theorem serializeCommon_eq (this : DatabaseConnectionConfig) :
    this.serializeCommon = present (this.commonFields ++ this.legacyFields) := by
  simp only [DatabaseConnectionConfig.serializeCommon, DatabaseConnectionConfig.commonFields,
    DatabaseConnectionConfig.legacyFields, serializeEntry_eq, optionalEntry_eq, listEntry_eq,
    List.nil_append, ← present_append, List.cons_append]

theorem serializeBuiltin_eq (map : Members) (options : DatabaseBuiltinConnectionConfig) :
    DatabaseConnectionConfig.serializeBuiltin map options = map ++ present options.fields := by
  cases options <;>
    simp only [DatabaseConnectionConfig.serializeBuiltin, DatabaseBuiltinConnectionConfig.fields,
      serializeEntry_eq, optionalEntry_eq, List.append_assoc, ← present_append, List.cons_append,
      List.nil_append]

theorem serializeExtra_eq (map : Members) (extra : List (Str × Str)) :
    extra.foldl (fun map entry => map ++ [(entry.1, FieldValue.text entry.2)]) map =
      map ++ extra.map fun entry => (entry.1, .text entry.2) := by
  induction extra generalizing map with
  | nil => exact (List.append_nil map).symm
  | cons entry extra ih =>
    rw [List.foldl_cons, ih, List.append_assoc]
    rfl

/-- An object is the fields that are set and the extra ones. -/
theorem serialize_eq_ok_iff {entries : Members} :
    this.serialize = .ok entries ↔
      this.extraCollides = false ∧ this.checkBuiltin = .ok () ∧
        entries = present this.typedFields ++ this.extra.map fun entry => (entry.1, .text entry.2) := by
  unfold DatabaseConnectionConfig.serialize
  split_ifs with hcollides
  · exact iff_of_false (fun h => nomatch h) fun h => by rw [h.1] at hcollides; cases hcollides
  rw [Bool.not_eq_true] at hcollides
  rw [and_iff_right hcollides]
  cases hcheck : this.checkBuiltin with
  | error e => exact iff_of_false (fun h => nomatch h) fun h => nomatch h.1
  | ok _ =>
    have htyped : (match this.builtinOptions with
        | none => this.serializeCommon
        | some options => DatabaseConnectionConfig.serializeBuiltin this.serializeCommon options) =
          present this.typedFields := by
      rw [DatabaseConnectionConfig.typedFields, present_append, serializeCommon_eq,
        DatabaseConnectionConfig.builtinFields]
      cases this.builtinOptions with
      | none => exact (List.append_nil _).symm
      | some options => exact serializeBuiltin_eq _ options
    dsimp only
    rw [htyped, serializeExtra_eq, Except.ok.injEq, and_iff_right rfl, eq_comm]

/-! ## Keys -/

theorem mem_present_iff {entry : Str × FieldValue} :
    entry ∈ present fields ↔
      ∃ name, (name, some entry.2) ∈ fields ∧ name.toList = entry.1 := by
  unfold present
  rw [List.mem_filterMap]
  constructor
  · rintro ⟨⟨name, value⟩, hfield, hentry⟩
    obtain ⟨value, rfl, rfl⟩ := Option.map_eq_some_iff.mp hentry
    exact ⟨name, hfield, rfl⟩
  · rintro ⟨name, hfield, hname⟩
    refine ⟨(name, some entry.2), hfield, ?_⟩
    rw [Option.map_some, hname]

/-- Fields of distinct names are written under distinct keys. -/
theorem present_keys_nodup (h : (fields.map Prod.fst).Nodup) :
    ((present fields).map Prod.fst).Nodup := by
  have hkeys : ((present fields).map Prod.fst).Sublist (fields.map fun field => field.1.toList) := by
    induction fields with
    | nil => exact .slnil
    | cons field fields ih =>
      obtain ⟨name, value⟩ := field
      rw [List.map_cons, List.nodup_cons] at h
      cases value with
      | none => exact (ih h.2).cons _
      | some value => exact (ih h.2).cons_cons _
  have hnames : (fields.map fun field => field.1.toList).Nodup := by
    have hmap := h.map fun _ _ heq => String.toList_injective heq
    rwa [List.map_map] at hmap
  exact hnames.sublist hkeys

/-- The lists cover what a configuration of the same shape can write. -/
theorem builtin_name_listed (options : DatabaseBuiltinConnectionConfig) :
    ∀ name ∈ options.fields.map Prod.fst, name ∈ databaseBuiltinConnectionFields := by
  cases options <;>
    simp only [DatabaseBuiltinConnectionConfig.fields, List.map_cons, List.map_nil,
      databaseBuiltinConnectionFields] <;>
    decide

theorem common_name_listed (this : DatabaseConnectionConfig) :
    (this.commonFields ++ this.legacyFields).map Prod.fst = databaseConnectionConfigFields := rfl

/-- The names of built-in options, and of the fields common to all configurations. -/
theorem builtin_names_nodup (this : DatabaseConnectionConfig)
    (options : DatabaseBuiltinConnectionConfig) :
    ((this.commonFields ++ options.fields).map Prod.fst).Nodup := by
  cases options <;>
    simp only [DatabaseConnectionConfig.commonFields, DatabaseBuiltinConnectionConfig.fields,
      List.cons_append, List.nil_append, List.map_cons, List.map_nil] <;>
    decide

/-- A name on the lists that apply to the configuration. -/
def Listed (this : DatabaseConnectionConfig) (name : String) : Prop :=
  name ∈ databaseConnectionConfigFields ∨
    this.builtinOptions.isSome = true ∧ name ∈ databaseBuiltinConnectionFields

theorem extraCollides_iff :
    this.extraCollides = true ↔ ∃ entry ∈ this.extra, ∃ name, Listed this name ∧
      entry.1 = name.toList := by
  simp only [DatabaseConnectionConfig.extraCollides, List.any_eq_true, Bool.or_eq_true,
    Bool.and_eq_true, beq_iff_eq, Listed]
  refine exists_congr fun entry => and_congr_right fun _ => ?_
  constructor
  · rintro (⟨name, hname, hkey⟩ | ⟨hbuiltin, name, hname, hkey⟩)
    · exact ⟨name, .inl hname, hkey⟩
    · exact ⟨name, .inr ⟨hbuiltin, hname⟩, hkey⟩
  · rintro ⟨name, hname | ⟨hbuiltin, hname⟩, hkey⟩
    · exact .inl ⟨name, hname, hkey⟩
    · exact .inr ⟨hbuiltin, name, hname, hkey⟩

theorem listed_of_mem_typedFields {name : String} {value : Option FieldValue}
    (h : (name, value) ∈ this.typedFields) : Listed this name := by
  rcases List.mem_append.mp h with hcommon | hbuiltin
  · have hname := List.mem_map_of_mem (f := Prod.fst) hcommon
    rw [common_name_listed] at hname
    exact .inl hname
  · unfold DatabaseConnectionConfig.builtinFields at hbuiltin
    cases hoptions : this.builtinOptions with
    | none =>
      rw [hoptions] at hbuiltin
      cases hbuiltin
    | some options =>
      rw [hoptions] at hbuiltin
      refine .inr ⟨by rw [hoptions]; rfl, builtin_name_listed options name ?_⟩
      exact List.mem_map.mpr ⟨_, hbuiltin, rfl⟩

/-- Beside built-in options the legacy fields are not set. -/
theorem present_legacyFields {options : DatabaseBuiltinConnectionConfig}
    (hoptions : this.builtinOptions = some options) (hcheck : this.checkBuiltin = .ok ()) :
    present this.legacyFields = [] := by
  unfold DatabaseConnectionConfig.checkBuiltin at hcheck
  rw [hoptions] at hcheck
  dsimp only at hcheck
  split_ifs at hcheck with hname hlegacy
  simp only [Bool.or_eq_true, not_or, Bool.not_eq_true, Option.isSome_eq_false_iff,
    Option.isNone_iff_eq_none] at hlegacy
  obtain ⟨⟨⟨hurl, husername⟩, hpassword⟩, hescaping⟩ := hlegacy
  unfold DatabaseConnectionConfig.legacyFields
  rw [hurl, husername, hpassword, hescaping]
  rfl

theorem present_typedFields_nodup (hcheck : this.checkBuiltin = .ok ()) :
    ((present this.typedFields).map Prod.fst).Nodup := by
  cases hoptions : this.builtinOptions with
  | none =>
    have htyped : this.typedFields = this.commonFields ++ this.legacyFields := by
      rw [DatabaseConnectionConfig.typedFields, DatabaseConnectionConfig.builtinFields, hoptions]
      exact List.append_nil _
    rw [htyped]
    apply present_keys_nodup
    rw [common_name_listed]
    decide
  | some options =>
    have htyped : present this.typedFields = present (this.commonFields ++ options.fields) := by
      rw [DatabaseConnectionConfig.typedFields, DatabaseConnectionConfig.builtinFields, hoptions,
        present_append, present_append, present_append, present_legacyFields hoptions hcheck,
        List.append_nil]
    rw [htyped]
    exact present_keys_nodup (builtin_names_nodup this options)

theorem extra_keys_nodup (this : DatabaseConnectionConfig) :
    (this.extra.map Prod.fst).Nodup := by
  apply List.Pairwise.map _ _ this.extra_ordered
  intro a b hlt
  exact ne_of_lt hlt

/-- An object that is written has each key once: every typed field that is set is there with
its value, and all else comes from the extra fields. An extra field with the key of a typed
field of the configuration's shape is refused, whether that is set or not. -/
theorem serialize_unshadowed (this : DatabaseConnectionConfig) :
    (∀ entries, this.serialize = .ok entries →
      (entries.map Prod.fst).Nodup ∧
      (∀ name value, (name, some value) ∈ this.typedFields → (name.toList, value) ∈ entries) ∧
      ∀ entry ∈ entries, (∃ name, (name, some entry.2) ∈ this.typedFields ∧
          name.toList = entry.1) ∨
        ∃ text, (entry.1, text) ∈ this.extra ∧ entry.2 = .text text) ∧
    ((∃ key ∈ this.extra.map Prod.fst, ∃ field ∈ this.typedFields, key = field.1.toList) →
      this.serialize = .error extraCollisionError) := by
  constructor
  · intro entries h
    obtain ⟨hcollides, hcheck, rfl⟩ := serialize_eq_ok_iff.mp h
    have hkeys : (this.extra.map fun entry => (entry.1, FieldValue.text entry.2)).map Prod.fst =
        this.extra.map Prod.fst := by
      rw [List.map_map]
      rfl
    refine ⟨?_, fun name value hfield => ?_, fun entry hentry => ?_⟩
    · rw [List.map_append, hkeys]
      refine List.nodup_append.mpr ⟨present_typedFields_nodup hcheck, extra_keys_nodup this, ?_⟩
      rintro _ htyped key hextra rfl
      obtain ⟨entry, hentry, rfl⟩ := List.mem_map.mp htyped
      obtain ⟨name, hfield, hname⟩ := mem_present_iff.mp hentry
      obtain ⟨extra, hextra, hkey⟩ := List.mem_map.mp hextra
      have hcollision := extraCollides_iff.mpr
        ⟨extra, hextra, name, listed_of_mem_typedFields hfield, hkey.trans hname.symm⟩
      rw [hcollides] at hcollision
      cases hcollision
    · exact List.mem_append_left _ (mem_present_iff.mpr ⟨name, hfield, rfl⟩)
    · rcases List.mem_append.mp hentry with htyped | hextra
      · exact .inl (mem_present_iff.mp htyped)
      · obtain ⟨⟨key, text⟩, hmem, rfl⟩ := List.mem_map.mp hextra
        exact .inr ⟨text, hmem, rfl⟩
  · rintro ⟨key, hkey, ⟨name, value⟩, hfield, rfl⟩
    obtain ⟨entry, hentry, hkey⟩ := List.mem_map.mp hkey
    have hcollides := extraCollides_iff.mpr
      ⟨entry, hentry, name, listed_of_mem_typedFields hfield, hkey⟩
    rw [DatabaseConnectionConfig.serialize, if_pos hcollides]

/-- A Valkey connection with one extra field. -/
def valkeyConnection (key : Str) : DatabaseConnectionConfig where
  pluginName := "valkey-database-plugin".toList
  allowedRoles := ["app".toList]
  builtinOptions := some (.valkey ⟨"cache".toList, 6379, "root".toList, "pw".toList, some true, none⟩)
  extra := [(key, "a".toList)]
  extra_ordered := List.pairwise_singleton _ _

theorem valkeyConnection_unshadowed :
    (∃ entries, (valkeyConnection "zone".toList).serialize = .ok entries ∧
      (entries.map Prod.fst).Nodup ∧ ("host".toList, .text "cache".toList) ∈ entries) ∧
    (valkeyConnection "insecure_tls".toList).serialize = .error extraCollisionError := by
  constructor
  · have hwritten := (@serialize_eq_ok_iff (valkeyConnection "zone".toList) _).mpr
      ⟨by decide +kernel, by decide +kernel, rfl⟩
    obtain ⟨hnodup, hfields, -⟩ := (serialize_unshadowed _).1 _ hwritten
    refine ⟨_, hwritten, hnodup, hfields "host" _ ?_⟩
    exact List.mem_append_right _ List.mem_cons_self
  · refine (serialize_unshadowed _).2 ⟨_, List.mem_singleton_self _, ("insecure_tls", none), ?_, rfl⟩
    exact List.mem_append_right _ (by decide +kernel)

end OpenBao.DatabaseConnectionJson
