import Mathlib.Logic.Function.Basic
import OpenBao.BootstrapRun
import OpenBao.VersionedCells

/-!
# The server of a bootstrap run

The part of a server's state that a run reads and writes, and how one request is
served from it. A read that succeeds reports the state, and reports absence only of
what is absent. A write is applied or not; the answer to an applied write may be lost.
Other clients are left to the statements about runs.
-/

namespace OpenBao.BootstrapServer
open BootstrapComparisons BootstrapRecords BootstrapRun RequestPrograms Utf8Text VersionedCells

/-- A secret's value: a string, or other JSON as its text. -/
inductive KvValue where
  | text (value : Str)
  | other (json : Str)
  deriving DecidableEq, Repr

abbrev KvData : Type := Str → Option KvValue

structure Server where
  authMethods : TextMap MountInfo
  mounts : Str → Option MountInfo
  transitKeys : Str → Str → Option TransitKeyInfo
  objects : (kind : ObjectKind) → ObjectAddress → Option kind.Existing
  secrets : Str → Str → Cell KvData

/-- What the server stores for what is written. -/
structure Backend where
  authMethod : AuthEnableRequest → MountInfo
  mount : MountEnableRequest → MountInfo
  key : Str → TransitCreateKeyRequest → TransitKeyInfo
  object : (kind : ObjectKind) → Option kind.Existing → kind.Desired → kind.Existing

namespace Server

/-- A server that holds nothing. -/
def empty : Server :=
  ⟨∅, fun _ => none, fun _ _ => none, fun _ _ => none, fun _ _ => .empty⟩

def setAuthMethod (s : Server) (path : Str) (info : MountInfo) : Server :=
  { s with authMethods := s.authMethods.insert (path ++ ['/']) info }

def setMount (s : Server) (path : Str) (info : MountInfo) : Server :=
  { s with mounts := Function.update s.mounts path (some info) }

def setKey (s : Server) (mount name : Str) (info : TransitKeyInfo) : Server :=
  { s with transitKeys :=
      Function.update s.transitKeys mount (Function.update (s.transitKeys mount) name info) }

def setObject (s : Server) (kind : ObjectKind) (address : ObjectAddress)
    (existing : kind.Existing) : Server :=
  { s with objects :=
      Function.update s.objects kind (Function.update (s.objects kind) address (some existing)) }

def setSecret (s : Server) (mount path : Str) (cell : Cell KvData) : Server :=
  { s with secrets :=
      Function.update s.secrets mount (Function.update (s.secrets mount) path cell) }

@[simp] theorem setMount_mounts (s : Server) (path : Str) (info : MountInfo) :
    (s.setMount path info).mounts path = some info := by simp [setMount]

@[simp] theorem setObject_objects (s : Server) (kind : ObjectKind) (address : ObjectAddress)
    (existing : kind.Existing) :
    (s.setObject kind address existing).objects kind address = some existing := by
  simp [setObject]

@[simp] theorem authMethodAt_setAuthMethod (s : Server) (path : Str) (info : MountInfo) :
    authMethodAt (s.setAuthMethod path info).authMethods path = some info := by
  simp [setAuthMethod, authMethodAt]

@[simp] theorem setKey_transitKeys (s : Server) (mount name : Str) (info : TransitKeyInfo) :
    (s.setKey mount name info).transitKeys mount name = some info := by simp [setKey]

@[simp] theorem setSecret_secrets (s : Server) (mount path : Str) (cell : Cell KvData) :
    (s.setSecret mount path cell).secrets mount path = cell := by simp [setSecret]

theorem setSecret_secrets_of_ne {mount path mount' path' : Str} (s : Server) (cell : Cell KvData)
    (h : ¬ (mount' = mount ∧ path' = path)) :
    (s.setSecret mount path cell).secrets mount' path' = s.secrets mount' path' := by
  by_cases hm : mount' = mount
  · subst hm
    have hp : path' ≠ path := fun hp => h ⟨rfl, hp⟩
    simp [setSecret, hp]
  · simp [setSecret, hm]

end Server

/-- A merge patch, or a whole write on no data. -/
def mergeValues (values : TextMap Str) (data : KvData) : KvData := fun key =>
  match values.lookup key with
  | some value => some (.text value)
  | none => data key

/-- The check-and-set condition of a write. -/
def CasAllows (options : Option Kv2WriteOptions) (cell : Cell KvData) : Prop :=
  ∀ o ∈ options, ∀ version ∈ o.cas, version = cell.version

/-- A secret as a service configuration; other JSON than strings does not decode. -/
structure ReadsAs (cell : Cell KvData) (secret : Kv2Secret) : Prop where
  version : secret.version = cell.version
  data : cell.value = some fun key => (secret.data.lookup key).map .text

/-- The answer to a read of something that may be absent. -/
def Found {α : Type} (found : Option α) : Except Error α → Prop
  | .ok a => found = some a
  | .error e => e.isNotFound = true → found = none

/-- The answer to a write. -/
def Applied {α : Type} (allowed : Prop) (s applied s' : Server) : Except Error α → Prop
  | .ok _ => allowed ∧ s' = applied
  | .error _ => s' = s ∨ allowed ∧ s' = applied

/-- A write without effect was answered with an error. -/
theorem Applied.cases {α : Type} {allowed : Prop} {s applied s' : Server}
    {answer : Except Error α} (h : Applied allowed s applied s' answer) :
    (s' = s ∧ ∃ e, answer = .error e) ∨ allowed ∧ s' = applied := by
  cases answer with
  | ok _ => exact .inr h
  | error e => exact h.imp_left fun hs => ⟨hs, e, rfl⟩

/-- How the server answers a request in state `s` and moves to `s'`. -/
def serves (backend : Backend) (s : Server) :
    (request : BootstrapRequest) → Answer request → Server → Prop
  | .listAuthMethods, answer, s' =>
    s' = s ∧ ∀ methods, answer = .ok methods → s.authMethods = methods
  | .enableAuthMethod path request, answer, s' =>
    Applied (authMethodAt s.authMethods path = none) s
      (s.setAuthMethod path (backend.authMethod request)) s' answer
  | .readMount path, answer, s' => s' = s ∧ Found (s.mounts path) answer
  | .enableMount path request, answer, s' =>
    Applied (s.mounts path = none) s (s.setMount path (backend.mount request)) s' answer
  | .readKey mount name, answer, s' => s' = s ∧ Found (s.transitKeys mount name) answer
  | .createKey mount name request, answer, s' =>
    Applied True s
      (s.setKey mount name ((s.transitKeys mount name).getD (backend.key name request))) s' answer
  | .readObject kind address, answer, s' => s' = s ∧ Found (s.objects kind address) answer
  | .writeObject kind address desired, answer, s' =>
    Applied True s (s.setObject kind address
      (backend.object kind (s.objects kind address) desired)) s' answer
  | .readSecret mount path, answer, s' => s' = s ∧
    match answer with
    | .ok secret => ReadsAs (s.secrets mount path) secret
    | .error e => e.isNotFound = true → (s.secrets mount path).value = none
  | .writeSecret mount path data options, answer, s' =>
    Applied (CasAllows options (s.secrets mount path)) s (s.setSecret mount path
      ((s.secrets mount path).write (some (mergeValues data fun _ => none)))) s' answer
  | .patchSecret mount path data options, answer, s' =>
    Applied (CasAllows options (s.secrets mount path)) s (s.setSecret mount path
      ((s.secrets mount path).write
        (some (mergeValues data ((s.secrets mount path).value.getD fun _ => none))))) s' answer
  | .createToken _, _, s' => s' = s
  | .generateSecretId .., _, s' => s' = s

/-- What happens to a run's requests. -/
abbrev RunEvent : Type := Event Answer Server

end OpenBao.BootstrapServer
