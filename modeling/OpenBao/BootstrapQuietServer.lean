import OpenBao.BootstrapObjects

/-!
# A server without other clients

The answer to a read is a function of what the read sees, and only the run changes
the state. What such a server stores is read again.
-/

namespace OpenBao.BootstrapQuietServer
open BootstrapComparisons BootstrapObjects BootstrapPlan BootstrapRecords BootstrapRun
open BootstrapServer BootstrapTruth RequestPrograms Utf8Text VersionedCells

/-- What a request sees of the state. -/
def View : BootstrapRequest → Type
  | .listAuthMethods => TextMap MountInfo
  | .readMount _ => Option MountInfo
  | .readKey .. => Option TransitKeyInfo
  | .readObject kind _ => Option kind.Existing
  | .readSecret .. => Cell KvData
  | _ => Unit

def view (s : Server) : (request : BootstrapRequest) → View request
  | .listAuthMethods => s.authMethods
  | .readMount path => s.mounts path
  | .readKey mount name => s.transitKeys mount name
  | .readObject kind address => s.objects kind address
  | .readSecret mount path => s.secrets mount path
  | .enableAuthMethod .. => ()
  | .enableMount .. => ()
  | .createKey .. => ()
  | .writeObject .. => ()
  | .writeSecret .. => ()
  | .patchSecret .. => ()
  | .createToken _ => ()
  | .generateSecretId .. => ()

/-- A read that found something or nothing, and was not refused. -/
def Answered {α : Type} : Except Error α → Prop
  | .ok _ => True
  | .error e => e.isNotFound = true

def AllText (cell : Cell KvData) : Prop :=
  ∃ data : TextMap Str, cell.value = some fun key => (data.lookup key).map .text

/-- The answers to reads. They report the state, and a key or secret that the run stores
where it could read is readable. -/
structure ReadRule where
  answer : (request : BootstrapRequest) → View request → Answer request
  truthful : ∀ backend s request, isRead request = true →
    serves backend s request (answer request (view s request)) s
  keyStored : ∀ mount name, Answered (answer (.readKey mount name) none) →
    ∀ key, answer (.readKey mount name) (some key) = .ok key
  secretStored : ∀ mount path cell, Answered (answer (.readSecret mount path) cell) →
    ∀ cell', AllText cell' → ∃ secret, answer (.readSecret mount path) cell' = .ok secret

/-- Reads follow the rule, other requests are answered as `written` allows. -/
def quiet (backend : Backend) (rule : ReadRule)
    (written : (request : BootstrapRequest) → Answer request → Prop) :
    Environment Answer Server where
  serves s request answer s' := serves backend s request answer s' ∧
    if isRead request then answer = rule.answer request (view s request)
    else written request answer
  others s s' := s = s'

section Quiet

variable {backend : Backend} {rule : ReadRule}
variable {written : (request : BootstrapRequest) → Answer request → Prop}

/-- A read does not change the state and has one answer. -/
theorem exec_read_iff {α : Type} (request : BootstrapRequest) (hread : isRead request = true)
    {f : Answer request → Action α} {trace : List RunEvent} {result : Except Error α}
    {s s' : Server} :
    Exec (quiet backend rule written) s ((Prog.call request).bind f) trace result s' ↔
      ∃ rest, Exec (quiet backend rule written) s (f (rule.answer request (view s request))) rest
          result s' ∧
        trace = ⟨request, s, rule.answer request (view s request), s⟩ :: rest := by
  rw [exec_call_bind_iff]
  constructor
  · rintro ⟨s₁, answer, s₂, rest, rfl, ⟨hserves, hanswer⟩, hrest, rfl⟩
    rw [if_pos hread] at hanswer
    obtain rfl := serves_read hread hserves
    subst hanswer
    exact ⟨rest, hrest, rfl⟩
  · rintro ⟨rest, hrest, rfl⟩
    refine ⟨s, _, s, rest, rfl, ⟨rule.truthful backend s request hread, ?_⟩, hrest, rfl⟩
    rw [if_pos hread]

/-- The program sends the read of one request and ends with `r`. -/
def JustReads {α : Type} (env : Environment Answer Server) (rule : ReadRule) (s : Server)
    (request : BootstrapRequest) (p : Action α) (r : Except Error α) : Prop :=
  ∀ trace result s', Exec env s p trace result s' ↔
    trace = [⟨request, s, rule.answer request (view s request), s⟩] ∧ result = r ∧ s' = s

theorem justReads_call {α : Type} {request : BootstrapRequest} (hread : isRead request = true)
    {s : Server} {f : Answer request → Action α} {r : Except Error α}
    (hf : f (rule.answer request (view s request)) = .done r) :
    JustReads (quiet backend rule written) rule s request ((Prog.call request).bind f) r := by
  intro trace result s'
  rw [exec_read_iff request hread, hf]
  constructor
  · rintro ⟨rest, hrest, rfl⟩
    obtain ⟨rfl, rfl, rfl⟩ := exec_done_iff.mp hrest
    exact ⟨rfl, rfl, rfl⟩
  · rintro ⟨rfl, rfl, rfl⟩
    exact ⟨[], .done _ _, rfl⟩

theorem JustReads.ensures {α : Type} {env : Environment Answer Server} {s : Server}
    {request : BootstrapRequest} {p : Action α} {r : Except Error α}
    (h : JustReads env rule s request p r) :
    Ensures env s p fun _ result s' => result = r ∧ s' = s :=
  ⟨⟨_, r, s, (h _ _ _).mpr ⟨rfl, rfl, rfl⟩⟩, fun _ _ _ hrun => ((h _ _ _).mp hrun).2⟩

theorem JustReads.record {env : Environment Answer Server} {s : Server}
    {request : BootstrapRequest} {p : Action BootstrapStepStatus} {status : BootstrapStepStatus}
    (h : JustReads env rule s request p (.ok status)) (report : BootstrapReport)
    (targetType : String) (target : Str) :
    JustReads env rule s request (report.record targetType target p)
      (.ok { report with steps := report.steps ++ [⟨targetType, target, status⟩] }) := by
  intro trace result s'
  rw [exec_record_iff]
  constructor
  · rintro ⟨r, hr, rfl⟩
    obtain ⟨rfl, rfl, rfl⟩ := (h _ _ _).mp hr
    exact ⟨rfl, rfl, rfl⟩
  · rintro ⟨rfl, rfl, rfl⟩
    exact ⟨.ok status, (h _ _ _).mpr ⟨rfl, rfl, rfl⟩, rfl⟩

/-- A run without other clients is one among arbitrary clients. -/
theorem exec_environment {α : Type} {p : Action α} {trace : List RunEvent}
    {result : Except Error α} {s s' : Server}
    (h : Exec (quiet backend rule written) s p trace result s') :
    Exec (environment backend Eq) s p trace result s' := by
  refine Exec.mono ?_ ?_ h
  · exact fun _ _ _ _ hserves => hserves.1
  · exact fun _ _ hothers => hothers

end Quiet

/-! ## A server that answers every read -/

def foundOrNot {α : Type} : Option α → Except Error α
  | some a => .ok a
  | none => .error (.api 404 [])

theorem found_foundOrNot {α : Type} (found : Option α) : Found found (foundOrNot found) := by
  cases found with
  | some a => rfl
  | none => exact fun _ => rfl

open Classical in
/-- A secret whose values are all strings decodes. -/
noncomputable def secretOrNot (cell : Cell KvData) : Except Error Kv2Secret :=
  if h : AllText cell then .ok ⟨h.choose, cell.version⟩
  else if cell.value = none then .error (.api 404 [])
  else .error (.decode "invalid type")

theorem secretOrNot_text {cell : Cell KvData} (h : AllText cell) :
    secretOrNot cell = .ok ⟨h.choose, cell.version⟩ := dif_pos h

theorem secretOrNot_spec (cell : Cell KvData) :
    match secretOrNot cell with
    | .ok secret => ReadsAs cell secret
    | .error e => e.isNotFound = true → cell.value = none := by
  by_cases htext : AllText cell
  · rw [secretOrNot_text htext]
    exact ⟨rfl, htext.choose_spec⟩
  · rw [secretOrNot, dif_neg htext]
    split_ifs with hnone
    · exact fun _ => hnone
    · intro h
      cases h

noncomputable def plainReads : ReadRule where
  answer
    | .listAuthMethods, methods => .ok methods
    | .readMount _, found => foundOrNot found
    | .readKey .., found => foundOrNot found
    | .readObject .., found => foundOrNot found
    | .readSecret .., cell => secretOrNot cell
    | _, _ => .error (.transport "not a read")
  truthful backend s request hread := by
    cases request with
    | listAuthMethods => exact ⟨rfl, fun _ h => Except.ok.inj h⟩
    | readMount path => exact ⟨rfl, found_foundOrNot _⟩
    | readKey mount name => exact ⟨rfl, found_foundOrNot _⟩
    | readObject kind address => exact ⟨rfl, found_foundOrNot _⟩
    | readSecret mount path =>
      have hspec := secretOrNot_spec (s.secrets mount path)
      change serves backend s (.readSecret mount path) (secretOrNot (s.secrets mount path)) s
      generalize secretOrNot (s.secrets mount path) = answer at hspec ⊢
      cases answer <;> exact ⟨rfl, hspec⟩
    | _ => cases hread
  keyStored _ _ _ _ := rfl
  secretStored mount path cell _ cell' htext := ⟨_, secretOrNot_text htext⟩

end OpenBao.BootstrapQuietServer
