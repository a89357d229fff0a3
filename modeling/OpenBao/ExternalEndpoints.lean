import OpenBao.PkiKeyExport
import OpenBao.PostgresUriDsn

/-!
# Endpoints of other services

The endpoint of a message broker is secret, so that the client checks it by hand and never gives it
to a library. It accepts exactly the texts that spell one host and one port behind HTTPS.
-/

namespace OpenBao.ExternalEndpoints
open DelimitedLists PkiKeyExport PostgresUriDsn
open Utf8Text hiding eqIgnoreAsciiCase

def maxExternalEndpointBytes : ℕ := 4 * 1024

def schemeEnd : Str := [':', '/', '/']

def https : Str := ['h', 't', 't', 'p', 's']

/-- The same check as for the port of a PostgreSQL URI. -/
def validEndpointPort (port : Str) : Bool := postgresUriPortIsValid port

/-- The part of `validHttpsAuthority` behind an opening bracket. -/
def validBracketed (bracketed : Str) : Bool :=
  match splitOnce ']' bracketed with
  | none => false
  | some (host, suffix) =>
    !host.isEmpty && !(host.contains '[' || host.contains ']') &&
      (suffix.isEmpty || (suffix.dropPrefix? [':']).any validEndpointPort)

def validHttpsAuthority (authority : Str) : Bool :=
  match authority.dropPrefix? ['['] with
  | some bracketed => validBracketed bracketed
  | none =>
    if authority.contains '[' || authority.contains ']' || authority.contains '%' then false
    else
      match rsplitOnce ':' authority with
      | some (host, port) => !host.isEmpty && !host.contains ':' && validEndpointPort port
      | none => !authority.isEmpty

/-- The bytes and characters that no endpoint has. -/
def forbidden (value : Str) : Bool :=
  (asBytes value).any (fun byte => isAsciiControl byte || isAsciiWhitespace byte) ||
    value.contains '\\' || value.contains '#'

/-- A character that the authority ends before. -/
def endsAuthority (c : Char) : Bool := c == '/' || c == '?'

def validateSecretHttpsEndpoint (value : Str) (field : String) : Except Error Unit :=
  if maxExternalEndpointBytes < byteLen value || forbidden value then
    .error (.invalidParameter (field ++ " must be a bounded HTTPS URL"))
  else
    match splitOnceAt schemeEnd value with
    | none => .error (.invalidParameter (field ++ " must be an absolute HTTPS URL"))
    | some (scheme, remainder) =>
      if !eqIgnoreAsciiCase scheme https then
        .error (.invalidParameter (field ++ " must use HTTPS"))
      else
        let authority := remainder.takeWhile fun c => !endsAuthority c
        if authority.isEmpty || authority.contains '@' || !validHttpsAuthority authority then
          .error (.invalidParameter (field ++ " must contain a valid host without credentials"))
        else .ok ()

/-! ### Endpoints as structures -/

/-- A host as an authority spells it: an address between brackets, or a name. -/
inductive EndpointHost where
  | literal (address : Str)
  | name (text : Str)
  deriving DecidableEq, Repr

namespace EndpointHost

def text : EndpointHost → Str
  | literal address => '[' :: (address ++ [']'])
  | name text => text

def WellFormed : EndpointHost → Prop
  | literal address => address ≠ [] ∧ ∀ c ∈ address, c ∉ ['/', '?', '@', '[', ']']
  | name text => text ≠ [] ∧ ∀ c ∈ text, c ∉ ['/', '?', '@', '[', ']', '%', ':']

end EndpointHost

def portText : Option Str → Str
  | none => []
  | some port => ':' :: port

/-- An authority that spells a host and a port, and no user. -/
structure Spells (host : EndpointHost) (port : Option Str) (authority : Str) : Prop where
  wellFormed : host.WellFormed
  inRange : ∀ digits ∈ port, PortInRange digits
  eq : authority = host.text ++ portText port

/-- What an accepted endpoint says. -/
@[ext]
structure Endpoint where
  scheme : Str
  host : EndpointHost
  port : Option Str
  rest : Str
  secure : eqIgnoreAsciiCase scheme https = true
  wellFormed : host.WellFormed
  inRange : ∀ digits ∈ port, PortInRange digits
  ends : ∀ c ∈ rest.head?, endsAuthority c = true

def Endpoint.authority (endpoint : Endpoint) : Str := endpoint.host.text ++ portText endpoint.port

def Endpoint.text (endpoint : Endpoint) : Str :=
  endpoint.scheme ++ (schemeEnd ++ (endpoint.authority ++ endpoint.rest))

/-- An authority that ends nowhere and names no user. -/
def Plain (authority : Str) : Prop := ∀ c ∈ authority, endsAuthority c = false ∧ c ≠ '@'

section Authorities

variable {host host' : EndpointHost} {port port' : Option Str} {authority : Str}

theorem not_mem_port {digits : Str} (h : PortInRange digits) {c : Char} (hc : c.isDigit = false) :
    c ∉ digits := by
  intro hmem
  rw [h.2.1 c hmem] at hc
  cases hc

theorem Spells.plain (h : Spells host port authority) : Plain authority := by
  obtain ⟨hwell, hrange, rfl⟩ := h
  intro c hc
  have hhost : ∀ c ∈ host.text, endsAuthority c = false ∧ c ≠ '@' := by
    cases host with
    | literal address =>
      intro c hc
      rw [EndpointHost.text, List.mem_cons, List.mem_append, List.mem_singleton] at hc
      rcases hc with rfl | hc | rfl
      · decide
      · have hnot := hwell.2 c hc
        simp only [List.mem_cons, List.not_mem_nil, or_false, not_or] at hnot
        simp [endsAuthority, hnot]
      · decide
    | name text =>
      intro c hc
      have hnot := hwell.2 c hc
      simp only [List.mem_cons, List.not_mem_nil, or_false, not_or] at hnot
      simp [endsAuthority, hnot]
  rcases List.mem_append.mp hc with hc | hc
  · exact hhost c hc
  · cases port with
    | none => cases hc
    | some digits =>
      rcases List.mem_cons.mp hc with rfl | hc
      · decide
      · have hdigit := (hrange digits rfl).2.1 c hc
        refine ⟨?_, ?_⟩
        · by_contra hends
          rw [Bool.not_eq_false, endsAuthority, Bool.or_eq_true, beq_iff_eq, beq_iff_eq] at hends
          rcases hends with rfl | rfl
          · revert hdigit
            decide
          · revert hdigit
            decide
        · rintro rfl
          revert hdigit
          decide

/-- Between brackets. -/
theorem literal_iff {bracketed : Str} (hplain : Plain bracketed) :
    validBracketed bracketed = true ↔
      ∃ address port, Spells (.literal address) port ('[' :: bracketed) := by
  unfold validBracketed
  constructor
  · intro h
    cases hsplit : splitOnce ']' bracketed with
    | none =>
      rw [hsplit] at h
      cases h
    | some parts =>
      obtain ⟨address, suffix⟩ := parts
      rw [hsplit] at h
      simp only [Bool.and_eq_true, Bool.or_eq_true, Bool.not_eq_true', Bool.or_eq_false_iff,
        List.isEmpty_eq_false_iff, List.isEmpty_iff, List.contains_eq_mem, decide_eq_false_iff_not]
        at h
      obtain ⟨⟨hne, hopen, hclose⟩, hsuffix⟩ := h
      obtain ⟨rfl, -⟩ := splitOnce_eq_some_iff.mp hsplit
      have hwell : (EndpointHost.literal address).WellFormed := by
        refine ⟨hne, fun c hc hmem => ?_⟩
        obtain ⟨hends, hat⟩ := hplain c (List.mem_append_left _ hc)
        simp only [endsAuthority, Bool.or_eq_false_iff, beq_eq_false_iff_ne] at hends
        simp only [List.mem_cons, List.not_mem_nil, or_false] at hmem
        rcases hmem with rfl | rfl | rfl | rfl | rfl
        · exact hends.1 rfl
        · exact hends.2 rfl
        · exact hat rfl
        · exact hopen hc
        · exact hclose hc
      rcases hsuffix with rfl | hport
      · exact ⟨address, none, hwell, by simp, by simp [EndpointHost.text, portText]⟩
      · cases hdrop : suffix.dropPrefix? [':'] with
        | none =>
          rw [hdrop] at hport
          cases hport
        | some digits =>
          rw [hdrop, Option.any_some] at hport
          obtain rfl := dropPrefix?_eq_some.mp hdrop
          refine ⟨address, some digits, hwell, ?_, by simp [EndpointHost.text, portText]⟩
          rintro _ ⟨⟩
          exact postgresUriPortIsValid_iff.mp hport
  · rintro ⟨address, port, ⟨hne, hchars⟩, hrange, heq⟩
    have hclose : ']' ∉ address := fun hmem => hchars _ hmem (by simp)
    have hopen : '[' ∉ address := fun hmem => hchars _ hmem (by simp)
    have hbracketed : bracketed = address ++ ']' :: portText port := by
      simpa [EndpointHost.text] using heq
    rw [hbracketed, splitOnce_append hclose]
    cases port with
    | none => simp [portText, hne, hopen, hclose]
    | some digits =>
      have hdrop : (portText (some digits)).dropPrefix? [':'] = some digits :=
        dropPrefix?_eq_some.mpr rfl
      have hvalid : validEndpointPort digits = true :=
        postgresUriPortIsValid_iff.mpr (hrange digits rfl)
      simp [hdrop, hvalid, hne, hopen, hclose]

/-- Without brackets. -/
theorem name_iff (hplain : Plain authority) (hopen : authority.dropPrefix? ['['] = none) :
    validHttpsAuthority authority = true ↔
      ∃ text port, Spells (.name text) port authority := by
  rw [validHttpsAuthority, hopen]
  dsimp only
  constructor
  · intro h
    split at h
    · cases h
    · next hbrackets =>
      simp only [Bool.not_eq_true, Bool.or_eq_false_iff, List.contains_eq_mem,
        decide_eq_false_iff_not] at hbrackets
      obtain ⟨⟨hleft, hright⟩, hpercent⟩ := hbrackets
      have hwell : ∀ text : Str, (∀ c ∈ text, c ∈ authority) → text ≠ [] → ':' ∉ text →
          (EndpointHost.name text).WellFormed := by
        refine fun text hsub hne hcolon => ⟨hne, fun c hc hmem => ?_⟩
        obtain ⟨hends, hat⟩ := hplain c (hsub c hc)
        simp only [endsAuthority, Bool.or_eq_false_iff, beq_eq_false_iff_ne] at hends
        simp only [List.mem_cons, List.not_mem_nil, or_false] at hmem
        rcases hmem with rfl | rfl | rfl | rfl | rfl | rfl | rfl
        · exact hends.1 rfl
        · exact hends.2 rfl
        · exact hat rfl
        · exact hleft (hsub _ hc)
        · exact hright (hsub _ hc)
        · exact hpercent (hsub _ hc)
        · exact hcolon hc
      cases hsplit : rsplitOnce ':' authority with
      | none =>
        rw [hsplit] at h
        have hne : authority ≠ [] := by simpa using h
        exact ⟨authority, none, hwell authority (fun _ hc => hc) hne (rsplitOnce_eq_none_iff.mp hsplit),
          by simp, by simp [EndpointHost.text, portText]⟩
      | some parts =>
        obtain ⟨text, digits⟩ := parts
        rw [hsplit] at h
        simp only [Bool.and_eq_true, Bool.not_eq_true', List.isEmpty_eq_false_iff,
          List.contains_eq_mem, decide_eq_false_iff_not] at h
        obtain ⟨⟨hne, hcolon⟩, hvalid⟩ := h
        obtain ⟨heq, -⟩ := rsplitOnce_eq_some_iff.mp hsplit
        refine ⟨text, some digits, hwell text (fun c hc => ?_) hne hcolon, ?_, heq⟩
        · rw [heq]
          exact List.mem_append_left _ hc
        · rintro _ ⟨⟩
          exact postgresUriPortIsValid_iff.mp hvalid
  · rintro ⟨text, port, ⟨hne, hchars⟩, hrange, rfl⟩
    have hcolon : ':' ∉ text := fun hmem => hchars _ hmem (by simp)
    have hport : ∀ c ∈ portText port, c = ':' ∨ c.isDigit = true := by
      intro c hc
      cases port with
      | none => cases hc
      | some digits =>
        rcases List.mem_cons.mp hc with rfl | hc
        · exact .inl rfl
        · exact .inr ((hrange digits rfl).2.1 c hc)
    have hfree : ∀ c ∈ ['[', ']', '%'], c ∉ text ++ portText port := by
      intro c hc hmem
      rcases List.mem_append.mp hmem with hmem | hmem
      · refine hchars c hmem ?_
        simp only [List.mem_cons, List.not_mem_nil, or_false] at hc ⊢
        rcases hc with rfl | rfl | rfl <;> simp
      · simp only [List.mem_cons, List.not_mem_nil, or_false] at hc
        rcases hport c hmem with rfl | hdigit
        · revert hc
          decide
        · rcases hc with rfl | rfl | rfl <;> revert hdigit <;> decide
    have hclean : ((text ++ portText port).contains '[' || (text ++ portText port).contains ']' ||
        (text ++ portText port).contains '%') = false := by
      simp only [List.contains_eq_mem, Bool.or_eq_false_iff, decide_eq_false_iff_not]
      exact ⟨⟨hfree _ (by simp), hfree _ (by simp)⟩, hfree _ (by simp)⟩
    rw [EndpointHost.text, hclean, if_neg Bool.false_ne_true]
    cases port with
    | none =>
      rw [portText, List.append_nil, rsplitOnce_eq_none_iff.mpr hcolon]
      simpa using hne
    | some digits =>
      have hdigits : ':' ∉ digits := not_mem_port (hrange digits rfl) (by decide)
      have hvalid : validEndpointPort digits = true :=
        postgresUriPortIsValid_iff.mpr (hrange digits rfl)
      rw [portText, rsplitOnce_append hdigits]
      simp [hvalid, hne, hcolon]

theorem validHttpsAuthority_iff (hplain : Plain authority) :
    validHttpsAuthority authority = true ↔ ∃ host port, Spells host port authority := by
  cases hopen : authority.dropPrefix? ['['] with
  | some bracketed =>
    obtain rfl := dropPrefix?_eq_some.mp hopen
    have hbracketed : Plain bracketed := fun c hc => hplain c (List.mem_cons_of_mem _ hc)
    rw [validHttpsAuthority, hopen]
    refine (literal_iff hbracketed).trans ⟨?_, ?_⟩
    · rintro ⟨address, port, h⟩
      exact ⟨_, port, h⟩
    · rintro ⟨host, port, h⟩
      cases host with
      | literal address => exact ⟨address, port, h⟩
      | name text =>
        -- A name does not begin with a bracket.
        obtain ⟨⟨hne, hchars⟩, -, heq⟩ := h
        obtain ⟨c, text, rfl⟩ := List.exists_cons_of_ne_nil hne
        obtain ⟨rfl, -⟩ := List.cons_eq_cons.mp heq
        exact absurd (by simp) (hchars '[' (List.mem_cons_self ..))
  | none =>
    refine (name_iff hplain hopen).trans ⟨?_, ?_⟩
    · rintro ⟨text, port, h⟩
      exact ⟨_, port, h⟩
    · rintro ⟨host, port, h⟩
      cases host with
      | name text => exact ⟨text, port, h⟩
      | literal address =>
        have hsome : authority.dropPrefix? ['['] = some (address ++ ']' :: portText port) := by
          refine dropPrefix?_eq_some.mpr ?_
          rw [h.eq]
          simp [EndpointHost.text]
        rw [hopen] at hsome
        cases hsome

theorem portText_injective : Function.Injective portText := by
  intro port port' h
  cases port with
  | none =>
    cases port' with
    | none => rfl
    | some digits => cases h
  | some digits =>
    cases port' with
    | none => cases h
    | some digits' => rw [(List.cons_eq_cons.mp h).2]

/-- An authority says one host and one port. -/
theorem Spells.unique (h : Spells host port authority) (h' : Spells host' port' authority) :
    host = host' ∧ port = port' := by
  have heq := h.eq.symm.trans h'.eq
  cases host with
  | literal address =>
    have hclose : ']' ∉ address := fun hmem => h.wellFormed.2 _ hmem (by simp)
    cases host' with
    | literal address' =>
      have hclose' : ']' ∉ address' := fun hmem => h'.wellFormed.2 _ hmem (by simp)
      have hinner : address ++ ']' :: portText port = address' ++ ']' :: portText port' := by
        simpa [EndpointHost.text] using heq
      have hsplit := splitOnce_append hclose (portText port)
      rw [hinner, splitOnce_append hclose'] at hsplit
      obtain ⟨rfl, hport⟩ := Prod.mk.inj (Option.some.inj hsplit)
      exact ⟨rfl, portText_injective hport.symm⟩
    | name text =>
      obtain ⟨c, text, rfl⟩ := List.exists_cons_of_ne_nil h'.wellFormed.1
      obtain ⟨rfl, -⟩ := List.cons_eq_cons.mp heq
      exact absurd (by simp) (h'.wellFormed.2 '[' (List.mem_cons_self ..))
  | name text =>
    have hcolon : ':' ∉ text := fun hmem => h.wellFormed.2 _ hmem (by simp)
    cases host' with
    | literal address =>
      obtain ⟨c, text, rfl⟩ := List.exists_cons_of_ne_nil h.wellFormed.1
      obtain ⟨rfl, -⟩ := List.cons_eq_cons.mp heq
      exact absurd (by simp) (h.wellFormed.2 '[' (List.mem_cons_self ..))
    | name text' =>
      have hcolon' : ':' ∉ text' := fun hmem => h'.wellFormed.2 _ hmem (by simp)
      change text ++ portText port = text' ++ portText port' at heq
      cases port with
      | none =>
        rw [portText, List.append_nil] at heq
        cases port' with
        | none =>
          rw [portText, List.append_nil] at heq
          rw [heq]
          exact ⟨rfl, rfl⟩
        | some digits => exact absurd (by rw [heq]; simp [portText]) hcolon
      | some digits =>
        cases port' with
        | none =>
          rw [portText, portText, List.append_nil] at heq
          exact absurd (by rw [← heq]; simp) hcolon'
        | some digits' =>
          have hsplit := splitOnce_append hcolon digits
          rw [show text ++ ':' :: digits = text' ++ ':' :: digits' from heq,
            splitOnce_append hcolon'] at hsplit
          obtain ⟨rfl, rfl⟩ := Prod.mk.inj (Option.some.inj hsplit)
          exact ⟨rfl, rfl⟩

end Authorities

section Endpoints

variable {value scheme remainder : Str} {field : String}

theorem colon_not_mem_scheme (h : eqIgnoreAsciiCase scheme https = true) : ':' ∉ scheme := by
  intro hmem
  rw [eqIgnoreAsciiCase, beq_iff_eq] at h
  have hbyte : (0x3a : UInt8) ∈ asBytes scheme := List.mem_flatMap.mpr ⟨':', hmem, by decide⟩
  have hlower : toAsciiLowercase 0x3a ∈ (asBytes scheme).map toAsciiLowercase :=
    List.mem_map_of_mem hbyte
  rw [h] at hlower
  revert hlower
  decide

/-- A scheme without a colon ends where the delimiter begins. -/
theorem splitOnceAt_schemeEnd (h : ':' ∉ scheme) :
    splitOnceAt schemeEnd (scheme ++ (schemeEnd ++ remainder)) = some (scheme, remainder) := by
  induction scheme with
  | nil => simp [schemeEnd, splitOnceAt]
  | cons c scheme ih =>
    have hc : ':' ≠ c := fun heq => h (heq ▸ List.mem_cons_self ..)
    have hearly : ¬ schemeEnd.isPrefixOf (c :: (scheme ++ (schemeEnd ++ remainder))) = true := by
      simp [schemeEnd, hc]
    rw [List.cons_append, splitOnceAt, if_neg hearly, ih fun hmem => h (List.mem_cons_of_mem _ hmem)]
    rfl

theorem takeWhile_authority {authority rest : Str} (hplain : Plain authority)
    (hends : ∀ c ∈ rest.head?, endsAuthority c = true) :
    (authority ++ rest).takeWhile (fun c => !endsAuthority c) = authority := by
  have hall : ∀ c ∈ authority, (!endsAuthority c) = true := fun c hc => by
    rw [(hplain c hc).1]
    rfl
  rw [List.takeWhile_append_of_pos hall]
  cases rest with
  | nil => simp
  | cons c rest =>
    have hc := hends c rfl
    simp [hc]

theorem Endpoint.spells (endpoint : Endpoint) :
    Spells endpoint.host endpoint.port endpoint.authority :=
  ⟨endpoint.wellFormed, endpoint.inRange, rfl⟩

/-- What the check cuts an endpoint into. -/
theorem Endpoint.cuts (endpoint : Endpoint) :
    splitOnceAt schemeEnd endpoint.text =
        some (endpoint.scheme, endpoint.authority ++ endpoint.rest) ∧
      (endpoint.authority ++ endpoint.rest).takeWhile (fun c => !endsAuthority c) =
        endpoint.authority :=
  ⟨splitOnceAt_schemeEnd (colon_not_mem_scheme endpoint.secure),
    takeWhile_authority endpoint.spells.plain endpoint.ends⟩

theorem Endpoint.text_injective : Function.Injective Endpoint.text := by
  intro endpoint other h
  obtain ⟨hcut, htake⟩ := endpoint.cuts
  obtain ⟨hcut', htake'⟩ := other.cuts
  rw [h, hcut'] at hcut
  obtain ⟨hscheme, hremainder⟩ := Prod.mk.inj (Option.some.inj hcut)
  rw [← hremainder, htake'] at htake
  have hspells := other.spells
  rw [htake] at hspells hremainder
  obtain ⟨hhost, hport⟩ := endpoint.spells.unique hspells
  exact Endpoint.ext hscheme.symm hhost hport (List.append_cancel_left hremainder).symm

theorem Endpoint.authority_ne_nil (endpoint : Endpoint) : endpoint.authority ≠ [] := by
  intro h
  obtain ⟨hhost, -⟩ := List.append_eq_nil_iff.mp h
  have hwell := endpoint.wellFormed
  cases hcase : endpoint.host with
  | literal address =>
    rw [hcase] at hhost
    cases hhost
  | name text =>
    rw [hcase] at hhost hwell
    exact hwell.1 hhost

/-- The texts that an error of the check adds to the name of the field. -/
def endpointMessages : List String :=
  [" must be a bounded HTTPS URL", " must be an absolute HTTPS URL", " must use HTTPS",
    " must contain a valid host without credentials"]

theorem validateSecretHttpsEndpoint_eq_ok_iff :
    validateSecretHttpsEndpoint value field = .ok () ↔
      (byteLen value ≤ maxExternalEndpointBytes ∧ forbidden value = false) ∧
        ∃ endpoint : Endpoint, endpoint.text = value := by
  have hbounded : (decide (maxExternalEndpointBytes < byteLen value) || forbidden value) = false ↔
      byteLen value ≤ maxExternalEndpointBytes ∧ forbidden value = false := by
    rw [Bool.or_eq_false_iff, decide_eq_false_iff_not, not_lt]
  rw [← hbounded, validateSecretHttpsEndpoint]
  cases hcheck : (decide (maxExternalEndpointBytes < byteLen value) || forbidden value) with
  | true =>
    constructor
    · intro h
      cases h
    · intro h
      cases h.1
  | false =>
    rw [if_neg Bool.false_ne_true, and_iff_right rfl]
    constructor
    · intro h
      cases hcut : splitOnceAt schemeEnd value with
      | none =>
        rw [hcut] at h
        cases h
      | some parts =>
        obtain ⟨scheme, remainder⟩ := parts
        rw [hcut] at h
        dsimp only at h
        split at h
        · cases h
        · next hscheme =>
          split at h
          · cases h
          · next hauthority =>
            simp only [Bool.not_eq_true, Bool.not_eq_false'] at hscheme
            simp only [Bool.not_eq_true, Bool.or_eq_false_iff, List.isEmpty_eq_false_iff,
              List.contains_eq_mem, decide_eq_false_iff_not, Bool.not_eq_false'] at hauthority
            obtain ⟨⟨-, hat⟩, hvalid⟩ := hauthority
            have hplain : Plain (remainder.takeWhile fun c => !endsAuthority c) := by
              refine fun c hc => ⟨?_, ?_⟩
              · simpa using List.mem_takeWhile_imp hc
              · rintro rfl
                exact hat hc
            obtain ⟨host, port, hspells⟩ := (validHttpsAuthority_iff hplain).mp hvalid
            refine ⟨⟨scheme, host, port, remainder.dropWhile fun c => !endsAuthority c, hscheme,
              hspells.wellFormed, hspells.inRange, fun c hc => ?_⟩, ?_⟩
            · have hhead := List.head?_dropWhile_not (fun c => !endsAuthority c) remainder
              rw [Option.mem_def.mp hc] at hhead
              simpa using hhead
            · rw [eq_of_splitOnceAt hcut]
              change scheme ++ (schemeEnd ++ ((host.text ++ portText port) ++ _)) = _
              rw [← hspells.eq, List.takeWhile_append_dropWhile]
    · rintro ⟨endpoint, rfl⟩
      obtain ⟨hcut, htake⟩ := endpoint.cuts
      have hvalid : validHttpsAuthority endpoint.authority = true :=
        (validHttpsAuthority_iff endpoint.spells.plain).mpr ⟨_, _, endpoint.spells⟩
      have hat : '@' ∉ endpoint.authority := fun hmem => (endpoint.spells.plain _ hmem).2 rfl
      rw [hcut]
      simp [htake, endpoint.secure, hvalid, hat, endpoint.authority_ne_nil]

theorem validateSecretHttpsEndpoint_error {e : Error}
    (h : validateSecretHttpsEndpoint value field = .error e) :
    ∃ message ∈ endpointMessages, e = .invalidParameter (field ++ message) := by
  unfold validateSecretHttpsEndpoint at h
  split at h
  · cases h
    exact ⟨_, by simp [endpointMessages], rfl⟩
  · split at h
    · cases h
      exact ⟨_, by simp [endpointMessages], rfl⟩
    · split at h
      · cases h
        exact ⟨_, by simp [endpointMessages], rfl⟩
      · dsimp only at h
        split at h
        · cases h
          exact ⟨_, by simp [endpointMessages], rfl⟩
        · cases h

/-- An endpoint is accepted exactly where it spells a host and a port in one way, with no user
before them, and an error says nothing of the text. -/
theorem secretEndpoint_law (value : Str) (field : String) :
    (validateSecretHttpsEndpoint value field = .ok () ↔
      (byteLen value ≤ maxExternalEndpointBytes ∧ forbidden value = false) ∧
        ∃! endpoint : Endpoint, endpoint.text = value) ∧
      ∀ e, validateSecretHttpsEndpoint value field = .error e →
        ∃ message ∈ endpointMessages, e = .invalidParameter (field ++ message) := by
  refine ⟨?_, fun e => validateSecretHttpsEndpoint_error⟩
  rw [validateSecretHttpsEndpoint_eq_ok_iff]
  refine and_congr_right fun _ => ⟨?_, ExistsUnique.exists⟩
  rintro ⟨endpoint, rfl⟩
  exact ⟨endpoint, rfl, fun other h => Endpoint.text_injective h⟩

example : validateSecretHttpsEndpoint "HTTPS://[::1]:15671/api?x".toList "f" = .ok () := by
  decide +kernel

end Endpoints

end OpenBao.ExternalEndpoints
