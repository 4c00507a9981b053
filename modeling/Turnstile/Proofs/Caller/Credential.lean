import Mathlib.Data.List.Basic
import Turnstile.Caller
import Turnstile.Proofs.Key.Encoding
import Turnstile.Proofs.Text.Blank
import Turnstile.Tier

/-!
# Credentials keep a request off its address

A value of the `authorization` field is a credential unless it is blank text. The
first such value alone decides: if it is a credential, the request is charged to a
principal, whoever that turns out to be (`Policy.key_of_leads`), and otherwise to its
address (`Policy.key_of_not_leads`). A credential behind a blank value is not looked at,
so a request can carry one and be charged to its address all the same.
-/

namespace Turnstile

/-- A value that is not blank text; one that is no text at all counts. -/
def Header.IsCredential (value : List UInt8) : Prop :=
  ∀ text ∈ Header.text? value, Text.isBlank text = false

instance (value : List UInt8) : Decidable (Header.IsCredential value) :=
  inferInstanceAs (Decidable (∀ text ∈ Header.text? value, Text.isBlank text = false))

/-- A credential holds a token exactly if it starts with the scheme; the token is what
stands behind it. -/
theorem Token.ofCredential?_eq_some_iff {credential token : String} :
    ofCredential? credential = some token ↔
      ∃ rest, credential = scheme ++ rest ∧ Text.trim rest = token := by
  simp only [ofCredential?, afterScheme?, Option.map_map, Option.map_eq_some_iff,
    Function.comp_apply, List.isPrefixOf?_eq_some_iff_append_eq]
  constructor
  · rintro ⟨rest, joined, token⟩
    refine ⟨String.ofList rest, ?_, token⟩
    rw [← String.toList_inj, String.toList_append, String.toList_ofList, joined]
  · rintro ⟨rest, rfl, token⟩
    refine ⟨rest.toList, String.toList_append.symm, ?_⟩
    rwa [String.ofList_toList]

/-- The scheme is read as it is written. -/
theorem Token.text?_scheme : Header.text? (Header.bytesOf scheme) = some scheme := by
  decide +kernel

namespace Caller

/-- Whether a credential stands anywhere among the `authorization` fields. -/
def CarriesCredential (headers : Headers) : Prop :=
  ∃ header ∈ headers, header.name = "authorization" ∧ Header.IsCredential header.value

instance (headers : Headers) : Decidable (CarriesCredential headers) :=
  inferInstanceAs (Decidable (∃ header ∈ headers,
    header.name = "authorization" ∧ Header.IsCredential header.value))

/-- Whether the first of the `authorization` fields holds a credential. -/
def LeadsWithCredential (headers : Headers) : Prop :=
  ∃ value ∈ headers.first? "authorization", Header.IsCredential value

theorem trimmed?_of_blank {text : String} (blank : Text.isBlank text = true) :
    trimmed? text = none := by
  rw [← Text.trim_isEmpty] at blank
  exact if_pos blank

theorem trimmed?_of_filled {text : String} (filled : Text.isBlank text = false) :
    trimmed? text = some (Text.trim text) := by
  rw [← Text.trim_isEmpty] at filled
  exact if_neg (Bool.eq_false_iff.mp filled)

/-- A key by address is of the kind that says so. -/
theorem kind_addressKey (headers : Headers) (peer : Option SocketAddress) :
    Key.kind (addressKey headers peer) = .ip :=
  Key.kind_compose (by decide) _

namespace Policy

/-! ## What the first value decides -/

section

variable (policy : Policy) {headers : Headers} (peer : Option SocketAddress)
  {value : List UInt8} {text : String}

/-- Without an `authorization` field, a request is charged to its address. -/
theorem key_of_missing (missing : headers.first? "authorization" = none) :
    policy.key headers peer = (policy.address headers peer, []) := by
  simp [key, headerText?, Headers.text?, hasOpaqueCredential, missing]

/-- A credential that is not text is charged to the anonymous principal. -/
theorem key_of_opaque (first : headers.first? "authorization" = some value)
    (unreadable : Header.text? value = none) :
    policy.key headers peer = (Principal.anonymous.key, []) := by
  simp [key, headerText?, Headers.text?, hasOpaqueCredential, first, unreadable]

/-- With a blank value in front, a request is charged to its address. -/
theorem key_of_blank (first : headers.first? "authorization" = some value)
    (readable : Header.text? value = some text) (blank : Text.isBlank text = true) :
    policy.key headers peer = (policy.address headers peer, []) := by
  simp [key, headerText?, Headers.text?, hasOpaqueCredential, first, readable,
    trimmed?_of_blank blank]

/-- Any other text is read as a credential, without the white space around it. -/
theorem key_of_text (first : headers.first? "authorization" = some value)
    (readable : Header.text? value = some text) (filled : Text.isBlank text = false) :
    policy.key headers peer = policy.credentialKey (Text.trim text) := by
  simp [key, headerText?, Headers.text?, first, readable, trimmed?_of_filled filled]

end

/-- What stands behind the scheme is the token, whatever white space is around it. With
nothing behind it trimming takes the scheme apart, but an empty token names nobody either. -/
theorem credentialKey_trim_scheme (policy : Policy) (rest : String) :
    policy.credentialKey (Text.trim (Token.scheme ++ rest)) =
      policy.tokenKey (Text.trim rest) := by
  obtain ⟨kept, blank, rfl, white, last⟩ := Text.exists_append_blank rest
  rw [← String.append_assoc, Text.trim_append_right white, Text.trim_append_right white]
  by_cases empty : kept = ""
  · rw [empty]
    rfl
  · have whole : Text.trim (Token.scheme ++ kept) = Token.scheme ++ kept := by
      have filled : kept.toList ≠ [] := mt String.toList_eq_nil_iff.mp empty
      rw [Text.trim, Text.trimChars_eq_self_iff.mpr ⟨?_, ?_⟩, String.ofList_toList]
      · intro c first
        rw [String.toList_append] at first
        obtain rfl : 'B' = c := Option.some.inj first
        rfl
      · rwa [String.toList_append, List.getLast?_append, Option.or_of_isSome]
        simpa using filled
    rw [whole, credentialKey, Token.ofCredential?_eq_some_iff.mpr ⟨kept, rfl, rfl⟩]

/-- Whatever a credential holds, it is charged to a principal. -/
theorem credentialKey_eq (policy : Policy) (credential : String) :
    ∃ principal : Principal, (policy.credentialKey credential).1 = principal.key := by
  unfold credentialKey
  split
  · exact ⟨_, rfl⟩
  · exact ⟨.anonymous, rfl⟩

/-- A request that leads with a credential is charged to a principal, under whichever
policy. -/
theorem key_of_leads (policy : Policy) {headers : Headers} (leads : LeadsWithCredential headers)
    (peer : Option SocketAddress) :
    ∃ principal : Principal, (policy.key headers peer).1 = principal.key := by
  obtain ⟨value, first, credential⟩ := leads
  cases reading : Header.text? value with
  | none =>
      rw [policy.key_of_opaque peer first reading]
      exact ⟨.anonymous, rfl⟩
  | some text =>
      rw [policy.key_of_text peer first reading (credential text reading)]
      exact policy.credentialKey_eq _

/-- A request that does not lead with a credential is charged to its address. -/
theorem key_of_not_leads (policy : Policy) {headers : Headers}
    (without : ¬ LeadsWithCredential headers) (peer : Option SocketAddress) :
    (policy.key headers peer).1 = policy.address headers peer := by
  cases first : headers.first? "authorization" with
  | none => rw [policy.key_of_missing peer first]
  | some value =>
      have noCredential : ¬ Header.IsCredential value :=
        fun credential => without ⟨value, first, credential⟩
      simp only [Header.IsCredential, not_forall, Bool.not_eq_false] at noCredential
      obtain ⟨text, readable, blank⟩ := noCredential
      rw [policy.key_of_blank peer first readable blank]

end Policy

/-- A request is charged to its address, and as an unauthenticated one, exactly if the
first of its `authorization` fields is missing or blank. -/
theorem kind_key_eq_ip_iff (resolver : Resolver) (headers : Headers)
    (peer : Option SocketAddress) :
    let policy : Policy := { resolver := resolver }
    let key := (policy.key headers peer).1
    (Key.kind key = .ip ↔ ¬ LeadsWithCredential headers) ∧
      (Tier.ofKey key = .authenticated ↔ LeadsWithCredential headers) := by
  intro policy key
  by_cases leads : LeadsWithCredential headers
  · obtain ⟨principal, keyEq⟩ := policy.key_of_leads leads peer
    have kindEq : Key.kind key = principal.kind := by
      rw [← principal.kind_key, ← keyEq]
    unfold Tier.ofKey
    rw [kindEq]
    cases principal <;> simp [Principal.kind, leads]
  · have kindEq : Key.kind key = .ip := by
      rw [← kind_addressKey headers peer]
      exact congrArg Key.kind (policy.key_of_not_leads leads peer)
    unfold Tier.ofKey
    rw [kindEq]
    simp [leads]

/-- A credential behind an empty value: the request carries it, and is charged to its
address all the same. -/
theorem kind_key_of_credential_behind_blank :
    let headers : Headers :=
      [.ofName "Authorization" [], .ofName "Authorization" (Header.bytesOf "Basic dXNlcjpwYXNz")]
    let policy : Policy := { resolver := .standard }
    let key := (policy.key headers none).1
    CarriesCredential headers ∧ key = "ip:unknown" ∧ Key.kind key = .ip ∧
      Tier.ofKey key ≠ .authenticated := by
  decide +kernel

end Caller

end Turnstile
