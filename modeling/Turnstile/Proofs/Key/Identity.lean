import Turnstile.Proofs.Caller.Separation

/-!
# Keys stand for identities

An identity is a principal or an address, and its key is its kind and its name with a colon
between them. `split?_eq_some_iff` says which keys are taken apart and into what, so that
kind and identifier undo the composition on every text. Two identities of one key are then
of one kind and one name, whatever the names hold, and that makes them the same.
-/

namespace Turnstile

namespace Key

/-- A key is taken apart into an announced kind and a text exactly if it is composed of
them. -/
theorem split?_eq_some_iff {key rest : String} {kind : Kind} :
    split? key = some (kind, rest) ↔ kind ∈ Kind.announced ∧ key = compose kind rest := by
  constructor
  · intro found
    obtain ⟨tried, announced, taken⟩ := List.exists_of_findSome?_eq_some found
    obtain ⟨chars, lead, split⟩ := Option.map_eq_some_iff.mp taken
    rw [List.isPrefixOf?_eq_some_iff_append_eq] at lead
    cases split
    refine ⟨announced, ?_⟩
    rw [compose, ← String.toList_inj, String.toList_append, String.toList_ofList, lead]
  · rintro ⟨announced, rfl⟩
    exact split?_compose announced rest

/-- A key that announces no kind is not taken apart. -/
theorem split?_eq_none_iff {key : String} :
    split? key = none ↔ ∀ kind ∈ Kind.announced, ∀ rest, key ≠ compose kind rest := by
  rw [Option.eq_none_iff_forall_ne_some]
  constructor
  · rintro whole kind announced rest composed
    exact whole (kind, rest) (split?_eq_some_iff.mpr ⟨announced, composed⟩)
  · rintro silent ⟨kind, rest⟩ found
    obtain ⟨announced, composed⟩ := split?_eq_some_iff.mp found
    exact silent kind announced rest composed

/-- A key that announces no kind is of unknown kind, and names itself unless it is blank. -/
theorem kind_of_silent {key : String}
    (silent : ∀ kind ∈ Kind.announced, ∀ rest, key ≠ compose kind rest) :
    Key.kind key = .unknown ∧
      Key.identifier key = if Text.isBlank key then "unknown" else key := by
  have whole := split?_eq_none_iff.mpr silent
  constructor
  · rw [Key.kind, whole]
  · rw [Key.identifier, whole]

/-- A blank key announces no kind. -/
theorem silent_of_isBlank {key : String} (blank : Text.isBlank key = true) :
    ∀ kind ∈ Kind.announced, ∀ rest, key ≠ compose kind rest := by
  rintro kind _ rest rfl
  rw [isBlank_compose] at blank
  cases blank

/-- A key of known kind is composed of its kind and its identifier. -/
theorem compose_kind_identifier {key : String} (known : Key.kind key ≠ .unknown) :
    compose (Key.kind key) (Key.identifier key) = key := by
  cases found : split? key with
  | none => exact absurd (kind_of_silent (split?_eq_none_iff.mp found)).1 known
  | some taken =>
      obtain ⟨kind, rest⟩ := taken
      obtain ⟨announced, rfl⟩ := split?_eq_some_iff.mp found
      rw [kind_compose announced, identifier_compose announced]

end Key

/-- A principal is known by its kind and its name. -/
theorem Principal.ext_identifier {principal other : Principal}
    (kind : principal.kind = other.kind) (identifier : principal.identifier = other.identifier) :
    principal = other := by
  cases principal with
  | service id =>
      cases other with
      | service otherId => rw [show id = otherId from identifier]
      | user _ => cases kind
      | anonymous => cases kind
  | user id =>
      cases other with
      | service _ => cases kind
      | user otherId => rw [show id = otherId from identifier]
      | anonymous => cases kind
  | anonymous =>
      cases other with
      | service _ => cases kind
      | user _ => cases kind
      | anonymous => rfl

/-- Whom a key stands for: a principal, or whoever is at an address. -/
inductive Identity where
  | principal (who : Principal)
  | address (text : String)
  deriving DecidableEq, Repr

namespace Identity

/-- The kind of key an identity is charged under. -/
def kind : Identity → Key.Kind
  | principal who => who.kind
  | address _ => .ip

/-- The name by which an identity is told apart from others of its kind. -/
def identifier : Identity → String
  | principal who => who.identifier
  | address text => text

/-- The key an identity is charged under. -/
def key : Identity → String
  | principal who => who.key
  | address text => Key.compose .ip text

theorem kind_announced (identity : Identity) : identity.kind ∈ Key.Kind.announced := by
  cases identity with
  | principal who => exact who.kind_announced
  | address text => simp [kind, Key.Kind.announced]

theorem key_eq_compose (identity : Identity) :
    identity.key = Key.compose identity.kind identity.identifier := by
  cases identity <;> rfl

theorem kind_key (identity : Identity) : Key.kind identity.key = identity.kind := by
  rw [key_eq_compose, Key.kind_compose identity.kind_announced]

theorem identifier_key (identity : Identity) :
    Key.identifier identity.key = identity.identifier := by
  rw [key_eq_compose, Key.identifier_compose identity.kind_announced]

/-- An identity is known by its kind and its name: no principal is of the kind of
addresses. -/
theorem ext_identifier {identity other : Identity} (kind : identity.kind = other.kind)
    (identifier : identity.identifier = other.identifier) : identity = other := by
  have notAddress : ∀ who : Principal, who.kind ≠ .ip := by
    intro who
    cases who <;> simp [Principal.kind]
  cases identity with
  | principal who =>
      cases other with
      | principal otherWho => rw [Principal.ext_identifier kind identifier]
      | address _ => exact absurd kind (notAddress who)
  | address text =>
      cases other with
      | principal otherWho => exact absurd kind.symm (notAddress otherWho)
      | address otherText => rw [show text = otherText from identifier]

/-- Different identities have different keys. -/
theorem key_injective : Function.Injective key := by
  intro identity other same
  apply ext_identifier
  · rw [← identity.kind_key, same, other.kind_key]
  · rw [← identity.identifier_key, same, other.identifier_key]

/-- A request is charged under the key of an identity. -/
theorem exists_key_eq_keyBy (resolver : Resolver) (headers : Headers)
    (peer : Option SocketAddress) :
    ∃ identity : Identity, Caller.keyBy resolver headers peer = identity.key := by
  by_cases leads : Caller.LeadsWithCredential headers
  · obtain ⟨charged, keyEq⟩ := Caller.Policy.key_of_leads { resolver := resolver } leads peer
    exact ⟨.principal charged, keyEq⟩
  · exact ⟨.address _, Caller.Policy.key_of_not_leads { resolver := resolver } leads peer⟩

/-- How keys and identities go together, for every identity and every text taken as a
key. -/
structure Encoded : Prop where
  /-- No two identities share a key, whatever text they are named by. -/
  injective : Function.Injective key
  /-- The kind of an identity's key is the identity's. -/
  kind : ∀ identity : Identity, Key.kind identity.key = identity.kind
  /-- The identifier of an identity's key is the identity's name. -/
  identifier : ∀ identity : Identity, Key.identifier identity.key = identity.identifier
  /-- A key of known kind is spelled by its kind and its identifier. -/
  spelled : ∀ key : String, Key.kind key ≠ .unknown →
    (Key.kind key).name ++ ":" ++ Key.identifier key = key
  /-- The known kinds are announced, with any text behind the colon. -/
  known : ∀ key : String, Key.kind key ≠ .unknown ↔
    ∃ announced ∈ Key.Kind.announced, ∃ rest, key = announced.name ++ ":" ++ rest
  /-- A blank key is of unknown kind and names nobody. -/
  blank : ∀ key : String, Text.isBlank key = true →
    Key.kind key = .unknown ∧ Key.identifier key = "unknown"
  /-- Every other key of unknown kind names itself. -/
  whole : ∀ key : String, Text.isBlank key = false → Key.kind key = .unknown →
    Key.identifier key = key
  /-- The key that a request is charged under stands for one identity. -/
  charged : ∀ (resolver : Resolver) (headers : Headers) (peer : Option SocketAddress),
    ∃! identity : Identity, Caller.keyBy resolver headers peer = identity.key

/-- Keys encode identities without ambiguity. -/
theorem encoded : Encoded where
  injective := key_injective
  kind := kind_key
  identifier := identifier_key
  spelled _ known := Key.compose_kind_identifier known
  known key := by
    constructor
    · intro known
      refine ⟨Key.kind key, ?_, Key.identifier key, (Key.compose_kind_identifier known).symm⟩
      cases kind : Key.kind key with
      | unknown => exact absurd kind known
      | user | service | ip | auth => simp [Key.Kind.announced]
    · rintro ⟨announced, member, rest, rfl⟩
      have kind : Key.kind (announced.name ++ ":" ++ rest) = announced :=
        Key.kind_compose member rest
      rw [kind]
      rintro rfl
      exact absurd member (by decide)
  blank key blank := by
    obtain ⟨kind, identifier⟩ := Key.kind_of_silent (Key.silent_of_isBlank blank)
    rw [blank] at identifier
    exact ⟨kind, identifier⟩
  whole key filled unknown := by
    have silent : ∀ kind ∈ Key.Kind.announced, ∀ rest, key ≠ Key.compose kind rest := by
      rintro kind announced rest rfl
      rw [Key.kind_compose announced] at unknown
      subst unknown
      exact absurd announced (by decide)
    rw [(Key.kind_of_silent silent).2, filled]
    rfl
  charged resolver headers peer := by
    obtain ⟨identity, keyEq⟩ := exists_key_eq_keyBy resolver headers peer
    refine ⟨identity, keyEq, fun other otherEq => key_injective ?_⟩
    rw [← keyEq, ← otherEq]

/-- A user named after a service's key is told apart from the service, and a key of another
spelling names itself. -/
theorem encoded_of_lookalikes :
    (Identity.principal (.user "service:a")).key ≠ (Identity.principal (.service "a")).key ∧
      Key.identifier (Identity.principal (.user "service:a")).key = "service:a" ∧
      (Key.kind "auth:other").name ++ ":" ++ Key.identifier "auth:other" = "auth:other" ∧
      Key.identifier " \t" = "unknown" ∧ Key.identifier "User:a" = "User:a" := by
  refine ⟨fun same => ?_, encoded.identifier (.principal (.user "service:a")), encoded.spelled _ (by decide),
    (encoded.blank _ (by decide)).2, encoded.whole _ (by decide) (by decide)⟩
  have merged := encoded.injective same
  simp at merged

end Identity

end Turnstile
