import Turnstile.Proofs.Address.RoundTrip
import Turnstile.Proofs.Caller.Credential
import Turnstile.Proofs.Message.Header
import Turnstile.Proofs.Principal.Claims

/-!
# Credentials and addresses do not mix

A request is charged either by its credential or by its address, and what belongs to the
other of the two has no part in its key. `Separated` says so of every two requests, and
that the key tells by its kind and its tier which of the two it was. Nothing here depends
on which extractors a chain has, but for the last fact: extractors of an embedding program
may name a principal by blank text.
-/

namespace Turnstile

/-- The written form of an address is not blank. -/
theorem IpAddress.isBlank_render (address : IpAddress) : Text.isBlank address.render = false := by
  cases address with
  | v4 address =>
      refine Text.isBlank_of_mem (c := '.') ?_ (by decide)
      rw [toList_render]
      exact address.dot_mem_chars
  | v6 address =>
      refine Text.isBlank_of_mem (c := ':') ?_ (by decide)
      rw [toList_render]
      exact address.colon_mem_chars

namespace Caller

theorem isBlank_of_trimmed? {text inner : String} (found : trimmed? text = some inner) :
    Text.isBlank inner = false := by
  cases blank : Text.isBlank text with
  | true =>
      rw [trimmed?_of_blank blank] at found
      cases found
  | false =>
      rw [trimmed?_of_filled blank] at found
      rw [← Option.some.inj found, Text.isBlank_trim, blank]

private theorem isBlank_of_headerText? {headers : Headers} {name text : String}
    (found : headerText? headers name = some text) : Text.isBlank text = false := by
  obtain ⟨_, _, inner⟩ := Option.bind_eq_some_iff.mp found
  exact isBlank_of_trimmed? inner

/-- An address that a forwarding header names is not blank. -/
theorem isBlank_of_forwardedAddress? {headers : Headers} {address : String}
    (found : forwardedAddress? headers = some address) : Text.isBlank address = false := by
  rcases Option.or_eq_some_iff.mp found with forwarded | ⟨_, found⟩
  · obtain ⟨_, _, inner⟩ := Option.bind_eq_some_iff.mp forwarded
    exact isBlank_of_trimmed? inner
  · rcases Option.or_eq_some_iff.mp found with real | ⟨_, remote⟩
    · exact isBlank_of_headerText? real
    · exact isBlank_of_headerText? remote

/-- A key by address has something behind its kind. -/
theorem addressKey_eq_compose (headers : Headers) (peer : Option SocketAddress) :
    ∃ address, addressKey headers peer = Key.compose .ip address ∧
      Text.isBlank address = false := by
  refine ⟨_, rfl, ?_⟩
  split
  · next forwarded => exact isBlank_of_forwardedAddress? forwarded
  · exact IpAddress.isBlank_render _
  · rfl

/-- Two requests name the same address in their headers. -/
structure SameAddress (headers other : Headers) : Prop where
  forwarded : headers.first? "x-forwarded-for" = other.first? "x-forwarded-for"
  real : headers.first? "x-real-ip" = other.first? "x-real-ip"
  remote : headers.first? "remote-addr" = other.first? "remote-addr"

theorem SameAddress.addressKey_eq {headers other : Headers} (same : SameAddress headers other)
    (peer : Option SocketAddress) : addressKey headers peer = addressKey other peer := by
  simp only [addressKey, forwardedAddress?, headerText?, Headers.text?, same.forwarded, same.real,
    same.remote]

/-! ## What a credential decides -/

/-- The key of a first `authorization` value that is a credential. -/
def Policy.valueKey (policy : Policy) (value : List UInt8) : String :=
  match Header.text? value with
  | some text => (policy.credentialKey (Text.trim text)).1
  | none => Principal.anonymous.key

section

variable (policy : Policy) {headers : Headers} {value : List UInt8}

/-- A request that leads with a credential is charged by this value alone. -/
theorem Policy.key_eq_valueKey (first : headers.first? "authorization" = some value)
    (credential : Header.IsCredential value) (peer : Option SocketAddress) :
    (policy.key headers peer).1 = policy.valueKey value := by
  cases reading : Header.text? value with
  | none => rw [policy.key_of_opaque peer first reading, valueKey, reading]
  | some text =>
      rw [policy.key_of_text peer first reading (credential text reading), valueKey, reading]

end

variable {front behind gap : List UInt8}

/-- Spaces and tabs around a value are no part of it. -/
theorem valueKey_around (policy : Policy) (value : List UInt8) (gapFront : Header.IsGap front)
    (gapBehind : Header.IsGap behind) :
    policy.valueKey (front ++ value ++ behind) = policy.valueKey value := by
  obtain ⟨blankFront, textFront, whiteFront⟩ := gapFront.text?
  obtain ⟨blankBehind, textBehind, whiteBehind⟩ := gapBehind.text?
  unfold Policy.valueKey
  rw [Header.text?_append, Header.text?_append, textFront, textBehind]
  cases Header.text? value with
  | none => rfl
  | some text =>
      simp only [Option.bind_some, Option.map_some]
      rw [Text.trim_append_right whiteBehind, Text.trim_append_left whiteFront]

theorem isCredential_around {value : List UInt8} (credential : Header.IsCredential value)
    (gapFront : Header.IsGap front) (gapBehind : Header.IsGap behind) :
    Header.IsCredential (front ++ value ++ behind) := by
  obtain ⟨blankFront, textFront, whiteFront⟩ := gapFront.text?
  obtain ⟨blankBehind, textBehind, whiteBehind⟩ := gapBehind.text?
  intro whole
  rw [Header.text?_append, Header.text?_append, textFront, textBehind]
  cases reading : Header.text? value with
  | none => simp
  | some text =>
      simp only [Option.bind_some, Option.map_some, Option.mem_some_iff]
      rintro rfl
      rw [← Text.isBlank_trim, Text.trim_append_right whiteBehind,
        Text.trim_append_left whiteFront, Text.isBlank_trim]
      exact credential text reading

/-- A value with the bearer scheme is charged by the token behind it. -/
theorem valueKey_of_scheme (policy : Policy) {rest : List UInt8} {text : String}
    (gapFront : Header.IsGap front) (reading : Header.text? rest = some text) :
    policy.valueKey (front ++ (Header.bytesOf Token.scheme ++ rest)) =
      (policy.tokenKey (Text.trim text)).1 := by
  obtain ⟨blankFront, textFront, whiteFront⟩ := gapFront.text?
  unfold Policy.valueKey
  simp only [Header.text?_append, textFront, Token.text?_scheme, reading, Option.bind_some,
    Option.map_some]
  rw [Text.trim_append_left whiteFront, Policy.credentialKey_trim_scheme]

/-- Spaces and tabs between the scheme and a token are part of neither. -/
theorem valueKey_between (policy : Policy) (rest : List UInt8) (gapFront : Header.IsGap front)
    (gapBetween : Header.IsGap gap) :
    policy.valueKey (front ++ (Header.bytesOf Token.scheme ++ (gap ++ rest))) =
      policy.valueKey (front ++ (Header.bytesOf Token.scheme ++ rest)) := by
  obtain ⟨blank, textGap, white⟩ := gapBetween.text?
  cases reading : Header.text? rest with
  | none =>
      have unreadable : Header.text? (gap ++ rest) = none := by
        simp [Header.text?_append, reading, textGap]
      unfold Policy.valueKey
      rw [Header.text?_append front, Header.text?_append front, Header.text?_append _ rest,
        Header.text?_append _ (gap ++ rest), unreadable, reading]
  | some text =>
      have readable : Header.text? (gap ++ rest) = some (blank ++ text) := by
        simp [Header.text?_append, reading, textGap]
      rw [valueKey_of_scheme policy gapFront reading, valueKey_of_scheme policy gapFront readable,
        Text.trim_append_left white]

/-- A value with the bearer scheme is a credential, even without a token behind it. -/
theorem isCredential_of_scheme (rest : List UInt8) (gapFront : Header.IsGap front) :
    Header.IsCredential (front ++ (Header.bytesOf Token.scheme ++ rest)) := by
  obtain ⟨blankFront, textFront, whiteFront⟩ := gapFront.text?
  intro whole
  simp only [Header.text?_append, textFront, Token.text?_scheme, Option.bind_some]
  cases Header.text? rest with
  | none => simp
  | some text =>
      rintro ⟨rfl⟩
      refine Text.isBlank_of_mem (c := 'B') ?_ (by decide)
      simp [Token.scheme]

/-! ## Two requests -/

/-- The key of a request when addresses are looked up in the standard way. -/
def keyBy (resolver : Resolver) (headers : Headers) (peer : Option SocketAddress) : String :=
  (({ resolver := resolver } : Policy).key headers peer).1

/-- What the key of a request depends on, for every two requests under one chain of
extractors. -/
structure Separated (resolver : Resolver) : Prop where
  /-- A credential settles the key, whatever else its request holds and wherever it comes
  from. -/
  byCredential : ∀ {value : List UInt8} {headers other : Headers}
    (peer otherPeer : Option SocketAddress), Header.IsCredential value →
    headers.first? "authorization" = some value → other.first? "authorization" = some value →
    keyBy resolver headers peer = keyBy resolver other otherPeer
  /-- A token that names a principal is charged to this principal. -/
  named : ∀ {value : List UInt8} {text rest : String} {principal : Principal}
    {headers : Headers} (peer : Option SocketAddress),
    headers.first? "authorization" = some value → Header.text? value = some text →
    Text.trim text = "Bearer " ++ rest →
    resolver.principal? (Text.trim rest) = some principal →
    keyBy resolver headers peer = principal.key
  /-- Every other credential is charged to the anonymous principal. -/
  unidentified : ∀ {value : List UInt8} {headers : Headers} (peer : Option SocketAddress),
    Header.IsCredential value → headers.first? "authorization" = some value →
    (∀ text rest, Header.text? value = some text → Text.trim text = "Bearer " ++ rest →
      resolver.principal? (Text.trim rest) = none) →
    keyBy resolver headers peer = "auth:unidentified"
  /-- Spaces and tabs around a credential change nothing. -/
  around : ∀ {value front behind : List UInt8} {headers other : Headers}
    (peer otherPeer : Option SocketAddress), Header.IsCredential value →
    Header.IsGap front → Header.IsGap behind →
    headers.first? "authorization" = some value →
    other.first? "authorization" = some (front ++ value ++ behind) →
    keyBy resolver headers peer = keyBy resolver other otherPeer
  /-- Spaces and tabs between the scheme and the token change nothing. -/
  between : ∀ {front gap rest : List UInt8} {headers other : Headers}
    (peer otherPeer : Option SocketAddress), Header.IsGap front → Header.IsGap gap →
    headers.first? "authorization" = some (front ++ (Header.bytesOf "Bearer " ++ rest)) →
    other.first? "authorization" =
      some (front ++ (Header.bytesOf "Bearer " ++ (gap ++ rest))) →
    keyBy resolver headers peer = keyBy resolver other otherPeer
  /-- Without a credential in front, what the headers and the peer say of the address settles
  the key. -/
  byAddress : ∀ {headers other : Headers} (peer : Option SocketAddress),
    ¬LeadsWithCredential headers → ¬LeadsWithCredential other → SameAddress headers other →
    keyBy resolver headers peer = keyBy resolver other peer
  /-- The key of a credential is that of a principal, and authenticated. -/
  credentialKind : ∀ {headers : Headers} (peer : Option SocketAddress),
    LeadsWithCredential headers →
    Key.kind (keyBy resolver headers peer) ∈ [.service, .user, .auth] ∧
      Tier.ofKey (keyBy resolver headers peer) = .authenticated
  /-- The key of a request without one is that of an address, and unauthenticated. -/
  addressKind : ∀ {headers : Headers} (peer : Option SocketAddress),
    ¬LeadsWithCredential headers →
    Key.kind (keyBy resolver headers peer) = .ip ∧
      Tier.ofKey (keyBy resolver headers peer) = .unauthenticated
  /-- Every key is of a known kind and, under built-in extractors, names someone. -/
  known : ∀ (headers : Headers) (peer : Option SocketAddress),
    Key.kind (keyBy resolver headers peer) ≠ .unknown ∧
      ((∀ extractor ∈ resolver.chain, extractor.IsBuiltIn) →
        Text.isBlank (Key.identifier (keyBy resolver headers peer)) = false)

/-- A credential under built-in extractors is charged to a principal that has a name. -/
theorem valueKey_identified {resolver : Resolver}
    (builtIn : ∀ extractor ∈ resolver.chain, extractor.IsBuiltIn) (value : List UInt8) :
    ∃ principal : Principal,
      ({ resolver := resolver } : Policy).valueKey value = principal.key ∧
        Text.isBlank principal.identifier = false := by
  have anonymous : Text.isBlank Principal.anonymous.identifier = false := by decide
  unfold Policy.valueKey
  split
  · unfold Policy.credentialKey
    split
    · next token _ =>
        cases found : resolver.principal? token with
        | none =>
            refine ⟨.anonymous, ?_, anonymous⟩
            simp [Policy.tokenKey, found]
        | some principal =>
            refine ⟨principal, ?_, Resolver.isBlank_identifier builtIn found⟩
            simp [Policy.tokenKey, found]
    · exact ⟨.anonymous, rfl, anonymous⟩
  · exact ⟨.anonymous, rfl, anonymous⟩

/-- A credential without a token, or with one that names nobody, is charged to the
anonymous principal. -/
theorem valueKey_of_nobody {resolver : Resolver} {value : List UInt8}
    (nobody : ∀ text rest, Header.text? value = some text →
      Text.trim text = Token.scheme ++ rest → resolver.principal? (Text.trim rest) = none) :
    ({ resolver := resolver } : Policy).valueKey value = Principal.anonymous.key := by
  unfold Policy.valueKey
  split
  · next text reading =>
      unfold Policy.credentialKey
      split
      · next token found =>
          obtain ⟨rest, joined, rfl⟩ := Token.ofCredential?_eq_some_iff.mp found
          simp [Policy.tokenKey, nobody text rest reading joined]
      · rfl
  · rfl

/-- Under every chain of extractors, credentials and addresses do not mix. -/
theorem separated (resolver : Resolver) : Separated resolver where
  byCredential peer otherPeer credential first firstOther := by
    unfold keyBy
    rw [Policy.key_eq_valueKey _ first credential, Policy.key_eq_valueKey _ firstOther credential]
  named {value text rest principal headers} peer first reading joined found := by
    have filled : Text.isBlank text = false := by
      rw [← Text.isBlank_trim, joined]
      refine Text.isBlank_of_mem (c := 'B') ?_ (by decide)
      simp
    have token : Token.ofCredential? ("Bearer " ++ rest) = some (Text.trim rest) :=
      Token.ofCredential?_eq_some_iff.mpr ⟨rest, rfl, rfl⟩
    unfold keyBy
    rw [Policy.key_of_text _ peer first reading filled, joined, Policy.credentialKey, token]
    simp [Policy.tokenKey, found]
  unidentified peer credential first nobody := by
    unfold keyBy
    rw [Policy.key_eq_valueKey _ first credential]
    exact valueKey_of_nobody nobody
  around {value front behind headers other} peer otherPeer credential gapFront gapBehind first
      firstOther := by
    unfold keyBy
    rw [Policy.key_eq_valueKey _ first credential, Policy.key_eq_valueKey _ firstOther
      (isCredential_around credential gapFront gapBehind), valueKey_around _ _ gapFront gapBehind]
  between {front gap rest headers other} peer otherPeer gapFront gapBetween first firstOther := by
    unfold keyBy
    rw [Policy.key_eq_valueKey _ first (isCredential_of_scheme _ gapFront),
      Policy.key_eq_valueKey _ firstOther (isCredential_of_scheme _ gapFront)]
    exact (valueKey_between _ _ gapFront gapBetween).symm
  byAddress {headers other} peer without withoutOther same := by
    unfold keyBy
    rw [Policy.key_of_not_leads _ without, Policy.key_of_not_leads _ withoutOther]
    exact same.addressKey_eq peer
  credentialKind {headers} peer leads := by
    obtain ⟨principal, keyEq⟩ := ({ resolver := resolver } : Policy).key_of_leads leads peer
    unfold keyBy Tier.ofKey
    rw [keyEq, principal.kind_key]
    cases principal <;> simp [Principal.kind]
  addressKind {headers} peer without := by
    unfold keyBy Tier.ofKey
    rw [Policy.key_of_not_leads _ without, kind_addressKey]
    exact ⟨rfl, rfl⟩
  known headers peer := by
    by_cases leads : LeadsWithCredential headers
    · obtain ⟨value, first, credential⟩ := leads
      obtain ⟨principal, keyEq⟩ :=
        ({ resolver := resolver } : Policy).key_of_leads ⟨value, first, credential⟩ peer
      unfold keyBy
      refine ⟨?_, fun builtIn => ?_⟩
      · rw [keyEq, principal.kind_key]
        cases principal <;> simp [Principal.kind]
      · obtain ⟨named, keyEq, filled⟩ := valueKey_identified builtIn value
        rw [Policy.key_eq_valueKey _ first credential, keyEq, named.identifier_key]
        exact filled
    · have announced : Key.Kind.ip ∈ Key.Kind.announced := by decide
      obtain ⟨address, keyEq, filled⟩ := addressKey_eq_compose headers peer
      have byAddress : keyBy resolver headers peer = Key.compose .ip address :=
        (Policy.key_of_not_leads _ leads peer).trans keyEq
      rw [byAddress, Key.kind_compose announced, Key.identifier_compose announced]
      exact ⟨by simp, fun _ => filled⟩

/-- A request under the standard chain, whose token names nobody, is charged as the same
request is with more blanks in its credential and another address. -/
theorem separated_of_padded :
    let headers : Headers := [.ofName "Authorization" (Header.bytesOf "Bearer a.b.c")]
    let other : Headers :=
      [.ofName "X-Real-IP" (Header.bytesOf "10.0.0.1"),
        .ofName "Authorization" (Header.bytesOf " Bearer a.b.c\t")]
    keyBy .standard headers none = "auth:unidentified" ∧
      keyBy .standard other none = keyBy .standard headers none := by
  intro headers other
  have credential : Header.IsCredential (Header.bytesOf "Bearer a.b.c") := by decide +kernel
  have first : headers.first? "authorization" = some (Header.bytesOf "Bearer a.b.c") := by
    decide +kernel
  have nobody : ∀ text rest, Header.text? (Header.bytesOf "Bearer a.b.c") = some text →
      Text.trim text = "Bearer " ++ rest →
        Resolver.standard.principal? (Text.trim rest) = none := by
    intro text rest reading joined
    obtain rfl : "Bearer a.b.c" = text := Option.some.inj (by rw [← reading]; decide +kernel)
    have trimmed : Text.trim "Bearer a.b.c" = "Bearer " ++ "a.b.c" := by decide +kernel
    obtain rfl : "a.b.c" = rest := String.append_right_inj _ |>.mp (trimmed.symm.trans joined)
    decide +kernel
  refine ⟨(separated .standard).unidentified none credential first nobody, ?_⟩
  have firstOther : other.first? "authorization" =
      some ([32] ++ Header.bytesOf "Bearer a.b.c" ++ [9]) := by decide +kernel
  exact ((separated .standard).around none none credential (by decide) (by decide) first
    firstOther).symm

end Caller

end Turnstile
