import Turnstile.Proofs.Caller.Credential
import Turnstile.Proofs.Message.Header
import Turnstile.Proofs.Principal.Claims
import Turnstile.Proofs.Token.Grammar

/-!
# Tokens are read as they were made

An object of claims, spelled as JSON, encoded and put into any frame, is read as these
claims, without a word in the log. A frame of header text makes a token that a header
carries as it is (`Frame.IsPlain`), and a request with such a token is charged to the user
that its claims name.
-/

namespace Turnstile.Token

/-- The claims of an object in any frame are its members. -/
theorem read_object {members : List (String × Json)}
    (readable : Json.Readable Json.depthLimit (.object members)) {frame : Frame}
    (fits : frame.Fits (Json.object members).bytes) :
    read (frame.token (Json.object members).bytes) = .ok ⟨members⟩ := by
  rw [read_token fits, claimsOf_encode_eq_ok_iff]
  exact Json.ofBytes?_bytes readable

/-- A token with claims is not reported. -/
theorem events_of_read {token : String} {claims : Claims} (accepted : read token = .ok claims) :
    events token = [] := by
  rw [events, accepted]

/-! ## Tokens in a header -/

/-- Characters that a header shows as they are. -/
def IsShown (chars : List Char) : Prop :=
  Header.text? (Header.bytesOf (String.ofList chars)) = some (String.ofList chars)

instance (chars : List Char) : Decidable (IsShown chars) :=
  inferInstanceAs (Decidable (_ = _))

theorem IsShown.append {front behind : List Char} (shownFront : IsShown front)
    (shownBehind : IsShown behind) : IsShown (front ++ behind) := by
  unfold IsShown at *
  rw [String.ofList_append, Header.bytesOf_append, Header.text?_append, shownFront, shownBehind]
  rfl

theorem isShown_of_printable {chars : List Char} (printable : ∀ c ∈ chars, Header.IsPrintable c) :
    IsShown chars := by
  refine Header.text?_bytesOf fun c member => printable c ?_
  rwa [String.toList_ofList] at member

namespace Frame

/-- The segments beside the payload are header text without white space around it. -/
structure IsPlain (frame : Frame) : Prop where
  header : IsShown frame.header
  signature : IsShown frame.signature
  headerTrimmed : Text.trimChars frame.header = frame.header
  signatureTrimmed : Text.trimChars frame.signature = frame.signature

theorem isShown_payload (frame : Frame) (bytes : List UInt8) : IsShown (frame.payload bytes) := by
  refine isShown_of_printable fun c member => ?_
  rcases List.mem_append.mp member with inside | mark
  · obtain ⟨n, small, rfl⟩ := Base64url.eq_digit_of_mem_encode inside
    have printable : ∀ n < 64, Header.IsPrintable (Base64url.digit n) := by decide
    exact printable n small
  · rw [List.eq_of_mem_replicate mark]
    decide

/-- A header shows the token of a plain frame as it is. -/
theorem IsPlain.text?_token {frame : Frame} (plain : frame.IsPlain) (bytes : List UInt8) :
    Header.text? (Header.bytesOf (frame.token bytes)) = some (frame.token bytes) := by
  have dot : IsShown ['.'] := by decide
  have dots : IsShown (List.replicate frame.dots '.') := isShown_of_printable fun c member => by
    rw [List.eq_of_mem_replicate member]
    decide
  have whole : IsShown (frame.header ++ (['.'] ++ (frame.payload bytes ++ (['.'] ++
      (frame.signature ++ List.replicate frame.dots '.'))))) :=
    plain.header.append <| dot.append <| (frame.isShown_payload bytes).append <| dot.append <|
      plain.signature.append dots
  simpa [IsShown, token] using whole

/-- The token of a plain frame has no white space around it. -/
theorem IsPlain.trim_token {frame : Frame} (plain : frame.IsPlain) {bytes : List UInt8}
    (fits : frame.Fits bytes) : Text.trim (frame.token bytes) = frame.token bytes := by
  obtain ⟨first, _⟩ := Text.trimChars_eq_self_iff.mp plain.headerTrimmed
  obtain ⟨_, last⟩ := Text.trimChars_eq_self_iff.mp plain.signatureTrimmed
  have dot : Text.isWhiteSpace '.' = false := by decide
  rw [Text.trim, token, String.toList_ofList, Text.trimChars_eq_self_iff.mpr ⟨?_, ?_⟩]
  · intro c member
    rw [List.append_assoc, List.append_assoc, List.head?_append, Option.mem_def,
      Option.or_eq_some_iff] at member
    rcases member with own | ⟨_, behind⟩
    · exact first c own
    · obtain rfl : '.' = c := Option.some.inj behind
      exact dot
  · intro c member
    rw [List.getLast?_append, Option.mem_def, Option.or_eq_some_iff] at member
    rcases member with behind | ⟨_, signed⟩
    · rwa [List.eq_of_mem_replicate (List.mem_of_getLast? behind)]
    · rw [List.getLast?_append, List.getLast?_cons_of_ne_nil fits.signed,
        Option.or_of_isSome (by simpa using fits.signed)] at signed
      exact last c signed

end Frame

/-- An object of claims is read back from its token, whatever the frame, and a request that
brings the token in a plain frame is charged to the user whom a single claim names. -/
theorem read_object_of_request {members : List (String × Json)}
    (readable : Json.Readable Json.depthLimit (.object members)) {frame : Frame}
    (fits : frame.Fits (Json.object members).bytes) :
    let token := frame.token (Json.object members).bytes
    (read token = .ok ⟨members⟩ ∧ events token = []) ∧
      ∀ (settings : Config.KeyResolution) (name user : String), frame.IsPlain →
        (Claims.mk members).NamesOnly name user → name ∈ settings.userClaims →
        settings.serviceClaim ≠ name → ∀ (headers : Headers) (peer : Option SocketAddress),
        headers.first? "authorization" = some (Header.bytesOf ("Bearer " ++ token)) →
        ({ resolver := settings.resolver } : Caller.Policy).key headers peer =
          ("user:" ++ user, []) := by
  intro token
  have accepted := read_object readable fits
  refine ⟨⟨accepted, events_of_read accepted⟩, ?_⟩
  intro settings name user plain only listed differs headers peer first
  have shown : Header.text? (Header.bytesOf ("Bearer " ++ token)) = some (scheme ++ token) := by
    rw [Header.bytesOf_append, Header.text?_append, plain.text?_token]
    rfl
  have filled : Text.isBlank (scheme ++ token) = false := by
    refine Text.isBlank_of_mem (c := 'B') ?_ (by decide)
    simp [scheme]
  have found : settings.resolver.principal? token = some (.user user) := by
    rw [Resolver.principal?, accepted]
    exact settings.find?_eq_user only listed differs
  rw [Caller.Policy.key_of_text _ peer first shown filled,
    Caller.Policy.credentialKey_trim_scheme, plain.trim_token fits, Caller.Policy.tokenKey, found,
    events_of_read accepted]
  rfl

/-- The token of a claim with a quotation mark and a character beyond the first plane, with one
of the two marks of its padding. -/
theorem read_object_of_request_quoted :
    let members : List (String × Json) := [("sub", .text "\"𝄞")]
    let frame : Frame := ⟨['h'], ['s', '='], 1, 0⟩
    let token := frame.token (Json.object members).bytes
    let headers : Headers := [⟨"authorization", Header.bytesOf ("Bearer " ++ token)⟩]
    token = "h.eyJzdWIiOiJcIvCdhJ4ifQ=.s=" ∧ read token = .ok ⟨members⟩ ∧ events token = [] ∧
      ({ resolver := .standard } : Caller.Policy).key headers none = ("user:\"𝄞", []) := by
  intro members frame token headers
  have readable : Json.Readable Json.depthLimit (.object members) := by
    refine .object (by decide) fun member inside => ?_
    rw [List.mem_singleton.mp inside]
    exact .text
  have spelled : token = "h.eyJzdWIiOiJcIvCdhJ4ifQ=.s=" := by decide +kernel
  have fits : frame.Fits (Json.object members).bytes :=
    ⟨by decide, by decide, by decide, by decide +kernel⟩
  have plain : frame.IsPlain := ⟨by decide, by decide, by decide, by decide⟩
  have only : (Claims.mk members).NamesOnly "sub" "\"𝄞" :=
    ⟨by decide, by simp [members], by decide, by simp [members]⟩
  obtain ⟨⟨accepted, silent⟩, request⟩ := read_object_of_request readable fits
  exact ⟨spelled, accepted, silent,
    request {} "sub" "\"𝄞" plain only (by decide) (by decide) headers none rfl⟩

end Turnstile.Token
