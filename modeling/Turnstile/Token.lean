import Turnstile.Base64url
import Turnstile.Claims
import Turnstile.Event
import Turnstile.Json.Reader

/-!
# Bearer tokens

A token is `header.payload.signature`. Its payload is base64 of a JSON object,
the claims; neither header nor signature is looked at. Each way in which a token
fails to be read is a cause of its own, and the cause alone decides what is
reported.
-/

namespace Turnstile.Token

/-- The scheme that announces a token in a credential. -/
def scheme : String := "Bearer "

/-- The text after the scheme of a credential. -/
def afterScheme? (credential : String) : Option String :=
  (scheme.toList.isPrefixOf? credential.toList).map String.ofList

/-- Whether a credential announces a token. -/
def isBearer (credential : String) : Bool :=
  (afterScheme? credential).isSome

/-- The token of a credential, without white space around it. -/
def ofCredential? (credential : String) : Option String :=
  (afterScheme? credential).map Text.trim

/-- Why a token has no claims. -/
inductive Failure where
  | blank
  | shape (segments : Nat)
  | encoding
  | notObject
  | malformed
  deriving DecidableEq, Repr

/-- What is reported of a failure; nothing of a blank token. -/
def Failure.events : Failure → List Event
  | blank => []
  | shape segments => [.tokenShape segments]
  | encoding => [.payloadEncoding]
  | notObject => [.payloadNotObject]
  | malformed => [.payloadSyntax]

/-- The texts between the dots of a text. -/
def splitDots : List Char → List (List Char)
  | [] => [[]]
  | c :: rest =>
      if c = '.' then [] :: splitDots rest
      else
        match splitDots rest with
        | [] => [[c]]
        | first :: others => (c :: first) :: others

/-- The segments of a token; empty ones at its end do not count. -/
def segments (token : String) : List (List Char) :=
  ((splitDots token.toList).reverse.dropWhile List.isEmpty).reverse

/-- The claims in a payload segment. -/
def claimsOf (payload : List Char) : Except Failure Claims :=
  match Base64url.decode? (Base64url.pad (String.ofList payload)).toList with
  | none => .error .encoding
  | some bytes =>
      match Json.ofBytes? bytes with
      | some (.object members) => .ok ⟨members⟩
      | some _ => .error .notObject
      | none => .error .malformed

/-- The claims of a token. -/
def read (token : String) : Except Failure Claims :=
  if Text.isBlank token then .error .blank
  else
    match segments token with
    | [_, payload, _] => claimsOf payload
    | others => .error (.shape others.length)

/-- What reading a token reports. -/
def events (token : String) : List Event :=
  match read token with
  | .ok _ => []
  | .error failure => failure.events

end Turnstile.Token
