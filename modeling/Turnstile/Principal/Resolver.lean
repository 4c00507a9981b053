import Turnstile.Principal
import Turnstile.Token

/-!
# From claims to principals

An extractor looks for one kind of principal in the claims. A chain of
extractors answers with the first that finds one, and that order is the order of
precedence.
-/

namespace Turnstile

/-- A rule that reads a principal out of claims. -/
inductive Extractor where
  /-- A service, named by one claim. -/
  | service (claim : String)
  /-- A user, named by the first of several claims that is text. -/
  | user (claims : List String)
  /-- A rule that an embedding program brings along. -/
  | custom (rule : Claims → Option Principal)

namespace Extractor

/-- The claim that names a service unless configured otherwise. -/
def defaultServiceClaim : String := "custom:service_id"

/-- The claims that name a user unless configured otherwise. -/
def defaultUserClaims : List String :=
  ["cognito:username", "email", "preferred_username", "username", "sub"]

/-- The principal that an extractor finds. -/
def find? (claims : Claims) : Extractor → Option Principal
  | service claim => (claims.text? claim).map .service
  | user names => (names.findSome? claims.text?).map .user
  | custom rule => rule claims

end Extractor

/-- Which kind of claim wins when a token has both. -/
inductive Precedence where
  | serviceFirst
  | userFirst
  deriving DecidableEq, Repr

/-- Extractors in the order in which they are asked. -/
structure Resolver where
  chain : List Extractor

namespace Resolver

/-- The chain of one service claim and several user claims. -/
def ofClaims (serviceClaim : String) (userClaims : List String) : Precedence → Resolver
  | .serviceFirst => ⟨[.service serviceClaim, .user userClaims]⟩
  | .userFirst => ⟨[.user userClaims, .service serviceClaim]⟩

/-- The chain of the default claims, services first. -/
def standard : Resolver :=
  ofClaims Extractor.defaultServiceClaim Extractor.defaultUserClaims .serviceFirst

/-- The first principal that the chain finds. -/
def find? (resolver : Resolver) (claims : Claims) : Option Principal :=
  resolver.chain.findSome? (·.find? claims)

/-- The principal of a token. -/
def principal? (resolver : Resolver) (token : String) : Option Principal :=
  match Token.read token with
  | .ok claims => resolver.find? claims
  | .error _ => none

/-- The service that a token names. -/
def serviceId? (resolver : Resolver) (token : String) : Option String :=
  match resolver.principal? token with
  | some (.service id) => some id
  | _ => none

/-- The user that a token names. -/
def userId? (resolver : Resolver) (token : String) : Option String :=
  match resolver.principal? token with
  | some (.user id) => some id
  | _ => none

/-- Whether a token names a service. -/
def namesService (resolver : Resolver) (token : String) : Bool :=
  (resolver.serviceId? token).isSome

end Resolver

end Turnstile
