import Turnstile.Address
import Turnstile.Message.Header
import Turnstile.Principal.Resolver

/-!
# Who a request is charged to

A request with a credential is charged to the principal its token names, or to
the anonymous one; never to an address. Only a request without a credential is
charged to an address: the first that the forwarding headers name, then the peer.
-/

namespace Turnstile.Caller

/-- Text without white space around it, if anything is left. -/
def trimmed? (text : String) : Option String :=
  let inner := Text.trim text
  if inner.isEmpty then none else some inner

/-- The text of a header without white space around it, if anything is left. -/
def headerText? (headers : Headers) (name : String) : Option String :=
  (headers.text? name).bind trimmed?

/-- The characters before the first comma. -/
def beforeComma (text : String) : String :=
  String.ofList (text.toList.takeWhile (· ≠ ','))

/-- The first address that the forwarding headers name. -/
def forwardedAddress? (headers : Headers) : Option String :=
  ((headers.text? "x-forwarded-for").bind fun text => trimmed? (beforeComma text)).or
    ((headerText? headers "x-real-ip").or (headerText? headers "remote-addr"))

/-- The key of a request by its address. -/
def addressKey (headers : Headers) (peer : Option SocketAddress) : String :=
  Key.compose .ip <|
    match forwardedAddress? headers, peer with
    | some address, _ => address
    | none, some peer => peer.ip.render
    | none, none => "unknown"

/-- How a request is matched to a key. -/
structure Policy where
  resolver : Resolver
  /-- The key of a request without a credential. -/
  address : Headers → Option SocketAddress → String := addressKey

namespace Policy

/-- The key of a token, and what reading the token reports. -/
def tokenKey (policy : Policy) (token : String) : String × List Event :=
  (((policy.resolver.principal? token).getD .anonymous).key, Token.events token)

/-- The key of a credential. -/
def credentialKey (policy : Policy) (credential : String) : String × List Event :=
  match Token.ofCredential? credential with
  | some token => policy.tokenKey token
  | none => (Principal.anonymous.key, [])

/-- Whether there is a credential that is not text. -/
def hasOpaqueCredential (headers : Headers) : Bool :=
  match headers.first? "authorization" with
  | some value => (Header.text? value).isNone
  | none => false

/-- The key of a request, and what finding it reports. -/
def key (policy : Policy) (headers : Headers) (peer : Option SocketAddress) :
    String × List Event :=
  match headerText? headers "authorization" with
  | some credential => policy.credentialKey credential
  | none =>
      if hasOpaqueCredential headers then (Principal.anonymous.key, [])
      else (policy.address headers peer, [])

end Policy

end Turnstile.Caller
