import Turnstile.Address
import Turnstile.Message.Header
import Turnstile.Message.Target

/-!
# Requests

A request as the gateway sees it. Its id is the one assigned to it on arrival
or, before that, the one its sender gave it; it counts as text only if all its
bytes are visible.
-/

namespace Turnstile

/-- A request. -/
structure Request where
  method : String
  target : Target
  headers : Headers
  /-- The sender's end of the connection, if it is known. -/
  peer : Option SocketAddress
  /-- The id assigned on arrival. -/
  assignedId : Option (List UInt8) := none
  deriving DecidableEq, Repr

namespace Request

/-- The header that carries the id of a request. -/
def idHeader : String := "x-request-id"

/-- The id the sender gave a request. -/
def sentId? (request : Request) : Option (List UInt8) :=
  request.headers.first? idHeader

/-- The id of a request as text. -/
def id? (request : Request) : Option String :=
  (request.assignedId.or request.sentId?).bind Header.text?

/-- The id of a request as an event shows it. -/
def shownId (request : Request) : String :=
  request.id?.getD "-"

/-- The request with an id: the one its sender gave it, or else a fresh one that
is put in its header too. -/
def assignId (fresh : String) (request : Request) : Request :=
  match request.sentId? with
  | some sent => { request with assignedId := some (request.assignedId.getD sent) }
  | none =>
      let id := Header.bytesOf fresh
      { request with
        headers := request.headers ++ [Header.ofName idHeader id]
        assignedId := some id }

end Request

end Turnstile
