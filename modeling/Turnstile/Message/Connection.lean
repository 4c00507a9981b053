import Turnstile.Address.Reader
import Turnstile.Event.Line
import Turnstile.Message.Request
import Turnstile.Message.Response

/-!
# Requests on a connection

A connection carries one request and its answer and is then closed. The request
is known by its method and the text of its target, from the host itself.
-/

namespace Turnstile

/-- A request as it comes in. -/
structure Call where
  method : String
  uri : String
  headers : Headers
  deriving DecidableEq, Repr

namespace Call

/-- The near end of every connection. -/
def peer : SocketAddress := .v4 ⟨127, 0, 0, 1⟩ 0

/-- The headers that a connection of one request adds. -/
def connectionHeaders : Headers :=
  [Response.field "host" "localhost", Response.field "connection" "close"]

/-- The request of a call. -/
def request (call : Call) : Request where
  method := call.method
  target := .ofString call.uri
  headers := call.headers ++ connectionHeaders
  peer := some peer

/-- The span of a call. -/
def span (call : Call) : Span := ⟨call.method, call.uri⟩

end Call

namespace Response

/-- The first line of a response. -/
def statusLine (response : Response) : String :=
  let reason :=
    if response.status = 200 then "OK"
    else if response.status = 404 then "Not Found"
    else "Too Many Requests"
  "HTTP/1.1 " ++ String.ofList (Nat.toDigits 10 response.status) ++ " " ++ reason

/-- The response that is the last one on its connection. -/
def closing (response : Response) : Response :=
  response.withDefault "connection" (Header.bytesOf "close")

end Response

end Turnstile
