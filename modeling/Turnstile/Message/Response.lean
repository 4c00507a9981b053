import Turnstile.Decision
import Turnstile.Json
import Turnstile.Message.Header

/-!
# Responses

The three answers of the gateway: the description of an admitted request, the
refusal of one over its limit, and the answer to one that no route serves.
-/

namespace Turnstile

/-- A response. -/
structure Response where
  status : Nat
  headers : Headers
  body : String
  deriving DecidableEq, Repr

namespace Response

/-- A header field of ASCII text. -/
def field (name value : String) : Header :=
  ⟨name, Header.bytesOf value⟩

/-- A header field of a number. -/
def numberField (name : String) (value : Nat) : Header :=
  field name (String.ofList (Nat.toDigits 10 value))

/-- A response with a JSON body. -/
def ofJson (status : Nat) (body : Json) : Response where
  status := status
  headers := [field "content-type" "application/json"]
  body := body.render

/-- The answer to a request that no route serves. -/
def notFound : Response where
  status := 404
  headers := []
  body := ""

/-- The refusal that a decision calls for, with the wait if there is one. -/
def refusal (decision : Decision) : Response :=
  let plain := ofJson 429 (.object [("error", .text "Rate limit exceeded")])
  let limits :=
    [numberField "x-ratelimit-limit" decision.limit.toNat,
      numberField "x-ratelimit-remaining" decision.remaining.toNat]
  let wait :=
    if decision.retryAfter = 0 then []
    else [numberField "retry-after" decision.retryAfter.toNat]
  { plain with headers := plain.headers ++ limits ++ wait }

/-- The first value of a header. -/
def header? (response : Response) (name : String) : Option (List UInt8) :=
  response.headers.first? name

/-- The response with a header, unless it has that header already. -/
def withDefault (name : String) (value : List UInt8) (response : Response) : Response :=
  match response.header? name with
  | some _ => response
  | none => { response with headers := response.headers ++ [⟨name, value⟩] }

/-- The response with the length of its body in a header. -/
def withLength (response : Response) : Response :=
  response.withDefault "content-length"
    (Header.bytesOf (String.ofList (Nat.toDigits 10 response.body.utf8ByteSize)))

/-- The response as it answers a method: a successful tunnel has neither a body
nor a length, the answer to a `HEAD` has the length of a body it leaves out. -/
def forMethod (method : String) (response : Response) : Response :=
  if method = "CONNECT" ∧ 200 ≤ response.status ∧ response.status < 300 then
    { response with body := "" }
  else
    let measured := response.withLength
    if method = "HEAD" then { measured with body := "" } else measured

end Response

end Turnstile
