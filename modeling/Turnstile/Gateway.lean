import Turnstile.Caller
import Turnstile.Limiter.Run
import Turnstile.Message.Request
import Turnstile.Message.Response

/-!
# The gateway

A request passes through layers on its way to the handler: it gets an id, its
answer gets the same id, and it is charged before any route is looked at. A
refused request goes no further. The limiter is any machine that charges keys.
-/

namespace Turnstile

/-- A machine that decides about keys. -/
structure Charger (State : Type) where
  charge : String → State → Decision × List Event × State

/-- The charger of a limiter beside its clock. -/
def TimedLimiter.charger : Charger TimedLimiter where
  charge key timed :=
    let (decision, events, limiter) := timed.limiter.consume key timed.now
    (decision, events, { timed with limiter := limiter })

/-- The charger that gives decisions in turn, the last of them for ever. -/
def Charger.scripted : Charger (List Decision) where
  charge _ decisions :=
    match decisions with
    | [] => (.allow 0 0, [], [])
    | [last] => (last, [], [last])
    | first :: rest => (first, [], rest)

namespace Gateway

/-- How requests are limited. -/
structure Throttle (State : Type) where
  policy : Caller.Policy
  charger : Charger State

/-- What a charge leaves with an admitted request. -/
structure Charge where
  key : String
  decision : Decision
  deriving DecidableEq, Repr

/-- The description of a charge. -/
def Charge.describe (charge : Charge) : Json :=
  .object [("key", .text charge.key), ("limit", .integer charge.decision.limit.toNat),
    ("remaining", .integer charge.decision.remaining.toNat)]

/-- The handler of every route: it describes the request. -/
def describe (request : Request) (charge : Option Charge) : Response × List Event :=
  let path := request.target.shownPath
  let body : Json :=
    .object
      [("method", .text request.method), ("path", .text path),
        ("rate_limit", match charge with
          | some charge => charge.describe
          | none => .null),
        ("request_id", match request.id? with
          | some id => .text id
          | none => .null),
        ("status", .text "ok")]
  (.ofJson 200 body, [.requestAdmitted request.shownId request.method path])

/-- The routes. -/
def route (request : Request) (charge : Option Charge) : Response × List Event :=
  if request.target.isRouted then describe request charge else (.notFound, [])

/-- The answer to a charged request: on to the routes, or a refusal. -/
def decide (request : Request) (key : String) (decision : Decision) : Response × List Event :=
  let kind := Key.kind key
  if decision.isAdmitted then
    let (response, events) := route request (some ⟨key, decision⟩)
    (response, .checkPassed kind decision.remaining :: events)
  else
    (.refusal decision,
      [.limitExceeded request.shownId kind (Key.display key) decision.limit decision.remaining])

/-- Charge a request and answer it; without a throttle, answer it uncharged. -/
def limit {State : Type} (throttle : Option (Throttle State)) (request : Request)
    (state : State) : Response × List Event × State :=
  match throttle with
  | none =>
      let (response, events) := route request none
      (response, events, state)
  | some throttle =>
      let (key, keyEvents) := throttle.policy.key request.headers request.peer
      let (decision, chargeEvents, next) := throttle.charger.charge key state
      let (response, events) := decide request key decision
      (response, keyEvents ++ chargeEvents ++ events, next)

/-- The answer to a request with the id of the request in its header. -/
def identify (request : Request) (response : Response) : Response :=
  match request.sentId? with
  | some id => response.withDefault Request.idHeader id
  | none => response

/-- Answer a request, with a fresh id for one that has none. -/
def answer {State : Type} (throttle : Option (Throttle State)) (fresh : String)
    (request : Request) (state : State) : Response × List Event × State :=
  let request := request.assignId fresh
  let (response, events, next) := limit throttle request state
  ((identify request response).forMethod request.method, events, next)

end Gateway

end Turnstile
