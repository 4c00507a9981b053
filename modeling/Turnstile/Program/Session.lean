import Turnstile.Message.Connection
import Turnstile.Program

/-!
# A session of the service

What the program writes from its start to its end: the lines of the events that
its log filter lets through, and the answer to each request. A signal ends the
session; every request before it has its answer. The words of the libraries that
refuse a payload are left out of the lines.
-/

namespace Turnstile.Service

/-- The events up to the moment at which the service listens at an address. -/
def opening (service : Service) (address : String) : List Event :=
  let config := service.config
  .programStarting service.configPath config.listener.bindAddress config.timeouts.requestSeconds ::
    service.limiterEvents ++
      [.serverStarting address service.limiter.isSome config.timeouts.requestSeconds]

/-- The events from the signal on. -/
def closing (signal : Signal) : List Event :=
  [.signalReceived signal, .draining, .serverStopped, .shutdownComplete]

/-- What is left of a session: the lines of its log and its answers. -/
structure Record where
  log : List String := []
  responses : List Response := []
  deriving DecidableEq, Repr

/-- One record after another. -/
def Record.append (first second : Record) : Record :=
  ⟨first.log ++ second.log, first.responses ++ second.responses⟩

/-- Requests answered one after another, each with a fresh id at hand. -/
def answerAll {State : Type} (filter : LogFilter) (throttle : Option (Gateway.Throttle State)) :
    List (Call × String) → State → Record
  | [], _ => {}
  | (call, fresh) :: rest, state =>
      let (response, events, next) := Gateway.answer throttle fresh call.request state
      Record.append ⟨filter.lines .elided (some call.span) events, [response.closing]⟩
        (answerAll filter throttle rest next)

/-- The answers of a service to some requests, the clock standing still. -/
def serve (service : Service) (filter : LogFilter) (calls : List (Call × String)) : Record :=
  match service.limiter with
  | none => answerAll filter (none : Option (Gateway.Throttle Unit)) calls ()
  | some limiter =>
      answerAll filter (some (Gateway.throttleOf service.config TimedLimiter.charger)) calls
        ⟨0, limiter⟩

/-- A whole session at an address: some requests, then a signal. -/
def session (service : Service) (filter : LogFilter) (address : String)
    (calls : List (Call × String)) (signal : Signal) : Record :=
  Record.append ⟨filter.lines .elided none (service.opening address), []⟩
    (Record.append (service.serve filter calls) ⟨filter.lines .elided none (closing signal), []⟩)

/-- The log filter of a service and what is said of it. -/
def filterInForce (service : Service) (wanted : Option String) : LogFilter × List String :=
  LogFilter.inForce wanted service.config.observability.logLevel

end Turnstile.Service
