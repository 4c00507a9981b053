import Turnstile.Tier

/-!
# Events

What the gateway reports of its work. An event is a value; its level, its wording
and the fields that the gateway fills itself are functions of it. Two events have
a field more, with the words in which a library refused the payload of a token:
the gateway passes these on as they are, so they are given beside the event.
Tokens and identities are no part of any event but the refusal, which shows the
identifier of the refused key.
-/

namespace Turnstile

/-- How urgent an event is, the most urgent first. -/
inductive Level where
  | error
  | warn
  | info
  | debug
  | trace
  deriving DecidableEq, Repr

namespace Level

/-- The written name of a level. -/
def name : Level → String
  | error => "ERROR"
  | warn => "WARN"
  | info => "INFO"
  | debug => "DEBUG"
  | trace => "TRACE"

/-- The rank of a level: a filter that admits a rank admits every lesser one. -/
def rank : Level → Nat
  | error => 1
  | warn => 2
  | info => 3
  | debug => 4
  | trace => 5

/-- The levels, the most urgent first. -/
def all : List Level := [error, warn, info, debug, trace]

end Level

/-- The operating system signals that end the service. -/
inductive Signal where
  | interrupt
  | terminate
  deriving DecidableEq, Repr

/-- The written name of a signal. -/
def Signal.name : Signal → String
  | interrupt => "SIGINT"
  | terminate => "SIGTERM"

/-- The value of one field of an event. -/
inductive FieldValue where
  | number (value : Nat)
  | flag (value : Bool)
  /-- Text shown as it is. -/
  | plain (value : String)
  /-- Text shown in quotation marks. -/
  | quoted (value : String)
  /-- Text that may be absent. -/
  | optional (value : Option String)
  deriving DecidableEq, Repr

/-- The libraries that read the payload of a token. -/
inductive Decoder where
  | base64
  | json
  deriving DecidableEq, Repr

/-- What each library says of a payload that it refuses. -/
abbrev Complaints := Decoder → String

/-- The words of the libraries, left out. -/
def Complaints.elided : Complaints := fun _ => "..."

/-- One event of the gateway. -/
inductive Event where
  /-- A token has another number of segments than three. -/
  | tokenShape (segments : Nat)
  /-- The payload of a token is no base64. Why not is in the words of the decoder. -/
  | payloadEncoding
  /-- The payload of a token is JSON of another kind than an object. -/
  | payloadNotObject
  /-- The payload of a token is no JSON. Why not is in the words of the reader. -/
  | payloadSyntax
  /-- A key is met for the first time. -/
  | bucketCreated (kind : Key.Kind) (limits : Limits)
  /-- A key had a token left. -/
  | checkPassed (kind : Key.Kind) (remaining : UInt64)
  /-- A key had no token left. -/
  | limitExceeded (requestId : String) (kind : Key.Kind) (identifier : String)
      (limit remaining : UInt64)
  /-- A request reached its handler. -/
  | requestAdmitted (requestId method path : String)
  /-- Both tiers are configured. -/
  | limitingEnabled (authenticated unauthenticated : Limits)
  /-- Some of the settings of the tiers are missing. -/
  | limitingIncomplete
  /-- All settings of the tiers are missing. -/
  | limitingAbsent
  /-- The program starts with this configuration. -/
  | programStarting (configPath : Option String) (bindAddress : String) (requestSeconds : UInt64)
  /-- The server listens. -/
  | serverStarting (address : String) (throttling : Bool) (requestSeconds : UInt64)
  /-- A signal asks the program to end. -/
  | signalReceived (signal : Signal)
  /-- The server takes no more connections. -/
  | draining
  /-- The last connection is closed. -/
  | serverStopped
  /-- The program is done. -/
  | shutdownComplete
  deriving DecidableEq, Repr

namespace Event

/-- The level of an event. -/
def level : Event → Level
  | tokenShape .. | payloadEncoding | payloadNotObject | payloadSyntax => .debug
  | bucketCreated .. => .debug
  | checkPassed .. => .trace
  | limitExceeded .. => .warn
  | requestAdmitted .. => .debug
  | limitingEnabled .. => .info
  | limitingIncomplete => .warn
  | limitingAbsent => .info
  | programStarting .. | serverStarting .. | signalReceived .. => .info
  | draining | serverStopped | shutdownComplete => .info

/-- The wording of an event. -/
def message : Event → String
  | tokenShape .. => "token does not have three segments"
  | payloadEncoding => "unable to decode token payload"
  | payloadNotObject => "token payload is not a JSON object"
  | payloadSyntax => "unable to parse token payload"
  | bucketCreated .. => "Creating rate limit bucket"
  | checkPassed .. => "Rate limit check passed"
  | limitExceeded .. => "Rate limit exceeded"
  | requestAdmitted .. => "Request admitted"
  | limitingEnabled .. => "Rate limiting enabled"
  | limitingIncomplete => "Rate limit settings incomplete; requests will not be throttled"
  | limitingAbsent => "Rate limiting not configured; requests will not be throttled"
  | programStarting .. => "request-throttle starting"
  | serverStarting .. => "HTTP server starting"
  | signalReceived .. => "Signal received"
  | draining => "Shutdown signal received, draining connections"
  | serverStopped => "HTTP server stopped"
  | shutdownComplete => "Shutdown complete"

/-- The version the program reports. -/
def version : String := "0.1.0"

/-- The library whose words an event passes on. -/
def decoder? : Event → Option Decoder
  | payloadEncoding => some .base64
  | payloadSyntax => some .json
  | _ => none

/-- The fields of an event that the gateway fills itself, in the order in which a log line shows
them. -/
def fields : Event → List (String × FieldValue)
  | tokenShape segments => [("segments", .number segments)]
  | payloadEncoding | payloadNotObject | payloadSyntax => []
  | bucketCreated kind limits =>
      [("key_type", .plain kind.name), ("capacity", .number limits.capacity.toNat),
        ("refill_per_second", .number limits.refill.toNat)]
  | checkPassed kind remaining =>
      [("key_type", .plain kind.name), ("remaining", .number remaining.toNat)]
  | limitExceeded requestId kind identifier limit remaining =>
      [("request_id", .quoted requestId), ("key_type", .plain kind.name),
        ("identifier", .plain identifier), ("limit", .number limit.toNat),
        ("remaining", .number remaining.toNat)]
  | requestAdmitted requestId method path =>
      [("request_id", .quoted requestId), ("method", .plain method), ("path", .plain path)]
  | limitingEnabled authenticated unauthenticated =>
      [("authenticated_capacity", .number authenticated.capacity.toNat),
        ("authenticated_refill", .number authenticated.refill.toNat),
        ("unauthenticated_capacity", .number unauthenticated.capacity.toNat),
        ("unauthenticated_refill", .number unauthenticated.refill.toNat)]
  | limitingIncomplete | limitingAbsent => []
  | programStarting configPath bindAddress requestSeconds =>
      [("version", .quoted version), ("config", .optional configPath),
        ("bind_address", .plain bindAddress),
        ("request_timeout_secs", .number requestSeconds.toNat)]
  | serverStarting address throttling requestSeconds =>
      [("address", .plain address), ("throttling", .flag throttling),
        ("request_timeout_secs", .number requestSeconds.toNat)]
  | signalReceived signal => [("signal", .quoted signal.name)]
  | draining | serverStopped | shutdownComplete => []

/-- All fields of an event, in the order in which a log line shows them: the words of a library
come before the others. -/
def shownFields (complaints : Complaints) (event : Event) : List (String × FieldValue) :=
  match event.decoder? with
  | some decoder => ("error", .plain (complaints decoder)) :: event.fields
  | none => event.fields

/-- The names of the fields of an event; they do not depend on what a library says. -/
def fieldNames (event : Event) : List String :=
  (event.shownFields .elided).map Prod.fst

/-- The part of the program that reports an event, as a log line names it. -/
def target : Event → String
  | tokenShape .. | payloadEncoding | payloadNotObject | payloadSyntax =>
      "request_throttle::security::token"
  | bucketCreated .. => "request_throttle::throttle::limiter"
  | checkPassed .. | limitExceeded .. | limitingEnabled .. | limitingIncomplete
  | limitingAbsent => "request_throttle::http::middleware::rate_limit"
  | requestAdmitted .. | serverStarting .. | draining | serverStopped =>
      "request_throttle::http::server"
  | programStarting .. | shutdownComplete => "request_throttle"
  | signalReceived .. => "request_throttle::lifecycle::signals"

end Event

end Turnstile
