/-!
# Decisions

What a limiter answers about one request: an admission or a refusal, each with
the caller's limit and what is left of it. A refusal names the seconds to wait,
of which there is at least one.
-/

namespace Turnstile

/-- The answer of a limiter. -/
inductive Decision where
  | allow (limit remaining : UInt64)
  | refuse (limit remaining : UInt64) (wait : UInt64)
  deriving DecidableEq, Repr

namespace Decision

/-- A refusal with the computed wait, raised to one second if it is less. -/
def refuseFor (limit remaining wait : UInt64) : Decision :=
  .refuse limit remaining (if wait = 0 then 1 else wait)

/-- Whether the request goes through. -/
def isAdmitted : Decision → Bool
  | allow .. => true
  | refuse .. => false

/-- The capacity of the caller's bucket. -/
def limit : Decision → UInt64
  | allow limit _ => limit
  | refuse limit _ _ => limit

/-- Whole tokens left. -/
def remaining : Decision → UInt64
  | allow _ remaining => remaining
  | refuse _ remaining _ => remaining

/-- Seconds to wait, none after an admission. -/
def retryAfter : Decision → UInt64
  | allow .. => 0
  | refuse _ _ wait => wait

end Decision

end Turnstile
