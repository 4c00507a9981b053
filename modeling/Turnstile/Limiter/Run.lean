import Turnstile.Limiter

/-!
# Runs of a limiter

A limiter beside a clock, and what may happen to the two: the clock moves, a key
is charged at its reading, or the keys are forgotten. The clock stands still
within one charge.
-/

namespace Turnstile

/-- A clock reading later by some milliseconds, at most the greatest one. -/
def laterBy (now elapsed : UInt64) : UInt64 :=
  let sum := now.toNat + elapsed.toNat
  if sum < 18446744073709551616 then UInt64.ofNat sum else 18446744073709551615

/-- A limiter and the clock it is read with. -/
structure TimedLimiter where
  now : UInt64
  limiter : Limiter

namespace TimedLimiter

/-- What may happen to a limiter and its clock. -/
inductive Action where
  | advance (elapsed : UInt64)
  | set (reading : UInt64)
  | consume (key : String)
  | clear
  deriving DecidableEq, Repr

/-- What an action answers. -/
inductive Answer where
  | reading (now : UInt64)
  | charged (decision : Decision) (events : List Event) (size : Nat)
  | cleared (size : Nat)

/-- One action. -/
def step (timed : TimedLimiter) : Action → Answer × TimedLimiter
  | .advance elapsed =>
      let now := laterBy timed.now elapsed
      (.reading now, { timed with now := now })
  | .set reading => (.reading reading, { timed with now := reading })
  | .consume key =>
      let (decision, events, limiter) := timed.limiter.consume key timed.now
      (.charged decision events limiter.size, { timed with limiter := limiter })
  | .clear =>
      let limiter := timed.limiter.clear
      (.cleared limiter.size, { timed with limiter := limiter })

/-- Actions one after another, with their answers. -/
def run (timed : TimedLimiter) : List Action → List Answer × TimedLimiter
  | [] => ([], timed)
  | action :: rest =>
      let (answer, next) := timed.step action
      let (answers, last) := next.run rest
      (answer :: answers, last)

end TimedLimiter

end Turnstile
