import Turnstile.Binary64
import Turnstile.Decision
import Turnstile.Tier

/-!
# Token buckets

A bucket holds a binary64 count of tokens that grows with time up to its
capacity. Every look at a bucket first refills it up to the reading of the
clock; a reading that is not later than the last refill restores nothing.
-/

namespace Turnstile

/-- A token bucket and the clock reading, in milliseconds, up to which it is filled. -/
structure Bucket where
  limits : Limits
  tokens : Binary64
  lastRefill : UInt64
  deriving DecidableEq, Repr

namespace Bucket

/-- A full bucket. -/
def full (limits : Limits) (now : UInt64) : Bucket where
  limits := limits
  tokens := .ofUInt64 limits.capacity
  lastRefill := now

/-- Tokens restored over a number of milliseconds. -/
def restored (limits : Limits) (elapsed : UInt64) : Binary64 :=
  Binary64.ofUInt64 elapsed / .ofNat 1000 * .ofUInt64 limits.refill

/-- The bucket filled up to a clock reading. -/
def refill (now : UInt64) (bucket : Bucket) : Bucket :=
  if now ≤ bucket.lastRefill then bucket
  else
    { bucket with
      tokens :=
        (bucket.tokens + restored bucket.limits (now - bucket.lastRefill)).lesser
          (.ofUInt64 bucket.limits.capacity)
      lastRefill := now }

/-- Whole tokens at a clock reading, with the bucket after the look. -/
def available (now : UInt64) (bucket : Bucket) : UInt64 × Bucket :=
  let filled := bucket.refill now
  (filled.tokens.floorUInt64, filled)

/-- Seconds until one whole token is there. -/
def wait (bucket : Bucket) : UInt64 :=
  ((Binary64.ofNat 1 - bucket.tokens) / .ofUInt64 bucket.limits.refill).ceilUInt64

/-- Take one token at a clock reading if a whole one is there. -/
def consume (now : UInt64) (bucket : Bucket) : Decision × Bucket :=
  let filled := bucket.refill now
  let capacity := filled.limits.capacity
  if (Binary64.ofNat 1).le filled.tokens then
    let left := filled.tokens - .ofNat 1
    (.allow capacity left.floorUInt64, { filled with tokens := left })
  else
    (.refuseFor capacity filled.tokens.floorUInt64 filled.wait, filled)

end Bucket

end Turnstile
