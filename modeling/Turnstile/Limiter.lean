import Std.Data.TreeMap
import Turnstile.Bucket
import Turnstile.Event

/-!
# The limiter

One bucket for every key met so far, each with the limits of the key's tier. A
bucket is made full at the clock reading of the key's first request.
-/

namespace Turnstile

/-- The tiers and the buckets made so far. -/
structure Limiter where
  tiers : Tiers
  buckets : Std.TreeMap String Bucket

namespace Limiter

/-- A limiter that has met no key. -/
def ofTiers (tiers : Tiers) : Limiter where
  tiers := tiers
  buckets := ∅

/-- The number of keys met so far. -/
def size (limiter : Limiter) : Nat :=
  limiter.buckets.size

/-- Forget every key. -/
def clear (limiter : Limiter) : Limiter :=
  { limiter with buckets := ∅ }

/-- The bucket of a key, if it has been met. -/
def bucket? (limiter : Limiter) (key : String) : Option Bucket :=
  limiter.buckets[key]?

/-- The full bucket a key gets when it is met. -/
def newBucket (limiter : Limiter) (key : String) (now : UInt64) : Bucket :=
  .full (limiter.tiers.limitsFor key) now

/-- The limiter with another bucket for a key. -/
def setBucket (limiter : Limiter) (key : String) (bucket : Bucket) : Limiter :=
  { limiter with buckets := limiter.buckets.insert key bucket }

/-- The bucket a request on a key meets, and what is reported if it is a new one. -/
def meet (limiter : Limiter) (key : String) (now : UInt64) : Bucket × List Event :=
  match limiter.bucket? key with
  | some bucket => (bucket, [])
  | none =>
      (limiter.newBucket key now,
        [.bucketCreated (Key.kind key) (limiter.tiers.limitsFor key)])

/-- Charge one request to a key at a clock reading. -/
def consume (limiter : Limiter) (key : String) (now : UInt64) :
    Decision × List Event × Limiter :=
  let (bucket, events) := limiter.meet key now
  let (decision, bucket) := bucket.consume now
  (decision, events, limiter.setBucket key bucket)

end Limiter

end Turnstile
