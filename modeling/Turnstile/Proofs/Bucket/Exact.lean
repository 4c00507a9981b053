import Turnstile.Proofs.Bucket.Run

/-!
# Exact buckets

A bucket that counts exact fractions of a token and answers with integers of any size:
what a token bucket would be if nothing were rounded. A look at an exact bucket costs
nothing, since filling it in two steps is filling it in one (`refill_refill`).
-/

namespace Turnstile

/-- A token bucket that never rounds. -/
structure ExactBucket where
  limits : Limits
  tokens : Rat
  lastRefill : Nat

namespace ExactBucket

/-- What an exact bucket answers. -/
inductive Reply where
  | allow (limit remaining : Int)
  | refuse (limit remaining wait : Int)
  | shown (tokens : Int)
  deriving DecidableEq

/-- A full bucket. -/
def full (limits : Limits) (now : Nat) : ExactBucket where
  limits := limits
  tokens := limits.capacity.toNat
  lastRefill := now

/-- The bucket filled up to a clock reading; an earlier reading restores nothing. -/
def refill (now : Nat) (bucket : ExactBucket) : ExactBucket :=
  { bucket with
    tokens :=
      min bucket.limits.capacity.toNat
        (bucket.tokens + (now - bucket.lastRefill : Nat) * bucket.limits.refill.toNat / 1000)
    lastRefill := max bucket.lastRefill now }

/-- Seconds until one whole token is there, at least one. -/
def wait (bucket : ExactBucket) : Int :=
  max 1 ((1 - bucket.tokens) / bucket.limits.refill.toNat).ceil

/-- What a filled bucket answers to a request, with the bucket after it. -/
def take (filled : ExactBucket) : Reply × ExactBucket :=
  if 1 ≤ filled.tokens then
    (.allow filled.limits.capacity.toNat (filled.tokens - 1).floor,
      { filled with tokens := filled.tokens - 1 })
  else
    (.refuse filled.limits.capacity.toNat filled.tokens.floor filled.wait, filled)

/-- One call. -/
def call (bucket : ExactBucket) : Bucket.Call → Reply × ExactBucket
  | .consume reading => (bucket.refill reading.toNat).take
  | .available reading =>
      let filled := bucket.refill reading.toNat
      (.shown filled.tokens.floor, filled)

/-- Calls one after another, with their answers. -/
def run (bucket : ExactBucket) : List Bucket.Call → List Reply × ExactBucket
  | [] => ([], bucket)
  | call :: rest =>
      let (reply, next) := bucket.call call
      let (replies, last) := next.run rest
      (reply :: replies, last)

@[simp] theorem refill_limits (now : Nat) (bucket : ExactBucket) :
    (bucket.refill now).limits = bucket.limits := rfl

@[simp] theorem refill_lastRefill (now : Nat) (bucket : ExactBucket) :
    (bucket.refill now).lastRefill = max bucket.lastRefill now := rfl

@[simp] theorem run_cons (bucket : ExactBucket) (call : Bucket.Call) (rest : List Bucket.Call) :
    bucket.run (call :: rest) =
      ((bucket.call call).1 :: ((bucket.call call).2.run rest).1,
        ((bucket.call call).2.run rest).2) := rfl

/-- Whoever lacks a part of a token at a positive rate waits for one second. -/
theorem wait_of_lt_one {bucket : ExactBucket} (recovers : bucket.limits.refill ≠ 0)
    (nonneg : 0 ≤ bucket.tokens) : bucket.wait = 1 := by
  have rate := Binary64.one_le_toNat recovers
  apply max_eq_left
  rw [Rat.ceil_le_iff, Int.cast_one, div_le_one (by linarith)]
  linarith

/-- Filling a bucket on the way to a later reading changes nothing. -/
theorem refill_refill (bucket : ExactBucket) {first second : Nat} (order : first ≤ second) :
    (bucket.refill first).refill second = bucket.refill second := by
  have elapsed : (second - max bucket.lastRefill first : Nat) + (first - bucket.lastRefill : Nat) =
      second - bucket.lastRefill := by omega
  have last : max (max bucket.lastRefill first) second = max bucket.lastRefill second := by omega
  have later : (0 : Rat) ≤ (second - max bucket.lastRefill first : Nat) *
      bucket.limits.refill.toNat / 1000 := by positivity
  unfold refill
  simp only [last, ← elapsed, Nat.cast_add]
  rw [min_add, ← min_assoc, min_eq_left (le_add_of_nonneg_right later)]
  ring_nf

end ExactBucket

end Turnstile
