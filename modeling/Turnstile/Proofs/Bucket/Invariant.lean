import Turnstile.Proofs.Bucket.Idle

/-!
# What is true of every bucket

Whatever its limits are, zero included, and at whatever readings it is called, a bucket keeps its
limits, a count between nothing and its capacity, and the latest reading as its last refill. Each
of these is kept by one call (`Holds.call`, `call_limits`, `call_lastRefill`) and so by any number
of them; and a call that takes no token changes nothing unless it comes with a later reading.
-/

namespace Turnstile.Bucket

open Binary64

/-- What is true of a bucket that was made full at a clock reading and then called. -/
structure Kept (limits : Limits) (start : UInt64) (calls : List Call) (bucket : Bucket) :
    Prop where
  /-- The count is a number, and one of the binary64 grid. -/
  count : ∃ tokens, bucket.tokens = .finite tokens ∧ Representable tokens
  /-- The count is not negative. -/
  nonneg : (Binary64.ofNat 0).le bucket.tokens = true
  /-- The count is at most the capacity, rounded to the grid. -/
  le_capacity : bucket.tokens.le (.ofUInt64 limits.capacity) = true
  /-- The last refill is the latest of all readings, that of the start included. -/
  lastRefill : bucket.lastRefill.toNat = max start.toNat (latest calls)
  limits : bucket.limits = limits
  /-- A refused request and a look, at a reading that is not later than the last refill, change
  nothing at all. -/
  idle : ∀ call : Call, call.reading ≤ bucket.lastRefill →
    (bucket.call call).1.isAdmission = false → (bucket.call call).2 = bucket

variable {bucket : Bucket} {tokens : Rat} {limits : Limits} {start : UInt64} {calls : List Call}

/-- A reading that is not later than the last refill restores nothing. -/
theorem refill_of_stale {now : UInt64} (stale : now ≤ bucket.lastRefill) :
    bucket.refill now = bucket :=
  if_pos stale

theorem Holds.kept (holds : bucket.Holds tokens) (limitsEq : bucket.limits = limits)
    (lastRefill : bucket.lastRefill.toNat = max start.toNat (latest calls)) :
    Kept limits start calls bucket where
  count := ⟨tokens, holds.count, holds.representable⟩
  nonneg := by
    have zero : nearest (0 : Nat) = 0 := by rw [Nat.cast_zero, nearest_zero]
    rw [holds.count, ofNat_eq_finite (by norm_num), zero, le_finite_iff]
    exact holds.nonneg
  le_capacity := by
    rw [holds.count, ofUInt64_eq_finite, le_finite_iff, ← limitsEq]
    exact holds.le_brim
  lastRefill := lastRefill
  limits := limitsEq
  idle call stale refused := by rw [call_of_idle refused, refill_of_stale stale]

/-- All this is true after any calls. -/
theorem run_kept (limits : Limits) (start : UInt64) (calls : List Call) :
    Kept limits start calls ((full limits start).run calls).2 := by
  obtain ⟨tokens, holds⟩ := (Holds.full limits start).run calls
  exact holds.kept (run_limits _ calls) (run_lastRefill _ calls)

/-- A bucket that holds nothing and recovers nothing, called after half an eternity. -/
example :
    (full ⟨0, 0⟩ 5).run [.consume 18446744073709551615, .available 3] =
      ([.decided (.refuse 0 0 18446744073709551615), .shown 0],
        ⟨⟨0, 0⟩, .finite 0, 18446744073709551615⟩) := by
  decide +kernel

end Turnstile.Bucket
