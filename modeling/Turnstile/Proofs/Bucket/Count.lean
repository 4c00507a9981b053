import Turnstile.Bucket
import Turnstile.Proofs.Binary64.Arithmetic

/-!
# The count of a bucket

`Bucket.Holds` names the number of tokens in a bucket and says that a bucket can
hold that number: it is on the binary64 grid, not negative and not above the
capacity. Every operation keeps this, and its answer is a function of the number:
`consume_of_one_le` and `consume_of_lt_one` are all that later modules know of
`Bucket.consume`.
-/

namespace Turnstile

open Binary64

namespace Limits

/-- The tokens of a full bucket. -/
def brim (limits : Limits) : Rat := nearest limits.capacity.toNat

/-- The tokens restored over a number of milliseconds, each operation rounded. -/
def gain (limits : Limits) (elapsed : UInt64) : Rat :=
  nearest (nearest (nearest elapsed.toNat / 1000) * nearest limits.refill.toNat)

theorem brim_representable (limits : Limits) : Representable limits.brim :=
  nearest_representable _

theorem brim_nonneg (limits : Limits) : 0 ≤ limits.brim :=
  nearest_nonneg (Nat.cast_nonneg _)

/-- A capacity of at most 53 bits is the count of a full bucket. -/
theorem brim_eq (limits : Limits) (small : limits.capacity.toNat ≤ 2 ^ 53) :
    limits.brim = limits.capacity.toNat :=
  nearest_natCast small

/-- The quotient in a gain is the one of the milliseconds, rounded, and small. -/
private theorem seconds_bounds (elapsed : UInt64) :
    0 ≤ nearest (nearest elapsed.toNat / 1000) ∧
      nearest (nearest elapsed.toNat / 1000) ≤ 2 ^ 64 := by
  have low : (0 : Rat) ≤ nearest elapsed.toNat := nearest_nonneg (Nat.cast_nonneg _)
  constructor
  · exact nearest_nonneg (by positivity)
  · apply nearest_le_pow
    exact (div_le_self low (by norm_num)).trans (nearest_toNat_le elapsed)

private theorem product_bounds (limits : Limits) (elapsed : UInt64) :
    0 ≤ nearest (nearest elapsed.toNat / 1000) * nearest limits.refill.toNat ∧
      nearest (nearest elapsed.toNat / 1000) * nearest limits.refill.toNat ≤ 2 ^ 128 := by
  obtain ⟨secondsLow, secondsHigh⟩ := seconds_bounds elapsed
  have refillLow : (0 : Rat) ≤ nearest limits.refill.toNat := nearest_nonneg (Nat.cast_nonneg _)
  have refillHigh := nearest_toNat_le limits.refill
  constructor
  · positivity
  · calc nearest (nearest elapsed.toNat / 1000) * nearest limits.refill.toNat
        ≤ 2 ^ 64 * 2 ^ 64 := by gcongr
      _ = 2 ^ 128 := by norm_num

theorem gain_nonneg (limits : Limits) (elapsed : UInt64) : 0 ≤ limits.gain elapsed :=
  nearest_nonneg (product_bounds limits elapsed).1

theorem gain_le (limits : Limits) (elapsed : UInt64) : limits.gain elapsed ≤ 2 ^ 128 :=
  nearest_le_pow (product_bounds limits elapsed).2

end Limits

namespace Bucket

/-- What a refill adds is a finite number, the gain. -/
theorem restored_eq (limits : Limits) (elapsed : UInt64) :
    restored limits elapsed = .finite (limits.gain elapsed) := by
  have thousand : nearest (1000 : Nat) = (1000 : Nat) := nearest_natCast (by norm_num)
  have elapsedLow : (0 : Rat) ≤ nearest elapsed.toNat := nearest_nonneg (Nat.cast_nonneg _)
  obtain ⟨productLow, productHigh⟩ := Limits.product_bounds limits elapsed
  have quotientSmall : |nearest elapsed.toNat / 1000| ≤ (2 : Rat) ^ (200 : Int) :=
    small_of_le_pow (by positivity)
      ((div_le_self elapsedLow (by norm_num)).trans (nearest_toNat_le elapsed)) (by norm_num)
  unfold restored
  rw [ofUInt64_eq_finite, ofUInt64_eq_finite, ofNat_eq_finite (by norm_num), thousand,
    Nat.cast_ofNat, div_finite (by norm_num) quotientSmall,
    mul_finite (small_of_le_pow productLow productHigh (by norm_num))]
  rfl

/-- A bucket holds a number of tokens, and a bucket can hold that number. -/
structure Holds (bucket : Bucket) (tokens : Rat) : Prop where
  count : bucket.tokens = .finite tokens
  representable : Representable tokens
  nonneg : 0 ≤ tokens
  le_brim : tokens ≤ bucket.limits.brim

/-- The tokens that a bucket with so many of them has at a clock reading. -/
def level (bucket : Bucket) (tokens : Rat) (now : UInt64) : Rat :=
  if now ≤ bucket.lastRefill then tokens
  else
    min (nearest (tokens + bucket.limits.gain (now - bucket.lastRefill))) bucket.limits.brim

/-- A reading that is not later than the last refill changes nothing; a later one adds
the gain of the milliseconds in between, as far as there is room. -/
theorem level_cases (bucket : Bucket) (tokens : Rat) (now : UInt64) :
    (now.toNat ≤ bucket.lastRefill.toNat ∧ bucket.level tokens now = tokens) ∨
      ∃ elapsed : UInt64, 1 ≤ elapsed.toNat ∧
        now.toNat = bucket.lastRefill.toNat + elapsed.toNat ∧
        bucket.level tokens now =
          min (nearest (tokens + bucket.limits.gain elapsed)) bucket.limits.brim := by
  unfold level
  split
  · next stale => exact .inl ⟨UInt64.le_iff_toNat_le.mp stale, rfl⟩
  · next fresh =>
      rw [UInt64.le_iff_toNat_le, not_le] at fresh
      have elapsed : (now - bucket.lastRefill).toNat = now.toNat - bucket.lastRefill.toNat :=
        UInt64.toNat_sub_of_le _ _ (UInt64.le_iff_toNat_le.mpr fresh.le)
      exact .inr ⟨now - bucket.lastRefill, by omega, by omega, rfl⟩

/-! ## Making and filling -/

theorem Holds.full (limits : Limits) (now : UInt64) : (full limits now).Holds limits.brim where
  count := ofUInt64_eq_finite _
  representable := limits.brim_representable
  nonneg := limits.brim_nonneg
  le_brim := le_rfl

@[simp] theorem refill_limits (now : UInt64) (bucket : Bucket) :
    (bucket.refill now).limits = bucket.limits := by
  unfold refill
  split <;> rfl

/-- A request sees nothing of a bucket but what it is when filled. -/
theorem consume_congr {left right : Bucket} {now : UInt64}
    (same : left.refill now = right.refill now) : left.consume now = right.consume now := by
  unfold consume
  rw [same]

@[simp] theorem consume_limits (now : UInt64) (bucket : Bucket) :
    (bucket.consume now).2.limits = bucket.limits := by
  unfold consume
  simp only
  split <;> simp

/-- A decision tells the capacity of the bucket. -/
theorem consume_limit (now : UInt64) (bucket : Bucket) :
    (bucket.consume now).1.limit = bucket.limits.capacity := by
  unfold consume
  simp only [refill_limits]
  split <;> rfl

/-- The last refill only moves forward. -/
theorem refill_lastRefill (now : UInt64) (bucket : Bucket) :
    (bucket.refill now).lastRefill.toNat = max bucket.lastRefill.toNat now.toNat := by
  unfold refill
  split
  · next early =>
      rw [UInt64.le_iff_toNat_le] at early
      exact (max_eq_left early).symm
  · next late =>
      rw [UInt64.le_iff_toNat_le, not_le] at late
      exact (max_eq_right late.le).symm

/-- Taking a token leaves the last refill alone. -/
@[simp] theorem consume_lastRefill (now : UInt64) (bucket : Bucket) :
    (bucket.consume now).2.lastRefill = (bucket.refill now).lastRefill := by
  unfold consume
  simp only
  split <;> rfl

variable {bucket : Bucket} {tokens : Rat}

/-- A bucket never has a level that a bucket cannot hold. -/
theorem Holds.level_bounds (holds : bucket.Holds tokens) (now : UInt64) :
    Representable (bucket.level tokens now) ∧ 0 ≤ bucket.level tokens now ∧
      bucket.level tokens now ≤ bucket.limits.brim := by
  unfold level
  split
  · exact ⟨holds.representable, holds.nonneg, holds.le_brim⟩
  · refine ⟨?_, ?_, min_le_right _ _⟩
    · rcases min_choice (nearest (tokens + bucket.limits.gain (now - bucket.lastRefill)))
        bucket.limits.brim with sum | brim
      · rw [sum]
        exact nearest_representable _
      · rw [brim]
        exact bucket.limits.brim_representable
    · have gain := bucket.limits.gain_nonneg (now - bucket.lastRefill)
      exact le_min (nearest_nonneg (add_nonneg holds.nonneg gain)) bucket.limits.brim_nonneg

/-- No time makes a bucket lose tokens. -/
theorem Holds.le_level (holds : bucket.Holds tokens) (now : UInt64) :
    tokens ≤ bucket.level tokens now := by
  unfold level
  split
  · exact le_rfl
  · have gain := bucket.limits.gain_nonneg (now - bucket.lastRefill)
    exact le_min (le_nearest holds.representable (by linarith)) holds.le_brim

/-- Filling a bucket up to a clock reading leaves its level at that reading. -/
theorem Holds.refill (holds : bucket.Holds tokens) (now : UInt64) :
    (bucket.refill now).Holds (bucket.level tokens now) := by
  obtain ⟨representable, nonneg, leBrim⟩ := holds.level_bounds now
  refine ⟨?_, representable, nonneg, by simpa using leBrim⟩
  unfold Bucket.refill level
  split
  · exact holds.count
  · have gainLow := bucket.limits.gain_nonneg (now - bucket.lastRefill)
    have gainHigh := bucket.limits.gain_le (now - bucket.lastRefill)
    have tokensLow := holds.nonneg
    have tokensHigh := holds.le_brim.trans (nearest_toNat_le bucket.limits.capacity)
    have sumHigh : tokens + bucket.limits.gain (now - bucket.lastRefill) ≤ 2 ^ 129 := by
      norm_num at gainHigh tokensHigh ⊢
      linarith
    have small := small_of_le_pow (by positivity) sumHigh (by norm_num)
    simp only
    rw [holds.count, restored_eq, add_finite small, ofUInt64_eq_finite, lesser_finite]
    rfl

/-! ## Taking a token -/

/-- With a whole token there, one is taken. -/
theorem consume_of_one_le (holds : bucket.Holds tokens) {now : UInt64}
    (enough : 1 ≤ bucket.level tokens now) :
    bucket.consume now =
      (.allow bucket.limits.capacity
          (floorUInt64 (.finite (nearest (bucket.level tokens now - 1)))),
        { bucket.refill now with
          tokens := .finite (nearest (bucket.level tokens now - 1)) }) := by
  have high := (holds.level_bounds now).2.2.trans (nearest_toNat_le bucket.limits.capacity)
  have small := small_of_le_pow (sub_nonneg.mpr enough)
    ((sub_le_self _ zero_le_one).trans high) (by norm_num)
  unfold consume
  simp only [(holds.refill now).count, ofNat_one, refill_limits]
  rw [if_pos (le_finite_iff.mpr enough), sub_finite small]

/-- Without a whole token, the bucket is only filled. -/
theorem consume_of_lt_one (holds : bucket.Holds tokens) {now : UInt64}
    (short : bucket.level tokens now < 1) :
    bucket.consume now =
      (.refuseFor bucket.limits.capacity 0 (bucket.refill now).wait, bucket.refill now) := by
  unfold consume
  simp only [(holds.refill now).count, ofNat_one, refill_limits]
  rw [if_neg (by rw [le_finite_iff]; exact not_le.mpr short), floorUInt64_of_lt_one short]

/-- A request takes a token exactly if a whole one is there. -/
theorem Holds.consume (holds : bucket.Holds tokens) (now : UInt64) :
    (1 ≤ bucket.level tokens now ∧ (bucket.consume now).1.isAdmitted = true ∧
        (bucket.consume now).2.Holds (nearest (bucket.level tokens now - 1))) ∨
      (bucket.level tokens now < 1 ∧ (bucket.consume now).1.isAdmitted = false ∧
        (bucket.consume now).2.Holds (bucket.level tokens now)) := by
  obtain ⟨representable, _, leBrim⟩ := holds.level_bounds now
  rcases le_or_gt 1 (bucket.level tokens now) with enough | short
  · left
    rw [consume_of_one_le holds enough]
    refine ⟨enough, rfl, rfl, nearest_representable _, nearest_nonneg (by linarith), ?_⟩
    have lower : nearest (bucket.level tokens now - 1) ≤ bucket.level tokens now :=
      nearest_le representable (by linarith)
    simpa using lower.trans leBrim
  · right
    rw [consume_of_lt_one holds short]
    exact ⟨short, rfl, holds.refill now⟩

/-- Up to a capacity of 53 bits, taking a token takes exactly one. -/
theorem Holds.nearest_level_sub_one (holds : bucket.Holds tokens) {now : UInt64}
    (small : bucket.limits.capacity.toNat ≤ 2 ^ 53) (enough : 1 ≤ bucket.level tokens now) :
    nearest (bucket.level tokens now - 1) = bucket.level tokens now - 1 := by
  obtain ⟨representable, _, leBrim⟩ := holds.level_bounds now
  apply nearest_of_representable
  apply representable.sub_one enough
  rw [bucket.limits.brim_eq small] at leBrim
  exact leBrim.trans (by exact_mod_cast small)

/-- Whoever lacks a part of a token at a positive rate has it within a second. -/
theorem Holds.refuseFor_wait (holds : bucket.Holds tokens)
    (recovers : bucket.limits.refill ≠ 0) (short : tokens < 1) (limit remaining : UInt64) :
    Decision.refuseFor limit remaining bucket.wait = .refuse limit remaining 1 := by
  have gapLow : 0 ≤ 1 - tokens := by linarith
  have gapHigh : 1 - tokens ≤ 1 := by linarith [holds.nonneg]
  have missingLow := nearest_nonneg gapLow
  have missingHigh := nearest_le .one gapHigh
  have rateLow := one_le_nearest_toNat recovers
  have quotientLow : 0 ≤ nearest (1 - tokens) / nearest bucket.limits.refill.toNat := by
    positivity
  have quotientHigh : nearest (1 - tokens) / nearest bucket.limits.refill.toNat ≤ 1 := by
    rw [div_le_one (by linarith)]
    linarith
  have gapSmall := small_of_le_pow gapLow (gapHigh.trans_eq (pow_zero 2).symm) (by norm_num)
  have quotientSmall :=
    small_of_le_pow quotientLow (quotientHigh.trans_eq (pow_zero 2).symm) (by norm_num)
  have waitEq : bucket.wait =
      ceilUInt64 (.finite (nearest
        (nearest (1 - tokens) / nearest bucket.limits.refill.toNat))) := by
    unfold wait
    rw [holds.count, ofNat_one, sub_finite gapSmall, ofUInt64_eq_finite,
      div_finite (by linarith) quotientSmall]
  rw [waitEq]
  unfold Decision.refuseFor
  rcases ceilUInt64_of_le_one (nearest_le .one quotientHigh) with zero | one
  · rw [zero, if_pos rfl]
  · rw [one, if_neg (by decide)]

/-- A refusal leaves nothing and asks to wait for one second. -/
theorem Holds.decision_of_refused (holds : bucket.Holds tokens)
    (recovers : bucket.limits.refill ≠ 0) {now : UInt64}
    (refused : (bucket.consume now).1.isAdmitted = false) :
    (bucket.consume now).1 = .refuse bucket.limits.capacity 0 1 := by
  obtain ⟨_, admitted, _⟩ | ⟨short, _, _⟩ := holds.consume now
  · rw [admitted] at refused
    cases refused
  · rw [consume_of_lt_one holds short]
    exact (holds.refill now).refuseFor_wait (by simpa using recovers) short _ _

end Bucket

end Turnstile
