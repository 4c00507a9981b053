import Turnstile.Proofs.Bucket.Run

/-!
# The rate of a bucket

Rounding can only lend a bucket tokens within bounds. A gain exceeds the exact one
by three roundings and its sum with the count by a fourth, so one call restores at
most `refill * elapsed / 1000` tokens and `capacity / 2 ^ 50` more
(`Holds.level_le`). Over a window the exact parts telescope to the time that
passed, and the errors stay below a thousandth of a token as long as calls times
capacity is at most `2 ^ 40`: since admissions are counted in whole numbers, they
keep the exact bound.
-/

namespace Turnstile

open Binary64

namespace Binary64

/-- One rounding moves a number that is not tiny by at most one part in `2 ^ 53`. -/
private theorem abs_nearest_sub_le_div {value : Rat} (normal : 1 / 1024 ≤ value) :
    |nearest value - value| ≤ value / 2 ^ 53 := by
  have positive : 0 < value := by linarith
  have notFine : (2 : Rat) ^ (-1022 : Int) ≤ |value| := by
    rw [abs_of_pos positive]
    calc (2 : Rat) ^ (-1022 : Int) ≤ (2 : Rat) ^ (-10 : Int) :=
          zpow_le_zpow_right₀ one_le_two (by norm_num)
      _ = 1 / 1024 := by norm_num
      _ ≤ value := normal
  have error := abs_nearest_sub_le_relative notFine
  rwa [abs_of_pos positive] at error

/-- One rounding upwards adds at most one part in `2 ^ 53`. -/
theorem nearest_le_mul {value : Rat} (normal : 1 / 1024 ≤ value) :
    nearest value ≤ value * (1 + 1 / 2 ^ 53) := by
  have error := (abs_le.mp (abs_nearest_sub_le_div normal)).2
  linarith

/-- One rounding downwards takes off at most one part in `2 ^ 53`. -/
theorem mul_le_nearest {value : Rat} (normal : 1 / 1024 ≤ value) :
    value * (1 - 1 / 2 ^ 53) ≤ nearest value := by
  have error := (abs_le.mp (abs_nearest_sub_le_div normal)).1
  linarith

end Binary64

/-- Three roundings can raise a gain, and none brings it near zero. -/
theorem Limits.gain_bounds (limits : Limits) (recovers : limits.refill ≠ 0) {elapsed : UInt64}
    (passed : 1 ≤ elapsed.toNat) (short : elapsed.toNat ≤ 2 ^ 53) :
    1 / 1024 ≤ limits.gain elapsed ∧
      limits.gain elapsed ≤
        (limits.refill.toNat * elapsed.toNat / 1000 : Rat) * (1 + 1 / 2 ^ 53) ^ 3 := by
  have passedRat : (1 : Rat) ≤ elapsed.toNat := by exact_mod_cast passed
  have rateLow := one_le_toNat recovers
  have onGrid : Representable ((2 : Rat) ^ (-10 : Int)) := .ofPowerOfTwo (by norm_num)
  norm_num at onGrid
  have secondsLow : (1 / 1024 : Rat) ≤ elapsed.toNat / 1000 := by linarith
  have secondsHigh := nearest_le_mul secondsLow
  have secondsRounded : (1 / 1024 : Rat) ≤ nearest (elapsed.toNat / 1000) :=
    le_nearest onGrid secondsLow
  have rateHigh := nearest_le_mul (show (1 / 1024 : Rat) ≤ limits.refill.toNat by linarith)
  have rateRounded := one_le_nearest_toNat recovers
  have productLow : (1 / 1024 : Rat) ≤
      nearest (elapsed.toNat / 1000) * nearest limits.refill.toNat := by
    nlinarith
  unfold gain
  rw [nearest_natCast short]
  refine ⟨le_nearest onGrid productLow, ?_⟩
  calc nearest (nearest (elapsed.toNat / 1000) * nearest limits.refill.toNat)
      ≤ nearest (elapsed.toNat / 1000) * nearest limits.refill.toNat * (1 + 1 / 2 ^ 53) :=
        nearest_le_mul productLow
    _ ≤ (elapsed.toNat / 1000 * (1 + 1 / 2 ^ 53)) *
          (limits.refill.toNat * (1 + 1 / 2 ^ 53)) * (1 + 1 / 2 ^ 53) := by gcongr
    _ = _ := by ring

namespace Bucket

variable {bucket : Bucket} {tokens : Rat}

/-- The level at a clock reading exceeds the exact refill by at most a small part of
the capacity. -/
theorem Holds.level_le (holds : bucket.Holds tokens) (recovers : bucket.limits.refill ≠ 0)
    (small : bucket.limits.capacity.toNat ≤ 2 ^ 40) {now : UInt64} (early : now.toNat < 2 ^ 53) :
    bucket.level tokens now ≤
      tokens + bucket.limits.refill.toNat *
          ((bucket.refill now).lastRefill.toNat - bucket.lastRefill.toNat) / 1000 +
        bucket.limits.capacity.toNat / 2 ^ 50 := by
  have brim := bucket.limits.brim_eq (by omega)
  have full := holds.le_brim
  rw [brim] at full
  have empty := holds.nonneg
  have capacityLow : (0 : Rat) ≤ bucket.limits.capacity.toNat := Nat.cast_nonneg _
  rw [refill_lastRefill]
  rcases bucket.level_cases tokens now with ⟨stale, level⟩ | ⟨elapsed, passed, since, level⟩
  · rw [level, max_eq_left stale, sub_self, mul_zero, zero_div]
    linarith
  · rw [level, brim, since, max_eq_right (Nat.le_add_right _ _), Nat.cast_add,
      add_sub_cancel_left]
    obtain ⟨gainLow, gainHigh⟩ := bucket.limits.gain_bounds recovers passed (by omega)
    generalize (bucket.limits.refill.toNat * elapsed.toNat / 1000 : Rat) = exact at gainHigh ⊢
    generalize bucket.limits.gain elapsed = gain at *
    generalize (bucket.limits.capacity.toNat : Rat) = capacity at *
    rcases le_or_gt capacity exact with covered | partly
    · -- The exact refill alone fills the bucket.
      refine (min_le_right _ _).trans ?_
      linarith
    · have sum : nearest (tokens + gain) ≤ (tokens + gain) * (1 + 1 / 2 ^ 53) :=
        nearest_le_mul (by linarith)
      refine (min_le_left _ _).trans ?_
      norm_num at gainHigh sum ⊢
      linarith

/-- One call restores at most the exact refill and a small part of the capacity, and
a token taken is a token less. -/
theorem Holds.call_bound (holds : bucket.Holds tokens) (recovers : bucket.limits.refill ≠ 0)
    (small : bucket.limits.capacity.toNat ≤ 2 ^ 40) {call : Call}
    (early : call.reading.toNat < 2 ^ 53) :
    ∃ left, (bucket.call call).2.Holds left ∧
      left + admissions [(bucket.call call).1] ≤
        tokens + bucket.limits.refill.toNat *
            ((bucket.call call).2.lastRefill.toNat - bucket.lastRefill.toNat) / 1000 +
          bucket.limits.capacity.toNat / 2 ^ 50 := by
  have level := holds.level_le recovers small early
  rw [refill_lastRefill, ← call_lastRefill] at level
  cases call with
  | available reading =>
      refine ⟨_, holds.refill reading, ?_⟩
      rw [admissions_available, Nat.cast_zero, add_zero]
      exact level
  | consume reading =>
      rw [admissions_consume]
      rcases holds.consume reading with ⟨enough, admitted, taken⟩ | ⟨_, refused, kept⟩
      · rw [holds.nearest_level_sub_one (by omega) enough] at taken
        refine ⟨_, taken, ?_⟩
        rw [if_pos admitted, Nat.cast_one, sub_add_cancel]
        exact level
      · refine ⟨_, kept, ?_⟩
        rw [if_neg (by simp [refused]), Nat.cast_zero, add_zero]
        exact level

/-- Over a run the exact refills add up to the one of the time that passed. -/
theorem Holds.run_bound (holds : bucket.Holds tokens) (recovers : bucket.limits.refill ≠ 0)
    (small : bucket.limits.capacity.toNat ≤ 2 ^ 40) {calls : List Call}
    (early : ∀ call ∈ calls, call.reading.toNat < 2 ^ 53) :
    ∃ left, (bucket.run calls).2.Holds left ∧
      left + admissions (bucket.run calls).1 ≤
        tokens + bucket.limits.refill.toNat *
            ((bucket.run calls).2.lastRefill.toNat - bucket.lastRefill.toNat) / 1000 +
          calls.length * (bucket.limits.capacity.toNat / 2 ^ 50) := by
  induction calls generalizing bucket tokens with
  | nil =>
      refine ⟨tokens, holds, ?_⟩
      simp
  | cons call rest inductionHypothesis =>
      obtain ⟨middle, holdsMiddle, first⟩ :=
        holds.call_bound recovers small (early call List.mem_cons_self)
      obtain ⟨left, holdsLeft, others⟩ :=
        inductionHypothesis holdsMiddle (by simpa using recovers) (by simpa using small)
          fun call member => early call (List.mem_cons_of_mem _ member)
      refine ⟨left, holdsLeft, ?_⟩
      rw [call_limits] at others
      rw [run_cons, admissions_cons, List.length_cons]
      push_cast
      linarith

/-- The errors of a window are too small to show in a whole number. -/
private theorem exact_of_bound {admitted capacity restored calls : Nat}
    (small : calls * capacity ≤ 2 ^ 40)
    (bound : (admitted : Rat) ≤ capacity + restored / 1000 + calls * (capacity / 2 ^ 50)) :
    1000 * ((admitted : Int) - capacity) ≤ restored := by
  have errors : (calls : Rat) * capacity ≤ 2 ^ 40 := by exact_mod_cast small
  have strict : 1000 * ((admitted : Rat) - capacity) < restored + 1 := by
    norm_num at errors bound ⊢
    linarith
  have strictInt : 1000 * ((admitted : Int) - capacity) < restored + 1 := by exact_mod_cast strict
  omega

/-- The number of tokens taken in a window is at most the capacity and the exact
refill of the time that passed in it, whatever happened to the bucket before and in
whatever order the clock readings come. -/
theorem admissions_le {limits : Limits} (positive : limits.Positive) (start : UInt64)
    (past window : List Call) (early : ∀ call ∈ window, call.reading.toNat < 2 ^ 53)
    (small : window.length * limits.capacity.toNat ≤ 2 ^ 40) :
    let bucket := ((full limits start).run past).2
    let passed := latest window - bucket.lastRefill.toNat
    1000 * ((admissions (bucket.run window).1 : Int) - limits.capacity.toNat) ≤
      (limits.refill.toNat * passed : Nat) := by
  intro bucket passed
  obtain ⟨tokens, holds⟩ := (Holds.full limits start).run past
  have limitsEq : bucket.limits = limits := run_limits _ _
  cases window with
  | nil =>
      rw [run_nil, admissions_nil]
      omega
  | cons call rest =>
      have capacitySmall : limits.capacity.toNat ≤ 2 ^ 40 :=
        le_trans (Nat.le_mul_of_pos_left _ (by simp)) small
      obtain ⟨left, holdsLeft, bound⟩ :=
        holds.run_bound (by rw [limitsEq]; exact positive.refill)
          (by rw [limitsEq]; exact capacitySmall) early
      apply exact_of_bound small
      have leftLow := holdsLeft.nonneg
      have tokensHigh := holds.le_brim
      rw [limitsEq, limits.brim_eq (by omega)] at tokensHigh
      have lastEq : (bucket.run (call :: rest)).2.lastRefill.toNat =
          bucket.lastRefill.toNat + passed := by
        rw [run_lastRefill]
        omega
      rw [limitsEq, lastEq] at bound
      push_cast at bound ⊢
      linarith

/-- A window on a drained bucket, with stale readings in it. -/
theorem admissions_le_stale_readings :
    let limits : Limits := ⟨3, 7⟩
    let past : List Call := [.consume 1000, .consume 1000, .consume 1000]
    let window : List Call := [.consume 1300, .available 200, .consume 900, .consume 1300]
    let bucket := ((full limits 0).run past).2
    (limits.Positive ∧ (∀ call ∈ window, call.reading.toNat < 2 ^ 53) ∧
        window.length * limits.capacity.toNat ≤ 2 ^ 40) ∧
      1000 * ((admissions (bucket.run window).1 : Int) - limits.capacity.toNat) ≤
        (limits.refill.toNat * (latest window - bucket.lastRefill.toNat) : Nat) := by
  intro limits past window bucket
  have positive : limits.Positive := ⟨by decide, by decide⟩
  have early : ∀ call ∈ window, call.reading.toNat < 2 ^ 53 := by decide
  have small : window.length * limits.capacity.toNat ≤ 2 ^ 40 := by decide
  exact ⟨⟨positive, early, small⟩, admissions_le positive 0 past window early small⟩

end Bucket

end Turnstile
