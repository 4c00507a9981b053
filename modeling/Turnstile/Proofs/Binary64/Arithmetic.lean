import Turnstile.Proofs.Binary64.Rounding

/-!
# Arithmetic far from the ends of the range

Between `-2 ^ 200` and `2 ^ 200` no operation leaves the finite numbers, so each is
the exact operation on rationals followed by one `nearest`. Taking one off a number
of at most 53 bits is exact, and so is the floor of a number in range.
-/

namespace Turnstile.Binary64

/-- A number is far from the ends of the range if it is not negative and at most some
lesser power of two. -/
theorem small_of_le_pow {value : Rat} {exponent : Nat} (nonneg : 0 ≤ value)
    (above : value ≤ 2 ^ exponent) (small : exponent ≤ 200) :
    |value| ≤ (2 : Rat) ^ (200 : Int) := by
  rw [abs_of_nonneg nonneg]
  calc value ≤ 2 ^ exponent := above
    _ ≤ (2 : Rat) ^ (200 : Nat) := pow_le_pow_right₀ one_le_two small
    _ = (2 : Rat) ^ (200 : Int) := (zpow_natCast 2 200).symm

/-- A number far from the ends of the range rounds to a finite one. -/
theorem round_eq_finite {value : Rat} (small : |value| ≤ (2 : Rat) ^ (200 : Int)) :
    round value = .finite (nearest value) := by
  have onGrid : Representable ((2 : Rat) ^ (200 : Int)) := .ofPowerOfTwo (by norm_num)
  have within : (2 : Rat) ^ (200 : Int) < overflowBound :=
    zpow_lt_zpow_right₀ one_lt_two (by norm_num)
  obtain ⟨low, high⟩ := abs_le.mp small
  have above : nearest value ≤ (2 : Rat) ^ (200 : Int) := nearest_le onGrid high
  have below : -(2 : Rat) ^ (200 : Int) ≤ nearest value := le_nearest onGrid.neg low
  unfold round
  simp only
  rw [if_neg (by linarith), if_neg (by linarith)]

/-- A natural number of at most 64 bits as a binary64 number. -/
theorem ofNat_eq_finite {n : Nat} (small : n ≤ 2 ^ 64) : ofNat n = .finite (nearest n) := by
  have above : (n : Rat) ≤ 2 ^ 64 := by exact_mod_cast small
  exact round_eq_finite (small_of_le_pow (Nat.cast_nonneg n) above (by norm_num))

/-- An unsigned 64-bit integer as a binary64 number. -/
theorem ofUInt64_eq_finite (n : UInt64) : ofUInt64 n = .finite (nearest n.toNat) :=
  ofNat_eq_finite n.toNat_lt.le

/-- An unsigned 64-bit integer rounds to at most `2 ^ 64`. -/
theorem nearest_toNat_le (n : UInt64) : nearest n.toNat ≤ 2 ^ 64 := by
  apply nearest_le_pow
  exact_mod_cast n.toNat_lt.le

/-- An unsigned 64-bit integer other than zero is at least one. -/
theorem one_le_toNat {n : UInt64} (nonzero : n ≠ 0) : (1 : Rat) ≤ n.toNat := by
  have positive : n.toNat ≠ 0 := fun zero => nonzero (UInt64.toNat_inj.mp zero)
  exact_mod_cast Nat.one_le_iff_ne_zero.mpr positive

theorem one_le_nearest_toNat {n : UInt64} (nonzero : n ≠ 0) : 1 ≤ nearest n.toNat :=
  le_nearest .one (one_le_toNat nonzero)

/-- A natural number of at most 53 bits is not changed by rounding. -/
theorem nearest_natCast {n : Nat} (small : n ≤ 2 ^ 53) : nearest n = n := by
  apply nearest_of_representable
  have onGrid : Representable ((n : Int) : Rat) := by
    apply Representable.ofInt
    rw [Nat.abs_cast]
    exact_mod_cast small
  simpa using onGrid

theorem ofNat_one : ofNat 1 = .finite 1 := by
  have exact : nearest (1 : Nat) = (1 : Nat) := nearest_natCast (by norm_num)
  rw [ofNat_eq_finite (by norm_num), exact, Nat.cast_one]

/-- The rounded sum of two numbers. -/
theorem add_finite {left right : Rat} (small : |left + right| ≤ (2 : Rat) ^ (200 : Int)) :
    finite left + finite right = finite (nearest (left + right)) :=
  round_eq_finite small

/-- The rounded difference of two numbers. -/
theorem sub_finite {left right : Rat} (small : |left - right| ≤ (2 : Rat) ^ (200 : Int)) :
    finite left - finite right = finite (nearest (left - right)) := by
  rw [sub_eq_add_neg left right] at small ⊢
  exact round_eq_finite small

/-- The rounded product of two numbers. -/
theorem mul_finite {left right : Rat} (small : |left * right| ≤ (2 : Rat) ^ (200 : Int)) :
    finite left * finite right = finite (nearest (left * right)) :=
  round_eq_finite small

/-- The rounded quotient of two numbers. -/
theorem div_finite {left right : Rat} (nonzero : right ≠ 0)
    (small : |left / right| ≤ (2 : Rat) ^ (200 : Int)) :
    finite left / finite right = finite (nearest (left / right)) := by
  change div (finite left) (finite right) = _
  unfold div
  simp only [if_neg nonzero]
  exact round_eq_finite small

/-- The lesser of two numbers. -/
theorem lesser_finite (left right : Rat) :
    (finite left).lesser (finite right) = finite (min left right) := by
  unfold lesser le
  simp only [decide_eq_true_eq, min_def]
  split <;> rfl

/-- The order of two numbers. -/
theorem le_finite_iff {left right : Rat} : (finite left).le (finite right) = true ↔ left ≤ right :=
  decide_eq_true_iff

/-- Taking one off a number on the grid stays on the grid, as long as ones are not
finer than its unit. -/
theorem Representable.sub_one {value : Rat} (onGrid : Representable value) (one_le : 1 ≤ value)
    (small : value ≤ 2 ^ 53) : Representable (value - 1) := by
  obtain ⟨significand, exponent, bounded, normal, rfl⟩ := onGrid
  rcases le_or_gt 0 exponent with whole | fractional
  · -- The number is an integer.
    have integer : (significand : Rat) * (2 : Rat) ^ exponent =
        ((significand * 2 ^ exponent.toNat : Int) : Rat) := by
      push_cast
      rw [← zpow_natCast, Int.toNat_of_nonneg whole]
    rw [integer] at one_le small ⊢
    have low : 1 ≤ significand * 2 ^ exponent.toNat := by exact_mod_cast one_le
    have high : significand * 2 ^ exponent.toNat ≤ 2 ^ 53 := by exact_mod_cast small
    have onGridPred : Representable ((significand * 2 ^ exponent.toNat - 1 : Int) : Rat) := by
      apply Representable.ofInt
      rw [abs_le]
      omega
    simpa using onGridPred
  · -- One is a multiple of the unit, and the significand has room to lose it.
    have unitPositive : (0 : Rat) < (2 : Rat) ^ exponent := by positivity
    have oneUnits : ((2 ^ (-exponent).toNat : Int) : Rat) * (2 : Rat) ^ exponent = 1 := by
      push_cast
      rw [← zpow_natCast, Int.toNat_of_nonneg (by omega), ← zpow_add₀ two_ne_zero,
        neg_add_cancel, zpow_zero]
    refine ⟨significand - 2 ^ (-exponent).toNat, exponent, ?_, normal, ?_⟩
    · have room : ((2 ^ (-exponent).toNat : Int) : Rat) ≤ significand := by
        rw [← oneUnits] at one_le
        exact le_of_mul_le_mul_right one_le unitPositive
      have roomInt : (2 ^ (-exponent).toNat : Int) ≤ significand := by exact_mod_cast room
      have unitsPositive : (0 : Int) < 2 ^ (-exponent).toNat := by positivity
      rw [abs_le] at bounded ⊢
      omega
    · push_cast at oneUnits ⊢
      rw [sub_mul, oneUnits]

/-! ## Whole numbers -/

/-- The floor of a number below one is cut to zero. -/
theorem floorUInt64_of_lt_one {value : Rat} (below : value < 1) :
    floorUInt64 (finite value) = 0 := by
  have floorZero : value.floor < 1 := Rat.floor_lt_iff.mpr (by simpa using below)
  change clampUInt64 value.floor = 0
  unfold clampUInt64
  rw [if_pos (by omega)]

/-- A whole number is its own floor. -/
theorem toNat_floor_natCast (n : Nat) : (n : Rat).floor.toNat = n := by
  rw [← Int.cast_natCast, Rat.floor_intCast, Int.toNat_natCast]

private theorem floor_lt_of_lt {value : Rat} (below : value < 2 ^ 64) :
    value.floor < 18446744073709551616 := by
  rw [Rat.floor_lt_iff]
  norm_num at below ⊢
  exact below

/-- The floor of a number below the range's end is cut at zero alone. -/
theorem floorUInt64_eq_ofNat {value : Rat} (below : value < 2 ^ 64) :
    floorUInt64 (finite value) = .ofNat value.floor.toNat := by
  change clampUInt64 value.floor = _
  unfold clampUInt64
  split
  · next nonpositive =>
      rw [Int.toNat_of_nonpos nonpositive]
      rfl
  · rw [if_pos (floor_lt_of_lt below)]

/-- The floor of a number in range is not clamped. -/
theorem toNat_floorUInt64 {value : Rat} (nonneg : 0 ≤ value) (below : value < 2 ^ 64) :
    ((floorUInt64 (finite value)).toNat : Int) = value.floor := by
  have low : 0 ≤ value.floor := Rat.le_floor_iff.mpr (by simpa using nonneg)
  have high := floor_lt_of_lt below
  have inRange : value.floor.toNat < UInt64.size := by
    change _ < 18446744073709551616
    omega
  rw [floorUInt64_eq_ofNat below, UInt64.toNat_ofNat_of_lt' inRange]
  omega

/-- The ceiling of a number of at most one is zero or one. -/
theorem ceilUInt64_of_le_one {value : Rat} (atMost : value ≤ 1) :
    ceilUInt64 (finite value) = 0 ∨ ceilUInt64 (finite value) = 1 := by
  have ceilAtMost : value.ceil ≤ 1 := Rat.ceil_le_iff.mpr (by simpa using atMost)
  change clampUInt64 value.ceil = 0 ∨ clampUInt64 value.ceil = 1
  unfold clampUInt64
  by_cases nonpositive : value.ceil ≤ 0
  · left
    rw [if_pos nonpositive]
  · right
    have one : value.ceil = 1 := by omega
    rw [one]
    rfl

end Turnstile.Binary64
