import Mathlib.Algebra.Order.Field.Power
import Mathlib.Data.Rat.Floor
import Mathlib.Tactic.Linarith
import Mathlib.Tactic.Positivity
import Mathlib.Tactic.Ring
import Turnstile.Binary64

/-!
# Rounding to the nearest binary64 number

`Representable` is the grid of numbers with 53 significant bits, and `nearest` is
characterised by it: the result lies on the grid (`nearest_representable`) and no
grid point is closer (`abs_nearest_sub_le`). Monotonicity, exactness on the grid
and the bound on the error of one rounding follow from these two facts.
-/

namespace Turnstile.Binary64

/-! ## Exponents -/

private theorem two_zpow_log2 {n : Nat} (nonzero : n ≠ 0) :
    (2 : Rat) ^ (n.log2 : Int) ≤ n ∧ (n : Rat) < (2 : Rat) ^ ((n.log2 : Int) + 1) := by
  constructor
  · rw [zpow_natCast]
    exact_mod_cast Nat.log2_self_le nonzero
  · rw [← Nat.cast_succ, zpow_natCast]
    exact_mod_cast Nat.lt_log2_self (n := n)

private theorem abs_eq_natAbs_div (value : Rat) :
    |value| = (value.num.natAbs : Rat) / (value.den : Rat) := by
  conv_lhs => rw [← Rat.num_div_den value]
  rw [abs_div, Nat.abs_cast, Nat.cast_natAbs, Int.cast_abs]

private theorem magnitude_eq_abs (value : Rat) :
    (if value < 0 then -value else value) = |value| := by
  split
  · next negative => rw [abs_of_neg negative]
  · next nonneg => rw [abs_of_nonneg (not_lt.mp nonneg)]

/-- The exponent of a nonzero number puts its magnitude between two neighbouring
powers of two. -/
theorem binaryExponent_bounds {value : Rat} (nonzero : value ≠ 0) :
    (2 : Rat) ^ binaryExponent value ≤ |value| ∧
      |value| < (2 : Rat) ^ (binaryExponent value + 1) := by
  have numNonzero : value.num.natAbs ≠ 0 := Int.natAbs_ne_zero.mpr (Rat.num_ne_zero.mpr nonzero)
  obtain ⟨numLow, numHigh⟩ := two_zpow_log2 numNonzero
  obtain ⟨denLow, denHigh⟩ := two_zpow_log2 value.den_nz
  have denPositive : (0 : Rat) < value.den := Nat.cast_pos.mpr value.den_pos
  have size := abs_eq_natAbs_div value
  have upper : |value| <
      (2 : Rat) ^ ((value.num.natAbs.log2 : Int) - (value.den.log2 : Int) + 1) := by
    rw [size, div_lt_iff₀ denPositive]
    calc (value.num.natAbs : Rat)
        < (2 : Rat) ^ ((value.num.natAbs.log2 : Int) + 1) := numHigh
      _ = (2 : Rat) ^ ((value.num.natAbs.log2 : Int) - (value.den.log2 : Int) + 1) *
            (2 : Rat) ^ (value.den.log2 : Int) := by
          rw [← zpow_add₀ two_ne_zero]
          congr 1
          ring
      _ ≤ _ := by gcongr
  have lower : (2 : Rat) ^ ((value.num.natAbs.log2 : Int) - (value.den.log2 : Int) - 1) ≤
      |value| := by
    rw [size, le_div_iff₀ denPositive]
    calc (2 : Rat) ^ ((value.num.natAbs.log2 : Int) - (value.den.log2 : Int) - 1) * value.den
        ≤ (2 : Rat) ^ ((value.num.natAbs.log2 : Int) - (value.den.log2 : Int) - 1) *
            (2 : Rat) ^ ((value.den.log2 : Int) + 1) := by gcongr
      _ = (2 : Rat) ^ (value.num.natAbs.log2 : Int) := by
          rw [← zpow_add₀ two_ne_zero]
          congr 1
          ring
      _ ≤ _ := numLow
  unfold binaryExponent
  simp only [magnitude_eq_abs]
  split
  · next fits => exact ⟨fits, upper⟩
  · next high =>
      refine ⟨lower, ?_⟩
      rw [sub_add_cancel]
      exact not_le.mp high

/-- The unit is a power of two with 52 bits below the leading one, or the least
subnormal if that is larger. -/
theorem unitExponent_eq_max (value : Rat) :
    unitExponent value = max (binaryExponent value - 52) (-1074) := by
  unfold unitExponent
  simp only
  omega

/-- A number has at most 53 bits above its unit. -/
theorem abs_lt_unit (value : Rat) : |value| < 2 ^ 53 * (2 : Rat) ^ unitExponent value := by
  by_cases nonzero : value = 0
  · rw [nonzero, abs_zero]
    positivity
  · calc |value| < (2 : Rat) ^ (binaryExponent value + 1) := (binaryExponent_bounds nonzero).2
      _ ≤ (2 : Rat) ^ (53 + unitExponent value) := by
          apply zpow_le_zpow_right₀ one_le_two
          rw [unitExponent_eq_max]
          omega
      _ = 2 ^ 53 * (2 : Rat) ^ unitExponent value := by
          rw [zpow_add₀ two_ne_zero]
          norm_num

/-! ## Integers -/

/-- The nearest integer is at most a half away. -/
theorem abs_nearestInteger_sub_le_half (value : Rat) :
    |(nearestInteger value : Rat) - value| ≤ 1 / 2 := by
  have low := Rat.floor_le value
  have high := Rat.lt_floor_add_one value
  push_cast at high
  rw [abs_le]
  unfold nearestInteger
  simp only
  split_ifs <;> constructor <;> push_cast <;> linarith

/-- No integer is closer than the nearest one. -/
theorem abs_nearestInteger_sub_le (value : Rat) (n : Int) :
    |(nearestInteger value : Rat) - value| ≤ |(n : Rat) - value| := by
  have half := abs_le.mp (abs_nearestInteger_sub_le_half value)
  rcases lt_trichotomy n (nearestInteger value) with below | same | above
  · have step : (n : Rat) + 1 ≤ (nearestInteger value : Rat) := by exact_mod_cast below
    rw [abs_le, abs_of_nonpos (by linarith)]
    constructor <;> linarith
  · rw [same]
  · have step : (nearestInteger value : Rat) + 1 ≤ (n : Rat) := by exact_mod_cast above
    rw [abs_le, abs_of_nonneg (by linarith)]
    constructor <;> linarith

/-! ## The grid -/

/-- Numbers with at most 53 significant bits, none of them finer than the least
subnormal. Large magnitudes are not excluded. -/
def Representable (value : Rat) : Prop :=
  ∃ significand exponent : Int,
    |significand| ≤ 2 ^ 53 ∧ -1074 ≤ exponent ∧
      value = (significand : Rat) * (2 : Rat) ^ exponent

/-- An integer of at most 53 bits is representable. -/
theorem Representable.ofInt {n : Int} (small : |n| ≤ 2 ^ 53) : Representable (n : Rat) :=
  ⟨n, 0, small, by norm_num, by simp⟩

/-- A power of two is representable unless it is finer than the least subnormal. -/
theorem Representable.ofPowerOfTwo {exponent : Int} (normal : -1074 ≤ exponent) :
    Representable ((2 : Rat) ^ exponent) :=
  ⟨1, exponent, by norm_num, normal, by simp⟩

theorem Representable.one : Representable 1 := by
  simpa using Representable.ofInt (n := 1) (by norm_num)

/-- The grid is symmetric. -/
theorem Representable.neg {value : Rat} (onGrid : Representable value) :
    Representable (-value) := by
  obtain ⟨significand, exponent, small, normal, rfl⟩ := onGrid
  exact ⟨-significand, exponent, by rwa [abs_neg], normal, by push_cast; ring⟩

/-- Rounding ends on the grid. -/
theorem nearest_representable (value : Rat) : Representable (nearest value) := by
  have unitPositive : (0 : Rat) < (2 : Rat) ^ unitExponent value := by positivity
  refine ⟨nearestInteger (value / (2 : Rat) ^ unitExponent value), unitExponent value, ?_, ?_, rfl⟩
  · have scaled : |value / (2 : Rat) ^ unitExponent value| < 2 ^ 53 := by
      rw [abs_div, abs_of_pos unitPositive, div_lt_iff₀ unitPositive]
      exact abs_lt_unit value
    have half := abs_nearestInteger_sub_le_half (value / (2 : Rat) ^ unitExponent value)
    have close : |(nearestInteger (value / (2 : Rat) ^ unitExponent value) : Rat)| <
        2 ^ 53 + 1 := by
      rw [abs_le] at half
      rw [abs_lt] at scaled ⊢
      constructor <;> linarith
    have closeInt : |nearestInteger (value / (2 : Rat) ^ unitExponent value)| < 2 ^ 53 + 1 := by
      exact_mod_cast close
    omega
  · rw [unitExponent_eq_max]
    omega

/-- The distance of a number from a multiple of its unit, counted in units. -/
private theorem abs_units_sub (value : Rat) (multiple : Int) :
    |(multiple : Rat) * (2 : Rat) ^ unitExponent value - value| =
      |(multiple : Rat) - value / (2 : Rat) ^ unitExponent value| *
        (2 : Rat) ^ unitExponent value := by
  have unitPositive : (0 : Rat) < (2 : Rat) ^ unitExponent value := by positivity
  rw [← abs_of_pos unitPositive, ← abs_mul, abs_of_pos unitPositive, sub_mul,
    div_mul_cancel₀ _ unitPositive.ne']

/-- No multiple of a number's unit is closer to it than the rounded number. -/
theorem abs_nearest_sub_le_unit (value : Rat) (multiple : Int) :
    |nearest value - value| ≤
      |(multiple : Rat) * (2 : Rat) ^ unitExponent value - value| := by
  unfold nearest
  simp only
  rw [abs_units_sub, abs_units_sub]
  apply mul_le_mul_of_nonneg_right (abs_nearestInteger_sub_le _ _)
  positivity

/-- A grid point that is no multiple of a number's unit lies nearer to zero than
the number's leading power of two does. -/
private theorem abs_le_of_exponent_lt {value : Rat} (nonzero : value ≠ 0)
    {significand exponent : Int} (small : |significand| ≤ 2 ^ 53) (normal : -1074 ≤ exponent)
    (finer : exponent < unitExponent value) :
    |(significand : Rat) * (2 : Rat) ^ exponent| ≤ 2 ^ 52 * (2 : Rat) ^ unitExponent value ∧
      2 ^ 52 * (2 : Rat) ^ unitExponent value ≤ |value| := by
  have leading : unitExponent value = binaryExponent value - 52 := by
    rw [unitExponent_eq_max] at finer ⊢
    omega
  constructor
  · have smallRat : |(significand : Rat)| ≤ 2 ^ 53 := by exact_mod_cast small
    rw [abs_mul, abs_of_pos (by positivity : (0 : Rat) < (2 : Rat) ^ exponent)]
    calc |(significand : Rat)| * (2 : Rat) ^ exponent
        ≤ 2 ^ 53 * (2 : Rat) ^ exponent := by gcongr
      _ ≤ 2 ^ 53 * (2 : Rat) ^ (unitExponent value - 1) := by
          gcongr
          · exact one_le_two
          · omega
      _ = 2 ^ 52 * (2 : Rat) ^ unitExponent value := by
          rw [zpow_sub_one₀ two_ne_zero]
          ring
  · calc 2 ^ 52 * (2 : Rat) ^ unitExponent value
        = (2 : Rat) ^ binaryExponent value := by
          rw [leading, zpow_sub₀ two_ne_zero]
          norm_num
          ring
      _ ≤ |value| := (binaryExponent_bounds nonzero).1

theorem nearest_zero : nearest 0 = 0 := by
  have same := abs_nearest_sub_le_unit 0 0
  simpa using same

/-- No grid point is closer to a number than the rounded number. -/
theorem abs_nearest_sub_le {value point : Rat} (onGrid : Representable point) :
    |nearest value - value| ≤ |point - value| := by
  obtain ⟨significand, exponent, small, normal, rfl⟩ := onGrid
  by_cases nonzero : value = 0
  · rw [nonzero, nearest_zero, sub_zero, abs_zero]
    exact abs_nonneg _
  by_cases coarse : unitExponent value ≤ exponent
  · have multiple : (significand : Rat) * (2 : Rat) ^ exponent =
        ((significand * 2 ^ (exponent - unitExponent value).toNat : Int) : Rat) *
          (2 : Rat) ^ unitExponent value := by
      push_cast
      rw [← zpow_natCast, Int.toNat_of_nonneg (by omega), mul_assoc, ← zpow_add₀ two_ne_zero,
        sub_add_cancel]
    rw [multiple]
    exact abs_nearest_sub_le_unit _ _
  · -- The point lies inside the leading power of two, itself a multiple of the unit.
    obtain ⟨inside, leading⟩ :=
      abs_le_of_exponent_lt nonzero small normal (not_le.mp coarse)
    rcases lt_or_gt_of_ne nonzero with negative | positive
    · rw [abs_of_neg negative] at leading
      have far := neg_abs_le ((significand : Rat) * (2 : Rat) ^ exponent)
      calc |nearest value - value|
          ≤ |((-4503599627370496 : Int) : Rat) * (2 : Rat) ^ unitExponent value - value| :=
            abs_nearest_sub_le_unit value _
        _ = -(2 ^ 52 * (2 : Rat) ^ unitExponent value) - value := by
            rw [abs_of_nonneg] <;> push_cast <;> linarith
        _ ≤ (significand : Rat) * (2 : Rat) ^ exponent - value := by linarith
        _ ≤ _ := le_abs_self _
    · rw [abs_of_pos positive] at leading
      have far := le_abs_self ((significand : Rat) * (2 : Rat) ^ exponent)
      calc |nearest value - value|
          ≤ |((4503599627370496 : Int) : Rat) * (2 : Rat) ^ unitExponent value - value| :=
            abs_nearest_sub_le_unit value _
        _ = value - 2 ^ 52 * (2 : Rat) ^ unitExponent value := by
            rw [abs_of_nonpos] <;> push_cast <;> linarith
        _ ≤ -((significand : Rat) * (2 : Rat) ^ exponent - value) := by linarith
        _ ≤ _ := neg_le_abs _

/-- Rounding keeps what is on the grid. -/
theorem nearest_of_representable {value : Rat} (onGrid : Representable value) :
    nearest value = value := by
  have gap : |nearest value - value| ≤ |value - value| := abs_nearest_sub_le onGrid
  rw [sub_self, abs_zero] at gap
  exact sub_eq_zero.mp (abs_nonpos_iff.mp gap)

/-- Rounding keeps the order. -/
theorem nearest_mono {left right : Rat} (ordered : left ≤ right) :
    nearest left ≤ nearest right := by
  rcases ordered.eq_or_lt with same | below
  · rw [same]
  by_contra crossed
  -- Each result is at least as close to its own number as the other result is, so
  -- each number would lie on the far side of the midpoint of the results.
  have leftGap : |nearest left - left| ≤ |nearest right - left| :=
    abs_nearest_sub_le (nearest_representable right)
  have rightGap : |nearest right - right| ≤ |nearest left - right| :=
    abs_nearest_sub_le (nearest_representable left)
  rw [not_le] at crossed
  have leftFar : nearest left + nearest right ≤ 2 * left := by
    by_contra beyond
    have closer : |nearest right - left| < nearest left - left :=
      abs_lt.mpr ⟨by linarith, by linarith⟩
    linarith [le_abs_self (nearest left - left)]
  have rightFar : 2 * right ≤ nearest left + nearest right := by
    by_contra beyond
    have closer : |nearest left - right| < right - nearest right :=
      abs_lt.mpr ⟨by linarith, by linarith⟩
    linarith [neg_abs_le (nearest right - right)]
  linarith

/-- Rounding a number that is not negative gives none that is. -/
theorem nearest_nonneg {value : Rat} (nonneg : 0 ≤ value) : 0 ≤ nearest value := by
  rw [← nearest_zero]
  exact nearest_mono nonneg

/-- A grid point below a number is below the rounded number. -/
theorem le_nearest {point value : Rat} (onGrid : Representable point) (below : point ≤ value) :
    point ≤ nearest value := by
  rw [← nearest_of_representable onGrid]
  exact nearest_mono below

/-- A grid point above a number is above the rounded number. -/
theorem nearest_le {point value : Rat} (onGrid : Representable point) (above : value ≤ point) :
    nearest value ≤ point := by
  rw [← nearest_of_representable onGrid]
  exact nearest_mono above

/-- Rounding does not go beyond a power of two. -/
theorem nearest_le_pow {value : Rat} {exponent : Nat} (above : value ≤ 2 ^ exponent) :
    nearest value ≤ 2 ^ exponent := by
  have onGrid : Representable ((2 : Rat) ^ (exponent : Int)) := .ofPowerOfTwo (by omega)
  rw [zpow_natCast] at onGrid
  exact nearest_le onGrid above

/-- Nor does it fall below one. -/
theorem pow_le_nearest {value : Rat} {exponent : Nat} (below : 2 ^ exponent ≤ value) :
    2 ^ exponent ≤ nearest value := by
  have onGrid : Representable ((2 : Rat) ^ (exponent : Int)) := .ofPowerOfTwo (by omega)
  rw [zpow_natCast] at onGrid
  exact le_nearest onGrid below

/-- The error of one rounding is at most one part in `2 ^ 53` for a number that is
not finer than the least normal one. -/
theorem abs_nearest_sub_le_relative {value : Rat} (normal : (2 : Rat) ^ (-1022 : Int) ≤ |value|) :
    |nearest value - value| ≤ |value| / 2 ^ 53 := by
  have nonzero : value ≠ 0 := by
    rintro rfl
    rw [abs_zero] at normal
    exact absurd normal (not_le.mpr (by positivity))
  obtain ⟨leading, above⟩ := binaryExponent_bounds nonzero
  have exponentNormal : -1022 ≤ binaryExponent value := by
    have powers := normal.trans_lt above
    rw [zpow_lt_zpow_iff_right₀ one_lt_two] at powers
    omega
  have unit : unitExponent value = binaryExponent value - 52 := by
    rw [unitExponent_eq_max]
    omega
  have half := abs_nearestInteger_sub_le_half (value / (2 : Rat) ^ unitExponent value)
  calc |nearest value - value|
      = |(nearestInteger (value / (2 : Rat) ^ unitExponent value) : Rat) -
          value / (2 : Rat) ^ unitExponent value| * (2 : Rat) ^ unitExponent value :=
        abs_units_sub value _
    _ ≤ 1 / 2 * (2 : Rat) ^ unitExponent value := by gcongr
    _ = (2 : Rat) ^ binaryExponent value / 2 ^ 53 := by
        rw [unit, zpow_sub₀ two_ne_zero]
        norm_num
        ring
    _ ≤ |value| / 2 ^ 53 := by gcongr

end Turnstile.Binary64
