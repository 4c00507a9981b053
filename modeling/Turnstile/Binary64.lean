/-!
# Binary64 arithmetic on exact rationals

A finite binary64 number is carried as the rational it denotes, and every
operation is the exact rational operation followed by one rounding to the
nearest binary64 number, ties to the even significand. Sums and quotients are
therefore the numbers a floating-point unit computes, and statements about them
are statements about `Rat`.

The sign of zero is not kept: no operation here divides by a negative zero or
writes a sign.
-/

namespace Turnstile

/-- A binary64 number, a finite one given by its value. -/
inductive Binary64 where
  | finite (value : Rat)
  | infinite (negative : Bool)
  | notANumber
  deriving DecidableEq, Repr

namespace Binary64

/-- The exponent of the greatest power of two not above the magnitude of a
nonzero rational. -/
def binaryExponent (value : Rat) : Int :=
  let estimate : Int := (Nat.log2 value.num.natAbs : Int) - (Nat.log2 value.den : Int)
  let magnitude := if value < 0 then -value else value
  if (2 : Rat) ^ estimate ≤ magnitude then estimate else estimate - 1

/-- The exponent of the unit in which numbers of this magnitude are counted:
53 significant bits, and never finer than the least subnormal. -/
def unitExponent (value : Rat) : Int :=
  let wanted := binaryExponent value - 52
  if wanted < -1074 then -1074 else wanted

/-- The nearest integer, a half going to the even neighbour. -/
def nearestInteger (value : Rat) : Int :=
  let low := value.floor
  let gap := value - (low : Rat)
  if gap < 1 / 2 then low
  else if 1 / 2 < gap then low + 1
  else if low % 2 = 0 then low
  else low + 1

/-- The nearest number with 53 significant bits, were the exponent unbounded above. -/
def nearest (value : Rat) : Rat :=
  let unit := (2 : Rat) ^ unitExponent value
  (nearestInteger (value / unit) : Rat) * unit

/-- The first power of two beyond the finite range. -/
def overflowBound : Rat := (2 : Rat) ^ (1024 : Int)

/-- The binary64 number nearest to a rational; past the finite range, an infinity. -/
def round (value : Rat) : Binary64 :=
  let rounded := nearest value
  if overflowBound ≤ rounded then .infinite false
  else if rounded ≤ -overflowBound then .infinite true
  else .finite rounded

/-- The nearest binary64 number to a natural number. -/
def ofNat (n : Nat) : Binary64 := round (n : Rat)

/-- The nearest binary64 number to an unsigned 64-bit integer. -/
def ofUInt64 (n : UInt64) : Binary64 := ofNat n.toNat

/-- The sign-flipped number. -/
def neg : Binary64 → Binary64
  | .finite value => .finite (-value)
  | .infinite negative => .infinite (!negative)
  | .notANumber => .notANumber

/-- The rounded sum. -/
def add : Binary64 → Binary64 → Binary64
  | .finite left, .finite right => round (left + right)
  | .infinite left, .infinite right =>
      if left = right then .infinite left else .notANumber
  | .notANumber, _ => .notANumber
  | _, .notANumber => .notANumber
  | .infinite left, .finite _ => .infinite left
  | .finite _, .infinite right => .infinite right

/-- The rounded difference. -/
def sub (left right : Binary64) : Binary64 := add left (neg right)

/-- The rounded product. -/
def mul : Binary64 → Binary64 → Binary64
  | .finite left, .finite right => round (left * right)
  | .infinite left, .infinite right => .infinite (left != right)
  | .notANumber, _ => .notANumber
  | _, .notANumber => .notANumber
  | .infinite left, .finite right =>
      if right = 0 then .notANumber else .infinite (left != decide (right < 0))
  | .finite left, .infinite right =>
      if left = 0 then .notANumber else .infinite (right != decide (left < 0))

/-- The rounded quotient; a nonzero number over zero is an infinity of its own sign. -/
def div : Binary64 → Binary64 → Binary64
  | .finite left, .finite right =>
      if right = 0 then
        if left = 0 then .notANumber else .infinite (decide (left < 0))
      else round (left / right)
  | .infinite _, .infinite _ => .notANumber
  | .notANumber, _ => .notANumber
  | _, .notANumber => .notANumber
  | .infinite left, .finite right => .infinite (left != decide (right < 0))
  | .finite _, .infinite _ => .finite 0

instance : Neg Binary64 := ⟨neg⟩
instance : Add Binary64 := ⟨add⟩
instance : Sub Binary64 := ⟨sub⟩
instance : Mul Binary64 := ⟨mul⟩
instance : Div Binary64 := ⟨div⟩

/-- The order comparison, false as soon as one side is not a number. -/
def le : Binary64 → Binary64 → Bool
  | .finite left, .finite right => decide (left ≤ right)
  | .infinite left, .infinite right => left || !right
  | .infinite left, .finite _ => left
  | .finite _, .infinite right => !right
  | .notANumber, _ => false
  | _, .notANumber => false

/-- The lesser of two numbers; against something that is not a number, the other one. -/
def lesser : Binary64 → Binary64 → Binary64
  | .notANumber, right => right
  | left, .notANumber => left
  | left, right => if le left right then left else right

/-- The nearest unsigned 64-bit integer to an integer. -/
def clampUInt64 (n : Int) : UInt64 :=
  if n ≤ 0 then 0
  else if n < 18446744073709551616 then UInt64.ofNat n.toNat
  else 18446744073709551615

/-- The floor as an unsigned 64-bit integer: values outside its range go to the
nearest end, and what is not a number goes to zero. -/
def floorUInt64 : Binary64 → UInt64
  | .finite value => clampUInt64 value.floor
  | .infinite negative => if negative then 0 else 18446744073709551615
  | .notANumber => 0

/-- The ceiling as an unsigned 64-bit integer, clamped as `floorUInt64` clamps. -/
def ceilUInt64 : Binary64 → UInt64
  | .finite value => clampUInt64 value.ceil
  | .infinite negative => if negative then 0 else 18446744073709551615
  | .notANumber => 0

end Binary64

end Turnstile
