/-!
# Sets of characters as ranges

A set of characters is given by the ranges of code points that it holds, each by
its first and its last.
-/

namespace Turnstile.Text

/-- Whether a character lies in one of the ranges. -/
def inRanges (ranges : List (Nat × Nat)) (c : Char) : Bool :=
  ranges.any fun (first, last) => first ≤ c.toNat && c.toNat ≤ last

end Turnstile.Text
