/-!
# Digits

Digits of a radix up to sixteen, read in either case and written in lower case.
Only ASCII digits count.
-/

namespace Turnstile.Text

/-- The value of a hexadecimal digit. -/
def hexValue? (c : Char) : Option Nat :=
  if '0' ≤ c ∧ c ≤ '9' then some (c.toNat - 48)
  else if 'a' ≤ c ∧ c ≤ 'f' then some (c.toNat - 87)
  else if 'A' ≤ c ∧ c ≤ 'F' then some (c.toNat - 55)
  else none

/-- The hexadecimal digit of a number below sixteen. -/
def hexDigit (n : Nat) : Char :=
  if n < 10 then Char.ofNat (48 + n) else Char.ofNat (87 + n)

/-- Whether a character is a digit of a radix. -/
def isDigitOf (radix : Nat) (c : Char) : Bool :=
  match hexValue? c with
  | some value => value < radix
  | none => false

/-- The digits of a radix that start a text, and what follows them. -/
def digits (radix : Nat) (input : List Char) : List Char × List Char :=
  (input.takeWhile (isDigitOf radix), input.dropWhile (isDigitOf radix))

/-- The number that digits spell. -/
def valueOf (radix : Nat) (spelled : List Char) : Nat :=
  spelled.foldl (fun value c => value * radix + (hexValue? c).getD 0) 0

/-- A number of exactly so many hexadecimal digits, each taken into the number so far. -/
def hexNumber? : Nat → Nat → List Char → Option (Nat × List Char)
  | 0, value, input => some (value, input)
  | _ + 1, _, [] => none
  | count + 1, value, c :: rest =>
      match hexValue? c with
      | some digit => hexNumber? count (value * 16 + digit) rest
      | none => none

/-- Reading so many digits leaves so many characters less. -/
theorem length_of_hexNumber? {count value number : Nat} {input rest : List Char}
    (read : hexNumber? count value input = some (number, rest)) :
    rest.length + count = input.length := by
  induction count generalizing value input with
  | zero =>
      simp only [hexNumber?, Option.some.injEq, Prod.mk.injEq] at read
      rw [read.2, Nat.add_zero]
  | succ count inductionHypothesis =>
      cases input with
      | nil => simp [hexNumber?] at read
      | cons c tail =>
          simp only [hexNumber?] at read
          split at read
          · have shorter := inductionHypothesis read
            simp only [List.length_cons]
            omega
          · cases read

end Turnstile.Text
