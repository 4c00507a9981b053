import Turnstile.Binary64
import Turnstile.Text.Digit

/-!
# Numbers of TOML

Integers of 64 bits with a sign, in decimal or without a sign in a radix of
sixteen, eight or two, and decimal numbers. An underscore may stand between two
digits. A decimal number beyond the binary64 range is refused if it is positive.
-/

namespace Turnstile.Toml.Number

/-- Further digits of a radix, each after an underscore or not. -/
def moreDigits? (radix : Nat) : List Char → Option (List Char × List Char)
  | [] => some ([], [])
  | ['_'] => none
  | '_' :: c :: rest =>
      if Text.isDigitOf radix c then
        (moreDigits? radix rest).map fun (found, rest) => (c :: found, rest)
      else none
  | c :: rest =>
      if Text.isDigitOf radix c then
        (moreDigits? radix rest).map fun (found, rest) => (c :: found, rest)
      else some ([], c :: rest)

/-- At least one digit of a radix. -/
def digits? (radix : Nat) : List Char → Option (List Char × List Char)
  | c :: rest =>
      if Text.isDigitOf radix c then
        (moreDigits? radix rest).map fun (found, rest) => (c :: found, rest)
      else none
  | [] => none

/-- A sign, if there is one: whether it is negative. -/
def sign : List Char → Bool × List Char
  | '+' :: rest => (false, rest)
  | '-' :: rest => (true, rest)
  | input => (false, input)

/-- The digits of a whole number: a zero alone, or any that start with another one. -/
def whole? : List Char → Option (List Char × List Char)
  | '0' :: rest => some (['0'], rest)
  | input => digits? 10 input

/-- The bound of the magnitudes of signed 64-bit integers. -/
def signedBound : Nat := 9223372036854775808

/-- A decimal integer. -/
def decimalInteger? (input : List Char) : Option (Int × List Char) := do
  let (negative, input) := sign input
  let (found, rest) ← whole? input
  let size := Text.valueOf 10 found
  if negative then
    if size ≤ signedBound then some (-(size : Int), rest) else none
  else if size < signedBound then some ((size : Int), rest)
  else none

/-- An integer of a radix after its mark. -/
def radixInteger? (radix : Nat) (input : List Char) : Option (Int × List Char) := do
  let (found, rest) ← digits? radix input
  let size := Text.valueOf radix found
  if size < signedBound then some ((size : Int), rest) else none

/-- An integer. -/
def integer? : List Char → Option (Int × List Char)
  | '0' :: 'x' :: rest => radixInteger? 16 rest
  | '0' :: 'o' :: rest => radixInteger? 8 rest
  | '0' :: 'b' :: rest => radixInteger? 2 rest
  | input => decimalInteger? input

/-- The digits after a point, if there is one. -/
def fraction? : List Char → Option (List Char × List Char)
  | '.' :: rest => digits? 10 rest
  | input => some ([], input)

/-- The exponent after its letter, if there is one. -/
def exponent? : List Char → Option (Int × List Char)
  | [] => some (0, [])
  | c :: rest =>
      if c = 'e' ∨ c = 'E' then do
        let (negative, rest) := sign rest
        let (found, rest) ← digits? 10 rest
        let size : Int := Text.valueOf 10 found
        some (if negative then -size else size, rest)
      else some (0, c :: rest)

/-- Whether the number with these digits and this decimal exponent rounds to a
binary64 number. -/
def isInRange (found : List Char) (exponent : Int) : Bool :=
  let significand := Text.valueOf 10 found
  if significand = 0 ∨ exponent + found.length < 300 then true
  else if 400 < exponent then false
  else
    match Binary64.round ((significand : Rat) * (10 : Rat) ^ exponent) with
    | .finite _ => true
    | _ => false

/-- What follows a decimal number with a point or an exponent. -/
def skipDecimal? (input : List Char) : Option (List Char) := do
  let (negative, digits) := sign input
  let (whole, afterWhole) ← whole? digits
  let (fraction, afterFraction) ← fraction? afterWhole
  let (exponent, rest) ← exponent? afterFraction
  if rest.length = afterWhole.length then none
  else if negative || isInRange (whole ++ fraction) (exponent - fraction.length) then some rest
  else none

/-- What follows an infinity or what is not a number. -/
def skipSpecial? (input : List Char) : Option (List Char) :=
  let (_, input) := sign input
  ("inf".toList.isPrefixOf? input).or ("nan".toList.isPrefixOf? input)

/-- What follows a number that is no integer. -/
def skipNonInteger? (input : List Char) : Option (List Char) :=
  (skipDecimal? input).or (skipSpecial? input)

end Turnstile.Toml.Number
