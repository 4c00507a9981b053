import Turnstile.Text.Digit

/-!
# Dates and times of TOML

A date, a time of day, or a date and a time with or without an offset, as in
RFC 3339. Days are checked against the month and the year.
-/

namespace Turnstile.Toml.Moment

/-- A number of exactly two digits in a range. -/
def pair? (low high : Nat) : List Char → Option (Nat × List Char)
  | a :: b :: rest =>
      if a.isDigit ∧ b.isDigit then
        let value := (a.toNat - 48) * 10 + (b.toNat - 48)
        if low ≤ value ∧ value ≤ high then some (value, rest) else none
      else none
  | _ => none

/-- What follows a fixed character. -/
def expect? (c : Char) : List Char → Option (List Char)
  | first :: rest => if first = c then some rest else none
  | [] => none

/-- Whether a year has a leap day. -/
def isLeapYear (year : Nat) : Bool :=
  year % 4 == 0 && (year % 100 != 0 || year % 400 == 0)

/-- The number of days of a month. -/
def daysOf (year month : Nat) : Nat :=
  if month = 2 then (if isLeapYear year then 29 else 28)
  else if month = 4 ∨ month = 6 ∨ month = 9 ∨ month = 11 then 30
  else 31

/-- What follows a date. -/
def date? (input : List Char) : Option (List Char) := do
  let (century, input) ← pair? 0 99 input
  let (year, input) ← pair? 0 99 input
  let (month, input) ← pair? 1 12 (← expect? '-' input)
  let (day, input) ← pair? 1 31 (← expect? '-' input)
  if day ≤ daysOf (century * 100 + year) month then some input else none

/-- What follows a fraction of a second, if there is one. -/
def skipFraction : List Char → List Char
  | '.' :: c :: rest => if c.isDigit then rest.dropWhile Char.isDigit else '.' :: c :: rest
  | input => input

/-- What follows a time of day. -/
def time? (input : List Char) : Option (List Char) := do
  let (_, input) ← pair? 0 23 input
  let (_, input) ← pair? 0 59 (← expect? ':' input)
  let (_, input) ← pair? 0 60 (← expect? ':' input)
  some (skipFraction input)

/-- What follows an offset in hours and minutes. -/
def numericOffset? (input : List Char) : Option (List Char) := do
  let (_, input) ← pair? 0 23 input
  let (_, input) ← pair? 0 59 (← expect? ':' input)
  some input

/-- What follows an offset, if there is one. -/
def skipOffset : List Char → List Char
  | c :: rest =>
      if c = 'Z' ∨ c = 'z' then rest
      else if c = '+' ∨ c = '-' then (numericOffset? rest).getD (c :: rest)
      else c :: rest
  | [] => []

/-- What follows the time of a date, if there is one. -/
def skipTime : List Char → List Char
  | c :: rest =>
      if c = 'T' ∨ c = 't' ∨ c = ' ' then
        match time? rest with
        | some rest => skipOffset rest
        | none => c :: rest
      else c :: rest
  | [] => []

/-- What follows a moment. -/
def skip? (input : List Char) : Option (List Char) :=
  match date? input with
  | some rest => some (skipTime rest)
  | none => time? input

end Turnstile.Toml.Moment
