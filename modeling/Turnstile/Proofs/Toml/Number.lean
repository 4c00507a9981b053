import Mathlib.Data.List.Basic
import Turnstile.Proofs.Text.Digit
import Turnstile.Proofs.Toml.Moment

/-!
# Reading numbers of TOML

The reader of a value tries a moment, then a decimal number, then an integer, and each of
these spells its value for one of the three readers only. What tells them apart is the
character behind the first digits: a colon or a hyphen for moments, a point or the letter of
an exponent for decimal numbers, and for an integer neither of these.
-/

namespace Turnstile.Toml.Grammar

/-! ## Digits -/

/-- A character that goes on with digits. -/
def isDigitPart (radix : Nat) (c : Char) : Bool := Text.isDigitOf radix c || c = '_'

theorem isDigitOf_underscore (radix : Nat) : Text.isDigitOf radix '_' = false := rfl

theorem ne_underscore_of_digit {radix : Nat} {c : Char} (digit : Text.isDigitOf radix c = true) :
    c ≠ '_' := by
  rintro rfl
  rw [isDigitOf_underscore] at digit
  cases digit

/-- Digits start with a digit, the first of those that are found. -/
theorem Digits.start {radix : Nat} {input found rest : List Char}
    (digits : Digits radix input found rest) :
    ∃ c tail, input = c :: tail ∧ Text.isDigitOf radix c = true ∧ found.head? = some c := by
  cases digits with
  | last digit => exact ⟨_, _, rfl, digit, rfl⟩
  | more digit => exact ⟨_, _, rfl, digit, rfl⟩
  | underscore digit => exact ⟨_, _, rfl, digit, rfl⟩

theorem Digits.length_lt {radix : Nat} {input found rest : List Char}
    (digits : Digits radix input found rest) : rest.length < input.length := by
  induction digits with
  | last => exact Nat.lt_succ_self _
  | more _ _ inductionHypothesis => exact Nat.lt_succ_of_lt inductionHypothesis
  | underscore _ _ inductionHypothesis =>
      exact Nat.lt_succ_of_lt (Nat.lt_succ_of_lt inductionHypothesis)

private theorem moreDigits?_of_digit {radix : Nat} {c : Char}
    (digit : Text.isDigitOf radix c = true) (rest : List Char) :
    Number.moreDigits? radix (c :: rest) =
      (Number.moreDigits? radix rest).map fun (found, rest) => (c :: found, rest) := by
  have notUnderscore := ne_underscore_of_digit digit
  rw [Number.moreDigits?, if_pos digit]
  · exact fun same _ => notUnderscore same
  · exact fun _ _ same _ => notUnderscore same

private theorem moreDigits?_of_stops {radix : Nat} {rest : List Char}
    (stops : Stops (isDigitPart radix) rest) :
    Number.moreDigits? radix rest = some ([], rest) := by
  cases rest with
  | nil => rw [Number.moreDigits?]
  | cons c rest =>
      have other : Text.isDigitOf radix c = false ∧ c ≠ '_' := by
        simpa [isDigitPart] using stops c rfl
      rw [Number.moreDigits?, if_neg (by simp [other.1])]
      · exact fun same _ => other.2 same
      · exact fun _ _ same _ => other.2 same

/-- Digits are read to those that are found. -/
private theorem Digits.moreDigits?_eq {radix : Nat} {input found rest : List Char}
    (digits : Digits radix input found rest) (stops : Stops (isDigitPart radix) rest) :
    Number.moreDigits? radix input = some (found, rest) := by
  induction digits with
  | last digit => rw [moreDigits?_of_digit digit, moreDigits?_of_stops stops]; rfl
  | more digit _ inductionHypothesis =>
      rw [moreDigits?_of_digit digit, inductionHypothesis stops]
      rfl
  | underscore digit later inductionHypothesis =>
      -- The reader takes an underscore together with the digit behind it.
      obtain ⟨next, tail, rfl, nextDigit, _⟩ := later.start
      have both : Number.moreDigits? radix ('_' :: next :: tail) =
          Number.moreDigits? radix (next :: tail) := by
        rw [Number.moreDigits?, if_pos nextDigit, moreDigits?_of_digit nextDigit]
      rw [moreDigits?_of_digit digit, both, inductionHypothesis stops]
      rfl

theorem Digits.digits?_eq {radix : Nat} {input found rest : List Char}
    (digits : Digits radix input found rest) (stops : Stops (isDigitPart radix) rest) :
    Number.digits? radix input = some (found, rest) := by
  have read := digits.moreDigits?_eq stops
  obtain ⟨c, tail, rfl, digit, _⟩ := digits.start
  rw [Number.digits?, if_pos digit, ← read, moreDigits?_of_digit digit]

/-- Behind the digits in front there is an underscore, or what follows all digits. -/
private theorem Digits.stops_dropWhile {input found rest : List Char}
    (digits : Digits 10 input found rest) {kind : Char → Bool} (notUnderscore : kind '_' = false)
    (noDigit : Stops Char.isDigit rest) (stops : Stops kind rest) :
    Stops kind (input.dropWhile Char.isDigit) := by
  have isDigit : ∀ {c : Char}, Text.isDigitOf 10 c = true → c.isDigit = true :=
    fun digit => (Text.isDigitOf_ten _).symm.trans digit
  induction digits with
  | last digit =>
      rw [List.dropWhile_cons_of_pos (isDigit digit), noDigit.dropWhile_eq]
      exact stops
  | more digit _ inductionHypothesis =>
      rw [List.dropWhile_cons_of_pos (isDigit digit)]
      exact inductionHypothesis noDigit stops
  | underscore digit =>
      rw [List.dropWhile_cons_of_pos (isDigit digit), List.dropWhile_cons_of_neg (by decide)]
      exact stops_cons notUnderscore _

/-! ## Whole numbers -/

/-- A whole number starts with a digit. -/
theorem Whole.starts {input found rest : List Char} (whole : Whole input found rest) :
    Starts Char.isDigit input := by
  cases whole with
  | zero => exact ⟨'0', _, rfl, rfl⟩
  | digits digits =>
      obtain ⟨c, tail, rfl, digit, _⟩ := digits.start
      exact ⟨c, tail, rfl, (Text.isDigitOf_ten c).symm.trans digit⟩

theorem Whole.length_lt {input found rest : List Char} (whole : Whole input found rest) :
    rest.length < input.length := by
  cases whole with
  | zero => exact Nat.lt_succ_self _
  | digits digits => exact digits.length_lt

theorem Whole.whole?_eq {input found rest : List Char} (whole : Whole input found rest)
    (stops : Stops (isDigitPart 10) rest) : Number.whole? input = some (found, rest) := by
  cases whole with
  | zero => rw [Number.whole?]
  | digits digits notZero =>
      rw [Number.whole?, digits.digits?_eq stops]
      rintro tail rfl
      obtain ⟨_, _, same, _, first⟩ := digits.start
      obtain ⟨rfl, _⟩ := List.cons.inj same
      exact notZero first

private theorem isDigit_of_isDigitPart {c : Char} (digit : c.isDigit = true) :
    isDigitPart 10 c = true := by
  simp [isDigitPart, Text.isDigitOf_ten, digit]

private theorem Whole.stops_dropWhile {input found rest : List Char}
    (whole : Whole input found rest) {kind : Char → Bool} (notUnderscore : kind '_' = false)
    (noDigit : Stops (isDigitPart 10) rest) (stops : Stops kind rest) :
    Stops kind (input.dropWhile Char.isDigit) := by
  have noDigit := noDigit.mono fun _ => isDigit_of_isDigitPart
  cases whole with
  | zero =>
      rw [List.dropWhile_cons_of_pos (by decide), Stops.dropWhile_eq noDigit]
      exact stops
  | digits digits => exact digits.stops_dropWhile notUnderscore noDigit stops

/-! ## Signs -/

/-- The characters of signs. -/
def isSign (c : Char) : Bool := c = '+' || c = '-'

theorem Sign.sign_eq {negative : Bool} {input rest : List Char} (sign : Sign input negative rest)
    (stops : Stops isSign rest) : Number.sign input = (negative, rest) := by
  cases sign with
  | none =>
      unfold Number.sign
      split
      · exact absurd (stops '+' rfl) (by decide)
      · exact absurd (stops '-' rfl) (by decide)
      · rfl
  | plus => rfl
  | minus => rfl

theorem Sign.length_le {negative : Bool} {input rest : List Char}
    (sign : Sign input negative rest) : rest.length ≤ input.length := by
  cases sign with
  | none => exact Nat.le_refl _
  | plus | minus => exact Nat.le_succ _

/-- What a sign stands in front of is what a number starts with, or the sign is. -/
private theorem Sign.input_eq {negative : Bool} {input rest : List Char}
    (sign : Sign input negative rest) :
    input = rest ∨ Starts isSign input := by
  cases sign with
  | none => exact .inl rfl
  | plus | minus => exact .inr ⟨_, _, rfl, by decide⟩

theorem isSign_of_isDigit {c : Char} (digit : c.isDigit = true) : isSign c = false := by
  have plus : c ≠ '+' := by rintro rfl; exact absurd digit (by decide)
  have minus : c ≠ '-' := by rintro rfl; exact absurd digit (by decide)
  simp [isSign, plus, minus]

theorem Whole.stops_isSign {input found rest : List Char} (whole : Whole input found rest) :
    Stops isSign input := by
  obtain ⟨c, tail, rfl, digit⟩ := whole.starts
  exact stops_cons (isSign_of_isDigit digit) tail

/-! ## Integers -/

private theorem skip?_of_stops_digit {input : List Char} (stops : Stops Char.isDigit input) :
    Moment.skip? input = none := by
  rw [Option.eq_none_iff_forall_ne_some]
  exact fun rest read => (skip?_digits read).1 stops

private theorem skip?_of_stops_mark {input : List Char}
    (stops : Stops (fun c => c = ':' || c = '-') (input.dropWhile Char.isDigit)) :
    Moment.skip? input = none := by
  rw [Option.eq_none_iff_forall_ne_some]
  exact fun rest read => (skip?_digits read).2 stops

/-- A whole number with or without a sign is no moment. -/
private theorem skip?_of_whole {negative : Bool} {input start found rest : List Char}
    (sign : Sign input negative start) (whole : Whole start found rest)
    (noDigit : Stops (isDigitPart 10) rest) (stops : Stops (fun c => c = ':' || c = '-') rest) :
    Moment.skip? input = none := by
  rcases sign.input_eq with rfl | ⟨c, tail, rfl, isSignC⟩
  · exact skip?_of_stops_mark (whole.stops_dropWhile (by decide) noDigit stops)
  · refine skip?_of_stops_digit (stops_cons ?_ tail)
    cases digit : c.isDigit with
    | false => rfl
    | true =>
        rw [isSign_of_isDigit digit] at isSignC
        cases isSignC

/-- Without a point and the letter of an exponent, a number is no decimal number. -/
private theorem skipDecimal?_of_whole {negative : Bool} {input start found rest : List Char}
    (sign : Number.sign input = (negative, start))
    (whole : Number.whole? start = some (found, rest))
    (stops : Stops (fun c => c = '.' || c = 'e' || c = 'E') rest) :
    Number.skipDecimal? input = none := by
  have noFraction : Number.fraction? rest = some ([], rest) := by
    unfold Number.fraction?
    split
    · exact absurd (stops '.' rfl) (by decide)
    · rfl
  have noExponent : Number.exponent? rest = some (0, rest) := by
    cases rest with
    | nil => rfl
    | cons c rest =>
        have other : ¬(c = 'e' ∨ c = 'E') := by
          have := stops c rfl
          simp only [Bool.or_eq_false_iff, decide_eq_false_iff_not] at this
          exact not_or.mpr ⟨this.1.2, this.2⟩
        rw [Number.exponent?, if_neg other]
  simp only [Number.skipDecimal?, sign, whole, noFraction, noExponent, Option.bind_eq_bind,
    Option.bind_some, if_true]

private theorem skipSpecial?_of_start {input start : List Char} {negative : Bool} {c : Char}
    {tail : List Char} (sign : Number.sign input = (negative, start)) (cons : start = c :: tail)
    (other : c ≠ 'i' ∧ c ≠ 'n') : Number.skipSpecial? input = none := by
  have infinity : "inf".toList.isPrefixOf? (c :: tail) = none := by
    simp [List.isPrefixOf?, Ne.symm other.1]
  have notNumber : "nan".toList.isPrefixOf? (c :: tail) = none := by
    simp [List.isPrefixOf?, Ne.symm other.2]
  simp only [Number.skipSpecial?, sign, cons, infinity, notNumber, Option.or_none]

private theorem skipNonInteger?_of_whole {negative : Bool} {input start found rest : List Char}
    (sign : Sign input negative start) (whole : Whole start found rest)
    (noDigit : Stops (isDigitPart 10) rest)
    (stops : Stops (fun c => c = '.' || c = 'e' || c = 'E') rest) :
    Number.skipNonInteger? input = none := by
  have signRead := sign.sign_eq whole.stops_isSign
  obtain ⟨c, tail, cons, digit⟩ := whole.starts
  have other : c ≠ 'i' ∧ c ≠ 'n' := by
    constructor <;> rintro rfl <;> exact absurd digit (by decide)
  rw [Number.skipNonInteger?, skipDecimal?_of_whole signRead (whole.whole?_eq noDigit) stops,
    skipSpecial?_of_start signRead cons other, Option.none_or]

/-- A whole number in front of what ends a value has no radix of its own. -/
private theorem integer?_of_whole {negative : Bool} {input start found rest : List Char}
    (sign : Sign input negative start) (whole : Whole start found rest)
    (stops : Stops (fun c => c = 'x' || c = 'o' || c = 'b') rest) :
    Number.integer? input = Number.decimalInteger? input := by
  have noLetter : ∀ letter, (letter = 'x' ∨ letter = 'o' ∨ letter = 'b') →
      ∀ tail, input ≠ '0' :: letter :: tail := by
    rintro letter isLetter tail rfl
    rcases sign.input_eq with rfl | ⟨c, _, same, isSignC⟩
    · generalize spelled : '0' :: letter :: tail = all at whole
      cases whole with
      | zero =>
          obtain ⟨_, rfl⟩ := List.cons.inj spelled
          rcases isLetter with rfl | rfl | rfl <;> exact absurd (stops _ rfl) (by decide)
      | digits digits notZero =>
          obtain ⟨_, _, cons, _, first⟩ := digits.start
          obtain ⟨rfl, _⟩ := List.cons.inj (spelled.trans cons)
          exact notZero first
    · obtain ⟨rfl, _⟩ := List.cons.inj same
      exact absurd isSignC (by decide)
  unfold Number.integer?
  split
  · next tail => exact absurd rfl (noLetter 'x' (by decide) tail)
  · next tail => exact absurd rfl (noLetter 'o' (by decide) tail)
  · next tail => exact absurd rfl (noLetter 'b' (by decide) tail)
  · rfl

/-- A whole number in front of what ends a value is read as an integer. -/
private theorem numeric?_of_whole {negative : Bool} {input start found rest : List Char}
    (sign : Sign input negative start) (whole : Whole start found rest) (ends : Ends rest) :
    numeric? input =
      (Number.decimalInteger? input).map fun (value, rest) => (.integer value, rest) := by
  have noDigit : Stops (isDigitPart 10) rest := ends.stops (by decide)
  have noMark : Stops (fun c => c = ':' || c = '-') rest := ends.stops (by decide)
  have noPoint : Stops (fun c => c = '.' || c = 'e' || c = 'E') rest := ends.stops (by decide)
  have noLetter : Stops (fun c => c = 'x' || c = 'o' || c = 'b') rest := ends.stops (by decide)
  simp only [numeric?, skip?_of_whole sign whole noDigit noMark,
    skipNonInteger?_of_whole sign whole noDigit noPoint, integer?_of_whole sign whole noLetter]

private theorem eq_of_mem_radixes {letter : Char} {radix : Nat}
    (listed : (letter, radix) ∈ radixes) :
    letter = 'x' ∧ radix = 16 ∨ letter = 'o' ∧ radix = 8 ∨ letter = 'b' ∧ radix = 2 := by
  simpa [radixes] using listed

/-- A zero and the letter of a radix start an integer of that radix. -/
private theorem numeric?_of_radix {letter : Char} {radix : Nat}
    (listed : (letter, radix) ∈ radixes) (input : List Char) :
    numeric? ('0' :: letter :: input) =
      (Number.radixInteger? radix input).map fun (value, rest) => (.integer value, rest) := by
  have zero : Whole ('0' :: letter :: input) ['0'] (letter :: input) := .zero
  have stops : ∀ {kind : Char → Bool}, (radixes.map Prod.fst).any kind = false →
      Stops kind (letter :: input) := fun others =>
    stops_cons (eq_false_of_any others (List.mem_map.mpr ⟨_, listed, rfl⟩)) input
  have noDigit : Stops (isDigitPart 10) (letter :: input) := stops (by decide)
  simp only [numeric?, skip?_of_whole .none zero noDigit (stops (by decide)),
    skipNonInteger?_of_whole .none zero noDigit (stops (by decide))]
  rcases eq_of_mem_radixes listed with ⟨rfl, rfl⟩ | ⟨rfl, rfl⟩ | ⟨rfl, rfl⟩ <;> rfl

/-- An integer is read as an integer. -/
theorem Integer.numeric?_eq {value : Int} {input rest : List Char}
    (integer : Integer input value rest) (ends : Ends rest) :
    numeric? input = some (.integer value, rest) := by
  cases integer with
  | positive sign whole fits =>
      simp only [numeric?_of_whole sign whole ends, Number.decimalInteger?,
        sign.sign_eq whole.stops_isSign, whole.whole?_eq (ends.stops (by decide)),
        Option.bind_eq_bind, Option.bind_some, Bool.false_eq_true, if_false, if_pos fits,
        Option.map_some]
  | negative sign whole fits =>
      simp only [numeric?_of_whole sign whole ends, Number.decimalInteger?,
        sign.sign_eq whole.stops_isSign, whole.whole?_eq (ends.stops (by decide)),
        Option.bind_eq_bind, Option.bind_some, if_true, if_pos fits, Option.map_some]
  | @radix letter radix input found _ listed digits fits =>
      have noDigit : Stops (isDigitPart radix) rest := by
        rcases eq_of_mem_radixes listed with ⟨_, rfl⟩ | ⟨_, rfl⟩ | ⟨_, rfl⟩ <;>
          exact ends.stops (by decide)
      simp only [numeric?_of_radix listed, Number.radixInteger?, digits.digits?_eq noDigit,
        Option.bind_eq_bind, Option.bind_some, if_pos fits, Option.map_some]

theorem Integer.length_lt {value : Int} {input rest : List Char}
    (integer : Integer input value rest) : rest.length < input.length := by
  cases integer with
  | positive sign whole | negative sign whole =>
      have front := sign.length_le
      have digits := whole.length_lt
      omega
  | radix _ digits =>
      have := digits.length_lt
      simp only [List.length_cons]
      omega

/-! ## Decimal numbers -/

theorem Exponent.exponent?_eq {exponent : Int} {input rest : List Char}
    (exponentPart : Exponent input exponent rest) (ends : Ends rest) :
    Number.exponent? input = some (exponent, rest) := by
  cases exponentPart with
  | none =>
      cases input with
      | nil => rfl
      | cons c rest =>
          have stops : Stops (fun c => c = 'e' || c = 'E') (c :: rest) := ends.stops (by decide)
          have other : ¬(c = 'e' ∨ c = 'E') := by simpa using stops c rfl
          rw [Number.exponent?, if_neg other]
  | letter letter sign digits =>
      obtain ⟨c, tail, rfl, digit, _⟩ := digits.start
      have noSign : Stops isSign (c :: tail) :=
        stops_cons (isSign_of_isDigit ((Text.isDigitOf_ten c).symm.trans digit)) tail
      rw [Number.exponent?, if_pos letter]
      simp only [sign.sign_eq noSign, digits.digits?_eq (ends.stops (by decide)),
        Option.bind_eq_bind, Option.bind_some]

/-- An exponent starts with its letter, or there is none. -/
theorem Exponent.stops {exponent : Int} {input rest : List Char}
    (exponentPart : Exponent input exponent rest) (ends : Ends rest) {kind : Char → Bool}
    (others : ('e' :: 'E' :: ' ' :: '\t' :: endings).any kind = false) : Stops kind input := by
  cases exponentPart with
  | none =>
      refine ends.stops ?_
      simp only [List.any_cons, Bool.or_eq_false_iff] at others ⊢
      exact others.2.2
  | letter letter =>
      refine stops_cons (eq_false_of_any others ?_) _
      rcases letter with rfl | rfl <;> simp

theorem Exponent.eq_or_length_lt {exponent : Int} {input rest : List Char}
    (exponentPart : Exponent input exponent rest) :
    rest = input ∨ rest.length < input.length := by
  cases exponentPart with
  | none => exact .inl rfl
  | letter _ sign digits =>
      have front := sign.length_le
      have shorter := digits.length_lt
      rw [List.length_cons]
      exact .inr (by omega)

theorem Fraction.fraction?_eq {input found rest : List Char}
    (fraction : Fraction input found rest) (noPoint : Stops (· = '.') rest)
    (noDigit : Stops (isDigitPart 10) rest) : Number.fraction? input = some (found, rest) := by
  cases fraction with
  | none =>
      unfold Number.fraction?
      split
      · exact absurd (noPoint '.' rfl) (by decide)
      · rfl
  | point digits => rw [Number.fraction?, digits.digits?_eq noDigit]

/-- A fraction starts with its point, or there is none. -/
theorem Fraction.stops {input found rest : List Char} (fraction : Fraction input found rest)
    {kind : Char → Bool} (notPoint : kind '.' = false) (stops : Stops kind rest) :
    Stops kind input := by
  cases fraction with
  | none => exact stops
  | point => exact stops_cons notPoint _

theorem Fraction.eq_or_length_lt {input found rest : List Char}
    (fraction : Fraction input found rest) : rest = input ∨ rest.length < input.length := by
  cases fraction with
  | none => exact .inl rfl
  | point digits => exact .inr (Nat.lt_succ_of_lt digits.length_lt)

/-- A decimal number is read as one. -/
theorem Decimal.numeric?_eq {input rest : List Char} (decimal : Decimal input rest)
    (ends : Ends rest) : numeric? input = some (.decimal (consumed input rest), rest) := by
  cases decimal with
  | @mk negative exponent _ start whole afterWhole fraction afterFraction _ sign wholePart
      fractionPart exponentPart either inRange =>
      have noPoint : Stops (· = '.') afterFraction := exponentPart.stops ends (by decide)
      have noDigit : Stops (isDigitPart 10) afterFraction := exponentPart.stops ends (by decide)
      have afterDigits : Stops (isDigitPart 10) afterWhole := fractionPart.stops (by decide) noDigit
      have noMark : Stops (fun c => c = ':' || c = '-') afterWhole :=
        fractionPart.stops (by decide) (exponentPart.stops ends (by decide))
      have shorter : rest.length ≠ afterWhole.length := by
        rcases exponentPart.eq_or_length_lt with rfl | lt
        · rcases fractionPart.eq_or_length_lt with rfl | lt
          · exact absurd rfl either
          · omega
        · rcases fractionPart.eq_or_length_lt with rfl | _ <;> omega
      have inRange : (negative || Number.isInRange (whole ++ fraction)
          (exponent - fraction.length)) = true := by
        simpa using inRange
      have read : Number.skipDecimal? input = some rest := by
        simp only [Number.skipDecimal?, sign.sign_eq wholePart.stops_isSign,
          wholePart.whole?_eq afterDigits, fractionPart.fraction?_eq noPoint noDigit,
          exponentPart.exponent?_eq ends, Option.bind_eq_bind, Option.bind_some, if_neg shorter,
          if_pos inRange]
      simp only [numeric?, skip?_of_whole sign wholePart afterDigits noMark,
        Number.skipNonInteger?, read, Option.some_or]

theorem Decimal.length_lt {input rest : List Char} (decimal : Decimal input rest) :
    rest.length < input.length := by
  cases decimal with
  | mk sign wholePart fractionPart exponentPart =>
      have front := sign.length_le
      have digits := wholePart.length_lt
      rcases exponentPart.eq_or_length_lt with rfl | _ <;>
        rcases fractionPart.eq_or_length_lt with rfl | _ <;> omega

private theorem numeric?_of_special {negative : Bool} {c : Char} {input tail rest : List Char}
    (sign : Sign input negative (c :: tail)) (letter : c = 'i' ∨ c = 'n')
    (read : Number.skipSpecial? input = some rest) :
    numeric? input = some (.decimal (consumed input rest), rest) := by
  have notSign : isSign c = false := by rcases letter with rfl | rfl <;> decide
  have noWhole : Number.whole? (c :: tail) = none := by
    have notDigit : Text.isDigitOf 10 c = false := by rcases letter with rfl | rfl <;> decide
    rw [Number.whole?, Number.digits?, if_neg (by simp [notDigit])]
    rintro _ same
    obtain ⟨rfl, _⟩ := List.cons.inj same
    exact absurd letter (by decide)
  have noMoment : Moment.skip? input = none := by
    refine skip?_of_stops_digit ?_
    rcases sign.input_eq with rfl | ⟨first, _, rfl, isSignFirst⟩
    · rcases letter with rfl | rfl <;> exact stops_cons (by decide) tail
    · have either : first = '+' ∨ first = '-' := by simpa [isSign] using isSignFirst
      rcases either with rfl | rfl <;> exact stops_cons (by decide) _
  have noDecimal : Number.skipDecimal? input = none := by
    simp only [Number.skipDecimal?, sign.sign_eq (stops_cons notSign tail), noWhole,
      Option.bind_eq_bind, Option.bind_none]
  simp only [numeric?, noMoment, Number.skipNonInteger?, noDecimal, read, Option.none_or]

/-- An infinity and what is not a number are read as decimal numbers. -/
theorem Special.numeric?_eq {input rest : List Char} (special : Special input rest) :
    numeric? input = some (.decimal (consumed input rest), rest) := by
  cases special with
  | infinity sign =>
      refine numeric?_of_special sign (.inl rfl) ?_
      simp [Number.skipSpecial?, sign.sign_eq (stops_cons (by decide) _), List.isPrefixOf?]
  | notNumber sign =>
      refine numeric?_of_special sign (.inr rfl) ?_
      simp [Number.skipSpecial?, sign.sign_eq (stops_cons (by decide) _), List.isPrefixOf?]

theorem Special.length_lt {input rest : List Char} (special : Special input rest) :
    rest.length < input.length := by
  cases special with
  | infinity sign | notNumber sign =>
      have := sign.length_le
      simp only [List.length_cons] at this
      omega

/-- A moment is read as one. -/
theorem Moment.numeric?_eq {input rest : List Char} (moment : Moment input rest)
    (ends : Ends rest) : numeric? input = some (.moment (consumed input rest), rest) := by
  simp only [numeric?, moment.skip?_eq ends]

end Turnstile.Toml.Grammar
