import Turnstile.Binary64
import Turnstile.Json

/-!
# Reading JSON

A reader takes characters and returns what it read and the characters that
follow. The grammar is that of RFC 8259 with three limits: at most 127 nested
levels, no number beyond the binary64 range, and no escaped surrogate without
its partner. A repeated member takes its last value.
-/

namespace Turnstile.Json

/-- The white space of JSON. -/
def isSpace (c : Char) : Bool :=
  c = ' ' || c = '\n' || c = '\t' || c = '\r'

/-- The characters after leading white space. -/
def skipSpace (input : List Char) : List Char :=
  input.dropWhile isSpace

/-! ## Strings -/

/-- Four hexadecimal digits. -/
def codeUnit? (input : List Char) : Option (Nat × List Char) :=
  Text.hexNumber? 4 0 input

/-- The first half of a pair of surrogates. -/
def isHighSurrogate (unit : Nat) : Bool := 0xD800 ≤ unit && unit ≤ 0xDBFF

/-- The second half of a pair of surrogates. -/
def isLowSurrogate (unit : Nat) : Bool := 0xDC00 ≤ unit && unit ≤ 0xDFFF

/-- The character of one code unit, or of the pair that a first half starts. -/
def unicodeEscape? (input : List Char) : Option (Char × List Char) :=
  match codeUnit? input with
  | none => none
  | some (unit, rest) =>
      if isLowSurrogate unit then none
      else if isHighSurrogate unit then
        match rest with
        | '\\' :: 'u' :: second =>
            match codeUnit? second with
            | some (low, rest) =>
                if isLowSurrogate low then
                  some (Char.ofNat (0x10000 + (unit - 0xD800) * 0x400 + (low - 0xDC00)), rest)
                else none
            | none => none
        | _ => none
      else some (Char.ofNat unit, rest)

/-- The character that an escape stands for, after its backslash. -/
def escape? : List Char → Option (Char × List Char)
  | '"' :: rest => some ('"', rest)
  | '\\' :: rest => some ('\\', rest)
  | '/' :: rest => some ('/', rest)
  | 'b' :: rest => some (Char.ofNat 8, rest)
  | 'f' :: rest => some (Char.ofNat 12, rest)
  | 'n' :: rest => some ('\n', rest)
  | 'r' :: rest => some ('\r', rest)
  | 't' :: rest => some ('\t', rest)
  | 'u' :: rest => unicodeEscape? rest
  | _ => none

/-- Four digits leave fewer characters. -/
theorem length_of_codeUnit? {input rest : List Char} {unit : Nat}
    (read : codeUnit? input = some (unit, rest)) : rest.length < input.length := by
  have shorter := Text.length_of_hexNumber? read
  omega

/-- An escape leaves fewer characters. -/
theorem length_of_unicodeEscape? {input rest : List Char} {c : Char}
    (read : unicodeEscape? input = some (c, rest)) : rest.length < input.length := by
  unfold unicodeEscape? at read
  split at read
  · cases read
  · next unit middle first =>
      have shorter := length_of_codeUnit? first
      split at read
      · cases read
      split at read
      · split at read
        · split at read
          · next second =>
              have further := length_of_codeUnit? second
              split at read
              · simp only [Option.some.injEq, Prod.mk.injEq] at read
                obtain ⟨_, rfl⟩ := read
                simp only [List.length_cons] at shorter
                omega
              · cases read
          · cases read
        · cases read
      · simp only [Option.some.injEq, Prod.mk.injEq] at read
        obtain ⟨_, rfl⟩ := read
        exact shorter

/-- An escape leaves fewer characters. -/
theorem length_of_escape? {input rest : List Char} {c : Char}
    (read : escape? input = some (c, rest)) : rest.length < input.length := by
  unfold escape? at read
  split at read
  all_goals first
    | (simp only [Option.some.injEq, Prod.mk.injEq] at read
       obtain ⟨_, rfl⟩ := read
       simp only [List.length_cons]
       omega)
    | (have shorter := length_of_unicodeEscape? read
       simp only [List.length_cons]
       omega)
    | cases read

/-- The characters up to the closing quotation mark, escapes resolved. -/
def stringBody? (input : List Char) : Option (List Char × List Char) :=
  match input with
  | [] => none
  | '"' :: rest => some ([], rest)
  | '\\' :: rest =>
      match _ : escape? rest with
      | none => none
      | some (c, after) => (stringBody? after).map fun (body, rest) => (c :: body, rest)
  | c :: rest =>
      if c.toNat < 32 then none
      else (stringBody? rest).map fun (body, rest) => (c :: body, rest)
termination_by input.length
decreasing_by
  · have shorter := length_of_escape? ‹escape? _ = some _›
    simp only [List.length_cons]
    omega
  · simp only [List.length_cons]
    omega

/-! ## Numbers -/

/-- The parts of a spelled number. -/
structure Spelling where
  negative : Bool
  whole : List Char
  fraction : Option (List Char)
  exponent : Option Int

namespace Spelling

/-- Digits and the characters after them. -/
def digits (input : List Char) : List Char × List Char :=
  (input.takeWhile Char.isDigit, input.dropWhile Char.isDigit)

/-- The whole part: a zero alone, or digits that start with another one. -/
def whole? (input : List Char) : Option (List Char × List Char) :=
  match digits input with
  | ([], _) => none
  | (['0'], rest) => some (['0'], rest)
  | ('0' :: _, _) => none
  | (found, rest) => some (found, rest)

/-- The fraction, if a point follows: at least one digit. -/
def fraction? : List Char → Option (Option (List Char) × List Char)
  | '.' :: input =>
      match digits input with
      | ([], _) => none
      | (found, rest) => some (some found, rest)
  | input => some (none, input)

/-- The digits of an exponent after its sign. -/
def exponentDigits? (negative : Bool) (input : List Char) : Option (Option Int × List Char) :=
  match digits input with
  | ([], _) => none
  | (found, rest) =>
      let size : Int := Nat.ofDigitChars 10 found 0
      some (some (if negative then -size else size), rest)

/-- The exponent, if a letter for one follows. -/
def exponent? : List Char → Option (Option Int × List Char)
  | c :: input =>
      if c = 'e' ∨ c = 'E' then
        match input with
        | '+' :: input => exponentDigits? false input
        | '-' :: input => exponentDigits? true input
        | input => exponentDigits? false input
      else some (none, c :: input)
  | [] => some (none, [])

/-- A spelled number and the characters after it. -/
def read? (input : List Char) : Option (Spelling × List Char) := do
  let (negative, input) :=
    match input with
    | '-' :: input => (true, input)
    | input => (false, input)
  let (whole, input) ← whole? input
  let (fraction, input) ← fraction? input
  let (exponent, input) ← exponent? input
  some (⟨negative, whole, fraction, exponent⟩, input)

/-- The bound of the unsigned 64-bit integers. -/
def wordBound : Nat := 18446744073709551616

/-- The number that leading digits extend to while it fits in 64 bits, and the
digits from the first that does not fit. -/
def accumulate (start : Nat) : List Char → Nat × List Char
  | [] => (start, [])
  | c :: rest =>
      let extended := start * 10 + (c.toNat - 48)
      if extended < wordBound then accumulate extended rest else (start, c :: rest)

/-- The significand of at most 64 bits and the decimal exponent that a number is
computed from: digits that no longer fit are left out. -/
def scaled (spelling : Spelling) : Nat × Int :=
  let (significand, dropped) := accumulate 0 spelling.whole
  let fraction := spelling.fraction.getD []
  let (significand, ignored) := accumulate significand fraction
  (significand,
    (dropped.length : Int) - ((fraction.length - ignored.length : Nat) : Int)
      + spelling.exponent.getD 0)

/-- The powers of ten of the binary64 range. -/
def powerOfTen (exponent : Nat) : Binary64 :=
  .ofNat (Nat.pow 10 exponent)

/-- Whether the number lies in the binary64 range. -/
def isInRange (spelling : Spelling) : Bool :=
  let (significand, exponent) := spelling.scaled
  if significand = 0 ∨ exponent < 0 then true
  else if 308 < exponent then false
  else
    match Binary64.ofNat significand * powerOfTen exponent.toNat with
    | .finite _ => true
    | _ => false

/-- The integer that is spelled, if it is one of 64 bits. A negative zero is none. -/
def integer? (spelling : Spelling) : Option Int :=
  match spelling.fraction, spelling.exponent with
  | none, none =>
      let size := Nat.ofDigitChars 10 spelling.whole 0
      if spelling.negative then
        if 0 < size ∧ size ≤ wordBound / 2 then some (-(size : Int)) else none
      else if size < wordBound then some (size : Int)
      else none
  | _, _ => none

end Spelling

/-- A number and the characters after it. -/
def number? (input : List Char) : Option (Json × List Char) :=
  match Spelling.read? input with
  | none => none
  | some (spelling, rest) =>
      match spelling.integer? with
      | some value => some (.integer value, rest)
      | none =>
          if spelling.isInRange then
            some (.decimal (String.ofList (input.take (input.length - rest.length))), rest)
          else none

/-! ## Values -/

/-- Items separated by commas up to a closing character. The count bounds the
items; an input has no more of them than characters. -/
def sequence? {α : Type} (item : List Char → Option (α × List Char)) (close : Char) :
    Nat → List Char → Option (List α × List Char)
  | 0, _ => none
  | count + 1, input =>
      match item input with
      | none => none
      | some (first, rest) =>
          match skipSpace rest with
          | c :: rest =>
              if c = close then some ([first], rest)
              else if c = ',' then
                (sequence? item close count rest).map fun (items, rest) => (first :: items, rest)
              else none
          | [] => none

/-- A sequence that may be empty. -/
def items? {α : Type} (item : List Char → Option (α × List Char)) (close : Char)
    (input : List Char) : Option (List α × List Char) :=
  match skipSpace input with
  | [] => none
  | c :: rest =>
      if c = close then some ([], rest) else sequence? item close input.length (c :: rest)

/-- A name, a colon and a value. -/
def memberOf? (value : List Char → Option (Json × List Char)) (input : List Char) :
    Option ((String × Json) × List Char) :=
  match skipSpace input with
  | '"' :: rest =>
      match stringBody? rest with
      | none => none
      | some (name, rest) =>
          match skipSpace rest with
          | ':' :: rest => (value rest).map fun (held, rest) => ((String.ofList name, held), rest)
          | _ => none
  | _ => none

/-- The members in order, each repeated name with its last value. -/
def lastMembers (members : List (String × Json)) : List (String × Json) :=
  members.foldl (fun kept (name, value) => setMember kept name value) []

/-- A fixed word that stands for a value. -/
def word? (word : String) (value : Json) (input : List Char) : Option (Json × List Char) :=
  (word.toList.isPrefixOf? input).map fun rest => (value, rest)

/-- A value that holds no other one. -/
def scalar? : List Char → Option (Json × List Char)
  | '"' :: rest => (stringBody? rest).map fun (body, rest) => (.text (String.ofList body), rest)
  | 'n' :: rest => word? "ull" .null rest
  | 't' :: rest => word? "rue" (.boolean true) rest
  | 'f' :: rest => word? "alse" (.boolean false) rest
  | input => number? input

/-- A value that nests at most so many further levels. -/
def value? : Nat → List Char → Option (Json × List Char)
  | 0, input => scalar? (skipSpace input)
  | depth + 1, input =>
      match skipSpace input with
      | '[' :: rest => (items? (value? depth) ']' rest).map fun (items, rest) => (.array items, rest)
      | '\x7b' :: rest =>
          (items? (memberOf? (value? depth)) '\x7d' rest).map fun (members, rest) =>
            (.object (lastMembers members), rest)
      | input => scalar? input

/-- The most levels of arrays and objects in one another. -/
def depthLimit : Nat := 127

/-- The value that a text is, blanks around it allowed. -/
def ofChars? (input : List Char) : Option Json :=
  match value? depthLimit input with
  | none => none
  | some (value, rest) => if (skipSpace rest).isEmpty then some value else none

/-- The value that bytes spell in UTF-8. -/
def ofBytes? (bytes : List UInt8) : Option Json :=
  (String.fromUTF8? bytes.toByteArray).bind fun text => ofChars? text.toList

end Turnstile.Json
