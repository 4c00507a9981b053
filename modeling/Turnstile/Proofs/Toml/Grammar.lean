import Turnstile.Toml.Document

/-!
# The grammar of TOML

How the documents of TOML 1.0 are spelled, said without a reader. A relation holds between
an input, what the start of the input spells and what follows that start; one grammar rule
after the other is a chain of inputs. The rules take as little as they want, so they say
nothing about where a reader stops: that a reader which takes as much as it can ends up at
the same place is proved for each of them.

Arrays and inline tables nest at most so many levels. Which tables and keys may stand beside
each other is no matter of spelling: `Toml.ofLines?` says what lines mean together, and
`Tree.ofPairs?` what the pairs of an inline table do.
-/

namespace Turnstile.Toml.Grammar

/-! ## Space -/

/-- Some characters of a kind. -/
structure Run (kind : Char → Bool) (input found rest : List Char) : Prop where
  split : input = found ++ rest
  each : ∀ c ∈ found, kind c = true

/-- White space within a line. -/
def Blanks (input rest : List Char) : Prop := ∃ found, Run isBlank input found rest

/-- A line end. -/
inductive Newline : List Char → List Char → Prop
  | feed {rest : List Char} : Newline ('\n' :: rest) rest
  | both {rest : List Char} : Newline ('\r' :: '\n' :: rest) rest

/-- White space and line ends. -/
inductive Spaces : List Char → List Char → Prop
  | none {rest : List Char} : Spaces rest rest
  | blank {c : Char} {input rest : List Char} (blank : isBlank c = true)
      (later : Spaces input rest) : Spaces (c :: input) rest
  | newline {input start rest : List Char} (newline : Newline input start)
      (later : Spaces start rest) : Spaces input rest

/-- A comment, or nothing. -/
inductive Comment : List Char → List Char → Prop
  | none {rest : List Char} : Comment rest rest
  | mark {input found rest : List Char} (text : Run isPrintable input found rest) :
      Comment ('#' :: input) rest

/-- White space, line ends and comments, as between the items of an array. -/
inductive Filler : List Char → List Char → Prop
  | spaces {input rest : List Char} (spaces : Spaces input rest) : Filler input rest
  | comment {input start found line next rest : List Char} (spaces : Spaces input ('#' :: start))
      (text : Run isPrintable start found line) (newline : Newline line next)
      (later : Filler next rest) : Filler input rest

/-! ## Text -/

/-- The letters of escapes, with what they stand for. -/
def shortEscapes : List (Char × Char) :=
  [('b', Char.ofNat 8), ('t', '\t'), ('n', '\n'), ('f', Char.ofNat 12), ('r', '\r'),
    ('"', '"'), ('\\', '\\')]

/-- The letters of escapes by number, with how many digits they take. -/
def codeEscapes : List (Char × Nat) := [('u', 4), ('U', 8)]

/-- An escape after its backslash, with the character that it stands for. -/
inductive Escape : List Char → Char → List Char → Prop
  | short {letter c : Char} {rest : List Char} (listed : (letter, c) ∈ shortEscapes) :
      Escape (letter :: rest) c rest
  | code {letter c : Char} {count : Nat} {input found rest : List Char}
      (listed : (letter, count) ∈ codeEscapes)
      (digits : Run (Text.isDigitOf 16) input found rest) (length : found.length = count)
      (number : Text.valueOf 16 found = c.toNat) : Escape (letter :: input) c rest

/-- The marks around text. -/
def IsMark (mark : Char) : Prop := mark = '"' ∨ mark = '\''

/-- Text on one line after its opening mark, up to its closing mark. Only between
quotation marks there are escapes. -/
inductive Quoted (mark : Char) : List Char → List Char → List Char → Prop
  | close {rest : List Char} : Quoted mark (mark :: rest) [] rest
  | plain {c : Char} {input body rest : List Char} (printable : isPrintable c = true)
      (notMark : c ≠ mark) (notEscape : mark = '"' → c ≠ '\\')
      (later : Quoted mark input body rest) : Quoted mark (c :: input) (c :: body) rest
  | escape {c : Char} {input start body rest : List Char} (escapes : mark = '"')
      (escape : Escape input c start) (later : Quoted mark start body rest) :
      Quoted mark ('\\' :: input) (c :: body) rest

/-- Text over several lines after its opening marks and so many marks of its own, up to its
three closing marks. The text has at most two marks in a row. A backslash at the end of a
line takes all white space and line ends after it with it. -/
inductive QuotedLines (mark : Char) : Nat → List Char → List Char → List Char → Prop
  | close {marks : Nat} {rest : List Char} :
      QuotedLines mark marks (mark :: mark :: mark :: rest) [] rest
  | mark {marks : Nat} {input body rest : List Char} (few : marks < 2)
      (later : QuotedLines mark (marks + 1) input body rest) :
      QuotedLines mark marks (mark :: input) (mark :: body) rest
  | plain {marks : Nat} {c : Char} {input body rest : List Char}
      (printable : isPrintable c = true) (notMark : c ≠ mark)
      (notEscape : mark = '"' → c ≠ '\\') (later : QuotedLines mark 0 input body rest) :
      QuotedLines mark marks (c :: input) (c :: body) rest
  | newline {marks : Nat} {input start body rest : List Char} (newline : Newline input start)
      (later : QuotedLines mark 0 start body rest) :
      QuotedLines mark marks input ('\n' :: body) rest
  | escape {marks : Nat} {c : Char} {input start body rest : List Char}
      (escapes : mark = '"') (escape : Escape input c start)
      (later : QuotedLines mark 0 start body rest) :
      QuotedLines mark marks ('\\' :: input) (c :: body) rest
  | continued {marks : Nat} {input line next start body rest : List Char}
      (escapes : mark = '"') (blanks : Blanks input line) (newline : Newline line next)
      (spaces : Spaces next start) (all : ∀ after, Spaces start after → after = start)
      (later : QuotedLines mark 0 start body rest) :
      QuotedLines mark marks ('\\' :: input) body rest

/-- The line end right after three opening marks, which is no part of the text. -/
inductive Opening : List Char → List Char → Prop
  | newline {input rest : List Char} (newline : Newline input rest) : Opening input rest
  | none {rest : List Char} (noNewline : ∀ after, ¬Newline rest after) : Opening rest rest

/-- Text between marks. -/
inductive Text : List Char → List Char → List Char → Prop
  | line {mark : Char} {input body rest : List Char} (isMark : IsMark mark)
      (quoted : Quoted mark input body rest) : Text (mark :: input) body rest
  | lines {mark : Char} {input start body rest : List Char} (isMark : IsMark mark)
      (opening : Opening input start) (quoted : QuotedLines mark 0 start body rest) :
      Text (mark :: mark :: mark :: input) body rest

/-! ## Numbers -/

/-- Digits of a radix, with an underscore between two of them or not. -/
inductive Digits (radix : Nat) : List Char → List Char → List Char → Prop
  | last {c : Char} {rest : List Char} (digit : Text.isDigitOf radix c = true) :
      Digits radix (c :: rest) [c] rest
  | more {c : Char} {input found rest : List Char} (digit : Text.isDigitOf radix c = true)
      (later : Digits radix input found rest) : Digits radix (c :: input) (c :: found) rest
  | underscore {c : Char} {input found rest : List Char}
      (digit : Text.isDigitOf radix c = true) (later : Digits radix input found rest) :
      Digits radix (c :: '_' :: input) (c :: found) rest

/-- A sign or none: whether it is negative. -/
inductive Sign : List Char → Bool → List Char → Prop
  | none {rest : List Char} : Sign rest false rest
  | plus {rest : List Char} : Sign ('+' :: rest) false rest
  | minus {rest : List Char} : Sign ('-' :: rest) true rest

/-- The digits of a whole number without a zero in front. -/
inductive Whole : List Char → List Char → List Char → Prop
  | zero {rest : List Char} : Whole ('0' :: rest) ['0'] rest
  | digits {input found rest : List Char} (digits : Digits 10 input found rest)
      (notZero : found.head? ≠ some '0') : Whole input found rest

/-- The letters of the radices other than ten. -/
def radixes : List (Char × Nat) := [('x', 16), ('o', 8), ('b', 2)]

/-- A signed 64-bit integer. -/
inductive Integer : List Char → Int → List Char → Prop
  | positive {input start found rest : List Char} (sign : Sign input false start)
      (whole : Whole start found rest) (fits : Text.valueOf 10 found < Number.signedBound) :
      Integer input (Text.valueOf 10 found) rest
  | negative {input start found rest : List Char} (sign : Sign input true start)
      (whole : Whole start found rest) (fits : Text.valueOf 10 found ≤ Number.signedBound) :
      Integer input (-(Text.valueOf 10 found : Int)) rest
  | radix {letter : Char} {radix : Nat} {input found rest : List Char}
      (listed : (letter, radix) ∈ radixes) (digits : Digits radix input found rest)
      (fits : Text.valueOf radix found < Number.signedBound) :
      Integer ('0' :: letter :: input) (Text.valueOf radix found) rest

/-- The digits after a point, or nothing. -/
inductive Fraction : List Char → List Char → List Char → Prop
  | none {rest : List Char} : Fraction rest [] rest
  | point {input found rest : List Char} (digits : Digits 10 input found rest) :
      Fraction ('.' :: input) found rest

/-- An exponent, or nothing. -/
inductive Exponent : List Char → Int → List Char → Prop
  | none {rest : List Char} : Exponent rest 0 rest
  | letter {c : Char} {negative : Bool} {input start found rest : List Char}
      (letter : c = 'e' ∨ c = 'E') (sign : Sign input negative start)
      (digits : Digits 10 start found rest) :
      Exponent (c :: input)
        (if negative then -(Text.valueOf 10 found : Int) else Text.valueOf 10 found) rest

/-- A number with a fraction or an exponent that is no greater than the greatest binary64
number. -/
inductive Decimal : List Char → List Char → Prop
  | mk {negative : Bool} {exponent : Int}
      {input start whole afterWhole fraction afterFraction rest : List Char}
      (sign : Sign input negative start) (wholePart : Whole start whole afterWhole)
      (fractionPart : Fraction afterWhole fraction afterFraction)
      (exponentPart : Exponent afterFraction exponent rest) (either : rest ≠ afterWhole)
      (inRange : negative = true ∨
        Number.isInRange (whole ++ fraction) (exponent - fraction.length) = true) :
      Decimal input rest

/-- An infinity, or what is not a number. -/
inductive Special : List Char → List Char → Prop
  | infinity {negative : Bool} {input rest : List Char}
      (sign : Sign input negative ('i' :: 'n' :: 'f' :: rest)) : Special input rest
  | notNumber {negative : Bool} {input rest : List Char}
      (sign : Sign input negative ('n' :: 'a' :: 'n' :: rest)) : Special input rest

/-! ## Moments -/

/-- A number of two digits in a range. -/
inductive TwoDigits (low high : Nat) : List Char → Nat → List Char → Prop
  | mk {tens ones : Char} {rest : List Char} (isDigit : tens.isDigit = true ∧ ones.isDigit = true)
      (above : low ≤ (tens.toNat - 48) * 10 + (ones.toNat - 48))
      (below : (tens.toNat - 48) * 10 + (ones.toNat - 48) ≤ high) :
      TwoDigits low high (tens :: ones :: rest)
        ((tens.toNat - 48) * 10 + (ones.toNat - 48)) rest

/-- A date whose month has its day. -/
inductive Date : List Char → List Char → Prop
  | mk {century year month day : Nat} {input afterCentury afterYear afterMonth rest : List Char}
      (centuryPart : TwoDigits 0 99 input century afterCentury)
      (yearPart : TwoDigits 0 99 afterCentury year ('-' :: afterYear))
      (monthPart : TwoDigits 1 12 afterYear month ('-' :: afterMonth))
      (dayPart : TwoDigits 1 31 afterMonth day rest)
      (inMonth : day ≤ Moment.daysOf (century * 100 + year) month) : Date input rest

/-- A fraction of a second, or nothing. -/
inductive SecondFraction : List Char → List Char → Prop
  | none {rest : List Char} : SecondFraction rest rest
  | point {c : Char} {input found rest : List Char} (first : c.isDigit = true)
      (digits : Run Char.isDigit input found rest) : SecondFraction ('.' :: c :: input) rest

/-- A time of day. -/
inductive Time : List Char → List Char → Prop
  | mk {hour minute second : Nat} {input afterHour afterMinute afterSecond rest : List Char}
      (hourPart : TwoDigits 0 23 input hour (':' :: afterHour))
      (minutePart : TwoDigits 0 59 afterHour minute (':' :: afterMinute))
      (secondPart : TwoDigits 0 60 afterMinute second afterSecond)
      (fraction : SecondFraction afterSecond rest) : Time input rest

/-- An offset from universal time, or nothing. -/
inductive Offset : List Char → List Char → Prop
  | none {rest : List Char} : Offset rest rest
  | universal {c : Char} {rest : List Char} (letter : c = 'Z' ∨ c = 'z') : Offset (c :: rest) rest
  | numeric {c : Char} {hour minute : Nat} {input afterHour rest : List Char}
      (sign : c = '+' ∨ c = '-') (hourPart : TwoDigits 0 23 input hour (':' :: afterHour))
      (minutePart : TwoDigits 0 59 afterHour minute rest) : Offset (c :: input) rest

/-- A date, a time of day, or both with or without an offset. -/
inductive Moment : List Char → List Char → Prop
  | date {input rest : List Char} (date : Date input rest) : Moment input rest
  | both {c : Char} {input start line rest : List Char} (date : Date input (c :: start))
      (separator : c = 'T' ∨ c = 't' ∨ c = ' ') (time : Time start line)
      (offset : Offset line rest) : Moment input rest
  | time {input rest : List Char} (time : Time input rest) : Moment input rest

/-! ## Keys -/

/-- One part of a key. -/
inductive SimpleKey : List Char → String → List Char → Prop
  | bare {input found rest : List Char} (bare : Run isBareKeyChar input found rest)
      (nonempty : found ≠ []) : SimpleKey input (String.ofList found) rest
  | quoted {mark : Char} {input body rest : List Char} (isMark : IsMark mark)
      (quoted : Quoted mark input body rest) :
      SimpleKey (mark :: input) (String.ofList body) rest

/-- The parts of a key, with dots between them. -/
inductive KeyParts : List Char → List String → List Char → Prop
  | last {part : String} {input rest : List Char} (simple : SimpleKey input part rest) :
      KeyParts input [part] rest
  | more {part : String} {parts : List String} {input afterPart start next rest : List Char}
      (simple : SimpleKey input part afterPart) (before : Blanks afterPart ('.' :: start))
      (after : Blanks start next) (later : KeyParts next parts rest) :
      KeyParts input (part :: parts) rest

/-- A key of at most as many parts as values nest levels. -/
structure Key (input : List Char) (path : List String) (rest : List Char) : Prop where
  parts : KeyParts input path rest
  short : path.length ≤ depthLimit

/-! ## Values -/

/-- A value that is no array and no table. -/
inductive Scalar : List Char → Toml → List Char → Prop
  | text {input body rest : List Char} (text : Text input body rest) :
      Scalar input (.text (String.ofList body)) rest
  | yes {rest : List Char} : Scalar ('t' :: 'r' :: 'u' :: 'e' :: rest) (.boolean true) rest
  | no {rest : List Char} :
      Scalar ('f' :: 'a' :: 'l' :: 's' :: 'e' :: rest) (.boolean false) rest
  | integer {value : Int} {input rest : List Char} (integer : Integer input value rest) :
      Scalar input (.integer value) rest
  | decimal {input rest : List Char} (decimal : Decimal input rest) :
      Scalar input (.decimal (consumed input rest)) rest
  | special {input rest : List Char} (special : Special input rest) :
      Scalar input (.decimal (consumed input rest)) rest
  | moment {input rest : List Char} (moment : Moment input rest) :
      Scalar input (.moment (consumed input rest)) rest

section

variable (Inner : List Char → Toml → List Char → Prop)

/-- The items of an array after its opening bracket, up to its closing bracket. -/
inductive Items : List Char → List Toml → List Char → Prop
  | close {input rest : List Char} (filler : Filler input (']' :: rest)) : Items input [] rest
  | last {item : Toml} {input start afterItem rest : List Char} (before : Filler input start)
      (held : Inner start item afterItem) (after : Filler afterItem (']' :: rest)) :
      Items input [item] rest
  | more {item : Toml} {items : List Toml} {input start afterItem next rest : List Char}
      (before : Filler input start) (held : Inner start item afterItem)
      (after : Filler afterItem (',' :: next)) (later : Items next items rest) :
      Items input (item :: items) rest

/-- A key with its value. -/
inductive Pair : List Char → List String × Toml → List Char → Prop
  | mk {path : List String} {value : Toml} {input afterKey start next rest : List Char}
      (key : Key input path afterKey) (before : Blanks afterKey ('=' :: start))
      (after : Blanks start next) (held : Inner next value rest) :
      Pair input (path, value) rest

/-- The pairs of an inline table after its opening brace, up to its closing brace. -/
inductive Pairs : List Char → List (List String × Toml) → List Char → Prop
  | last {pair : List String × Toml} {input start afterPair rest : List Char}
      (before : Blanks input start) (held : Pair Inner start pair afterPair)
      (after : Blanks afterPair ('\x7d' :: rest)) : Pairs input [pair] rest
  | more {pair : List String × Toml} {pairs : List (List String × Toml)}
      {input start afterPair next rest : List Char} (before : Blanks input start)
      (held : Pair Inner start pair afterPair) (after : Blanks afterPair (',' :: next))
      (later : Pairs next pairs rest) : Pairs input (pair :: pairs) rest

/-- A value, given those that may stand within it. -/
inductive Nested : List Char → Toml → List Char → Prop
  | scalar {value : Toml} {input rest : List Char} (scalar : Scalar input value rest) :
      Nested input value rest
  | array {items : List Toml} {input rest : List Char} (held : Items Inner input items rest) :
      Nested ('[' :: input) (.array items) rest
  | emptyTable {input rest : List Char} (blanks : Blanks input ('\x7d' :: rest)) :
      Nested ('\x7b' :: input) (.table []) rest
  | table {pairs : List (List String × Toml)} {members : List (String × Toml)}
      {input rest : List Char} (held : Pairs Inner input pairs rest)
      (made : Tree.ofPairs? pairs = some members) :
      Nested ('\x7b' :: input) (.table members) rest

end

/-- A value that nests at most so many levels. -/
def Value : Nat → List Char → Toml → List Char → Prop
  | 0 => Scalar
  | depth + 1 => Nested (Value depth)

/-! ## Documents -/

/-- What a line says, which may be nothing. -/
inductive Statement : List Char → List Line → List Char → Prop
  | nothing {rest : List Char} : Statement rest [] rest
  | table {path : List String} {input start afterKey rest : List Char}
      (before : Blanks input start) (key : Key start path afterKey)
      (after : Blanks afterKey (']' :: rest)) : Statement ('[' :: input) [.table path] rest
  | element {path : List String} {input start afterKey rest : List Char}
      (before : Blanks input start) (key : Key start path afterKey)
      (after : Blanks afterKey (']' :: ']' :: rest)) :
      Statement ('[' :: '[' :: input) [.element path] rest
  | pair {path : List String} {value : Toml} {input rest : List Char}
      (held : Pair (Value depthLimit) input (path, value) rest) :
      Statement input [.pair path value] rest

/-- A document: lines with line ends between them. -/
inductive Document : List Char → List Line → Prop
  | last {said : List Line} {input start afterStatement line : List Char}
      (before : Blanks input start) (statement : Statement start said afterStatement)
      (after : Blanks afterStatement line) (comment : Comment line []) : Document input said
  | more {said lines : List Line} {input start afterStatement line ending next : List Char}
      (before : Blanks input start) (statement : Statement start said afterStatement)
      (after : Blanks afterStatement line) (comment : Comment line ending)
      (newline : Newline ending next) (later : Document next lines) :
      Document input (said ++ lines)

/-- The text of a document, with the mark of its encoding in front or not. -/
inductive Spells : String → List Line → Prop
  | plain {input : List Char} {lines : List Line} (document : Document input lines) :
      Spells (String.ofList input) lines
  | marked {input : List Char} {lines : List Line} (document : Document input lines) :
      Spells (String.ofList (Char.ofNat 0xFEFF :: input)) lines

end Turnstile.Toml.Grammar
