import Turnstile.Toml
import Turnstile.Toml.Moment
import Turnstile.Toml.Number
import Turnstile.Toml.Quoted
import Turnstile.Toml.Tree

/-!
# Reading TOML values

Keys, values and the members of inline tables. Arrays and inline tables nest at
most 79 levels, and a dotted key has at most 79 parts.
-/

namespace Turnstile.Toml

/-- The most levels of arrays and inline tables, and of parts of a key. -/
def depthLimit : Nat := 79

/-- A character of a key without quotation marks. -/
def isBareKeyChar (c : Char) : Bool :=
  c.isAlphanum || c = '-' || c = '_'

/-- One part of a key. -/
def simpleKey? (input : List Char) : Option (String × List Char) :=
  match quotedLine? input with
  | some (body, rest) => some (String.ofList body, rest)
  | none =>
      match input.takeWhile isBareKeyChar with
      | [] => none
      | found => some (String.ofList found, input.dropWhile isBareKeyChar)

/-- The parts of a key between its dots, at most so many. -/
def keyParts? : Nat → List Char → Option (List String × List Char)
  | 0, _ => none
  | count + 1, input =>
      match simpleKey? (skipBlanks input) with
      | none => none
      | some (part, rest) =>
          match skipBlanks rest with
          | '.' :: rest => (keyParts? count rest).map fun (parts, rest) => (part :: parts, rest)
          | rest => some ([part], rest)

/-- A key. -/
def key? (input : List Char) : Option (List String × List Char) :=
  keyParts? depthLimit input

/-- What follows blanks, line ends and comments; a comment ends with its line.
The count bounds the lines. -/
def skipFiller? : Nat → List Char → Option (List Char)
  | 0, _ => none
  | count + 1, input =>
      match skipLines input with
      | '#' :: rest =>
          match newline? (rest.dropWhile isPrintable) with
          | some rest => skipFiller? count rest
          | none => none
      | rest => some rest

/-- What follows all blanks, line ends and comments of an input. -/
def filler? (input : List Char) : Option (List Char) :=
  skipFiller? (input.length + 1) input

/-- Items of an array up to its closing bracket, the first of them or that
bracket being next. The count bounds the items. -/
def items? (value : List Char → Option (Toml × List Char)) :
    Nat → List Char → Option (List Toml × List Char)
  | 0, _ => none
  | count + 1, input =>
      match filler? input with
      | none => none
      | some (']' :: rest) => some ([], rest)
      | some start =>
          match value start with
          | none => none
          | some (item, rest) =>
              match filler? rest with
              | some (']' :: rest) => some ([item], rest)
              | some (',' :: rest) =>
                  (items? value count rest).map fun (items, rest) => (item :: items, rest)
              | _ => none

/-- A key, an equals sign and a value. -/
def pair? (value : List Char → Option (Toml × List Char)) (input : List Char) :
    Option ((List String × Toml) × List Char) :=
  match key? input with
  | some (path, '=' :: rest) =>
      (value (skipBlanks rest)).map fun (held, rest) => ((path, held), rest)
  | _ => none

/-- Pairs of an inline table up to its closing brace, another pair being next.
The count bounds the pairs. -/
def pairs? (value : List Char → Option (Toml × List Char)) :
    Nat → List Char → Option (List (List String × Toml) × List Char)
  | 0, _ => none
  | count + 1, input =>
      match pair? value input with
      | none => none
      | some (pair, rest) =>
          match skipBlanks rest with
          | '\x7d' :: rest => some ([pair], rest)
          | ',' :: rest => (pairs? value count rest).map fun (pairs, rest) => (pair :: pairs, rest)
          | _ => none

/-- An inline table after its opening brace. -/
def inlineTable? (value : List Char → Option (Toml × List Char)) (input : List Char) :
    Option (Toml × List Char) :=
  match skipBlanks input with
  | '\x7d' :: rest => some (.table [], rest)
  | _ =>
      match pairs? value (input.length + 1) input with
      | none => none
      | some (pairs, rest) => (Tree.ofPairs? pairs).map fun members => (.table members, rest)

/-- What was consumed of an input, as text. -/
def consumed (input rest : List Char) : String :=
  String.ofList (input.take (input.length - rest.length))

/-- A moment or a number. -/
def numeric? (input : List Char) : Option (Toml × List Char) :=
  match Moment.skip? input with
  | some rest => some (.moment (consumed input rest), rest)
  | none =>
      match Number.skipNonInteger? input with
      | some rest => some (.decimal (consumed input rest), rest)
      | none => (Number.integer? input).map fun (value, rest) => (.integer value, rest)

/-- A value that is no array and no table. -/
def scalar? (input : List Char) : Option (Toml × List Char) :=
  match input with
  | 't' :: rest => ("rue".toList.isPrefixOf? rest).map fun rest => (.boolean true, rest)
  | 'f' :: rest => ("alse".toList.isPrefixOf? rest).map fun rest => (.boolean false, rest)
  | '"' :: _ => (quoted? input).map fun (body, rest) => (.text (String.ofList body), rest)
  | '\'' :: _ => (quoted? input).map fun (body, rest) => (.text (String.ofList body), rest)
  | _ => numeric? input

/-- A value that nests at most so many levels. -/
def value? : Nat → List Char → Option (Toml × List Char)
  | 0, input => scalar? input
  | depth + 1, input =>
      match input with
      | '[' :: rest =>
          (items? (value? depth) (rest.length + 1) rest).map fun (items, rest) =>
            (.array items, rest)
      | '\x7b' :: rest => inlineTable? (value? depth) rest
      | input => scalar? input

end Turnstile.Toml
