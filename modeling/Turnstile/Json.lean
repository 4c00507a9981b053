import Turnstile.Text.Digit

/-!
# JSON values

Values of RFC 8259 and their shortest spelling: no blanks, members in the order
in which the object holds them. A number of at most 64 bits is its value; any
other number is kept as it is spelled.
-/

namespace Turnstile

/-- A JSON value. -/
inductive Json where
  | null
  | boolean (value : Bool)
  /-- An integer that fits an unsigned or a signed 64-bit integer. -/
  | integer (value : Int)
  /-- Any other number, as it is spelled. -/
  | decimal (spelling : String)
  | text (value : String)
  | array (items : List Json)
  | object (members : List (String × Json))
  deriving BEq, Repr, Inhabited

namespace Json

/-- A character inside quotation marks: the quotation mark, the backslash and the
control characters are escaped, the common ones by a letter. -/
def escapedChar (c : Char) : List Char :=
  if c = '"' then ['\\', '"']
  else if c = '\\' then ['\\', '\\']
  else if c.toNat = 8 then ['\\', 'b']
  else if c.toNat = 9 then ['\\', 't']
  else if c.toNat = 10 then ['\\', 'n']
  else if c.toNat = 12 then ['\\', 'f']
  else if c.toNat = 13 then ['\\', 'r']
  else if c.toNat < 32 then
    ['\\', 'u', '0', '0', Text.hexDigit (c.toNat / 16), Text.hexDigit (c.toNat % 16)]
  else [c]

/-- Text in quotation marks. -/
def quotedChars (text : String) : List Char :=
  '"' :: text.toList.flatMap escapedChar ++ ['"']

/-- An integer in decimal digits. -/
def integerChars (value : Int) : List Char :=
  if value < 0 then '-' :: Nat.toDigits 10 value.natAbs else Nat.toDigits 10 value.natAbs

mutual

/-- The characters of a value. -/
def chars : Json → List Char
  | null => "null".toList
  | boolean true => "true".toList
  | boolean false => "false".toList
  | integer value => integerChars value
  | decimal spelling => spelling.toList
  | text value => quotedChars value
  | array [] => ['[', ']']
  | array (first :: rest) => '[' :: chars first ++ itemChars rest ++ [']']
  | object [] => ['\x7b', '\x7d']
  | object ((name, first) :: rest) =>
      '\x7b' :: quotedChars name ++ ':' :: chars first ++ memberChars rest ++ ['\x7d']

/-- The characters of further items, a comma before each. -/
def itemChars : List Json → List Char
  | [] => []
  | item :: rest => ',' :: chars item ++ itemChars rest

/-- The characters of further members, a comma before each. -/
def memberChars : List (String × Json) → List Char
  | [] => []
  | (name, value) :: rest =>
      ',' :: quotedChars name ++ ':' :: chars value ++ memberChars rest

end

/-- The text of a value. -/
def render (value : Json) : String :=
  String.ofList value.chars

/-- The member of an object under a name. -/
def member? (members : List (String × Json)) (name : String) : Option Json :=
  match members with
  | [] => none
  | (other, value) :: rest => if other = name then some value else member? rest name

/-- The members with one more: a name that is there already takes the new value. -/
def setMember (members : List (String × Json)) (name : String) (value : Json) :
    List (String × Json) :=
  match members with
  | [] => [(name, value)]
  | (other, held) :: rest =>
      if other = name then (name, value) :: rest
      else (other, held) :: setMember rest name value

end Json

end Turnstile
