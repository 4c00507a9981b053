/-!
# Header fields

A field has a name in lower case and a value of bytes. A value is text when all
its bytes are visible ASCII, spaces or tabs; of repeated fields the first counts.
-/

namespace Turnstile

/-- A header field. -/
structure Header where
  name : String
  value : List UInt8
  deriving DecidableEq, Repr

/-- The fields of a message in order. -/
abbrev Headers := List Header

namespace Header

/-- A field under a name in any case. -/
def ofName (name : String) (value : List UInt8) : Header :=
  ⟨name.toLower, value⟩

/-- The bytes of ASCII text. -/
def bytesOf (text : String) : List UInt8 :=
  text.toList.map fun c => UInt8.ofNat c.toNat

/-- Whether a byte may stand in a value that is text. -/
def isVisible (byte : UInt8) : Bool :=
  (32 ≤ byte && byte < 127) || byte == 9

/-- A value as text. -/
def text? (value : List UInt8) : Option String :=
  if value.all isVisible then some (String.ofList (value.map fun byte => Char.ofNat byte.toNat))
  else none

end Header

namespace Headers

/-- The first value under a name. -/
def first? (headers : Headers) (name : String) : Option (List UInt8) :=
  (headers.find? fun header => header.name = name).map Header.value

/-- The first value under a name, if it is text. -/
def text? (headers : Headers) (name : String) : Option String :=
  (headers.first? name).bind Header.text?

end Headers

end Turnstile
