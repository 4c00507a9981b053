import Turnstile.Text.GraphemeExtend
import Turnstile.Text.Printable

/-!
# Quoted text

Text between quotation marks on one line: the marks themselves, backslashes and
the common controls are written with a backslash, and every other character that
would not be seen for itself by its code point.
-/

namespace Turnstile.Text

/-- A character by its code point. -/
def codePointChars (c : Char) : List Char :=
  ['\\', 'u', '{'] ++ Nat.toDigits 16 c.toNat ++ ['}']

/-- A character as it stands between quotation marks. -/
def quotedChar (c : Char) : List Char :=
  if c = '"' ∨ c = '\\' then ['\\', c]
  else if c = '\x00' then ['\\', '0']
  else if c = '\t' then ['\\', 't']
  else if c = '\n' then ['\\', 'n']
  else if c = '\r' then ['\\', 'r']
  else if isGraphemeExtend c || !isPrintable c then codePointChars c
  else [c]

/-- Text between quotation marks. -/
def quoted (text : String) : String :=
  String.ofList ('"' :: text.toList.flatMap quotedChar ++ ['"'])

end Turnstile.Text
