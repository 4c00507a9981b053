/-!
# Blank text

White space is the Unicode property `White_Space`. Text is blank when it holds
nothing else, and trimming removes it from both ends.
-/

namespace Turnstile.Text

/-- The characters of the Unicode property `White_Space`. -/
def isWhiteSpace (c : Char) : Bool :=
  let code := c.val.toNat
  (9 ≤ code && code ≤ 13) || code == 32 || code == 0x85 || code == 0xA0 || code == 0x1680 ||
    (0x2000 ≤ code && code ≤ 0x200A) || code == 0x2028 || code == 0x2029 || code == 0x202F ||
    code == 0x205F || code == 0x3000

/-- Characters without the white space at either end. -/
def trimChars (chars : List Char) : List Char :=
  ((chars.dropWhile isWhiteSpace).reverse.dropWhile isWhiteSpace).reverse

/-- Text without the white space at either end. -/
def trim (text : String) : String :=
  String.ofList (trimChars text.toList)

/-- Text that holds white space alone; the empty text is blank. -/
def isBlank (text : String) : Bool :=
  text.toList.all isWhiteSpace

/-- Text with something in it besides white space. -/
def nonBlank? (text : String) : Option String :=
  if isBlank text then none else some text

end Turnstile.Text
