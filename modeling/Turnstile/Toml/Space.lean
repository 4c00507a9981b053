/-!
# Blanks, line ends and comments of TOML

White space is spaces and tabs; a line ends in a line feed, with or without a
carriage return before it. A comment runs to the end of its line and holds no
control character but the tab.
-/

namespace Turnstile.Toml

/-- White space within a line. -/
def isBlank (c : Char) : Bool := c = ' ' || c = '\t'

/-- The characters after white space. -/
def skipBlanks (input : List Char) : List Char := input.dropWhile isBlank

/-- Whether a character may stand in a comment or between quotation marks: a tab,
or anything from the space on except the delete character. -/
def isPrintable (c : Char) : Bool := c = '\t' || (32 ≤ c.toNat && c.toNat ≠ 127)

/-- The characters after a line end. -/
def newline? : List Char → Option (List Char)
  | '\n' :: rest => some rest
  | '\r' :: '\n' :: rest => some rest
  | _ => none

/-- The characters after a comment, if there is one. -/
def skipComment : List Char → List Char
  | '#' :: rest => rest.dropWhile isPrintable
  | input => input

/-- The characters after the rest of a line that holds nothing more. -/
def lineEnd? (input : List Char) : Option (List Char) :=
  match skipComment (skipBlanks input) with
  | [] => some []
  | rest => newline? rest

/-- The characters after white space and line ends. -/
def skipLines : List Char → List Char
  | ' ' :: rest => skipLines rest
  | '\t' :: rest => skipLines rest
  | '\n' :: rest => skipLines rest
  | '\r' :: '\n' :: rest => skipLines rest
  | input => input

/-- Skipping lines leaves no more than there was. -/
theorem length_skipLines_le (input : List Char) : (skipLines input).length ≤ input.length := by
  fun_induction skipLines input with
  | case1 | case2 | case3 | case4 => simp only [List.length_cons]; omega
  | case5 => exact Nat.le_refl _

/-- A line end leaves fewer characters. -/
theorem length_of_newline? {input rest : List Char} (read : newline? input = some rest) :
    rest.length < input.length := by
  unfold newline? at read
  split at read
  · rw [← Option.some.inj read, List.length_cons]
    omega
  · rw [← Option.some.inj read, List.length_cons, List.length_cons]
    omega
  · cases read

end Turnstile.Toml
