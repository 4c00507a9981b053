import Turnstile.Text.Digit
import Turnstile.Toml.Space

/-!
# Quoted text of TOML

Four kinds of quotation: between quotation marks with escapes, between
apostrophes without, and both over several lines between three marks. A line end
within three marks counts as a line feed; the first one after the opening marks
does not count. Up to two marks may stand in front of the closing three.
-/

namespace Turnstile.Toml

/-- The character with a number, unless the number is a surrogate or too great. -/
def character? (code : Nat) : Option Char :=
  if code < 0xD800 ∨ (0xDFFF < code ∧ code < 0x110000) then some (Char.ofNat code) else none

/-- A character by so many hexadecimal digits. -/
def coded? (count : Nat) (input : List Char) : Option (Char × List Char) :=
  match Text.hexNumber? count 0 input with
  | some (code, rest) => (character? code).map fun c => (c, rest)
  | none => none

/-- The character that an escape stands for, after its backslash. -/
def escape? : List Char → Option (Char × List Char)
  | 'b' :: rest => some (Char.ofNat 8, rest)
  | 't' :: rest => some ('\t', rest)
  | 'n' :: rest => some ('\n', rest)
  | 'f' :: rest => some (Char.ofNat 12, rest)
  | 'r' :: rest => some ('\r', rest)
  | '"' :: rest => some ('"', rest)
  | '\\' :: rest => some ('\\', rest)
  | 'u' :: rest => coded? 4 rest
  | 'U' :: rest => coded? 8 rest
  | _ => none

/-- A coded character leaves no more than there was. -/
theorem length_of_coded? {count : Nat} {input rest : List Char} {c : Char}
    (read : coded? count input = some (c, rest)) : rest.length ≤ input.length := by
  unfold coded? at read
  split at read
  · next found =>
      have shorter := Text.length_of_hexNumber? found
      simp only [Option.map_eq_some_iff, Prod.mk.injEq] at read
      obtain ⟨_, _, _, rfl⟩ := read
      omega
  · cases read

/-- An escape leaves fewer characters. -/
theorem length_of_escape? {input rest : List Char} {c : Char}
    (read : escape? input = some (c, rest)) : rest.length < input.length := by
  unfold escape? at read
  split at read
  all_goals first
    | (simp only [Option.some.injEq, Prod.mk.injEq] at read
       obtain ⟨_, rfl⟩ := read
       simp only [List.length_cons]
       omega)
    | (have shorter := length_of_coded? read
       simp only [List.length_cons]
       omega)
    | cases read

/-- One more character in front of what was read. -/
def consTo (c : Char) : List Char × List Char → List Char × List Char
  | (body, rest) => (c :: body, rest)

/-- Text up to the closing quotation mark. -/
def basicBody? (input : List Char) : Option (List Char × List Char) :=
  match input with
  | [] => none
  | '"' :: rest => some ([], rest)
  | '\\' :: rest =>
      match _ : escape? rest with
      | none => none
      | some (c, after) => (basicBody? after).map (consTo c)
  | c :: rest => if isPrintable c then (basicBody? rest).map (consTo c) else none
termination_by input.length
decreasing_by
  · have shorter := length_of_escape? ‹escape? _ = some _›
    simp only [List.length_cons]
    omega
  · simp only [List.length_cons]
    omega

/-- Text up to the closing apostrophe. -/
def literalBody? : List Char → Option (List Char × List Char)
  | [] => none
  | '\'' :: rest => some ([], rest)
  | c :: rest => if isPrintable c then (literalBody? rest).map (consTo c) else none

/-- The end of a text over several lines, after three marks: up to two more of
them belong to the text in front of the last three. -/
def closing? (mark : Char) (rest : List Char) : Option (List Char × List Char) :=
  let extra := rest.takeWhile (· = mark)
  if extra.length ≤ 2 then some (extra, rest.drop extra.length) else none

/-- Text up to three closing quotation marks. A backslash at the end of a line
takes the blanks and line ends after it with it. -/
def linesBody? (input : List Char) : Option (List Char × List Char) :=
  match input with
  | [] => none
  | '"' :: '"' :: '"' :: rest => closing? '"' rest
  | '"' :: rest => (linesBody? rest).map (consTo '"')
  | '\\' :: rest =>
      match newline? (skipBlanks rest) with
      | some _ => linesBody? (skipLines rest)
      | none =>
          match _ : escape? rest with
          | none => none
          | some (c, after) => (linesBody? after).map (consTo c)
  | '\r' :: '\n' :: rest => (linesBody? rest).map (consTo '\n')
  | c :: rest =>
      if c = '\n' ∨ isPrintable c then (linesBody? rest).map (consTo c) else none
termination_by input.length
decreasing_by
  · simp only [List.length_cons]
    omega
  · have shorter := length_skipLines_le rest
    simp only [List.length_cons]
    omega
  · have shorter := length_of_escape? ‹escape? _ = some _›
    simp only [List.length_cons]
    omega
  · simp only [List.length_cons]
    omega
  · simp only [List.length_cons]
    omega

/-- Text up to three closing apostrophes. -/
def literalLinesBody? : List Char → Option (List Char × List Char)
  | [] => none
  | '\'' :: '\'' :: '\'' :: rest => closing? '\'' rest
  | '\r' :: '\n' :: rest => (literalLinesBody? rest).map (consTo '\n')
  | c :: rest =>
      if c = '\n' ∨ isPrintable c then (literalLinesBody? rest).map (consTo c) else none

/-- The characters after a line end, if there is one. -/
def skipNewline (input : List Char) : List Char :=
  (newline? input).getD input

/-- Quoted text on one line. -/
def quotedLine? : List Char → Option (List Char × List Char)
  | '"' :: rest => basicBody? rest
  | '\'' :: rest => literalBody? rest
  | _ => none

/-- Quoted text of any kind. -/
def quoted? : List Char → Option (List Char × List Char)
  | '"' :: '"' :: '"' :: rest => linesBody? (skipNewline rest)
  | '\'' :: '\'' :: '\'' :: rest => literalLinesBody? (skipNewline rest)
  | input => quotedLine? input

end Turnstile.Toml
