import Turnstile.Toml.Reader

/-!
# TOML documents

A document is a sequence of lines, each of them blank, a header, or a key with
its value. A key belongs to the table of the header before it.
-/

namespace Turnstile.Toml

/-- A line that says something. -/
inductive Line where
  /-- `[path]` -/
  | table (path : List String)
  /-- `[[path]]` -/
  | element (path : List String)
  /-- `path = value` -/
  | pair (path : List String) (value : Toml)
  deriving BEq, Repr

/-- A header after its first bracket, up to the end of its line. -/
def header? : List Char → Option (Line × List Char)
  | '[' :: rest =>
      match key? rest with
      | some (path, ']' :: ']' :: rest) => (lineEnd? rest).map fun rest => (.element path, rest)
      | _ => none
  | rest =>
      match key? rest with
      | some (path, ']' :: rest) => (lineEnd? rest).map fun rest => (.table path, rest)
      | _ => none

/-- A key with its value, up to the end of its line. -/
def pairLine? (input : List Char) : Option (Line × List Char) :=
  match pair? (value? depthLimit) input with
  | some ((path, value), rest) => (lineEnd? rest).map fun rest => (.pair path value, rest)
  | none => none

/-- The lines that say something. The count bounds all lines. -/
def lines? : Nat → List Char → Option (List Line)
  | 0, _ => none
  | count + 1, input =>
      match skipBlanks input with
      | [] => some []
      | '#' :: rest => lineEnd? ('#' :: rest) >>= lines? count
      | '\n' :: rest => lines? count rest
      | '\r' :: rest => newline? ('\r' :: rest) >>= lines? count
      | '[' :: rest => do
          let (line, rest) ← header? rest
          some (line :: (← lines? count rest))
      | rest => do
          let (line, rest) ← pairLine? rest
          some (line :: (← lines? count rest))

/-- A document under construction: the path of the table that keys belong to. -/
structure Draft where
  current : List String
  members : Tree.Members

/-- The draft with one more line. -/
def Draft.add? (draft : Draft) : Line → Option Draft
  | .table path => (Tree.openTable draft.members path).map fun members => ⟨path, members⟩
  | .element path => (Tree.openElement draft.members path).map fun members => ⟨path, members⟩
  | .pair path value =>
      (Tree.within (fun members => Tree.put true members path value) draft.members
        draft.current).map fun members => ⟨draft.current, members⟩

/-- The members that lines make. -/
def ofLines? (lines : List Line) : Option (List (String × Toml)) :=
  (lines.foldlM Draft.add? ⟨[], []⟩).map fun draft => Tree.toMembers draft.members

/-- A document without the mark of its encoding at the start. -/
def withoutMark : List Char → List Char
  | c :: rest => if c.toNat = 0xFEFF then rest else c :: rest
  | [] => []

/-- The members of the table that a document is. -/
def ofString? (text : String) : Option (List (String × Toml)) :=
  let input := withoutMark text.toList
  lines? (input.length + 1) input >>= ofLines?

end Turnstile.Toml
