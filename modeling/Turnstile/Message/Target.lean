/-!
# Request targets

A target is written in one of four forms: a path, a whole reference with scheme
and authority, an authority alone, or an asterisk. Routing looks at the path
only, without query and fragment.
-/

namespace Turnstile

/-- What a request asks for. -/
inductive Target where
  /-- A path, which starts with a slash. -/
  | path (text : String)
  /-- The authority of a tunnel. -/
  | authority (text : String)
  /-- The server as a whole. -/
  | asterisk
  deriving DecidableEq, Repr

namespace Target

/-- The characters of a path in front of its query or fragment. -/
def barePath (input : List Char) : List Char :=
  input.takeWhile fun c => c ≠ '?' && c ≠ '#'

/-- The characters after the scheme of a reference. -/
def afterScheme? : List Char → Option (List Char)
  | [] => none
  | ':' :: '/' :: '/' :: rest => some rest
  | c :: rest => if c = '/' ∨ c = '?' ∨ c = '#' then none else afterScheme? rest

/-- The target that a text is. A reference without a path asks for the root. -/
def ofString (text : String) : Target :=
  match text.toList with
  | ['*'] => .asterisk
  | '/' :: rest => .path (String.ofList (barePath ('/' :: rest)))
  | input =>
      match afterScheme? input with
      | none => .authority text
      | some rest =>
          let found := barePath (rest.dropWhile fun c => c ≠ '/' && c ≠ '?' && c ≠ '#')
          .path (if found.isEmpty then "/" else String.ofList found)

/-- The path a target shows: none for an authority. -/
def shownPath : Target → String
  | .path text => text
  | .authority _ => ""
  | .asterisk => "*"

/-- Whether a route serves the target: the root and everything below it. -/
def isRouted (target : Target) : Bool :=
  match target.shownPath.toList with
  | '/' :: _ => true
  | _ => false

end Target

end Turnstile
