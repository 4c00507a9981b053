import Turnstile.Event
import Turnstile.Text.Quoted

/-!
# Log lines

An event takes one line: its level, the request it belongs to if that is shown,
the part of the program it comes from, its wording and its fields, with what a
library said among them.
-/

namespace Turnstile

/-- The request that events belong to, as lines show it. -/
structure Span where
  method : String
  uri : String
  deriving DecidableEq, Repr

namespace Span

/-- The name of every span. -/
def name : String := "request"

/-- The part of the program that opens spans. -/
def target : String := "tower_http::trace::make_span"

/-- The level of every span. -/
def level : Level := .debug

/-- What a span tells of its request. -/
def fields (span : Span) : List (String × String) :=
  [("method", span.method), ("uri", span.uri), ("version", "HTTP/1.1")]

/-- The text of a span in a line. -/
def render (span : Span) : String :=
  name ++ "\x7b" ++ " ".intercalate (span.fields.map fun (name, value) => name ++ "=" ++ value) ++
    "\x7d"

end Span

/-- The text of a field's value in a line. -/
def FieldValue.render : FieldValue → String
  | number value => String.ofList (Nat.toDigits 10 value)
  | flag value => if value then "true" else "false"
  | plain value => value
  | quoted value => Text.quoted value
  | optional none => "None"
  | optional (some value) => "Some(" ++ Text.quoted value ++ ")"

namespace Event

/-- The wording of an event and its fields. -/
def text (complaints : Complaints) (event : Event) : String :=
  (event.shownFields complaints).foldl
    (fun line (name, value) => line ++ " " ++ name ++ "=" ++ value.render) event.message

/-- The line of an event. -/
def line (complaints : Complaints) (span : Option Span) (event : Event) : String :=
  let shown := match span with
    | some span => span.render ++ ": "
    | none => ""
  event.level.name ++ " " ++ shown ++ event.target ++ ": " ++ event.text complaints

end Event

end Turnstile
