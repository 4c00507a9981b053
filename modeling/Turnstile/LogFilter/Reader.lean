import Turnstile.LogFilter
import Turnstile.Text.Alphanumeric
import Turnstile.Text.Blank
import Turnstile.Text.Digit

/-!
# Reading log filters

A filter is written as directives with commas between them. A directive is a
level, a target, or a target and a level with an equals sign between them; the
name of a span and a field may stand behind the target in brackets and braces.
An empty level is the most talkative one.

The parts of a directive are found in its trimmed text and cut out of the text as
it stands, at the same positions. White space in front therefore displaces them,
and white space behind belongs to the last of them.
-/

namespace Turnstile

/-- The threshold of a text: a number up to five, or a name in any case. -/
def Threshold.ofChars? (input : List Char) : Option Threshold :=
  let digits := match input with
    | '+' :: rest => rest
    | _ => input
  if digits ≠ [] ∧ digits.all (Text.isDigitOf 10) then
    let number := Text.valueOf 10 digits
    if number = 0 then some .off
    else (Level.all.find? fun level => level.rank = number).map .upTo
  else
    let name := (String.ofList input).toUpper
    if name = "OFF" then some .off
    else (Level.all.find? fun level => level.name = name).map .upTo

namespace Directive

/-- Why a text is no directive. -/
inductive ReadError where
  | level
  | malformed
  deriving DecidableEq, Repr

/-- The wording of why a text is no directive. -/
def ReadError.message : ReadError → String
  | level =>
      "error parsing level filter: expected one of \"off\", \"error\", \"warn\", \"info\", " ++
        "\"debug\", \"trace\", or a number 0-5"
  | malformed => "invalid filter directive"

/-- The text between two positions. -/
def cut (full : List Char) (start stop : Nat) : String :=
  String.ofList ((full.take stop).drop start)

/-- The threshold that a text holds from a position on. -/
def thresholdFrom (full : List Char) (start : Nat) : Except ReadError Threshold :=
  match full.drop start with
  | [] => .ok (.upTo .trace)
  | written =>
      match Threshold.ofChars? written with
      | some threshold => .ok threshold
      | none => .error .level

/-- The threshold behind a span, whose end is at a position. -/
def thresholdAfterSpan (full : List Char) (position : Nat) :
    List Char → Except ReadError Threshold
  | [] => .ok (.upTo .trace)
  | '=' :: _ => thresholdFrom full (position + 1)
  | _ => .error .malformed

/-- The field that a text describes: its name and, behind an equals sign, its text. -/
def fieldOf (text : String) : FieldPattern :=
  match text.splitOn "=" with
  | name :: value :: _ => ⟨name, some value⟩
  | _ => ⟨text, none⟩

/-- The directive with a span that is written from a position on. -/
def ofSpan (full : List Char) (target : Option String) (position : Nat) (input : List Char) :
    Except ReadError Directive :=
  let isInside (c : Char) : Bool := c ≠ ']' && c ≠ '{'
  let stop := position + (input.takeWhile isInside).length
  let name := cut full position stop
  match input.dropWhile isInside with
  | ']' :: rest => do
      .ok { target := target, span := some name
            threshold := ← thresholdAfterSpan full (stop + 1) rest }
  | '{' :: rest =>
      let last := stop + 1 + (rest.takeWhile fun c => c ≠ '}').length
      let field := cut full (stop + 1) last
      match rest.dropWhile fun c => c ≠ '}' with
      | '}' :: ']' :: rest => do
          if field.isEmpty then .error .malformed
          else
            .ok { target := target, span := if name.isEmpty then none else some name
                  field := some (fieldOf field)
                  threshold := ← thresholdAfterSpan full (last + 2) rest }
      | _ => .error .malformed
  | _ => .error .malformed

/-- Whether a target may start with a character. -/
def isTargetStart (c : Char) : Bool :=
  c = '-' || c = ':' || c = '_' || Text.isAlphanumeric c

/-- The directive of a text, in which no comma stands. -/
def ofString (text : String) : Except ReadError Directive :=
  let full := text.toList
  let input := Text.trimChars full
  match input with
  | [] => .error .malformed
  | '[' :: rest => ofSpan full none 1 rest
  | first :: _ =>
      if isTargetStart first then
        let isInside (c : Char) : Bool := c ≠ '=' && c ≠ '['
        let stop := (input.takeWhile isInside).length
        let target := cut full 0 stop
        match input.dropWhile isInside with
        | '[' :: rest => ofSpan full (some target) (stop + 1) rest
        | '=' :: _ => do
            .ok { target := some target, threshold := ← thresholdFrom full (stop + 1) }
        | _ =>
            match Threshold.ofChars? full with
            | some threshold => .ok { threshold := threshold }
            | none => .ok { target := some text }
      else .error .malformed

end Directive

namespace LogFilter

/-- The written directives of a filter. -/
def pieces (text : String) : List String :=
  (text.splitOn ",").filter fun piece => !piece.isEmpty

/-- The filter of a text, if all its directives can be read. -/
def ofString (text : String) : Except Directive.ReadError LogFilter := do
  .ok (ofDirectives (← (pieces text).mapM Directive.ofString))

/-- The directive of a text, if it can be read. -/
def directive? (piece : String) : Option Directive :=
  match Directive.ofString piece with
  | .ok directive => some directive
  | .error _ => none

/-- What is said of a directive that cannot be read. -/
def notice? (piece : String) : Option String :=
  match Directive.ofString piece with
  | .ok _ => none
  | .error reason => some ("ignoring `" ++ piece ++ "`: " ++ reason.message)

/-- The filter of those directives of a text that can be read. -/
def ofReadable (text : String) : LogFilter :=
  ofDirectives ((pieces text).filterMap directive?)

/-- What is said of the directives of a text that cannot be read. -/
def notices (text : String) : List String :=
  (pieces text).filterMap notice?

/-- The text of the filter that a configured level stands for. -/
def textOfLevel (level : String) : String :=
  "request_throttle=" ++ level ++ ",tower_http=" ++ level

/-- The filter in force and what is said of its directives: the one that is asked
for, if it can be read, and else that of the configured level. -/
def inForce (wanted : Option String) (level : String) : LogFilter × List String :=
  let configured := textOfLevel level
  match wanted.map ofString with
  | some (.ok filter) => (filter, [])
  | _ => (ofReadable configured, notices configured)

end LogFilter

end Turnstile
