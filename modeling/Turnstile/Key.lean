import Turnstile.Text.Blank
import Turnstile.Text.Offset

/-!
# Rate limit keys

A key is text of the form `kind:identifier`. Four kinds are recognised; every
other key is of unknown kind and is its own identifier, and a blank key has the
identifier `unknown`.
-/

namespace Turnstile.Key

/-- What sort of caller a key stands for. -/
inductive Kind where
  | user
  | service
  | ip
  | auth
  | unknown
  deriving DecidableEq, Repr

namespace Kind

/-- The written name of a kind. -/
def name : Kind → String
  | user => "user"
  | service => "service"
  | ip => "ip"
  | auth => "auth"
  | unknown => "unknown"

/-- The kinds a key can announce, in the order in which they are tried. -/
def announced : List Kind := [user, service, ip, auth]

/-- The text with which a key announces its kind. -/
def lead (kind : Kind) : String := kind.name ++ ":"

end Kind

/-- The key of a kind and an identifier. -/
def compose (kind : Kind) (identifier : String) : String :=
  kind.lead ++ identifier

/-- The announced kind of a key and the text after its colon. -/
def split? (key : String) : Option (Kind × String) :=
  Kind.announced.findSome? fun kind =>
    (kind.lead.toList.isPrefixOf? key.toList).map fun rest => (kind, String.ofList rest)

/-- The kind of a key. -/
def kind (key : String) : Kind :=
  match split? key with
  | some (kind, _) => kind
  | none => .unknown

/-- The identifier of a key: what follows the announced kind, the whole key when
none is announced, and `unknown` for a blank key. -/
def identifier (key : String) : String :=
  if Text.isBlank key then "unknown"
  else
    match split? key with
    | some (_, rest) => rest
    | none => key

/-- The number of characters of an identifier that are shown. -/
def shownLength : Nat := 100

/-- The offset at which an identifier is cut: that of the first character which is not shown. -/
def cut? (identifier : String) : Option Nat :=
  (Text.offsets 0 identifier.toList)[shownLength]?

/-- The identifier as it is shown: past its first hundred characters it is cut
and marked with three dots. Nothing is shown if the cut goes through a character. -/
def display? (key : String) : Option String :=
  match cut? (identifier key) with
  | some offset => (Text.firstBytes? offset (identifier key)).map (· ++ "...")
  | none => some (identifier key)

/-- No cut goes through a character. -/
theorem isSome_display? (key : String) : (display? key).isSome = true := by
  unfold display?
  split
  · next offset found => rw [Text.firstBytes?_of_offset found, Option.map_some, Option.isSome_some]
  · rfl

/-- The identifier as it is shown. -/
def display (key : String) : String :=
  (display? key).get (isSome_display? key)

end Turnstile.Key
