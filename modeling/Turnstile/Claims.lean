import Turnstile.Json
import Turnstile.Text.Blank

/-!
# Claims

The claim set of a token: the members of a JSON object. A claim counts as text
only if it is a JSON string that is not blank.
-/

namespace Turnstile

/-- The claims of a token by name. -/
structure Claims where
  members : List (String × Json)
  deriving BEq, Repr

namespace Claims

/-- The claim of a name. -/
def claim? (claims : Claims) (name : String) : Option Json :=
  Json.member? claims.members name

/-- The claim of a name as text. -/
def text? (claims : Claims) (name : String) : Option String :=
  match claims.claim? name with
  | some (.text value) => Text.nonBlank? value
  | _ => none

end Claims

end Turnstile
