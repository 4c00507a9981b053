/-!
# TOML values

The values of TOML 1.0. A table keeps its members in the order in which they
first appear. Decimal numbers and moments in time are kept as they are spelled.
-/

namespace Turnstile

/-- A TOML value. -/
inductive Toml where
  | text (value : String)
  /-- A signed 64-bit integer. -/
  | integer (value : Int)
  | boolean (value : Bool)
  | decimal (spelling : String)
  /-- A date, a time of day, or both. -/
  | moment (spelling : String)
  | array (items : List Toml)
  | table (members : List (String × Toml))
  deriving BEq, Repr, Inhabited

/-- The member of a table under a key. -/
def Toml.member? (members : List (String × Toml)) (key : String) : Option Toml :=
  (members.find? fun (other, _) => other = key).map Prod.snd

end Turnstile
