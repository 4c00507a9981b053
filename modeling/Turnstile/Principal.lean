import Turnstile.Key

/-!
# Principals

Who a credential stands for, and the key that principal is charged under.
-/

namespace Turnstile

/-- Who makes a request with a credential. -/
inductive Principal where
  | service (id : String)
  | user (id : String)
  | anonymous
  deriving DecidableEq, Repr

namespace Principal

/-- The kind of key a principal is charged under. -/
def kind : Principal → Key.Kind
  | service _ => .service
  | user _ => .user
  | anonymous => .auth

/-- The name by which a principal is told apart from others of its kind. -/
def identifier : Principal → String
  | service id => id
  | user id => id
  | anonymous => "unidentified"

/-- The key a principal is charged under. -/
def key (principal : Principal) : String :=
  Key.compose principal.kind principal.identifier

end Principal

end Turnstile
