import Turnstile.Config.Reader
import Turnstile.Text.Quoted

/-!
# Diagnostics

The form in which the program prints why it does not start: the cause by its
name, with the values that belong to it.
-/

namespace Turnstile

/-- A tier by its name. -/
def Tier.diagnostic : Tier → String
  | authenticated => "Authenticated"
  | unauthenticated => "Unauthenticated"

/-- A refused pair of tiers by the name of the cause. -/
def TierError.diagnostic : TierError → String
  | capacity tier => "InvalidCapacity \x7b tier: " ++ tier.diagnostic ++ " \x7d"
  | refill tier => "InvalidRefill \x7b tier: " ++ tier.diagnostic ++ " \x7d"

namespace Config

/-- A problem of a configuration by its name. -/
def Problem.diagnostic : Problem → String
  | bindAddress text => "InvalidBindAddress(" ++ Text.quoted text ++ ")"
  | requestTimeout => "ZeroRequestTimeout"
  | tierSetting setting => "NonPositiveRateLimit(" ++ Text.quoted setting.name ++ ")"
  | serviceClaim => "BlankServiceClaim"
  | userClaim => "BlankUserClaim"

/-- Why no configuration is loaded, by the name of the cause. -/
def LoadError.diagnostic : LoadError → String
  | missing =>
      "Io(Os \x7b code: 2, kind: NotFound, message: \"No such file or directory\" \x7d)"
  | encoding =>
      "Io(Error \x7b kind: InvalidData, message: \"stream did not contain valid UTF-8\" \x7d)"
  | malformed => "Parse(...)"
  | invalid problems => "Validation([" ++ ", ".intercalate (problems.map Problem.diagnostic) ++ "])"

end Config

end Turnstile
