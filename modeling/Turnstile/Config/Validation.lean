import Turnstile.Address.Reader
import Turnstile.Config

/-!
# Problems of a configuration

Every setting is checked on its own and every problem is listed, in the order of
the settings; a configuration is accepted when the list is empty.
-/

namespace Turnstile.Config

/-- Something wrong with a configuration. -/
inductive Problem where
  | bindAddress (text : String)
  | requestTimeout
  | tierSetting (setting : TierSetting)
  | serviceClaim
  | userClaim
  deriving DecidableEq, Repr

/-- The wording of a problem. -/
def Problem.message : Problem → String
  | bindAddress text => "listener.bind_address '" ++ text ++ "' is not a socket address"
  | requestTimeout => "timeouts.request_secs must be positive"
  | tierSetting setting => "rate_limit." ++ setting.name ++ " must be positive"
  | serviceClaim => "key_resolution.service_claim must not be blank"
  | userClaim => "key_resolution.user_claims must not contain blank entries"

/-- A problem, if a condition holds. -/
def problemIf (condition : Bool) (problem : Problem) : List Problem :=
  if condition then [problem] else []

/-- All problems of a configuration. -/
def problems (config : Config) : List Problem :=
  problemIf (SocketAddress.ofString? config.listener.bindAddress).isNone
      (.bindAddress config.listener.bindAddress) ++
    problemIf (config.timeouts.requestSeconds == 0) .requestTimeout ++
    TierSetting.all.flatMap (fun setting =>
      problemIf (config.rateLimit.value? setting == some 0) (.tierSetting setting)) ++
    problemIf (Text.isBlank config.keyResolution.serviceClaim) .serviceClaim ++
    problemIf (config.keyResolution.userClaims.any Text.isBlank) .userClaim

/-- The wording of several problems. -/
def problemsMessage (problems : List Problem) : String :=
  "Validation failed: " ++ ", ".intercalate (problems.map Problem.message)

end Turnstile.Config
