import Turnstile.Config
import Turnstile.Gateway

/-!
# From a configuration to a gateway

The throttle of a configuration: none unless all settings of the tiers are
there, an error if they are there and one is zero. Which of these it is is
reported.
-/

namespace Turnstile.Gateway

/-- How requests are matched to keys under a configuration. -/
def policyOf (config : Config) : Caller.Policy where
  resolver := config.keyResolution.resolver

/-- The limiter of a configuration, if it has one, and what is reported of it. -/
def limiterOf (config : Config) : Except TierError (Option Limiter × List Event) :=
  match config.rateLimit.tiers? with
  | some (.ok tiers) =>
      .ok (some (.ofTiers tiers), [.limitingEnabled tiers.authenticated tiers.unauthenticated])
  | some (.error reason) => .error reason
  | none =>
      .ok (none, [if config.rateLimit.isPartial then .limitingIncomplete else .limitingAbsent])

/-- Whether a configuration limits requests. -/
def isThrottling (config : Config) : Except TierError Bool :=
  (limiterOf config).map fun (limiter, _) => limiter.isSome

/-- The throttle of a configuration over some machine. -/
def throttleOf {State : Type} (config : Config) (charger : Charger State) : Throttle State where
  policy := policyOf config
  charger := charger

end Turnstile.Gateway
