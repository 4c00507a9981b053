import Turnstile.Principal.Resolver
import Turnstile.Tier

/-!
# Configuration

The settings of the gateway by section, each with a value to fall back on. The
four settings of the tiers belong together: only all of them limit requests.
-/

namespace Turnstile

namespace Config

/-- Where the gateway listens. -/
structure Listener where
  bindAddress : String := "0.0.0.0:8080"
  deriving DecidableEq, Repr

/-- How long a request may take. -/
structure Timeouts where
  requestSeconds : UInt64 := 30
  deriving DecidableEq, Repr

/-- One of the four settings of the tiers. -/
inductive TierSetting where
  | authenticatedCapacity
  | authenticatedRefill
  | unauthenticatedCapacity
  | unauthenticatedRefill
  deriving DecidableEq, Repr

/-- The written name of a setting. -/
def TierSetting.name : TierSetting → String
  | authenticatedCapacity => "authenticated_capacity_per_minute"
  | authenticatedRefill => "authenticated_refill_per_second"
  | unauthenticatedCapacity => "unauthenticated_capacity_per_minute"
  | unauthenticatedRefill => "unauthenticated_refill_per_second"

/-- The settings in the order in which they are written and checked. -/
def TierSetting.all : List TierSetting :=
  [authenticatedCapacity, authenticatedRefill, unauthenticatedCapacity, unauthenticatedRefill]

/-- The limits of the tiers, each of which may be missing. -/
structure RateLimit where
  authenticatedCapacity : Option UInt64 := none
  authenticatedRefill : Option UInt64 := none
  unauthenticatedCapacity : Option UInt64 := none
  unauthenticatedRefill : Option UInt64 := none
  deriving DecidableEq, Repr

namespace RateLimit

/-- The value of a setting. -/
def value? (limits : RateLimit) : TierSetting → Option UInt64
  | .authenticatedCapacity => limits.authenticatedCapacity
  | .authenticatedRefill => limits.authenticatedRefill
  | .unauthenticatedCapacity => limits.unauthenticatedCapacity
  | .unauthenticatedRefill => limits.unauthenticatedRefill

/-- The number of settings that are there. -/
def present (limits : RateLimit) : Nat :=
  (TierSetting.all.filter fun setting => (limits.value? setting).isSome).length

/-- Whether some settings are there and some missing. -/
def isPartial (limits : RateLimit) : Bool :=
  0 < limits.present && limits.present < 4

/-- The tiers, if all settings are there. -/
def tiers? (limits : RateLimit) : Option (Except TierError Tiers) := do
  let authenticatedCapacity ← limits.authenticatedCapacity
  let authenticatedRefill ← limits.authenticatedRefill
  let unauthenticatedCapacity ← limits.unauthenticatedCapacity
  let unauthenticatedRefill ← limits.unauthenticatedRefill
  some (Tiers.ofLimits ⟨authenticatedCapacity, authenticatedRefill⟩
    ⟨unauthenticatedCapacity, unauthenticatedRefill⟩)

end RateLimit

/-- Which claims name the principal of a token. -/
structure KeyResolution where
  serviceClaim : String := Extractor.defaultServiceClaim
  userClaims : List String := Extractor.defaultUserClaims
  precedence : Precedence := .serviceFirst
  deriving DecidableEq, Repr

/-- The chain of extractors that is configured. -/
def KeyResolution.resolver (claims : KeyResolution) : Resolver :=
  .ofClaims claims.serviceClaim claims.userClaims claims.precedence

/-- What is logged. -/
structure Observability where
  logLevel : String := "info"
  deriving DecidableEq, Repr

end Config

/-- The settings of the gateway. -/
structure Config where
  listener : Config.Listener := {}
  timeouts : Config.Timeouts := {}
  rateLimit : Config.RateLimit := {}
  keyResolution : Config.KeyResolution := {}
  observability : Config.Observability := {}
  deriving DecidableEq, Repr

end Turnstile
