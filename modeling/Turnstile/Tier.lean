import Turnstile.Key

/-!
# Tiers

A key is charged against one of two tiers. Keys by address are unauthenticated,
all other keys authenticated. A pair of tiers is accepted only when all four of
its settings are positive, and the accepted pair carries that fact.
-/

namespace Turnstile

/-- The budget class a key is charged against. -/
inductive Tier where
  | authenticated
  | unauthenticated
  deriving DecidableEq, Repr

/-- The written name of a tier. -/
def Tier.name : Tier → String
  | authenticated => "authenticated"
  | unauthenticated => "unauthenticated"

/-- The tier of a key. -/
def Tier.ofKey (key : String) : Tier :=
  match Key.kind key with
  | .ip => .unauthenticated
  | _ => .authenticated

/-- The size of a bucket and the rate at which it fills. -/
structure Limits where
  /-- The most tokens a bucket holds. -/
  capacity : UInt64
  /-- Tokens restored in a second. -/
  refill : UInt64
  deriving DecidableEq, Repr

/-- Limits under which a bucket admits someone and recovers. -/
structure Limits.Positive (limits : Limits) : Prop where
  capacity : limits.capacity ≠ 0
  refill : limits.refill ≠ 0

/-- Why a pair of tiers is refused. -/
inductive TierError where
  | capacity (tier : Tier)
  | refill (tier : Tier)
  deriving DecidableEq, Repr

/-- The wording of a refused pair of tiers. -/
def TierError.message : TierError → String
  | capacity tier => tier.name ++ " tier capacity per minute must be positive"
  | refill tier => tier.name ++ " tier refill per second must be positive"

/-- The limits of both tiers, all of them positive. -/
structure Tiers where
  authenticated : Limits
  unauthenticated : Limits
  authenticated_positive : authenticated.Positive
  unauthenticated_positive : unauthenticated.Positive

/-- Limits of one tier with the proof that they are positive, the capacity being
looked at before the refill. -/
def Limits.check (tier : Tier) (limits : Limits) :
    Except TierError { limits : Limits // limits.Positive } :=
  if noCapacity : limits.capacity = 0 then .error (.capacity tier)
  else if noRefill : limits.refill = 0 then .error (.refill tier)
  else .ok ⟨limits, ⟨noCapacity, noRefill⟩⟩

namespace Tiers

/-- The pair of tiers, the authenticated one being looked at first. -/
def ofLimits (authenticated unauthenticated : Limits) : Except TierError Tiers :=
  match authenticated.check .authenticated with
  | .error reason => .error reason
  | .ok ⟨first, firstPositive⟩ =>
      match unauthenticated.check .unauthenticated with
      | .error reason => .error reason
      | .ok ⟨second, secondPositive⟩ => .ok ⟨first, second, firstPositive, secondPositive⟩

/-- The limits of a tier. -/
def limits (tiers : Tiers) : Tier → Limits
  | .authenticated => tiers.authenticated
  | .unauthenticated => tiers.unauthenticated

/-- The limits of a key's tier. -/
def limitsFor (tiers : Tiers) (key : String) : Limits :=
  tiers.limits (Tier.ofKey key)

/-- The limits of every key are positive. -/
theorem limitsFor_positive (tiers : Tiers) (key : String) : (tiers.limitsFor key).Positive := by
  unfold limitsFor
  cases Tier.ofKey key with
  | authenticated => exact tiers.authenticated_positive
  | unauthenticated => exact tiers.unauthenticated_positive

end Tiers

end Turnstile
