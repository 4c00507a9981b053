import Turnstile.Config.Validation

/-!
# The limits are checked twice

The problems of a configuration name every setting of the tiers that is zero, and the tiers
look at their limits again when they are made. Settings that are all there fail the second
check exactly if one of them is zero, for the first that is (`RateLimit.zero?_of_tiers?`),
and that is the first that the problems name (`findSome?_problems`).
-/

namespace Turnstile

/-! ## Limits -/

namespace Limits

variable (tier : Tier) {limits : Limits}

theorem check_of_positive (positive : limits.Positive) :
    limits.check tier = .ok ⟨limits, positive⟩ := by
  rw [check, dif_neg positive.capacity, dif_neg positive.refill]

theorem check_of_no_capacity (zero : limits.capacity = 0) :
    limits.check tier = .error (.capacity tier) := by
  rw [check, dif_pos zero]

theorem check_of_no_refill (filled : limits.capacity ≠ 0) (zero : limits.refill = 0) :
    limits.check tier = .error (.refill tier) := by
  rw [check, dif_neg filled, dif_pos zero]

end Limits

/-- The setting of a tier's capacity. -/
def Tier.capacitySetting : Tier → Config.TierSetting
  | authenticated => .authenticatedCapacity
  | unauthenticated => .unauthenticatedCapacity

/-- The setting of a tier's refill. -/
def Tier.refillSetting : Tier → Config.TierSetting
  | authenticated => .authenticatedRefill
  | unauthenticated => .unauthenticatedRefill

/-- The setting that limits are refused for. -/
def TierError.setting : TierError → Config.TierSetting
  | capacity tier => tier.capacitySetting
  | refill tier => tier.refillSetting

/-- No two reasons name the same setting. -/
theorem TierError.setting_injective {reason other : TierError}
    (same : reason.setting = other.setting) : reason = other := by
  rcases reason with ⟨_ | _⟩ | ⟨_ | _⟩ <;> rcases other with ⟨_ | _⟩ | ⟨_ | _⟩ <;>
    first | rfl | cases same

namespace Config

theorem TierSetting.mem_all (setting : TierSetting) : setting ∈ TierSetting.all := by
  cases setting <;> simp [TierSetting.all]

namespace RateLimit

/-- The setting that is refused, if one is. -/
def refusal? {α : Type} : Except TierError α → Option TierSetting
  | .ok _ => none
  | .error reason => some reason.setting

/-- All settings are there. -/
def IsComplete (limits : RateLimit) : Prop :=
  ∀ setting, (limits.value? setting).isSome

/-- The first setting that is there and zero. -/
def zero? (limits : RateLimit) : Option TierSetting :=
  TierSetting.all.find? fun setting => limits.value? setting = some 0

theorem zero?_eq_none_iff {limits : RateLimit} :
    limits.zero? = none ↔ ∀ setting, limits.value? setting ≠ some 0 := by
  rw [zero?, List.find?_eq_none]
  constructor
  · intro none setting
    simpa using none setting (TierSetting.mem_all setting)
  · intro none setting _
    simpa using none setting

theorem IsComplete.exists_eq {limits : RateLimit} (complete : limits.IsComplete) :
    ∃ first second third fourth,
      limits = ⟨some first, some second, some third, some fourth⟩ := by
  obtain ⟨first, firstEq⟩ := Option.isSome_iff_exists.mp (complete .authenticatedCapacity)
  obtain ⟨second, secondEq⟩ := Option.isSome_iff_exists.mp (complete .authenticatedRefill)
  obtain ⟨third, thirdEq⟩ := Option.isSome_iff_exists.mp (complete .unauthenticatedCapacity)
  obtain ⟨fourth, fourthEq⟩ := Option.isSome_iff_exists.mp (complete .unauthenticatedRefill)
  obtain ⟨_, _, _, _⟩ := limits
  cases firstEq
  cases secondEq
  cases thirdEq
  cases fourthEq
  exact ⟨first, second, third, fourth, rfl⟩

/-- There are tiers, or an error instead, exactly if all settings are there. -/
theorem tiers?_isSome_iff {limits : RateLimit} : limits.tiers?.isSome ↔ limits.IsComplete := by
  constructor
  · intro there setting
    obtain ⟨outcome, found⟩ := Option.isSome_iff_exists.mp there
    simp only [tiers?, Option.bind_eq_bind, Option.bind_eq_some_iff] at found
    obtain ⟨first, firstEq, second, secondEq, third, thirdEq, fourth, fourthEq, _⟩ := found
    cases setting with
    | authenticatedCapacity => simp [value?, firstEq]
    | authenticatedRefill => simp [value?, secondEq]
    | unauthenticatedCapacity => simp [value?, thirdEq]
    | unauthenticatedRefill => simp [value?, fourthEq]
  · intro complete
    obtain ⟨first, second, third, fourth, rfl⟩ := complete.exists_eq
    rfl

/-- A tier is refused for its first setting that is zero. -/
theorem refusal?_check (limits : RateLimit) (tier : Tier) {capacity refill : UInt64}
    (hasCapacity : limits.value? tier.capacitySetting = some capacity)
    (hasRefill : limits.value? tier.refillSetting = some refill) :
    refusal? ((Limits.mk capacity refill).check tier) =
      [tier.capacitySetting, tier.refillSetting].find? fun setting =>
        limits.value? setting = some 0 := by
  by_cases noCapacity : capacity = 0
  · rw [Limits.check_of_no_capacity tier noCapacity]
    simp [hasCapacity, noCapacity, refusal?, TierError.setting]
  by_cases noRefill : refill = 0
  · rw [Limits.check_of_no_refill tier noCapacity noRefill]
    simp [hasCapacity, hasRefill, noCapacity, noRefill, refusal?, TierError.setting]
  rw [Limits.check_of_positive tier ⟨noCapacity, noRefill⟩]
  simp [hasCapacity, hasRefill, noCapacity, noRefill, refusal?]

/-- A pair of tiers is refused for the first setting that a check of either refuses. -/
theorem refusal?_ofLimits (first second : Limits) :
    refusal? (Tiers.ofLimits first second) =
      (refusal? (first.check .authenticated)).or (refusal? (second.check .unauthenticated)) := by
  unfold Tiers.ofLimits
  cases first.check .authenticated with
  | error reason => rfl
  | ok _ =>
      cases second.check .unauthenticated with
      | error reason => rfl
      | ok _ => rfl

/-- Settings that are all there make tiers, unless one is zero: then the tiers are refused for
the first that is. -/
theorem zero?_of_tiers? {limits : RateLimit} {outcome : Except TierError Tiers}
    (found : limits.tiers? = some outcome) : limits.zero? = refusal? outcome := by
  have complete : limits.IsComplete := tiers?_isSome_iff.mp (by rw [found]; rfl)
  obtain ⟨first, second, third, fourth, rfl⟩ := complete.exists_eq
  obtain rfl : Tiers.ofLimits ⟨first, second⟩ ⟨third, fourth⟩ = outcome := Option.some.inj found
  have all : TierSetting.all =
      [.authenticatedCapacity, .authenticatedRefill] ++
        [.unauthenticatedCapacity, .unauthenticatedRefill] := rfl
  rw [refusal?_ofLimits, zero?, all, List.find?_append,
    refusal?_check ⟨some first, some second, some third, some fourth⟩ .authenticated rfl rfl,
    refusal?_check ⟨some first, some second, some third, some fourth⟩ .unauthenticated rfl rfl]
  rfl

end RateLimit

/-- The setting that a problem is about. -/
def Problem.setting? : Problem → Option TierSetting
  | tierSetting setting => some setting
  | _ => none

theorem findSome?_problemIf (condition : Bool) (problem : Problem) :
    (problemIf condition problem).findSome? Problem.setting? =
      if condition then problem.setting? else none := by
  cases condition <;> simp [problemIf]

/-- The first setting that the problems name is the first that is zero. -/
theorem findSome?_problems (config : Config) :
    config.problems.findSome? Problem.setting? = config.rateLimit.zero? := by
  have settings : ∀ settings : List TierSetting,
      (settings.flatMap fun setting =>
        problemIf (config.rateLimit.value? setting == some 0)
          (.tierSetting setting)).findSome? Problem.setting? =
        settings.find? fun setting => config.rateLimit.value? setting = some 0 := by
    intro settings
    induction settings with
    | nil => rfl
    | cons setting rest inductionHypothesis =>
        rw [List.flatMap_cons, List.findSome?_append, findSome?_problemIf, inductionHypothesis]
        by_cases zero : config.rateLimit.value? setting = some 0
        · simp [zero, Problem.setting?]
        · simp [zero]
  simp only [problems, List.findSome?_append, findSome?_problemIf, settings, Problem.setting?,
    ite_self, Option.none_or, Option.or_none]
  rfl

/-- Accepted settings have no zero among them. -/
theorem zero?_of_accepted {config : Config} (accepted : config.problems = []) :
    config.rateLimit.zero? = none := by
  rw [← findSome?_problems, accepted, List.findSome?_nil]

end Config

end Turnstile
