import Mathlib.Data.List.Nodup
import Turnstile.Config.Reader
import Turnstile.Proofs.Address.Grammar

/-!
# Every problem is reported

The checks of a configuration do not get in each other's way. There is one problem for each
setting whose value is not acceptable, in the order of the settings (`problems_eq_map`),
and a setting says the same whatever the others are: another value that is acceptable takes
away the problem of its setting and leaves the rest of the list alone
(`problems_of_replaced`). What is acceptable is said of the settings and not of the checks,
down to the spelling of an address.
-/

namespace Turnstile

namespace Text

theorem isBlank_iff {text : String} :
    isBlank text = true ↔ ∀ c ∈ text.toList, isWhiteSpace c = true :=
  List.all_eq_true

end Text

namespace Config

/-! ## Settings -/

/-- A setting that is checked. -/
inductive Setting where
  | bindAddress
  | requestTimeout
  | tier (setting : TierSetting)
  | serviceClaim
  | userClaims
  deriving DecidableEq, Repr

namespace Setting

/-- The settings in the order in which they are checked. -/
def all : List Setting :=
  [bindAddress, requestTimeout] ++ TierSetting.all.map tier ++ [serviceClaim, userClaims]

theorem mem_all (setting : Setting) : setting ∈ all := by
  cases setting with
  | tier setting => cases setting <;> decide
  | _ => decide

theorem nodup_all : all.Nodup := by
  decide

/-- The value of a setting can be used. -/
def Acceptable (config : Config) : Setting → Prop
  | bindAddress => ∃ address, SocketAddress.Spells config.listener.bindAddress address
  | requestTimeout => config.timeouts.requestSeconds ≠ 0
  | tier setting => config.rateLimit.value? setting ≠ some 0
  | serviceClaim => ¬∀ c ∈ config.keyResolution.serviceClaim.toList, Text.isWhiteSpace c = true
  | userClaims => ¬∃ claim ∈ config.keyResolution.userClaims,
      ∀ c ∈ claim.toList, Text.isWhiteSpace c = true

/-- What is wrong with a setting whose value cannot be used. -/
def problem (config : Config) : Setting → Problem
  | bindAddress => .bindAddress config.listener.bindAddress
  | requestTimeout => .requestTimeout
  | tier setting => .tierSetting setting
  | serviceClaim => .serviceClaim
  | userClaims => .userClaim

/-- Whether the check of a setting finds fault. -/
def isFaulty (config : Config) : Setting → Bool
  | bindAddress => (SocketAddress.ofString? config.listener.bindAddress).isNone
  | requestTimeout => config.timeouts.requestSeconds == 0
  | tier setting => config.rateLimit.value? setting == some 0
  | serviceClaim => Text.isBlank config.keyResolution.serviceClaim
  | userClaims => config.keyResolution.userClaims.any Text.isBlank

/-- A check finds fault with the values that cannot be used and no other. -/
theorem isFaulty_iff {config : Config} {setting : Setting} :
    setting.isFaulty config = true ↔ ¬setting.Acceptable config := by
  cases setting with
  | bindAddress =>
      rw [isFaulty, Option.isNone_iff_eq_none, SocketAddress.ofString?_eq_none_iff]
      exact not_exists.symm
  | requestTimeout => simp [isFaulty, Acceptable]
  | tier setting => simp [isFaulty, Acceptable]
  | serviceClaim => rw [isFaulty, Text.isBlank_iff, Acceptable, not_not]
  | userClaims => simp only [isFaulty, List.any_eq_true, Text.isBlank_iff, Acceptable, not_not]

theorem isFaulty_eq_false_iff {config : Config} {setting : Setting} :
    setting.isFaulty config = false ↔ setting.Acceptable config := by
  rw [← Bool.not_eq_true, isFaulty_iff, not_not]

end Setting

/-- The setting that a problem is about. -/
def Problem.about : Problem → Setting
  | bindAddress _ => .bindAddress
  | requestTimeout => .requestTimeout
  | tierSetting setting => .tier setting
  | serviceClaim => .serviceClaim
  | userClaim => .userClaims

@[simp]
theorem about_problem (config : Config) (setting : Setting) :
    (setting.problem config).about = setting := by
  cases setting <;> rfl

/-! ## Problems -/

/-- The problems of a configuration are those of its settings, each on its own. -/
theorem problems_eq (config : Config) :
    config.problems = Setting.all.flatMap fun setting =>
      problemIf (setting.isFaulty config) (setting.problem config) := by
  simp only [problems, Setting.all, List.flatMap_append, List.flatMap_cons, List.flatMap_nil,
    List.flatMap_map, List.append_assoc, List.append_nil]
  rfl

theorem mem_problemIf {condition : Bool} {problem listed : Problem} :
    problem ∈ problemIf condition listed ↔ condition = true ∧ problem = listed := by
  cases condition <;> simp [problemIf]

theorem mem_problems_iff {config : Config} {problem : Problem} :
    problem ∈ config.problems ↔
      ¬problem.about.Acceptable config ∧ problem = problem.about.problem config := by
  simp only [problems_eq, List.mem_flatMap, mem_problemIf, Setting.isFaulty_iff]
  constructor
  · rintro ⟨setting, _, faulty, rfl⟩
    rw [about_problem]
    exact ⟨faulty, rfl⟩
  · rintro ⟨faulty, same⟩
    exact ⟨problem.about, Setting.mem_all _, faulty, same⟩

/-- There is one problem for each setting with a fault, in the order of the settings. -/
theorem problems_eq_map (config : Config) :
    config.problems = (Setting.all.filter (Setting.isFaulty config)).map
      (Setting.problem config) := by
  rw [problems_eq]
  induction Setting.all with
  | nil => rfl
  | cons setting others inductionHypothesis =>
      rw [List.flatMap_cons, inductionHypothesis, List.filter_cons]
      cases setting.isFaulty config <;> rfl

theorem nodup_problems (config : Config) : config.problems.Nodup := by
  have apart : Function.Injective (Setting.problem config) :=
    Function.LeftInverse.injective (about_problem config)
  rw [problems_eq_map]
  exact (Setting.nodup_all.filter _).map apart

/-- Nothing that is wrong keeps anything else from being listed. -/
example :
    problems
        { listener := ⟨"[::1]"⟩
          timeouts := ⟨0⟩
          rateLimit := ⟨some 0, none, some 1, some 0⟩
          keyResolution := ⟨"\t", ["sub", ""], .userFirst⟩ } =
      [.bindAddress "[::1]", .requestTimeout, .tierSetting .authenticatedCapacity,
        .tierSetting .unauthenticatedRefill, .serviceClaim, .userClaim] := by
  decide +kernel

/-! ## Another value -/

/-- The limits with another value of one setting. -/
def RateLimit.set (limits : RateLimit) (value : Option UInt64) : TierSetting → RateLimit
  | .authenticatedCapacity => { limits with authenticatedCapacity := value }
  | .authenticatedRefill => { limits with authenticatedRefill := value }
  | .unauthenticatedCapacity => { limits with unauthenticatedCapacity := value }
  | .unauthenticatedRefill => { limits with unauthenticatedRefill := value }

theorem RateLimit.value?_set (limits : RateLimit) (value : Option UInt64)
    {setting other : TierSetting} (different : other ≠ setting) :
    (limits.set value setting).value? other = limits.value? other := by
  cases setting <;> cases other <;> first | rfl | exact absurd rfl different

/-- A configuration with another value of one setting. -/
inductive Replaced (config : Config) : Setting → Config → Prop
  | bindAddress (address : String) :
      Replaced config .bindAddress { config with listener.bindAddress := address }
  | requestTimeout (seconds : UInt64) :
      Replaced config .requestTimeout { config with timeouts.requestSeconds := seconds }
  | tier (setting : TierSetting) (value : Option UInt64) :
      Replaced config (.tier setting)
        { config with rateLimit := config.rateLimit.set value setting }
  | serviceClaim (claim : String) :
      Replaced config .serviceClaim { config with keyResolution.serviceClaim := claim }
  | userClaims (claims : List String) :
      Replaced config .userClaims { config with keyResolution.userClaims := claims }

section

variable {config other : Config} {setting : Setting} (replaced : Replaced config setting other)
include replaced

/-- What is checked of the other settings stays what it was. -/
theorem Replaced.elsewhere {each : Setting} (different : each ≠ setting) :
    each.isFaulty other = each.isFaulty config ∧ each.problem other = each.problem config := by
  cases replaced with
  | tier setting value =>
      cases each with
      | tier each =>
          have kept := config.rateLimit.value?_set value
            (fun same => different (congrArg Setting.tier same))
          exact ⟨congrArg (· == some 0) kept, rfl⟩
      | _ => exact ⟨rfl, rfl⟩
  | _ => cases each <;> first | exact ⟨rfl, rfl⟩ | exact absurd rfl different

/-- An acceptable value takes away the problem of its setting and no other. -/
theorem problems_of_replaced (acceptable : setting.Acceptable other) :
    other.problems = config.problems.filter fun problem => problem.about ≠ setting := by
  rw [problems_eq, problems_eq, List.filter_flatMap]
  congr 1
  funext each
  by_cases same : each = setting
  · subst same
    rw [Setting.isFaulty_eq_false_iff.mpr acceptable]
    cases each.isFaulty config <;> simp [problemIf]
  · obtain ⟨sameFault, sameProblem⟩ := replaced.elsewhere same
    rw [sameFault, sameProblem]
    cases each.isFaulty config <;> simp [problemIf, same]

end

/-! ## Checking -/

theorem check_of_no_problems {config : Config} (none : config.problems = []) :
    config.check = .ok config := by
  rw [check, none]

theorem check_of_cons {config : Config} {first : Problem} {rest : List Problem}
    (listed : config.problems = first :: rest) :
    config.check = .error (.invalid (first :: rest)) := by
  rw [check, listed]

theorem check_of_problems {config : Config} (some : config.problems ≠ []) :
    config.check = .error (.invalid config.problems) := by
  obtain ⟨first, rest, listed⟩ := List.exists_cons_of_ne_nil some
  rw [check_of_cons listed, listed]

end Config

end Turnstile
