import Turnstile.Program
import Turnstile.Proofs.Config.Limits
import Turnstile.Proofs.Limiter.Turns

/-!
# A start that is not refused

Whether a limiter can be made is what the problems of the configuration say of its limits
(`Gateway.agrees`). Every configuration that the program goes on with has no problems, be it
read, a default or changed by the command line (`Program.problems_of_configure`), so that no
start gets to a limiter that cannot be made (`Program.start_outcome`).
-/

namespace Turnstile

/-! ## The limiter -/

/-- Every bucket admits someone and recovers. -/
def Limiter.Recovers (limiter : Limiter) : Prop :=
  ∀ key bucket, limiter.bucket? key = some bucket → bucket.limits.Positive

theorem Limiter.Sound.recovers {limiter : Limiter} (sound : limiter.Sound) : limiter.Recovers := by
  intro key bucket there
  rw [(sound key bucket there).1]
  exact limiter.tiers.limitsFor_positive key

namespace Gateway

/-- How the limiter of a configuration goes with the list of its problems. -/
structure Agrees (config : Config) : Prop where
  /-- Nothing is refused that has no problems. -/
  accepted : config.problems = [] → ∃ made, limiterOf config = .ok made
  /-- Requests are limited exactly if all settings are there. -/
  limiting : ∀ limiter events, limiterOf config = .ok (limiter, events) →
    (limiter.isSome ↔ config.rateLimit.IsComplete)
  /-- What is refused is a zero among settings that are all there. -/
  refused : (∃ reason, limiterOf config = .error reason) ↔
    config.rateLimit.IsComplete ∧ ∃ setting, config.rateLimit.value? setting = some 0
  /-- It is refused for the first setting that the problems name. -/
  named : ∀ reason, limiterOf config = .error reason ↔ config.rateLimit.IsComplete ∧
    config.problems.findSome? Config.Problem.setting? = some reason.setting
  /-- No bucket is made that stays empty, neither by charges one after another nor by threads
  that charge at once. -/
  recovers : ∀ limiter events, limiterOf config = .ok (some limiter, events) →
    (∀ start actions, (TimedLimiter.run ⟨start, limiter⟩ actions).2.limiter.Recovers) ∧
      ∀ start work turns, ((Schedule.State.start limiter start work).run turns).limiter.Recovers

/-- What is refused has all settings, and is refused for the first that is zero. -/
theorem zero?_of_refused {config : Config} {reason : TierError}
    (refused : limiterOf config = .error reason) :
    config.rateLimit.IsComplete ∧ config.rateLimit.zero? = some reason.setting := by
  unfold limiterOf at refused
  split at refused
  · cases refused
  · next other found =>
      cases refused
      refine ⟨Config.RateLimit.tiers?_isSome_iff.mp ?_, Config.RateLimit.zero?_of_tiers? found⟩
      rw [found]
      rfl
  · cases refused

/-- What is made is a limiter without buckets if all settings are there, none of them zero,
and else no limiter. -/
theorem limiterOf_eq_ok {config : Config} {limiter : Option Limiter} {events : List Event}
    (made : limiterOf config = .ok (limiter, events)) :
    (∃ tiers, limiter = some (.ofTiers tiers) ∧ config.rateLimit.IsComplete ∧
      config.rateLimit.zero? = none) ∨ (limiter = none ∧ ¬config.rateLimit.IsComplete) := by
  unfold limiterOf at made
  split at made
  · next tiers found =>
      cases made
      refine .inl ⟨tiers, rfl, Config.RateLimit.tiers?_isSome_iff.mp ?_,
        Config.RateLimit.zero?_of_tiers? found⟩
      rw [found]
      rfl
  · cases made
  · next missing =>
      cases made
      refine .inr ⟨rfl, fun complete => ?_⟩
      have there := Config.RateLimit.tiers?_isSome_iff.mpr complete
      rw [missing] at there
      cases there

/-- Settings that are all there are refused if one of them is zero. -/
theorem exists_refused {config : Config} (complete : config.rateLimit.IsComplete)
    {setting : Config.TierSetting} (zero : config.rateLimit.value? setting = some 0) :
    ∃ reason, limiterOf config = .error reason := by
  cases outcome : limiterOf config with
  | error reason => exact ⟨reason, rfl⟩
  | ok made =>
      rcases limiterOf_eq_ok outcome with ⟨_, _, _, positive⟩ | ⟨_, incomplete⟩
      · exact absurd zero (Config.RateLimit.zero?_eq_none_iff.mp positive setting)
      · exact absurd complete incomplete

/-- A limiter is made and refused as the problems of its configuration say. -/
theorem agrees (config : Config) : Agrees config where
  accepted accepted := by
    cases outcome : limiterOf config with
    | ok made => exact ⟨made, rfl⟩
    | error reason =>
        have zero := (zero?_of_refused outcome).2
        rw [Config.zero?_of_accepted accepted] at zero
        cases zero
  limiting limiter events made := by
    rcases limiterOf_eq_ok made with ⟨tiers, rfl, complete, _⟩ | ⟨rfl, incomplete⟩
    · simp [complete]
    · simp [incomplete]
  refused := by
    constructor
    · rintro ⟨reason, refused⟩
      obtain ⟨complete, zero⟩ := zero?_of_refused refused
      exact ⟨complete, reason.setting, by simpa using List.find?_some zero⟩
    · rintro ⟨complete, setting, zero⟩
      exact exists_refused complete zero
  named reason := by
    rw [Config.findSome?_problems]
    constructor
    · exact zero?_of_refused
    · rintro ⟨complete, zero⟩
      obtain ⟨other, refused⟩ := exists_refused complete (by simpa using List.find?_some zero)
      have same := (zero?_of_refused refused).2.symm.trans zero
      rw [refused, TierError.setting_injective (Option.some.inj same)]
  recovers limiter events made := by
    rcases limiterOf_eq_ok made with ⟨tiers, new, _, _⟩ | ⟨missing, _⟩
    · cases new
      have sound := Limiter.Sound.ofTiers tiers
      refine ⟨fun start actions => ?_, fun start work turns => ?_⟩
      · exact (@TimedLimiter.run_sound ⟨start, _⟩ sound actions).recovers
      · exact (@Schedule.run_sound (.start _ start work) sound turns).recovers
    · cases missing

end Gateway

namespace Config

theorem problems_default : problems {} = [] := by
  decide +kernel

/-- A configuration that was checked has no problems. -/
theorem problems_of_check {config checked : Config} (passed : config.check = .ok checked) :
    checked.problems = [] := by
  unfold check at passed
  split at passed
  · next accepted =>
      cases passed
      exact accepted
  · cases passed

/-- A configuration that was read has no problems. -/
theorem problems_of_load {bytes : Option (List UInt8)} {config : Config}
    (read : load bytes = .ok config) : config.problems = [] := by
  unfold load ofString at read
  split at read
  · cases read
  · split at read
    · split at read
      · exact problems_of_check read
      · cases read
    · cases read

end Config

namespace Program

/-- A configuration that the program goes on with has no problems. -/
theorem problems_of_configure {file? : String → Option (List UInt8)} {commandLine : CommandLine}
    {config : Config} (configured : configure file? commandLine = .ok config) :
    config.problems = [] := by
  simp only [configure, bind, Except.bind] at configured
  cases bindAddress : commandLine.bindAddress with
  | some address =>
      -- With another address, everything is checked again.
      simp only [bindAddress] at configured
      split at configured
      · split at configured
        · cases configured
        · exact Config.problems_of_check configured
      · exact Config.problems_of_check configured
  | none =>
      simp only [bindAddress] at configured
      split at configured
      · split at configured
        · cases configured
        · next read =>
            cases configured
            exact Config.problems_of_load read
      · cases configured
        exact Config.problems_default

/-- The ways in which a start may end: at the command line, at the configuration, or in a
service under a configuration without problems. -/
inductive Outcome (launch : Launch) : Except Exit Service → Prop
  | stopped {stop : CommandLine.Stop}
      (read : CommandLine.ofArguments launch.arguments = .error stop) :
      Outcome launch (.error (exitOf stop))
  | refused {commandLine : CommandLine} {reason : Config.LoadError}
      (read : CommandLine.ofArguments launch.arguments = .ok commandLine)
      (refused : configure launch.file? commandLine = .error reason) :
      Outcome launch (.error (Failure.config reason).exit)
  | serving {commandLine : CommandLine} {service : Service}
      (read : CommandLine.ofArguments launch.arguments = .ok commandLine)
      (configured : configure launch.file? commandLine = .ok service.config)
      (accepted : service.config.problems = [])
      (made : Gateway.limiterOf service.config = .ok (service.limiter, service.limiterEvents)) :
      Outcome launch (.ok service)

/-- Every start ends in one of these ways; in none of them are the tiers refused. -/
theorem start_outcome (launch : Launch) : Outcome launch (start launch) := by
  unfold start
  cases read : CommandLine.ofArguments launch.arguments with
  | error stop => exact .stopped read
  | ok commandLine =>
      dsimp only
      unfold prepare
      cases configured : configure launch.file? commandLine with
      | error reason => exact .refused read configured
      | ok config =>
          have accepted := problems_of_configure configured
          obtain ⟨⟨limiter, events⟩, made⟩ := (Gateway.agrees config).accepted accepted
          simp only [made]
          exact .serving read configured accepted made

/-- The limiter agrees with the problems of every configuration, and so no start gets to
a limiter that cannot be made. -/
theorem start_never_refused_by_tiers :
    (∀ config, Gateway.Agrees config) ∧ ∀ launch, Outcome launch (start launch) :=
  ⟨Gateway.agrees, start_outcome⟩

/-- A zero in each tier: the tiers are refused for the first, as the problems say. -/
theorem start_never_refused_by_tiers_of_zeros :
    let config : Config := { rateLimit := ⟨some 60, some 0, some 0, some 1⟩ }
    config.rateLimit.IsComplete ∧
      Gateway.limiterOf config = .error (.refill .authenticated) ∧
      config.problems.findSome? Config.Problem.setting? = some .authenticatedRefill := by
  intro config
  have complete : config.rateLimit.IsComplete := fun setting => by cases setting <;> rfl
  have first : config.problems.findSome? Config.Problem.setting? = some .authenticatedRefill := by
    decide +kernel
  refine ⟨complete, ?_, first⟩
  exact ((start_never_refused_by_tiers.1 config).named (.refill .authenticated)).mpr
    ⟨complete, first⟩

end Program

end Turnstile
