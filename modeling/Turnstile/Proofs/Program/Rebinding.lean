import Turnstile.Proofs.Config.Problems
import Turnstile.Proofs.Program.Startup

/-!
# Another address is checked again

What the problems of a configuration say together (`Config.validated`), and what an address
on the command line can still bring about: a configuration that the program would go on with
has no problems, so that with another address there is one at most, the address
(`Program.rebound`).
-/

namespace Turnstile

namespace Config

/-- The problems of a configuration, and what comes of them. -/
structure Validated (config : Config) : Prop where
  /-- There is one problem for each setting that cannot be used, in the order of the settings. -/
  ordered : ∃ settings : List Setting, List.Sublist settings Setting.all ∧
    (∀ setting, setting ∈ settings ↔ ¬setting.Acceptable config) ∧
    config.problems = settings.map (Setting.problem config)
  /-- No problem is listed twice. -/
  once : config.problems.Nodup
  /-- The address is listed as it is written, if it is not that of a socket. -/
  bindAddress : ∀ text, .bindAddress text ∈ config.problems ↔
    text = config.listener.bindAddress ∧ ∀ address, ¬SocketAddress.Spells text address
  /-- The time of a request is listed if it is zero. -/
  requestTimeout : .requestTimeout ∈ config.problems ↔ config.timeouts.requestSeconds = 0
  /-- A setting of the tiers is listed if it is there and zero. -/
  tierSetting : ∀ setting,
    .tierSetting setting ∈ config.problems ↔ config.rateLimit.value? setting = some 0
  /-- The claim of services is listed if it is blank. -/
  serviceClaim : .serviceClaim ∈ config.problems ↔
    ∀ c ∈ config.keyResolution.serviceClaim.toList, Text.isWhiteSpace c = true
  /-- The claims of users are listed if one of them is blank. -/
  userClaim : .userClaim ∈ config.problems ↔
    ∃ claim ∈ config.keyResolution.userClaims, ∀ c ∈ claim.toList, Text.isWhiteSpace c = true
  /-- Without problems, and only then, a configuration is accepted as it is. -/
  accepted : config.check = .ok config ↔ config.problems = []
  /-- Otherwise all of them are reported. -/
  refused : config.problems ≠ [] → config.check = .error (.invalid config.problems)
  /-- Another value that can be used takes away the problem of its setting, and leaves the
  others in their place. -/
  independent : ∀ setting other, Replaced config setting other → setting.Acceptable other →
    other.problems = config.problems.filter fun problem => problem.about ≠ setting
  /-- What was accepted is refused with another address for that address alone. -/
  rebound : config.check = .ok config → ∀ address other,
    other = { config with listener.bindAddress := address } →
      other.check = .ok other ∨ other.check = .error (.invalid [.bindAddress address])

/-- With another address there is nothing wrong with a configuration but the address. -/
theorem problems_of_bindAddress {config : Config} (none : config.problems = [])
    (address : String) :
    { config with listener.bindAddress := address : Config }.problems =
      problemIf (SocketAddress.ofString? address).isNone (.bindAddress address) := by
  simp only [problems, List.append_eq_nil_iff] at none
  obtain ⟨⟨⟨⟨_, timeout⟩, tiers⟩, service⟩, users⟩ := none
  simp only [problems, timeout, tiers, service, users, List.append_nil]

theorem validated (config : Config) : Validated config where
  ordered := by
    refine ⟨_, List.filter_sublist, fun setting => ?_, problems_eq_map config⟩
    rw [List.mem_filter, Setting.isFaulty_iff]
    exact and_iff_right (Setting.mem_all setting)
  once := nodup_problems config
  bindAddress text := by
    rw [mem_problems_iff]
    constructor
    · rintro ⟨faulty, same⟩
      obtain rfl := Problem.bindAddress.inj same
      exact ⟨rfl, not_exists.mp faulty⟩
    · rintro ⟨rfl, unspelled⟩
      exact ⟨not_exists.mpr unspelled, rfl⟩
  requestTimeout := by
    simp [mem_problems_iff, Problem.about, Setting.Acceptable, Setting.problem]
  tierSetting setting := by
    simp [mem_problems_iff, Problem.about, Setting.Acceptable, Setting.problem]
  serviceClaim := by
    simp [mem_problems_iff, Problem.about, Setting.Acceptable, Setting.problem]
  userClaim := by
    simp [mem_problems_iff, Problem.about, Setting.Acceptable, Setting.problem]
  accepted := by
    constructor
    · exact problems_of_check
    · exact check_of_no_problems
  refused := check_of_problems
  independent setting other := problems_of_replaced
  rebound passed address other same := by
    have only := problems_of_bindAddress (problems_of_check passed) address
    rw [← same] at only
    cases read : SocketAddress.ofString? address with
    | some socket => exact .inl (check_of_no_problems (by rw [only, read]; rfl))
    | none =>
        rw [read] at only
        exact .inr (check_of_cons only)

end Config

namespace Program

/-- What comes of an address on the command line. -/
structure Rebound (file? : String → Option (List UInt8)) (path : Option String)
    (address : String) : Prop where
  /-- What is refused without the address is refused with it, for the same reason. -/
  failed : ∀ reason, configure file? ⟨path, none⟩ = .error reason →
    configure file? ⟨path, some address⟩ = .error reason
  /-- What passed goes on with the address of a socket. -/
  passed : ∀ config socket, configure file? ⟨path, none⟩ = .ok config →
    SocketAddress.Spells address socket →
      configure file? ⟨path, some address⟩ = .ok { config with listener.bindAddress := address }
  /-- What passed is refused for any other address, and for nothing else. -/
  refused : ∀ config, configure file? ⟨path, none⟩ = .ok config →
    (∀ socket, ¬SocketAddress.Spells address socket) →
      configure file? ⟨path, some address⟩ = .error (.invalid [.bindAddress address])

/-- An address is put in the place of the one that is there, and all is checked again. -/
theorem configure_some (file? : String → Option (List UInt8)) (path : Option String)
    (address : String) :
    configure file? ⟨path, some address⟩ = configure file? ⟨path, none⟩ >>=
      fun config => Config.check { config with listener.bindAddress := address } := by
  cases path with
  | none => rfl
  | some path =>
      simp only [configure, bind, Except.bind]
      cases Config.load (file? path) <;> rfl

theorem rebound (file? : String → Option (List UInt8)) (path : Option String)
    (address : String) : Rebound file? path address where
  failed reason failed := by
    rw [configure_some, failed]
    rfl
  passed config socket configured spelled := by
    have nothing := Config.problems_of_bindAddress (problems_of_configure configured) address
    rw [SocketAddress.ofString?_eq_some_iff.mpr spelled] at nothing
    rw [configure_some, configured]
    exact Config.check_of_no_problems nothing
  refused config configured unspelled := by
    have only := Config.problems_of_bindAddress (problems_of_configure configured) address
    rw [SocketAddress.ofString?_eq_none_iff.mpr unspelled] at only
    rw [configure_some, configured]
    exact Config.check_of_cons only

/-- Every configuration has the problems that its settings have, each on its own, and an
address on the command line adds none but its own. -/
theorem problems_independent :
    (∀ config, Config.Validated config) ∧ ∀ file? path address, Rebound file? path address :=
  ⟨Config.validated, rebound⟩

end Program

end Turnstile
