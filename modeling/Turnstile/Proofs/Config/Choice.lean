import Mathlib.Algebra.Ring.Nat
import Turnstile.Config.Reader

/-!
# Choices of settings

A choice of values for some of the settings says what a configuration is: the chosen values,
and the defaults where there are none (`Choice.overlay`). Members of a document say a choice
if the settings that are chosen are there, each in its section with its value, and those that
are not are not; whatever else there is does not matter (`Choice.IsWrittenIn`). Such members
are read to just that configuration. A section that is not there is read like one in which
nothing is chosen, so no section resets what another one sets, and none its other settings.
-/

namespace Turnstile.Config

/-! ## Choices -/

/-- Values for some of the settings. An integer is one of 64 bits with a sign, and not
negative. -/
structure Choice where
  bindAddress : Option String := none
  requestSeconds : Option (Fin (2 ^ 63)) := none
  limit : TierSetting → Option (Fin (2 ^ 63)) := fun _ => none
  serviceClaim : Option String := none
  userClaims : Option (List String) := none
  precedence : Option Precedence := none
  logLevel : Option String := none

/-- An integer of a choice as a word. -/
def wordOf (number : Fin (2 ^ 63)) : UInt64 := .ofNat number

/-- The configuration that has the chosen values, and the defaults where there are none. -/
def Choice.overlay (choice : Choice) : Config :=
  let fallback : Config := {}
  { listener.bindAddress := choice.bindAddress.getD fallback.listener.bindAddress
    timeouts.requestSeconds :=
      (choice.requestSeconds.map wordOf).getD fallback.timeouts.requestSeconds
    rateLimit.authenticatedCapacity := (choice.limit .authenticatedCapacity).map wordOf
    rateLimit.authenticatedRefill := (choice.limit .authenticatedRefill).map wordOf
    rateLimit.unauthenticatedCapacity := (choice.limit .unauthenticatedCapacity).map wordOf
    rateLimit.unauthenticatedRefill := (choice.limit .unauthenticatedRefill).map wordOf
    keyResolution.serviceClaim := choice.serviceClaim.getD fallback.keyResolution.serviceClaim
    keyResolution.userClaims := choice.userClaims.getD fallback.keyResolution.userClaims
    keyResolution.precedence := choice.precedence.getD fallback.keyResolution.precedence
    observability.logLevel := choice.logLevel.getD fallback.observability.logLevel }

/-! ## What is written -/

/-- The written name of a precedence. -/
def precedenceName : Precedence → String
  | .serviceFirst => "service-first"
  | .userFirst => "user-first"

/-- An integer as a value. -/
def integerForm (number : Fin (2 ^ 63)) : Toml := .integer (number : Nat)

/-- A list of texts as a value. -/
def textsForm (texts : List String) : Toml := .array (texts.map .text)

/-- A precedence as a value. -/
def precedenceForm (precedence : Precedence) : Toml := .text (precedenceName precedence)

namespace Choice

variable (choice : Choice)

/-- The listener's settings by name, each with the value that is chosen for it. -/
def listenerSettings : List (String × Option Toml) :=
  [("bind_address", choice.bindAddress.map .text)]

/-- The settings of the timeouts. -/
def timeoutsSettings : List (String × Option Toml) :=
  [("request_secs", choice.requestSeconds.map integerForm)]

/-- The settings of the limits. -/
def rateLimitSettings : List (String × Option Toml) :=
  TierSetting.all.map fun setting => (setting.name, (choice.limit setting).map integerForm)

/-- The settings of the claims. -/
def keyResolutionSettings : List (String × Option Toml) :=
  [("service_claim", choice.serviceClaim.map .text),
    ("user_claims", choice.userClaims.map textsForm),
    ("precedence", choice.precedence.map precedenceForm)]

/-- The settings of what is logged. -/
def observabilitySettings : List (String × Option Toml) :=
  [("log_level", choice.logLevel.map .text)]

/-- The sections by name. -/
def sections : List (String × List (String × Option Toml)) :=
  [("listener", choice.listenerSettings), ("timeouts", choice.timeoutsSettings),
    ("rate_limit", choice.rateLimitSettings), ("key_resolution", choice.keyResolutionSettings),
    ("observability", choice.observabilitySettings)]

end Choice

/-- The settings of a section are written as they are chosen: in a table that may have other
members too, or nowhere if none is chosen. -/
inductive AreWritten (settings : List (String × Option Toml)) : Option Toml → Prop
  | absent (unchosen : ∀ setting ∈ settings, setting.2 = none) : AreWritten settings none
  | table {held : List (String × Toml)}
      (each : ∀ setting ∈ settings, Toml.member? held setting.1 = setting.2) :
      AreWritten settings (some (.table held))

/-- The members of a document say what is chosen, whatever else they say. -/
def Choice.IsWrittenIn (choice : Choice) (members : List (String × Toml)) : Prop :=
  ∀ part ∈ choice.sections, AreWritten part.2 (Toml.member? members part.1)

/-! ## Reading settings -/

/-- A setting is read to what is chosen for it, or to its default. -/
private theorem settingOr_map {α β : Type} {form : β → Toml} {read : Toml → Option α}
    {value : β → α} (back : ∀ chosen, read (form chosen) = some (value chosen)) (fallback : α)
    (chosen : Option β) :
    settingOr fallback read (chosen.map form) = some ((chosen.map value).getD fallback) := by
  cases chosen with
  | none => rfl
  | some chosen => exact back chosen

private theorem settingOr_text (fallback : String) (chosen : Option String) :
    settingOr fallback text? (chosen.map .text) = some (chosen.getD fallback) := by
  have back : ∀ text : String, text? (.text text) = some (id text) := fun _ => rfl
  rw [settingOr_map back, Option.map_id, id]

private theorem natural?_integerForm (number : Fin (2 ^ 63)) :
    natural? (integerForm number) = some (wordOf number) := by
  rw [integerForm, natural?, if_pos (Int.natCast_nonneg _), Int.toNat_natCast, wordOf]

private theorem settingOr_limit (chosen : Option (Fin (2 ^ 63))) :
    settingOr none (fun value => (natural? value).map some) (chosen.map integerForm) =
      some (chosen.map wordOf) := by
  have back : ∀ number, (natural? (integerForm number)).map some = some (some (wordOf number)) :=
    fun number => by rw [natural?_integerForm, Option.map_some]
  rw [settingOr_map back]
  cases chosen <;> rfl

private theorem settingOr_texts (fallback : List String) (chosen : Option (List String)) :
    settingOr fallback texts? (chosen.map textsForm) = some (chosen.getD fallback) := by
  have back : ∀ texts : List String, texts? (textsForm texts) = some (id texts) := by
    intro texts
    rw [textsForm, texts?]
    induction texts with
    | nil => rfl
    | cons text texts inductionHypothesis =>
        rw [List.map_cons, List.mapM_cons, inductionHypothesis]
        rfl
  rw [settingOr_map back, Option.map_id, id]

private theorem settingOr_precedence (fallback : Precedence) (chosen : Option Precedence) :
    settingOr fallback precedence? (chosen.map precedenceForm) =
      some (chosen.getD fallback) := by
  have back : ∀ precedence, precedence? (precedenceForm precedence) = some (id precedence) := by
    intro precedence
    cases precedence <;> rfl
  rw [settingOr_map back, Option.map_id, id]

/-! ## Reading sections -/

/-- A section that is not there is read like one that sets nothing. -/
private theorem AreWritten.settingOr_eq {α : Type} {settings : List (String × Option Toml)}
    {written : Option Toml} (areWritten : AreWritten settings written) {fallback : α}
    {read : Toml → Option α} (empty : read (.table []) = some fallback) :
    ∃ held, settingOr fallback read written = read (.table held) ∧
      ∀ setting ∈ settings, Toml.member? held setting.1 = setting.2 := by
  cases areWritten with
  | absent unchosen => exact ⟨[], empty.symm, fun setting there => (unchosen setting there).symm⟩
  | @table held each => exact ⟨held, rfl, each⟩

namespace Choice

variable {choice : Choice} {written : Option Toml}

private theorem listener?_eq (areWritten : AreWritten choice.listenerSettings written) :
    settingOr {} listener? written = some choice.overlay.listener := by
  obtain ⟨held, read, each⟩ := areWritten.settingOr_eq (show listener? (.table []) = _ from rfl)
  have address := each _ (.head _)
  rw [read]
  simp only [listener?, settings?, List.map_cons, List.map_nil, address, settingOr_text,
    Option.bind_eq_bind, Option.bind_some]
  rfl

private theorem timeouts?_eq (areWritten : AreWritten choice.timeoutsSettings written) :
    settingOr {} timeouts? written = some choice.overlay.timeouts := by
  obtain ⟨held, read, each⟩ := areWritten.settingOr_eq (show timeouts? (.table []) = _ from rfl)
  have seconds := each _ (.head _)
  rw [read]
  simp only [timeouts?, settings?, List.map_cons, List.map_nil, seconds,
    settingOr_map natural?_integerForm, Option.bind_eq_bind, Option.bind_some]
  rfl

private theorem rateLimit?_eq (areWritten : AreWritten choice.rateLimitSettings written) :
    settingOr {} rateLimit? written = some choice.overlay.rateLimit := by
  obtain ⟨held, read, each⟩ := areWritten.settingOr_eq (show rateLimit? (.table []) = _ from rfl)
  have limits : ∀ setting : TierSetting,
      Toml.member? held setting.name = (choice.limit setting).map integerForm := by
    intro setting
    refine each (setting.name, _) (List.mem_map.mpr ⟨setting, ?_, rfl⟩)
    cases setting <;> simp [TierSetting.all]
  rw [read]
  simp only [rateLimit?, settings?, TierSetting.all, List.map_cons, List.map_nil, limits,
    settingOr_limit, Option.bind_eq_bind, Option.bind_some]
  rfl

private theorem keyResolution?_eq (areWritten : AreWritten choice.keyResolutionSettings written) :
    settingOr {} keyResolution? written = some choice.overlay.keyResolution := by
  obtain ⟨held, read, each⟩ :=
    areWritten.settingOr_eq (show keyResolution? (.table []) = _ from rfl)
  have service := each _ (.head _)
  have users := each _ (.tail _ (.head _))
  have order := each _ (.tail _ (.tail _ (.head _)))
  rw [read]
  simp only [keyResolution?, settings?, List.map_cons, List.map_nil, service, users, order,
    settingOr_text, settingOr_texts, settingOr_precedence, Option.bind_eq_bind, Option.bind_some]
  rfl

private theorem observability?_eq (areWritten : AreWritten choice.observabilitySettings written) :
    settingOr {} observability? written = some choice.overlay.observability := by
  obtain ⟨held, read, each⟩ :=
    areWritten.settingOr_eq (show observability? (.table []) = _ from rfl)
  have level := each _ (.head _)
  rw [read]
  simp only [observability?, settings?, List.map_cons, List.map_nil, level, settingOr_text,
    Option.bind_eq_bind, Option.bind_some]
  rfl

/-- Members that say what is chosen are read to the defaults with the choice over them. -/
theorem ofMembers?_eq {members : List (String × Toml)} (isWritten : choice.IsWrittenIn members) :
    ofMembers? members = some choice.overlay := by
  have listener := listener?_eq (isWritten _ (.head _))
  have timeouts := timeouts?_eq (isWritten _ (.tail _ (.head _)))
  have rateLimit := rateLimit?_eq (isWritten _ (.tail _ (.tail _ (.head _))))
  have keyResolution := keyResolution?_eq (isWritten _ (.tail _ (.tail _ (.tail _ (.head _)))))
  have observability :=
    observability?_eq (isWritten _ (.tail _ (.tail _ (.tail _ (.tail _ (.head _))))))
  simp only [ofMembers?, listener, timeouts, rateLimit, keyResolution, observability,
    Option.bind_eq_bind, Option.bind_some]

end Choice

end Turnstile.Config
