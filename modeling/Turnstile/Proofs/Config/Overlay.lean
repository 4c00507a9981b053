import Mathlib
import Turnstile.Proofs.Config.Choice
import Turnstile.Proofs.Toml.Writing

/-!
# A file lies over the defaults

A file in which a choice of settings is written is loaded as the configuration that has the
choice over the defaults, and refused only for the problems of that configuration. It does
not matter how the choice is written: in which order, how spelled, and beside which keys and
sections that are no settings (`Choice.overlaid`). What TOML spells is always read to its
lines, and lines that have no section and no key twice always make a table, so that no such
file is refused as malformed.
-/

namespace Turnstile.Config

/-! ## Files -/

/-- The bytes of a text in UTF-8. -/
def bytesOf (text : String) : List UInt8 := text.toList.flatMap String.utf8EncodeChar

private theorem load_bytesOf (text : String) : load (some (bytesOf text)) = ofString text := by
  have encoded : (bytesOf text).toByteArray = text.toByteArray := by
    have spelled := (@String.toByteArray_ofList text.toList).symm
    rwa [String.ofList_toList] at spelled
  have decoded : String.fromUTF8? (bytesOf text).toByteArray = some text := by
    rw [encoded, String.fromUTF8?, dif_pos text.isValidUTF8]
    rfl
  rw [load, decoded]

/-- A file is loaded as a configuration if that has no problems, and else it is refused for
all of them. -/
structure LoadsAs (bytes : List UInt8) (config : Config) : Prop where
  accepted : config.problems = [] → load (some bytes) = .ok config
  refused : config.problems ≠ [] → load (some bytes) = .error (.invalid config.problems)

private theorem loadsAs_of_check {bytes : List UInt8} {config : Config}
    (loaded : load (some bytes) = config.check) : LoadsAs bytes config := by
  constructor
  · intro none
    rw [loaded, check, none]
  · intro some
    rw [loaded, check]
    cases found : config.problems with
    | nil => exact absurd found some
    | cons problem problems => rfl

/-! ## Documents of a choice -/

/-- A section is written as it is chosen: under its header, inline or with dotted keys, with
every key once and maybe others beside them, or nowhere if none is chosen. -/
inductive AreWrittenBy (name : String) (settings : List (String × Option Toml)) :
    List Toml.Line → Prop
  | absent (unchosen : ∀ setting ∈ settings, setting.2 = none) : AreWrittenBy name settings []
  | present {held : List (String × Toml)} {lines : List Toml.Line}
      (written : Toml.SectionLines name lines held) (distinct : (held.map Prod.fst).Nodup)
      (each : ∀ setting ∈ settings, Toml.member? held setting.1 = setting.2) :
      AreWrittenBy name settings lines

namespace Choice

/-- The lines of a document say what is chosen. -/
structure IsWrittenBy (choice : Choice) (lines : List Toml.Line) : Prop where
  /-- Every section is written at most once. -/
  known : ∀ part ∈ choice.sections, AreWrittenBy part.1 part.2 (Toml.own part.1 [] lines)
  /-- What is not known is TOML: its lines would make a table on their own. -/
  unknown : ∀ name ∉ choice.sections.map Prod.fst,
    ∃ members, Toml.ofLines? (Toml.own name [] lines) = some members

/-- Loading a file in which a choice is written gives the configuration that has the choice
over the defaults. -/
structure Overlaid (choice : Choice) : Prop where
  /-- This holds of every text that is read as TOML. -/
  read : ∀ text members, Toml.ofString? text = some members → choice.IsWrittenIn members →
    LoadsAs (bytesOf text) choice.overlay
  /-- It holds of every text that TOML spells if its lines make a table together, whatever kinds
  of lines they are. -/
  spelled : ∀ text lines members, Toml.Grammar.Spells text lines →
    Toml.ofLines? lines = some members → choice.IsWrittenIn members →
    LoadsAs (bytesOf text) choice.overlay
  /-- It holds of every text that TOML spells if it has every section of the settings at most
  once, in any order and beside whatever else. -/
  laidOut : ∀ text lines, Toml.Grammar.Spells text lines → choice.IsWrittenBy lines →
    LoadsAs (bytesOf text) choice.overlay
  /-- Every choice is written in such a text. -/
  written : ∃ text lines, Toml.Grammar.Spells text lines ∧ choice.IsWrittenBy lines

end Choice

/-! ## Loading -/

/-- The lines of a section make the member that its settings are read from. -/
private theorem AreWrittenBy.areWritten {name : String} {settings : List (String × Option Toml)}
    {lines : List Toml.Line} (written : AreWrittenBy name settings lines) :
    ∃ members, Toml.ofLines? lines = some members ∧
      AreWritten settings (Toml.member? members name) := by
  cases written with
  | absent unchosen => exact ⟨[], rfl, .absent unchosen⟩
  | @present held _ written distinct each =>
      have found : Toml.member? [(name, Toml.table held)] name = some (.table held) := by
        simp [Toml.member?]
      refine ⟨_, written.ofLines?_eq distinct, ?_⟩
      rw [found]
      exact .table each

namespace Choice

variable {choice : Choice}

private theorem loadsAs_of_read {text : String} {members : List (String × Toml)}
    (read : Toml.ofString? text = some members) (isWritten : choice.IsWrittenIn members) :
    LoadsAs (bytesOf text) choice.overlay := by
  refine loadsAs_of_check ?_
  rw [load_bytesOf, ofString, read, Option.bind_eq_bind, Option.bind_some, ofMembers?_eq isWritten]

/-- Lines that say what is chosen make members that do. -/
private theorem IsWrittenBy.isWrittenIn {lines : List Toml.Line}
    (written : choice.IsWrittenBy lines) (named : ∀ line ∈ lines, line.path ≠ []) :
    ∃ members, Toml.ofLines? lines = some members ∧ choice.IsWrittenIn members := by
  have each : ∀ name, ∃ members, Toml.ofLines? (Toml.own name [] lines) = some members := by
    intro name
    by_cases known : name ∈ choice.sections.map Prod.fst
    · obtain ⟨part, there, rfl⟩ := List.mem_map.mp known
      obtain ⟨members, made, _⟩ := (written.known part there).areWritten
      exact ⟨members, made⟩
    · exact written.unknown name known
  choose last made using each
  obtain ⟨members, together, found⟩ := Toml.ofLines?_of_own named made
  refine ⟨members, together, fun part there => ?_⟩
  obtain ⟨mine, madeMine, areWritten⟩ := (written.known part there).areWritten
  obtain rfl : last part.1 = mine := Option.some.inj ((made part.1).symm.trans madeMine)
  rw [found]
  exact areWritten

end Choice

/-! ## A document for every choice -/

/-- No other has the name of a member. -/
private theorem filter_of_mem {α : Type} {members : List (String × α)}
    (distinct : (members.map Prod.fst).Nodup) {member : String × α} (there : member ∈ members) :
    (members.filter fun other => other.1 = member.1) = [member] := by
  induction members with
  | nil => cases there
  | cons first members inductionHypothesis =>
      obtain ⟨new, distinct⟩ := List.nodup_cons.mp distinct
      rcases List.mem_cons.mp there with rfl | later
      · have others : members.filter (fun other => other.1 = member.1) = [] := by
          rw [List.filter_eq_nil_iff]
          intro other otherThere same
          exact new (List.mem_map.mpr ⟨other, otherThere, by simpa using same⟩)
        rw [List.filter_cons_of_pos (by simp), others]
      · have different : first.1 ≠ member.1 := fun same =>
          new (List.mem_map.mpr ⟨member, later, same.symm⟩)
        rw [List.filter_cons_of_neg (by simpa using different), inductionHypothesis distinct later]

/-- A member is found under its name, if no other has that name. -/
private theorem member?_of_mem {members : List (String × Toml)}
    (distinct : (members.map Prod.fst).Nodup) {member : String × Toml} (there : member ∈ members) :
    Toml.member? members member.1 = some member.2 := by
  rw [Toml.member?, ← List.head?_filter, filter_of_mem distinct there]
  rfl

/-- The settings that have a value. -/
def chosenMembers (settings : List (String × Option Toml)) : List (String × Toml) :=
  settings.filterMap fun setting => setting.2.map fun value => (setting.1, value)

private theorem mem_chosenMembers {settings : List (String × Option Toml)}
    {member : String × Toml} :
    member ∈ chosenMembers settings ↔ (member.1, some member.2) ∈ settings := by
  obtain ⟨name, value⟩ := member
  simp only [chosenMembers, List.mem_filterMap, Option.map_eq_some_iff, Prod.mk.injEq]
  constructor
  · rintro ⟨⟨_, written⟩, there, _, rfl, rfl, rfl⟩
    exact there
  · exact fun there => ⟨_, there, value, rfl, rfl, rfl⟩

private theorem names_chosenMembers (settings : List (String × Option Toml)) :
    ((chosenMembers settings).map Prod.fst).Sublist (settings.map Prod.fst) := by
  induction settings with
  | nil => exact .slnil
  | cons setting settings inductionHypothesis =>
      obtain ⟨name, written⟩ := setting
      cases written with
      | none => exact .cons _ inductionHypothesis
      | some value => exact .cons_cons _ inductionHypothesis

/-- The chosen settings of a section are written as they are chosen. -/
private theorem member?_chosenMembers {settings : List (String × Option Toml)}
    (distinct : (settings.map Prod.fst).Nodup) {setting : String × Option Toml}
    (there : setting ∈ settings) :
    Toml.member? (chosenMembers settings) setting.1 = setting.2 := by
  obtain ⟨name, written⟩ := setting
  cases written with
  | none =>
      have new : name ∉ (chosenMembers settings).map Prod.fst := by
        intro found
        obtain ⟨⟨_, value⟩, chosen, rfl⟩ := List.mem_map.mp found
        have same := List.inj_on_of_nodup_map distinct there (mem_chosenMembers.mp chosen) rfl
        cases same
      rw [Toml.member?, Toml.find?_of_new new, Option.map_none]
  | some value =>
      have chosen : (name, value) ∈ chosenMembers settings := mem_chosenMembers.mpr there
      exact member?_of_mem ((names_chosenMembers settings).nodup distinct) chosen

namespace Choice

variable (choice : Choice)

private theorem nodup_sections : (choice.sections.map Prod.fst).Nodup := by
  have names : choice.sections.map Prod.fst =
      ["listener", "timeouts", "rate_limit", "key_resolution", "observability"] := rfl
  rw [names]
  decide

private theorem nodup_settings {part : String × List (String × Option Toml)}
    (there : part ∈ choice.sections) : (part.2.map Prod.fst).Nodup := by
  simp only [sections, List.mem_cons, List.not_mem_nil, or_false] at there
  rcases there with rfl | rfl | rfl | rfl | rfl
  · exact List.nodup_singleton "bind_address"
  · exact List.nodup_singleton "request_secs"
  · have names : choice.rateLimitSettings.map Prod.fst = TierSetting.all.map TierSetting.name := rfl
    rw [names]
    decide
  · have names : choice.keyResolutionSettings.map Prod.fst =
        ["service_claim", "user_claims", "precedence"] := rfl
    rw [names]
    decide
  · exact List.nodup_singleton "log_level"

private theorem writable_map {α : Type} {form : α → Toml}
    (writable : ∀ chosen, Toml.Grammar.Writable (form chosen)) {chosen : Option α} {value : Toml}
    (isForm : chosen.map form = some value) : Toml.Grammar.Writable value := by
  obtain ⟨held, _, rfl⟩ := Option.map_eq_some_iff.mp isForm
  exact writable held

/-- Every value of a choice can be written. -/
private theorem writable_of_mem {part : String × List (String × Option Toml)}
    (there : part ∈ choice.sections) {name : String} {value : Toml}
    (chosen : (name, some value) ∈ part.2) : Toml.Grammar.Writable value := by
  have text := @writable_map String Toml.text Toml.Grammar.writable_text
  have integer := @writable_map _ integerForm fun number =>
    Toml.Grammar.writable_integer number.isLt
  have texts := @writable_map _ textsForm Toml.Grammar.writable_texts
  have precedence := @writable_map _ precedenceForm fun held =>
    Toml.Grammar.writable_text (precedenceName held)
  simp only [sections, List.mem_cons, List.not_mem_nil, or_false] at there
  rcases there with rfl | rfl | rfl | rfl | rfl
  · simp only [listenerSettings, List.mem_singleton, Prod.mk.injEq] at chosen
    exact text chosen.2.symm
  · simp only [timeoutsSettings, List.mem_singleton, Prod.mk.injEq] at chosen
    exact integer chosen.2.symm
  · obtain ⟨setting, _, same⟩ := List.mem_map.mp chosen
    exact integer (Prod.mk.inj same).2
  · simp only [keyResolutionSettings, List.mem_cons, Prod.mk.injEq, List.not_mem_nil,
      or_false] at chosen
    rcases chosen with ⟨_, same⟩ | ⟨_, same⟩ | ⟨_, same⟩
    · exact text same.symm
    · exact texts same.symm
    · exact precedence same.symm
  · simp only [observabilitySettings, List.mem_singleton, Prod.mk.injEq] at chosen
    exact text chosen.2.symm

/-- The sections, each with the settings that are chosen. -/
def writtenSections : List (String × List (String × Toml)) :=
  choice.sections.map fun part => (part.1, chosenMembers part.2)

private theorem map_fst_writtenSections :
    choice.writtenSections.map Prod.fst = choice.sections.map Prod.fst := by
  rw [writtenSections, List.map_map]
  rfl

private theorem isWrittenBy_headerLines :
    choice.IsWrittenBy (choice.writtenSections.flatMap Toml.headerLines) where
  known := by
    intro part there
    have written : (part.1, chosenMembers part.2) ∈ choice.writtenSections :=
      List.mem_map.mpr ⟨part, there, rfl⟩
    have distinct : (choice.writtenSections.map Prod.fst).Nodup := by
      rw [map_fst_writtenSections]
      exact choice.nodup_sections
    have settings := choice.nodup_settings there
    rw [Toml.own_headerLines, filter_of_mem distinct written, List.flatMap_cons,
      List.flatMap_nil, List.append_nil]
    exact .present .header ((names_chosenMembers part.2).nodup settings)
      fun setting settingThere => member?_chosenMembers settings settingThere
  unknown := by
    intro name unknown
    have none : choice.writtenSections.filter (fun part => part.1 = name) = [] := by
      rw [List.filter_eq_nil_iff]
      intro part there same
      rw [← map_fst_writtenSections] at unknown
      exact unknown (List.mem_map.mpr ⟨part, there, by simpa using same⟩)
    rw [Toml.own_headerLines, none]
    exact ⟨[], rfl⟩

private theorem exists_spells :
    ∃ text, Toml.Grammar.Spells text (choice.writtenSections.flatMap Toml.headerLines) := by
  refine Toml.Grammar.exists_spells ?_
  intro part there member memberThere
  obtain ⟨written, writtenThere, rfl⟩ := List.mem_map.mp there
  exact choice.writable_of_mem writtenThere (mem_chosenMembers.mp memberThere)

/-- A file lies over the defaults: loading it gives every setting that is chosen its value and
every other its default, and refuses the configuration for its problems alone. -/
theorem overlaid : choice.Overlaid where
  read _ _ := loadsAs_of_read
  spelled text lines members spells made isWritten := by
    refine loadsAs_of_read ?_ isWritten
    rw [spells.ofString?_eq, made]
  laidOut text lines spells written := by
    obtain ⟨members, made, isWritten⟩ := written.isWrittenIn spells.path_ne_nil
    refine loadsAs_of_read ?_ isWritten
    rw [spells.ofString?_eq, made]
  written := by
    obtain ⟨text, spells⟩ := choice.exists_spells
    exact ⟨text, _, spells, choice.isWrittenBy_headerLines⟩

/-- A capacity of zero is refused, and what is not known is passed over. -/
theorem overlaid_zero_capacity :
    load (some (bytesOf
        "[metrics]\nport = 9\n[rate_limit]\nauthenticated_capacity_per_minute = 0\n")) =
      .error (.invalid [.tierSetting .authenticatedCapacity]) := by
  let choice : Choice :=
    { limit := fun setting => if setting = .authenticatedCapacity then some 0 else none }
  have read : Toml.ofString?
      "[metrics]\nport = 9\n[rate_limit]\nauthenticated_capacity_per_minute = 0\n" =
      some [("metrics", .table [("port", .integer 9)]),
        ("rate_limit", .table [("authenticated_capacity_per_minute", .integer 0)])] := by
    cbv
  have isWritten : choice.IsWrittenIn
      [("metrics", .table [("port", .integer 9)]),
        ("rate_limit", .table [("authenticated_capacity_per_minute", .integer 0)])] := by
    intro part there
    simp only [Choice.sections, List.mem_cons, List.not_mem_nil, or_false] at there
    rcases there with rfl | rfl | rfl | rfl | rfl
    · exact .absent (by simp [Choice.listenerSettings, choice])
    · exact .absent (by simp [Choice.timeoutsSettings, choice])
    · refine .table fun setting member => ?_
      obtain ⟨held, _, rfl⟩ := List.mem_map.mp member
      cases held <;> rfl
    · exact .absent (by simp [Choice.keyResolutionSettings, choice])
    · exact .absent (by simp [Choice.observabilitySettings, choice])
  have problems : choice.overlay.problems = [.tierSetting .authenticatedCapacity] := by cbv
  rw [← problems]
  exact (choice.overlaid.read _ _ read isWritten).refused (by rw [problems]; decide)

end Choice

end Turnstile.Config
