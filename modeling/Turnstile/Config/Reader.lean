import Turnstile.Config.Validation
import Turnstile.Toml.Document

/-!
# Reading a configuration

A configuration file is a TOML document of sections. What is not written keeps
its default and what is not known is passed over; what is written must have the
right type. A section may also be written as an array of its settings in order,
and the precedence as a table of one member that is empty.
-/

namespace Turnstile.Config

/-- The settings of a section by name: from a table, or from an array in order. A
moment in time is a section that sets nothing. -/
def settings? (names : List String) : Toml → Option (List (Option Toml))
  | .table members => some (names.map (Toml.member? members))
  | .array items => some (names.mapIdx fun index _ => items[index]?)
  | .moment _ => some (names.map fun _ => none)
  | _ => none

/-- Text. -/
def text? : Toml → Option String
  | .text value => some value
  | _ => none

/-- An integer that is not negative. -/
def natural? : Toml → Option UInt64
  | .integer value => if 0 ≤ value then some (UInt64.ofNat value.toNat) else none
  | _ => none

/-- A list of texts. -/
def texts? : Toml → Option (List String)
  | .array items => items.mapM text?
  | _ => none

/-- Whether a value is an array or a table without anything in it. -/
def isEmpty : Toml → Bool
  | .array [] => true
  | .table [] => true
  | _ => false

/-- The precedence of a name. -/
def precedenceOf? (name : String) : Option Precedence :=
  if name = "service-first" then some .serviceFirst
  else if name = "user-first" then some .userFirst
  else none

/-- A precedence. -/
def precedence? : Toml → Option Precedence
  | .text name => precedenceOf? name
  | .table [(name, content)] => if isEmpty content then precedenceOf? name else none
  | _ => none

/-- A setting that may be missing: its default, or what is written. -/
def settingOr {α : Type} (fallback : α) (read : Toml → Option α) : Option Toml → Option α
  | none => some fallback
  | some written => read written

/-- The listener section. -/
def listener? (written : Toml) : Option Listener :=
  let fallback : Listener := {}
  match settings? ["bind_address"] written with
  | some [address] => do some ⟨← settingOr fallback.bindAddress text? address⟩
  | _ => none

/-- The timeouts section. -/
def timeouts? (written : Toml) : Option Timeouts :=
  let fallback : Timeouts := {}
  match settings? ["request_secs"] written with
  | some [seconds] => do some ⟨← settingOr fallback.requestSeconds natural? seconds⟩
  | _ => none

/-- The section of the limits. -/
def rateLimit? (written : Toml) : Option RateLimit :=
  let setting := settingOr none fun value => (natural? value).map some
  match settings? (TierSetting.all.map TierSetting.name) written with
  | some [first, second, third, fourth] => do
      some ⟨← setting first, ← setting second, ← setting third, ← setting fourth⟩
  | _ => none

/-- The section of the claims. -/
def keyResolution? (written : Toml) : Option KeyResolution :=
  let fallback : KeyResolution := {}
  match settings? ["service_claim", "user_claims", "precedence"] written with
  | some [service, users, order] => do
      some
        ⟨← settingOr fallback.serviceClaim text? service,
          ← settingOr fallback.userClaims texts? users,
          ← settingOr fallback.precedence precedence? order⟩
  | _ => none

/-- The section of what is logged. -/
def observability? (written : Toml) : Option Observability :=
  let fallback : Observability := {}
  match settings? ["log_level"] written with
  | some [level] => do some ⟨← settingOr fallback.logLevel text? level⟩
  | _ => none

/-- The configuration that a document's members are. -/
def ofMembers? (members : List (String × Toml)) : Option Config :=
  let part {α : Type} (fallback : α) (read : Toml → Option α) (name : String) : Option α :=
    settingOr fallback read (Toml.member? members name)
  do
    some
      { listener := ← part {} listener? "listener"
        timeouts := ← part {} timeouts? "timeouts"
        rateLimit := ← part {} rateLimit? "rate_limit"
        keyResolution := ← part {} keyResolution? "key_resolution"
        observability := ← part {} observability? "observability" }

/-- Why no configuration is loaded. -/
inductive LoadError where
  /-- There is no such file. -/
  | missing
  /-- The file is not UTF-8. -/
  | encoding
  /-- The file is no TOML, or a setting has the wrong type. -/
  | malformed
  /-- The settings are not acceptable. -/
  | invalid (problems : List Problem)
  deriving DecidableEq, Repr

/-- The wording of why no configuration is loaded. -/
def LoadError.message : LoadError → String
  | missing => "IO error: No such file or directory (os error 2)"
  | encoding => "IO error: stream did not contain valid UTF-8"
  | malformed => "Parse error"
  | invalid problems => problemsMessage problems

/-- The configuration, if there is nothing wrong with it. -/
def check (config : Config) : Except LoadError Config :=
  match config.problems with
  | [] => .ok config
  | problems => .error (.invalid problems)

/-- The configuration of a text. -/
def ofString (text : String) : Except LoadError Config :=
  match Toml.ofString? text >>= ofMembers? with
  | some config => config.check
  | none => .error .malformed

/-- The configuration of a file's bytes, which are missing if the file is. -/
def load : Option (List UInt8) → Except LoadError Config
  | none => .error .missing
  | some bytes =>
      match String.fromUTF8? bytes.toByteArray with
      | some text => ofString text
      | none => .error .encoding

end Turnstile.Config
