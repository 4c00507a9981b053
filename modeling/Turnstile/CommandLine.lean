import Turnstile.Text.Similarity

/-!
# The command line

Two settings, each with a value, and two flags. What cannot be read is a fault;
its wording says what was wrong and how the program is used.
-/

namespace Turnstile

/-- What the command line sets. -/
structure CommandLine where
  configPath : Option String := none
  bindAddress : Option String := none
  deriving DecidableEq, Repr

namespace CommandLine

/-- A switch that takes a value. -/
inductive Setting where
  | config
  | bind
  deriving DecidableEq, Repr

/-- A switch that takes no value; the program answers it and ends. -/
inductive Flag where
  | help
  | version
  deriving DecidableEq, Repr

/-- What may stand on the command line. -/
inductive Switch where
  | setting (setting : Setting)
  | flag (flag : Flag)
  deriving DecidableEq, Repr

namespace Switch

/-- The long name of a switch. -/
def name : Switch → String
  | setting .config => "config"
  | setting .bind => "bind"
  | flag .help => "help"
  | flag .version => "version"

/-- The letter of a switch. -/
def letter : Switch → Char
  | setting .config => 'c'
  | setting .bind => 'b'
  | flag .help => 'h'
  | flag .version => 'V'

/-- A switch as the usage shows it. -/
def usage : Switch → String
  | setting .config => "--config <CONFIG>"
  | setting .bind => "--bind <BIND>"
  | flag .help => "--help"
  | flag .version => "--version"

/-- All switches, in the order of the help text. -/
def all : List Switch :=
  [setting .config, setting .bind, flag .help, flag .version]

/-- The switch of a long name. -/
def ofName? (name : String) : Option Switch :=
  all.find? fun switch => switch.name = name

/-- The switch of a letter. -/
def ofLetter? (letter : Char) : Option Switch :=
  all.find? fun switch => switch.letter = letter

/-- Names less alike than this are not taken for each other. -/
def alike : Binary64 := .round (7 / 10)

/-- The switch whose name is most like a wrong one, if it is like it at all. -/
def similar? (wrong : String) : Option Switch :=
  let better (best : Option (Switch × Binary64)) (switch : Switch) : Option (Switch × Binary64) :=
    let likeness := Text.similarity wrong switch.name
    if likeness.le alike then best
    else
      match best with
      | none => some (switch, likeness)
      | some (_, highest) => if highest.le likeness then some (switch, likeness) else best
  (all.foldl better none).map Prod.fst

end Switch

/-- What is wrong with a command line. -/
inductive Fault where
  /-- A setting has no value, or an empty one that must not be empty. -/
  | valueMissing (setting : Setting)
  /-- A setting stands there twice. -/
  | repeated (setting : Setting)
  /-- A flag has a value; some switches stand there with it. -/
  | valueUnwanted (value : String) (flag : Flag) (used : List Switch)
  /-- Something else stands there; a switch may be like it, some others stand
  there with it. -/
  | unexpected (shown : String) (similar : Option Switch) (used : List Switch)
  deriving DecidableEq, Repr

/-- Why the program does not go on after reading its command line. -/
inductive Stop where
  | flag (flag : Flag)
  | fault (fault : Fault)
  deriving DecidableEq, Repr

/-- The name of the program. -/
def programName : String := "request-throttle"

/-- How the program is used, with these switches or in general. -/
def usageLine (used : List Switch) : String :=
  let shown := if used.isEmpty then "[OPTIONS]" else " ".intercalate (used.map Switch.usage)
  "Usage: " ++ programName ++ " " ++ shown

/-- A switch that is given and one more. -/
def including (used : List Switch) (switch : Switch) : List Switch :=
  if used.contains switch then used else used ++ [switch]

namespace Fault

/-- What is wrong. -/
def summary : Fault → String
  | valueMissing setting =>
      "a value is required for '" ++ (Switch.setting setting).usage ++ "' but none was supplied"
  | repeated setting =>
      "the argument '" ++ (Switch.setting setting).usage ++ "' cannot be used multiple times"
  | valueUnwanted value flag _ =>
      "unexpected value '" ++ value ++ "' for '" ++ (Switch.flag flag).usage ++
        "' found; no more were expected"
  | unexpected shown .. => "unexpected argument '" ++ shown ++ "' found"

/-- What may have been meant. -/
def tip : Fault → String
  | unexpected _ (some similar) _ =>
      "\n\n  tip: a similar argument exists: '--" ++ similar.name ++ "'"
  | _ => ""

/-- How the program is used instead; a missing value needs no such reminder. -/
def reminder : Fault → String
  | valueMissing _ => ""
  | repeated _ => "\n\n" ++ usageLine []
  | valueUnwanted _ flag used => "\n\n" ++ usageLine (including used (.flag flag))
  | unexpected _ none _ => "\n\n" ++ usageLine []
  | unexpected _ (some similar) used => "\n\n" ++ usageLine (including used similar)

/-- The wording of a fault. -/
def message (fault : Fault) : String :=
  "error: " ++ fault.summary ++ fault.tip ++ fault.reminder ++
    "\n\nFor more information, try '--help'.\n"

end Fault

/-- The answer to a flag. -/
def Flag.answer (version : String) : Flag → String
  | help =>
      "HTTP server with per-caller rate limiting\n\n" ++ usageLine [] ++ "\n\n" ++
        "Options:\n" ++
        "  -c, --config <CONFIG>  Path to a TOML configuration file\n" ++
        "  -b, --bind <BIND>      Override listener.bind_address\n" ++
        "  -h, --help             Print help\n" ++
        "  -V, --version          Print version\n"
  | Flag.version => programName ++ " " ++ version ++ "\n"

end CommandLine

end Turnstile
