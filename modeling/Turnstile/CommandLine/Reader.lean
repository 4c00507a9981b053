import Turnstile.CommandLine

/-!
# Reading a command line

Arguments are read in order. A setting has its value attached or takes the next
argument that is no switch; it is settled, and a fault of it found, when
something else comes. Behind two bare dashes nothing is a switch.
-/

namespace Turnstile.CommandLine

/-- What an argument looks like. -/
inductive Argument where
  /-- Two bare dashes. -/
  | divider
  /-- Two dashes and a name, and perhaps a value behind an equals sign. -/
  | long (name : String) (value : Option String)
  /-- A dash and a letter, with what follows it. -/
  | short (letter : Char) (rest : List Char)
  | other (text : String)
  deriving DecidableEq, Repr

/-- The look of an argument. -/
def Argument.ofString (text : String) : Argument :=
  match text.toList with
  | ['-', '-'] => .divider
  | '-' :: '-' :: rest =>
      let name := String.ofList (rest.takeWhile fun c => c ≠ '=')
      match rest.dropWhile fun c => c ≠ '=' with
      | _ :: value => .long name (some (String.ofList value))
      | [] => .long name none
  | '-' :: letter :: rest => .short letter rest
  | _ => .other text

/-- What has been read. -/
structure Reading where
  /-- The settings with their values, in order. -/
  given : List (Setting × String) := []
  /-- The last setting, and its value if that has come. -/
  unsettled : Option (Setting × Option String) := none
  deriving DecidableEq, Repr

namespace Reading

/-- The switches read so far. -/
def used (reading : Reading) : List Switch :=
  reading.given.map fun (setting, _) => .setting setting

/-- The value of a setting. -/
def value? (reading : Reading) (setting : Setting) : Option String :=
  (reading.given.find? fun (given, _) => given = setting).map Prod.snd

/-- A setting gets its value. A second value takes away the first; the path of
the configuration must not be empty. -/
def assign (reading : Reading) (setting : Setting) (value : String) : Reading × Option Fault :=
  if (reading.value? setting).isSome then
    ({ reading with given := reading.given.filter fun (given, _) => given ≠ setting },
      some (.repeated setting))
  else
    ({ reading with given := reading.given ++ [(setting, value)] },
      if setting = .config ∧ value.isEmpty then some (.valueMissing setting) else none)

/-- The last setting is done with. -/
def settle (reading : Reading) : Reading × Option Fault :=
  let settled : Reading := { reading with unsettled := none }
  match reading.unsettled with
  | none => (settled, none)
  | some (setting, none) => (settled, some (.valueMissing setting))
  | some (setting, some value) => settled.assign setting value

/-- A result without a fault. -/
def orFault : Reading × Option Fault → Except Stop Reading
  | (reading, none) => .ok reading
  | (_, some fault) => .error (.fault fault)

/-- A switch is met, with the value that is attached to it. -/
def meet (reading : Reading) (switch : Switch) (value : Option String) :
    Except Stop Reading :=
  match switch, value with
  | .setting setting, none => do
      let settled ← orFault reading.settle
      .ok { settled with unsettled := some (setting, none) }
  | .setting setting, some value => do
      orFault ((← orFault reading.settle).assign setting value)
  | .flag flag, none => do
      let _ ← orFault reading.settle
      .error (.flag flag)
  | .flag flag, some value => .error (.fault (.valueUnwanted value flag reading.used))

/-- Something is met that is no switch, shown like this. -/
def stumble {α : Type} (shown : String) : Except Stop α :=
  .error (.fault (.unexpected shown none []))

/-- A name is met that is no switch's. -/
def stumbleOver {α : Type} (reading : Reading) (name : String) : Except Stop α :=
  let similar := Switch.similar? name
  .error (.fault (.unexpected ("--" ++ name) similar reading.settle.1.used))

/-- The value attached to a letter: all that follows it, but for one equals sign. -/
def attached? : List Char → Option String
  | [] => none
  | '=' :: rest => some (String.ofList rest)
  | rest => some (String.ofList rest)

/-- A letter is met with what follows it. Flags of one letter may stand together,
but the first one ends the program. -/
def meetLetter (reading : Reading) (letter : Char) (rest : List Char) : Except Stop Reading :=
  match Switch.ofLetter? letter with
  | none => stumble (String.ofList ['-', letter])
  | some (.setting setting) => reading.meet (.setting setting) (attached? rest)
  | some (.flag flag) => reading.meet (.flag flag) none

/-- Text is met: the value of the last setting, if that waits for one. -/
def meetText (reading : Reading) (text : String) : Except Stop Reading :=
  match reading.unsettled with
  | some (setting, none) => .ok { reading with unsettled := some (setting, some text) }
  | _ => stumble text

/-- The command line of all that has been read. -/
def finish (reading : Reading) : Except Stop CommandLine := do
  let settled ← orFault reading.settle
  .ok ⟨settled.value? .config, settled.value? .bind⟩

/-- Reading the arguments that follow. -/
def read (reading : Reading) : List String → Except Stop CommandLine
  | [] => reading.finish
  | text :: rest =>
      match Argument.ofString text with
      | .divider =>
          match rest with
          | [] => reading.finish
          | next :: _ => stumble next
      | .long name value =>
          match Switch.ofName? name with
          | some switch => do (← reading.meet switch value).read rest
          | none => reading.stumbleOver name
      | .short letter following => do (← reading.meetLetter letter following).read rest
      | .other text => do (← reading.meetText text).read rest

end Reading

/-- The command line of some arguments. -/
def ofArguments (arguments : List String) : Except Stop CommandLine :=
  Reading.read {} arguments

end Turnstile.CommandLine
