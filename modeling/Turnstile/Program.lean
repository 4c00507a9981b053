import Turnstile.CommandLine.Reader
import Turnstile.Gateway.Startup
import Turnstile.LogFilter.Reader
import Turnstile.Program.Diagnostic

/-!
# The program

From the command line to a service that can be run, or to an exit before that.
The settings come from the file that the command line names and else from the
defaults; an address on the command line replaces the configured one, and the
settings are then checked once more.
-/

namespace Turnstile

/-- What the program finds when it is started. -/
structure Launch where
  arguments : List String
  /-- The bytes of the files that are there. -/
  file? : String → Option (List UInt8)
  /-- The log filter that the environment asks for. -/
  wantedFilter : Option String := none

/-- How the program ends. -/
structure Exit where
  code : Nat
  stdout : String := ""
  stderr : String := ""
  deriving DecidableEq, Repr

/-- A program that is ready to serve. -/
structure Service where
  configPath : Option String
  config : Config
  limiter : Option Limiter
  /-- What is reported of the limiter. -/
  limiterEvents : List Event

namespace Program

/-- Why there is no service. -/
inductive Failure where
  | config (reason : Config.LoadError)
  | tiers (reason : TierError)
  deriving DecidableEq, Repr

/-- A failure by the name of its cause. -/
def Failure.diagnostic : Failure → String
  | config reason => reason.diagnostic
  | tiers reason => reason.diagnostic

/-- The exit on a failure. -/
def Failure.exit (failure : Failure) : Exit :=
  { code := 1, stderr := "Error: " ++ failure.diagnostic ++ "\n" }

/-- The exit on a command line that leads to no service. -/
def exitOf : CommandLine.Stop → Exit
  | .flag flag => { code := 0, stdout := flag.answer Event.version }
  | .fault fault => { code := 2, stderr := fault.message }

/-- The configuration that a command line asks for. -/
def configure (file? : String → Option (List UInt8)) (commandLine : CommandLine) :
    Except Config.LoadError Config := do
  let config ← match commandLine.configPath with
    | some path => Config.load (file? path)
    | none => .ok {}
  match commandLine.bindAddress with
  | some address =>
      let overridden : Config := { config with listener := ⟨address⟩ }
      overridden.check
  | none => .ok config

/-- The service that a command line asks for. -/
def prepare (file? : String → Option (List UInt8)) (commandLine : CommandLine) :
    Except Failure Service :=
  match configure file? commandLine with
  | .error reason => .error (.config reason)
  | .ok config =>
      match Gateway.limiterOf config with
      | .error reason => .error (.tiers reason)
      | .ok (limiter, events) => .ok ⟨commandLine.configPath, config, limiter, events⟩

/-- The service that the program starts, or its exit. -/
def start (launch : Launch) : Except Exit Service :=
  match CommandLine.ofArguments launch.arguments with
  | .error stop => .error (exitOf stop)
  | .ok commandLine =>
      match prepare launch.file? commandLine with
      | .error failure => .error failure.exit
      | .ok service => .ok service

end Program

end Turnstile
