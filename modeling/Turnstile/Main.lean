import Turnstile.Program.Session

/-!
# The command line program

Reads the configuration file, starts the service, and writes what the service
writes. It opens no sockets: requests come to a service through `Service.serve`,
and the end of the standard input stands for the signal to terminate.
-/

namespace Turnstile.Main

/-- The bytes of a file, if it can be read. -/
def bytes? (path : String) : IO (Option (List UInt8)) := do
  try
    return some (← IO.FS.readBinFile path).toList
  catch _ =>
    return none

/-- The file that the arguments name. -/
def path? (arguments : List String) : Option String :=
  match CommandLine.ofArguments arguments with
  | .ok commandLine => commandLine.configPath
  | .error _ => none

/-- What the program finds when it is started with some arguments. -/
def launch (arguments : List String) : IO Launch := do
  let path := path? arguments
  let content ← match path with
    | some path => bytes? path
    | none => pure none
  return {
    arguments := arguments
    file? := fun wanted => if path = some wanted then content else none
    wantedFilter := ← IO.getEnv "RUST_LOG" }

/-- Read what is left of the input. -/
partial def drain (input : IO.FS.Stream) : IO Unit := do
  unless (← input.getLine).isEmpty do
    drain input

/-- Run a service until its input ends. -/
def run (service : Service) (wanted : Option String) : IO Unit := do
  let (filter, notices) := service.filterInForce wanted
  notices.forM IO.eprintln
  (filter.lines .elided none (service.opening service.config.listener.bindAddress)).forM IO.println
  drain (← IO.getStdin)
  (filter.lines .elided none (Service.closing .terminate)).forM IO.println

end Turnstile.Main

open Turnstile in
/-- Start the program and run it to its end. -/
def main (arguments : List String) : IO UInt32 := do
  let launched ← Main.launch arguments
  match Program.start launched with
  | .error done =>
      IO.print done.stdout
      IO.eprint done.stderr
      return UInt32.ofNat done.code
  | .ok service =>
      Main.run service launched.wantedFilter
      return 0
