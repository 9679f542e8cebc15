import CiFront.Cli.Report
import CiFront.Log.Line
/-!
# The command line

Gathers what an invocation can see of the world, runs it, and writes what it shows. The standard input is
read only if the run asks for it.
-/

namespace CiFront.Cli

/-- The variables of the environment that count. -/
def knownVariables : List String :=
  [configVariable, "CIX_CONTEXT_PATH", "CIX_RESOURCE_ROOT", "CIX_LOCALE", "CIX_LOG", "RUST_LOG"]

/-- The variables that are set, with their values. -/
def setVariables : IO (List (String × String)) :=
  knownVariables.filterMapM fun name => do
    pure ((← IO.getEnv name).map fun value => (name, value))

/-- Why a file cannot be read. -/
def readFailure (error : IO.Error) : ReadFailure :=
  match error with
  | .noFileOrDirectory .. => .notFound
  | .inappropriateType _ 21 _ => .isDirectory
  | .inappropriateType .. => .notADirectory
  | .invalidArgument .. => .nameTooLong
  | error => .other (toString error)

/-- Reads a file. -/
def readFile (path : String) : IO (String × Except ReadFailure String) := do
  try
    pure (path, decodeText (← IO.FS.readBinFile path))
  catch error =>
    pure (path, .error (readFailure error))

/-- Reads the standard input to its end. -/
def readInput : IO Reader := do
  try
    pure (.ofBytes (← (← IO.getStdin).readBinToEnd))
  catch error =>
    pure (.broken (readFailure error))

/-- Whether a run needs the standard input: it fails without it. -/
def needsInput (surroundings : Surroundings) (invocation : Invocation) : Bool :=
  match ((execute surroundings invocation).run.run []).1 with
  | .error (.resolution (.unreadable _)) => true
  | _ => false

/-- Writes what a run shows, and yields its exit code. -/
def Report.write (report : Report) (jsonLog : Bool) : IO UInt32 := do
  for event in report.events do
    IO.eprintln (if jsonLog then event.jsonLine else event.plainLine)
  IO.print report.stdout
  IO.eprint report.stderr
  pure (UInt32.ofNat report.exit)

/-- Executes an invocation in the surroundings of this process. -/
def runInvocation (environment : String → Option String) (arguments : List String)
    (invocation : Invocation) : IO UInt32 := do
  let files ← invocation.files.mapM readFile
  let closed : Surroundings :=
    { files := fun path => (files.lookup path).getD (.error .notFound)
      environment
      input := .broken (.other "not read") }
  let input ← if needsInput closed invocation then readInput else pure closed.input
  (Report.run { closed with input } arguments).write invocation.jsonLog

end CiFront.Cli

/-- Runs the program. -/
def main (arguments : List String) : IO UInt32 := do
  let settings ← CiFront.Cli.setVariables
  let environment (name : String) : Option String := settings.lookup name
  match CiFront.Cli.Invocation.parse environment arguments with
  | .error stop => (CiFront.Cli.Report.ofStop stop).write false
  | .ok invocation => CiFront.Cli.runInvocation environment arguments invocation
