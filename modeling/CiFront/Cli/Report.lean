import CiFront.Cli.Execution
import CiFront.Log.Filter
/-!
# Reports

What a run of the program shows: its exit code, the texts on its two outputs, and the events that its log
filter lets through.
-/

namespace CiFront.Cli

/-- What a run of the program shows. -/
structure Report where
  exit : Nat
  stdout : String
  stderr : String
  events : List Log.Event
  deriving DecidableEq

namespace Report

/-- The log filter that a variable of the environment holds, if it holds one. -/
def filterAt? (environment : String → Option String) (name : String) : Option Log.Filter :=
  (environment name).bind Log.Filter.parse?

/-- The log filter: of the first variable that holds one, else the level that the invocation asks for. -/
def filter (environment : String → Option String) (verbose : Bool) : Log.Filter :=
  match filterAt? environment "CIX_LOG", filterAt? environment "RUST_LOG" with
  | some filter, _ => filter
  | none, some filter => filter
  | none, none => .upTo (if verbose then .debug else .info)

/-- A summary of the commands. -/
def help : String :=
  "Usage: cix [OPTIONS] <COMMAND>\n\n" ++
  "Commands:\n" ++
  "  params <JOB>    Resolve the build parameters of a job file\n" ++
  "  icon <IMAGE>    Resolve a stock icon\n" ++
  "  ball <COLOR>    Resolve a build-status ball\n"

/-- The report of a run that ends while its arguments are read. -/
def ofStop : Stop → Report
  | .version => ⟨0, "cix " ++ Release.version ++ "\n", "", []⟩
  | .help => ⟨0, help, "", []⟩
  | .misuse misuse => ⟨2, "", "error: " ++ misuse.message ++ "\n", []⟩

/-- The report of an invocation that was executed. -/
def ofOutcome (filter : Log.Filter) : Except Failure String × List Log.Event → Report
  | (.ok text, events) => ⟨0, text, "", events.filter filter.admits⟩
  | (.error failure, events) => ⟨1, "", failure.report, events.filter filter.admits⟩

/-- The report of a run of the program with the given arguments. -/
def run (surroundings : Surroundings) (arguments : List String) : Report :=
  match Invocation.parse surroundings.environment arguments with
  | .error stop => ofStop stop
  | .ok invocation =>
    ofOutcome (filter surroundings.environment invocation.verbose)
      ((execute surroundings invocation).run.run [])

end Report

end CiFront.Cli
