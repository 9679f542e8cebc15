import CiFront.Cli.Arguments
import CiFront.Config
/-!
# Invocations

What a user asks for, once the arguments are read: a task with its settings, the configuration to work
under, and how much to log. The configuration named behind the command counts before the one named in front
of it, and that before the one the environment names.
-/

namespace CiFront.Cli

/-- How an icon is resolved and described. -/
structure Rendering where
  size : String
  locale : Option String
  noRequest : Bool
  /-- Properties files to load, each under the tag of its locale. -/
  bundles : List (String × String)
  deriving DecidableEq, Repr

/-- What is asked for. -/
inductive Task where
  | params (job : String) (supplied : List (String × String)) (stdin : Option String)
      (format : Format) (reveal : Bool)
  | icon (image description : String) (args : List String) (resolves : Bool) (rendering : Rendering)
  | ball (text : String) (rendering : Rendering)
  deriving DecidableEq, Repr

/-- A task, and the settings that any task has. -/
structure Invocation where
  verbose : Bool
  jsonLog : Bool
  config : Option String
  task : Task
  deriving DecidableEq, Repr

/-- The pairs among the values of a switch. -/
def Given.pairs (given : Given) (switch : Switch) : List (String × String) :=
  (given.values switch).filterMap Switch.pair?

/-- How an icon is to be rendered. -/
def Rendering.of (given : Given) : Rendering where
  size := (given.value? .size).getD "16x16"
  locale := given.value? .locale
  noRequest := given.has .noRequest
  bundles := given.pairs .bundle

/-- The task of a command with its one operand. -/
def Task.of (command : Command) (given : Given) (operand : String) : Task :=
  match command with
  | .params =>
    let format := ((given.value? .format).bind Format.ofName?).getD .json
    .params operand (given.pairs .param) (given.value? .stdin) format (given.has .reveal)
  | .icon =>
    let description := (given.value? .description).getD "icon.folder"
    .icon operand description (given.values .arg) (!given.has .noResolve) (.of given)
  | .ball => .ball operand (.of given)

/-- The files that a task may read. -/
def Task.files : Task → List String
  | .params job .. => [job]
  | .icon _ _ _ _ rendering => rendering.bundles.map (·.2)
  | .ball _ rendering => rendering.bundles.map (·.2)

/-- The environment's variable that names a configuration. -/
def configVariable : String := "CIX_CONFIG"

/-- The configuration that is named before the command, behind it or in the environment. The environment
is looked at for either place where none is named, and an empty name there is a misuse. -/
def configOf (environment : String → Option String) (before behind : Given) :
    Except Misuse (Option String) :=
  match before.value? .config, behind.value? .config, environment configVariable with
  | some _, some path, _ => .ok (some path)
  | none, none, none => .ok none
  | _, _, some "" => .error (.badValue .config "")
  | _, some path, _ => .ok (some path)
  | some path, none, _ => .ok (some path)
  | none, none, some path => .ok (some path)

namespace Invocation

/-- The files that an invocation may read. -/
def files (invocation : Invocation) : List String :=
  invocation.config.getD Config.defaultFile :: invocation.task.files

/-- The invocation of arguments that were all read. -/
def ofReading (environment : String → Option String) (reading : Reading) :
    Except Misuse Invocation :=
  match reading.pending, reading.command with
  | some switch, _ => .error (.missingValue switch)
  | none, none => .error .missingCommand
  | none, some (command, behind) =>
    match behind.operands with
    | [] => .error .missingOperand
    | operand :: _ => do
      let config ← configOf environment reading.before behind
      pure
        { verbose := reading.before.has .verbose || behind.has .verbose
          jsonLog := reading.before.has .json || behind.has .json
          config
          task := .of command behind operand }

/-- Reads the arguments of an invocation. -/
def parse (environment : String → Option String) (arguments : List String) :
    Except Stop Invocation := do
  let reading ← arguments.foldlM Reading.step {}
  if reading.topic.isSome then throw .help
  match ofReading environment reading with
  | .ok invocation => pure invocation
  | .error misuse => throw (.misuse misuse)

end Invocation

end CiFront.Cli
