import CiFront.Cli.Failure
import CiFront.Cli.Invocation
import CiFront.Icon.Ball
import CiFront.Job.File
import CiFront.Job.Resolution
import CiFront.Json.Writer
import CiFront.Trigger.CommandLine
/-!
# Executing an invocation

An invocation is executed in its surroundings: the files, the environment and the standard input. It comes
to a text for the standard output or to a failure, and either way to the events it logged.
-/

namespace CiFront.Cli

/-- What an invocation can see of the world. -/
structure Surroundings where
  /-- The text of the file at a path, or why there is none. -/
  files : String → Except ReadFailure String
  environment : String → Option String
  input : Reader

namespace Surroundings

/-- Whether there is a file at a path, readable or not. -/
def isFile (surroundings : Surroundings) (path : String) : Bool :=
  match surroundings.files path with
  | .ok _ => true
  | .error .notUtf8 => true
  | .error (.other _) => true
  | .error _ => false

end Surroundings

/-- A computation that logs events and may fail; what it logged before a failure stays logged. -/
abbrev Work := ExceptT Failure (StateM (List Log.Event))

namespace Work

/-- Logs events. -/
def log (events : List Log.Event) : Work Unit :=
  modify (· ++ events)

/-- Goes on with a result, or fails with its error as the cause. -/
def ofExcept {ε α : Type} (failure : ε → Failure) : Except ε α → Work α
  | .ok a => pure a
  | .error e => throw (failure e)

end Work

/-! ### Configuration -/

/-- Lays a configuration file over a configuration, read into a table by `parse?`. -/
def mergeFile (parse? : String → Option Toml.Table) (surroundings : Surroundings) (config : Config)
    (path : String) : Work Config := do
  let text ← Work.ofExcept (.configuration ∘ .unreadable path) (surroundings.files path)
  Work.log [.loadingConfig path]
  let (result, config) := config.mergeDocument parse? text
  Work.ofExcept .configuration result
  pure config

/-- The file that a configuration is read from: the one that is named, else the usual one if it is
there. -/
def configFile? (surroundings : Surroundings) (named : Option String) : Option String :=
  match named with
  | some path => some path
  | none => if surroundings.isFile Config.defaultFile then some Config.defaultFile else none

/-- The configuration: the defaults, then a file, then the environment. -/
def loadConfig (parse? : String → Option Toml.Table) (surroundings : Surroundings)
    (named : Option String) : Work Config := do
  let config ← match configFile? surroundings named with
    | some path => mergeFile parse? surroundings .default path
    | none => pure .default
  Work.log (Config.Layer.ofEnvironment surroundings.environment).environmentEvents
  let (result, config) := config.mergeEnvironment surroundings.environment
  Work.ofExcept .configuration result
  pure config

/-! ### Parameters -/

/-- The values of a build as text: an array of objects, or a line for each. -/
def valuesText (format : Format) (reveal : Bool) (values : List Parameter.Value) : String :=
  match format with
  | .json => (Json.arr (values.map Parameter.Value.toJson)).indented ++ "\n"
  | .env => String.join (values.map fun value => value.line reveal ++ "\n")

/-- The values of a job's parameters. -/
def resolveJob (surroundings : Surroundings) (path : String) (supplied : Supplied)
    (stdin : Option String) : Work (List Parameter.Value) := do
  let text ← Work.ofExcept (.jobUnreadable path) (surroundings.files path)
  let job ← Work.ofExcept (.jobInvalid path) (Job.parse text)
  Work.log [.loadedJob path job.parameters.length]
  let outcome := job.resolve (Trigger.commandLine stdin) supplied surroundings.input
  Work.log outcome.events
  Work.ofExcept .resolution outcome.result

/-! ### Icons -/

/-- The stock descriptions with further properties files loaded, in order. -/
def loadBundle (surroundings : Surroundings) : Bundle → List (String × String) → Work Bundle
  | bundle, [] => pure bundle
  | bundle, (tag, path) :: rest => do
    let locale ← Work.ofExcept .locale (Locale.parse tag)
    let text ← Work.ofExcept (.bundleUnreadable path) (surroundings.files path)
    let (loaded, bundle) := bundle.load (some locale) text
    let count ← Work.ofExcept (.bundleInvalid path) loaded
    Work.log [.loadedBundle locale.tag path count]
    loadBundle surroundings bundle rest

/-- The path, the description and the locale of an icon, as an object. -/
def iconJson (image : Option String) (description : String) (locale : Locale) : Json :=
  .obj [("image", .ofStr? image), ("description", .str description), ("locale", .str locale.tag)]

/-- Resolves and describes an icon. -/
def renderIcon (surroundings : Surroundings) (config : Config) (icon : Icon.Status)
    (rendering : Rendering) : Work String := do
  let locale ← match rendering.locale with
    | some text => Work.ofExcept .locale (Locale.parse text)
    | none => pure config.locale
  let bundle ← loadBundle surroundings .builtin rendering.bundles
  let request := if rendering.noRequest then none else some config.request
  let image ← Work.ofExcept .icon (icon.path? request rendering.size)
  Work.log (bundle.formatEvents icon.description.key locale)
  pure ((iconJson image (icon.describe bundle locale) locale).indented ++ "\n")

/-- The icon of an image, or the stand-in for it. -/
def stockIcon (image : String) (description : Message) (resolves : Bool) : Icon.Status :=
  if resolves then .resolving image description else .nonResolving description

/-! ### Tasks -/

/-- The text that an invocation comes to. -/
def execute (surroundings : Surroundings) (invocation : Invocation) : Work String := do
  let config ← loadConfig Toml.parse? surroundings invocation.config
  match invocation.task with
  | .params job supplied stdin format reveal =>
    valuesText format reveal <$> resolveJob surroundings job supplied stdin
  | .icon image description args resolves rendering =>
    renderIcon surroundings config (stockIcon image ⟨description, args⟩ resolves) rendering
  | .ball text rendering => do
    let ball ← Work.ofExcept .icon (Icon.Ball.parse text)
    renderIcon surroundings config ball.toStatus rendering

end CiFront.Cli
