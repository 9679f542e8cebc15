import CiFront.Digest.Sha256
import CiFront.Icon.Request
import CiFront.Locale
import CiFront.Log.Event
import CiFront.ReadFailure
import CiFront.Toml.Value
/-!
# Configuration

A configuration is the defaults with layers laid over them, one after the other: a document, then the
environment. A layer sets the fields it names. Its locale is looked at last, and if it is none the layer
fails, while the other fields stay set.
-/

namespace CiFront

/-! ### The release -/

namespace Release

/-- The version of this release. -/
def version : String := "0.3.1"

/-- The root of the static resources: eight digits of the version's digest. It changes with the version, so
that no browser keeps the resources of an older release. -/
def resourceRoot : String :=
  "/static/" ++ String.ofList ((Sha256.hex version.toUTF8.toList).take 8)

end Release

/-! ### Configurations -/

/-- The configuration that icons are resolved and described under. -/
structure Config where
  contextPath : String
  resourceRoot : String
  locale : Locale
  deriving DecidableEq

namespace Config

/-- The configuration before any layer. -/
def default : Config where
  contextPath := ""
  resourceRoot := Release.resourceRoot
  locale := Locale.root

/-- The file that is read for a configuration if no other is named. -/
def defaultFile : String := "cix.toml"

/-- The request that icons are resolved against. -/
def request (config : Config) : Icon.Request :=
  .of config.contextPath config.resourceRoot

/-! ### Errors -/

/-- What can go wrong with a configuration. -/
inductive Error where
  | unreadable (path : String) (failure : ReadFailure)
  | malformed
  | invalidLocale (key : String) (invalid : Locale.Invalid)
  deriving DecidableEq

/-- The wording of an error. -/
def Error.message : Error → String
  | unreadable path failure => "Failed to read config file " ++ path ++ ": " ++ failure.message
  | malformed => "Failed to parse config: TOML parse error"
  | invalidLocale key invalid => "Invalid config value for " ++ key ++ ": " ++ invalid.message

/-- The wording of what an error was caused by, outermost first. -/
def Error.causes : Error → List String
  | unreadable _ failure => [failure.message]
  | malformed => ["TOML parse error"]
  | invalidLocale .. => []

/-! ### Layers -/

/-- The fields that a document or the environment names. -/
structure Layer where
  contextPath : Option String
  resourceRoot : Option String
  locale : Option String
  deriving DecidableEq, Repr

/-- Sets the fields that a layer names, the locale apart. -/
def setPaths (config : Config) (layer : Layer) : Config :=
  { config with
    contextPath := layer.contextPath.getD config.contextPath
    resourceRoot := layer.resourceRoot.getD config.resourceRoot }

/-- Lays a layer over a configuration, and says whether it failed. An invalid locale is reported under
the layer's key for it. -/
def overlay (config : Config) (localeKey : String) (layer : Layer) : Except Error Unit × Config :=
  let set := config.setPaths layer
  match layer.locale with
  | none => (.ok (), set)
  | some text =>
    match Locale.parse text with
    | .ok locale => (.ok (), { set with locale })
    | .error invalid => (.error (.invalidLocale localeKey invalid), set)

/-! ### Documents -/

/-- The keys that a document may hold. -/
def documentKeys : List String := ["context_path", "resource_root", "locale"]

/-- The text at a key of a document, if there is one; `none` if there is a value of another type. -/
def documentText? (document : Toml.Table) (key : String) : Option (Option String) :=
  match document.lookup key with
  | none => some none
  | some value => value.text?.map some

/-- The layer of a document, if it holds none but the known keys and texts under them. -/
def Layer.ofToml? (document : Toml.Table) : Option Layer :=
  if document.all fun (key, _) => documentKeys.contains key then do
    pure ⟨← documentText? document "context_path", ← documentText? document "resource_root",
      ← documentText? document "locale"⟩
  else none

/-- Lays the text of a document over a configuration, read into a table by `parse?`. A text that is no such
document changes nothing. -/
def mergeDocument (config : Config) (parse? : String → Option Toml.Table) (text : String) :
    Except Error Unit × Config :=
  match (parse? text).bind Layer.ofToml? with
  | some layer => config.overlay "locale" layer
  | none => (.error .malformed, config)

/-! ### The environment -/

/-- The layer of an environment. -/
def Layer.ofEnvironment (environment : String → Option String) : Layer where
  contextPath := environment "CIX_CONTEXT_PATH"
  resourceRoot := environment "CIX_RESOURCE_ROOT"
  locale := environment "CIX_LOCALE"

/-- What laying an environment over a configuration reports. -/
def Layer.environmentEvents (layer : Layer) : List Log.Event :=
  (layer.contextPath.map .contextPathFromEnvironment).toList
    ++ (layer.resourceRoot.map .resourceRootFromEnvironment).toList

/-- Lays an environment over a configuration. -/
def mergeEnvironment (config : Config) (environment : String → Option String) :
    Except Error Unit × Config :=
  config.overlay "CIX_LOCALE" (.ofEnvironment environment)

end Config

end CiFront
