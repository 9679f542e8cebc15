import CiFront.Json.Basic
/-!
# Log events

Everything the program may log, as what happened rather than as text. Level, emitting module, message and
fields of an event are functions of it.
-/

namespace CiFront.Log

/-- The levels of events, from the most to the least detailed. -/
inductive Level where
  | trace
  | debug
  | info
  | warn
  | error
  deriving DecidableEq, Repr

/-- What the program reports about its own work. -/
inductive Event where
  | convertingToken (parameter kind : String)
  | usingDefault (parameter : String)
  | resolvedParameters (origin : String) (count : Nat)
  | readToken (parameter : String) (bytes : Nat)
  | loadingConfig (path : String)
  | contextPathFromEnvironment (contextPath : String)
  | resourceRootFromEnvironment (resourceRoot : String)
  | loadedJob (path : String) (parameters : Nat)
  | loadedBundle (locale path : String) (count : Nat)
  | noMessage (key locale : String)
  deriving DecidableEq, Repr

namespace Level

/-- How much a level lets through: a filter at one level admits the levels of equal or lesser rank. -/
def rank : Level → Nat
  | error => 1
  | warn => 2
  | info => 3
  | debug => 4
  | trace => 5

/-- The name of a level in log lines. -/
def name : Level → String
  | trace => "TRACE"
  | debug => "DEBUG"
  | info => "INFO"
  | warn => "WARN"
  | error => "ERROR"

end Level

namespace Event

/-- How grave an event is. -/
def level : Event → Level
  | convertingToken .. => .debug
  | usingDefault .. => .debug
  | resolvedParameters .. => .info
  | readToken .. => .debug
  | loadingConfig .. => .info
  | contextPathFromEnvironment .. => .debug
  | resourceRootFromEnvironment .. => .debug
  | loadedJob .. => .info
  | loadedBundle .. => .info
  | noMessage .. => .warn

/-- The path of the module that emits an event, which filters select by. -/
def source : Event → String
  | convertingToken .. => "cix_core::parameter::invocation"
  | usingDefault .. => "cix_core::parameter::job"
  | resolvedParameters .. => "cix_core::parameter::job"
  | readToken .. => "cix::invocation"
  | loadingConfig .. => "cix_core::config"
  | contextPathFromEnvironment .. => "cix_core::config"
  | resourceRootFromEnvironment .. => "cix_core::config"
  | loadedJob .. => "cix"
  | loadedBundle .. => "cix"
  | noMessage .. => "cix_core::l10n::bundle"

/-- The message of an event. -/
def message : Event → String
  | convertingToken .. => "converting token"
  | usingDefault .. => "using default value"
  | resolvedParameters .. => "resolved build parameters"
  | readToken .. => "read token from stdin"
  | loadingConfig .. => "loading config"
  | contextPathFromEnvironment .. => "context path from environment"
  | resourceRootFromEnvironment .. => "resource root from environment"
  | loadedJob .. => "loaded job"
  | loadedBundle .. => "loaded message bundle"
  | noMessage .. => "no message found, rendering key"

/-- The fields of an event besides its message. -/
def fields : Event → List (String × Json)
  | convertingToken parameter kind => [("parameter", .str parameter), ("kind", .str kind)]
  | usingDefault parameter => [("parameter", .str parameter)]
  | resolvedParameters origin count => [("origin", .str origin), ("count", .int count)]
  | readToken parameter bytes => [("parameter", .str parameter), ("bytes", .int bytes)]
  | loadingConfig path => [("path", .str path)]
  | contextPathFromEnvironment contextPath => [("context_path", .str contextPath)]
  | resourceRootFromEnvironment resourceRoot => [("resource_root", .str resourceRoot)]
  | loadedJob path parameters => [("job", .str path), ("parameters", .int parameters)]
  | loadedBundle locale path count =>
    [("locale", .str locale), ("path", .str path), ("count", .int count)]
  | noMessage key locale => [("key", .str key), ("locale", .str locale)]

/-- The message and the fields of an event; the message counts as a field. -/
def allFields (event : Event) : List (String × Json) :=
  ("message", .str event.message) :: event.fields

/-- The message and the fields of an event as one object. -/
def body (event : Event) : Json :=
  .obj event.allFields

end Event

end CiFront.Log
