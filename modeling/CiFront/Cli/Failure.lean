import CiFront.Config
import CiFront.Icon.Size
import CiFront.Parameter.Error
import CiFront.Properties
/-!
# Failures of an invocation

A failure is shown as what was attempted and the chain of its causes, each on lines of its own.
-/

namespace CiFront.Cli

/-- Why an invocation fails, by what was attempted. -/
inductive Failure where
  | configuration (error : Config.Error)
  | jobUnreadable (path : String) (failure : ReadFailure)
  | jobInvalid (path : String) (error : Parameter.Error)
  | resolution (error : Parameter.Error)
  | icon (error : Icon.Error)
  | locale (invalid : Locale.Invalid)
  | bundleUnreadable (path : String) (failure : ReadFailure)
  | bundleInvalid (path : String) (malformed : Properties.Malformed)
  deriving DecidableEq

namespace Failure

/-- What went wrong first of all, and the causes of it, outermost first. -/
def chain : Failure → String × List String
  | configuration error => ("Failed to load CIX configuration", error.message :: error.causes)
  | jobUnreadable path failure => ("Failed to read job file " ++ path, [failure.message])
  | jobInvalid path error => ("Invalid job file " ++ path, error.message :: error.causes)
  | resolution error => (error.message, error.causes)
  | icon error => (error.message, [])
  | locale invalid => (invalid.message, [])
  | bundleUnreadable path failure =>
    ("Failed to read message bundle " ++ path, [failure.message])
  | bundleInvalid path malformed => ("Invalid message bundle " ++ path, [malformed.message])

/-- A text with blanks at the start of each line but the first. -/
def hang (width : Nat) (text : String) : String :=
  let blanks := String.ofList (List.replicate width ' ')
  String.ofList (text.toList.flatMap fun c => if c = '\n' then '\n' :: blanks.toList else [c])

/-- The line of a cause that is one of several. -/
def numbered (index : Nat) (cause : String) : String :=
  let label := toString index
  String.ofList (List.replicate (5 - label.length) ' ') ++ label ++ ": " ++ hang 7 cause

/-- The lines of the causes, numbered if there are several. -/
def causeLines : List String → List String
  | [] => []
  | [cause] => ["    " ++ hang 4 cause]
  | causes => causes.zipIdx.map fun (cause, index) => numbered index cause

/-- The text of a failure. -/
def report (failure : Failure) : String :=
  let (top, causes) := failure.chain
  let tail := if causes.isEmpty then "" else
    "\n\nCaused by:\n" ++ String.intercalate "\n" (causeLines causes)
  "Error: " ++ top ++ tail ++ "\n"

end Failure

end CiFront.Cli
