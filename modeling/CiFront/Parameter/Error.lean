import CiFront.Number.Decimal
import CiFront.ReadFailure
import CiFront.Text.Quoted
/-!
# Errors of build parameters

What can go wrong when parameters are defined, when tokens are converted and when a build is resolved, as
causes. Their wording is one function each.
-/

namespace CiFront.Parameter

/-- Why a token is no value of its parameter. -/
inductive TokenFault where
  | notAnInteger (fault : Decimal.Fault)
  | belowMin (min : Int64)
  | aboveMax (max : Int64)
  | notABoolean
  | notAChoice (choices : List String)
  | notAScalar
  deriving DecidableEq

/-- The wording of a token fault. -/
def TokenFault.message : TokenFault → String
  | notAnInteger fault => fault.message
  | belowMin min => "must be at least " ++ Decimal.text min.toInt
  | aboveMax max => "must be at most " ++ Decimal.text max.toInt
  | notABoolean => "expected true or false"
  | notAChoice choices => "not one of [" ++ String.intercalate ", " choices ++ "]"
  | notAScalar => "expected a scalar form value"

/-- Why the fields of a definition do not fit together. -/
inductive DefinitionFault where
  | minAboveMax (min max : Int64)
  | defaultOutOfRange (fault : TokenFault)
  | noChoices
  | unknownField (key : String)
  deriving DecidableEq

/-- The wording of a definition fault. -/
def DefinitionFault.message : DefinitionFault → String
  | minAboveMax min max =>
    "min " ++ Decimal.text min.toInt ++ " is greater than max " ++ Decimal.text max.toInt
  | defaultOutOfRange fault => "default " ++ fault.message
  | noChoices => "choice list is empty"
  | unknownField key => "unknown field `" ++ key ++ "`"

/-- What can go wrong with the parameters of a build. -/
inductive Error where
  | invalidToken (name token : String) (fault : TokenFault)
  | emptyName
  | duplicateName (name : String)
  | unknownParameter (name : String)
  | missingValue (name : String)
  | invalidDefinition (name : String) (fault : DefinitionFault)
  | jobFile
  | unreadable (failure : ReadFailure)
  | interrupted (name : String)
  deriving DecidableEq

/-- The wording of an error. -/
def Error.message : Error → String
  | invalidToken name token fault =>
    "Invalid value for parameter '" ++ name ++ "': " ++ Text.quoted token
      ++ " (" ++ fault.message ++ ")"
  | emptyName => "Parameter name must not be empty"
  | duplicateName name => "Duplicate parameter name: " ++ name
  | unknownParameter name => "No such parameter: " ++ name
  | missingValue name => "No value supplied for parameter '" ++ name ++ "' and it has no default"
  | invalidDefinition name fault =>
    "Invalid definition for parameter '" ++ name ++ "': " ++ fault.message
  | jobFile => "Failed to parse job file: TOML parse error"
  | unreadable failure => "IO error: " ++ failure.message
  | interrupted name => "Interrupted while reading parameter '" ++ name ++ "'"

/-- The wording of what an error was caused by, outermost first. -/
def Error.causes : Error → List String
  | jobFile => ["TOML parse error"]
  | unreadable failure => [failure.message]
  | _ => []

end CiFront.Parameter
