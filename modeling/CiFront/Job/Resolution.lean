import CiFront.Job.Basic
import CiFront.Text.Case
import CiFront.Trigger.Basic
/-!
# Resolution of a build's values

Every parameter of a job gets one value, in order: from the token supplied for it, else from a token the
trigger holds, else from its default. Of several tokens supplied for a name the last one counts. Names
that the job does not define are refused before anything is read.
-/

namespace CiFront

/-- The tokens supplied for a build, each under the name of its parameter. -/
abbrev Supplied := List (String × String)

/-- The token that counts for a name: the last one supplied. -/
def Supplied.token? (supplied : Supplied) (name : String) : Option String :=
  supplied.reverse.lookup name

namespace Parameter

variable {σ : Type}

/-- Converts a token and logs that it does. The trigger has no say in the result. -/
def convertLogged (parameter : Parameter) (token : String) : Attempt σ Value := do
  Attempt.log (.convertingToken parameter.name parameter.kind.name)
  Attempt.ofExcept (parameter.convert token)

/-- The default of a parameter that was given no token. -/
def resolveDefault (parameter : Parameter) : Attempt σ Value := do
  Attempt.log (.usingDefault parameter.name)
  match parameter.default? with
  | some value => pure value
  | none => Attempt.fail (.missingValue parameter.name)

/-- The value of one parameter: of the supplied token, else of the trigger's, else the default. -/
def resolve (parameter : Parameter) (trigger : Trigger σ) (supplied : Option String) :
    Attempt σ Value :=
  match supplied with
  | some token => parameter.convertLogged token
  | none => do
    match ← trigger.pendingToken parameter.name with
    | some token => parameter.convertLogged token
    | none => parameter.resolveDefault

end Parameter

namespace Job

variable {σ : Type}

/-- The undefined name that a resolution is refused for: the least one supplied, else the first one the
trigger holds a token for. -/
def unknownName? (job : Job) (heldNames : List String) (supplied : Supplied) : Option String :=
  let undefined (name : String) : Bool := (job.get? name).isNone
  match Text.least? ((supplied.map Prod.fst).filter undefined) with
  | some name => some name
  | none => heldNames.find? undefined

/-- The values of parameters, in order, up to the first that fails. -/
def resolveAll (trigger : Trigger σ) (supplied : Supplied) :
    List Parameter → Attempt σ (List Parameter.Value)
  | [] => pure []
  | parameter :: rest => do
    let value ← parameter.resolve trigger (supplied.token? parameter.name)
    let values ← resolveAll trigger supplied rest
    pure (value :: values)

/-- The values of one build. -/
def resolve (job : Job) (trigger : Trigger σ) (supplied : Supplied) :
    Attempt σ (List Parameter.Value) :=
  match job.unknownName? trigger.heldNames supplied with
  | some name => Attempt.fail (.unknownParameter name)
  | none => do
    let values ← resolveAll trigger supplied job.parameters
    Attempt.log (.resolvedParameters trigger.origin values.length)
    pure values

end Job

end CiFront
