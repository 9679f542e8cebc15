import CiFront.Parameter.Error
import CiFront.Parameter.Value
import CiFront.Text.Blank
import CiFront.Text.Case
/-!
# Build parameters

A parameter has a name, perhaps a description, and a kind with the kind's own fields. The kind decides
which tokens a parameter accepts, what they are worth, and what holds where no token is given. A valid
parameter accepts some token, and its default is one of the values its tokens can have.
-/

namespace CiFront

namespace Parameter

/-- The kinds of parameters, each with its own fields. -/
inductive Kind where
  | string (default : Option String) (trimmed : Bool)
  | text (default : Option String)
  | boolean (default : Bool)
  | integer (default min max : Option Int64)
  | choice (choices : List String)
  | password (default : Option Secret)
  deriving DecidableEq

/-- The name of a kind. -/
def Kind.name : Kind → String
  | string .. => "string"
  | text .. => "text"
  | boolean .. => "boolean"
  | integer .. => "integer"
  | choice .. => "choice"
  | password .. => "password"

/-- The keys that a definition of the named kind may hold besides its type, name and description. -/
def Kind.fields? : String → Option (List String)
  | "string" => some ["default", "trim"]
  | "text" => some ["default"]
  | "boolean" => some ["default"]
  | "integer" => some ["default", "min", "max"]
  | "choice" => some ["choices"]
  | "password" => some ["default"]
  | _ => none

end Parameter

/-- One input that a job declares. -/
structure Parameter where
  name : String
  description : Option String
  kind : Parameter.Kind
  deriving DecidableEq

namespace Parameter

/-! ### Conversion -/

/-- The bound that an integer violates; the lower one is looked at first. -/
def outOfRange? (min max : Option Int64) (n : Int64) : Option TokenFault :=
  match min, max with
  | some min, max =>
    if n < min then some (.belowMin min)
    else match max with
      | some max => if max < n then some (.aboveMax max) else none
      | none => none
  | none, some max => if max < n then some (.aboveMax max) else none
  | none, none => none

/-- The text of a token without the blanks around it, where the parameter asks for that. -/
def normalize (trimmed : Bool) (token : String) : String :=
  if trimmed then String.ofList (Text.trim token.toList) else token

/-- The flag that a token names, in any letter case. -/
def flag? (token : String) : Option Bool :=
  let word := Text.trim token.toList
  if Text.agreeUpToCase word "true".toList then some true
  else if Text.agreeUpToCase word "false".toList then some false
  else none

/-- The payload of a token of a kind. -/
def Kind.payload (kind : Kind) (token : String) : Except TokenFault Payload :=
  match kind with
  | .string _ trimmed => .ok (.string (normalize trimmed token))
  | .text _ => .ok (.text token)
  | .boolean _ =>
    match flag? token with
    | some flag => .ok (.boolean flag)
    | none => .error .notABoolean
  | .integer _ min max =>
    match Decimal.readInt64 (Text.trim token.toList) with
    | .error fault => .error (.notAnInteger fault)
    | .ok n =>
      match outOfRange? min max n with
      | some fault => .error fault
      | none => .ok (.integer n)
  | .choice choices => if token ∈ choices then .ok (.choice token) else .error (.notAChoice choices)
  | .password _ => .ok (.password ⟨token⟩)

/-- The payload that holds where a kind is given no token. -/
def Kind.default? : Kind → Option Payload
  | .string default trimmed => some (.string (normalize trimmed (default.getD "")))
  | .text default => some (.text (default.getD ""))
  | .boolean default => some (.boolean default)
  | .integer default _ _ => default.map .integer
  | .choice choices => choices.head?.map .choice
  | .password default => some (.password (default.getD ⟨""⟩))

/-- The value of a token. It depends on the token and the definition alone. -/
def convert (parameter : Parameter) (token : String) : Except Error Value :=
  match parameter.kind.payload token with
  | .ok payload => .ok ⟨parameter.name, payload⟩
  | .error fault => .error (.invalidToken parameter.name token fault)

/-- The value of a parameter that is given no token, if it has one. -/
def default? (parameter : Parameter) : Option Value :=
  parameter.kind.default?.map fun payload => ⟨parameter.name, payload⟩

/-! ### Validity -/

/-- What is wrong with the fields of a kind, if anything is. -/
def Kind.fault? : Kind → Option DefinitionFault
  | .integer default min max =>
    match min, max with
    | some low, some high =>
      if high < low then some (.minAboveMax low high)
      else (default.bind (outOfRange? min max)).map .defaultOutOfRange
    | _, _ => (default.bind (outOfRange? min max)).map .defaultOutOfRange
  | .choice choices => if choices.isEmpty then some .noChoices else none
  | _ => none

/-- Checks that a definition can be used: its name is not blank and its fields fit together. -/
def validate (parameter : Parameter) : Except Error Unit :=
  if Text.isBlankText parameter.name then .error .emptyName
  else match parameter.kind.fault? with
    | some fault => .error (.invalidDefinition parameter.name fault)
    | none => .ok ()

/-! ### Construction -/

/-- A parameter of a kind under a name that is not blank. -/
def named (name : String) (description : Option String) (kind : Kind) : Except Error Parameter :=
  if Text.isBlankText name then .error .emptyName else .ok ⟨name, description, kind⟩

/-- A choice among texts, of which there must be one. -/
def choiceNamed (name : String) (description : Option String) (choices : List String) :
    Except Error Parameter := do
  let parameter ← named name description (.choice choices)
  parameter.validate
  pure parameter

end Parameter

end CiFront
