import CiFront.Json.Basic
import CiFront.Number.Decimal
/-!
# Values of build parameters

A value is a typed payload under the name of its parameter. A payload has two texts: the one that is
exported into the environment of a build, and the one that is shown, where a secret is masked.
-/

namespace CiFront.Parameter

/-- A text that is never shown. -/
structure Secret where
  /-- The plain text, for the environment of a build. -/
  reveal : String
  deriving DecidableEq

/-- What is shown in place of every secret. -/
def Secret.mask : String := "********"

/-- The typed content of a value. -/
inductive Payload where
  | string (s : String)
  | text (s : String)
  | boolean (flag : Bool)
  | integer (n : Int64)
  | choice (s : String)
  | password (secret : Secret)
  deriving DecidableEq

namespace Payload

/-- The text of a flag. -/
def flagText (flag : Bool) : String :=
  if flag then "true" else "false"

/-- The name of the kind a payload belongs to. -/
def kindName : Payload → String
  | string _ => "string"
  | text _ => "text"
  | boolean _ => "boolean"
  | integer _ => "integer"
  | choice _ => "choice"
  | password _ => "password"

/-- The text that is exported into the environment of a build. -/
def exported : Payload → String
  | string s => s
  | text s => s
  | boolean flag => flagText flag
  | integer n => Decimal.text n.toInt
  | choice s => s
  | password secret => secret.reveal

/-- Whether a payload is a secret. -/
def isSensitive : Payload → Bool
  | password _ => true
  | _ => false

/-- The text that is shown: the exported one, but the mask for a secret. -/
def shown (payload : Payload) : String :=
  if payload.isSensitive then Secret.mask else payload.exported

/-- The value member of a serialised payload. -/
def toJson : Payload → Json
  | string s => .str s
  | text s => .str s
  | boolean flag => .bool flag
  | integer n => .int n.toInt
  | choice s => .str s
  | password _ => .str Secret.mask

end Payload

/-- One input of a build: a payload under the name of its parameter. -/
structure Value where
  name : String
  payload : Payload
  deriving DecidableEq

namespace Value

/-- The name and the exported text, for the environment of a build. -/
def exported (value : Value) : String × String :=
  (value.name, value.payload.exported)

/-- The value as `NAME=text`, with a secret masked. -/
def shown (value : Value) : String :=
  value.name ++ "=" ++ value.payload.shown

/-- The value as an object. -/
def toJson (value : Value) : Json :=
  .obj [("name", .str value.name), ("type", .str value.payload.kindName),
    ("value", value.payload.toJson)]

/-- The value as a line of an environment file, with a secret in plain text only if `reveal` is set. -/
def line (reveal : Bool) (value : Value) : String :=
  if reveal || !value.payload.isSensitive then value.name ++ "=" ++ value.payload.exported
  else value.shown

end Value

end CiFront.Parameter
