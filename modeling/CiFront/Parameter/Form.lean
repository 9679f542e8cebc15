import CiFront.Json.Writer
import CiFront.Parameter.Basic
/-!
# Values from web forms

A form entry is an object with a name and a value. The name, if it is a text, must be that of the
parameter. A text is converted as it is, and flags and numbers are converted by their text.
-/

namespace CiFront.Parameter

/-- Checks that a form entry that states a name states that of the parameter. -/
def checkFormName (parameter : Parameter) (form : Json) : Except Error Unit :=
  match (form.get? "name").bind Json.str? with
  | some name => if name = parameter.name then .ok () else .error (.unknownParameter name)
  | none => .ok ()

/-- The value of a form's value member, with a double written by `write`. -/
def convertFormValue (parameter : Parameter) (write : Double → String) :
    Option Json → Except Error Value
  | none => .error (.missingValue parameter.name)
  | some .null => .error (.missingValue parameter.name)
  | some (.str s) => parameter.convert s
  | some (.bool flag) => parameter.convert (Payload.flagText flag)
  | some (.int n) => parameter.convert (Decimal.text n)
  | some (.real x) => parameter.convert (write x)
  | some (.arr items) =>
    .error (.invalidToken parameter.name (Json.arr items).compact .notAScalar)
  | some (.obj members) =>
    .error (.invalidToken parameter.name (Json.obj members).compact .notAScalar)

/-- The value of a form entry, with a double written by `write`. -/
def convertFormBy (parameter : Parameter) (write : Double → String) (form : Json) :
    Except Error Value :=
  match parameter.checkFormName form with
  | .error e => .error e
  | .ok () => parameter.convertFormValue write (form.get? "value")

/-- The value of a form entry, with a double written as the shortest text that reads back as it. -/
def convertForm (parameter : Parameter) (form : Json) : Except Error Value :=
  parameter.convertFormBy Double.text form

end CiFront.Parameter
