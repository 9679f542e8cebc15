import CiFront.Number.Double
/-!
# JSON values

A number is an integer or a double, and the two never mix: an integer literal that fits 64 bits, signed
or unsigned, is an integer, and every other literal is a double. The members of an object are kept in
order, and looking one up finds the first of its name.
-/

namespace CiFront

/-- A JSON value. -/
inductive Json where
  | null
  | bool (flag : Bool)
  | int (n : Int)
  | real (x : Double)
  | str (text : String)
  | arr (items : List Json)
  | obj (members : List (String × Json))
  deriving Repr, Inhabited

namespace Json

/-- The member `key` of an object; `none` if there is none or the value is no object. -/
def get? (key : String) : Json → Option Json
  | obj members => members.lookup key
  | _ => none

/-- The text of a string. -/
def str? : Json → Option String
  | str text => some text
  | _ => none

/-- The texts of an array of strings. -/
def strs? : Json → Option (List String)
  | arr items => items.mapM str?
  | _ => none

/-- Whether a value is the bare name of an alternative: its string, or an object with null under it. -/
def names (json : Json) (name : String) : Bool :=
  match json with
  | str text => text == name
  | obj [(key, null)] => key == name
  | _ => false

/-- An array of strings. -/
def ofStrs (texts : List String) : Json :=
  arr (texts.map str)

/-- A string, or null where there is none. -/
def ofStr? : Option String → Json
  | some text => str text
  | none => null

end Json

end CiFront
