import CiFront.Json.Basic
import CiFront.Parameter.Basic
/-!
# Definitions as documents

A definition is read from the entries of a table, whatever format the table was written in: an entry is
seen as a cell, which tells apart what a definition can tell apart. Keys that the kind does not define are
not looked at. A definition is written as a JSON object, which holds all of it but a password's default.
-/

namespace CiFront.Parameter

/-- What a document holds at a key, as far as a definition can tell. -/
inductive Cell where
  | null
  | flag (flag : Bool)
  | int (n : Int)
  | text (s : String)
  | texts (list : List String)
  | other
  deriving DecidableEq

/-- The cells of a table by key. -/
abbrev Cells := List (String × Cell)

namespace Cells

/-- The text at a key that must hold one. -/
def text? (cells : Cells) (key : String) : Option String :=
  match cells.lookup key with
  | some (.text s) => some s
  | _ => none

/-- The texts at a key that must hold a list of them. -/
def texts? (cells : Cells) (key : String) : Option (List String) :=
  match cells.lookup key with
  | some (.texts list) => some list
  | _ => none

/-- The text at a key that may be absent or null. -/
def optionalText? (cells : Cells) (key : String) : Option (Option String) :=
  match cells.lookup key with
  | none => some none
  | some .null => some none
  | some (.text s) => some (some s)
  | some _ => none

/-- The 64-bit integer at a key that may be absent or null. -/
def optionalInt64? (cells : Cells) (key : String) : Option (Option Int64) :=
  match cells.lookup key with
  | none => some none
  | some .null => some none
  | some (.int n) =>
    if Int64.minValue.toInt ≤ n ∧ n ≤ Int64.maxValue.toInt then some (some (Int64.ofInt n)) else none
  | some _ => none

/-- The flag at a key, false where the key is absent. -/
def flagOrFalse? (cells : Cells) (key : String) : Option Bool :=
  match cells.lookup key with
  | none => some false
  | some (.flag flag) => some flag
  | some _ => none

end Cells

/-- Reads the fields of the named kind. -/
def Kind.ofCells? (cells : Cells) : String → Option Kind
  | "string" => do pure (.string (← cells.optionalText? "default") (← cells.flagOrFalse? "trim"))
  | "text" => do pure (.text (← cells.optionalText? "default"))
  | "boolean" => do pure (.boolean (← cells.flagOrFalse? "default"))
  | "integer" => do
    pure (.integer (← cells.optionalInt64? "default") (← cells.optionalInt64? "min")
      (← cells.optionalInt64? "max"))
  | "choice" => do pure (.choice (← cells.texts? "choices"))
  | "password" => do pure (.password ((← cells.optionalText? "default").map Secret.mk))
  | _ => none

/-- Reads a definition from the cells of a table. -/
def ofCells? (cells : Cells) : Option Parameter := do
  let kind ← Kind.ofCells? cells (← cells.text? "type")
  let name ← cells.text? "name"
  let description ← cells.optionalText? "description"
  pure ⟨name, description, kind⟩

/-! ### JSON -/

/-- A JSON value as a cell. -/
def Cell.ofJson : Json → Cell
  | .null => .null
  | .bool b => .flag b
  | .int n => .int n
  | .str s => .text s
  | .arr items =>
    match (Json.arr items).strs? with
    | some list => .texts list
    | none => .other
  | .real _ => .other
  | .obj _ => .other

/-- Reads a definition from a JSON object. -/
def ofJson? : Json → Option Parameter
  | .obj members => ofCells? (members.map fun (key, value) => (key, Cell.ofJson value))
  | _ => none

/-- A member that is written only if there is a value. -/
def optionalMember {α : Type} (key : String) (write : α → Json) : Option α → List (String × Json)
  | some a => [(key, write a)]
  | none => []

/-- The members of a kind's own fields. A password's default is not among them. -/
def Kind.members : Kind → List (String × Json)
  | .string default trimmed =>
    optionalMember "default" .str default ++ [("trim", .bool trimmed)]
  | .text default => optionalMember "default" .str default
  | .boolean default => [("default", .bool default)]
  | .integer default min max =>
    let write (n : Int64) : Json := .int n.toInt
    optionalMember "default" write default ++ optionalMember "min" write min
      ++ optionalMember "max" write max
  | .choice choices => [("choices", .ofStrs choices)]
  | .password _ => []

/-- A definition as a JSON object. -/
def toJson (parameter : Parameter) : Json :=
  .obj (("type", .str parameter.kind.name) :: ("name", .str parameter.name)
    :: optionalMember "description" .str parameter.description ++ parameter.kind.members)

end CiFront.Parameter
