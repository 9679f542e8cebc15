/-!
# TOML values

The keys of a table are different. Floats and moments of time are kept as they were written: no key of a
job or of a configuration holds one.
-/

namespace CiFront.Toml

/-- What stands under a key of a TOML document. -/
inductive Value where
  | text (s : String)
  | int (n : Int)
  | float (written : String)
  | flag (b : Bool)
  | moment (written : String)
  | list (items : List Value)
  | table (entries : List (String × Value))
  deriving Repr, Inhabited

/-- The entries of a document or of a table. -/
abbrev Table := List (String × Value)

/-- The text of a string. -/
def Value.text? : Value → Option String
  | text s => some s
  | _ => none

/-- The entries of a table. -/
def Value.table? : Value → Option Table
  | table entries => some entries
  | _ => none

/-- The items of a list. -/
def Value.list? : Value → Option (List Value)
  | list items => some items
  | _ => none

end CiFront.Toml
