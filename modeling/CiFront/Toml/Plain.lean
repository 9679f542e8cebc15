import CiFront.Toml.Moment
/-!
# Plain values

A program that has no moments of its own carries one as a table that opens with a reserved key, and under
that key stands a string that names the moment. A value is plain if it holds a moment wherever it could
hold such a table. A document is read into plain values entry by entry, by any reading of values.

The reading below is the one that is run. To it a table whose first key is the reserved one stands for its
moment whatever other keys follow, and is an error if no moment is named under it; anywhere else the
reserved key is a key like any other.
-/

namespace CiFront.Toml

open Text

/-- The entries of a table or a document, each with the plain value that is read from it. -/
def readEntries? (plain? : Value → Option Value) (entries : Table) : Option Table :=
  entries.mapM fun (key, value) => (plain? value).map fun plain => (key, plain)

/-- The first key of a table that stands for a moment. -/
def momentKey : String := "$__toml_private_datetime"

/-- What stands under the reserved key of a table that opens with it. -/
def reserved? : Table → Option Value
  | [] => none
  | (key, value) :: _ => if key = momentKey then some value else none

/-- The moment that a value names: a string names one if it is written as a document writes it, with nothing
before or after. -/
def Value.namedMoment? : Value → Option Value
  | .text s => Scan.whole? Toml.moment s.toList
  | _ => none

mutual

/-- The plain form of a value; `none` if a table in it stands for a moment and names none. -/
def Value.plain? : Value → Option Value
  | .list items => (plainItems? items).map .list
  | .table entries =>
    match reserved? entries with
    | some value => value.namedMoment?
    | none => (plainEntries? entries).map .table
  | value => some value

/-- The plain forms of the items of a list. -/
def plainItems? : List Value → Option (List Value)
  | [] => some []
  | item :: rest => do pure ((← item.plain?) :: (← plainItems? rest))

/-- The entries of a table, each with its plain value. -/
def plainEntries? : List (String × Value) → Option Table
  | [] => some []
  | (key, value) :: rest => do pure ((key, ← value.plain?) :: (← plainEntries? rest))

end

end CiFront.Toml
