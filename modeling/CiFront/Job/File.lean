import CiFront.Job.Basic
import CiFront.Parameter.Document
import CiFront.Text.Case
import CiFront.Toml.Document
import CiFront.Toml.Plain
/-!
# Job files

A job file is a TOML document that holds nothing but a list of tables under `parameters`. A document that
cannot be read into plain values is no job file. A key that the kind of a table does not define is an
error, and it is the first one looked for, in all tables and before anything else about the document. It
is looked for in the plain values: an item of the list that is read as a moment is no table there, so its
other keys pass. Parameters are read from the document as it was written.
-/

namespace CiFront

namespace Parameter

/-- A TOML value as a cell. -/
def Cell.ofToml : Toml.Value → Cell
  | .text s => .text s
  | .int n => .int n
  | .flag b => .flag b
  | .list items =>
    match items.mapM Toml.Value.text? with
    | some list => .texts list
    | none => .other
  | .float _ => .other
  | .moment _ => .other
  | .table _ => .other

/-- The entries of a TOML table as cells. -/
def cellsOfToml (table : Toml.Table) : Cells :=
  table.map fun (key, value) => (key, Cell.ofToml value)

end Parameter

namespace Job

/-- The key of a job file under which its parameters stand. -/
def parametersKey : String := "parameters"

/-- The keys that a table of any kind may hold. -/
def commonFields : List String := ["type", "name", "description"]

/-- The text at a key of a table, if there is one. -/
def textAt? (table : Toml.Table) (key : String) : Option String :=
  (table.lookup key).bind Toml.Value.text?

/-- The keys of a table that its kind does not define. A table of no known kind has none. -/
def foreignKeys (table : Toml.Table) : List String :=
  match (textAt? table "type").bind Parameter.Kind.fields? with
  | some fields => (table.map Prod.fst).filter fun key => !(commonFields ++ fields).contains key
  | none => []

/-- What is said of a table with a key that its kind does not define. -/
def foreignKeyError (table : Toml.Table) (key : String) : Parameter.Error :=
  .invalidDefinition ((textAt? table "name").getD "<unnamed>") (.unknownField key)

/-- Checks the keys of one table. -/
def checkKeys (table : Toml.Table) : Except Parameter.Error Unit :=
  match Text.least? (foreignKeys table) with
  | some key => .error (foreignKeyError table key)
  | none => .ok ()

/-- The tables in the list under `parameters`, where there is such a list. -/
def parameterTables (document : Toml.Table) : List Toml.Table :=
  match document.lookup parametersKey with
  | some (.list items) => items.filterMap Toml.Value.table?
  | _ => []

/-- Reads one item of the list under `parameters`. -/
def parameterOfToml? (item : Toml.Value) : Option Parameter := do
  Parameter.ofCells? (Parameter.cellsOfToml (← item.table?))

/-- The parameters of a document that holds nothing else; `none` if it is not of that form. -/
def parametersOfToml? (document : Toml.Table) : Option (List Parameter) :=
  if document.all fun (key, _) => key == parametersKey then
    match document.lookup parametersKey with
    | none => some []
    | some value => do (← value.list?).mapM parameterOfToml?
  else none

/-- The job of a document, with the keys of its tables looked for in what `plain?` reads from it. -/
def ofToml (plain? : Toml.Value → Option Toml.Value) (document : Toml.Table) :
    Except Parameter.Error Job :=
  match Toml.readEntries? plain? document with
  | some plain => do
    (parameterTables plain).forM checkKeys
    match parametersOfToml? document with
    | some parameters => ofParameters parameters
    | none => .error .jobFile
  | none => .error .jobFile

/-- Reads a job file. -/
def parse (text : String) : Except Parameter.Error Job :=
  match Toml.parse? text with
  | some document => ofToml Toml.Value.plain? document
  | none => .error .jobFile

/-- A job as a JSON object. -/
def toJson (job : Job) : Json :=
  .obj [(parametersKey, .arr (job.parameters.map Parameter.toJson))]

end Job

end CiFront
