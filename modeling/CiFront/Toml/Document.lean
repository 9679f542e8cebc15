import CiFront.Toml.Assembly
import CiFront.Toml.Moment
import CiFront.Toml.Quotation
/-!
# Reading TOML documents

A document is a sequence of lines, each with an entry, a header or nothing, and perhaps a comment. A byte
order mark may stand at its start. Lists and inline tables may be nested, and keys dotted, to fewer than
eighty levels.
-/

namespace CiFront.Toml

open Text

/-- The number of levels that nesting and dotted keys must stay below. -/
def levelLimit : Nat := 80

/-- A dotted key: the path to a table, and a key in it. -/
structure KeyPath where
  path : List String
  key : String

/-- What a line of a document says. -/
inductive Expression where
  | entry (target : KeyPath) (value : Value)
  | table (target : KeyPath)
  | listedTable (target : KeyPath)

/-! ### Keys -/

/-- The characters of a bare key. -/
def isBareKey (c : Char) : Bool :=
  c.isAlphanum || c == '_' || c == '-'

/-- Takes one part of a key, bare or quoted. -/
def simpleKey : Scan String :=
  basicString <|> literalString <|> (do
    let s ← Scan.takeWhile1 isBareKey
    pure (String.ofList s))

/-- Takes a key, with blanks around each of its parts. -/
def keyPath : Scan KeyPath := do
  let part : Scan String := do
    lineBlanks
    let s ← simpleKey
    lineBlanks
    pure s
  let parts ← Scan.sepBy1 part (Scan.char '.')
  match parts.reverse with
  | key :: path => if parts.length < levelLimit then pure ⟨path.reverse, key⟩ else failure
  | [] => failure

/-! ### Values -/

/-- Takes a value that holds no other values. -/
def scalar : Scan Value :=
  (do let s ← string; pure (.text s))
  <|> (do Scan.word "true".toList; pure (.flag true))
  <|> (do Scan.word "false".toList; pure (.flag false))
  <|> moment <|> float <|> integer

/-- Takes a list of values, over several lines and with a comma after the last one if need be. -/
def list (item : Scan Value) : Scan Value := do
  Scan.char '['
  let spaced : Scan Value := do
    listGap
    let value ← item
    listGap
    pure value
  let items ← Scan.sepBy spaced (Scan.char ',')
  if items.isEmpty then pure () else let _ ← Scan.optional (Scan.char ',')
  listGap
  Scan.char ']'
  pure (.list items)

/-- Takes a table in braces, on one line. -/
def inlineTable (item : Scan Value) : Scan Value := do
  Scan.char '\x7b'
  let entry : Scan (KeyPath × Value) := do
    let target ← keyPath
    Scan.char '='
    lineBlanks
    let value ← item
    lineBlanks
    pure (target, value)
  let entries ← Scan.sepBy entry (Scan.char ',')
  lineBlanks
  Scan.char '\x7d'
  let add (draft : Draft) : KeyPath × Value → Option Draft
    | (target, value) => draft.addEntry target.path target.key value
  let draft ← StateT.lift (entries.foldlM add .empty)
  pure (.table (entriesValue draft.entries))

/-- Takes a value in which lists and inline tables are nested to at most `depth` levels. -/
def value : (depth : Nat) → Scan Value
  | 0 => scalar
  | depth + 1 => scalar <|> list (value depth) <|> inlineTable (value depth)

/-! ### Lines -/

/-- Takes an entry up to the end of its line. -/
def entryLine : Scan Expression := do
  let target ← keyPath
  Scan.char '='
  lineBlanks
  let item ← value (levelLimit - 1)
  lineRest
  pure (.entry target item)

/-- Takes a header up to the end of its line. -/
def headerLine : Scan Expression :=
  (do
    Scan.word ['[', '[']
    let target ← keyPath
    Scan.word [']', ']']
    lineRest
    pure (.listedTable target))
  <|> (do
    Scan.char '['
    let target ← keyPath
    Scan.char ']'
    lineRest
    pure (.table target))

/-- Takes a line, and yields what it says if it says something. -/
def line : Scan (Option Expression) := do
  let said ← some <$> headerLine <|> some <$> entryLine
    <|> (do newLine; pure none) <|> (do comment; newLine <|> Scan.atEnd; pure none)
  lineBlanks
  pure said

/-- Takes a whole document. -/
def expressions : Scan (List Expression) := do
  let _ ← Scan.optional (Scan.char '\ufeff')
  lineBlanks
  let lines ← Scan.many line
  Scan.atEnd
  pure (lines.filterMap id)

/-! ### Tables -/

/-- The table that entries go to, by the last header, and all that was read so far. -/
structure Progress where
  current : List String
  root : Draft

/-- Takes in what one line says. -/
def Progress.step (progress : Progress) : Expression → Option Progress
  | .entry target item => do
    let root ← Draft.alter false (Draft.addEntry target.path target.key item) progress.current
      progress.root
    pure ⟨progress.current, root⟩
  | .table target => do
    pure ⟨target.path ++ [target.key], ← progress.root.openTable target.path target.key⟩
  | .listedTable target => do
    pure ⟨target.path ++ [target.key], ← progress.root.openListed target.path target.key⟩

/-- The table that a document holds; `none` if the text is no document. -/
def parse? (text : String) : Option Table := do
  let lines ← Scan.whole? expressions text.toList
  let progress ← lines.foldlM Progress.step ⟨[], .empty⟩
  pure (entriesValue progress.root.entries)

end CiFront.Toml
