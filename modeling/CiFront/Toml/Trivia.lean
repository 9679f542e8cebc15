import CiFront.Text.Scan
/-!
# Blanks, line ends and comments of TOML

Only spaces and tabs are blank within a line. A line ends at a line feed or at a carriage return with one.
A comment holds no control character but the tab.
-/

namespace CiFront.Toml

open Text

/-- The characters that a comment or a string may hold as they are. -/
def isPlain (c : Char) : Bool :=
  c == '\t' || (' ' ≤ c && c != '\x7f')

/-- The blanks within a line. -/
def isLineBlank (c : Char) : Bool :=
  c == ' ' || c == '\t'

/-- Takes the blanks within a line. -/
def lineBlanks : Scan Unit := do
  let _ ← Scan.takeWhile isLineBlank

/-- Takes a line end. -/
def newLine : Scan Unit :=
  Scan.char '\n' <|> Scan.word ['\r', '\n']

/-- Takes a comment up to the end of its line. -/
def comment : Scan Unit := do
  Scan.char '#'
  let _ ← Scan.takeWhile isPlain

/-- Takes what may follow an expression on its line, and the end of the line or of the text. -/
def lineRest : Scan Unit := do
  lineBlanks
  let _ ← Scan.optional comment
  newLine <|> Scan.atEnd

/-- Takes blanks, comments and line ends between the items of a list. -/
def listGap : Scan Unit := do
  lineBlanks
  let _ ← Scan.many do
    let _ ← Scan.optional comment
    newLine
    lineBlanks

end CiFront.Toml
