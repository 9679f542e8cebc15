import CiFront.Json.Basic
import CiFront.Text.Hex
/-!
# JSON text

Compact text has no spaces. Indented text puts every item and member on a line of its own, two spaces
deeper than the brackets around it; an empty array or object stays on one line. In both, only quotes,
backslashes and control characters are escaped.
-/

namespace CiFront.Json

/-- How one character is written in a string. -/
def escapeChar (c : Char) : List Char :=
  match c with
  | '"' => ['\\', '"']
  | '\\' => ['\\', '\\']
  | '\x08' => ['\\', 'b']
  | '\x0c' => ['\\', 'f']
  | '\n' => ['\\', 'n']
  | '\r' => ['\\', 'r']
  | '\t' => ['\\', 't']
  | c => if c < ' ' then '\\' :: 'u' :: Text.Hex.padded 4 c.toNat else [c]

/-- A string literal. -/
def literal (text : String) : List Char :=
  '"' :: text.toList.flatMap escapeChar ++ ['"']

mutual

/-- Text without spaces. -/
def compactChars : Json → List Char
  | null => "null".toList
  | bool flag => if flag then "true".toList else "false".toList
  | int n => Decimal.signedDigits n
  | real x => x.chars
  | str text => literal text
  | arr items => '[' :: compactItems items ++ [']']
  | obj members => '\x7b' :: compactMembers members ++ ['\x7d']

/-- The items of an array, separated by commas. -/
def compactItems : List Json → List Char
  | [] => []
  | [item] => compactChars item
  | item :: rest => compactChars item ++ ',' :: compactItems rest

/-- The members of an object, separated by commas. -/
def compactMembers : List (String × Json) → List Char
  | [] => []
  | [(key, value)] => literal key ++ ':' :: compactChars value
  | (key, value) :: rest => literal key ++ ':' :: compactChars value ++ ',' :: compactMembers rest

end

/-- A line break and the indentation of the given depth. -/
def newLine (depth : Nat) : List Char :=
  '\n' :: List.replicate (2 * depth) ' '

mutual

/-- Text with one item or member a line, inside brackets of the given depth. -/
def indentedChars (depth : Nat) : Json → List Char
  | arr [] => ['[', ']']
  | arr (item :: rest) =>
    '[' :: newLine (depth + 1) ++ indentedChars (depth + 1) item
      ++ indentedItems (depth + 1) rest ++ newLine depth ++ [']']
  | obj [] => ['\x7b', '\x7d']
  | obj ((key, value) :: rest) =>
    '\x7b' :: newLine (depth + 1) ++ literal key ++ ':' :: ' ' :: indentedChars (depth + 1) value
      ++ indentedMembers (depth + 1) rest ++ newLine depth ++ ['\x7d']
  | null => compactChars null
  | bool flag => compactChars (bool flag)
  | int n => compactChars (int n)
  | real x => compactChars (real x)
  | str text => compactChars (str text)

/-- The items after the first, each after a comma and on a line of its own. -/
def indentedItems (depth : Nat) : List Json → List Char
  | [] => []
  | item :: rest => ',' :: newLine depth ++ indentedChars depth item ++ indentedItems depth rest

/-- The members after the first, each after a comma and on a line of its own. -/
def indentedMembers (depth : Nat) : List (String × Json) → List Char
  | [] => []
  | (key, value) :: rest =>
    ',' :: newLine depth ++ literal key ++ ':' :: ' ' :: indentedChars depth value
      ++ indentedMembers depth rest

end

/-- Text without spaces. -/
def compact (value : Json) : String :=
  String.ofList (compactChars value)

/-- Text with one item or member a line. -/
def indented (value : Json) : String :=
  String.ofList (indentedChars 0 value)

end CiFront.Json
