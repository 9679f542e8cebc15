import CiFront.Json.Basic
import CiFront.Text.Hex
import CiFront.Text.Scan
import CiFront.Text.Utf16
/-!
# Reading JSON

The members of an object are kept in the order of their names by code point, each name once with the
last value given for it. A number beyond the greatest double is refused, as is nesting beyond 127 levels.
-/

namespace CiFront.Json

open Text

/-- The characters that may stand between tokens. -/
def isSpace (c : Char) : Bool :=
  c == ' ' || c == '\t' || c == '\n' || c == '\r'

/-- Takes a token and the space after it. -/
def token {α : Type} (p : Scan α) : Scan α := do
  let a ← p
  let _ ← Scan.takeWhile isSpace
  pure a

/-- The character a letter stands for behind a backslash. -/
def shortEscape? : Char → Option Char
  | '"' => some '"'
  | '\\' => some '\\'
  | '/' => some '/'
  | 'b' => some '\x08'
  | 'f' => some '\x0c'
  | 'n' => some '\n'
  | 'r' => some '\r'
  | 't' => some '\t'
  | _ => none

/-- The rest of a string literal after its opening quote, and what follows the closing one. -/
def stringBody : List Char → Option (List Char × List Char)
  | '"' :: rest => some ([], rest)
  | '\\' :: 'u' :: a :: b :: c :: d :: rest =>
    match Hex.value? [a, b, c, d] with
    | none => none
    | some unit =>
      if Utf16.isHigh unit then
        match rest with
        | '\\' :: 'u' :: e :: f :: g :: h :: after =>
          match (Hex.value? [e, f, g, h]).filter Utf16.isLow with
          | none => none
          | some low =>
            match Utf16.pair? unit low, stringBody after with
            | some char, some (body, left) => some (char :: body, left)
            | _, _ => none
        | _ => none
      else
        match Utf16.char? unit, stringBody rest with
        | some char, some (body, left) => some (char :: body, left)
        | _, _ => none
  | '\\' :: c :: rest =>
    match shortEscape? c, stringBody rest with
    | some char, some (body, left) => some (char :: body, left)
    | _, _ => none
  | c :: rest =>
    if c < ' ' ∨ c = '\\' then none
    else
      match stringBody rest with
      | some (body, left) => some (c :: body, left)
      | none => none
  | [] => none

/-- Takes a string literal. -/
def string : Scan String := do
  Scan.char '"'
  let body ← stringBody
  pure (String.ofList body)

/-- The number a literal stands for, from its sign, its digits before and after the point, and its
exponent; `none` if it lies beyond the greatest double. -/
def number? (negative : Bool) (whole : List Char) (fraction : Option (List Char))
    (exponent : Option Int) : Option Json :=
  let digits := (Decimal.nat? (whole ++ fraction.getD [])).getD 0
  let value : Int := if negative then -digits else digits
  if fraction.isNone ∧ exponent.isNone ∧ Int64.minValue.toInt ≤ value ∧ value < UInt64.size ∧
      ¬(negative ∧ digits = 0) then
    some (int value)
  else
    let power := exponent.getD 0 - (fraction.getD []).length
    (Double.ofDecimal? negative digits power).map real

/-- Takes a number literal. -/
def number : Scan Json := do
  let negative ← Scan.optional (Scan.char '-')
  let whole ← (do Scan.char '0'; pure ['0']) <|> Scan.takeWhile1 Char.isDigit
  let fraction ← Scan.optional (do Scan.char '.'; Scan.takeWhile1 Char.isDigit)
  let exponent ← Scan.optional do
    let _ ← Scan.satisfy fun c => c == 'e' || c == 'E'
    let sign ← Scan.optional (Scan.satisfy fun c => c == '+' || c == '-')
    let digits ← Scan.takeWhile1 Char.isDigit
    let size : Int := (Decimal.nat? digits).getD 0
    pure (if sign = some '-' then -size else size)
  StateT.lift (number? negative.isSome whole fraction exponent)

/-- Adds a member at its place in the order of names, in place of one of the same name. -/
def insertMember (key : String) (value : Json) : List (String × Json) → List (String × Json)
  | [] => [(key, value)]
  | (k, v) :: rest =>
    if key < k then (key, value) :: (k, v) :: rest
    else if key = k then (key, value) :: rest
    else (k, v) :: insertMember key value rest

/-- Takes a value with brackets nested to at most `depth` levels. -/
def value : (depth : Nat) → Scan Json
  | 0 => failure
  | depth + 1 =>
    (do Scan.word "null".toList; pure null)
    <|> (do Scan.word "true".toList; pure (bool true))
    <|> (do Scan.word "false".toList; pure (bool false))
    <|> (do let text ← string; pure (str text))
    <|> (do
      token (Scan.char '[')
      let items ← Scan.sepBy (token (value depth)) (token (Scan.char ','))
      Scan.char ']'
      pure (arr items))
    <|> (do
      token (Scan.char '\x7b')
      let member : Scan (String × Json) := do
        let key ← token string
        token (Scan.char ':')
        let item ← token (value depth)
        pure (key, item)
      let members ← Scan.sepBy member (token (Scan.char ','))
      Scan.char '\x7d'
      pure (obj (members.foldl (fun sorted (key, item) => insertMember key item sorted) [])))
    <|> number

/-- The value that a text holds, with nothing but space around it. -/
def parse? (text : String) : Option Json :=
  Scan.whole? (do let _ ← Scan.takeWhile isSpace; token (value 128)) text.toList

end CiFront.Json
