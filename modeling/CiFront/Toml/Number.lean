import CiFront.Number.Double
import CiFront.Text.Hex
import CiFront.Toml.Value
import CiFront.Toml.Trivia
/-!
# TOML numbers

An integer has 64 bits and may be written in decimal, or without a sign in hexadecimal, octal or binary.
Single underscores may stand between digits. A float has a fraction or an exponent; one so great that no
double is near is refused, unless it is negative.
-/

namespace CiFront.Toml

open Text

/-- Takes digits with single underscores between them, and yields the digits. -/
def digitRun (isDigit : Char → Bool) : Scan (List Char) := do
  let first ← Scan.satisfy isDigit
  let more ← Scan.many do
    let _ ← Scan.optional (Scan.char '_')
    Scan.satisfy isDigit
  pure (first :: more)

/-- Takes a sign, and yields whether it is a minus. -/
def sign : Scan Bool := do
  let mark ← Scan.optional (Scan.satisfy fun c => c == '+' || c == '-')
  pure (mark = some '-')

/-- Takes the digits of a decimal integer: a lone zero, or digits that start with none. -/
def wholeDigits : Scan (List Char) := do
  (do Scan.char '0'; pure ['0']) <|> (do
    let ds ← digitRun Char.isDigit
    if ds.head? = some '0' then failure else pure ds)

/-- An integer if it fits 64 bits. -/
def int64? (n : Int) : Option Value :=
  if Int64.minValue.toInt ≤ n ∧ n ≤ Int64.maxValue.toInt then some (.int n) else none

/-- Takes a decimal integer. -/
def decimalInteger : Scan Value := do
  let negative ← sign
  let ds ← wholeDigits
  let size : Int := (Decimal.nat? ds).getD 0
  StateT.lift (int64? (if negative then -size else size))

/-- Takes the digits of a number whose base its mark names. -/
def markedInteger (mark : Char) (base : Nat) : Scan Value := do
  Scan.word ['0', mark]
  let ds ← digitRun fun c => ((Hex.digit? c).filter (· < base)).isSome
  let size := ds.foldl (fun n c => base * n + (Hex.digit? c).getD 0) 0
  StateT.lift (int64? size)

/-- Takes an integer. -/
def integer : Scan Value :=
  markedInteger 'x' 16 <|> markedInteger 'o' 8 <|> markedInteger 'b' 2 <|> decimalInteger

/-- Takes a scan's text along with its value. -/
def withText {α : Type} (p : Scan α) : Scan (α × String) := fun s =>
  match p s with
  | some (a, rest) => some ((a, String.ofList (s.take (s.length - rest.length))), rest)
  | none => none

/-- Takes an exponent, and yields its value. -/
def exponent : Scan Int := do
  let _ ← Scan.satisfy fun c => c == 'e' || c == 'E'
  let negative ← sign
  let ds ← digitRun Char.isDigit
  let size : Int := (Decimal.nat? ds).getD 0
  pure (if negative then -size else size)

/-- Takes a fraction, and yields its digits. -/
def fraction : Scan (List Char) := do
  Scan.char '.'
  digitRun Char.isDigit

/-- Takes a decimal float; one beyond the greatest double must be negative. -/
def decimalFloat : Scan Unit := do
  let negative ← sign
  let whole ← wholeDigits
  let parts ← (do pure ([], ← exponent)) <|> (do
    let ds ← fraction
    let power ← Scan.optional exponent
    pure (ds, power.getD 0))
  let digits := (Decimal.nat? (whole ++ parts.1)).getD 0
  if negative ∨ (Double.ofDecimal? negative digits (parts.2 - parts.1.length)).isSome then pure ()
  else failure

/-- Takes infinity or the float that is no number. -/
def specialFloat : Scan Unit := do
  let _ ← sign
  Scan.word "inf".toList <|> Scan.word "nan".toList

/-- Takes a float. -/
def float : Scan Value := do
  let (_, written) ← withText (decimalFloat <|> specialFloat)
  pure (.float written)

end CiFront.Toml
