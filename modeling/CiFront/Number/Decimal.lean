/-!
# Decimal numbers

Numbers in text are plain decimal digits. A signed 64-bit integer may carry one sign, and the first
character that spoils it decides how the text fails: a character that is no digit, or the digit with
which the number leaves the range.
-/

namespace CiFront.Decimal

/-- The digit of a value below ten. -/
def digitChar (n : Nat) : Char :=
  Char.ofNat ('0'.toNat + n)

/-- The digits of a natural number, without leading zeros. -/
def digits (n : Nat) : List Char :=
  if n < 10 then [digitChar n] else digits (n / 10) ++ [digitChar (n % 10)]
termination_by n

/-- The digits of an integer, after a minus sign if it is negative. -/
def signedDigits (n : Int) : List Char :=
  if n < 0 then '-' :: digits n.natAbs else digits n.natAbs

/-- The decimal text of an integer. -/
def text (n : Int) : String :=
  String.ofList (signedDigits n)

/-- The value of one ASCII digit. -/
def digit? (c : Char) : Option Nat :=
  if '0' ≤ c ∧ c ≤ '9' then some (c.toNat - '0'.toNat) else none

/-- Reads digits on top of the value `n` of the digits before them. -/
def natFrom? : Nat → List Char → Option Nat
  | n, [] => some n
  | n, c :: rest =>
    match digit? c with
    | some d => natFrom? (10 * n + d) rest
    | none => none

/-- The value of a non-empty run of digits; `none` for any other text. -/
def nat? : List Char → Option Nat
  | [] => none
  | s => natFrom? 0 s

/-- The value of a run of digits that may follow one plus sign. -/
def index? : List Char → Option Nat
  | '+' :: rest => nat? rest
  | s => nat? s

/-- Why a text is no signed 64-bit integer. -/
inductive Fault where
  | empty
  | notADigit
  | tooLarge
  | tooSmall
  deriving DecidableEq, Repr

/-- The wording of a fault. -/
def Fault.message : Fault → String
  | .empty => "cannot parse integer from empty string"
  | .notADigit => "invalid digit found in string"
  | .tooLarge => "number too large to fit in target type"
  | .tooSmall => "number too small to fit in target type"

/-- Reads digits on top of `n`, away from zero on the side that `negative` names, and stops at the
first character that is no digit or that takes the number out of the 64-bit range. -/
def readDigits (negative : Bool) : Int → List Char → Except Fault Int64
  | n, [] => .ok (Int64.ofInt n)
  | n, c :: rest =>
    match digit? c with
    | none => .error .notADigit
    | some d =>
      let next := if negative then 10 * n - d else 10 * n + d
      if next < Int64.minValue.toInt then .error .tooSmall
      else if Int64.maxValue.toInt < next then .error .tooLarge
      else readDigits negative next rest

/-- Reads a signed 64-bit integer: at most one sign, then at least one digit. -/
def readInt64 : List Char → Except Fault Int64
  | [] => .error .empty
  | '+' :: [] => .error .notADigit
  | '-' :: [] => .error .notADigit
  | '+' :: rest => readDigits false 0 rest
  | '-' :: rest => readDigits true 0 rest
  | s => readDigits false 0 s

end CiFront.Decimal
