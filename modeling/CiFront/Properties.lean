import CiFront.Number.Decimal
import CiFront.Text.Blank
import CiFront.Text.Hex
import CiFront.Text.Lines
import CiFront.Text.Utf16
/-!
# Properties texts

A properties text is read in three steps. Its physical lines are gathered into logical lines: blank lines
and comments are passed over, and a line that ends in an odd number of backslashes continues on the next.
A logical line is split at its first unescaped separator into a raw key and a raw value. Both are
unescaped. An entry that cannot be read fails the whole text, at the number of the physical line on which
its logical line starts.
-/

namespace CiFront.Properties

/-! ### Faults -/

/-- What is wrong with an entry; escapes carry the characters that follow the `u`. -/
inductive Fault where
  | badUnicodeEscape (digits : List Char)
  | unpairedSurrogate (digits : List Char)
  | emptyKey
  deriving DecidableEq, Repr

/-- The wording of a fault. -/
def Fault.message : Fault → String
  | badUnicodeEscape digits => "bad unicode escape \\u" ++ String.ofList digits
  | unpairedSurrogate digits => "unpaired surrogate \\u" ++ String.ofList digits
  | emptyKey => "empty key"

/-- A fault and the number of the physical line on which its logical line starts. -/
structure Malformed where
  line : Nat
  fault : Fault
  deriving DecidableEq, Repr

/-- The wording of a malformed text. -/
def Malformed.message (malformed : Malformed) : String :=
  "Malformed properties at line " ++ Decimal.text malformed.line ++ ": " ++ malformed.fault.message

/-! ### Logical lines -/

/-- A line after continuation, with the number of the physical line on which it starts. -/
structure LogicalLine where
  number : Nat
  text : List Char
  deriving DecidableEq, Repr

/-- The number of backslashes at the end of a text. -/
def trailingBackslashes (s : List Char) : Nat :=
  (s.reverse.takeWhile (· == '\\')).length

/-- Whether a text goes on on the next line. -/
def isContinued (s : List Char) : Bool :=
  trailingBackslashes s % 2 == 1

/-- Whether a line without its leading blanks holds no entry. -/
def isPassedOver : List Char → Bool
  | [] => true
  | c :: _ => c == '#' || c == '!'

/-- Gathers physical lines, the first of which has the given number, into logical lines. A logical line
that waits for its continuation comes first, already without the backslash that continues it. -/
def gather : (number : Nat) → (waiting : Option LogicalLine) → List (List Char) → List LogicalLine
  | _, none, [] => []
  | _, some waiting, [] => [waiting]
  | number, none, line :: rest =>
    let text := Text.trimStart line
    if isPassedOver text then gather (number + 1) none rest
    else if isContinued text then gather (number + 1) (some ⟨number, text.dropLast⟩) rest
    else ⟨number, text⟩ :: gather (number + 1) none rest
  | number, some waiting, line :: rest =>
    let text := waiting.text ++ Text.trimStart line
    if isContinued text then gather (number + 1) (some ⟨waiting.number, text.dropLast⟩) rest
    else ⟨waiting.number, text⟩ :: gather (number + 1) none rest

/-- The logical lines of a text. -/
def logicalLines (text : List Char) : List LogicalLine :=
  gather 1 none (Text.lines text)

/-! ### Keys and values -/

/-- What follows the blanks behind a key: at most one separator and the blanks around it are dropped. -/
def afterBlank (s : List Char) : List Char :=
  match Text.trimStart s with
  | [] => []
  | c :: rest => if c = '=' ∨ c = ':' then Text.trimStart rest else c :: rest

/-- Splits a logical line into its raw key and its raw value. A character behind a backslash belongs to
the key, whatever it is. -/
def split : List Char → List Char × List Char
  | [] => ([], [])
  | '\\' :: [] => (['\\'], [])
  | '\\' :: c :: rest => let (key, value) := split rest; ('\\' :: c :: key, value)
  | c :: rest =>
    if c = '=' ∨ c = ':' then ([], Text.trimStart rest)
    else if Text.isBlank c then ([], afterBlank rest)
    else let (key, value) := split rest; (c :: key, value)

/-! ### Escapes -/

/-- The code unit that the four characters behind `\u` stand for. A plus sign may take the place of a
leading zero. -/
def unit? : List Char → Option Nat
  | '+' :: digits => Text.Hex.value? digits
  | digits => Text.Hex.value? digits

/-- What a character behind a backslash stands for, other than `u`. -/
def unescapeChar : Char → Char
  | 'n' => '\n'
  | 't' => '\t'
  | 'r' => '\r'
  | c => c

/-- The text that a raw key or value stands for. -/
def unescape : List Char → Except Fault (List Char)
  | [] => .ok []
  | '\\' :: [] => .ok []
  | '\\' :: 'u' :: a :: b :: c :: d :: rest =>
    match unit? [a, b, c, d] with
    | none => .error (.badUnicodeEscape [a, b, c, d])
    | some unit =>
      if Text.Utf16.isHigh unit then
        match rest with
        | '\\' :: 'u' :: e :: f :: g :: h :: after =>
          match (unit? [e, f, g, h]).filter Text.Utf16.isLow with
          | none => .error (.unpairedSurrogate [a, b, c, d])
          | some low =>
            match Text.Utf16.pair? unit low with
            | none => .error (.badUnicodeEscape [a, b, c, d])
            | some char => (unescape after).map (char :: ·)
        | _ => .error (.unpairedSurrogate [a, b, c, d])
      else
        match Text.Utf16.char? unit with
        | none => .error (.badUnicodeEscape [a, b, c, d])
        | some char => (unescape rest).map (char :: ·)
  | '\\' :: 'u' :: rest => .error (.badUnicodeEscape rest)
  | '\\' :: c :: rest => (unescape rest).map (unescapeChar c :: ·)
  | c :: rest => (unescape rest).map (c :: ·)

/-! ### Entries -/

/-- A key and its value. -/
structure Entry where
  key : List Char
  value : List Char
  deriving DecidableEq, Repr

/-- The entry that a logical line holds. -/
def LogicalLine.entry (line : LogicalLine) : Except Malformed Entry :=
  let (rawKey, rawValue) := split line.text
  match unescape rawKey with
  | .error fault => .error ⟨line.number, fault⟩
  | .ok [] => .error ⟨line.number, .emptyKey⟩
  | .ok (c :: key) =>
    match unescape rawValue with
    | .error fault => .error ⟨line.number, fault⟩
    | .ok value => .ok ⟨c :: key, value⟩

/-- The entries of logical lines, or the fault of the first that has one. -/
def entriesOf : List LogicalLine → Except Malformed (List Entry)
  | [] => .ok []
  | line :: rest =>
    match line.entry with
    | .error malformed => .error malformed
    | .ok entry => (entriesOf rest).map (entry :: ·)

/-- The entries of a properties text, in order. -/
def parse (text : List Char) : Except Malformed (List Entry) :=
  entriesOf (logicalLines text)

end CiFront.Properties
