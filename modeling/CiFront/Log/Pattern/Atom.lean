import CiFront.Text.Blank
import CiFront.Text.Hex
import CiFront.Text.Scan
import CiFront.Text.Utf16
/-!
# Modes and atoms of a pattern

An atom is what stands for one character, for a class of characters or for a place in the text. It is
written as a character, or behind a backslash. The mode at an atom decides whether it can be used. Patterns
come without the Unicode tables of classes and of letter cases: where characters are matched, there are no
such classes, no boundaries of words, and no letters of either case. Where bytes are matched, all of these
are those of ASCII, and no byte beyond ASCII may be matched on its own.
-/

namespace CiFront.Log.Pattern

open Text

/-- How a part of a pattern is read. -/
structure Mode where
  /-- Whether blanks and comments between the parts are passed over. -/
  spaced : Bool := false
  /-- Whether letters of either case match. -/
  caseless : Bool := false
  /-- Whether characters are matched, and not bytes. -/
  unicode : Bool := true
  deriving DecidableEq, Repr

/-- What stands for a character, for a class of characters or for a place in the text. -/
inductive Atom where
  /-- A character; one that is written as the number of a byte is marked. -/
  | character (c : Char) (asByte : Bool)
  /-- The class of digits, blanks or word characters, or of all others. -/
  | shorthand (negated : Bool)
  /-- The start or the end of the text. -/
  | edge
  /-- The start or the end of a word, or a place that is neither. -/
  | wordBoundary
  deriving DecidableEq, Repr

namespace Mode

/-- Passes over blanks and comments where the mode allows them. -/
def gap (mode : Mode) : Scan Unit := do
  if mode.spaced then
    let _ ← Scan.many do
      (do let _ ← Scan.satisfy isBlank) <|> (do
        Scan.char '#'
        let _ ← Scan.takeWhile (· ≠ '\n'))

/-- Whether an atom can be used. -/
def allows (mode : Mode) : Atom → Bool
  | .character c asByte =>
    if mode.unicode then !mode.caseless else !asByte || c.toNat < 128
  | .shorthand negated => !mode.unicode && !negated
  | .edge => true
  | .wordBoundary => !mode.unicode

/-- Whether an atom can be used in brackets. -/
def allowsInBrackets (mode : Mode) : Atom → Bool
  | .character c _ => if mode.unicode then !mode.caseless else c.toNat < 128
  | .shorthand negated => mode.allows (.shorthand negated)
  | .edge | .wordBoundary => false

/-- Takes hexadecimal digits, with gaps in front of each. -/
def hexDigits (mode : Mode) : Nat → Scan (List Char)
  | 0 => pure []
  | n + 1 => do
    mode.gap
    let d ← Scan.satisfy fun c => (Hex.digit? c).isSome
    let ds ← mode.hexDigits n
    pure (d :: ds)

/-- Takes the number of a character. -/
def numbered (mode : Mode) (width : Nat) : Scan Char := do
  let ds ← mode.hexDigits width
  StateT.lift ((Hex.value? ds).bind Utf16.char?)

/-- Takes what stands behind a backslash. -/
def escaped (mode : Mode) : Scan Atom := do
  let c ← Scan.satisfy fun _ => true
  match c with
  | 'x' => do pure (.character (← mode.numbered 2) true)
  | 'u' => do pure (.character (← mode.numbered 4) false)
  | 'U' => do pure (.character (← mode.numbered 8) false)
  | 'd' | 's' | 'w' => pure (.shorthand false)
  | 'D' | 'S' | 'W' => pure (.shorthand true)
  | 'a' => pure (.character '\x07' false)
  | 't' => pure (.character '\t' false)
  | 'n' => pure (.character '\n' false)
  | 'v' => pure (.character '\x0b' false)
  | 'f' => pure (.character '\x0c' false)
  | 'r' => pure (.character '\r' false)
  | 'A' | 'z' => pure .edge
  | 'b' | 'B' | '<' | '>' => pure .wordBoundary
  | _ => if c.toNat < 128 && !c.isAlphanum then pure (.character c false) else failure

/-- Takes an atom: what stands behind a backslash, or a character for itself. -/
def atom (mode : Mode) : Scan Atom := do
  let c ← Scan.satisfy fun _ => true
  if c = '\\' then mode.escaped else pure (.character c false)

end Mode

end CiFront.Log.Pattern
