import CiFront.Log.Pattern.Atom
/-!
# Brackets in a pattern

Brackets hold characters, ranges of characters, named and shorthand classes and brackets, with operators
between them. Hyphens in front stand for themselves, and so does a closing bracket that comes first.
-/

namespace CiFront.Log.Pattern

open Text

namespace Mode

/-- The names of the classes of ASCII characters. -/
def classNames : List String :=
  ["alnum", "alpha", "ascii", "blank", "cntrl", "digit", "graph", "lower", "print", "punct", "space",
    "upper", "word", "xdigit"]

/-- Takes a named class, and yields whether it is negated. -/
def namedClass : Scan Bool := do
  Scan.word ['[', ':']
  let mark ← Scan.optional (Scan.char '^')
  let name ← Scan.takeWhile (· ≠ ':')
  Scan.word [':', ']']
  if classNames.contains (String.ofList name) then pure mark.isSome else failure

/-- Takes what brackets start with, the opening one included. -/
def openBrackets (mode : Mode) : Scan Unit := do
  Scan.char '['
  mode.gap
  if (← Scan.next?) = some '^' then
    Scan.char '^'
    if mode.unicode then mode.gap else failure
  let hyphens ← Scan.many do
    Scan.char '-'
    mode.gap
  if hyphens.isEmpty && (← Scan.next?) ≠ some ']' then pure ()
  else if !mode.allowsInBrackets (.character '-' false) then failure
  else if hyphens.isEmpty then
    Scan.char ']'
    mode.gap

/-- Whether the text goes on with a hyphen that makes a range. -/
def joins (mode : Mode) (s : List Char) : Bool :=
  match s with
  | '-' :: rest =>
    match mode.gap rest with
    | some (_, c :: _) => c ≠ ']' && c ≠ '-'
    | _ => false
  | _ => false

/-- Takes an atom in brackets, or a range between two characters. -/
def range (mode : Mode) : Scan Unit := do
  let first ← mode.atom
  mode.gap
  if !mode.allowsInBrackets first then failure
  if mode.joins (← get) then
    Scan.char '-'
    mode.gap
    match first, ← mode.atom with
    | .character low _, .character high asByte =>
      if low ≤ high && mode.allowsInBrackets (.character high asByte) then pure () else failure
    | _, _ => failure

/-- Takes one part of what stands in brackets, where `depth` of them are open, and yields how many are open
behind it. -/
def bracketed (mode : Mode) (depth : Nat) : Scan Nat := do
  mode.gap
  match ← get with
  | '[' :: _ =>
    match ← Scan.optional namedClass with
    | some negated =>
      if if mode.unicode then !mode.caseless else !negated then pure depth else failure
    | none => do mode.openBrackets; pure (depth + 1)
  | ']' :: _ => do Scan.char ']'; pure (depth - 1)
  | '&' :: '&' :: _ => do Scan.word ['&', '&']; pure depth
  | '-' :: '-' :: _ => do Scan.word ['-', '-']; pure depth
  | '~' :: '~' :: _ => do Scan.word ['~', '~']; pure depth
  | _ => do mode.range; pure depth

/-- Takes brackets. -/
def brackets (mode : Mode) : Scan Unit := do
  mode.openBrackets
  let _ ← Scan.iterate (fun depth _ => depth == 0) mode.bracketed 1

end Mode

end CiFront.Log.Pattern
