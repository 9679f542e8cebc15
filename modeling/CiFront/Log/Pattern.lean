import CiFront.Log.Pattern.Brackets
import CiFront.Text.Alphanumeric
/-!
# Patterns for the values of fields

A directive about a field with a value gives the value as a number or as a pattern, a regular expression.
Nothing is matched here, so what counts of a pattern is whether it is one. A pattern is read from left to
right: parts that may be repeated, alternatives and groups, whose modes end with them.
-/

namespace CiFront.Log.Pattern

open Text

/-! ### Groups -/

/-- The letters that set a mode. -/
def modeLetters : List Char := ['i', 'm', 's', 'U', 'u', 'R', 'x']

/-- The mode with some of its letters switched. -/
def Mode.switch (mode : Mode) (on off : List Char) : Mode :=
  let switched (letter : Char) (before : Bool) : Bool :=
    (before || on.contains letter) && !off.contains letter
  ⟨switched 'x' mode.spaced, switched 'i' mode.caseless, switched 'u' mode.unicode⟩

/-- What an opening parenthesis starts. -/
inductive Opening where
  /-- A group, perhaps with a name, whose parts have a mode of their own. -/
  | group (mode : Mode) (name : Option String)
  /-- Nothing but a change of mode for the rest of the group around it. -/
  | change (mode : Mode)
  deriving DecidableEq, Repr

/-- Takes the name of a group and the bracket behind it. -/
def groupName : Scan String := do
  let first ← Scan.satisfy fun c => c == '_' || isAlphabetic c
  let more ← Scan.takeWhile fun c => c == '_' || c == '.' || c == '[' || c == ']' || isAlphanumeric c
  Scan.char '>'
  pure (String.ofList (first :: more))

/-- Takes letters that switch modes on, and behind a hyphen others that switch modes off, none twice. -/
def modeChange (mode : Mode) : Scan Opening := do
  let on ← Scan.takeWhile modeLetters.contains
  let off ← Scan.optional do
    Scan.char '-'
    Scan.takeWhile1 modeLetters.contains
  let letters := on ++ off.getD []
  let changed := mode.switch on (off.getD [])
  if letters.eraseDups ≠ letters then failure
  else if (← Scan.next?) = some ':' then do
    Scan.char ':'
    pure (.group changed none)
  else if letters.isEmpty then failure
  else do
    Scan.char ')'
    pure (.change changed)

/-- Takes an opening parenthesis and what belongs to it. -/
def opening (mode : Mode) : Scan Opening := do
  Scan.char '('
  mode.gap
  match ← get with
  | '?' :: 'P' :: '<' :: _ => do
    Scan.word ['?', 'P', '<']
    pure (.group mode (some (← groupName)))
  | '?' :: '<' :: _ => do
    Scan.word ['?', '<']
    pure (.group mode (some (← groupName)))
  | '?' :: _ => do
    Scan.char '?'
    modeChange mode
  | _ => pure (.group mode none)

/-! ### Patterns -/

/-- What counts of the part of a pattern that was read. -/
structure Progress where
  mode : Mode := {}
  /-- The modes around the groups that are open, the innermost first. -/
  around : List Mode := []
  /-- Whether a part stands in front that may be repeated. -/
  repeatable : Bool := false
  /-- The names of groups. -/
  names : List String := []
  deriving DecidableEq, Repr

namespace Progress

/-- Goes on behind a part that may be repeated. -/
def behindPart (progress : Progress) : Progress :=
  { progress with repeatable := true }

/-- Goes on behind an opening parenthesis; no two groups have one name. -/
def enter (progress : Progress) : Opening → Option Progress
  | .change mode => some { progress with mode, repeatable := false }
  | .group mode name =>
    if name.any progress.names.contains then none
    else some
      { mode
        around := progress.mode :: progress.around
        repeatable := false
        names := name.toList ++ progress.names }

/-- Goes on behind a closing parenthesis. -/
def leave (progress : Progress) : Option Progress :=
  match progress.around with
  | mode :: around => some { progress with mode, around, repeatable := true }
  | [] => none

/-- Takes one part of a pattern. Counted repetitions are none of its parts: a field ends at their closing
brace. -/
def part (progress : Progress) : Scan Progress := do
  progress.mode.gap
  match ← Scan.next? with
  | none => pure progress
  | some '(' => do StateT.lift (progress.enter (← opening progress.mode))
  | some ')' => do
    Scan.char ')'
    StateT.lift progress.leave
  | some '|' => do
    Scan.char '|'
    pure { progress with repeatable := false }
  | some '[' => do
    progress.mode.brackets
    pure progress.behindPart
  | some '\x7b' => failure
  | some c => do
    if c = '?' || c = '*' || c = '+' then
      Scan.char c
      let _ ← Scan.optional (Scan.char '?')
      if progress.repeatable then pure progress else failure
    else if c = '^' || c = '$' then
      Scan.char c
      pure progress.behindPart
    else if c = '.' then
      Scan.char c
      if progress.mode.unicode then pure progress.behindPart else failure
    else
      let atom ← progress.mode.atom
      if progress.mode.allows atom then pure progress.behindPart else failure

end Progress

/-- Whether a text is a pattern. -/
def isPattern (s : List Char) : Bool :=
  match Scan.iterate (fun _ rest => rest.isEmpty) Progress.part {} s with
  | some (progress, _) => progress.around.isEmpty
  | none => false

/-! ### Numbers -/

/-- Takes a number: digits with at most one point among them and perhaps an exponent, or the name of a
number that is not finite. -/
def number : Scan Unit := do
  let sign : Scan Unit := do
    let _ ← Scan.optional (Scan.satisfy fun c => c == '+' || c == '-')
  let named : Scan Unit := do
    let name ← Scan.takeWhile1 Char.isAlpha
    if ["inf", "infinity", "nan"].contains (String.ofList (name.map Char.toLower)) then pure ()
    else failure
  let digits : Scan Unit := do
    let whole ← Scan.takeWhile Char.isDigit
    let fraction ← Scan.optional do
      Scan.char '.'
      Scan.takeWhile Char.isDigit
    if whole.isEmpty && (fraction.getD []).isEmpty then failure
    let _ ← Scan.optional do
      let _ ← Scan.satisfy fun c => c == 'e' || c == 'E'
      sign
      Scan.takeWhile1 Char.isDigit
  sign
  named <|> digits

/-- Whether a text is a number. -/
def isNumber (s : List Char) : Bool :=
  (Scan.whole? number s).isSome

end CiFront.Log.Pattern
