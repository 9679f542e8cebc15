/-!
# Scanning a text from the left

A scan takes a prefix of the text and leaves the rest, or fails. Choice backtracks: the second scan of
`p <|> q` starts where the first one did. Repetition needs no bound, because it ends at the first round
that takes nothing.
-/

namespace CiFront.Text

/-- Takes a prefix of the text and leaves the rest, or fails. -/
abbrev Scan (α : Type) := StateT (List Char) Option α

namespace Scan

/-- Takes one character that satisfies `p`. -/
def satisfy (p : Char → Bool) : Scan Char := fun s =>
  match s with
  | [] => none
  | c :: rest => if p c then some (c, rest) else none

/-- Takes the character `c`. -/
def char (c : Char) : Scan Unit := fun s =>
  match s with
  | [] => none
  | d :: rest => if d = c then some ((), rest) else none

/-- Takes the given word. -/
def word : List Char → Scan Unit
  | [] => pure ()
  | c :: cs => do char c; word cs

/-- Takes the longest prefix of characters that satisfy `p`; it may be empty. -/
def takeWhile (p : Char → Bool) : Scan (List Char) := fun s =>
  some (s.takeWhile p, s.dropWhile p)

/-- Takes the longest prefix of characters that satisfy `p`, at least one. -/
def takeWhile1 (p : Char → Bool) : Scan (List Char) := do
  let c ← satisfy p
  let cs ← takeWhile p
  pure (c :: cs)

/-- Takes exactly `n` characters, each of which satisfies `p`. -/
def count (p : Char → Bool) : Nat → Scan (List Char)
  | 0 => pure []
  | n + 1 => do
    let c ← satisfy p
    let cs ← count p n
    pure (c :: cs)

/-- The next character, which is not taken. -/
def next? : Scan (Option Char) := fun s =>
  some (s.head?, s)

/-- Succeeds only where the text has ended. -/
def atEnd : Scan Unit := fun s =>
  match s with
  | [] => some ((), [])
  | _ :: _ => none

/-- Takes what `p` takes, or nothing. -/
def optional {α : Type} (p : Scan α) : Scan (Option α) := fun s =>
  match p s with
  | some (a, rest) => some (some a, rest)
  | none => some (none, s)

/-- The rounds of `p` up to the first one that fails or takes nothing, and what they leave. -/
def rounds {α : Type} (p : Scan α) (s : List Char) : List α × List Char :=
  match p s with
  | none => ([], s)
  | some (a, rest) =>
    if rest.length < s.length then
      let more := rounds p rest
      (a :: more.1, more.2)
    else ([], s)
termination_by s.length

/-- Repeats `p` as often as it takes something. -/
def many {α : Type} (p : Scan α) : Scan (List α) := fun s =>
  some (rounds p s)

/-- Takes rounds of `p`, each from the state that the last one left, until `finished` holds of the state and
the rest of the text. It fails with the first round that fails or takes nothing. -/
def iterate {σ : Type} (finished : σ → List Char → Bool) (p : σ → Scan σ) (state : σ)
    (s : List Char) : Option (σ × List Char) :=
  if finished state s then some (state, s)
  else match p state s with
    | none => none
    | some (next, rest) => if rest.length < s.length then iterate finished p next rest else none
termination_by s.length

/-- One or more `p`, with `separator` between them. -/
def sepBy1 {α β : Type} (p : Scan α) (separator : Scan β) : Scan (List α) := do
  let first ← p
  let more ← many (do let _ ← separator; p)
  pure (first :: more)

/-- Any number of `p`, with `separator` between them. -/
def sepBy {α β : Type} (p : Scan α) (separator : Scan β) : Scan (List α) :=
  sepBy1 p separator <|> pure []

/-- The value of a scan that takes the whole text. -/
def whole? {α : Type} (p : Scan α) (s : List Char) : Option α :=
  match p s with
  | some (a, []) => some a
  | _ => none

end Scan

end CiFront.Text
