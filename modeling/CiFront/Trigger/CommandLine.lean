import CiFront.Trigger.Basic
/-!
# The command line as a trigger

On the command line at most one parameter takes its token from a reader, normally standard input. The
reader is read to its end, and one line break at the end of the token is dropped. A second reading finds
nothing left.
-/

namespace CiFront

/-- A stream of text: what is left of it, or why it cannot be read, and how often it was read. -/
structure Reader where
  content : Except ReadFailure String
  readings : Nat := 0

namespace Reader

/-- A stream of bytes, which can be read if they are text. -/
def ofBytes (bytes : ByteArray) : Reader where
  content := decodeText bytes

/-- A stream that cannot be read. -/
def broken (failure : ReadFailure) : Reader where
  content := .error failure

/-- Reads a stream to its end. What cannot be read stays unread. -/
def readAll (reader : Reader) : Except ReadFailure String × Reader :=
  (reader.content, ⟨reader.content.map fun _ => "", reader.readings + 1⟩)

end Reader

namespace Trigger

/-- The text without one line feed at its end, and without one carriage return before that. -/
def dropLineBreak (s : List Char) : List Char :=
  match s.reverse with
  | '\n' :: '\r' :: rest => rest.reverse
  | '\n' :: rest => rest.reverse
  | _ => s

/-- Reads the token of a parameter from the reader. -/
def readToken (name : String) : Attempt Reader String := fun reader =>
  match reader.readAll with
  | (.error failure, left) => ⟨.error (.unreadable failure), left, []⟩
  | (.ok text, left) =>
    ⟨.ok (String.ofList (dropLineBreak text.toList)), left, [.readToken name text.utf8ByteSize]⟩

/-- A trigger from the command line, where the named parameter takes its token from the reader. -/
def commandLine (stdinParameter : Option String) : Trigger Reader where
  origin := "cli"
  heldNames := stdinParameter.toList
  pendingToken := fun name =>
    if stdinParameter = some name then some <$> readToken name else pure none

end Trigger

end CiFront
