import CiFront.Text.Hex
import CiFront.Text.Utf16
import CiFront.Toml.Trivia
/-!
# TOML strings

A basic string stands between double quotes and knows escapes; a literal string stands between single
quotes and knows none. Either may stand between three quotes instead and then go over several lines: a
line end directly behind the opening quotes does not count, a line end inside is a line feed, and up to
two quotes may stand directly before the closing ones.
-/

namespace CiFront.Toml

open Text

/-- What a character behind a backslash stands for, code points apart. -/
def shortEscape? : Char → Option Char
  | 'b' => some '\x08'
  | 't' => some '\t'
  | 'n' => some '\n'
  | 'f' => some '\x0c'
  | 'r' => some '\r'
  | '"' => some '"'
  | '\\' => some '\\'
  | _ => none

/-- The character whose code point is written with the given digits. -/
def codePoint? (digits : List Char) : Option Char :=
  (Hex.value? digits).bind Utf16.char?

/-- Puts a character in front of the body that was read after it. -/
def prepend (c : Option Char) (body : Option (List Char × List Char)) :
    Option (List Char × List Char) :=
  match c, body with
  | some c, some (s, rest) => some (c :: s, rest)
  | _, _ => none

/-- The body of a one-line basic string, up to its closing quote, and what follows. -/
def basicBody : List Char → Option (List Char × List Char)
  | '"' :: rest => some ([], rest)
  | '\\' :: 'u' :: a :: b :: c :: d :: rest => prepend (codePoint? [a, b, c, d]) (basicBody rest)
  | '\\' :: 'U' :: a :: b :: c :: d :: e :: f :: g :: h :: rest =>
    prepend (codePoint? [a, b, c, d, e, f, g, h]) (basicBody rest)
  | '\\' :: c :: rest => prepend (shortEscape? c) (basicBody rest)
  | c :: rest => if isPlain c ∧ c ≠ '\\' then prepend (some c) (basicBody rest) else none
  | [] => none

/-- Where a scan of a multi-line basic string stands: in its text, behind a backslash that waits for the
end of its line, or behind that line end, where blanks and further line ends do not count. -/
inductive Place where
  | inText
  | beforeBreak
  | afterBreak
  deriving DecidableEq, Repr

/-- The body of a multi-line basic string, up to its closing quotes, and what follows. -/
def multilineBasicBody : Place → List Char → Option (List Char × List Char)
  | .beforeBreak, ' ' :: rest => multilineBasicBody .beforeBreak rest
  | .beforeBreak, '\t' :: rest => multilineBasicBody .beforeBreak rest
  | .beforeBreak, '\n' :: rest => multilineBasicBody .afterBreak rest
  | .beforeBreak, '\r' :: '\n' :: rest => multilineBasicBody .afterBreak rest
  | .beforeBreak, _ => none
  | .afterBreak, ' ' :: rest => multilineBasicBody .afterBreak rest
  | .afterBreak, '\t' :: rest => multilineBasicBody .afterBreak rest
  | .afterBreak, '\n' :: rest => multilineBasicBody .afterBreak rest
  | .afterBreak, '\r' :: '\n' :: rest => multilineBasicBody .afterBreak rest
  | _, '"' :: '"' :: '"' :: '"' :: '"' :: rest => some (['"', '"'], rest)
  | _, '"' :: '"' :: '"' :: '"' :: rest => some (['"'], rest)
  | _, '"' :: '"' :: '"' :: rest => some ([], rest)
  | _, '\\' :: 'u' :: a :: b :: c :: d :: rest =>
    prepend (codePoint? [a, b, c, d]) (multilineBasicBody .inText rest)
  | _, '\\' :: 'U' :: a :: b :: c :: d :: e :: f :: g :: h :: rest =>
    prepend (codePoint? [a, b, c, d, e, f, g, h]) (multilineBasicBody .inText rest)
  | _, '\\' :: ' ' :: rest => multilineBasicBody .beforeBreak rest
  | _, '\\' :: '\t' :: rest => multilineBasicBody .beforeBreak rest
  | _, '\\' :: '\n' :: rest => multilineBasicBody .afterBreak rest
  | _, '\\' :: '\r' :: '\n' :: rest => multilineBasicBody .afterBreak rest
  | _, '\\' :: c :: rest => prepend (shortEscape? c) (multilineBasicBody .inText rest)
  | _, '\r' :: '\n' :: rest => prepend (some '\n') (multilineBasicBody .inText rest)
  | _, c :: rest =>
    if (isPlain c ∧ c ≠ '\\') ∨ c = '\n' then prepend (some c) (multilineBasicBody .inText rest)
    else none
  | _, [] => none

/-- The body of a multi-line literal string, up to its closing quotes, and what follows. -/
def multilineLiteralBody : List Char → Option (List Char × List Char)
  | '\'' :: '\'' :: '\'' :: '\'' :: '\'' :: rest => some (['\'', '\''], rest)
  | '\'' :: '\'' :: '\'' :: '\'' :: rest => some (['\''], rest)
  | '\'' :: '\'' :: '\'' :: rest => some ([], rest)
  | '\r' :: '\n' :: rest => prepend (some '\n') (multilineLiteralBody rest)
  | c :: rest =>
    if isPlain c ∨ c = '\n' then prepend (some c) (multilineLiteralBody rest) else none
  | [] => none

/-- Takes a one-line basic string. -/
def basicString : Scan String := do
  Scan.char '"'
  let body ← basicBody
  pure (String.ofList body)

/-- Takes a one-line literal string. -/
def literalString : Scan String := do
  Scan.char '\''
  let body ← Scan.takeWhile fun c => isPlain c && c != '\''
  Scan.char '\''
  pure (String.ofList body)

/-- Takes a multi-line string that opens with three of the given quotes. -/
def multilineString (quote : Char) (body : List Char → Option (List Char × List Char)) :
    Scan String := do
  Scan.word [quote, quote, quote]
  let _ ← Scan.optional newLine
  let s ← body
  pure (String.ofList s)

/-- Takes a string of any form. -/
def string : Scan String :=
  multilineString '"' (multilineBasicBody .inText) <|> basicString
  <|> multilineString '\'' multilineLiteralBody <|> literalString

end CiFront.Toml
