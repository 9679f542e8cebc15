import CiFront.Text.Hex
import CiFront.Text.Printable
/-!
# Quoted text

Messages show a rejected token or locale between double quotes. Quotes and backslashes are escaped,
line ends, tabs and the null character have short escapes, and any other character that is not shown
verbatim is written by its code point.
-/

namespace CiFront.Text

/-- How one character is written between the quotes. -/
def quotedChar (c : Char) : List Char :=
  match c with
  | '"' => ['\\', '"']
  | '\\' => ['\\', '\\']
  | '\n' => ['\\', 'n']
  | '\r' => ['\\', 'r']
  | '\t' => ['\\', 't']
  | '\x00' => ['\\', '0']
  | c => if isPrintable c then [c] else '\\' :: 'u' :: '\x7b' :: Hex.digits c.toNat ++ ['\x7d']

/-- The text between double quotes, with escapes. -/
def quoted (s : String) : String :=
  String.ofList ('"' :: s.toList.flatMap quotedChar ++ ['"'])

end CiFront.Text
