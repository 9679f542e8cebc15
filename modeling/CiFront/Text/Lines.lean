/-!
# Lines of a text

A line ends at a line feed, or at a carriage return that stands directly before one. Neither belongs
to the line. A carriage return anywhere else is an ordinary character, and a text that ends in a line
feed has no empty line after it.
-/

namespace CiFront.Text

/-- The lines of a text, without their line ends. -/
def lines : List Char → List (List Char)
  | [] => []
  | '\n' :: rest => [] :: lines rest
  | '\r' :: '\n' :: rest => [] :: lines rest
  | c :: rest =>
    match lines rest with
    | [] => [[c]]
    | line :: more => (c :: line) :: more

@[simp] theorem lines_nil : lines [] = [] := rfl

@[simp] theorem lines_lineFeed (rest : List Char) : lines ('\n' :: rest) = [] :: lines rest := rfl

end CiFront.Text
