import CiFront.Number.Decimal
import CiFront.Text.Blank
/-!
# Message templates

A template is text with groups such as `{0}`, each of which stands for the argument of that number. Text
between single quotes is literal, and two quotes together are one quote character, inside quotes and
outside. A group that names no argument stays as it is, as does one that is never closed; an argument is
inserted as it is and not looked at again.
-/

namespace CiFront.Template

/-- The argument that the inside of a group names. -/
def argument? (args : List (List Char)) (body : List Char) : Option (List Char) :=
  (Decimal.index? (Text.trim body)).bind fun index => args[index]?

/-- What stands in place of a closed group: the argument it names, else the group itself. -/
def group (args : List (List Char)) (body : List Char) : List Char :=
  match argument? args body with
  | some arg => arg
  | none => '{' :: body ++ ['}']

theorem length_dropWhile_le {α : Type} (p : α → Bool) (s : List α) :
    (s.dropWhile p).length ≤ s.length :=
  (List.dropWhile_sublist p).length_le

/-- The text of a template from a point on that is inside quotes or not. -/
def renderFrom (args : List (List Char)) (quoted : Bool) : List Char → List Char
  | [] => []
  | '\'' :: '\'' :: rest => '\'' :: renderFrom args quoted rest
  | '\'' :: rest => renderFrom args (!quoted) rest
  | '{' :: rest =>
    if quoted then '{' :: renderFrom args quoted rest
    else
      match _hclose : rest.dropWhile (· ≠ '}') with
      | [] => '{' :: rest
      | _ :: after => group args (rest.takeWhile (· ≠ '}')) ++ renderFrom args quoted after
  | c :: rest => c :: renderFrom args quoted rest
termination_by template => template.length
decreasing_by
  all_goals simp only [List.length_cons]
  all_goals try omega
  have := length_dropWhile_le (fun c : Char => decide (c ≠ '}')) rest
  rw [_hclose, List.length_cons] at this
  omega

/-- The text of a template with the given arguments. -/
def render (template : String) (args : List String) : String :=
  String.ofList (renderFrom (args.map String.toList) false template.toList)

/-- The text with every single quote doubled. -/
def doubleQuotes (s : List Char) : List Char :=
  s.flatMap fun c => if c = '\'' then ['\'', '\''] else [c]

/-- The template of a text: its quotes are doubled, and from its first brace on it is quoted. -/
def quote (text : String) : String :=
  let s := text.toList
  let plain := s.takeWhile (· ≠ '{')
  let braced := s.dropWhile (· ≠ '{')
  match braced with
  | [] => String.ofList (doubleQuotes plain)
  | braced => String.ofList (doubleQuotes plain ++ '\'' :: doubleQuotes braced ++ ['\''])

end CiFront.Template
