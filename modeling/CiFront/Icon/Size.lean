import CiFront.Json.Basic
/-!
# Icon sizes and errors

Stock icons come in four sizes, each named by its width and height. A text may name no size or no ball, and
an icon has no path outside of a request.
-/

namespace CiFront.Icon

/-- What can go wrong with an icon. -/
inductive Error where
  | noRequest (image : String)
  | unknownBall (text : String)
  | unknownSize (text : String)
  deriving DecidableEq, Repr

/-- The wording of an error. -/
def Error.message : Error → String
  | noRequest image => "No active request to resolve icon '" ++ image ++ "' against"
  | unknownBall text => "Unknown ball color: " ++ text
  | unknownSize text => "Unknown icon size: " ++ text

/-- The sizes of stock icons. -/
inductive Size where
  | small
  | medium
  | large
  | xLarge
  deriving DecidableEq, Repr

namespace Size

/-- Every size, the smallest first. -/
def all : List Size := [small, medium, large, xLarge]

/-- The name of a size. -/
def name : Size → String
  | small => "16x16"
  | medium => "24x24"
  | large => "32x32"
  | xLarge => "48x48"

/-- Reads the name of a size. -/
def parse (text : String) : Except Error Size :=
  match all.find? (·.name == text) with
  | some size => .ok size
  | none => .error (.unknownSize text)

/-- Reads a size from its name, or from an object with null under its name. -/
def ofJson? (json : Json) : Option Size :=
  all.find? fun size => json.names size.name

end Size

end CiFront.Icon
