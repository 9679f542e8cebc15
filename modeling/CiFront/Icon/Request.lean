import CiFront.Text.Blank
/-!
# Requests

An icon is found under the context path of the application and the root of its static resources. Each of
the two becomes a prefix: empty, or a slash and a text without slashes around it.
-/

namespace CiFront.Icon

/-- The text without the slashes around it. -/
def trimSlashes (s : List Char) : List Char :=
  (((s.dropWhile (· == '/')).reverse).dropWhile (· == '/')).reverse

/-- The prefix of a path: without blanks around it, then without slashes around it, and behind one slash
unless nothing is left. -/
def pathStart (s : List Char) : List Char :=
  match trimSlashes (Text.trim s) with
  | [] => []
  | core => '/' :: core

/-- The parts of a request that icon paths start with. -/
structure Request where
  contextPath : String
  resourceRoot : String
  deriving DecidableEq, Repr

namespace Request

/-- The request under a context path and a resource root in any spelling. -/
def of (contextPath resourceRoot : String) : Request where
  contextPath := String.ofList (pathStart contextPath.toList)
  resourceRoot := String.ofList (pathStart resourceRoot.toList)

/-- The path of an image in a size. -/
def imagePath (request : Request) (size image : String) : String :=
  request.contextPath ++ request.resourceRoot ++ "/images/" ++ size ++ "/" ++ image

end Request

end CiFront.Icon
