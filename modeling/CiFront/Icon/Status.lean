import CiFront.Bundle
import CiFront.Icon.Request
import CiFront.Icon.Size
/-!
# Status icons

A status icon has a description and, unless it is a mere stand-in, an image. The path of an image needs a
request; a stand-in has no path and needs none.
-/

namespace CiFront.Icon

/-- What is shown next to a status. -/
inductive Status where
  | resolving (image : String) (description : Message)
  | nonResolving (description : Message)
  deriving DecidableEq, Repr

namespace Status

/-- The image of an icon, if it has one. -/
def image? : Status → Option String
  | resolving image _ => some image
  | nonResolving _ => none

/-- The description of an icon. -/
def description : Status → Message
  | resolving _ description => description
  | nonResolving description => description

/-- The path of an icon in a size; none for a stand-in. -/
def path? (icon : Status) (request : Option Request) (size : String) :
    Except Error (Option String) :=
  match icon with
  | nonResolving _ => .ok none
  | resolving image _ =>
    match request with
    | some request => .ok (some (request.imagePath size image))
    | none => .error (.noRequest image)

/-- The text of an icon's description for a locale. -/
def describe (icon : Status) (bundle : Bundle) (locale : Locale) : String :=
  bundle.localize icon.description locale

/-- An icon as an object. -/
def toJson : Status → Json
  | resolving image description =>
    .obj [("kind", .str "resolving"), ("image", .str image), ("description", description.toJson)]
  | nonResolving description =>
    .obj [("kind", .str "non_resolving"), ("description", description.toJson)]

/-- Reads an icon: an object that states its kind, or an array of the kind and the kind's parts. -/
def ofJson? : Json → Option Status
  | .obj members => do
    let description := (members.lookup "description").bind Message.ofJson?
    match members.lookup "kind" with
    | some (.str "resolving") =>
      pure (resolving (← (← members.lookup "image").str?) (← description))
    | some (.str "non_resolving") => pure (nonResolving (← description))
    | _ => none
  | .arr [.str "resolving", .str image, description] =>
    (Message.ofJson? description).map (resolving image)
  | .arr [.str "non_resolving", description] => (Message.ofJson? description).map nonResolving
  | _ => none

end Status

end CiFront.Icon
