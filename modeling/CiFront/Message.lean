import CiFront.Json.Basic
/-!
# Messages

A message is a key with arguments. It becomes text only when a bundle and a locale are known.
-/

namespace CiFront

/-- A message key with the arguments of its template. -/
structure Message where
  key : String
  args : List String := []
  deriving DecidableEq, Repr

namespace Message

/-- A message as an object; no arguments are left out. -/
def toJson (message : Message) : Json :=
  .obj (("key", .str message.key) ::
    if message.args.isEmpty then [] else [("args", .ofStrs message.args)])

/-- Reads a message: an object with a key and perhaps arguments, or the array of the two. -/
def ofJson? : Json → Option Message
  | .obj members => do
    let key ← (← members.lookup "key").str?
    let args ← match members.lookup "args" with
      | none => some []
      | some args => args.strs?
    pure ⟨key, args⟩
  | .arr [key] => key.str?.map fun key => ⟨key, []⟩
  | .arr [key, args] => do pure ⟨← key.str?, ← args.strs?⟩
  | _ => none

end Message

end CiFront
