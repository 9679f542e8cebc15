import CiFront.Json.Writer
import CiFront.Log.Event
/-!
# Log lines

An event is written on a line of its own, either as a JSON object or as text for a reader.
-/

namespace CiFront.Log

namespace Event

/-- The value of a field in a line for a reader. -/
def fieldText : Json → String
  | .str s => s
  | value => value.compact

/-- An event as a JSON object on one line. -/
def jsonLine (event : Event) : String :=
  (Json.obj [("level", .str event.level.name), ("fields", event.body)]).compact

/-- An event as a line for a reader. -/
def plainLine (event : Event) : String :=
  let fields := event.fields.map fun (key, value) => " " ++ key ++ "=" ++ fieldText value
  event.level.name ++ " " ++ event.message ++ String.join fields

end Event

end CiFront.Log
