import CiFront.Icon.Status
import CiFront.Text.Case
/-!
# Status balls

A ball has one of seven tones and is animated while a build is running. Its text is the tone's token,
with a suffix if it is animated; reading accepts that text in any letter case with blanks around it.
-/

namespace CiFront.Icon

/-- The tones of balls. -/
inductive Tone where
  | red
  | yellow
  | blue
  | grey
  | disabled
  | aborted
  | notBuilt
  deriving DecidableEq, Repr

namespace Tone

/-- Every tone. -/
def all : List Tone := [red, yellow, blue, grey, disabled, aborted, notBuilt]

/-- The text of a tone. -/
def token : Tone → String
  | red => "red"
  | yellow => "yellow"
  | blue => "blue"
  | grey => "grey"
  | disabled => "disabled"
  | aborted => "aborted"
  | notBuilt => "nobuilt"

/-- The key of the message that describes a still ball of a tone. -/
def messageKey : Tone → String
  | red => "ball.failed"
  | yellow => "ball.unstable"
  | blue => "ball.success"
  | grey => "ball.pending"
  | disabled => "ball.disabled"
  | aborted => "ball.aborted"
  | notBuilt => "ball.not_built"

/-- The colour of a ball that is drawn rather than loaded. -/
def htmlColor : Tone → String
  | red => "#EF2929"
  | yellow => "#FCE94F"
  | blue => "#729FCF"
  | _ => "#ABABAB"

/-- Reads a tone from its token, or from an object with null under its token. -/
def ofJson? (json : Json) : Option Tone :=
  all.find? fun tone => json.names tone.token

end Tone

/-- A status ball. -/
structure Ball where
  tone : Tone
  animated : Bool
  deriving DecidableEq, Repr

namespace Ball

/-- What the text of an animated ball ends in. -/
def animatedSuffix : String := "_anime"

/-- The animated form of a ball. -/
def anime (ball : Ball) : Ball := { ball with animated := true }

/-- The still form of a ball. -/
def noAnime (ball : Ball) : Ball := { ball with animated := false }

/-- The text of a ball. -/
def text (ball : Ball) : String :=
  if ball.animated then ball.tone.token ++ animatedSuffix else ball.tone.token

/-- The file name of a ball's image. -/
def image (ball : Ball) : String :=
  if ball.animated then ball.text ++ ".gif" else ball.text ++ ".png"

/-- The description of a ball: its tone's if it is still, and that a build is running if not. -/
def description (ball : Ball) : Message where
  key := if ball.animated then "ball.in_progress" else ball.tone.messageKey

/-- The icon of a ball. -/
def toStatus (ball : Ball) : Status :=
  .resolving ball.image ball.description

/-- The text before a suffix, if the text ends in it. -/
def beforeSuffix? (ending s : List Char) : Option (List Char) :=
  if ending.isSuffixOf s then some (s.take (s.length - ending.length)) else none

/-- The ball of a text in lower case without blanks around it. -/
def ofFolded? (s : List Char) : Option Ball :=
  let (base, animated) := match beforeSuffix? animatedSuffix.toList s with
    | some base => (base, true)
    | none => (s, false)
  (Tone.all.find? (·.token.toList == base)).map fun tone => ⟨tone, animated⟩

/-- Reads a ball such as `red`, `RED` or `red_anime`. -/
def parse (text : String) : Except Error Ball :=
  match ofFolded? (Text.lower (Text.trim text.toList)) with
  | some ball => .ok ball
  | none => .error (.unknownBall text)

end Ball

end CiFront.Icon
