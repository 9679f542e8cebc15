/-!
# Failures to read

Why the text of a file or of a stream could not be had.
-/

namespace CiFront

/-- Why reading a file or a stream failed. -/
inductive ReadFailure where
  | notFound
  | isDirectory
  | notADirectory
  | nameTooLong
  | notUtf8
  | other (text : String)
  deriving DecidableEq, Repr

/-- The wording of a failure to read. -/
def ReadFailure.message : ReadFailure → String
  | notFound => "No such file or directory (os error 2)"
  | isDirectory => "Is a directory (os error 21)"
  | notADirectory => "Not a directory (os error 20)"
  | nameTooLong => "File name too long (os error 36)"
  | notUtf8 => "stream did not contain valid UTF-8"
  | other text => text

/-- The text that bytes are the UTF-8 form of. -/
def decodeText (bytes : ByteArray) : Except ReadFailure String :=
  match String.fromUTF8? bytes with
  | some text => .ok text
  | none => .error .notUtf8

end CiFront
