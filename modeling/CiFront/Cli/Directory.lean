import CiFront.ReadFailure
/-!
# Directories

A directory that holds files and no other directories, and what reading at a path relative to it comes to.
-/

namespace CiFront.Cli

/-- A directory of files, each with its name and its bytes. Of two files of one name the last counts. -/
structure Directory where
  files : List (String × ByteArray)

namespace Directory

/-- The greatest number of bytes in a name. -/
def nameLimit : Nat := 255

/-- The names that a path consists of. Repeated slashes count as one, and a slash at the end stands for
the directory itself. -/
def steps (path : List Char) : List String :=
  let parts := path.splitOn '/'
  let trailing := if parts.getLast? = some [] then ["."] else []
  (parts.filter (· ≠ [])).map String.ofList ++ trailing

/-- What reading behind a file comes to: nothing can be found there. -/
def readBehind (bytes : ByteArray) : List String → Except ReadFailure ByteArray
  | [] => .ok bytes
  | _ :: _ => .error .notADirectory

/-- Reads at a path of names. -/
def readSteps (directory : Directory) : List String → Except ReadFailure ByteArray
  | [] => .error .isDirectory
  | "." :: rest => directory.readSteps rest
  | ".." :: rest => if rest.all (· == "..") then .error .isDirectory else .error .notFound
  | name :: rest =>
    if nameLimit < name.utf8ByteSize then .error .nameTooLong
    else match directory.files.reverse.lookup name with
      | some bytes => readBehind bytes rest
      | none => .error .notFound

/-- The bytes of the file at a path. Outside of the directory nothing is found. -/
def bytes (directory : Directory) (path : String) : Except ReadFailure ByteArray :=
  match path.toList with
  | [] => .error .notFound
  | '/' :: rest => if rest.all (· == '/') then .error .isDirectory else .error .notFound
  | c :: rest => directory.readSteps (steps (c :: rest))

/-- The text of the file at a path. -/
def text (directory : Directory) (path : String) : Except ReadFailure String :=
  (directory.bytes path).bind decodeText

end Directory

end CiFront.Cli
