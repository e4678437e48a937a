/-!
# Failures to read a file

Why there is no text to be had from a file.
-/

namespace GlslCompliance

/-- The reason why a file could not be read as text. -/
inductive ReadFailure where
  /-- The operating system refused, with a description and the number of the reason. -/
  | refused (description : String) (number : Nat)
  | nulInPath
  /-- The content is not UTF-8. -/
  | notText
  deriving DecidableEq, Repr

namespace ReadFailure

/-- There is nothing at the path. -/
def notFound : ReadFailure := .refused "No such file or directory" 2

/-- Something on the way is a file. -/
def notDirectory : ReadFailure := .refused "Not a directory" 20

/-- The path leads to a directory. -/
def isDirectory : ReadFailure := .refused "Is a directory" 21

/-- The path, or a name in it, is longer than any can be. -/
def nameTooLong : ReadFailure := .refused "File name too long" 36

/-- The wording of a failure. -/
def message : ReadFailure → String
  | refused description number => description ++ " (os error " ++ toString number ++ ")"
  | nulInPath => "file name contained an unexpected NUL byte"
  | notText => "stream did not contain valid UTF-8"

end ReadFailure

end GlslCompliance
