import GlslCompliance.Command.Execution

/-!
# The command line program

Reads the one file that the command line may name, and writes what `Command.run` says.
-/

namespace GlslCompliance.Command

/-- The reason behind an error of the system. -/
def readFailure : IO.Error → ReadFailure
  | .noFileOrDirectory .. => .notFound
  | .inappropriateType _ 21 _ => .isDirectory
  | .inappropriateType .. => .notDirectory
  | .permissionDenied .. => .refused "Permission denied" 13
  | .invalidArgument .. => .nameTooLong
  | e => .refused (toString e) 0

/-- Reads the file at a path as text. -/
def readText (path : String) : IO (Except ReadFailure String) := do
  if path.contains '\x00' then return .error .nulInPath
  match ← (IO.FS.readBinFile path).toBaseIO with
  | .error e => return .error (readFailure e)
  | .ok bytes =>
    match String.fromUTF8? bytes with
    | some text => return .ok text
    | none => return .error .notText

end GlslCompliance.Command

/-- Runs the command line. -/
def main (args : List String) : IO UInt32 := do
  let content ←
    match GlslCompliance.Command.configPath? args with
    | some path => GlslCompliance.Command.readText path
    | none => pure (.error .notFound)
  let outcome := GlslCompliance.Command.run (fun _ => content) args
  (← IO.getStdout).putStr outcome.stdout
  (← IO.getStderr).putStr outcome.stderr
  return outcome.exitCode
