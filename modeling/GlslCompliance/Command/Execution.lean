import GlslCompliance.Command.Invocation
import GlslCompliance.Diagnostic.Rendering
import GlslCompliance.Diagnostic.Report
import GlslCompliance.Unit.Compilation

/-!
# Running a command line

What a command line writes and how it exits, given a function that reads files. Nothing else of
the system has a part in it.
-/

namespace GlslCompliance.Command

/-- What has been written, and the exit status. -/
structure Outcome where
  exitCode : UInt32 := 0
  stdout : String := ""
  stderr : String := ""
  deriving DecidableEq, Repr

/-! ### Texts -/

/-- The answer to a question for the version. -/
def versionText : String := "shade 0.2.0\n"

/-- The answer to a question for help. -/
def helpText : String :=
  "Shading-language compliance tools\n\n"
    ++ "Usage: shade <COMMAND> [OPTIONS]\n\n"
    ++ "Commands:\n"
    ++ "  preamble    Print the preprocessor preamble for a unit\n"
    ++ "  extensions  List every recognized extension with its behavior after the requests\n"
    ++ "  check-unit  Apply the extension requests and report the resulting diagnostics\n\n"
    ++ "Options:\n"
    ++ String.join (Setting.all.map fun s => "  " ++ s.label ++ "\n")
    ++ String.join (Switch.all.map fun s => "  --" ++ s.name ++ "\n")

/-- A numbered reason on a line of its own; further lines are indented to the first. -/
def numberedReason (n : Nat) (text : String) : String :=
  let lines := String.ofList (text.toList.flatMap fun c =>
    if c = '\n' then "\n       ".toList else [c])
  "    " ++ toString n ++ ": " ++ lines ++ "\n"

/-- The answer where the description of a unit cannot be loaded. -/
def failureText (path : String) (e : LoadError) : String :=
  "Error: loading unit config " ++ path ++ "\n\nCaused by:\n"
    ++ numberedReason 0 e.message ++ numberedReason 1 e.reason

/-- A name filled up with blanks to 48 characters. -/
def padName (name : String) : String :=
  name ++ String.ofList (List.replicate (48 - name.length) ' ')

/-- The line of an extension in a listing. -/
def listingLine (entry : String × Behavior) : String :=
  padName entry.1 ++ " " ++ entry.2.name ++ "\n"

/-- The listing of all extensions, or of those that are on. -/
def listing (a : Activation) (activeOnly : Bool) : String :=
  String.join ((if activeOnly then a.turnedOn else a.entries).map listingLine)

/-- The line of the requested extensions, if there are any. -/
def requestedLine (a : Activation) : String :=
  if a.requested.isEmpty then ""
  else "requested: " ++ ", ".intercalate a.requested ++ "\n"

/-! ### Outcomes -/

/-- The status of a check: whether there are errors. -/
def status (log : Log) : UInt32 := if log.hasErrors then 1 else 0

/-- The answer to a query about a unit. -/
def Query.answer (u : CompilationUnit) : Query → Outcome
  | .preamble => { stdout := Preamble.render u.preamble, stderr := u.log.render }
  | .extensions activeOnly =>
    { stdout := listing u.activation activeOnly, stderr := u.log.render }
  | .checkUnit false =>
    { exitCode := status u.log, stdout := requestedLine u.activation, stderr := u.log.render }
  | .checkUnit true => { exitCode := status u.log, stdout := u.log.toJson.render ++ "\n" }

/-- The outcome of a query about the unit of some arguments. -/
def Query.execute (q : Query) (unit : UnitArguments)
    (read : String → Except ReadFailure String) : Outcome :=
  match unit.description read with
  | .error e => { exitCode := 1, stderr := failureText (unit.config.getD "") e }
  | .ok d => q.answer d.build

/-- The outcome of what a command line asks for. -/
def Invocation.execute (read : String → Except ReadFailure String) : Invocation → Outcome
  | .help => { stdout := helpText }
  | .version => { stdout := versionText }
  | .ask query unit => query.execute unit read

/-- The outcome of a command line. -/
def run (read : String → Except ReadFailure String) (args : List String) : Outcome :=
  match Invocation.parse args with
  | .error e => { exitCode := 2, stderr := e.render }
  | .ok invocation => invocation.execute read

/-- The path of the file that a command line wants to have read. -/
def configPath? (args : List String) : Option String :=
  match Invocation.parse args with
  | .ok (.ask _ unit) => unit.config
  | _ => none

end GlslCompliance.Command
