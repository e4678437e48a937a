import GlslCompliance.Command.UnitArguments

/-!
# Reading a command line

Arguments are read from left to right. A value that stands in an argument of its own is judged when
the next option is met or the command line ends, so that an argument that does not belong there at
all is reported before an invalid value in front of it.
-/

namespace GlslCompliance.Command

/-- What there is to ask about a unit. -/
inductive Query where
  | preamble
  | extensions (activeOnly : Bool)
  | checkUnit (asJson : Bool)
  deriving DecidableEq, Repr

/-- What a command line asks for. -/
inductive Invocation where
  | help
  | version
  | ask (query : Query) (unit : UnitArguments)
  deriving DecidableEq, Repr

/-- An argument that is an option of a subcommand. -/
inductive Item where
  | setting (s : Setting) (value : Option String)
  | switch (s : Switch)
  | help
  deriving DecidableEq, Repr

namespace Item

/-- The option of a long name. -/
def ofLong (c : Subcommand) (name : String) (value : Option String) : Except UsageError Item :=
  match Setting.ofName? name with
  | some s => .ok (.setting s value)
  | none =>
    let item? :=
      match Switch.ofName? c name with
      | some s => some (Item.switch s)
      | none => if name = "help" then some .help else none
    match item?, value with
    | none, _ => .error (.unknownOption ("--" ++ name))
    | some _, some _ => .error (.valueForSwitch ("--" ++ name))
    | some item, none => .ok item

/-- The option of a letter. -/
def ofShort (letter : Char) (attached : List Char) : Except UsageError Item :=
  match Setting.ofLetter? letter with
  | some s => .ok (.setting s (Argument.attachedValue? attached))
  | none =>
    if letter = 'h' then .ok .help
    else .error (.unknownOption (String.ofList ['-', letter]))

end Item

/-- What has been read of the arguments of a subcommand. -/
structure Reading where
  unit : UnitArguments := {}
  switches : List Switch := []
  /-- The last setting, if its value is still to come or still to be judged. -/
  pending : Option (Setting × Option String) := none
  deriving DecidableEq, Repr

namespace Reading

/-- Judges the value of the last setting. -/
def settle (r : Reading) : Except UsageError Reading :=
  match r.pending with
  | none => .ok r
  | some (s, none) => .error (.missingValue s)
  | some (s, some value) =>
    (r.unit.give s value).map fun unit => { r with unit, pending := none }

/-- Takes a setting, which awaits its value where none is attached. -/
def takeSetting (r : Reading) (s : Setting) : Option String → Except UsageError Reading
  | none => .ok { r with pending := some (s, none) }
  | some value => (r.unit.give s value).map fun unit => { r with unit }

/-- Takes a switch. -/
def takeSwitch (r : Reading) (s : Switch) : Except UsageError Reading :=
  if s ∈ r.switches then .error (.repeatedSwitch ("--" ++ s.name))
  else .ok { r with switches := r.switches ++ [s] }

/-- Takes an argument that is no option: it can only be a value that is awaited. -/
def takePlain (r : Reading) (text : String) : Except UsageError Reading :=
  match r.pending with
  | some (s, none) => .ok { r with pending := some (s, some text) }
  | _ => .error (.unexpectedArgument text)

/-- The unit of the arguments once all are read. -/
def finishUnit (r : Reading) : UnitArguments :=
  { r.unit with
    forwardCompatible := .forwardCompatible ∈ r.switches,
    relaxedErrors := .relaxedErrors ∈ r.switches,
    suppressWarnings := .suppressWarnings ∈ r.switches }

/-- The query of a subcommand once all arguments are read. -/
def query (r : Reading) : Subcommand → Query
  | .preamble => .preamble
  | .extensions => .extensions (.active ∈ r.switches)
  | .checkUnit => .checkUnit (.json ∈ r.switches)

/-- What the arguments ask for when there are no more of them. -/
def finish (r : Reading) (c : Subcommand) : Except UsageError Invocation :=
  r.settle.map fun r => .ask (r.query c) r.finishUnit

/-- Takes an option; `none` where it ends the reading because it asks for help. -/
def takeItem (r : Reading) (item : Item) : Except UsageError (Option Reading) := do
  let r ← r.settle
  match item with
  | .help => return none
  | .setting s value => return some (← r.takeSetting s value)
  | .switch s => return some (← r.takeSwitch s)

/-- Reads the arguments of a subcommand. -/
def readAll (c : Subcommand) (r : Reading) : List String → Except UsageError Invocation
  | [] => r.finish c
  | arg :: args =>
    let takeOption (item : Except UsageError Item) : Except UsageError Invocation := do
      match ← r.takeItem (← item) with
      | none => return .help
      | some r => readAll c r args
    match Argument.ofString arg with
    -- A word that is no option does not settle the value in front of it.
    | .plain text => do readAll c (← r.takePlain text) args
    | .long name value => takeOption (Item.ofLong c name value)
    | .short letter attached => takeOption (Item.ofShort letter attached)
    | .separator =>
      match args with
      | [] => r.finish c
      | text :: _ => .error (.unexpectedArgument text)

end Reading

namespace Invocation

/-- Reads what stands behind the word `help`: nothing, or one thing that there is help about. -/
def ofHelpTopic : List String → Except UsageError Invocation
  | [] => .ok help
  | [topic] =>
    if topic = "help" || (Subcommand.ofName? topic).isSome then .ok help
    else .error (.unknownSubcommand topic)
  | _ :: topic :: _ => .error (.unknownSubcommand topic)

/-- Reads a command line. -/
def parse : List String → Except UsageError Invocation
  | [] => .error .missingSubcommand
  | arg :: args =>
    match Argument.ofString arg with
    | .plain name =>
      match Subcommand.ofName? name with
      | some c => Reading.readAll c {} args
      | none => if name = "help" then ofHelpTopic args else .error (.unknownSubcommand name)
    | .long "help" none | .short 'h' _ => .ok help
    | .long "version" none | .short 'V' _ => .ok version
    | .long .. | .short .. => .error (.unknownOption arg)
    | .separator => .error .missingSubcommand

end Invocation

end GlslCompliance.Command
