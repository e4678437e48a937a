import GlslCompliance.Text.Split

/-!
# The words of the command line

The subcommands, the settings, which take a value, and the switches, which take none, with their
names. An `Argument` is one argument as its form alone tells.
-/

namespace GlslCompliance.Command

/-- What the command line can be asked for. -/
inductive Subcommand where
  | preamble
  | extensions
  | checkUnit
  deriving DecidableEq, Repr

namespace Subcommand

/-- All subcommands. -/
def all : List Subcommand := [preamble, extensions, checkUnit]

/-- The name of a subcommand. -/
def name : Subcommand → String
  | preamble => "preamble"
  | extensions => "extensions"
  | checkUnit => "check-unit"

/-- The subcommand of a name. -/
def ofName? (s : String) : Option Subcommand := all.find? fun c => c.name == s

end Subcommand

/-- An option that takes a value; every subcommand has them all. -/
inductive Setting where
  | config
  | profile
  | version
  | stage
  | vulkan
  | openGl
  | spv
  | extension
  deriving DecidableEq, Repr

namespace Setting

/-- All settings. -/
def all : List Setting := [config, profile, version, stage, vulkan, openGl, spv, extension]

/-- The name of a setting. -/
def name : Setting → String
  | config => "config"
  | profile => "profile"
  | version => "glsl-version"
  | stage => "stage"
  | vulkan => "vulkan"
  | openGl => "opengl"
  | spv => "spv"
  | extension => "extension"

/-- The word that stands for the value of a setting. -/
def placeholder : Setting → String
  | config => "FILE"
  | profile => "PROFILE"
  | version => "VERSION"
  | stage => "STAGE"
  | vulkan | openGl | spv => "N"
  | extension => "NAME:BEHAVIOR"

/-- A setting as it is shown in messages. -/
def label (s : Setting) : String := "--" ++ s.name ++ " <" ++ s.placeholder ++ ">"

/-- The setting of a long name. -/
def ofName? (s : String) : Option Setting := all.find? fun o => o.name == s

/-- The setting of a letter. -/
def ofLetter? (c : Char) : Option Setting := if c = 'e' then some extension else none

end Setting

/-- An option that takes no value. -/
inductive Switch where
  | forwardCompatible
  | relaxedErrors
  | suppressWarnings
  | active
  | json
  deriving DecidableEq, Repr

namespace Switch

/-- All switches. -/
def all : List Switch := [forwardCompatible, relaxedErrors, suppressWarnings, active, json]

/-- The name of a switch. -/
def name : Switch → String
  | forwardCompatible => "forward-compatible"
  | relaxedErrors => "relaxed-errors"
  | suppressWarnings => "suppress-warnings"
  | active => "active"
  | json => "json"

/-- Whether a subcommand has a switch. -/
def belongsTo (s : Switch) (c : Subcommand) : Bool :=
  match s with
  | active => c == .extensions
  | json => c == .checkUnit
  | _ => true

/-- The switch of a subcommand with a long name. -/
def ofName? (c : Subcommand) (s : String) : Option Switch :=
  all.find? fun o => o.name == s && o.belongsTo c

end Switch

/-- An argument by its form. -/
inductive Argument where
  /-- The argument `--`, behind which there are no options. -/
  | separator
  /-- An option with a long name, and the value attached to it. -/
  | long (name : String) (value : Option String)
  /-- An option with a letter, and what is attached to it. -/
  | short (letter : Char) (attached : List Char)
  | plain (text : String)
  deriving DecidableEq, Repr

namespace Argument

/-- A long option: the value is what stands behind the first equals sign. -/
def ofLong (cs : List Char) : Argument :=
  match Text.splitFirst? '=' cs with
  | some (name, value) => .long (String.ofList name) (some (String.ofList value))
  | none => .long (String.ofList cs) none

/-- The form of an argument. A lone hyphen is plain. -/
def ofString (s : String) : Argument :=
  match s.toList with
  | ['-', '-'] => .separator
  | '-' :: '-' :: cs => ofLong cs
  | '-' :: c :: cs => .short c cs
  | _ => .plain s

/-- The value attached to a letter; an equals sign in front of it does not belong to it. -/
def attachedValue? : List Char → Option String
  | [] => none
  | '=' :: cs => some (String.ofList cs)
  | cs => some (String.ofList cs)

end Argument

end GlslCompliance.Command
