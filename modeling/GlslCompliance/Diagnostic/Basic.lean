/-!
# Diagnostics

A diagnostic is one message about a place in a source, with a severity and a code, and perhaps
with notes and a suggestion. `Rule` lists the codes this library issues by itself; a diagnostic
from elsewhere may carry any code.
-/

namespace GlslCompliance

/-- How severe a diagnostic is. -/
inductive Level where
  | error
  | warning
  /-- A line that follows another diagnostic. -/
  | info
  deriving DecidableEq, Repr

namespace Level

/-- All levels, the most severe first. -/
def all : List Level := [error, warning, info]

/-- The word for a level. -/
def name : Level → String
  | error => "error"
  | warning => "warning"
  | info => "info"

/-- The level of a word. -/
def ofName? (s : String) : Option Level := all.find? fun l => l.name == s

theorem ofName?_name (l : Level) : ofName? l.name = some l := by cases l <;> decide

end Level

/-- A place in a source. -/
structure Location where
  file : String
  line : Nat
  column : Nat
  deriving DecidableEq, Repr

namespace Location

/-- The place of something that arrived without one. -/
def unknown : Location := ⟨"<unknown>", 0, 0⟩

/-- The place of a request that stands in the configuration of a unit. -/
def configuration : Location := ⟨"<config>", 0, 0⟩

/-- The text `file:line:column`. -/
def render (l : Location) : String :=
  l.file ++ ":" ++ toString l.line ++ ":" ++ toString l.column

end Location

/-- One message about one place. -/
structure Diagnostic where
  level : Level
  code : String
  message : String
  location : Location
  notes : List String := []
  help : Option String := none
  deriving DecidableEq, Repr

/-- What this library reports, each with a code of its own. -/
inductive Rule where
  | wrongProfile
  | notAvailable
  | wrongStage
  | deprecatedFeature
  | removedFeature
  | notImplemented
  | unsupportedExtension
  | unknownBehavior
  | wildcardActivation
  | wrongTarget
  | extensionNotRequested
  | directiveExtensionNotRequested
  | deprecationNotice
  | unsupportedExtensionNotice
  | partialSupport
  | extensionInUse
  | extensionCandidate
  deriving DecidableEq, Repr

namespace Rule

/-- The code of a rule: a letter for the severity and four digits. -/
def code : Rule → String
  | wrongProfile => "C0001"
  | notAvailable => "C0002"
  | wrongStage => "C0003"
  | deprecatedFeature => "C0004"
  | removedFeature => "C0005"
  | notImplemented => "C0006"
  | unsupportedExtension => "C0007"
  | unknownBehavior => "C0008"
  | wildcardActivation => "C0009"
  | wrongTarget => "C0010"
  | extensionNotRequested => "C0011"
  | directiveExtensionNotRequested => "P0011"
  | deprecationNotice => "W0101"
  | unsupportedExtensionNotice => "W0102"
  | partialSupport => "W0103"
  | extensionInUse => "W0104"
  | extensionCandidate => "I0101"

/-- The severity of a rule. -/
def level : Rule → Level
  | deprecationNotice | unsupportedExtensionNotice | partialSupport | extensionInUse => .warning
  | extensionCandidate => .info
  | _ => .error

/-- The diagnostic of a rule. -/
def report (r : Rule) (message : String) (location : Location) : Diagnostic :=
  { level := r.level, code := r.code, message, location }

end Rule

namespace Diagnostic

/-- The diagnostic with one more note. -/
def addNote (d : Diagnostic) (note : String) : Diagnostic := { d with notes := d.notes ++ [note] }

end Diagnostic

end GlslCompliance
