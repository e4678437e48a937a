import GlslCompliance.Diagnostic.Log
import GlslCompliance.Text.Styled

/-!
# Diagnostics as text

Three text forms: one line for a single diagnostic (`plain`), several lines for one (`render`),
with or without colour, and the report of a whole log (`Log.render`) that ends in its totals.
-/

namespace GlslCompliance

open Text (paint)

/-- The style in which a level is written. -/
def Level.style : Level → Text.Style
  | .error => .redBold
  | .warning => .yellowBold
  | .info => .blueBold

namespace Diagnostic

/-- A diagnostic on one line, without notes and help. -/
def plain (d : Diagnostic) : String :=
  d.level.name ++ "[" ++ d.code ++ "]: " ++ d.message ++ " (" ++ d.location.render ++ ")"

/-- A line for each note. -/
def renderNotes (colour : Bool) (notes : List String) : String :=
  String.join (notes.map fun note =>
    " " ++ paint colour .cyanBold "=" ++ " " ++ paint colour .cyan note ++ "\n")

/-- A line for the help, if there is any. -/
def renderHelp (colour : Bool) : Option String → String
  | none => ""
  | some help => " " ++ paint colour .greenBold "help:" ++ " " ++ help ++ "\n"

/-- A diagnostic on several lines: what, where, the notes, the help. -/
def render (d : Diagnostic) (colour : Bool) : String :=
  paint colour d.level.style d.level.name ++ "[" ++ d.code ++ "]: "
    ++ paint colour .bold d.message ++ "\n"
    ++ " " ++ paint colour .cyanBold "-->" ++ " " ++ d.location.render ++ "\n"
    ++ renderNotes colour d.notes ++ renderHelp colour d.help

end Diagnostic

namespace Log

/-- The number of something, in words. -/
def renderTotal (level : Level) (count : Nat) : String :=
  level.name ++ ": " ++ toString count ++ " " ++ level.name
    ++ (if count = 1 then "" else "s") ++ " emitted\n"

/-- The totals of errors, behind an empty line, and of warnings; what did not occur is left out. -/
def renderTotals (log : Log) : String :=
  (if log.errors = 0 then "" else "\n" ++ renderTotal .error log.errors)
    ++ (if log.warnings = 0 then "" else renderTotal .warning log.warnings)

/-- The report of a log: each diagnostic followed by an empty line, then the totals. -/
def render (log : Log) : String :=
  String.join (log.entries.map fun d => d.render false ++ "\n") ++ log.renderTotals

end Log

end GlslCompliance
