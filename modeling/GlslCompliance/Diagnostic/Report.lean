import GlslCompliance.Diagnostic.Log
import GlslCompliance.Json.Document

/-!
# Diagnostics as JSON

For tools that read diagnostics. A diagnostic is one flat object; a report holds all diagnostics
of a log in their order.
-/

namespace GlslCompliance

open Json (Node)

namespace Diagnostic

/-- The members for the notes and the help, each only if there is something to say. -/
def remarks (d : Diagnostic) : List (String × Node) :=
  (if d.notes.isEmpty then [] else [("notes", .list (d.notes.map .string))])
    ++ d.help.toList.map fun help => ("help", .string help)

/-- A diagnostic as JSON. -/
def toJson (d : Diagnostic) : Node :=
  .record
    ([("level", .string d.level.name), ("code", .string d.code), ("message", .string d.message),
        ("file", .string d.location.file), ("line", .nat d.location.line),
        ("column", .nat d.location.column)] ++ d.remarks)

end Diagnostic

/-- The report on a log as JSON. -/
def Log.toJson (log : Log) : Node :=
  .record [("diagnostics", .list (log.entries.map Diagnostic.toJson))]

end GlslCompliance
