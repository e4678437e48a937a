import GlslCompliance.Proofs.Diagnostic.Recovery
import GlslCompliance.Proofs.Json.Schema

/-!
# Reports have the form that is published for them

Tools that read reports rely on a schema, `Log.schema`. All of it holds of every report but for one
thing, which is up to those who report: that a code is one of four letters and four digits
(`Log.accepts_toJson_iff`). The codes of this library are all of this form.
-/

namespace GlslCompliance

open Json (Schema Node)

/-- A letter for the kind of a diagnostic, then four digits. -/
def Diagnostic.codeForm : List (List Char) :=
  ['C', 'P', 'W', 'I'] :: List.replicate 4 ['0', '1', '2', '3', '4', '5', '6', '7', '8', '9']

/-- Whether a code is a letter and four digits. -/
def Diagnostic.hasCodeForm (code : String) : Bool := Schema.matchesForm codeForm code.toList

theorem Rule.hasCodeForm_code (r : Rule) : Diagnostic.hasCodeForm r.code := by
  cases r <;> decide

/-- The form of each member of a diagnostic. -/
def Diagnostic.properties : List (String × Schema) :=
  [("level", .oneOf ["error", "warning", "info"]), ("code", .spelled codeForm),
    ("message", .text), ("file", .text), ("line", .integer 0), ("column", .integer 0),
    ("notes", .array .text), ("help", .text)]

/-- The form of a diagnostic in a report. -/
def Diagnostic.schema : Schema :=
  .object ["level", "code", "message", "file", "line", "column"] properties

/-- The form of a report. -/
def Log.schema : Schema :=
  .object ["diagnostics"] [("diagnostics", .array Diagnostic.schema)]

namespace Diagnostic

variable (d : Diagnostic)

theorem accepts_level (l : Level) :
    Schema.acceptsMember properties "level" (.string l.name) = true := by
  cases l <;> rfl

/-- The notes and the help have the form that is listed for them. -/
theorem acceptsMember_of_mem_remarks {m : String × Node} (h : m ∈ d.remarks) :
    Schema.acceptsMember properties m.1 m.2 = true := by
  rcases List.mem_append.mp h with h | h
  · have hnotes : (Schema.array .text).accepts (.list (d.notes.map .string)) = true := by
      rw [Schema.accepts_array_list, List.all_map]
      exact List.all_eq_true.mpr fun note _ => Schema.accepts_text_string note
    split at h
    · exact nomatch h
    · obtain rfl := List.mem_singleton.mp h
      exact hnotes
  · obtain ⟨help, -, rfl⟩ := List.mem_map.mp h
    exact Schema.accepts_text_string help

/-- A diagnostic has the form of the schema just if its code has the form of codes. -/
theorem accepts_toJson : schema.accepts d.toJson = hasCodeForm d.code := by
  have hrequired : (["level", "code", "message", "file", "line", "column"].all fun key =>
      d.members.any fun m => m.1 == key) = true := rfl
  have hremarks : (d.remarks.all fun m => Schema.acceptsMember properties m.1 m.2) = true :=
    List.all_eq_true.mpr fun m => d.acceptsMember_of_mem_remarks
  have hcode : Schema.acceptsMember properties "code" (.string d.code) = hasCodeForm d.code :=
    Schema.accepts_spelled_string codeForm d.code
  have hmessage : Schema.acceptsMember properties "message" (.string d.message) = true :=
    Schema.accepts_text_string d.message
  have hfile : Schema.acceptsMember properties "file" (.string d.location.file) = true :=
    Schema.accepts_text_string d.location.file
  have hline : Schema.acceptsMember properties "line" (.nat d.location.line) = true :=
    Schema.accepts_integer_nat d.location.line
  have hcolumn : Schema.acceptsMember properties "column" (.nat d.location.column) = true :=
    Schema.accepts_integer_nat d.location.column
  rw [schema, toJson_eq_record, Schema.accepts_object_record, hrequired, Bool.true_and, members,
    List.all_append, hremarks, Bool.and_true]
  simp only [List.all_cons, List.all_nil, accepts_level, hcode, hmessage, hfile, hline, hcolumn,
    Bool.and_true, Bool.true_and]

end Diagnostic

namespace Log

/-- **The form of a report.** A report has the form of the schema just if all its codes have. -/
theorem accepts_toJson_iff (log : Log) :
    schema.accepts log.toJson = true ↔ ∀ d ∈ log.entries, Diagnostic.hasCodeForm d.code = true := by
  rw [schema, toJson, Schema.accepts_object_record]
  simp [Schema.acceptsMember_cons_self, Schema.accepts_array_list, Diagnostic.accepts_toJson]

end Log

end GlslCompliance
