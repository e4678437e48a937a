import GlslCompliance.Diagnostic.Report
import GlslCompliance.Proofs.Json.Looking
import GlslCompliance.Proofs.Json.Writing

/-!
# Reports are lossless

A report on a log is read back from its text. The reader knows nothing of how a report is written:
it takes the text apart by the grammar of documents (`Json.parse?`), finds the values by the names
of the members, and fills in what is absent.

* `Diagnostic.ofMembers?` reads one diagnostic from the members of an object, in whatever order they
  stand. Notes and help may be absent, which means that there are none;
* `Log.readEntries?` reads the text of a report;
* `Log.toJson_lossless` says that every report is the text of just one document, of what form
  that is, and that all diagnostics come back from it.
-/

namespace GlslCompliance

open Json (Node valueOf valueOf?)

/-! ### One diagnostic -/

namespace Diagnostic

/-- Reads a diagnostic from the members of an object. -/
def ofMembers? (ms : List (String × Node)) : Option Diagnostic := do
  let level ← valueOf (fun v => v.text?.bind Level.ofName?) ms "level"
  let code ← valueOf Node.text? ms "code"
  let message ← valueOf Node.text? ms "message"
  let file ← valueOf Node.text? ms "file"
  let line ← valueOf Node.natural? ms "line"
  let column ← valueOf Node.natural? ms "column"
  let notes ← valueOf? Node.texts? ms "notes"
  let help ← valueOf? Node.text? ms "help"
  return { level, code, message, location := ⟨file, line, column⟩, notes := notes.getD [], help }

/-- The members that a diagnostic is written with. -/
def members (d : Diagnostic) : List (String × Node) :=
  [("level", .string d.level.name), ("code", .string d.code), ("message", .string d.message),
    ("file", .string d.location.file), ("line", .nat d.location.line),
    ("column", .nat d.location.column)] ++ d.remarks

variable (d : Diagnostic)

theorem toJson_eq_record : d.toJson = .record d.members := rfl

theorem lookup_members_notes : d.members.lookup "notes" =
    if d.notes = [] then none else some (.list (d.notes.map .string)) := by
  obtain ⟨level, code, message, location, notes, help⟩ := d
  cases notes <;> cases help <;> rfl

theorem lookup_members_help : d.members.lookup "help" = d.help.map .string := by
  obtain ⟨level, code, message, location, notes, help⟩ := d
  cases notes <;> cases help <;> rfl

/-- The notes are read back as they were, or as absent where there are none. -/
theorem valueOf?_members_notes :
    valueOf? Node.texts? d.members "notes" =
      some (if d.notes = [] then none else some d.notes) := by
  rw [valueOf?, lookup_members_notes]
  by_cases hnotes : d.notes = []
  · rw [if_pos hnotes, if_pos hnotes]
  · rw [if_neg hnotes, if_neg hnotes]
    exact congrArg (Option.map some) (Node.texts?_list d.notes)

theorem valueOf?_members_help : valueOf? Node.text? d.members "help" = some d.help := by
  rw [valueOf?, lookup_members_help]
  cases d.help <;> rfl

/-- A diagnostic is read back from its members. -/
theorem ofMembers?_members : ofMembers? d.members = some d := by
  have hlevel : valueOf (fun v => v.text?.bind Level.ofName?) d.members "level" = some d.level :=
    Level.ofName?_name d.level
  have hcode : valueOf Node.text? d.members "code" = some d.code := rfl
  have hmessage : valueOf Node.text? d.members "message" = some d.message := rfl
  have hfile : valueOf Node.text? d.members "file" = some d.location.file := rfl
  have hline : valueOf Node.natural? d.members "line" = some d.location.line := rfl
  have hcolumn : valueOf Node.natural? d.members "column" = some d.location.column := rfl
  have hnotes : (if d.notes = [] then none else some d.notes).getD [] = d.notes := by
    split
    · next h => exact h.symm
    · rfl
  simp only [ofMembers?, hlevel, hcode, hmessage, hfile, hline, hcolumn, valueOf?_members_notes,
    valueOf?_members_help, Option.bind_eq_bind, Option.bind_some, hnotes]
  rfl

/-- An object tells a diagnostic: every field is read back from it, and beside the six members that
are always there, it has one for the notes if there are any, and one for the help if there is one,
be it the empty text. -/
structure IsTold (ms : List (String × Node)) (d : Diagnostic) : Prop where
  ofMembers?_eq : ofMembers? ms = some d
  keys : ms.map Prod.fst = ["level", "code", "message", "file", "line", "column"] ++
    ((if d.notes = [] then [] else ["notes"]) ++ if d.help = none then [] else ["help"])

/-- What is written down of a diagnostic tells all of it. -/
theorem isTold_members : IsTold d.members d where
  ofMembers?_eq := d.ofMembers?_members
  keys := by
    obtain ⟨level, code, message, location, notes, help⟩ := d
    cases notes <;> cases help <;> rfl

theorem isProper_remarks : ∀ m ∈ d.remarks, m.2.IsProper := by
  refine List.forall_mem_append.mpr ⟨?_, fun m hm => ?_⟩
  · split
    · exact nofun
    · refine List.forall_mem_singleton.mpr (Node.isProper_list fun v hv => ?_)
      obtain ⟨note, -, rfl⟩ := List.mem_map.mp hv
      exact Node.isProper_string note
  · obtain ⟨help, -, rfl⟩ := List.mem_map.mp hm
    exact Node.isProper_string help

/-- A diagnostic is written as a proper document. -/
theorem isProper_toJson : d.toJson.IsProper := by
  refine Node.isProper_record (List.forall_mem_append.mpr ⟨?_, d.isProper_remarks⟩)
  simp only [List.forall_mem_cons]
  exact ⟨Node.isProper_string _, Node.isProper_string _, Node.isProper_string _,
    Node.isProper_string _, Node.isProper_nat _, Node.isProper_nat _, nofun⟩

end Diagnostic

/-! ### Reports -/

namespace Log

/-- Reads the diagnostics of a report from its text. -/
def readEntries? (text : String) : Option (List Diagnostic) := do
  match (← Json.parse? text).members? with
  | some [("diagnostics", v)] =>
    (← v.items?).mapM fun v => v.members?.bind Diagnostic.ofMembers?
  | _ => none

variable (log : Log)

/-- A report is written as a proper document. -/
theorem isProper_toJson : log.toJson.IsProper := by
  refine Node.isProper_record (List.forall_mem_singleton.mpr (Node.isProper_list fun v hv => ?_))
  obtain ⟨d, -, rfl⟩ := List.mem_map.mp hv
  exact d.isProper_toJson

/-- The text of a report is that of one document alone. -/
theorem isWritten_toJson_iff (v : Node) :
    v.IsWritten log.toJson.render.toList ↔ v = log.toJson := by
  have hwritten : log.toJson.IsWritten log.toJson.render.toList :=
    Node.isWritten_render log.isProper_toJson
  exact ⟨fun hv => Node.eq_of_isWritten hv hwritten, fun h => h ▸ hwritten⟩

/-- The text of a report is read as the document it was made of. -/
theorem parse?_render : Json.parse? log.toJson.render = some log.toJson :=
  Json.parse?_eq_some_iff.mpr ((log.isWritten_toJson_iff _).mpr rfl)

/-- The entries of a report are read back from its text. -/
theorem readEntries?_render : readEntries? log.toJson.render = some log.entries := by
  have hmembers : log.toJson.members? =
      some [("diagnostics", .list (log.entries.map Diagnostic.toJson))] := Node.members?_record _
  have hread : ∀ d : Diagnostic, d.toJson.members?.bind Diagnostic.ofMembers? = some d := by
    intro d
    rw [d.toJson_eq_record, Node.members?_record, Option.bind_some, d.ofMembers?_members]
  have hall : (log.entries.map Diagnostic.toJson).mapM
      (fun v => v.members?.bind Diagnostic.ofMembers?) = some log.entries :=
    Json.mapM_map_eq_some fun d _ => hread d
  simp only [readEntries?, parse?_render, Option.bind_eq_bind, Option.bind_some, hmembers,
    Node.items?_list, hall]

/-- The members of the objects in a report. -/
def objects : List (List (String × Node)) := log.entries.map Diagnostic.members

/-- The one document that the text stands for lists an object for each entry. -/
theorem isWritten_toJson_iff_eq_objects (v : Node) : v.IsWritten log.toJson.render.toList ↔
    v = .record [("diagnostics", .list (log.objects.map .record))] := by
  rw [isWritten_toJson_iff, toJson, objects, List.map_map]
  rfl

/-- Each of these objects tells the entry in its place. -/
theorem forall₂_isTold_objects : List.Forall₂ Diagnostic.IsTold log.objects log.entries :=
  List.forall₂_map_left_iff.mpr (List.forall₂_same.mpr fun d _ => d.isTold_members)

/-- No two lists of diagnostics have the same report. -/
theorem injective_render :
    Function.Injective fun ds : List Diagnostic => (empty.addAll ds).toJson.render := by
  intro ds ds' h
  have hread : ∀ ds : List Diagnostic,
      readEntries? (empty.addAll ds).toJson.render = some ds := fun ds => by
    rw [readEntries?_render, entries_addAll]
    rfl
  have hentries : some ds = some ds' := by
    rw [← hread ds, ← hread ds']
    exact congrArg readEntries? h
  exact Option.some.inj hentries

/-- **Reports are lossless.** The text of a report is strict JSON: it is that of exactly one
document, an object whose only member is an array with one object for each diagnostic in the order
of the log. From these objects all fields are recovered, and so the whole log is recovered from the
text. In particular, no two lists of diagnostics have the same report. -/
theorem toJson_lossless :
    (∀ log : Log,
      (∃ objects : List (List (String × Node)),
        (∀ v : Node, v.IsWritten log.toJson.render.toList ↔
          v = .record [("diagnostics", .list (objects.map .record))]) ∧
        List.Forall₂ Diagnostic.IsTold objects log.entries) ∧
      readEntries? log.toJson.render = some log.entries) ∧
    Function.Injective fun ds : List Diagnostic => (empty.addAll ds).toJson.render := by
  refine ⟨fun log => ⟨⟨log.objects, fun v => ?_, ?_⟩, ?_⟩, injective_render⟩
  · exact log.isWritten_toJson_iff_eq_objects v
  · exact log.forall₂_isTold_objects
  · exact log.readEntries?_render

/-- Without notes there is no member for them; the empty help is kept. -/
example :
    (Diagnostic.toJson ⟨.warning, "W1", "a\n\"", ⟨"é", 0, 2⟩, [], some ""⟩).render =
      "\x7b\"level\":\"warning\",\"code\":\"W1\",\"message\":\"a\\n\\\"\",\"file\":\"é\"," ++
        "\"line\":0,\"column\":2,\"help\":\"\"\x7d" := by
  decide

end Log

end GlslCompliance
