import GlslCompliance.Command.Execution
import Mathlib.Logic.ExistsUnique

/-!
# Where the description of a command line comes from

A command line names a file that describes the unit, or it does without. `UnitArguments.Origin` is
the description that it starts from, `UnitArguments.Unloadable` says that the file it names does not
give one, and every command line is of one of the two kinds. With an origin, the answer to a query
is about the unit of the merged description; without one, every query fails in the same way.
-/

namespace GlslCompliance.Command

variable {read : String → Except ReadFailure String} {u : UnitArguments} {c : UnitDescription}

namespace UnitArguments

/-- The description that arguments start from: that in the file if they name one, and else one that
fixes nothing but profile and version. -/
inductive Origin (read : String → Except ReadFailure String) (u : UnitArguments) :
    UnitDescription → Prop
  | file {path text : String} {c : UnitDescription} :
      u.config = some path → read path = .ok text → UnitDescription.ofText text = .ok c →
      Origin read u c
  | standalone :
      u.config = none → Origin read u (.new (u.profile.getD .core) (u.version.getD 450))

/-- The arguments name a file that cannot be read, or that holds no description. -/
inductive Unloadable (read : String → Except ReadFailure String) (u : UnitArguments) : Prop
  | unreadable {path : String} {reason : ReadFailure} :
      u.config = some path → read path = .error reason → Unloadable read u
  | rejected {path text : String} {reason : LoadError} :
      u.config = some path → read path = .ok text → UnitDescription.ofText text = .error reason →
      Unloadable read u

/-- A description with an origin is found there. -/
theorem base_of_origin (h : u.Origin read c) : u.base read = .ok c := by
  cases h with
  | file hconfig hread htext =>
    simp only [base, hconfig, UnitDescription.load, hread, htext]
  | standalone hconfig => rw [base, hconfig]; rfl

theorem base_of_unloadable (h : u.Unloadable read) : ∃ e, u.base read = .error e := by
  cases h with
  | @unreadable path reason hconfig hread =>
    exact ⟨.unreadable path reason, by simp only [base, hconfig, UnitDescription.load, hread]⟩
  | @rejected path text reason hconfig hread htext =>
    exact ⟨reason, by simp only [base, hconfig, UnitDescription.load, hread, htext]⟩

/-- There is one origin at most. -/
theorem Origin.unique {c' : UnitDescription} (h : u.Origin read c) (h' : u.Origin read c') :
    c = c' :=
  Except.ok.inj ((base_of_origin h).symm.trans (base_of_origin h'))

/-- A command line has exactly one description as its origin, or none can be loaded. -/
theorem origin_or_unloadable (read : String → Except ReadFailure String) (u : UnitArguments) :
    (∃! c, u.Origin read c) ∨ u.Unloadable read := by
  have hunique {c : UnitDescription} (h : u.Origin read c) : ∃! c, u.Origin read c :=
    ⟨c, h, fun _ h' => h'.unique h⟩
  rcases hconfig : u.config with _ | path
  · exact .inl (hunique (.standalone hconfig))
  rcases hread : read path with reason | text
  · exact .inr (.unreadable hconfig hread)
  rcases htext : UnitDescription.ofText text with reason | c
  · exact .inr (.rejected hconfig hread htext)
  · exact .inl (hunique (.file hconfig hread htext))

end UnitArguments

/-! ### Outcomes -/

variable {args : List String} {q : Query}

theorem run_of_parse (h : Invocation.parse args = .ok (.ask q u)) :
    run read args = q.execute u read := by
  rw [run, h]
  rfl

/-- The answer is about the unit of the merged description. -/
theorem Query.execute_of_origin (horigin : u.Origin read c) (q : Query) :
    q.execute u read = q.answer (u.merge c).build := by
  rw [execute, UnitArguments.description, UnitArguments.base_of_origin horigin]
  rfl

/-- With a description to start from, the query is answered for the merged one. -/
theorem run_of_origin (h : Invocation.parse args = .ok (.ask q u)) (horigin : u.Origin read c) :
    run read args = q.answer (u.merge c).build := by
  rw [run_of_parse h, Query.execute_of_origin horigin]

/-- Without a description every query fails, and has nothing to say on the standard output. -/
theorem run_of_unloadable (h : Invocation.parse args = .ok (.ask q u))
    (hunloadable : u.Unloadable read) :
    (run read args).exitCode = 1 ∧ (run read args).stdout = "" := by
  obtain ⟨e, he⟩ := UnitArguments.base_of_unloadable hunloadable
  rw [run_of_parse h, Query.execute, UnitArguments.description, he]
  exact ⟨rfl, rfl⟩

end GlslCompliance.Command
