import GlslCompliance.Diagnostic.Basic

/-!
# The log of a unit

Diagnostics in the order in which they were reported, with running totals for the three levels.
-/

namespace GlslCompliance

/-- A list of diagnostics and the number of those at each level. -/
structure Log where
  entries : List Diagnostic := []
  errors : Nat := 0
  warnings : Nat := 0
  infos : Nat := 0
  deriving DecidableEq, Repr

namespace Log

/-- The log with no entry. -/
def empty : Log := {}

/-- Adds a diagnostic at the end and counts it. -/
def add (log : Log) (d : Diagnostic) : Log :=
  let log := { log with entries := log.entries ++ [d] }
  match d.level with
  | .error => { log with errors := log.errors + 1 }
  | .warning => { log with warnings := log.warnings + 1 }
  | .info => { log with infos := log.infos + 1 }

/-- Adds diagnostics one after the other. -/
def addAll (log : Log) (ds : List Diagnostic) : Log := ds.foldl add log

/-- Adds a diagnostic that has neither notes nor help. -/
def message (log : Log) (level : Level) (code text : String) (location : Location) : Log :=
  log.add { level, code, message := text, location }

/-- Whether anything was reported. -/
def hasDiagnostics (log : Log) : Bool := !log.entries.isEmpty

/-- Whether an error was reported. -/
def hasErrors (log : Log) : Bool := log.errors != 0

/-- The diagnostics at one level, in the order of the log. -/
def atLevel (log : Log) (level : Level) : List Diagnostic :=
  log.entries.filter fun d => d.level == level

@[simp] theorem entries_add (log : Log) (d : Diagnostic) :
    (log.add d).entries = log.entries ++ [d] := by
  unfold add; cases d.level <;> rfl

@[simp] theorem entries_addAll (log : Log) (ds : List Diagnostic) :
    (log.addAll ds).entries = log.entries ++ ds := by
  induction ds generalizing log with
  | nil => simp [addAll]
  | cons d ds ih => simpa [addAll] using ih (log.add d)

end Log

end GlslCompliance
