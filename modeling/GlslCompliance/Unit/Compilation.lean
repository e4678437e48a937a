import GlslCompliance.Diagnostic.Log
import GlslCompliance.Preamble.Basic
import GlslCompliance.Requirement.Numeric
import GlslCompliance.Unit.Description

/-!
# Compilation units

The state of one unit: its context, which extensions are active, and the log. A run is a list of
steps. Directives change the activation, checks only read it, and both add to the log; the context
stays as it is.
-/

namespace GlslCompliance

/-- The state of a unit. -/
structure CompilationUnit where
  context : Context
  activation : Activation := .initial
  log : Log := {}
  deriving DecidableEq, Repr

/-- What can happen to a unit. -/
inductive Step where
  /-- An `#extension` directive is met. -/
  | directive (d : Directive)
  /-- An extension, or all of them, are given a behavior without a directive. -/
  | assignment (name : String) (behavior : Behavior) (location : Location)
  /-- A feature is used that asks for something. -/
  | check (c : Check)
  /-- A numeric type is used. -/
  | numeric (u : NumericUse)
  /-- A diagnostic arrives from elsewhere. -/
  | message (d : Diagnostic)
  /-- The log is emptied. -/
  | clear
  deriving DecidableEq, Repr

namespace CompilationUnit

/-- The diagnostics of several checks in the present state. -/
def diagnose (u : CompilationUnit) (checks : List Check) : List Diagnostic :=
  Check.reportAll u.context u.activation checks

/-- The unit with more entries in its log. -/
def report (u : CompilationUnit) (ds : List Diagnostic) : CompilationUnit :=
  { u with log := u.log.addAll ds }

/-- The unit after a change of the activation that was reported on. -/
def accept (u : CompilationUnit) (change : Activation × List Diagnostic) : CompilationUnit :=
  { u with activation := change.1 }.report change.2

/-- The unit after one step. -/
def step (u : CompilationUnit) : Step → CompilationUnit
  | .directive d => u.accept (u.activation.obey d)
  | .assignment name behavior location => u.accept (u.activation.assign name behavior location)
  | .check c => u.report (u.diagnose [c])
  | .numeric n => u.report (u.diagnose n.checks)
  | .message d => u.report [d]
  | .clear => { u with log := {} }

/-- The unit after several steps. -/
def run (u : CompilationUnit) (steps : List Step) : CompilationUnit := steps.foldl step u

/-- The preamble of a unit. -/
def preamble (u : CompilationUnit) : List Macro := u.context.preamble

@[simp] theorem run_cons (u : CompilationUnit) (s : Step) (steps : List Step) :
    u.run (s :: steps) = (u.step s).run steps := rfl

theorem run_append (u : CompilationUnit) (first second : List Step) :
    u.run (first ++ second) = (u.run first).run second := List.foldl_append

@[simp] theorem context_step (u : CompilationUnit) (s : Step) :
    (u.step s).context = u.context := by
  cases s <;> rfl

end CompilationUnit

/-- The unit of a description, before any source is seen: a fresh unit after the requests. -/
def UnitDescription.build (d : UnitDescription) : CompilationUnit :=
  CompilationUnit.run { context := d.context } (d.requests.map fun r => .directive r.directive)

end GlslCompliance
