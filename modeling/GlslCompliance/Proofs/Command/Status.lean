import GlslCompliance.Proofs.Command.Origin
import GlslCompliance.Proofs.Unit.Building
import GlslCompliance.Proofs.Unit.RoundTrip

/-!
# The exit status of a query

A query about a unit fails if there is no description of the unit. Otherwise only a check can fail,
and whether it does can be told from the requests: from those of the description and from those on
the command line, as one list. Their order and their number have no part in it, and neither has
anything else that a command line says about the unit or about the form of the answer.
-/

namespace GlslCompliance.Command

/-- Whether a query is a check. -/
def Query.isCheck : Query → Bool
  | preamble => false
  | extensions _ => false
  | checkUnit _ => true

/-- Whether a query exits with a failure when these requests have been made. -/
def Query.FailsOn (q : Query) (rs : List ExtensionRequest) : Prop :=
  q.isCheck = true ∧ ∃ r ∈ rs, r.directive.IsRefused

instance (q : Query) (rs : List ExtensionRequest) : Decidable (q.FailsOn rs) := instDecidableAnd

/-- Which requests there are is all that counts. -/
theorem Query.failsOn_congr {q q' : Query} {rs rs' : List ExtensionRequest}
    (hq : q'.isCheck = q.isCheck) (hrs : ∀ r, r ∈ rs' ↔ r ∈ rs) :
    q'.FailsOn rs' ↔ q.FailsOn rs := by
  rw [FailsOn, FailsOn, hq]
  exact and_congr_right fun _ => exists_congr fun r => and_congr_left fun _ => hrs r

variable {read : String → Except ReadFailure String} {args : List String} {q : Query}
  {u : UnitArguments} {c : UnitDescription}

/-- The status of a unit tells whether one of its requests is refused. -/
theorem status_build (c : UnitDescription) :
    status c.build.log = if ∃ r ∈ c.requests, r.directive.IsRefused then 1 else 0 :=
  if_congr c.hasErrors_build_iff rfl rfl

/-- The answer to a query fails if its requests say so. -/
theorem exitCode_answer (q : Query) (c : UnitDescription) :
    (q.answer c.build).exitCode = if q.FailsOn c.requests then 1 else 0 := by
  have hcheck : status c.build.log = if (Query.checkUnit true).FailsOn c.requests then 1 else 0 :=
    (status_build c).trans (if_congr (and_iff_right rfl).symm rfl rfl)
  cases q with
  | preamble => exact (if_neg fun h => Bool.false_ne_true h.1).symm
  | extensions activeOnly => exact (if_neg fun h => Bool.false_ne_true h.1).symm
  | checkUnit asJson => cases asJson <;> exact hcheck

/-- With a description to start from, its requests and those of the command line decide. -/
theorem exitCode_run_of_origin (h : Invocation.parse args = .ok (.ask q u))
    (horigin : u.Origin read c) :
    (run read args).exitCode = if q.FailsOn (c.requests ++ u.requests) then 1 else 0 := by
  rw [run_of_origin h horigin]
  exact exitCode_answer q (u.merge c)

/-- **The exit status.** Every command line that asks about a unit has one description to start
from, or names a file that gives none. In the second case it exits with status 1, whatever it asks,
and writes nothing to the standard output. In the first it exits with status 1 if it asks for a
check and one of the requests, those of the description and then its own, is refused; and with
status 0 else. Two command lines that both ask for a check, or both for something else, therefore
exit with the same status if they make the same requests, in any order and any number of times. -/
theorem exitCode_run (read : String → Except ReadFailure String)
    (h : Invocation.parse args = .ok (.ask q u)) :
    ((∃! c, u.Origin read c) ∨ u.Unloadable read) ∧
    (u.Unloadable read → (run read args).exitCode = 1 ∧ (run read args).stdout = "") ∧
    (∀ c, u.Origin read c →
      (run read args).exitCode = if q.FailsOn (c.requests ++ u.requests) then 1 else 0) ∧
    ∀ read' args' q' u' c c', Invocation.parse args' = .ok (.ask q' u') →
      u.Origin read c → u'.Origin read' c' → q'.isCheck = q.isCheck →
      (∀ r, r ∈ c'.requests ++ u'.requests ↔ r ∈ c.requests ++ u.requests) →
      (run read' args').exitCode = (run read args).exitCode := by
  refine ⟨u.origin_or_unloadable read, run_of_unloadable h, fun c => exitCode_run_of_origin h, ?_⟩
  intro read' args' q' u' c c' h' horigin horigin' hq hrequests
  rw [exitCode_run_of_origin h horigin, exitCode_run_of_origin h' horigin']
  exact if_congr (Query.failsOn_congr hq hrequests) rfl rfl

/-- A check with a request whose keyword is none of the four; the file is not there, or it describes
a unit. -/
theorem exitCode_run_unknown_keyword :
    let args := ["check-unit", "--config", "unit.json", "-e", "GL_ARB_compute_shader:on"]
    let missing (_ : String) : Except ReadFailure String := .error .notFound
    let there (_ : String) : Except ReadFailure String :=
      .ok (UnitDescription.new .es 300).toJson.render
    ((run missing args).exitCode = 1 ∧ (run missing args).stdout = "") ∧
      (run there args).exitCode = 1 := by
  intro args missing there
  have hparse : Invocation.parse args = .ok (.ask (.checkUnit false)
      { config := some "unit.json", requests := [⟨"GL_ARB_compute_shader", "on"⟩] }) := rfl
  constructor
  · exact (exitCode_run missing hparse).2.1 (.unreadable rfl rfl)
  · have hcode := (exitCode_run there hparse).2.2.1 (.new .es 300)
      (.file rfl rfl (UnitDescription.ofText_render _))
    exact hcode.trans (if_pos (by decide))

end GlslCompliance.Command
