import GlslCompliance.Proofs.Extension.Refusal
import GlslCompliance.Proofs.Unit.Run

/-!
# Units built from descriptions

To build the unit of a description is a run: each request is a directive, carried out on what the
ones before it have left. So the new unit counts right and is consistent, and whether there is an
error in its log can be told from the requests alone, `UnitDescription.hasErrors_build_iff`.
-/

namespace GlslCompliance

/-- The event that a request is. -/
def ExtensionRequest.event (r : ExtensionRequest) : Event := .change (.directive r.directive)

/-- Requests report an error exactly if one of them is refused, whatever the activation is. -/
theorem Event.errors_reports_requests (ctx : Context) {a : Activation} (h : a.IsListed)
    (rs : List ExtensionRequest) :
    (reports ctx a (rs.map ExtensionRequest.event)).filter Diagnostic.isError = [] ↔
      ∀ r ∈ rs, ¬ r.directive.IsRefused := by
  induction rs generalizing a with
  | nil => exact iff_of_true rfl nofun
  | cons r rs ih =>
    have hrest := ih (Activation.isListed_obey (d := r.directive) h)
    have hfirst := Activation.errors_obey (d := r.directive) h
    rw [List.map_cons, reports, List.filter_append, List.append_eq_nil_iff, List.forall_mem_cons]
    exact and_congr hfirst hrest

namespace UnitDescription

variable (c : UnitDescription)

/-- **Building is a run.** -/
theorem build_eq_follow :
    c.build = (CompilationUnit.fresh c.context).follow (c.requests.map ExtensionRequest.event) := by
  rw [CompilationUnit.follow, List.map_map]
  rfl

theorem entries_build : c.build.log.entries =
    Event.reports c.context .initial (c.requests.map ExtensionRequest.event) := by
  rw [build_eq_follow, CompilationUnit.entries_fresh_follow]

/-- The totals of the new log are right. -/
theorem isCounted_build : c.build.log.IsCounted := by
  rw [build_eq_follow]
  exact CompilationUnit.isCounted_follow _ Log.isCounted_empty _

/-- A unit starts out consistent. -/
theorem consistent_build : c.build.activation.Consistent := by
  rw [build_eq_follow, CompilationUnit.activation_follow]
  exact Activation.consistent_after _

/-- The new unit has an error in its log exactly if one of the requests is refused. -/
theorem hasErrors_build_iff :
    c.build.log.hasErrors = true ↔ ∃ r ∈ c.requests, r.directive.IsRefused := by
  rw [Log.hasErrors_iff c.isCounted_build, entries_build, Ne,
    Event.errors_reports_requests c.context Activation.isListed_initial]
  simp only [Classical.not_forall, Classical.not_not, exists_prop]

end UnitDescription

end GlslCompliance
