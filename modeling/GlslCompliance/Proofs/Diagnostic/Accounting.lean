import GlslCompliance.Diagnostic.Log

/-!
# Rules and totals

A diagnostic follows a rule if it has the rule's code and severity. A log keeps a running total for
each level; `Log.IsCounted` says that the totals are those of the entries, and whatever is added to
a log keeps it so.
-/

namespace GlslCompliance

namespace Diagnostic

/-- A diagnostic with the code and the severity of a rule. -/
structure Follows (d : Diagnostic) (r : Rule) : Prop where
  level : d.level = r.level
  code : d.code = r.code

/-- Whether a diagnostic is an error. -/
def isError (d : Diagnostic) : Bool := d.level == .error

variable {r : Rule}

theorem Follows.isError_eq {d : Diagnostic} (h : d.Follows r) : d.isError = (r.level == .error) :=
  congrArg (· == Level.error) h.level

/-- Diagnostics by a rule that is no error contain no error. -/
theorem filter_isError_eq_nil {ds : List Diagnostic} (hr : r.level ≠ .error)
    (h : ∀ d ∈ ds, d.Follows r) : ds.filter isError = [] := by
  refine List.filter_eq_nil_iff.mpr fun d hd => ?_
  rw [(h d hd).isError_eq, beq_iff_eq]
  exact hr

end Diagnostic

theorem Rule.follows_report (r : Rule) (message : String) (location : Location) :
    (r.report message location).Follows r := ⟨rfl, rfl⟩

namespace Log

/-- The running totals are the numbers of entries at the three levels. -/
structure IsCounted (log : Log) : Prop where
  errors : log.errors = (log.atLevel .error).length
  warnings : log.warnings = (log.atLevel .warning).length
  infos : log.infos = (log.atLevel .info).length

theorem isCounted_empty : IsCounted {} := ⟨rfl, rfl, rfl⟩

/-- A diagnostic is added to those of its level. -/
theorem atLevel_add (log : Log) (d : Diagnostic) (l : Level) :
    (log.add d).atLevel l = log.atLevel l ++ if d.level = l then [d] else [] := by
  rw [atLevel, entries_add, List.filter_append, atLevel]
  by_cases h : d.level = l <;> simp [h]

/-- **One entry.** The total of its level goes up by one, and the others stay. -/
theorem isCounted_add {log : Log} (h : log.IsCounted) (d : Diagnostic) : (log.add d).IsCounted := by
  obtain ⟨herrors, hwarnings, hinfos⟩ := h
  constructor <;> rw [atLevel_add, add] <;> cases d.level <;> simpa

theorem isCounted_addAll {log : Log} (h : log.IsCounted) (ds : List Diagnostic) :
    (log.addAll ds).IsCounted := by
  induction ds generalizing log with
  | nil => exact h
  | cons d ds ih => exact ih (isCounted_add h d)

/-- What the totals and the questions to a log say about its entries. -/
structure IsAccounted (log : Log) : Prop extends log.IsCounted where
  /-- Every entry is counted once. -/
  total : log.errors + log.warnings + log.infos = log.entries.length
  hasErrors : log.hasErrors = true ↔ ∃ d ∈ log.entries, d.level = .error
  hasDiagnostics : log.hasDiagnostics = true ↔ log.entries ≠ []
  /-- The entries at one level stand in the order of the log, and all of them are there. -/
  atLevel : ∀ l, log.atLevel l = log.entries.filter fun d => d.level == l
  /-- The three levels are all there is. -/
  partition : (Level.all.flatMap log.atLevel).Perm log.entries

/-- Every entry stands at one of the three levels. -/
theorem partition_atLevel (log : Log) : (Level.all.flatMap log.atLevel).Perm log.entries := by
  have herrors := List.filter_append_perm (fun d : Diagnostic => d.level == .error) log.entries
  have hothers := List.filter_append_perm (fun d : Diagnostic => d.level == .warning)
    (log.entries.filter fun d => !(d.level == .error))
  have hwarnings : (log.entries.filter fun d => !(d.level == .error)).filter
      (fun d => d.level == .warning) = log.atLevel .warning := by
    rw [List.filter_filter, atLevel]
    exact List.filter_congr fun d _ => by cases d.level <;> rfl
  have hinfos : (log.entries.filter fun d => !(d.level == .error)).filter
      (fun d => !(d.level == .warning)) = log.atLevel .info := by
    rw [List.filter_filter, atLevel]
    exact List.filter_congr fun d _ => by cases d.level <;> rfl
  rw [hwarnings, hinfos] at hothers
  have hall : Level.all.flatMap log.atLevel =
      log.atLevel .error ++ (log.atLevel .warning ++ log.atLevel .info) := by
    simp [Level.all]
  rw [hall]
  exact (hothers.append_left _).trans herrors

/-- Right totals settle the questions to a log. -/
theorem IsCounted.isAccounted {log : Log} (h : log.IsCounted) : log.IsAccounted where
  toIsCounted := h
  total := by
    have hlength := (partition_atLevel log).length_eq
    rw [List.length_flatMap] at hlength
    rw [h.errors, h.warnings, h.infos, ← hlength]
    simp [Level.all, Nat.add_assoc]
  hasErrors := by
    rw [Log.hasErrors, h.errors, bne_iff_ne, Ne, List.length_eq_zero_iff, Log.atLevel,
      List.filter_eq_nil_iff]
    simp
  hasDiagnostics := by
    rw [Log.hasDiagnostics, Bool.not_eq_true', ← Bool.not_eq_true, List.isEmpty_iff]
  atLevel _ := rfl
  partition := partition_atLevel log

/-- The total of errors tells whether there is one among the entries. -/
theorem hasErrors_iff {log : Log} (h : log.IsCounted) :
    log.hasErrors = true ↔ log.entries.filter Diagnostic.isError ≠ [] := by
  rw [hasErrors, h.errors, bne_iff_ne, Ne, List.length_eq_zero_iff]
  rfl

end Log

end GlslCompliance
