import GlslCompliance.Proofs.Requirement.Rules
import GlslCompliance.Proofs.Unit.Run
import Mathlib.Data.List.Forall2

/-!
# The deprecation switches

Two switches of a context decide what is said about a deprecated feature: nothing, a warning or an
error. They decide nothing else. A run with the warnings suppressed has the log of the plain run
without them, and a run in a forward compatible context, whether suppressed or not, has the log of
the plain run with each of these warnings turned into an error about the same feature, entry by
entry (`Diagnostic.Promoted`).
-/

namespace GlslCompliance

/-- The context with deprecated features forbidden, or not, and with the warnings about them
suppressed, or not. -/
def Context.deprecating (ctx : Context) (forward suppress : Bool) : Context :=
  { ctx with
    forwardCompatible := forward
    messages := { ctx.messages with suppressWarnings := suppress } }

namespace Diagnostic

/-- A warning that a feature is deprecated. -/
def isDeprecation (d : Diagnostic) : Bool := d.level == .warning && d.code == "W0101"

/-- The second diagnostic is the first one, or the error for a deprecated feature in the place of
the warning for it. -/
inductive Promoted : Diagnostic → Diagnostic → Prop
  | deprecation (feature : String) (since : UInt32) (location : Location) :
      Promoted
        { level := .warning, code := "W0101", location
          message := feature ++ " deprecated in version " ++ toString since.toNat
            ++ "; may be removed in future release" }
        { level := .error, code := "C0004", location
          message := "'" ++ feature ++ "' : deprecated, may be removed in future release" }
  | other {d : Diagnostic} : d.code ≠ "W0101" → Promoted d d

theorem forall₂_promoted_refl {ds : List Diagnostic} (h : ∀ d ∈ ds, d.code ≠ "W0101") :
    List.Forall₂ Promoted ds ds :=
  List.forall₂_same.mpr fun d hd => .other (h d hd)

theorem filter_isDeprecation_eq_self {ds : List Diagnostic} (h : ∀ d ∈ ds, d.code ≠ "W0101") :
    ds.filter (fun d => !d.isDeprecation) = ds := by
  refine List.filter_eq_self.mpr fun d hd => ?_
  rw [isDeprecation, beq_false_of_ne (h d hd), Bool.and_false, Bool.not_false]

end Diagnostic

open Diagnostic

/-- What is said where the warnings for deprecated features are suppressed. -/
def Suppressed (xs ys : List Diagnostic) : Prop := ys = xs.filter fun d => !d.isDeprecation

theorem isPartwise_suppressed : IsPartwise Suppressed where
  nil := rfl
  append := by
    rintro xs ys xs' ys' h h'
    rw [Suppressed, List.filter_append, h, h']

theorem isPartwise_promoted : IsPartwise (List.Forall₂ Promoted) where
  nil := .nil
  append := fun h h' => List.rel_append h h'

/-! ### One check -/

namespace Check

variable {ctx : Context} {a : Activation} {c : Check}

/-- A check is about a deprecated feature, or the switches have no part in it. -/
theorem isNotDeprecated_or_report_deprecating (c : Check) :
    (∃ profiles since, c.requirement = .notDeprecated profiles since) ∨
      (∀ r ∈ c.requirement.rules, r.code ≠ "W0101") ∧
        ∀ ctx a forward suppress, c.report (Context.deprecating ctx forward suppress) a =
          c.report ctx a := by
  obtain ⟨l, feature, requirement⟩ := c
  -- Only the report on a deprecated feature reads the switches, so the rest is definitional.
  cases requirement with
  | notDeprecated profiles since => exact .inl ⟨profiles, since, rfl⟩
  | _ => exact .inr ⟨by simp [Requirement.rules, Rule.code], fun _ _ _ _ => rfl⟩

/-- Whether a feature counts as deprecated does not depend on the switches. -/
theorem report_deprecating {profiles : ProfileSet} {since : UInt32}
    (h : c.requirement = .notDeprecated profiles since) (forward suppress : Bool) :
    c.report (ctx.deprecating forward suppress) a =
      if profiles.contains ctx.profile && since ≤ ctx.version then
        c.reportDeprecated (ctx.deprecating forward suppress) since
      else [] := by
  rw [report, h]
  rfl

theorem violation_deprecatedFeature (c : Check) :
    c.violation .deprecatedFeature "deprecated, may be removed in future release" "" =
      { level := .error, code := "C0004", location := c.location
        message := "'" ++ c.feature ++ "' : deprecated, may be removed in future release" } := by
  have hreason : "' : deprecated, may be removed in future release" =
      "' : " ++ "deprecated, may be removed in future release" := by decide
  rw [hreason, ← String.append_assoc]
  exact congrArg (Rule.deprecatedFeature.report · c.location) String.append_empty

/-- **One deprecated feature, suppressed.** -/
theorem suppressed_reportDeprecated (since : UInt32) :
    Suppressed (c.reportDeprecated (ctx.deprecating false false) since)
      (c.reportDeprecated (ctx.deprecating false true) since) := rfl

/-- **One deprecated feature, forbidden.** -/
theorem promoted_reportDeprecated (since : UInt32) (suppress : Bool) :
    List.Forall₂ Promoted (c.reportDeprecated (ctx.deprecating false false) since)
      (c.reportDeprecated (ctx.deprecating true suppress) since) := by
  have herror : c.reportDeprecated (ctx.deprecating true suppress) since =
      [c.violation .deprecatedFeature "deprecated, may be removed in future release" ""] := rfl
  rw [herror, violation_deprecatedFeature]
  exact .cons (.deprecation c.feature since c.location) .nil

/-- **One check, suppressed.** -/
theorem suppressed_report (ctx : Context) (a : Activation) (c : Check) :
    Suppressed (c.report (ctx.deprecating false false) a)
      (c.report (ctx.deprecating false true) a) := by
  rcases c.isNotDeprecated_or_report_deprecating with ⟨profiles, since, hr⟩ | ⟨hcode, hsame⟩
  · rw [report_deprecating hr, report_deprecating hr]
    split
    · exact suppressed_reportDeprecated since
    · exact isPartwise_suppressed.nil
  · rw [hsame, hsame, Suppressed, filter_isDeprecation_eq_self]
    exact fun d hd => code_ne_of_mem_report hd hcode

/-- **One check, forward compatible.** -/
theorem promoted_report (ctx : Context) (suppress : Bool) (a : Activation) (c : Check) :
    List.Forall₂ Promoted (c.report (ctx.deprecating false false) a)
      (c.report (ctx.deprecating true suppress) a) := by
  rcases c.isNotDeprecated_or_report_deprecating with ⟨profiles, since, hr⟩ | ⟨hcode, hsame⟩
  · rw [report_deprecating hr, report_deprecating hr]
    split
    · exact promoted_reportDeprecated since suppress
    · exact .nil
  · rw [hsame, hsame]
    exact forall₂_promoted_refl fun d hd => code_ne_of_mem_report hd hcode

end Check

/-! ### Runs -/

/-- No change of the activation speaks of a deprecated feature. -/
theorem deprecationCode_ne_of_mem_write {a : Activation} {w : Write} {d : Diagnostic}
    (hd : d ∈ (a.write w).2) : d.code ≠ "W0101" := by
  have hcode : ∀ r ∈ Activation.changeRules, r.code ≠ "W0101" := by decide
  exact Activation.code_ne_of_mem_write hd hcode

/-- **Suppression over a run** drops the deprecation warnings and changes nothing else. -/
theorem suppressed_reports (ctx : Context) (a : Activation) (es : List Event) :
    Suppressed (Event.reports (ctx.deprecating false false) a es)
      (Event.reports (ctx.deprecating false true) a es) := by
  refine isPartwise_suppressed.reports (fun a w => ?_) (Check.suppressed_report ctx) a es
  exact (filter_isDeprecation_eq_self fun d => deprecationCode_ne_of_mem_write).symm

/-- **Forward compatibility over a run** makes errors of the deprecation warnings, in their places.
-/
theorem promoted_reports (ctx : Context) (suppress : Bool) (a : Activation) (es : List Event) :
    List.Forall₂ Promoted (Event.reports (ctx.deprecating false false) a es)
      (Event.reports (ctx.deprecating true suppress) a es) := by
  refine isPartwise_promoted.reports (fun a w => ?_) (Check.promoted_report ctx suppress) a es
  exact forall₂_promoted_refl fun d => deprecationCode_ne_of_mem_write

namespace CompilationUnit

/-- A fresh unit after some events, under the two switches. -/
def runDeprecating (ctx : Context) (es : List Event) (forward suppress : Bool) : CompilationUnit :=
  (fresh (ctx.deprecating forward suppress)).follow es

/-- **The deprecation switches affect nothing else.** Of four runs of the same events all end with
the same activation. Suppression takes the warnings for deprecated features out of the log, and
forward compatibility turns each into an error at the same place for the same feature, suppressed or
not. -/
theorem runDeprecating_switches (ctx : Context) (es : List Event) :
    (∀ forward suppress, (runDeprecating ctx es forward suppress).activation =
      (runDeprecating ctx es false false).activation) ∧
    (runDeprecating ctx es false true).log.entries =
      (runDeprecating ctx es false false).log.entries.filter (fun d => !d.isDeprecation) ∧
    ∀ suppress, List.Forall₂ Promoted (runDeprecating ctx es false false).log.entries
      (runDeprecating ctx es true suppress).log.entries := by
  have hentries : ∀ forward suppress, (runDeprecating ctx es forward suppress).log.entries =
      Event.reports (ctx.deprecating forward suppress) .initial es :=
    fun forward suppress => entries_fresh_follow (ctx.deprecating forward suppress) es
  refine ⟨fun forward suppress => ?_, ?_, fun suppress => ?_⟩
  · rw [runDeprecating, runDeprecating, activation_follow, activation_follow]
    rfl
  · rw [hentries, hentries]
    exact suppressed_reports ctx .initial es
  · rw [hentries, hentries]
    exact promoted_reports ctx suppress .initial es

example :
    let qualifier : Check := ⟨⟨"main.vert", 4, 1⟩, "attribute", .notDeprecated .all 130⟩
    let codes := fun forward suppress =>
      (runDeprecating { version := 330 } [.use (.feature qualifier)] forward
        suppress).log.entries.map (·.code)
    codes false false = ["W0101"] ∧ codes false true = [] ∧
      codes true false = ["C0004"] ∧ codes true true = ["C0004"] := by
  decide

end CompilationUnit

end GlslCompliance
