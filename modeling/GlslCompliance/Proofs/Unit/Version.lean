import GlslCompliance.Proofs.Requirement.Rules
import GlslCompliance.Proofs.Unit.Run

/-!
# Versions of the language

The same events are run in two contexts that differ in the version alone. From the earlier version
to the later one

* a feature that was not available yet may have become available, so these errors can only vanish;
* a feature may have become deprecated or may be gone, so the diagnostics on these can only appear;
* nothing else depends on the version. A feature that is available without any extension still says
  which extensions with a warning it could use.

`Outgrown` is this relation between two lists of diagnostics. It is shown of one check by the kind
of its requirement, three of which look at the version, and carried over to runs.
-/

namespace GlslCompliance

/-- The context with another version. -/
def Context.atVersion (ctx : Context) (version : UInt32) : Context := { ctx with version }

namespace Diagnostic

/-- An error that a feature is not available, which a later version may make good. -/
def isPremature (d : Diagnostic) : Bool := d.code == "C0002"

/-- A diagnostic on a feature that is deprecated or gone, which a later version may add. -/
def isOutdated (d : Diagnostic) : Bool := ["C0004", "W0101", "C0005"].contains d.code

/-- A diagnostic in which no version has a part. -/
def isTimeless (d : Diagnostic) : Bool := !d.isPremature && !d.isOutdated

/-- What is reported in an earlier and in a later version. -/
structure Outgrown (xs ys : List Diagnostic) : Prop where
  premature : (ys.filter isPremature).Sublist (xs.filter isPremature)
  outdated : (xs.filter isOutdated).Sublist (ys.filter isOutdated)
  timeless : xs.filter isTimeless = ys.filter isTimeless

variable {xs ys : List Diagnostic}

theorem Outgrown.refl (xs : List Diagnostic) : Outgrown xs xs := ⟨.refl _, .refl _, rfl⟩

theorem isPartwise_outgrown : IsPartwise Outgrown where
  nil := .refl []
  append := by
    intro xs ys xs' ys' h h'
    constructor
    · rw [List.filter_append, List.filter_append]
      exact h.premature.append h'.premature
    · rw [List.filter_append, List.filter_append]
      exact h.outdated.append h'.outdated
    · rw [List.filter_append, List.filter_append, h.timeless, h'.timeless]

/-- Errors that a feature is not available may vanish. -/
theorem outgrown_of_premature (h : ys.Sublist xs) (hxs : ∀ d ∈ xs, d.code = "C0002") :
    Outgrown xs ys := by
  have hnone : ∀ zs : List Diagnostic, (∀ d ∈ zs, d.code = "C0002") →
      zs.filter isOutdated = [] ∧ zs.filter isTimeless = [] := by
    intro zs hzs
    refine ⟨List.filter_eq_nil_iff.mpr fun d hd => ?_, List.filter_eq_nil_iff.mpr fun d hd => ?_⟩
    · rw [isOutdated, hzs d hd]
      decide
    · rw [isTimeless, isPremature, isOutdated, hzs d hd]
      decide
  have hys : ∀ d ∈ ys, d.code = "C0002" := fun d hd => hxs d (h.subset hd)
  refine ⟨h.filter _, ?_, ?_⟩
  · rw [(hnone xs hxs).1]
    exact List.nil_sublist _
  · rw [(hnone xs hxs).2, (hnone ys hys).2]

/-- Diagnostics on features that are deprecated or gone may appear. -/
theorem outgrown_of_outdated (h : xs.Sublist ys) (hys : ∀ d ∈ ys, d.isOutdated) :
    Outgrown xs ys := by
  have hnone : ∀ zs : List Diagnostic, (∀ d ∈ zs, d.isOutdated) →
      zs.filter isPremature = [] ∧ zs.filter isTimeless = [] := by
    intro zs hzs
    refine ⟨List.filter_eq_nil_iff.mpr fun d hd hc => ?_, List.filter_eq_nil_iff.mpr fun d hd => ?_⟩
    · have houtdated := hzs d hd
      rw [isPremature, beq_iff_eq] at hc
      rw [isOutdated, hc] at houtdated
      exact absurd houtdated (by decide)
    · rw [isTimeless, hzs d hd, Bool.not_true, Bool.and_false]
      exact Bool.false_ne_true
  have hxs : ∀ d ∈ xs, d.isOutdated := fun d hd => hys d (h.subset hd)
  refine ⟨?_, h.filter _, ?_⟩
  · rw [(hnone ys hys).1]
    exact List.nil_sublist _
  · rw [(hnone xs hxs).2, (hnone ys hys).2]

end Diagnostic

open Diagnostic

/-! ### One check -/

namespace Check

variable {v w : UInt32} {a : Activation} {c : Check} {ctx : Context}

/-- What a version has, every later version has. -/
theorem inCore_of_le (h : v ≤ w) {minVersion : UInt32} (hv : inCore v minVersion) :
    inCore w minVersion := by
  obtain ⟨hpositive, hle⟩ := Bool.and_eq_true_iff.mp hv
  have hle : minVersion ≤ v := of_decide_eq_true hle
  exact Bool.and_eq_true_iff.mpr ⟨hpositive, decide_eq_true (UInt32.le_trans hle h)⟩

/-- A feature that has come to its end has done so in every later version. -/
theorem isOver_of_le (h : v ≤ w) {applies : Bool} {since : UInt32}
    (hv : (applies && decide (since ≤ v)) = true) : (applies && decide (since ≤ w)) = true := by
  obtain ⟨happlies, hle⟩ := Bool.and_eq_true_iff.mp hv
  have hle : since ≤ v := of_decide_eq_true hle
  exact Bool.and_eq_true_iff.mpr ⟨happlies, decide_eq_true (UInt32.le_trans hle h)⟩

/-- A later version provides more. -/
theorem outgrown_availability (h : v ≤ w) {profiles : ProfileSet} {minVersion : UInt32}
    {names : List String} (hr : c.requirement = .availability profiles minVersion names) :
    Outgrown (c.report (ctx.atVersion v) a) (c.report (ctx.atVersion w) a) := by
  by_cases hprofile : profiles.contains ctx.profile
  · have hreport : ∀ version, c.report (ctx.atVersion version) a = c.useWarnings a names ++
        demand (inCore version minVersion || a.anyTurnedOn names) c.availabilityError :=
      fun _ => report_availability hr hprofile
    rw [hreport, hreport]
    -- The warnings for extensions in use are the same, whether the version is enough or not.
    refine isPartwise_outgrown.append (.refl _) (outgrown_of_premature (demand_sublist ?_ _) ?_)
    · intro hmet
      rw [Bool.or_eq_true] at hmet ⊢
      exact hmet.imp_left (inCore_of_le h)
    · intro d hd
      exact eq_of_mem_demand hd ▸ rfl
  · have hreport : ∀ version, c.report (ctx.atVersion version) a = [] := fun _ =>
      report_availability_of_other hr (eq_false_of_ne_true hprofile)
    rw [hreport, hreport]
    exact .refl []

/-- Where all rules of a requirement are about outdated features, so is what it reports. -/
theorem isOutdated_of_mem_report (hrules : ∀ r ∈ c.requirement.rules,
    ["C0004", "W0101", "C0005"].contains r.code) {d : Diagnostic} (hd : d ∈ c.report ctx a) :
    d.isOutdated := by
  obtain ⟨r, hr, hfollows⟩ := (isFinding_of_mem_report hd).follows
  rw [isOutdated, hfollows.code]
  exact hrules r hr

/-- In a later version more is deprecated. -/
theorem outgrown_notDeprecated (h : v ≤ w) {profiles : ProfileSet} {since : UInt32}
    (hr : c.requirement = .notDeprecated profiles since) :
    Outgrown (c.report (ctx.atVersion v) a) (c.report (ctx.atVersion w) a) := by
  have hrules : ∀ r ∈ c.requirement.rules, ["C0004", "W0101", "C0005"].contains r.code := by
    simp [hr, Requirement.rules, Rule.code]
  refine outgrown_of_outdated ?_ fun d hd => isOutdated_of_mem_report hrules hd
  have hreport : ∀ version, c.report (ctx.atVersion version) a =
      if profiles.contains ctx.profile && since ≤ version then c.reportDeprecated ctx since
      else [] := by
    intro version
    rw [report, hr]
    rfl
  rw [hreport, hreport]
  split
  · next hv => rw [if_pos (isOver_of_le h hv)]
  · exact List.nil_sublist _

/-- In a later version more is removed. -/
theorem outgrown_notRemoved (h : v ≤ w) {profiles : ProfileSet} {since : UInt32}
    (hr : c.requirement = .notRemoved profiles since) :
    Outgrown (c.report (ctx.atVersion v) a) (c.report (ctx.atVersion w) a) := by
  have hrules : ∀ r ∈ c.requirement.rules, ["C0004", "W0101", "C0005"].contains r.code := by
    simp [hr, Requirement.rules, Rule.code]
  refine outgrown_of_outdated ?_ fun d hd => isOutdated_of_mem_report hrules hd
  unfold report
  rw [hr]
  refine demand_sublist (fun hw => ?_) _
  rw [Bool.not_eq_true'] at hw ⊢
  exact Bool.eq_false_iff.mpr fun hv => Bool.eq_false_iff.mp hw (isOver_of_le h hv)

/-- **One check.** A later version takes away errors for features that were not available, and adds
diagnostics on features that are deprecated or gone. -/
theorem outgrown_report (h : v ≤ w) (ctx : Context) (a : Activation) (c : Check) :
    Outgrown (c.report (ctx.atVersion v) a) (c.report (ctx.atVersion w) a) := by
  cases hr : c.requirement with
  | availability profiles minVersion names => exact outgrown_availability h hr
  | notDeprecated profiles since => exact outgrown_notDeprecated h hr
  | notRemoved profiles since => exact outgrown_notRemoved h hr
  | _ =>
    -- The other requirements do not look at the version.
    unfold report
    rw [hr]
    exact .refl _

end Check

/-! ### Runs -/

/-- **A later version over a run**: the induction is on the events. -/
theorem outgrown_reports {v w : UInt32} (h : v ≤ w) (ctx : Context) (a : Activation)
    (es : List Event) :
    Outgrown (Event.reports (ctx.atVersion v) a es) (Event.reports (ctx.atVersion w) a es) := by
  refine isPartwise_outgrown.reports (fun a w => ?_) (Check.outgrown_report h ctx) a es
  exact .refl _

namespace CompilationUnit

/-- A fresh unit after some events, in a context of some version. -/
def runAtVersion (ctx : Context) (es : List Event) (version : UInt32) : CompilationUnit :=
  (fresh (ctx.atVersion version)).follow es

/-- **Later versions.** A run in a later version ends with the same activation as the run of the
same events in an earlier one. Its errors for features that are not available (`C0002`) are among
those of the earlier run, in the same order. The diagnostics of the earlier run on features that are
deprecated or gone (`C0004`, `W0101`, `C0005`) are among its own, in the same order. All other
diagnostics are the same. -/
theorem runAtVersion_mono (ctx : Context) (es : List Event) {v w : UInt32} (h : v ≤ w) :
    let earlier := runAtVersion ctx es v
    let later := runAtVersion ctx es w
    later.activation = earlier.activation ∧
    (later.log.entries.filter isPremature).Sublist (earlier.log.entries.filter isPremature) ∧
    (earlier.log.entries.filter isOutdated).Sublist (later.log.entries.filter isOutdated) ∧
    later.log.entries.filter isTimeless = earlier.log.entries.filter isTimeless := by
  intro earlier later
  have hactivation : later.activation = earlier.activation := by
    have hrun : ∀ version, (runAtVersion ctx es version).activation =
        Activation.initial.after (es.filterMap Event.change?) :=
      fun version => activation_follow (fresh (ctx.atVersion version)) es
    exact (hrun w).trans (hrun v).symm
  have houtgrown : Outgrown earlier.log.entries later.log.entries := by
    have hrun : ∀ version, (runAtVersion ctx es version).log.entries =
        Event.reports (ctx.atVersion version) .initial es :=
      fun version => entries_fresh_follow (ctx.atVersion version) es
    rw [hrun v, hrun w]
    exact outgrown_reports h ctx .initial es
  exact ⟨hactivation, houtgrown.premature, houtgrown.outdated, houtgrown.timeless.symm⟩

/-- Between versions 330 and 450 a feature arrives that an extension provided before, and another
one is removed. -/
theorem runAtVersion_mono_gather :
    let es : List Event := [
      .change (.directive ⟨"GL_ARB_texture_gather", "warn", ⟨"main.frag", 2, 1⟩⟩),
      .use (.feature ⟨⟨"main.frag", 5, 3⟩, "textureGather",
        .availability .all 400 ["GL_ARB_texture_gather"]⟩),
      .use (.numeric ⟨⟨"main.frag", 6, 3⟩, "double", .double, false⟩),
      .use (.feature ⟨⟨"main.frag", 7, 3⟩, "gl_FragColor", .notRemoved .all 420⟩)]
    let earlier := runAtVersion { version := 330 } es 330
    let later := runAtVersion { version := 330 } es 450
    (330 : UInt32) ≤ 450 ∧
    later.activation = earlier.activation ∧
    (later.log.entries.filter isPremature).Sublist (earlier.log.entries.filter isPremature) ∧
    (earlier.log.entries.filter isOutdated).Sublist (later.log.entries.filter isOutdated) ∧
    later.log.entries.filter isTimeless = earlier.log.entries.filter isTimeless := by
  intro es earlier later
  have hversion : (330 : UInt32) ≤ 450 := by decide
  exact ⟨hversion, runAtVersion_mono { version := 330 } es hversion⟩

end CompilationUnit

end GlslCompliance
