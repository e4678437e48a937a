import GlslCompliance.Proofs.Requirement.Availability
import GlslCompliance.Proofs.Requirement.Rules
import GlslCompliance.Proofs.Unit.Run

/-!
# Turning extensions on

To turn an extension on never makes a check fail. Two activations are compared of which the second
one differs only in extensions that it has on (`Activation.IsRaised`). The checks themselves are the
same, so the errors under the second activation are a sublist of those under the first:

* `Check.errors_report_sublist` is this for one check. Only two kinds of requirement look at
  extensions, and both ask whether some listed one satisfies them (`Check.satisfied`), which is
  monotone;
* `isRaised_obey` says that a directive that enables, requires or warns raises the activation,
  whatever its name is and however far its implications go.
-/

namespace GlslCompliance

namespace Activation

variable {a a' : Activation} {relaxed : Bool} {names : List String} {d : Directive}

/-- The second activation differs from the first only in extensions that it has on: enabled,
required or with a warning. -/
def IsRaised (a a' : Activation) : Prop :=
  ∀ e ∈ Catalog.names, a'.get e = a.get e ∨ (a'.get e).isTurnedOn

/-- A request that is satisfied stays so where extensions are turned on. -/
theorem satisfied_of_isRaised (h : a.IsListed) (h' : a'.IsListed) (hraised : a.IsRaised a')
    (hs : Check.satisfied relaxed a names) : Check.satisfied relaxed a' names := by
  obtain ⟨n, hn, hsatisfies⟩ := List.any_eq_true.mp hs
  refine List.any_eq_true.mpr ⟨n, hn, ?_⟩
  by_cases hrecognized : n ∈ Catalog.names
  · rcases hraised n hrecognized with hsame | hon
    · rw [hsame]
      exact hsatisfies
    · exact Behavior.satisfies_of_isTurnedOn hon relaxed
  · -- An unknown name is missing in both.
    rw [get_of_notMem h' hrecognized, ← get_of_notMem h hrecognized]
    exact hsatisfies

theorem isTurnedOn_behavior (h : d.keyword ∈ ["enable", "require", "warn"]) :
    d.behavior.isTurnedOn := by
  rw [Directive.behavior]
  generalize d.keyword = keyword at h
  revert keyword
  decide

/-- A directive that enables, requires or warns only turns extensions on. -/
theorem isRaised_obey (h : a.IsListed) (hd : d.keyword ∈ ["enable", "require", "warn"]) :
    a.IsRaised (a.obey d).1 := by
  intro e he
  rw [get_obey h he]
  by_cases hcovers : d.Covers e
  · rw [if_pos hcovers]
    exact .inr (isTurnedOn_behavior hd)
  · rw [if_neg hcovers]
    exact .inl rfl

end Activation

/-! ### One check -/

/-- Every error of the first list stands in the second one, in the same order. -/
def HasFewerErrors (xs ys : List Diagnostic) : Prop :=
  (xs.filter Diagnostic.isError).Sublist (ys.filter Diagnostic.isError)

theorem isPartwise_hasFewerErrors : IsPartwise HasFewerErrors where
  nil := .slnil
  append := by
    intro xs ys xs' ys' h h'
    rw [HasFewerErrors, List.filter_append, List.filter_append]
    exact h.append h'

namespace Check

variable {a a' : Activation} {c : Check}

/-- The availability gives no new error where extensions are turned on. -/
theorem errors_availability_sublist (h : a.IsListed) (h' : a'.IsListed) (hraised : a.IsRaised a')
    {profiles : ProfileSet} {minVersion : UInt32} {names : List String}
    (hr : c.requirement = .availability profiles minVersion names) (ctx : Context) :
    HasFewerErrors (c.report ctx a') (c.report ctx a) := by
  by_cases hprofile : profiles.contains ctx.profile = true
  · rw [HasFewerErrors, errors_availability hr hprofile, errors_availability hr hprofile]
    refine demand_sublist (fun hmet => ?_) _
    rw [Bool.or_eq_true] at hmet ⊢
    refine hmet.imp_right fun hon => ?_
    rw [Activation.anyTurnedOn_eq_satisfied] at hon ⊢
    exact Activation.satisfied_of_isRaised h h' hraised hon
  · have hother := eq_false_of_ne_true hprofile
    rw [report_availability_of_other hr hother, report_availability_of_other hr hother]
    exact .slnil

/-- A request gives no new error where extensions are turned on. -/
theorem errors_request_sublist (h : a.IsListed) (h' : a'.IsListed) (hraised : a.IsRaised a')
    {names : List String} (hr : c.requirement.requested? = some names) (ctx : Context) :
    HasFewerErrors (c.report ctx a') (c.report ctx a) := by
  obtain ⟨rule, hrule, hreport⟩ := exists_report_eq hr
  have hlevel := level_of_mem_requestRules hrule
  rw [HasFewerErrors, hreport, hreport, errors_reportExtensions hlevel,
    errors_reportExtensions hlevel]
  by_cases hs : satisfied ctx.messages.relaxedErrors a names
  · rw [if_pos hs, if_pos (Activation.satisfied_of_isRaised h h' hraised hs)]
  · rw [if_neg hs]
    split
    · exact List.nil_sublist _
    · exact .refl _

/-- **One check.** No error is new where extensions are turned on. -/
theorem errors_report_sublist (h : a.IsListed) (h' : a'.IsListed) (hraised : a.IsRaised a')
    (ctx : Context) (c : Check) : HasFewerErrors (c.report ctx a') (c.report ctx a) := by
  cases hr : c.requirement with
  | availability profiles minVersion names => exact errors_availability_sublist h h' hraised hr ctx
  | extensions names | directiveExtensions names =>
    have hrequested : c.requirement.requested? = some names := by
      rw [hr]
      rfl
    exact errors_request_sublist h h' hraised hrequested ctx
  | _ =>
    -- The other requirements do not look at the activation.
    unfold report
    rw [hr]
    exact .refl _

theorem errors_reportAll_sublist (h : a.IsListed) (h' : a'.IsListed) (hraised : a.IsRaised a')
    (ctx : Context) (checks : List Check) :
    HasFewerErrors (reportAll ctx a' checks) (reportAll ctx a checks) :=
  isPartwise_hasFewerErrors.flatMap checks fun c _ => errors_report_sublist h h' hraised ctx c

end Check

/-! ### Sequences of uses -/

namespace CompilationUnit

/-- **Turning extensions on never creates an error.** Whatever is used after one another, under a
raised activation the errors are a sublist of those under the other one. So a directive that
enables, requires or warns, met just before the uses, adds no error to theirs, in any state of a
unit. -/
theorem errors_sublist_of_isRaised :
    (∀ (ctx : Context) (a a' : Activation), a.IsListed → a'.IsListed → a.IsRaised a' →
      ∀ uses : List Use,
        ((follow { context := ctx, activation := a' } (uses.map .use)).log.atLevel .error).Sublist
          ((follow { context := ctx, activation := a } (uses.map .use)).log.atLevel .error)) ∧
    ∀ (u : CompilationUnit) (d : Directive), u.activation.IsListed →
      d.keyword ∈ ["enable", "require", "warn"] → ∀ uses : List Use,
        (((u.step (.directive d)).emitted (uses.map .use)).filter Diagnostic.isError).Sublist
          ((u.emitted (uses.map .use)).filter Diagnostic.isError) := by
  refine ⟨fun ctx a a' h h' hraised uses => ?_, fun u d h hd uses => ?_⟩
  · rw [Log.atLevel, Log.atLevel, entries_follow, entries_follow, Event.reports_map_use,
      Event.reports_map_use]
    exact Check.errors_reportAll_sublist h h' hraised ctx _
  · rw [emitted_eq, emitted_eq, Event.reports_map_use, Event.reports_map_use]
    have hraised : u.activation.IsRaised (u.activation.obey d).1 := Activation.isRaised_obey h hd
    exact Check.errors_reportAll_sublist h (Activation.isListed_obey h) hraised u.context _

/-- In version 330 one extension is turned on with a warning, before a use that asks for it and one
that does not. -/
theorem errors_sublist_of_isRaised_gather :
    let ctx : Context := { version := 330 }
    let d : Directive := ⟨"GL_ARB_gpu_shader5", "warn", ⟨"main.frag", 2, 1⟩⟩
    let raised : Activation := (Activation.initial.obey d).1
    let uses : List Use := [
      .feature ⟨⟨"main.frag", 5, 3⟩, "textureGather",
        .availability .all 400 ["GL_ARB_gpu_shader5"]⟩,
      .numeric ⟨⟨"main.frag", 6, 3⟩, "double", .double, false⟩]
    (Activation.initial.IsListed ∧ raised.IsListed ∧ Activation.initial.IsRaised raised ∧
      ((follow { context := ctx, activation := raised } (uses.map .use)).log.atLevel
          .error).Sublist
        ((follow { context := ctx, activation := .initial } (uses.map .use)).log.atLevel .error)) ∧
    d.keyword ∈ ["enable", "require", "warn"] ∧
      ((((fresh ctx).step (.directive d)).emitted (uses.map .use)).filter
          Diagnostic.isError).Sublist
        (((fresh ctx).emitted (uses.map .use)).filter Diagnostic.isError) := by
  intro ctx d raised uses
  have hd : d.keyword ∈ ["enable", "require", "warn"] := by decide
  have hlisted : Activation.initial.IsListed := Activation.isListed_initial
  have hlisted' : raised.IsListed := Activation.isListed_obey hlisted
  have hraised : Activation.initial.IsRaised raised := Activation.isRaised_obey hlisted hd
  obtain ⟨hstates, hdirective⟩ := errors_sublist_of_isRaised
  exact ⟨⟨hlisted, hlisted', hraised, hstates ctx .initial raised hlisted hlisted' hraised uses⟩,
    hd, hdirective (fresh ctx) d hlisted hd uses⟩

end CompilationUnit

end GlslCompliance
