import GlslCompliance.Proofs.Diagnostic.Accounting
import GlslCompliance.Requirement.Basic

/-!
# Requests for extensions

The outcome of a check that asks for one of several extensions. It has three cases
(`reportExtensions_eq`): a listed extension is requested and nothing is said; some listed extension
satisfies the request all the same, and each of these says so in a warning; or none does, which is
an error. What counts as satisfying, `Behavior.satisfies`, is the only part that tolerance has in
it, and it alone decides whether there is an error (`errors_reportExtensions`).
-/

namespace GlslCompliance

/-- The extensions of which one has to be requested, if that is what is required. -/
def Requirement.requested? : Requirement → Option (List String)
  | extensions names | directiveExtensions names => some names
  | _ => none

namespace Behavior

/-- Whether an extension in this state satisfies a request for it: it is on, or it is disabled and
that is tolerated. -/
def satisfies (relaxed : Bool) (b : Behavior) : Bool := b.isTurnedOn || relaxed && b == .disabled

theorem satisfies_of_isTurnedOn {b : Behavior} (h : b.isTurnedOn) (relaxed : Bool) :
    b.satisfies relaxed := by
  rw [satisfies, h, Bool.true_or]

/-- Tolerance only adds to what satisfies a request. -/
theorem satisfies_true_of_satisfies {b : Behavior} {relaxed : Bool} (h : b.satisfies relaxed) :
    b.satisfies true := by
  cases relaxed with
  | true => exact h
  | false => exact satisfies_of_isTurnedOn (by simpa [satisfies] using h) true

end Behavior

namespace Check

variable {c : Check} {rule : Rule} {relaxed : Bool} {a : Activation} {names : List String}
  {n : String} {d : Diagnostic}

/-- Whether one of the listed extensions satisfies a request. -/
def satisfied (relaxed : Bool) (a : Activation) (names : List String) : Bool :=
  names.any fun n => (a.get n).satisfies relaxed

/-! ### What a refusal consists of -/

/-- The error that no listed extension is requested. Where there is one alone it is named. -/
def refusal (c : Check) (rule : Rule) (names : List String) : Diagnostic :=
  let reason := "required extension not requested:"
  match names with
  | [name] => c.violation rule reason name
  | _ => c.violation rule reason "Possible extensions include:"

/-- The lines behind the error, one for each extension where there is a choice. -/
def candidates (c : Check) (names : List String) : List Diagnostic :=
  match names with
  | [_] => []
  | _ => names.map fun name => Rule.extensionCandidate.report name c.location

/-- A refusal is one error, with the candidates behind it. -/
theorem notRequested_eq :
    c.notRequested rule names = c.refusal rule names :: c.candidates names := by
  match names with
  | [] | [_] | _ :: _ :: _ => rfl

theorem exists_refusal_eq (c : Check) (rule : Rule) (names : List String) :
    ∃ reason detail, c.refusal rule names = c.violation rule reason detail := by
  match names with
  | [] | [_] | _ :: _ :: _ => exact ⟨_, _, rfl⟩

theorem follows_refusal : (c.refusal rule names).Follows rule := by
  obtain ⟨reason, detail, h⟩ := exists_refusal_eq c rule names
  exact h ▸ rule.follows_report _ _

/-- Each candidate is one of the listed extensions, given at the place of the check. -/
theorem exists_of_mem_candidates (hd : d ∈ c.candidates names) :
    ∃ n ∈ names, d = Rule.extensionCandidate.report n c.location := by
  unfold candidates at hd
  split at hd
  · exact nomatch hd
  · obtain ⟨n, hn, rfl⟩ := List.mem_map.mp hd
    exact ⟨n, hn, rfl⟩

theorem follows_of_mem_candidates (hd : d ∈ c.candidates names) :
    d.Follows .extensionCandidate := by
  obtain ⟨n, -, rfl⟩ := exists_of_mem_candidates hd
  exact Rule.follows_report _ _ _

/-! ### What one extension says -/

/-- An extension has one of two things to say: that it is in use, or that it is tolerated. -/
theorem eq_of_tolerance (h : c.tolerance relaxed a n = some d) :
    d = c.extensionInUse n ∨ d = c.extensionTolerated n := by
  unfold tolerance at h
  repeat' split at h
  · exact .inl (Option.some.inj h).symm
  · exact .inr (Option.some.inj h).symm
  · exact nomatch h
  · exact nomatch h

theorem follows_of_tolerance (h : c.tolerance relaxed a n = some d) :
    d.Follows .extensionInUse := by
  rcases eq_of_tolerance h with rfl | rfl
  · exact ⟨rfl, rfl⟩
  · exact ⟨rfl, rfl⟩

/-- An extension that is not requested has something to say just if it satisfies the request. -/
theorem tolerance_eq_none_iff (hn : (a.get n).isRequested = false) :
    c.tolerance relaxed a n = none ↔ (a.get n).satisfies relaxed = false := by
  unfold tolerance Behavior.satisfies
  cases h : a.get n <;> cases relaxed <;> simp_all [Behavior.isTurnedOn, Behavior.isRequested]

/-- Where no extension is requested, those that satisfy the request are those that say something. -/
theorem filterMap_tolerance_eq_nil_iff (c : Check) (relaxed : Bool)
    (h : ¬ (names.any fun n => (a.get n).isRequested) = true) :
    names.filterMap (c.tolerance relaxed a) = [] ↔ ¬ satisfied relaxed a names = true := by
  rw [List.filterMap_eq_nil_iff, satisfied, Bool.not_eq_true, List.any_eq_false]
  refine forall₂_congr fun n hn => ?_
  have hquiet := List.any_eq_false.mp (eq_false_of_ne_true h) n hn
  rw [tolerance_eq_none_iff (eq_false_of_ne_true hquiet), Bool.not_eq_true]

/-! ### The three cases -/

/-- **One request.** A requested extension satisfies it in silence. Else those that satisfy it warn,
and if there is none it fails. -/
theorem reportExtensions_eq :
    c.reportExtensions rule relaxed a names =
      if names.any fun n => (a.get n).isRequested then []
      else if satisfied relaxed a names then names.filterMap (c.tolerance relaxed a)
      else c.refusal rule names :: c.candidates names := by
  unfold reportExtensions
  by_cases hr : names.any fun n => (a.get n).isRequested
  · rw [if_pos hr, if_pos hr]
  · have hnil := filterMap_tolerance_eq_nil_iff c relaxed hr
    rw [if_neg hr, if_neg hr, ← notRequested_eq]
    split
    · next h => rw [if_neg (hnil.mp h)]
    · next h => rw [if_pos (Decidable.not_not.mp (mt hnil.mpr h))]

/-- A requested extension satisfies a request, tolerance or not. -/
theorem satisfied_of_requested (h : names.any fun n => (a.get n).isRequested) :
    satisfied relaxed a names := by
  obtain ⟨n, hn, hreq⟩ := List.any_eq_true.mp h
  have hon := Behavior.isTurnedOn_of_isRequested hreq
  exact List.any_eq_true.mpr ⟨n, hn, Behavior.satisfies_of_isTurnedOn hon relaxed⟩

theorem satisfied_true_of_satisfied (h : satisfied relaxed a names) : satisfied true a names := by
  obtain ⟨n, hn, hs⟩ := List.any_eq_true.mp h
  exact List.any_eq_true.mpr ⟨n, hn, Behavior.satisfies_true_of_satisfies hs⟩

/-- A request is an error just if no listed extension satisfies it, and then it is one error. -/
theorem errors_reportExtensions (hrule : rule.level = .error) :
    (c.reportExtensions rule relaxed a names).filter Diagnostic.isError =
      if satisfied relaxed a names then [] else [c.refusal rule names] := by
  rw [reportExtensions_eq]
  by_cases hr : names.any fun n => (a.get n).isRequested
  · rw [if_pos hr, if_pos (satisfied_of_requested hr), List.filter_nil]
  · rw [if_neg hr]
    by_cases hs : satisfied relaxed a names
    · rw [if_pos hs, if_pos hs]
      refine Diagnostic.filter_isError_eq_nil (r := .extensionInUse) (by decide) fun d hd => ?_
      obtain ⟨n, -, hn⟩ := List.mem_filterMap.mp hd
      exact follows_of_tolerance hn
    · have herror : (c.refusal rule names).isError = true :=
        follows_refusal.isError_eq.trans (beq_iff_eq.mpr hrule)
      rw [if_neg hs, if_neg hs, List.filter_cons_of_pos herror,
        Diagnostic.filter_isError_eq_nil (by decide) fun d => follows_of_mem_candidates]

/-! ### Checks that request extensions -/

/-- The rules for requests: one for the language, one for the preprocessor. -/
def requestRules : List Rule := [.extensionNotRequested, .directiveExtensionNotRequested]

theorem level_of_mem_requestRules (h : rule ∈ requestRules) : rule.level = .error := by
  revert rule
  decide

/-- A check that requests extensions does this and nothing else, under one of the two rules. -/
theorem exists_report_eq (h : c.requirement.requested? = some names) :
    ∃ rule ∈ requestRules, ∀ ctx a,
      c.report ctx a = c.reportExtensions rule ctx.messages.relaxedErrors a names := by
  obtain ⟨l, feature, requirement⟩ := c
  cases requirement with
  | extensions | directiveExtensions =>
    obtain rfl := Option.some.inj h
    exact ⟨_, by decide, fun _ _ => rfl⟩
  | _ => exact nomatch h

/-- A check fails where it reports an error. -/
def Fails (ctx : Context) (a : Activation) (c : Check) : Prop :=
  ∃ d ∈ c.report ctx a, d.level = .error

theorem fails_iff {ctx : Context} :
    c.Fails ctx a ↔ (c.report ctx a).filter Diagnostic.isError ≠ [] := by
  simp only [Fails, Ne, List.filter_eq_nil_iff, Classical.not_forall, Classical.not_not,
    exists_prop, Diagnostic.isError, beq_iff_eq]

/-- A request fails exactly if no listed extension satisfies it. -/
theorem fails_iff_of_requested (h : c.requirement.requested? = some names) {ctx : Context} :
    c.Fails ctx a ↔ ¬ satisfied ctx.messages.relaxedErrors a names = true := by
  obtain ⟨rule, hrule, hreport⟩ := exists_report_eq h
  rw [fails_iff, hreport, errors_reportExtensions (level_of_mem_requestRules hrule)]
  by_cases hs : satisfied ctx.messages.relaxedErrors a names <;> simp [hs]

end Check

end GlslCompliance
