import GlslCompliance.Proofs.Requirement.Extensions

/-!
# The outcome of a request for extensions

All that a check with a list of extensions reports, for every context, activation and list. The
three cases of `reportExtensions_eq` are spelled out: what each extension of the list is given as
(`tolerance_eq`), in which order, and what the error and the lines behind it consist of. Nothing is
assumed of the activation, so an extension may be in any state, and nothing of the list, so a name
may be listed more than once or not be recognized.

The preprocessor has a rule of its own for its requests. It is the same outcome under another code
(`reportExtensions_recode`).
-/

namespace GlslCompliance

/-- Whether an extension in this state satisfies a request with a warning: it is on with a warning,
or it is disabled and that is tolerated. -/
def Behavior.warns (relaxed : Bool) (b : Behavior) : Bool := b == .warn || relaxed && b == .disabled

theorem Behavior.isRequested_eq_true_iff {b : Behavior} :
    b.isRequested = true ↔ b = .enabled ∨ b = .required := by
  cases b <;> decide

theorem Behavior.warns_eq_true_iff {b : Behavior} {relaxed : Bool} :
    b.warns relaxed = true ↔ b = .warn ∨ b = .disabled ∧ relaxed = true := by
  cases b <;> cases relaxed <;> decide

/-- A diagnostic with another code in place of an old one. -/
def Diagnostic.recode (old new : String) (d : Diagnostic) : Diagnostic :=
  if d.code = old then { d with code := new } else d

namespace Check

variable {c : Check} {relaxed : Bool} {a : Activation} {names : List String} {n : String}

/-! ### Warnings -/

/-- The warning about an extension that satisfies a request with one. -/
def requestWarning (c : Check) (a : Activation) (n : String) : Diagnostic :=
  { level := .warning
    code := "W0104"
    message := "extension " ++ n ++ " is being used for " ++ c.feature
    location := c.location
    notes := if a.get n = .disabled then [n ++ " must be enabled to use this feature"] else [] }

/-- An extension speaks if it satisfies with a warning. -/
theorem tolerance_eq :
    c.tolerance relaxed a n =
      if (a.get n).warns relaxed then some (c.requestWarning a n) else none := by
  unfold tolerance requestWarning
  cases h : a.get n with
  | disabled => cases relaxed <;> rfl
  | _ => cases relaxed <;> rfl

/-- One warning for each place in the list that has one to give. -/
theorem filterMap_tolerance :
    names.filterMap (c.tolerance relaxed a) =
      (names.filter fun n => (a.get n).warns relaxed).map (c.requestWarning a) := by
  rw [← List.filterMap_eq_map, List.filterMap_filter]
  exact congrArg (names.filterMap ·) (funext fun n => tolerance_eq)

/-- Where no extension is requested those that satisfy the request are those that warn. -/
theorem satisfied_iff (hquiet : ∀ n ∈ names, (a.get n).isRequested = false) :
    satisfied relaxed a names = true ↔ ∃ n ∈ names, (a.get n).warns relaxed = true := by
  rw [satisfied, List.any_eq_true]
  refine exists_congr fun n => and_congr_right fun hn => ?_
  have hn : (a.get n).isRequested = false := hquiet n hn
  revert hn
  generalize a.get n = b
  cases b <;> cases relaxed <;> decide

/-- **A request that is satisfied with warnings.** -/
theorem reportExtensions_of_warns {rule : Rule}
    (hquiet : ∀ n ∈ names, (a.get n).isRequested = false)
    (hwarns : ∃ n ∈ names, (a.get n).warns relaxed = true) :
    c.reportExtensions rule relaxed a names =
      (names.filter fun n => (a.get n).warns relaxed).map (c.requestWarning a) := by
  rw [reportExtensions_eq, List.any_eq_false.mpr (by simpa using hquiet), if_neg Bool.false_ne_true,
    if_pos ((satisfied_iff hquiet).mpr hwarns), filterMap_tolerance]

/-- **A request that is not satisfied.** -/
theorem reportExtensions_of_refused {rule : Rule}
    (hquiet : ∀ n ∈ names, (a.get n).isRequested = false)
    (hrefused : ∀ n ∈ names, (a.get n).warns relaxed = false) :
    c.reportExtensions rule relaxed a names = c.refusal rule names :: c.candidates names := by
  have hnone : ¬ ∃ n ∈ names, (a.get n).warns relaxed = true := by simpa using hrefused
  rw [reportExtensions_eq, List.any_eq_false.mpr (by simpa using hquiet), if_neg Bool.false_ne_true,
    if_neg (mt (satisfied_iff hquiet).mp hnone)]

theorem errors_map_requestWarning :
    (names.map (c.requestWarning a)).filter Diagnostic.isError = [] := by
  refine Diagnostic.filter_isError_eq_nil (r := .extensionInUse) (by decide) fun d hd => ?_
  obtain ⟨n, -, rfl⟩ := List.mem_map.mp hd
  exact ⟨rfl, rfl⟩

/-! ### Refusals -/

/-- The error that no listed extension is requested, with what it names. -/
theorem violation_notRequested (rule : Rule) (detail : String) :
    c.violation rule "required extension not requested:" detail =
      { level := rule.level
        code := rule.code
        message := "'" ++ c.feature ++ "' : required extension not requested:" ++
          if detail.isEmpty then "" else " " ++ detail
        location := c.location } := by
  have htext : "'" ++ c.feature ++ "' : " ++ "required extension not requested:" =
      "'" ++ c.feature ++ "' : required extension not requested:" := String.append_assoc
  unfold violation
  rw [htext]
  rfl

/-- Unless there is one extension alone, the error introduces the candidates. -/
theorem refusal_of_length_ne_one (h : names.length ≠ 1) (rule : Rule) :
    c.refusal rule names =
        c.violation rule "required extension not requested:" "Possible extensions include:" ∧
      c.candidates names = names.map fun n => Rule.extensionCandidate.report n c.location := by
  match names with
  | [] | _ :: _ :: _ => exact ⟨rfl, rfl⟩
  | [_] => exact absurd rfl h

/-! ### The two rules -/

theorem map_recode {old new : String} {ds : List Diagnostic} (h : ∀ d ∈ ds, d.code ≠ old) :
    ds.map (Diagnostic.recode old new) = ds :=
  (List.map_congr_left fun d hd => if_neg (h d hd)).trans (List.map_id' ds)

/-- The error of the preprocessor differs in its code alone. -/
theorem recode_refusal :
    (c.refusal .extensionNotRequested names).recode "C0011" "P0011" =
      c.refusal .directiveExtensionNotRequested names := by
  match names with
  | [] | [_] | _ :: _ :: _ => rfl

/-- **A request of the preprocessor** has the same outcome but for the code of the error. -/
theorem reportExtensions_recode :
    c.reportExtensions .directiveExtensionNotRequested relaxed a names =
      (c.reportExtensions .extensionNotRequested relaxed a names).map
        (Diagnostic.recode "C0011" "P0011") := by
  have hwarnings : ∀ d ∈ names.filterMap (c.tolerance relaxed a), d.code ≠ "C0011" := by
    intro d hd
    obtain ⟨n, -, hn⟩ := List.mem_filterMap.mp hd
    rw [(follows_of_tolerance hn).code]
    decide
  have hcandidates : ∀ d ∈ c.candidates names, d.code ≠ "C0011" := by
    intro d hd
    rw [(follows_of_mem_candidates hd).code]
    decide
  rw [reportExtensions_eq, reportExtensions_eq]
  split
  · rfl
  · split
    · exact (map_recode hwarnings).symm
    · rw [List.map_cons, recode_refusal, map_recode hcandidates]

/-! ### The outcome -/

/-- **The outcome of a request for extensions**, in any context and with extensions in any state:

* if a listed extension is enabled or required, nothing is said;
* else, if one is on with a warning, or disabled and that is tolerated, there is one warning for each
  place in the list that holds such an extension, in the order of the list, with a note about those
  that are disabled, and no error;
* else there is one error. It names the extension where there is one alone, and otherwise each
  place in the list follows it as a line, in the order of the list.

For a feature of the preprocessor it is the same with another code for the error. -/
theorem report_extensions_outcome (ctx : Context) (a : Activation) (location : Location)
    (feature : String) (names : List String) :
    let ds := (Check.mk location feature (.extensions names)).report ctx a
    let requested n := a.get n = .enabled ∨ a.get n = .required
    let serves n := a.get n = .warn ∨ a.get n = .disabled ∧ ctx.messages.relaxedErrors = true
    ((∃ n ∈ names, requested n) → ds = []) ∧
    ((∀ n ∈ names, ¬ requested n) → (∃ n ∈ names, serves n) →
      ds = ((names.filter fun n => serves n).map fun n => {
        level := .warning
        code := "W0104"
        message := "extension " ++ n ++ " is being used for " ++ feature
        location
        notes := if a.get n = .disabled then [n ++ " must be enabled to use this feature"]
          else [] }) ∧
      ds.filter Diagnostic.isError = []) ∧
    ((∀ n ∈ names, ¬ requested n) → (∀ n ∈ names, ¬ serves n) →
      (∀ n, names = [n] → ds = [{
        level := .error
        code := "C0011"
        message := "'" ++ feature ++ "' : required extension not requested:" ++
          if n.isEmpty then "" else " " ++ n
        location }]) ∧
      (names.length ≠ 1 → ds = {
        level := .error
        code := "C0011"
        message := "'" ++ feature ++ "' : required extension not requested:" ++
          " Possible extensions include:"
        location } :: names.map fun n => {
          level := .info
          code := "I0101"
          message := n
          location })) ∧
    (Check.mk location feature (.directiveExtensions names)).report ctx a =
      ds.map fun d => if d.code = "C0011" then { d with code := "P0011" } else d := by
  intro ds requested serves
  let c : Check := ⟨location, feature, .extensions names⟩
  have hrequested : ∀ n, requested n ↔ (a.get n).isRequested = true := fun n =>
    Behavior.isRequested_eq_true_iff.symm
  have hserves : ∀ n, serves n ↔ (a.get n).warns ctx.messages.relaxedErrors = true := fun n =>
    Behavior.warns_eq_true_iff.symm
  simp only [hrequested, Bool.not_eq_true]
  refine ⟨fun h => ?_, fun hquiet h => ?_, fun hquiet h => ?_, reportExtensions_recode⟩
  · exact if_pos (List.any_eq_true.mpr h)
  · have hwarns : ∃ n ∈ names, (a.get n).warns ctx.messages.relaxedErrors = true := by
      simpa only [hserves] using h
    have hds : ds = _ := reportExtensions_of_warns hquiet hwarns
    have hfilter : (names.filter fun n => serves n) =
        names.filter fun n => (a.get n).warns ctx.messages.relaxedErrors :=
      List.filter_congr fun n _ => Bool.eq_iff_iff.mpr (decide_eq_true_iff.trans (hserves n))
    rw [hfilter, hds]
    exact ⟨rfl, errors_map_requestWarning⟩
  · have hrefused : ∀ n ∈ names, (a.get n).warns ctx.messages.relaxedErrors = false := by
      simpa only [hserves, Bool.not_eq_true] using h
    have hds : ds = c.refusal .extensionNotRequested names :: c.candidates names :=
      reportExtensions_of_refused hquiet hrefused
    rw [hds]
    refine ⟨?_, fun hlength => ?_⟩
    · rintro n rfl
      exact congrArg (· :: []) (violation_notRequested _ n)
    · obtain ⟨hrefusal, hcandidates⟩ := refusal_of_length_ne_one hlength .extensionNotRequested
      rw [hrefusal, hcandidates, violation_notRequested]
      rfl

end Check

end GlslCompliance
