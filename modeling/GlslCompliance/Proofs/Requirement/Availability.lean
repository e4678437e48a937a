import GlslCompliance.Proofs.Requirement.Outcome

/-!
# Profiles and availability

All that a check of the profile and a check of the availability report, for every context,
activation and list. An availability check concerns some profiles only. In these it warns of every
listed extension that is on with a warning, whether the version is enough or not, and behind that it
is an error if neither the version nor a listed extension provides the feature
(`report_availability`, `errors_availability`). The check goes through the list once and keeps in
mind whether the feature is provided; `useExtensions_eq` says what this comes to.

To ask for the availability in version 0, which is never, is another way to request one of the
listed extensions. Where nothing is tolerated it has the same answer as a request and as the
question whether one of them is on (`extension_questions_agree`).
-/

namespace GlslCompliance

/-- Three behaviors count as being on. -/
theorem Behavior.isTurnedOn_eq_true_iff {b : Behavior} :
    b.isTurnedOn = true ↔ b = .enabled ∨ b = .required ∨ b = .warn := by
  cases b <;> decide

/-- One of several extensions is on if one of them has such a behavior. -/
theorem Activation.anyTurnedOn_eq_true_iff {a : Activation} {names : List String} :
    a.anyTurnedOn names = true ↔
      ∃ n ∈ names, a.get n = .enabled ∨ a.get n = .required ∨ a.get n = .warn := by
  rw [anyTurnedOn, List.any_eq_true]
  exact exists_congr fun n => and_congr_right fun _ => Behavior.isTurnedOn_eq_true_iff

theorem Activation.anyTurnedOn_cons {a : Activation} {n : String} {names : List String} :
    a.anyTurnedOn (n :: names) = ((a.get n).isTurnedOn || a.anyTurnedOn names) :=
  List.any_cons

/-- To be on is to satisfy a request where nothing is tolerated. -/
theorem Activation.anyTurnedOn_eq_satisfied {a : Activation} {names : List String} :
    a.anyTurnedOn names = Check.satisfied false a names := by
  refine congrArg names.any (funext fun n => ?_)
  rw [Behavior.satisfies, Bool.false_and, Bool.or_false]
  rfl

/-! ### Diagnostics on the use of extensions -/

/-- Whether a diagnostic says that a feature makes use of an extension. -/
def Diagnostic.isExtensionUse (d : Diagnostic) : Bool := d.code == "W0104"

namespace Diagnostic

variable {ds : List Diagnostic}

theorem forall_level_ne_error_iff :
    (∀ d ∈ ds, d.level ≠ .error) ↔ ds.filter isError = [] := by
  simp only [List.filter_eq_nil_iff, isError, beq_iff_eq, Ne]

/-- Diagnostics that follow the rule for extensions in use are about that. -/
theorem filter_isExtensionUse_eq_self (h : ∀ d ∈ ds, d.Follows .extensionInUse) :
    ds.filter isExtensionUse = ds :=
  List.filter_eq_self.mpr fun d hd => beq_iff_eq.mpr (h d hd).code

theorem filter_isExtensionUse_eq_nil (h : ∀ d ∈ ds, ∃ r, d.Follows r ∧ r ≠ .extensionInUse) :
    ds.filter isExtensionUse = [] := by
  refine List.filter_eq_nil_iff.mpr fun d hd => ?_
  obtain ⟨r, hfollows, hr⟩ := h d hd
  rw [isExtensionUse, hfollows.code]
  revert hr
  cases r <;> decide

end Diagnostic

namespace Check

variable {ctx : Context} {a : Activation} {c : Check} {profiles : ProfileSet}
  {minVersion : UInt32} {names : List String} {n : String}

/-! ### What the two checks say -/

/-- The error that a feature is not supported in a profile. -/
def profileError (c : Check) (p : Profile) : Diagnostic :=
  { level := .error
    code := "C0001"
    message := "'" ++ c.feature ++ "' : not supported with this profile: " ++ p.name
    location := c.location }

/-- The error that neither the version nor an extension provides a feature. -/
def availabilityError (c : Check) : Diagnostic :=
  { level := .error
    code := "C0002"
    message := "'" ++ c.feature ++ "' : not supported for this version or the enabled extensions"
    location := c.location }

theorem violation_wrongProfile (p : Profile) :
    c.violation .wrongProfile "not supported with this profile:" p.name = c.profileError p := by
  unfold violation profileError
  cases p <;> simp only [Profile.name, String.append_assoc] <;> rfl

theorem violation_notAvailable :
    c.violation .notAvailable "not supported for this version or the enabled extensions" "" =
      c.availabilityError := by
  unfold violation availabilityError
  simp only [String.append_assoc]
  rfl

/-- **One check of the profile.** -/
theorem report_profile {allowed : ProfileSet} (hr : c.requirement = .profile allowed) :
    c.report ctx a = demand (allowed.contains ctx.profile) (c.profileError ctx.profile) := by
  rw [report, hr]
  dsimp only
  rw [violation_wrongProfile]

/-! ### Going through the extensions -/

/-- A warning for each listed extension that is on with a warning. -/
def useWarnings (c : Check) (a : Activation) (names : List String) : List Diagnostic :=
  (names.filter fun n => a.get n == .warn).map c.extensionInUse

theorem useWarnings_cons_of_warn (c : Check) (names : List String) (h : a.get n = .warn) :
    c.useWarnings a (n :: names) = c.extensionInUse n :: c.useWarnings a names := by
  have hwarn : (a.get n == .warn) = true := beq_iff_eq.mpr h
  rw [useWarnings, List.filter_cons, if_pos hwarn]
  rfl

theorem useWarnings_cons_of_ne (c : Check) (names : List String) (h : a.get n ≠ .warn) :
    c.useWarnings a (n :: names) = c.useWarnings a names := by
  have hwarn : ¬ (a.get n == .warn) = true := fun hc => h (beq_iff_eq.mp hc)
  rw [useWarnings, List.filter_cons, if_neg hwarn]
  rfl

/-- **What going through the extensions comes to.** In the end the feature is provided if it was so
before or one of the extensions is on, and those that are on with a warning have been spoken of. The
induction is on the list, and the behavior of its first name decides how the check goes on. -/
theorem useExtensions_eq (c : Check) (a : Activation) (provided : Bool) (names : List String) :
    c.useExtensions a provided names =
      (provided || a.anyTurnedOn names, c.useWarnings a names) := by
  induction names generalizing provided with
  | nil => exact congrArg (·, []) (Bool.or_false provided).symm
  | cons n names ih =>
    rw [useExtensions, Activation.anyTurnedOn_cons, ih, ih]
    cases h : a.get n with
    | warn =>
      have hon : Behavior.isTurnedOn .warn = true := rfl
      rw [useWarnings_cons_of_warn c names h, hon]
      simp only [Bool.true_or, Bool.or_true]
    | enabled | required =>
      have hne : a.get n ≠ .warn := by rw [h]; decide
      rw [useWarnings_cons_of_ne c names hne]
      simp only [Behavior.isTurnedOn, Bool.true_or, Bool.or_true]
    | disabled | disabledPartial | missing =>
      have hne : a.get n ≠ .warn := by rw [h]; decide
      rw [useWarnings_cons_of_ne c names hne]
      simp only [Behavior.isTurnedOn, Bool.false_or]

/-- The warnings stand in front of the error, if there is one. -/
theorem reportAvailability_eq (c : Check) (version : UInt32) (a : Activation)
    (minVersion : UInt32) (names : List String) :
    c.reportAvailability version a minVersion names = c.useWarnings a names ++
      demand (inCore version minVersion || a.anyTurnedOn names) c.availabilityError := by
  rw [reportAvailability, useExtensions_eq, violation_notAvailable]

/-- **One check of the availability**, in a profile that it concerns. -/
theorem report_availability (hr : c.requirement = .availability profiles minVersion names)
    (h : profiles.contains ctx.profile = true) :
    c.report ctx a = c.useWarnings a names ++
      demand (inCore ctx.version minVersion || a.anyTurnedOn names) c.availabilityError := by
  rw [report, hr]
  dsimp only
  rw [if_pos h, reportAvailability_eq]

/-- Other profiles are not concerned. -/
theorem report_availability_of_other (hr : c.requirement = .availability profiles minVersion names)
    (h : profiles.contains ctx.profile = false) : c.report ctx a = [] := by
  rw [report, hr]
  exact if_neg (ne_true_of_eq_false h)

theorem follows_of_mem_useWarnings {d : Diagnostic} (h : d ∈ c.useWarnings a names) :
    d.Follows .extensionInUse := by
  obtain ⟨n, -, rfl⟩ := List.mem_map.mp h
  exact Rule.follows_report _ _ _

/-- Where a feature makes use of extensions, this is no error. -/
theorem errors_useWarnings (a : Activation) (c : Check) (names : List String) :
    (c.useWarnings a names).filter Diagnostic.isError = [] :=
  Diagnostic.filter_isError_eq_nil (by decide) fun _ => follows_of_mem_useWarnings

/-- An error says that neither the version nor an extension provides the feature, and there is no
other. -/
theorem errors_availability (hr : c.requirement = .availability profiles minVersion names)
    (h : profiles.contains ctx.profile = true) :
    (c.report ctx a).filter Diagnostic.isError =
      demand (inCore ctx.version minVersion || a.anyTurnedOn names) c.availabilityError := by
  rw [report_availability hr h, List.filter_append, errors_useWarnings, List.nil_append, demand]
  split <;> rfl

/-- Every listed extension that is on with a warning is spoken of, and no other. -/
theorem extensionUses_availability
    (hr : c.requirement = .availability profiles minVersion names)
    (h : profiles.contains ctx.profile = true) :
    (c.report ctx a).filter Diagnostic.isExtensionUse = c.useWarnings a names := by
  rw [report_availability hr h, List.filter_append,
    Diagnostic.filter_isExtensionUse_eq_self fun _ => follows_of_mem_useWarnings, demand]
  split <;> exact List.append_nil _

/-! ### Compared with requests -/

theorem demand_eq_nil_iff {condition : Bool} {d : Diagnostic} :
    demand condition d = [] ↔ condition = true := by
  cases condition <;> simp [demand]

/-- A request is free of errors exactly if a listed extension satisfies it. -/
theorem errors_request_eq_nil_iff (hr : c.requirement.requested? = some names) :
    (c.report ctx a).filter Diagnostic.isError = [] ↔
      satisfied ctx.messages.relaxedErrors a names = true :=
  Decidable.not_iff_not.mp (fails_iff.symm.trans (fails_iff_of_requested hr))

/-- Where nothing is tolerated, this is to ask whether a listed extension is on. -/
theorem errors_request_eq_nil_iff_of_strict (hr : c.requirement.requested? = some names)
    (hstrict : ctx.messages.relaxedErrors = false) :
    (c.report ctx a).filter Diagnostic.isError = [] ↔ a.anyTurnedOn names = true := by
  rw [errors_request_eq_nil_iff hr, hstrict, Activation.anyTurnedOn_eq_satisfied]

/-- In version 0 the availability is a matter of extensions alone. -/
theorem errors_availability_zero_eq_nil_iff
    (hr : c.requirement = .availability profiles 0 names)
    (h : profiles.contains ctx.profile = true) :
    (c.report ctx a).filter Diagnostic.isError = [] ↔ a.anyTurnedOn names = true := by
  have hcore : inCore ctx.version 0 = false := rfl
  rw [errors_availability hr h, demand_eq_nil_iff, hcore, Bool.false_or]

/-- Where nothing is tolerated, a request warns in the same words as an availability check. -/
theorem map_requestWarning_eq_useWarnings :
    (names.filter fun n => (a.get n).warns false).map (c.requestWarning a) =
      c.useWarnings a names := by
  have hfilter : (names.filter fun n => (a.get n).warns false) =
      names.filter fun n => a.get n == .warn :=
    List.filter_congr fun n _ => by rw [Behavior.warns, Bool.false_and, Bool.or_false]
  rw [hfilter, useWarnings]
  refine List.map_congr_left fun n hn => ?_
  have hwarn : a.get n = .warn := beq_iff_eq.mp (List.mem_filter.mp hn).2
  rw [requestWarning, hwarn]
  rfl

/-- Whether a request is satisfied or not, it speaks of the extensions that are on with a
warning. -/
theorem extensionUses_request (hr : c.requirement.requested? = some names)
    (hstrict : ctx.messages.relaxedErrors = false)
    (hquiet : ∀ n ∈ names, (a.get n).isRequested = false) :
    (c.report ctx a).filter Diagnostic.isExtensionUse = c.useWarnings a names := by
  obtain ⟨rule, hrule, hreport⟩ := exists_report_eq hr
  rw [hreport, hstrict]
  by_cases hwarns : ∃ n ∈ names, (a.get n).warns false = true
  · rw [reportExtensions_of_warns hquiet hwarns, map_requestWarning_eq_useWarnings]
    exact Diagnostic.filter_isExtensionUse_eq_self fun _ => follows_of_mem_useWarnings
  · have hnone : ∀ n ∈ names, (a.get n).warns false = false := by simpa using hwarns
    have hfilter : (names.filter fun n => (a.get n).warns false) = [] := by simpa using hnone
    rw [reportExtensions_of_refused hquiet hnone, ← map_requestWarning_eq_useWarnings, hfilter,
      List.map_nil]
    refine Diagnostic.filter_isExtensionUse_eq_nil fun d hd => ?_
    rcases List.mem_cons.mp hd with rfl | hd
    · exact ⟨rule, follows_refusal, by rintro rfl; exact absurd hrule (by decide)⟩
    · exact ⟨_, follows_of_mem_candidates hd, by decide⟩

/-- **Three ways to ask for extensions agree.** Where nothing is tolerated, and in a profile that
the availability concerns, a request, a request of the preprocessor and a check of the availability
in version 0 each report no error exactly if one of the extensions is on. If moreover none of them
is enabled or required, all three warn of the same extensions: of each place in the list that holds
one which is on with a warning, in the order of the list. -/
theorem extension_questions_agree {ctx : Context} {profiles : ProfileSet}
    (hstrict : ctx.messages.relaxedErrors = false) (hprofile : profiles.contains ctx.profile = true)
    (a : Activation) (names : List String) (location : Location) (feature : String) :
    ∀ r ∈ [Requirement.extensions names, .directiveExtensions names,
        .availability profiles 0 names],
      let ds := (Check.mk location feature r).report ctx a
      ((∀ d ∈ ds, d.level ≠ .error) ↔ a.anyTurnedOn names = true) ∧
      ((∀ n ∈ names, a.get n ≠ .enabled ∧ a.get n ≠ .required) →
        (ds.filter fun d => d.code == "W0104") =
          (names.filter fun n => a.get n = .warn).map fun n => {
            level := .warning
            code := "W0104"
            message := "extension " ++ n ++ " is being used for " ++ feature
            location }) := by
  intro r hr ds
  have hnone : (∀ n ∈ names, a.get n ≠ .enabled ∧ a.get n ≠ .required) →
      ∀ n ∈ names, (a.get n).isRequested = false := fun hquiet n hn =>
    eq_false_of_ne_true fun hc => not_or.mpr (hquiet n hn) (Behavior.isRequested_eq_true_iff.mp hc)
  rw [Diagnostic.forall_level_ne_error_iff]
  simp only [List.mem_cons, List.not_mem_nil, or_false] at hr
  rcases hr with rfl | rfl | rfl
  · exact ⟨errors_request_eq_nil_iff_of_strict rfl hstrict,
      fun hquiet => extensionUses_request rfl hstrict (hnone hquiet)⟩
  · exact ⟨errors_request_eq_nil_iff_of_strict rfl hstrict,
      fun hquiet => extensionUses_request rfl hstrict (hnone hquiet)⟩
  · exact ⟨errors_availability_zero_eq_nil_iff rfl hprofile,
      fun _ => extensionUses_availability rfl hprofile⟩

/-- Of the listed extensions one is on with a warning, and that one is listed twice; the others are
partially supported, disabled or not recognized. -/
theorem extension_questions_agree_gather :
    let ctx : Context := { version := 330 }
    let place : Location := ⟨"main.frag", 5, 3⟩
    let a : Activation := (Activation.initial.assign "GL_ARB_texture_gather" .warn place).1
    let names := ["GL_ARB_texture_gather", "GL_ARB_gpu_shader5", "GL_ARB_texture_gather",
      "GL_OES_texture_3D", "GL_texture_gather"]
    ctx.messages.relaxedErrors = false ∧ ProfileSet.desktop.contains ctx.profile = true ∧
    (∀ n ∈ names, a.get n ≠ .enabled ∧ a.get n ≠ .required) ∧
    ∀ r ∈ [Requirement.extensions names, .directiveExtensions names,
        .availability .desktop 0 names],
      let ds := (Check.mk place "textureGather" r).report ctx a
      (∀ d ∈ ds, d.level ≠ .error) ∧
      (ds.filter fun d => d.code == "W0104") = List.replicate 2 {
        level := .warning
        code := "W0104"
        message := "extension GL_ARB_texture_gather is being used for textureGather"
        location := place } := by
  intro ctx place a names
  have hprofile : ProfileSet.desktop.contains ctx.profile = true := by decide
  have hquiet : ∀ n ∈ names, a.get n ≠ .enabled ∧ a.get n ≠ .required := by decide +kernel
  have hon : a.anyTurnedOn names = true := by decide +kernel
  refine ⟨rfl, hprofile, hquiet, fun r hr => ?_⟩
  obtain ⟨herrors, huses⟩ :=
    extension_questions_agree rfl hprofile a names place "textureGather" r hr
  exact ⟨herrors.mpr hon, (huses hquiet).trans (by decide +kernel)⟩

end Check

end GlslCompliance
