import GlslCompliance.Proofs.Requirement.PerProfile
import GlslCompliance.Proofs.Requirement.Rules
import GlslCompliance.Requirement.Numeric

/-!
# Numeric types

All that the use of a numeric type reports, for every context, activation and feature
(`numeric_outcome`). The types of other than 32 bits are guarded profile by profile with the same
version for both profiles, so their checks give one error at most (`reportAll_sizedFrom`). Three of
these types ask for an extension first. What this request reports has no part in the rest, and the
rest has no part in it (`reportAll_of_guarded`).
-/

namespace GlslCompliance

theorem Behavior.satisfies_eq_true_iff {b : Behavior} {relaxed : Bool} :
    b.satisfies relaxed = true ↔
      b = .enabled ∨ b = .required ∨ b = .warn ∨ b = .disabled ∧ relaxed = true := by
  cases b <;> cases relaxed <;> decide

/-- Whether a diagnostic is about the profile or the availability of a feature. -/
def Diagnostic.isAvailability (d : Diagnostic) : Bool := d.code == "C0001" || d.code == "C0002"

namespace NumericUse

variable {ctx : Context} {a : Activation} {u : NumericUse} {version : UInt32}

/-- The error that the profile lacks the type. -/
def profileError (u : NumericUse) (p : Profile) : Diagnostic :=
  (u.check (.profile sizedProfiles)).profileError p

/-- The error that the version lacks the type. -/
def availabilityError (u : NumericUse) : Diagnostic :=
  (u.check (.profile sizedProfiles)).availabilityError

/-! ### One version -/

/-- Where no extension will do, it is the version that decides. -/
theorem report_availability_of_version {profiles : ProfileSet}
    (hprofile : profiles.contains ctx.profile = true) (hversion : 0 < version) :
    (u.check (.availability profiles version [])).report ctx a =
      if ctx.version < version then [u.availabilityError] else [] := by
  have hmet : (Check.inCore ctx.version version || a.anyTurnedOn []) = true ↔
      ¬ ctx.version < version := by
    have hnone : a.anyTurnedOn [] = false := rfl
    rw [hnone, Bool.or_false, Check.inCore_eq_true_iff, and_iff_right hversion, UInt32.not_lt]
  rw [Check.report_availability rfl hprofile, Check.demand, if_congr hmet rfl rfl, ite_not]
  exact List.nil_append _

/-- A check of one profile concerns no other. -/
theorem report_fromVersion (p : Profile) (hversion : 0 < version) :
    (u.check (fromVersion p version)).report ctx a =
      if ctx.profile = p ∧ ctx.version < version then [u.availabilityError] else [] := by
  by_cases hp : ctx.profile = p
  · have hprofile : (ProfileSet.singleton p).contains ctx.profile = true := by simpa using hp.symm
    rw [fromVersion, report_availability_of_version hprofile hversion,
      if_congr (and_iff_right hp) rfl rfl]
  · have hprofile : (ProfileSet.singleton p).contains ctx.profile = false := by
      simpa using Ne.symm hp
    rw [fromVersion, Check.report_availability_of_other rfl hprofile, if_neg fun h => hp h.1]

/-- **Integers of 32 bits.** Two profiles lack them in early versions, and the others have them. -/
theorem reportAll_fullInteger (location : Location) (feature : String) :
    Check.reportAll ctx a (checks ⟨location, feature, .fullInteger, false⟩) =
      if ctx.profile = .none ∧ ctx.version < 130 ∨ ctx.profile = .es ∧ ctx.version < 300 then
        [availabilityError ⟨location, feature, .fullInteger, false⟩]
      else [] := by
  let u : NumericUse := ⟨location, feature, .fullInteger, false⟩
  have hchecks : u.checks = [u.check (fromVersion .none 130), u.check (fromVersion .es 300)] := rfl
  have hnothing : Check.reportAll ctx a [] = [] := rfl
  rw [hchecks, Check.reportAll_cons, Check.reportAll_cons, hnothing, List.append_nil,
    report_fromVersion _ (by decide), report_fromVersion _ (by decide)]
  by_cases hnone : ctx.profile = .none
  · have hes : ¬ (ctx.profile = .es ∧ ctx.version < 300) := fun h => nomatch hnone.symm.trans h.1
    rw [if_neg hes, List.append_nil, if_congr (or_iff_left hes) rfl rfl]
  · have hearly : ¬ (ctx.profile = .none ∧ ctx.version < 130) := fun h => hnone h.1
    rw [if_neg hearly, List.nil_append, if_congr (or_iff_right hearly) rfl rfl]

/-! ### Types of other than 32 bits -/

/-- Two profiles lack the types of other than 32 bits. -/
theorem contains_sizedProfiles_eq_false_iff {p : Profile} :
    sizedProfiles.contains p = false ↔ p = .none ∨ p = .es := by
  cases p <;> decide

theorem sizedProfile_iff {p : Profile} :
    ¬ (p = .none ∨ p = .es) ↔ p = .core ∨ p = .compatibility := by
  cases p <;> decide

/-- **Types of other than 32 bits.** The profile is a wrong one, or the version is too early, or
nothing is said. -/
theorem reportAll_sizedFrom (hversion : 0 < version) :
    Check.reportAll ctx a ((sizedFrom version).map u.check) =
      if ctx.profile = .none ∨ ctx.profile = .es then [u.profileError ctx.profile]
      else if ctx.version < version then [u.availabilityError] else [] := by
  have horder : [Profile.core, .compatibility].Perm sizedProfiles.members := by decide
  have hpattern : (sizedFrom version).map u.check =
      (Requirement.perProfile sizedProfiles [.core, .compatibility] (fun _ => version)
        fun _ => []).map (Check.mk u.location u.feature) := rfl
  rw [hpattern]
  by_cases hlacks : ctx.profile = .none ∨ ctx.profile = .es
  · have hprofile := contains_sizedProfiles_eq_false_iff.mpr hlacks
    rw [if_pos hlacks]
    exact Check.reportAll_perProfile_of_other horder hprofile
  · have hprofile := eq_true_of_ne_false (mt contains_sizedProfiles_eq_false_iff.mp hlacks)
    rw [if_neg hlacks, Check.reportAll_perProfile_of_contains horder hprofile]
    exact report_availability_of_version hprofile hversion

/-- The types are free of errors in the other two profiles from their version on. -/
theorem errors_sizedFrom_eq_nil_iff (hversion : 0 < version) :
    (Check.reportAll ctx a ((sizedFrom version).map u.check)).filter Diagnostic.isError = [] ↔
      (ctx.profile = .core ∨ ctx.profile = .compatibility) ∧ version ≤ ctx.version := by
  rw [reportAll_sizedFrom hversion, ← sizedProfile_iff, ← UInt32.not_lt]
  by_cases hlacks : ctx.profile = .none ∨ ctx.profile = .es
  · rw [if_pos hlacks]
    exact iff_of_false (List.cons_ne_nil _ _) fun h => h.1 hlacks
  · rw [if_neg hlacks]
    by_cases hearly : ctx.version < version
    · rw [if_pos hearly]
      exact iff_of_false (List.cons_ne_nil _ _) fun h => h.2 hearly
    · rw [if_neg hearly]
      exact iff_of_true rfl ⟨hlacks, hearly⟩

/-- The checks for one of these types give at most one diagnostic. -/
theorem length_sizedFrom_le (hversion : 0 < version) :
    (Check.reportAll ctx a ((sizedFrom version).map u.check)).length ≤ 1 := by
  rw [reportAll_sizedFrom hversion]
  split
  · exact Nat.le_refl 1
  · split
    · exact Nat.le_refl 1
    · exact Nat.zero_le 1

/-! ### Types with an extension -/

/-- The types that ask for an extension: what the request is for, and the extension. -/
def guarded : List (NumericType × String × String) :=
  [(.int16, "shader int16", "GL_AMD_gpu_shader_int16"),
    (.float16, "shader half float", "GL_AMD_gpu_shader_half_float"),
    (.int64, "shader int64", "GL_ARB_gpu_shader_int64")]

section Guarded

variable {t : NumericType} {name extension : String}

/-- The request for the extension is made first, and the rest does not depend on its outcome. -/
theorem reportAll_of_guarded (h : (t, name, extension) ∈ guarded) (location : Location)
    (feature : String) :
    Check.reportAll ctx a (checks ⟨location, feature, t, false⟩) =
      (Check.mk location name (.extensions [extension])).report ctx a ++
        Check.reportAll ctx a ((sizedFrom 450).map (check ⟨location, feature, t, false⟩)) := by
  simp only [guarded, List.mem_cons, List.not_mem_nil, or_false, Prod.mk.injEq] at h
  rcases h with ⟨rfl, rfl, rfl⟩ | ⟨rfl, rfl, rfl⟩ | ⟨rfl, rfl, rfl⟩
  · exact Check.reportAll_cons _ _
  · exact Check.reportAll_cons _ _
  · exact Check.reportAll_cons _ _

/-- A request for an extension has nothing to say about profile and availability. -/
theorem filter_isAvailability_request (location : Location) (name extension : String) :
    ((Check.mk location name (.extensions [extension])).report ctx a).filter
      Diagnostic.isAvailability = [] := by
  refine List.filter_eq_nil_iff.mpr fun d hd => ?_
  have hprofile : d.code ≠ "C0001" :=
    Check.code_ne_of_mem_report hd (by simp [Requirement.rules, Rule.code])
  have hversion : d.code ≠ "C0002" :=
    Check.code_ne_of_mem_report hd (by simp [Requirement.rules, Rule.code])
  rw [Diagnostic.isAvailability, beq_eq_false_iff_ne.mpr hprofile,
    beq_eq_false_iff_ne.mpr hversion]
  exact Bool.false_ne_true

/-- With an extension to ask for, the request has to be satisfied as well. -/
theorem errors_of_guarded_eq_nil_iff (h : (t, name, extension) ∈ guarded) (location : Location)
    (feature : String) :
    (Check.reportAll ctx a (checks ⟨location, feature, t, false⟩)).filter Diagnostic.isError = [] ↔
      (a.get extension).satisfies ctx.messages.relaxedErrors = true ∧
        (ctx.profile = .core ∨ ctx.profile = .compatibility) ∧ 450 ≤ ctx.version := by
  have hsatisfied : Check.satisfied ctx.messages.relaxedErrors a [extension] =
      (a.get extension).satisfies ctx.messages.relaxedErrors := Bool.or_false _
  rw [reportAll_of_guarded h, List.filter_append, List.append_eq_nil_iff,
    Check.errors_request_eq_nil_iff rfl, hsatisfied, errors_sizedFrom_eq_nil_iff (by decide)]

end Guarded

/-- **No type is refused twice** for the profile or for the version. -/
theorem length_filter_isAvailability_le (t : NumericType) (location : Location)
    (feature : String) :
    ((Check.reportAll ctx a (checks ⟨location, feature, t, false⟩)).filter
      Diagnostic.isAvailability).length ≤ 1 := by
  have hsized : ∀ {version : UInt32}, 0 < version → ((Check.reportAll ctx a
      ((sizedFrom version).map (check ⟨location, feature, t, false⟩))).filter
        Diagnostic.isAvailability).length ≤ 1 := fun hversion =>
    Nat.le_trans (List.length_filter_le _ _) (length_sizedFrom_le hversion)
  have hguarded : ∀ {name extension : String}, (t, name, extension) ∈ guarded →
      ((Check.reportAll ctx a (checks ⟨location, feature, t, false⟩)).filter
        Diagnostic.isAvailability).length ≤ 1 := by
    intro name extension h
    rw [reportAll_of_guarded h, List.filter_append, filter_isAvailability_request, List.nil_append]
    exact hsized (by decide)
  cases t with
  | fullInteger =>
    rw [reportAll_fullInteger]
    split
    · exact Nat.le_refl 1
    · exact Nat.zero_le 1
  | double => exact hsized (by decide : (0 : UInt32) < 400)
  | int16 => exact hguarded (.head _)
  | float16 => exact hguarded (.tail _ (.head _))
  | int64 => exact hguarded (.tail _ (.tail _ (.head _)))

/-! ### The outcome -/

/-- **The outcome of the use of a numeric type** outside built-in declarations:

* full integers are an error without a profile before version 130 and in the embedded profile before
  version 300, and nothing is said otherwise;
* double precision numbers are one error without a profile and in the embedded profile, and in the
  other profiles one error before version 400 and nothing from there on;
* the other types report what the request for their extension reports, and then the same as double
  precision numbers do, with version 450. So they are free of errors exactly if their extension is
  enabled, required, on with a warning, or disabled and tolerated, and the profile is one of the two
  that have them, in version 450 or later;
* no type is refused both for the profile and for the version, or twice for one of them.

In built-in declarations nothing is said. -/
theorem numeric_outcome (ctx : Context) (a : Activation) (location : Location) (feature : String) :
    let ds (t : NumericType) := Check.reportAll ctx a (checks ⟨location, feature, t, false⟩)
    let wrongProfile : Diagnostic := {
      level := .error
      code := "C0001"
      message := "'" ++ feature ++ "' : not supported with this profile: " ++ ctx.profile.name
      location }
    let notAvailable : Diagnostic := {
      level := .error
      code := "C0002"
      message := "'" ++ feature ++ "' : not supported for this version or the enabled extensions"
      location }
    let sized (version : UInt32) : List Diagnostic :=
      if ctx.profile = .none ∨ ctx.profile = .es then [wrongProfile]
      else if ctx.version < version then [notAvailable] else []
    ds .fullInteger =
      (if ctx.profile = .none ∧ ctx.version < 130 ∨ ctx.profile = .es ∧ ctx.version < 300 then
        [notAvailable]
      else []) ∧
    ds .double = sized 400 ∧
    (∀ g ∈ [(NumericType.int16, "shader int16", "GL_AMD_gpu_shader_int16"),
        (.float16, "shader half float", "GL_AMD_gpu_shader_half_float"),
        (.int64, "shader int64", "GL_ARB_gpu_shader_int64")],
      let b := a.get g.2.2
      ds g.1 = (Check.mk location g.2.1 (.extensions [g.2.2])).report ctx a ++ sized 450 ∧
      ((∀ d ∈ ds g.1, d.level ≠ .error) ↔
        (b = .enabled ∨ b = .required ∨ b = .warn ∨
          b = .disabled ∧ ctx.messages.relaxedErrors = true) ∧
        (ctx.profile = .core ∨ ctx.profile = .compatibility) ∧ 450 ≤ ctx.version)) ∧
    (∀ t, ((ds t).filter fun d => d.code == "C0001" || d.code == "C0002").length ≤ 1) ∧
    ∀ t, Check.reportAll ctx a (checks ⟨location, feature, t, true⟩) = [] := by
  intro ds wrongProfile notAvailable sized
  have hsized : ∀ {t : NumericType} {version : UInt32}, 0 < version → Check.reportAll ctx a
      ((sizedFrom version).map (check ⟨location, feature, t, false⟩)) = sized version :=
    fun hversion => reportAll_sizedFrom hversion
  refine ⟨reportAll_fullInteger location feature, hsized (by decide), ?_,
    fun t => length_filter_isAvailability_le t location feature, fun _ => rfl⟩
  rintro ⟨t, name, extension⟩ hg b
  have hparts : ds t =
      (Check.mk location name (.extensions [extension])).report ctx a ++ sized 450 := by
    rw [← hsized (t := t) (by decide)]
    exact reportAll_of_guarded hg location feature
  refine ⟨hparts, ?_⟩
  rw [Diagnostic.forall_level_ne_error_iff, ← Behavior.satisfies_eq_true_iff]
  exact errors_of_guarded_eq_nil_iff hg location feature

end NumericUse

end GlslCompliance
