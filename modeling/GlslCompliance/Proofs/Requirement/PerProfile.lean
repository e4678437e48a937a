import GlslCompliance.Proofs.Requirement.Availability
import Mathlib.Data.List.Nodup

/-!
# Requirements profile by profile

A feature that only some profiles have is guarded in two steps: by a check that the profile is one
of these, and then for each of them by a check of the availability in that profile alone, with a
version and with extensions of its own. `Requirement.perProfile` is this pattern. Together its
checks say no more than one error:

* Availability checks for disjoint sets of profiles do not interfere. They say what the single check
  for all of these profiles says (`reportAll_availability_of_disjoint`).
* So the checks for each profile, in whichever order, say what one check says that has the version
  and the extensions of the current profile (`reportAll_perProfile`).
* What one check says is known, so the errors and the warnings of the pattern are
  (`errors_perProfile`, `extensionUses_perProfile`).
-/

namespace GlslCompliance

/-! ### Sets of profiles -/

theorem Profile.mem_all (p : Profile) : p ∈ Profile.all := by cases p <;> decide

theorem Profile.nodup_all : Profile.all.Nodup := by decide

namespace ProfileSet

variable {s : ProfileSet} {sets : List ProfileSet} {p : Profile}

/-- Two sets have no profile in common. -/
def Disjoint (s t : ProfileSet) : Prop := ∀ p, s.contains p = true → t.contains p = false

instance (s t : ProfileSet) : Decidable (s.Disjoint t) :=
  decidable_of_iff (∀ p ∈ Profile.all, s.contains p = true → t.contains p = false)
    ⟨fun h p => h p p.mem_all, fun h p _ => h p⟩

theorem mem_members : p ∈ s.members ↔ s.contains p = true := by
  rw [members, List.mem_filter]
  exact and_iff_right p.mem_all

theorem nodup_members (s : ProfileSet) : s.members.Nodup := Profile.nodup_all.filter _

/-- A union has the members of all its sets. -/
theorem contains_unions (sets : List ProfileSet) (p : Profile) :
    (unions sets).contains p = sets.any fun s => s.contains p := by
  have hfold : ∀ s, (sets.foldl union s).contains p =
      (s.contains p || sets.any fun t => t.contains p) := by
    induction sets with
    | nil => simp
    | cons t sets ih =>
      intro s
      rw [List.foldl_cons, ih, contains_union, List.any_cons, Bool.or_assoc]
  rw [unions, hfold, contains_empty, Bool.false_or]

theorem contains_unions_cons (s : ProfileSet) (sets : List ProfileSet) (p : Profile) :
    (unions (s :: sets)).contains p = (s.contains p || (unions sets).contains p) := by
  rw [contains_unions, contains_unions, List.any_cons]

/-- A set is the union of its members, listed in any order. -/
theorem unions_map_singleton {order : List Profile} (h : order.Perm s.members) :
    unions (order.map singleton) = s := by
  ext p
  have hmem : p ∈ order ↔ s.contains p = true := h.mem_iff.trans mem_members
  rw [Bool.eq_iff_iff, ← hmem, contains_unions, List.any_map]
  simp

theorem pairwise_disjoint_map_singleton {order : List Profile} (h : order.Nodup) :
    (order.map singleton).Pairwise Disjoint := by
  refine List.pairwise_map.mpr (h.imp fun {p r} hne q hq => ?_)
  have hp : p = q := by simpa using hq
  have hr : r ≠ q := fun hr => hne (hp.trans hr.symm)
  simpa using hr

end ProfileSet

/-- The requirements of a feature that some profiles have, each from a version of its own on or with
extensions of its own. -/
def Requirement.perProfile (allowed : ProfileSet) (order : List Profile)
    (minVersion : Profile → UInt32) (extensions : Profile → List String) : List Requirement :=
  .profile allowed :: order.map fun p => .availability (.singleton p) (minVersion p) (extensions p)

namespace Check

variable {ctx : Context} {a : Activation} {location : Location} {feature : String}
  {allowed : ProfileSet} {order : List Profile} {minVersion : Profile → UInt32}
  {extensions : Profile → List String}

theorem reportAll_cons (c : Check) (checks : List Check) :
    reportAll ctx a (c :: checks) = c.report ctx a ++ reportAll ctx a checks := List.flatMap_cons

/-! ### Disjoint sets -/

/-- Of the profiles that an availability check concerns, it matters only whether the current one is
among them. -/
theorem report_availability_congr {s t : ProfileSet}
    (h : s.contains ctx.profile = t.contains ctx.profile) (version : UInt32)
    (names : List String) :
    (Check.mk location feature (.availability s version names)).report ctx a =
      (Check.mk location feature (.availability t version names)).report ctx a := by
  by_cases hs : s.contains ctx.profile = true
  · rw [report_availability rfl hs, report_availability rfl (h ▸ hs)]
    rfl
  · have hother := eq_false_of_ne_true hs
    rw [report_availability_of_other rfl hother, report_availability_of_other rfl (h ▸ hother)]

/-- **Availability in disjoint sets of profiles.** The checks say what the one for their union
says. -/
theorem reportAll_availability_of_disjoint {sets : List ProfileSet}
    (h : sets.Pairwise ProfileSet.Disjoint) (version : UInt32) (names : List String) :
    reportAll ctx a (sets.map fun s => ⟨location, feature, .availability s version names⟩) =
      (Check.mk location feature (.availability (.unions sets) version names)).report ctx a := by
  induction sets with
  | nil => exact (report_availability_of_other rfl (ProfileSet.contains_empty _)).symm
  | cons s sets ih =>
    obtain ⟨hs, hsets⟩ := List.pairwise_cons.mp h
    have hunion := ProfileSet.contains_unions_cons s sets ctx.profile
    rw [List.map_cons, reportAll_cons, ih hsets]
    -- The current profile is in one of the sets at most. If it is in the first, the rest is silent.
    by_cases hp : s.contains ctx.profile = true
    · have hothers : (ProfileSet.unions sets).contains ctx.profile = false := by
        rw [ProfileSet.contains_unions, List.any_eq_false]
        intro t ht
        rw [hs t ht ctx.profile hp]
        exact Bool.false_ne_true
      have hsilent : (Check.mk location feature
          (.availability (.unions sets) version names)).report ctx a = [] :=
        report_availability_of_other rfl hothers
      rw [hothers, Bool.or_false] at hunion
      rw [hsilent, List.append_nil]
      exact report_availability_congr hunion.symm version names
    · have hother := eq_false_of_ne_true hp
      have hsilent : (Check.mk location feature
          (.availability s version names)).report ctx a = [] :=
        report_availability_of_other rfl hother
      rw [hother, Bool.false_or] at hunion
      rw [hsilent, List.nil_append]
      exact report_availability_congr hunion.symm version names

/-! ### Each profile on its own -/

/-- What other profiles ask for does not matter. -/
theorem report_availability_singleton (p : Profile) :
    (Check.mk location feature
        (.availability (.singleton p) (minVersion p) (extensions p))).report ctx a =
      (Check.mk location feature (.availability (.singleton p) (minVersion ctx.profile)
        (extensions ctx.profile))).report ctx a := by
  by_cases hp : p = ctx.profile
  · rw [hp]
  · have hother : (ProfileSet.singleton p).contains ctx.profile = false := by simpa using hp
    rw [report_availability_of_other rfl hother, report_availability_of_other rfl hother]

/-- **One check for each profile.** Together they say what one check for all of these profiles says
that asks for what the current profile needs. -/
theorem reportAll_perProfile (h : order.Perm allowed.members) :
    reportAll ctx a ((Requirement.perProfile allowed order minVersion extensions).map
        (Check.mk location feature)) =
      (Check.mk location feature (.profile allowed)).report ctx a ++
        (Check.mk location feature (.availability allowed (minVersion ctx.profile)
          (extensions ctx.profile))).report ctx a := by
  have hdisjoint : (order.map ProfileSet.singleton).Pairwise ProfileSet.Disjoint :=
    ProfileSet.pairwise_disjoint_map_singleton (h.nodup_iff.mpr allowed.nodup_members)
  -- Checks for other profiles are silent, so they may as well ask for what the current one needs.
  have hunion : reportAll ctx a ((order.map ProfileSet.singleton).map fun s =>
        ⟨location, feature, .availability s (minVersion ctx.profile) (extensions ctx.profile)⟩) =
      (Check.mk location feature (.availability allowed (minVersion ctx.profile)
        (extensions ctx.profile))).report ctx a := by
    rw [reportAll_availability_of_disjoint hdisjoint, ProfileSet.unions_map_singleton h]
  rw [Requirement.perProfile, List.map_cons, reportAll_cons, ← hunion, List.map_map, List.map_map,
    reportAll, reportAll, List.flatMap_map, List.flatMap_map]
  congr 1
  exact List.flatMap_congr fun p _ => report_availability_singleton p

/-- In a profile that lacks the feature, that is the error, and nothing else is said. -/
theorem reportAll_perProfile_of_other (h : order.Perm allowed.members)
    (hprofile : allowed.contains ctx.profile = false) :
    reportAll ctx a ((Requirement.perProfile allowed order minVersion extensions).map
        (Check.mk location feature)) =
      [(Check.mk location feature (.profile allowed)).profileError ctx.profile] := by
  rw [reportAll_perProfile h, report_profile rfl, hprofile,
    report_availability_of_other rfl hprofile]
  rfl

/-- In a profile that has the feature, its availability is the only question. -/
theorem reportAll_perProfile_of_contains (h : order.Perm allowed.members)
    (hprofile : allowed.contains ctx.profile = true) :
    reportAll ctx a ((Requirement.perProfile allowed order minVersion extensions).map
        (Check.mk location feature)) =
      (Check.mk location feature (.availability allowed (minVersion ctx.profile)
        (extensions ctx.profile))).report ctx a := by
  rw [reportAll_perProfile h, report_profile rfl, hprofile]
  rfl

/-! ### The outcome -/

theorem inCore_eq_true_iff {version minVersion : UInt32} :
    inCore version minVersion = true ↔ 0 < minVersion ∧ minVersion ≤ version := by
  rw [inCore, Bool.and_eq_true, decide_eq_true_iff, decide_eq_true_iff]

/-- A feature is provided by the version or by one of the extensions. -/
theorem provided_iff {version minVersion : UInt32} {names : List String} :
    (inCore version minVersion || a.anyTurnedOn names) = true ↔
      (0 < minVersion ∧ minVersion ≤ version) ∨
        ∃ n ∈ names, a.get n = .enabled ∨ a.get n = .required ∨ a.get n = .warn := by
  rw [Bool.or_eq_true, inCore_eq_true_iff, Activation.anyTurnedOn_eq_true_iff]

/-- The two errors have different codes. -/
theorem profileError_ne_availabilityError {c c' : Check} (p : Profile) :
    c.profileError p ≠ c'.availabilityError := by
  intro h
  have hcode : "C0001" = "C0002" := congrArg Diagnostic.code h
  exact absurd hcode (by decide)

/-- **Errors of the pattern.** A profile that lacks the feature is the only error there is; in a
profile that has it, availability is the only question. -/
theorem errors_perProfile (h : order.Perm allowed.members) :
    (reportAll ctx a ((Requirement.perProfile allowed order minVersion extensions).map
        (Check.mk location feature))).filter Diagnostic.isError =
      if allowed.contains ctx.profile then
        demand (inCore ctx.version (minVersion ctx.profile) ||
          a.anyTurnedOn (extensions ctx.profile))
            (Check.mk location feature (.profile allowed)).availabilityError
      else [(Check.mk location feature (.profile allowed)).profileError ctx.profile] := by
  by_cases hprofile : allowed.contains ctx.profile = true
  · rw [reportAll_perProfile_of_contains h hprofile, errors_availability rfl hprofile,
      if_pos hprofile]
    rfl
  · rw [reportAll_perProfile_of_other h (eq_false_of_ne_true hprofile), if_neg hprofile]
    rfl

/-- **Warnings of the pattern.** They are about the extensions that the current profile asks for. -/
theorem extensionUses_perProfile (h : order.Perm allowed.members) :
    (reportAll ctx a ((Requirement.perProfile allowed order minVersion extensions).map
        (Check.mk location feature))).filter Diagnostic.isExtensionUse =
      if allowed.contains ctx.profile then
        (Check.mk location feature (.profile allowed)).useWarnings a (extensions ctx.profile)
      else [] := by
  by_cases hprofile : allowed.contains ctx.profile = true
  · rw [reportAll_perProfile_of_contains h hprofile, extensionUses_availability rfl hprofile,
      if_pos hprofile]
    rfl
  · rw [reportAll_perProfile_of_other h (eq_false_of_ne_true hprofile), if_neg hprofile]
    rfl

/-- The pattern says its warnings, then its errors, and nothing else. -/
theorem reportAll_perProfile_eq_append (h : order.Perm allowed.members) :
    let ds := reportAll ctx a ((Requirement.perProfile allowed order minVersion extensions).map
      (Check.mk location feature))
    ds = ds.filter Diagnostic.isExtensionUse ++ ds.filter Diagnostic.isError := by
  intro ds
  rw [extensionUses_perProfile h, errors_perProfile h]
  by_cases hprofile : allowed.contains ctx.profile = true
  · rw [if_pos hprofile, if_pos hprofile]
    exact (reportAll_perProfile_of_contains h hprofile).trans (report_availability rfl hprofile)
  · rw [if_neg hprofile, if_neg hprofile]
    exact reportAll_perProfile_of_other h (eq_false_of_ne_true hprofile)

/-- **The pattern of checks for a feature is sound.** A check that the profile is one of those that
have the feature, and for each of these, in any order, one check of the availability there:

* together they report at most one error. It is about the profile exactly if the current one lacks
  the feature, and about the availability exactly if the current one has the feature and neither its
  version nor one of its extensions provides it;
* they warn of each place in the list of the current profile that holds an extension which is on
  with a warning, in the order of the list, whether the version is enough or not. In a profile that
  lacks the feature they do not. Nothing else is said.

Availability checks for sets of profiles of which no two have a profile in common, which ask for the
same, report what the one for their union reports. -/
theorem perProfile_outcome (ctx : Context) (a : Activation) (location : Location) (feature : String)
    {allowed : ProfileSet} {order : List Profile} (horder : order.Perm allowed.members)
    (minVersion : Profile → UInt32) (extensions : Profile → List String)
    {sets : List ProfileSet} (hsets : sets.Pairwise ProfileSet.Disjoint) (version : UInt32)
    (names : List String) :
    let q := ctx.profile
    let provided := (0 < minVersion q ∧ minVersion q ≤ ctx.version) ∨
      ∃ n ∈ extensions q, a.get n = .enabled ∨ a.get n = .required ∨ a.get n = .warn
    let ds := reportAll ctx a ((Requirement.perProfile allowed order minVersion extensions).map
      (Check.mk location feature))
    let errors := ds.filter fun d => d.level == .error
    let uses := ds.filter fun d => d.code == "W0104"
    errors.length ≤ 1 ∧
    (errors = [{
        level := .error
        code := "C0001"
        message := "'" ++ feature ++ "' : not supported with this profile: " ++ q.name
        location }] ↔ allowed.contains q = false) ∧
    (errors = [{
        level := .error
        code := "C0002"
        message := "'" ++ feature ++
          "' : not supported for this version or the enabled extensions"
        location }] ↔ allowed.contains q = true ∧ ¬ provided) ∧
    (errors = [] ↔ allowed.contains q = true ∧ provided) ∧
    uses = (if allowed.contains q then
      ((extensions q).filter fun n => a.get n = .warn).map fun n => {
        level := .warning
        code := "W0104"
        message := "extension " ++ n ++ " is being used for " ++ feature
        location }
      else []) ∧
    ds = uses ++ errors ∧
    reportAll ctx a (sets.map fun s => ⟨location, feature, .availability s version names⟩) =
      (Check.mk location feature (.availability (.unions sets) version names)).report ctx a := by
  intro q provided ds errors uses
  let c : Check := ⟨location, feature, .profile allowed⟩
  have hdiffer : c.profileError q ≠ c.availabilityError := profileError_ne_availabilityError q
  have herrors : errors =
      if allowed.contains q then if provided then [] else [c.availabilityError]
      else [c.profileError q] := by
    refine (errors_perProfile horder).trans ?_
    rw [demand, if_congr provided_iff rfl rfl]
  have houtcome : errors.length ≤ 1 ∧
      (errors = [c.profileError q] ↔ allowed.contains q = false) ∧
      (errors = [c.availabilityError] ↔ allowed.contains q = true ∧ ¬ provided) ∧
      (errors = [] ↔ allowed.contains q = true ∧ provided) := by
    rw [herrors]
    by_cases hprofile : allowed.contains q = true
    · by_cases hmet : provided
      · simp [hprofile, hmet]
      · simp [hprofile, hmet, hdiffer.symm]
    · simp [hprofile, hdiffer]
  obtain ⟨hlength, hwrongProfile, hnotAvailable, hnone⟩ := houtcome
  exact ⟨hlength, hwrongProfile, hnotAvailable, hnone, extensionUses_perProfile horder,
    reportAll_perProfile_eq_append horder, reportAll_availability_of_disjoint hsets version names⟩

/-- In the compatibility profile one extension is on with a warning, and it provides what the
version does not. -/
theorem perProfile_outcome_gather :
    let ctx : Context := { profile := .compatibility, version := 330 }
    let place : Location := ⟨"main.frag", 5, 3⟩
    let a : Activation := (Activation.initial.assign "GL_ARB_texture_gather" .warn place).1
    let allowed : ProfileSet := .complement (.singleton .none)
    let order : List Profile := [.es, .compatibility, .core]
    let minVersion (p : Profile) : UInt32 := if p.isEs then 310 else 400
    let extensions (p : Profile) : List String :=
      if p.isEs then [] else ["GL_ARB_gpu_shader5", "GL_ARB_texture_gather"]
    let sets : List ProfileSet := [.singleton .es, .union (.singleton .core) (.singleton .none)]
    let ds := reportAll ctx a ((Requirement.perProfile allowed order minVersion extensions).map
      (Check.mk place "textureGather"))
    order.Perm allowed.members ∧ sets.Pairwise ProfileSet.Disjoint ∧
    (ds.filter fun d => d.level == .error) = [] ∧
    (ds.filter fun d => d.code == "W0104") = [{
      level := .warning
      code := "W0104"
      message := "extension GL_ARB_texture_gather is being used for textureGather"
      location := place }] ∧
    reportAll ctx a (sets.map fun s => ⟨place, "textureGather", .availability s 400 []⟩) =
      (Check.mk place "textureGather" (.availability (.unions sets) 400 [])).report ctx a := by
  intro ctx place a allowed order minVersion extensions sets ds
  have horder : order.Perm allowed.members := by decide
  have hsets : sets.Pairwise ProfileSet.Disjoint := by decide
  have hprofile : allowed.contains ctx.profile = true := by decide
  have hwarn : a.get "GL_ARB_texture_gather" = .warn := by decide +kernel
  obtain ⟨-, -, -, herrors, huses, -, hunion⟩ :=
    perProfile_outcome ctx a place "textureGather" horder minVersion extensions hsets 400 []
  refine ⟨horder, hsets, herrors.mpr ⟨hprofile, .inr ?_⟩, huses.trans (by decide +kernel), hunion⟩
  exact ⟨"GL_ARB_texture_gather", by decide, .inr (.inr hwarn)⟩

end Check

end GlslCompliance
