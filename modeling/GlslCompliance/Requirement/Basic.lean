import GlslCompliance.Extension.Activation
import GlslCompliance.Language.Context

/-!
# Requirements of features

A feature of the language may be used only under some requirement: in certain profiles or stages,
from a version on, with an extension, for a target. `Requirement.report` gives the diagnostics of
one such requirement. It reads the context and the active extensions and changes neither, so
checks do not influence each other.
-/

namespace GlslCompliance

/-- A condition on the use of a feature. -/
inductive Requirement where
  /-- The profile is one of these. -/
  | profile (allowed : ProfileSet)
  /-- In these profiles, the version is at least the given one or one of the extensions is on; in
  version 0 no version will do. -/
  | availability (profiles : ProfileSet) (minVersion : UInt32) (extensions : List String)
  /-- The stage is one of these. -/
  | stage (allowed : StageSet)
  /-- In these profiles the feature is deprecated from a version on. -/
  | notDeprecated (profiles : ProfileSet) (since : UInt32)
  /-- In these profiles the feature is gone from a version on. -/
  | notRemoved (profiles : ProfileSet) (since : UInt32)
  /-- One of the extensions has been requested. -/
  | extensions (names : List String)
  /-- One of the extensions has been requested, for a feature of the preprocessor. -/
  | directiveExtensions (names : List String)
  | notForSpirv
  | notForVulkan
  | onlyForVulkan
  | onlyForSpirv
  /-- The feature is implemented, which it never is. -/
  | implemented
  deriving DecidableEq, Repr

/-- A requirement of a feature, at the place where the feature is used. -/
structure Check where
  location : Location
  feature : String
  requirement : Requirement
  deriving DecidableEq, Repr

namespace Requirement

/-- For a feature that one stage alone has. -/
def singleStage (t : Stage) : Requirement := .stage (.singleton t)

end Requirement

namespace Check

/-- The report that a requirement is not met: the feature, the reason, and what belongs to it. -/
def violation (rule : Rule) (c : Check) (reason detail : String) : Diagnostic :=
  let tail := if detail.isEmpty then "" else " " ++ detail
  rule.report ("'" ++ c.feature ++ "' : " ++ reason ++ tail) c.location

/-- The warning that a feature makes use of an extension. -/
def extensionInUse (c : Check) (extension : String) : Diagnostic :=
  Rule.extensionInUse.report
    ("extension " ++ extension ++ " is being used for " ++ c.feature) c.location

/-- The warning for an extension that ought to be enabled and is tolerated. -/
def extensionTolerated (c : Check) (extension : String) : Diagnostic :=
  (c.extensionInUse extension).addNote (extension ++ " must be enabled to use this feature")

/-- The diagnostics of a requirement that fails unless a condition holds. -/
def demand (condition : Bool) (d : Diagnostic) : List Diagnostic := if condition then [] else [d]

/-- Whether a feature is part of the language from a version on; version 0 stands for never. -/
def inCore (version minVersion : UInt32) : Bool := 0 < minVersion && minVersion ≤ version

/-- Goes through the listed extensions, with what is known so far about whether the feature is
provided. Each one that is on provides it, and one that is on with a warning is spoken of. -/
def useExtensions (c : Check) (a : Activation) (provided : Bool) :
    List String → Bool × List Diagnostic
  | [] => (provided, [])
  | name :: names =>
    match a.get name with
    | .warn =>
      let (provided, uses) := c.useExtensions a true names
      (provided, c.extensionInUse name :: uses)
    | .enabled | .required => c.useExtensions a true names
    | _ => c.useExtensions a provided names

/-- The diagnostics where the version or one of several extensions has to provide a feature. The
extensions are gone through also where the version is enough. -/
def reportAvailability (c : Check) (version : UInt32) (a : Activation) (minVersion : UInt32)
    (names : List String) : List Diagnostic :=
  let (provided, uses) := c.useExtensions a (inCore version minVersion) names
  uses ++ demand provided
    (c.violation .notAvailable "not supported for this version or the enabled extensions" "")

/-- What one listed extension has to say where none is requested: it warns, it is tolerated, or
nothing. -/
def tolerance (c : Check) (relaxed : Bool) (a : Activation) (name : String) :
    Option Diagnostic :=
  match a.get name with
  | .warn => some (c.extensionInUse name)
  | .disabled => if relaxed then some (c.extensionTolerated name) else none
  | _ => none

/-- The error that no listed extension is requested, with the candidates where there is a choice. -/
def notRequested (c : Check) (rule : Rule) (names : List String) : List Diagnostic :=
  let reason := "required extension not requested:"
  match names with
  | [name] => [c.violation rule reason name]
  | _ =>
    c.violation rule reason "Possible extensions include:"
      :: names.map fun name => Rule.extensionCandidate.report name c.location

/-- The diagnostics where one of several extensions has to be requested. A requested one satisfies
in silence; else those that warn or are tolerated satisfy with a warning each; else it is an
error. -/
def reportExtensions (c : Check) (rule : Rule) (relaxed : Bool) (a : Activation)
    (names : List String) : List Diagnostic :=
  if names.any fun name => (a.get name).isRequested then []
  else
    match names.filterMap (c.tolerance relaxed a) with
    | [] => c.notRequested rule names
    | warnings => warnings

/-- The diagnostics where a feature is deprecated: an error in a forward compatible context, else a
warning that can be suppressed. -/
def reportDeprecated (c : Check) (ctx : Context) (since : UInt32) : List Diagnostic :=
  if ctx.forwardCompatible then
    [c.violation .deprecatedFeature "deprecated, may be removed in future release" ""]
  else if ctx.messages.suppressWarnings then []
  else
    [Rule.deprecationNotice.report
      (c.feature ++ " deprecated in version " ++ toString since.toNat
        ++ "; may be removed in future release") c.location]

/-- The diagnostics of a check. -/
def report (ctx : Context) (a : Activation) (c : Check) : List Diagnostic :=
  match c.requirement with
  | .profile allowed =>
    demand (allowed.contains ctx.profile)
      (c.violation .wrongProfile "not supported with this profile:" ctx.profile.name)
  | .availability profiles minVersion names =>
    if profiles.contains ctx.profile then c.reportAvailability ctx.version a minVersion names
    else []
  | .stage allowed =>
    demand (allowed.contains ctx.stage)
      (c.violation .wrongStage "not supported in this stage:" ctx.stage.name)
  | .notDeprecated profiles since =>
    if profiles.contains ctx.profile && since ≤ ctx.version then c.reportDeprecated ctx since
    else []
  | .notRemoved profiles since =>
    demand (!(profiles.contains ctx.profile && since ≤ ctx.version))
      (c.violation .removedFeature "no longer supported in"
        (ctx.profile.name ++ " profile; removed in version " ++ toString since.toNat))
  | .extensions names =>
    c.reportExtensions .extensionNotRequested ctx.messages.relaxedErrors a names
  | .directiveExtensions names =>
    c.reportExtensions .directiveExtensionNotRequested ctx.messages.relaxedErrors a names
  | .notForSpirv =>
    demand (ctx.targets.spv == 0)
      (c.violation .wrongTarget "not allowed when generating SPIR-V" "")
  | .notForVulkan =>
    demand (ctx.targets.vulkan < 100)
      (c.violation .wrongTarget "not allowed when using GLSL for Vulkan" "")
  | .onlyForVulkan =>
    demand (ctx.targets.vulkan != 0)
      (c.violation .wrongTarget "only allowed when using GLSL for Vulkan" "")
  | .onlyForSpirv =>
    demand (ctx.targets.spv != 0)
      (c.violation .wrongTarget "only allowed when generating SPIR-V" "")
  | .implemented => [c.violation .notImplemented "feature not yet implemented" ""]

/-- The diagnostics of several checks, in order. -/
def reportAll (ctx : Context) (a : Activation) (checks : List Check) : List Diagnostic :=
  checks.flatMap (report ctx a)

end Check

end GlslCompliance
