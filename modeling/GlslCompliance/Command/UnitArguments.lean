import GlslCompliance.Command.UsageError
import GlslCompliance.Unit.Loading

/-!
# The unit on the command line

A unit is described by a file, by settings and switches, or by both. `UnitArguments.merge` says how
the arguments change a description, and `UnitArguments.description` how a description comes about.
-/

namespace GlslCompliance.Command

/-- What a command line says about a unit. -/
structure UnitArguments where
  /-- The path of the file that describes the unit. -/
  config : Option String := none
  profile : Option Profile := none
  version : Option UInt32 := none
  stage : Option Stage := none
  vulkan : Option UInt32 := none
  openGl : Option UInt32 := none
  spv : Option UInt32 := none
  forwardCompatible : Bool := false
  relaxedErrors : Bool := false
  suppressWarnings : Bool := false
  requests : List ExtensionRequest := []
  deriving DecidableEq, Repr

namespace UnitArguments

/-! ### Values -/

/-- Reads a number of 32 bits without sign. -/
def parseWord (s : String) : Except ValueError UInt32 :=
  match Decimal.parseInteger s.toList with
  | .error e => .error (.integer e)
  | .ok n => if 0 ≤ n ∧ n < UInt32.size then .ok n.toNat.toUInt32 else .error (.outOfRange n)

/-- Whether a setting has been given already, where that counts. -/
def isGiven (u : UnitArguments) : Setting → Bool
  | .config => u.config.isSome
  | .profile => u.profile.isSome
  | .version => u.version.isSome
  | .stage => u.stage.isSome
  | .vulkan => u.vulkan.isSome
  | .openGl => u.openGl.isSome
  | .spv => u.spv.isSome
  | .extension => false

/-- Reads the value of a setting. -/
def set (u : UnitArguments) (value : String) : Setting → Except ValueError UnitArguments
  | .config => .ok { u with config := some value }
  | .profile => ((Profile.parse value).mapError .name).map fun p => { u with profile := some p }
  | .version => (parseWord value).map fun n => { u with version := some n }
  | .stage => ((Stage.parse value).mapError .name).map fun t => { u with stage := some t }
  | .vulkan => (parseWord value).map fun n => { u with vulkan := some n }
  | .openGl => (parseWord value).map fun n => { u with openGl := some n }
  | .spv => (parseWord value).map fun n => { u with spv := some n }
  | .extension =>
    ((ExtensionRequest.parse value).mapError .name).map fun r =>
      { u with requests := u.requests ++ [r] }

/-- Takes a setting. Only requests may be given again, and the path must not be empty. -/
def give (u : UnitArguments) (setting : Setting) (value : String) :
    Except UsageError UnitArguments :=
  if u.isGiven setting then .error (.repeatedSetting setting)
  else if setting = .config ∧ value = "" then .error (.missingValue setting)
  else (u.set value setting).mapError (.invalidValue setting value)

/-! ### Description -/

/-- The targets changed by the arguments: the Vulkan flavour of the language implies the Vulkan
environment of the same revision. -/
def mergeTargets (u : UnitArguments) (t : Targets) : Targets where
  spv := u.spv.getD t.spv
  vulkanGlsl := u.vulkan.getD t.vulkanGlsl
  vulkan := u.vulkan.getD t.vulkan
  openGl := u.openGl.getD t.openGl

/-- The context changed by the arguments: settings replace, switches can only turn on. -/
def mergeContext (u : UnitArguments) (c : Context) : Context where
  profile := u.profile.getD c.profile
  version := u.version.getD c.version
  stage := u.stage.getD c.stage
  forwardCompatible := c.forwardCompatible || u.forwardCompatible
  targets := u.mergeTargets c.targets
  messages :=
    { relaxedErrors := c.messages.relaxedErrors || u.relaxedErrors,
      suppressWarnings := c.messages.suppressWarnings || u.suppressWarnings }

/-- The description changed by the arguments; their requests come last. -/
def merge (u : UnitArguments) (d : UnitDescription) : UnitDescription where
  context := u.mergeContext d.context
  requests := d.requests ++ u.requests

/-- The description of the unit where no file describes it. -/
def standalone (u : UnitArguments) : UnitDescription :=
  .new (u.profile.getD default) (u.version.getD 450)

/-- The description that the arguments start from. -/
def base (u : UnitArguments) (read : String → Except ReadFailure String) :
    Except LoadError UnitDescription :=
  match u.config with
  | none => .ok u.standalone
  | some path => UnitDescription.load path (read path)

/-- The description of the unit; `read` gives the text of a file. -/
def description (u : UnitArguments) (read : String → Except ReadFailure String) :
    Except LoadError UnitDescription :=
  (u.base read).map u.merge

end UnitArguments

end GlslCompliance.Command
