import GlslCompliance.Language.Profile
import GlslCompliance.Language.Stage

/-!
# The context of a unit

The facts about a compilation unit that every check may consult and none changes: profile, version,
stage, target environments and how messages are given.
-/

namespace GlslCompliance

/-- The environments a unit is compiled for. Zero means that an environment is not targeted. -/
structure Targets where
  /-- The generation of the intermediate representation. -/
  spv : UInt32 := 0
  /-- The revision of the Vulkan flavour of the language. -/
  vulkanGlsl : UInt32 := 0
  vulkan : UInt32 := 0
  openGl : UInt32 := 0
  deriving DecidableEq, Repr

/-- How messages are given. -/
structure MessageOptions where
  /-- A missing extension is a warning instead of an error. -/
  relaxedErrors : Bool := false
  /-- Deprecation warnings are left out. -/
  suppressWarnings : Bool := false
  deriving DecidableEq, Repr

/-- The facts about a compilation unit. -/
structure Context where
  profile : Profile := .core
  version : UInt32
  stage : Stage := .vertex
  /-- A deprecated feature is an error. -/
  forwardCompatible : Bool := false
  targets : Targets := {}
  messages : MessageOptions := {}
  deriving DecidableEq, Repr

end GlslCompliance
