import GlslCompliance.Requirement.Basic

/-!
# Numeric types

The checks that guard the numeric types of the language. Each type asks for a list of requirements;
inside built-in declarations none of them applies.
-/

namespace GlslCompliance

/-- A family of numeric types that is not available everywhere. -/
inductive NumericType where
  /-- Unsigned integers and full 32 bit integer arithmetic. -/
  | fullInteger
  | double
  | int16
  | float16
  | int64
  deriving DecidableEq, Repr

/-- The use of a numeric type. -/
structure NumericUse where
  location : Location
  feature : String
  type : NumericType
  /-- The use stands in a built-in declaration. -/
  builtIn : Bool
  deriving DecidableEq, Repr

namespace NumericUse

/-- The profiles that can have types of other than 32 bits. -/
def sizedProfiles : ProfileSet := .union (.singleton .core) (.singleton .compatibility)

/-- The use of the feature is allowed in one profile from a version on. -/
def fromVersion (p : Profile) (version : UInt32) : Requirement :=
  .availability (.singleton p) version []

/-- The core and compatibility profiles only, and there from a version on. -/
def sizedFrom (version : UInt32) : List Requirement :=
  [.profile sizedProfiles, fromVersion .core version, fromVersion .compatibility version]

/-- A check of the used feature. -/
def check (u : NumericUse) (r : Requirement) : Check := ⟨u.location, u.feature, r⟩

/-- A check under the name of the type's extension. -/
def extensionCheck (u : NumericUse) (name extension : String) : Check :=
  ⟨u.location, name, .extensions [extension]⟩

/-- The checks of a type outside built-in declarations. -/
def typeChecks (u : NumericUse) : List Check :=
  match u.type with
  | .fullInteger => [u.check (fromVersion .none 130), u.check (fromVersion .es 300)]
  | .double => (sizedFrom 400).map u.check
  | .int16 =>
    u.extensionCheck "shader int16" "GL_AMD_gpu_shader_int16" :: (sizedFrom 450).map u.check
  | .float16 =>
    u.extensionCheck "shader half float" "GL_AMD_gpu_shader_half_float"
      :: (sizedFrom 450).map u.check
  | .int64 =>
    u.extensionCheck "shader int64" "GL_ARB_gpu_shader_int64" :: (sizedFrom 450).map u.check

/-- The checks that a use asks for. -/
def checks (u : NumericUse) : List Check := if u.builtIn then [] else u.typeChecks

end NumericUse

end GlslCompliance
