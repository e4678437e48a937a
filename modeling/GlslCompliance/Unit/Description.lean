import GlslCompliance.Language.Context
import GlslCompliance.Unit.Request

/-!
# Descriptions of units

What is known about a compilation unit from the outside: its context and the extensions requested
for it.
-/

namespace GlslCompliance

/-- The description of a unit. -/
structure UnitDescription where
  context : Context
  /-- The requests, in the order in which they are carried out. -/
  requests : List ExtensionRequest := []
  deriving DecidableEq, Repr

/-- The description that fixes nothing but profile and version. -/
def UnitDescription.new (profile : Profile) (version : UInt32) : UnitDescription :=
  { context := { profile, version } }

end GlslCompliance
