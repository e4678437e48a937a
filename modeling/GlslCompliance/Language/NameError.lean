/-!
# Names that are not understood

Profiles, stages, behaviors and extension requests are given as text. `NameError` says which of
them could not be read, and keeps the text as it was given.
-/

namespace GlslCompliance

/-- A piece of text that names nothing of the wanted kind. -/
inductive NameError where
  | unknownProfile (text : String)
  | unknownStage (text : String)
  | unknownBehavior (text : String)
  | malformedRequest (text : String)
  deriving DecidableEq, Repr

/-- The wording of a name error. -/
def NameError.message : NameError → String
  | unknownProfile s => s!"unknown profile `{s}` (expected none, core, compatibility or es)"
  | unknownStage s => s!"unknown stage `{s}`"
  | unknownBehavior s =>
    s!"behavior not supported: `{s}` (expected require, enable, disable or warn)"
  | malformedRequest s => s!"malformed extension request `{s}` (expected NAME:BEHAVIOR)"

end GlslCompliance
