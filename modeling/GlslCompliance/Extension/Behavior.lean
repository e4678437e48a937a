import GlslCompliance.Language.NameError

/-!
# Extension behaviors

What a compilation unit lets a shader do with an extension, and the four keywords by which an
`#extension` directive asks for it.
-/

namespace GlslCompliance

/-- The state of one extension within a compilation unit. -/
inductive Behavior where
  | disabled
  /-- Known, but with gaps in the support. -/
  | disabledPartial
  | enabled
  | required
  /-- Permitted, and every use is reported. -/
  | warn
  /-- The answer for a name that is not known. -/
  | missing
  deriving DecidableEq, Repr

namespace Behavior

/-- All behaviors, in declaration order. -/
def all : List Behavior := [disabled, disabledPartial, enabled, required, warn, missing]

/-- The name of a behavior in listings. -/
def name : Behavior → String
  | disabled => "disabled"
  | disabledPartial => "disabled (partial support)"
  | enabled => "enabled"
  | required => "required"
  | warn => "warn"
  | missing => "missing"

/-- The name of a behavior in data. -/
def key : Behavior → String
  | disabled => "disabled"
  | disabledPartial => "disabled_partial"
  | enabled => "enabled"
  | required => "required"
  | warn => "warn"
  | missing => "missing"

/-- Whether the features of an extension may be used: enabled, required or warn. -/
def isTurnedOn : Behavior → Bool
  | enabled | required | warn => true
  | _ => false

/-- Whether an extension is on without any warning: enabled or required. -/
def isRequested : Behavior → Bool
  | enabled | required => true
  | _ => false

/-- The behavior that a directive keyword asks for; the four spellings are exact. -/
def ofKeyword? (keyword : String) : Option Behavior :=
  if keyword = "require" then some required
  else if keyword = "enable" then some enabled
  else if keyword = "disable" then some disabled
  else if keyword = "warn" then some warn
  else none

/-- Reads a directive keyword. -/
def parse (keyword : String) : Except NameError Behavior :=
  match ofKeyword? keyword with
  | some b => .ok b
  | none => .error (.unknownBehavior keyword)

theorem isTurnedOn_of_isRequested {b : Behavior} (h : b.isRequested) : b.isTurnedOn := by
  cases b <;> simp_all [isRequested, isTurnedOn]

/-- No keyword asks for partial support, and none makes an extension unknown. -/
theorem ofKeyword?_ne {keyword : String} {b : Behavior} (h : ofKeyword? keyword = some b) :
    b ≠ disabledPartial ∧ b ≠ missing := by
  unfold ofKeyword? at h
  repeat' split at h
  all_goals simp_all
  all_goals subst h; simp

end Behavior

end GlslCompliance
