/-!
# Macro definitions

Lines of the form `#define NAME VALUE` or `#define NAME`.
-/

namespace GlslCompliance

/-- The definition of a preprocessor macro. -/
structure Macro where
  name : String
  value : Option String
  deriving DecidableEq, Repr

namespace Macro

/-- A macro with the value 1. -/
def flag (name : String) : Macro := ⟨name, some "1"⟩

/-- A macro with a number as its value, in decimal. -/
def number (name : String) (value : Nat) : Macro := ⟨name, some (toString value)⟩

/-- The line that defines a macro, with the newline that ends it. -/
def line (m : Macro) : String :=
  match m.value with
  | some value => "#define " ++ m.name ++ " " ++ value ++ "\n"
  | none => "#define " ++ m.name ++ "\n"

end Macro

end GlslCompliance
