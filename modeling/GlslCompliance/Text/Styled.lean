/-!
# Styled text

Text on a terminal is styled by an escape sequence in front of it and a reset behind it. A reset
inside the text would end the style early, so the style is opened again after each.
-/

namespace GlslCompliance.Text

/-- A style: the parameters of the escape sequence that opens it. -/
structure Style where
  parameters : List Nat
  deriving DecidableEq, Repr

namespace Style

def bold : Style := ⟨[1]⟩
def redBold : Style := ⟨[1, 31]⟩
def greenBold : Style := ⟨[1, 32]⟩
def yellow : Style := ⟨[33]⟩
def yellowBold : Style := ⟨[1, 33]⟩
def blueBold : Style := ⟨[1, 34]⟩
def cyanBold : Style := ⟨[1, 36]⟩
def cyan : Style := ⟨[36]⟩

/-- The escape sequence that opens a style. -/
def opening (s : Style) : List Char :=
  ['\x1b', '['] ++ (";".intercalate (s.parameters.map toString)).toList ++ ['m']

/-- The escape sequence that ends every style. -/
def reset : List Char := ['\x1b', '[', '0', 'm']

/-- A text with the style opened again behind each reset in it. -/
def reopen (s : Style) : List Char → List Char
  | '\x1b' :: '[' :: '0' :: 'm' :: rest => reset ++ s.opening ++ reopen s rest
  | c :: rest => c :: reopen s rest
  | [] => []

/-- A text in a style; an empty text is wrapped like any other. -/
def wrap (s : Style) (text : List Char) : List Char := s.opening ++ s.reopen text ++ reset

end Style

/-- A text in a style where colour is on, and the bare text where it is off. -/
def paint (colour : Bool) (s : Style) (text : String) : String :=
  if colour then String.ofList (s.wrap text.toList) else text

end GlslCompliance.Text
