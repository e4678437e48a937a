/-!
# Numbers in JSON

How a number is written, and what it stands for: an integer where it is written without point and
exponent and fits into 64 bits, a double otherwise.
-/

namespace GlslCompliance.Json

/-- A number as written: the digits without the point, and the power of ten that scales them. -/
structure Numeral where
  negative : Bool
  digits : Nat
  scale : Int
  /-- Written without point and exponent. -/
  integral : Bool
  deriving DecidableEq, Repr

/-- What a number stands for. -/
inductive Number where
  | integer (n : Int)
  | floating (x : Float)
  deriving DecidableEq, Repr

namespace Numeral

/-- The numeral of a natural number. -/
def ofNat (n : Nat) : Numeral := ⟨false, n, 0, true⟩

/-! ### Reading -/

/-- The digits at the start of a text. -/
def digitRun (cs : List Char) : List Char := cs.takeWhile Char.isDigit

/-- The text behind the digits at its start. -/
def afterDigits (cs : List Char) : List Char := cs.dropWhile Char.isDigit

/-- The value of a run of digits. -/
def digitsValue (ds : List Char) : Nat := Nat.ofDigitChars 10 ds 0

/-- Reads the digits in front of the point. A zero stands alone. -/
def scanWhole (cs : List Char) : Option (List Char × List Char) :=
  match digitRun cs with
  | [] => none
  | '0' :: _ :: _ => none
  | ds => some (ds, afterDigits cs)

/-- Reads the point and the digits behind it, of which there is at least one. -/
def scanFraction : List Char → Option (Option (List Char) × List Char)
  | '.' :: cs =>
    match digitRun cs with
    | [] => none
    | ds => some (some ds, afterDigits cs)
  | cs => some (none, cs)

/-- Reads the digits of an exponent, of which there is at least one. -/
def scanExponentDigits (negative : Bool) (cs : List Char) :
    Option (Option Int × List Char) :=
  match digitRun cs with
  | [] => none
  | ds =>
    let value : Int := digitsValue ds
    some (some (if negative then -value else value), afterDigits cs)

/-- Reads the exponent: a letter, perhaps a sign, and digits. -/
def scanExponent : List Char → Option (Option Int × List Char)
  | c :: cs =>
    if c = 'e' || c = 'E' then
      match cs with
      | '+' :: ds => scanExponentDigits false ds
      | '-' :: ds => scanExponentDigits true ds
      | ds => scanExponentDigits false ds
    else some (none, c :: cs)
  | [] => some (none, [])

/-- A run of digits without the zeros at its end, which add nothing behind a point. -/
def dropFinalZeros (ds : List Char) : List Char := (ds.reverse.dropWhile (· == '0')).reverse

/-- Reads a number without its sign. -/
def scanUnsigned (negative : Bool) (cs : List Char) : Option (Numeral × List Char) := do
  let (whole, cs) ← scanWhole cs
  let (fraction, cs) ← scanFraction cs
  let (exponent, cs) ← scanExponent cs
  let places := dropFinalZeros (fraction.getD [])
  return (⟨negative, digitsValue (whole ++ places), exponent.getD 0 - places.length,
    fraction.isNone && exponent.isNone⟩, cs)

/-- Reads a number at the start of a text. -/
def scan : List Char → Option (Numeral × List Char)
  | '-' :: cs => scanUnsigned true cs
  | cs => scanUnsigned false cs

/-! ### Writing -/

/-- The power of ten behind the digits, where there is one. -/
def renderScale (n : Numeral) : List Char :=
  if n.integral then []
  else 'e' :: (if n.scale < 0 then ['-'] else []) ++ Nat.toDigits 10 n.scale.natAbs

/-- A number as text. -/
def render (n : Numeral) : List Char :=
  (if n.negative then ['-'] else []) ++ Nat.toDigits 10 n.digits ++ n.renderScale

/-! ### Meaning -/

/-- The number of digits, without zeros in front. -/
def size (n : Numeral) : Nat := (Nat.toDigits 10 n.digits).length

/-- How many digits of a number are read one by one. No number halfway between two doubles has
more. -/
def readDigits : Nat := 768

/-- A number of more digits with a single one in place of those behind the first 768. The one says
that more digits follow, and so it decides the rounding even if they are all zero. -/
def shorten (n : Numeral) : Numeral :=
  if n.size ≤ readDigits then n
  else
    let more := n.size - readDigits
    { n with digits := n.digits / Nat.pow 10 more * 10 + 1, scale := n.scale + more - 1 }

/-- The double nearest to a number of limited size, unless it is out of range. The number of digits
tells at once when the result is zero or too large. -/
def nearest? (n : Numeral) : Option Float :=
  let lead : Int := n.size + n.scale
  let magnitude : Float :=
    if n.digits = 0 || lead < -400 then 0.0
    else if 400 < lead then Float.ofScientific 1 false 400
    else Float.ofScientific n.digits (n.scale < 0) n.scale.natAbs
  if magnitude.isInf then none else some (if n.negative then -magnitude else magnitude)

/-- The double that a number is read as, unless it is out of range. -/
def toFloat? (n : Numeral) : Option Float := n.shorten.nearest?

/-- Whether a number is an integer of 64 bits, with or without sign. Minus zero is none. -/
def fits64 (n : Numeral) : Bool :=
  n.integral && (if n.negative then n.digits != 0 && n.digits ≤ Nat.pow 2 63
    else n.digits < UInt64.size)

/-- What a number stands for, unless it is out of range. -/
def number? (n : Numeral) : Option Number :=
  if n.fits64 then some (.integer (if n.negative then -(n.digits : Int) else n.digits))
  else n.toFloat?.map .floating

end Numeral

end GlslCompliance.Json
