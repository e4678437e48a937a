/-!
# Decimal integers of 64 bits

Text with an optional sign and decimal digits, read into the range of signed 64 bit integers. The
text is judged from left to right, so that of several faults the first one counts.
-/

namespace GlslCompliance.Decimal

/-- Why a text is no integer of 64 bits. -/
inductive IntegerError where
  | empty
  | invalidDigit
  | tooLarge
  | tooSmall
  deriving DecidableEq, Repr

/-- The wording of an integer error. -/
def IntegerError.message : IntegerError → String
  | empty => "cannot parse integer from empty string"
  | invalidDigit => "invalid digit found in string"
  | tooLarge => "number too large to fit in target type"
  | tooSmall => "number too small to fit in target type"

/-- A number with one more digit, counted away from zero. -/
def appendDigit (negative : Bool) (n : Int) (digit : Nat) : Int :=
  if negative then 10 * n - digit else 10 * n + digit

/-- Reads digits behind those that make up a number so far. -/
def readDigits (negative : Bool) (n : Int) : List Char → Except IntegerError Int
  | [] => .ok n
  | c :: cs =>
    if c.isDigit then
      let n := appendDigit negative n (c.toNat - '0'.toNat)
      if 2 ^ 63 ≤ n then .error .tooLarge
      else if n < -2 ^ 63 then .error .tooSmall
      else readDigits negative n cs
    else .error .invalidDigit

/-- Reads one digit or more. -/
def readMagnitude (negative : Bool) (cs : List Char) : Except IntegerError Int :=
  if cs.isEmpty then .error .invalidDigit else readDigits negative 0 cs

/-- Reads an integer. -/
def parseInteger : List Char → Except IntegerError Int
  | [] => .error .empty
  | '+' :: cs => readMagnitude false cs
  | '-' :: cs => readMagnitude true cs
  | cs => readMagnitude false cs

end GlslCompliance.Decimal
