/-!
# Shortest decimals

The shortest decimal that reads back as a given double precision number. A double with significand
`m` and exponent `q` stands for `m * 2 ^ q`, and all reals of an interval around that value read
back as it. Of the multiples of `10 ^ k` only the two next to the value can lie in the interval, so
the search takes the coarsest grid on which one does, and of two hits the nearer.
-/

namespace GlslCompliance.Decimal

/-- The finite magnitude `significand * 2 ^ exponent`. -/
structure Binary where
  significand : Nat
  exponent : Int
  deriving DecidableEq, Repr

/-- The magnitude of a finite double, from its bits. -/
def Binary.ofFloat (x : Float) : Binary :=
  let bits := x.toBits.toNat % Nat.pow 2 63
  let fraction := bits % Nat.pow 2 52
  match bits / Nat.pow 2 52 with
  | 0 => ⟨fraction, -1074⟩
  | e + 1 => ⟨Nat.pow 2 52 + fraction, (e : Int) - 1074⟩

/-- The decimal `digits * 10 ^ exponent`. -/
structure Scaled where
  digits : Nat
  exponent : Int
  deriving DecidableEq, Repr

/-- The multiple of `10 ^ k` that reads back as `b` and is nearest to it, if there is one. In units
of a quarter of the last binary place the value is `4 * m` and the interval reaches two units up
and two units down, but only one down from a power of two. -/
def onGrid? (b : Binary) (k : Int) : Option Nat :=
  let m := b.significand
  -- `unit` is a quarter of the last binary place and `grid` the step of the grid; both are scaled
  -- by the same powers, so that all numbers below are natural.
  let unit := Nat.pow 2 (b.exponent - 2).toNat * Nat.pow 10 (-k).toNat
  let grid := Nat.pow 10 k.toNat * Nat.pow 2 (2 - b.exponent).toNat
  let value := 4 * m * unit
  let down := if m = Nat.pow 2 52 && -1074 < b.exponent then 1 else 2
  let low := (4 * m - down) * unit
  let high := (4 * m + 2) * unit
  -- A bound itself reads back as the number exactly if the significand is even.
  let inside (c : Nat) : Bool :=
    if m % 2 = 0 then low ≤ c * grid && c * grid ≤ high else low < c * grid && c * grid < high
  let c := value / grid
  let excess := 2 * (value - c * grid)
  match inside c, inside (c + 1) with
  | true, true =>
    some (if excess < grid then c else if grid < excess then c + 1 else c + c % 2)
  | true, false => some c
  | false, true => some (c + 1)
  | false, false => none

/-- The first hit on the grids `10 ^ k`, `10 ^ (k - 1)` and so on. -/
def search (b : Binary) (k : Int) : Nat → Option Scaled
  | 0 => none
  | steps + 1 =>
    match onGrid? b k with
    | some digits => some ⟨digits, k⟩
    | none => search b (k - 1) steps

/-- The shortest decimal that reads back as a magnitude. Every magnitude but zero is found well
before the grids are used up; zero stands for itself. -/
def shortest (b : Binary) : Scaled :=
  if b.significand = 0 then ⟨0, 0⟩ else (search b 308 700).getD ⟨0, 0⟩

/-- How decimals are written. -/
structure Format where
  /-- The powers of ten of the first digit for which no exponent is written. -/
  positionalFrom : Int
  positionalTo : Int

/-- Digits in front, behind and around a decimal point; at least one on either side. -/
def positional (digits : List Char) (lead : Int) : List Char :=
  if lead < 0 then '0' :: '.' :: List.replicate (-lead - 1).toNat '0' ++ digits
  else
    let whole := lead.toNat + 1
    let fraction := digits.drop whole
    digits.take whole ++ List.replicate (whole - digits.length) '0'
      ++ '.' :: (if fraction.isEmpty then ['0'] else fraction)

/-- Digits with a point behind the first, and an exponent with its sign. -/
def scientific (digits : List Char) (lead : Int) : List Char :=
  let fraction := digits.drop 1
  digits.take 1 ++ (if fraction.isEmpty then [] else '.' :: fraction)
    ++ 'e' :: (if lead < 0 then '-' else '+') :: Nat.toDigits 10 lead.natAbs

/-- A decimal in a format. -/
def render (f : Format) (d : Scaled) : List Char :=
  let digits := Nat.toDigits 10 d.digits
  let lead := d.exponent + digits.length - 1
  if f.positionalFrom ≤ lead && lead ≤ f.positionalTo then positional digits lead
  else scientific digits lead

/-- A finite double as the shortest decimal that reads back. -/
def renderFloat (f : Format) (x : Float) : List Char :=
  let text := render f (shortest (.ofFloat x))
  if x.toBits.toNat < Nat.pow 2 63 then text else '-' :: text

end GlslCompliance.Decimal
