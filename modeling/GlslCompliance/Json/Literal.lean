/-!
# Strings in JSON

A string is written between quotation marks. Quotation mark, backslash and control characters are
escaped, everything else stands for itself. Escapes by number are UTF-16 units, so a character
outside the basic plane takes two of them; a unit that finds no partner leaves the string without
a meaning, although its form is right.
-/

namespace GlslCompliance.Json.Literal

/-! ### Writing -/

/-- The digit of a number below 16, in lower case. -/
def hexDigit (n : Nat) : Char := Nat.digitChar n

/-- The written form of one character. -/
def escape (c : Char) : List Char :=
  if c = '"' then ['\\', '"']
  else if c = '\\' then ['\\', '\\']
  else if c = '\x08' then ['\\', 'b']
  else if c = '\x0c' then ['\\', 'f']
  else if c = '\n' then ['\\', 'n']
  else if c = '\r' then ['\\', 'r']
  else if c = '\t' then ['\\', 't']
  else if c.toNat < 0x20 then
    ['\\', 'u', '0', '0', hexDigit (c.toNat / 16), hexDigit (c.toNat % 16)]
  else [c]

/-- The written form of a string. -/
def render (s : List Char) : List Char := '"' :: (s.flatMap escape ++ ['"'])

/-! ### Reading -/

/-- A piece of a written string: a character, or a UTF-16 unit given by number. -/
inductive Piece where
  | char (c : Char)
  | unit (u : Nat)
  deriving DecidableEq, Repr

/-- The value of a hexadecimal digit in either case. -/
def hexValue? (c : Char) : Option Nat :=
  if c.isDigit then some (c.toNat - 48)
  else if 'a' ≤ c && c ≤ 'f' then some (c.toNat - 87)
  else if 'A' ≤ c && c ≤ 'F' then some (c.toNat - 55)
  else none

/-- The value of four hexadecimal digits. -/
def hexValue4? (a b c d : Char) : Option Nat := do
  let a ← hexValue? a
  let b ← hexValue? b
  let c ← hexValue? c
  let d ← hexValue? d
  return ((a * 16 + b) * 16 + c) * 16 + d

/-- The character behind a backslash that stands for another. -/
def unescape? (c : Char) : Option Char :=
  if c = '"' || c = '\\' || c = '/' then some c
  else if c = 'b' then some '\x08'
  else if c = 'f' then some '\x0c'
  else if c = 'n' then some '\n'
  else if c = 'r' then some '\r'
  else if c = 't' then some '\t'
  else none

/-- Reads the pieces of a string from behind its opening mark, up to and with the closing mark.
Control characters have to be escaped. -/
def scan : List Char → Option (List Piece × List Char)
  | [] => none
  | '"' :: rest => some ([], rest)
  | '\\' :: 'u' :: a :: b :: c :: d :: rest =>
    match hexValue4? a b c d, scan rest with
    | some u, some (pieces, rest) => some (.unit u :: pieces, rest)
    | _, _ => none
  | '\\' :: e :: rest =>
    match unescape? e, scan rest with
    | some c, some (pieces, rest) => some (.char c :: pieces, rest)
    | _, _ => none
  | c :: rest =>
    if c.toNat < 0x20 || c = '\\' then none
    else
      match scan rest with
      | some (pieces, rest) => some (.char c :: pieces, rest)
      | none => none

/-- Whether a unit is the first of a pair. -/
def isHigh (u : Nat) : Bool := 0xD800 ≤ u && u < 0xDC00

/-- Whether a unit is the second of a pair. -/
def isLow (u : Nat) : Bool := 0xDC00 ≤ u && u < 0xE000

/-- The character of a pair of units. -/
def pairChar (high low : Nat) : Char :=
  Char.ofNat (0x10000 + (high - 0xD800) * 0x400 + (low - 0xDC00))

/-- The characters that pieces stand for, unless a unit of a pair stands alone. -/
def resolve : List Piece → Option (List Char)
  | [] => some []
  | .char c :: rest => (resolve rest).map (c :: ·)
  | .unit u :: .unit v :: rest =>
    if isHigh u then
      if isLow v then (resolve rest).map (pairChar u v :: ·) else none
    else if isLow u then none
    else (resolve (.unit v :: rest)).map (Char.ofNat u :: ·)
  | .unit u :: rest =>
    if isHigh u || isLow u then none else (resolve rest).map (Char.ofNat u :: ·)

/-- A string that is read takes at least its closing mark. -/
theorem length_scan {cs rest : List Char} {pieces : List Piece}
    (h : scan cs = some (pieces, rest)) : rest.length < cs.length := by
  fun_induction scan cs generalizing pieces rest with
  | case1 | case4 | case6 | case7 | case9 => simp at h
  | case2 rest => simp_all
  | case3 | case5 | case8 =>
    rename_i hs ih
    simp only [Option.some.injEq, Prod.mk.injEq] at h
    have := ih (by assumption)
    simp only [List.length_cons, ← h.2]
    omega

end GlslCompliance.Json.Literal
