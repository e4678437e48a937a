import GlslCompliance.Text.Invisible

/-!
# Quoted text

Text between quotation marks with everything escaped that a reader could not make out: the marks
themselves, backslashes, line breaks and tabs by a letter, and invisible or combining characters by
their number.
-/

namespace GlslCompliance.Text

/-- The quoted form of one character. -/
def quoteChar (c : Char) : List Char :=
  if c = '\x00' then ['\\', '0']
  else if c = '\t' then ['\\', 't']
  else if c = '\n' then ['\\', 'n']
  else if c = '\r' then ['\\', 'r']
  else if c = '"' then ['\\', '"']
  else if c = '\\' then ['\\', '\\']
  else if isInvisible c then ['\\', 'u', '\x7b'] ++ Nat.toDigits 16 c.toNat ++ ['\x7d']
  else [c]

/-- A text in quotation marks. -/
def quote (s : String) : String :=
  String.ofList ('"' :: (s.toList.flatMap quoteChar ++ ['"']))

end GlslCompliance.Text
