import GlslCompliance.Json.Document

/-!
# The grammar of JSON

Which texts a document has, said without any reading. The grammar has two layers:

* a token and its text: `Token.Written`, built from `Numeral.Written` for numbers and, for strings,
  from `Literal.Spelled` (the form) and `Literal.Means` (the text that a string stands for);
* the tokens of a document stand in their order, with white space wherever one likes around them:
  `Spaced`. `Node.IsWritten` is the text of a whole document, and nothing else beside it.

A string of right form that stands for no text is allowed, and so is a number of any size: both
belong to the grammar, and it is for the reader of a value to refuse them.
-/

namespace GlslCompliance.Json

/-! ### Strings -/

namespace Literal

/-- The characters that stand for another behind a backslash, each with that other. -/
def escapes : List (Char × Char) :=
  [('"', '"'), ('\\', '\\'), ('/', '/'), ('b', '\x08'), ('f', '\x0c'), ('n', '\n'), ('r', '\r'),
    ('t', '\t')]

/-- A character that stands for itself: no control character, no quotation mark, no backslash. -/
def IsPlain (c : Char) : Prop := 0x20 ≤ c.toNat ∧ c ≠ '"' ∧ c ≠ '\\'

/-- The pieces of a string, and what is written between its quotation marks. -/
inductive Spelled : List Piece → List Char → Prop
  | nil : Spelled [] []
  | plain {c : Char} {pieces : List Piece} {cs : List Char} :
      IsPlain c → Spelled pieces cs → Spelled (.char c :: pieces) (c :: cs)
  | escape {e c : Char} {pieces : List Piece} {cs : List Char} :
      (e, c) ∈ escapes → Spelled pieces cs → Spelled (.char c :: pieces) ('\\' :: e :: cs)
  | unit {a b c d : Char} {u : Nat} {pieces : List Piece} {cs : List Char} :
      hexValue4? a b c d = some u → Spelled pieces cs →
      Spelled (.unit u :: pieces) ('\\' :: 'u' :: a :: b :: c :: d :: cs)

/-- The text that pieces stand for. A unit of a pair needs its other half right behind it. -/
inductive Means : List Piece → List Char → Prop
  | nil : Means [] []
  | char {c : Char} {pieces : List Piece} {s : List Char} :
      Means pieces s → Means (.char c :: pieces) (c :: s)
  | unit {u : Nat} {pieces : List Piece} {s : List Char} :
      isHigh u = false → isLow u = false → Means pieces s →
      Means (.unit u :: pieces) (Char.ofNat u :: s)
  | pair {u v : Nat} {pieces : List Piece} {s : List Char} :
      isHigh u = true → isLow v = true → Means pieces s →
      Means (.unit u :: .unit v :: pieces) (pairChar u v :: s)

end Literal

/-! ### Numbers -/

namespace Numeral

/-- One digit or more, and nothing else. -/
def IsDigits (ds : List Char) : Prop := ds ≠ [] ∧ ∀ c ∈ ds, c.isDigit = true

/-- The digits in front of the point: a zero stands alone. -/
def IsWholePart (ds : List Char) : Prop := IsDigits ds ∧ ∀ rest, ds = '0' :: rest → rest = []

/-- The digits behind the point, and how they are written with it. -/
inductive Fraction : Option (List Char) → List Char → Prop
  | absent : Fraction none []
  | present {ds : List Char} : IsDigits ds → Fraction (some ds) ('.' :: ds)

/-- An exponent and how it is written. -/
inductive Exponent : Option Int → List Char → Prop
  | absent : Exponent none []
  | bare {e : Char} {ds : List Char} :
      e = 'e' ∨ e = 'E' → IsDigits ds → Exponent (some (digitsValue ds)) (e :: ds)
  | plus {e : Char} {ds : List Char} :
      e = 'e' ∨ e = 'E' → IsDigits ds → Exponent (some (digitsValue ds)) (e :: '+' :: ds)
  | minus {e : Char} {ds : List Char} :
      e = 'e' ∨ e = 'E' → IsDigits ds → Exponent (some (-digitsValue ds)) (e :: '-' :: ds)

/-- The sign of a number. -/
def sign (negative : Bool) : List Char := if negative then ['-'] else []

/-- The numeral of the parts of a number. Zeros at the end of the fraction do not count. -/
def ofParts (negative : Bool) (whole : List Char) (fraction : Option (List Char))
    (exponent : Option Int) : Numeral where
  negative
  digits := digitsValue (whole ++ dropFinalZeros (fraction.getD []))
  scale := exponent.getD 0 - (dropFinalZeros (fraction.getD [])).length
  integral := fraction.isNone && exponent.isNone

/-- A number and how it is written: a sign, digits, a fraction, an exponent. -/
inductive Written : Numeral → List Char → Prop
  | parts {negative : Bool} {whole cs ds : List Char} {fraction : Option (List Char)}
      {exponent : Option Int} :
      IsWholePart whole → Fraction fraction cs → Exponent exponent ds →
      Written (ofParts negative whole fraction exponent) (sign negative ++ (whole ++ (cs ++ ds)))

end Numeral

/-! ### Tokens -/

/-- A token and how it is written. -/
inductive Token.Written : Token → List Char → Prop
  | openBrace : Written .openBrace ['\x7b']
  | closeBrace : Written .closeBrace ['\x7d']
  | openBracket : Written .openBracket ['[']
  | closeBracket : Written .closeBracket [']']
  | colon : Written .colon [':']
  | comma : Written .comma [',']
  | null : Written .null ['n', 'u', 'l', 'l']
  | yes : Written (.bool true) ['t', 'r', 'u', 'e']
  | no : Written (.bool false) ['f', 'a', 'l', 's', 'e']
  | number {n : Numeral} {cs : List Char} : n.Written cs → Written (.number n) cs
  /-- A string with its marks; of no text where its pieces stand for none. -/
  | text {text? : Option String} {pieces : List Literal.Piece} {cs : List Char} :
      Literal.Spelled pieces cs → (∀ s, text? = some s ↔ Literal.Means pieces s.toList) →
      Written (.text text?) ('"' :: (cs ++ ['"']))

/-! ### Documents -/

/-- A text of white space only. -/
def IsBlank (cs : List Char) : Prop := ∀ c ∈ cs, Token.isSpace c = true

/-- Tokens in a text that holds nothing else but white space between and around them. -/
inductive Spaced : List Token → List Char → Prop
  | nil {ws : List Char} : IsBlank ws → Spaced [] ws
  | cons {t : Token} {ts : List Token} {ws cs rest : List Char} :
      IsBlank ws → t.Written cs → Spaced ts rest → Spaced (t :: ts) (ws ++ (cs ++ rest))

/-- A whole document as the only content of a text. -/
def Node.IsWritten (v : Node) (cs : List Char) : Prop := v.isWhole = true ∧ Spaced v.tokens cs

end GlslCompliance.Json
