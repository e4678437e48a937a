/-!
# White space and trimming

The 25 characters with the Unicode property `White_Space`, and cutting them off both ends of a
text. Nothing inside a text is ever touched.
-/

namespace GlslCompliance.Text

/-- The code point ranges of `White_Space`, both ends included. -/
def blankRanges : List (Nat × Nat) :=
  [(0x9, 0xD), (0x20, 0x20), (0x85, 0x85), (0xA0, 0xA0), (0x1680, 0x1680), (0x2000, 0x200A),
    (0x2028, 0x2029), (0x202F, 0x202F), (0x205F, 0x205F), (0x3000, 0x3000)]

/-- Whether a character is white space in the sense of Unicode. -/
def isBlank (c : Char) : Bool :=
  blankRanges.any fun r => r.1 ≤ c.toNat && c.toNat ≤ r.2

/-- The characters of a text without the blank ones at its start. -/
def trimStart (cs : List Char) : List Char := cs.dropWhile isBlank

/-- The characters of a text without the blank ones at its end. -/
def trimEnd (cs : List Char) : List Char := (trimStart cs.reverse).reverse

/-- A text without the blank characters at either end. -/
def trim (cs : List Char) : List Char := trimEnd (trimStart cs)

/-- A trimmed text does not start with a blank character. -/
theorem isBlank_head_trimStart {cs : List Char} {c : Char} {rest : List Char}
    (h : trimStart cs = c :: rest) : isBlank c = false := by
  induction cs with
  | nil => simp [trimStart] at h
  | cons d ds ih =>
    simp only [trimStart, List.dropWhile_cons] at h
    split at h
    · exact ih h
    · next hd => injection h with h1 _; subst h1; simpa using hd

end GlslCompliance.Text
