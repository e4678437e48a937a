import GlslCompliance.Json.Literal
import GlslCompliance.Json.Numeral

/-!
# JSON tokens

A text is cut into tokens first. White space between tokens is dropped. Where no token can be read
the list ends in the token `stray`, and whoever comes that far has met a malformed text.

* `length_next?`: reading a token shortens the text, so cutting comes to an end.
-/

namespace GlslCompliance.Json

/-- A token of JSON. -/
inductive Token where
  | openBrace
  | closeBrace
  | openBracket
  | closeBracket
  | colon
  | comma
  | null
  | bool (b : Bool)
  | number (n : Numeral)
  /-- A string; `none` is one of right form that stands for no text. -/
  | text (s : Option String)
  /-- A place where nothing can be read. -/
  | stray
  deriving DecidableEq, Repr

namespace Token

/-- The white space of JSON. -/
def isSpace (c : Char) : Bool := c == ' ' || c == '\n' || c == '\t' || c == '\r'

/-- Takes a word from the start of a text. -/
def dropWord? (word cs : List Char) : Option (List Char) :=
  if word.isPrefixOf cs then some (cs.drop word.length) else none

/-- Reads a word that is a token. -/
def word (text : String) (t : Token) (cs : List Char) : Option (Token × List Char) :=
  (dropWord? text.toList cs).map fun rest => (t, rest)

/-- Reads a string from behind its opening mark. -/
def string (cs : List Char) : Option (Token × List Char) :=
  (Literal.scan cs).map fun r => (.text ((Literal.resolve r.1).map String.ofList), r.2)

/-- Reads a number. -/
def numeral (cs : List Char) : Option (Token × List Char) :=
  (Numeral.scan cs).map fun r => (.number r.1, r.2)

/-- Reads the token at the start of a text. -/
def next? : List Char → Option (Token × List Char)
  | [] => none
  | c :: cs =>
    if c = '\x7b' then some (.openBrace, cs)
    else if c = '\x7d' then some (.closeBrace, cs)
    else if c = '[' then some (.openBracket, cs)
    else if c = ']' then some (.closeBracket, cs)
    else if c = ':' then some (.colon, cs)
    else if c = ',' then some (.comma, cs)
    else if c = '"' then string cs
    else if c = 'n' then word "null" .null (c :: cs)
    else if c = 't' then word "true" (.bool true) (c :: cs)
    else if c = 'f' then word "false" (.bool false) (c :: cs)
    else numeral (c :: cs)

end Token

/-! ### Reading a token shortens the text -/

namespace Numeral

theorem length_afterDigits_le (cs : List Char) : (afterDigits cs).length ≤ cs.length :=
  (List.dropWhile_suffix _).length_le

theorem length_afterDigits_lt {cs : List Char} (h : digitRun cs ≠ []) :
    (afterDigits cs).length < cs.length := by
  have h1 : digitRun cs ++ afterDigits cs = cs := List.takeWhile_append_dropWhile
  have h2 := List.length_pos_iff.2 h
  have h3 := congrArg List.length h1
  simp only [List.length_append] at h3
  omega

theorem length_scanWhole {cs ds rest : List Char} (h : scanWhole cs = some (ds, rest)) :
    rest.length < cs.length := by
  unfold scanWhole at h
  split at h
  · simp at h
  · simp at h
  · next hne _ =>
    simp only [Option.some.injEq, Prod.mk.injEq] at h
    exact h.2 ▸ length_afterDigits_lt hne

theorem length_scanFraction {cs rest : List Char} {f : Option (List Char)}
    (h : scanFraction cs = some (f, rest)) : rest.length ≤ cs.length := by
  unfold scanFraction at h
  split at h
  · next cs =>
    have := length_afterDigits_le cs
    split at h <;> simp_all
    omega
  · simp_all

theorem length_scanExponentDigits {b : Bool} {cs rest : List Char} {e : Option Int}
    (h : scanExponentDigits b cs = some (e, rest)) : rest.length ≤ cs.length := by
  unfold scanExponentDigits at h
  have := length_afterDigits_le cs
  split at h <;> simp_all

theorem length_scanExponent {cs rest : List Char} {e : Option Int}
    (h : scanExponent cs = some (e, rest)) : rest.length ≤ cs.length := by
  unfold scanExponent at h
  split at h
  · split at h
    · split at h <;> have := length_scanExponentDigits h <;> simp only [List.length_cons] at * <;>
        omega
    · simp_all
  · simp_all

/-- A number takes up at least one digit. -/
theorem length_scanUnsigned {b : Bool} {cs rest : List Char} {n : Numeral}
    (h : scanUnsigned b cs = some (n, rest)) : rest.length < cs.length := by
  simp only [scanUnsigned, Option.bind_eq_bind, Option.bind_eq_some_iff, Prod.exists,
    Option.pure_def, Option.some.injEq, Prod.mk.injEq] at h
  obtain ⟨ds, cs1, h1, f, cs2, h2, e, cs3, h3, -, rfl⟩ := h
  have := length_scanWhole h1
  have := length_scanFraction h2
  have := length_scanExponent h3
  omega

theorem length_scan {cs rest : List Char} {n : Numeral} (h : scan cs = some (n, rest)) :
    rest.length < cs.length := by
  unfold scan at h
  split at h
  · have := length_scanUnsigned h
    simp only [List.length_cons]
    omega
  · exact length_scanUnsigned h

end Numeral

namespace Token

/-- A fixed word takes up at least one character. -/
theorem length_word {text : String} {t u : Token} {c : Char} {cs rest : List Char}
    (h : word text t (c :: cs) = some (u, rest)) (hne : text.toList ≠ []) :
    rest.length < (c :: cs).length := by
  unfold word dropWord? at h
  have := List.length_pos_iff.2 hne
  split at h
  · simp only [Option.map_some, Option.some.injEq, Prod.mk.injEq] at h
    rw [← h.2, List.length_drop]
    simp only [List.length_cons]
    omega
  · simp at h

/-- A token takes at least one character. -/
theorem length_next? {cs rest : List Char} {t : Token} (h : next? cs = some (t, rest)) :
    rest.length < cs.length := by
  unfold next? at h
  split at h
  · simp at h
  · next c cs =>
    repeat' split at h
    -- Six tokens are a single character.
    iterate 6
      · simp only [Option.some.injEq, Prod.mk.injEq] at h
        simp [← h.2]
    · simp only [string, Option.map_eq_some_iff, Prod.mk.injEq] at h
      obtain ⟨r, hr, -, rfl⟩ := h
      have := Literal.length_scan hr
      simp only [List.length_cons]
      omega
    · exact length_word h (by decide)
    · exact length_word h (by decide)
    · exact length_word h (by decide)
    · simp only [numeral, Option.map_eq_some_iff, Prod.mk.injEq] at h
      obtain ⟨r, hr, -, rfl⟩ := h
      exact Numeral.length_scan hr

/-- The tokens of a text. -/
def scan : List Char → List Token
  | [] => []
  | c :: cs =>
    if isSpace c then scan cs
    else
      match _h : next? (c :: cs) with
      | none => [.stray]
      | some (t, rest) => t :: scan rest
termination_by cs => cs.length
decreasing_by
  · simp
  · exact length_next? _h

/-- The written form of a token. -/
def render : Token → List Char
  | openBrace => ['\x7b']
  | closeBrace => ['\x7d']
  | openBracket => ['[']
  | closeBracket => [']']
  | colon => [':']
  | comma => [',']
  | null => "null".toList
  | bool true => "true".toList
  | bool false => "false".toList
  | number n => n.render
  | text (some s) => Literal.render s.toList
  | text none => "\"\\ud800\"".toList
  | stray => []

end Token

end GlslCompliance.Json
