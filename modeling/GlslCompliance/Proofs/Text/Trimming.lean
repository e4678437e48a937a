import GlslCompliance.Text.Blank
import Mathlib.Data.List.DropRight

/-!
# Trimmed texts

A trimmed text neither starts nor ends with white space (`IsTrimmed`). Every text is a trimmed one
with white space around it, and that in one way only, which is what trimming comes to
(`trim_eq_iff`).
-/

namespace GlslCompliance.Text

variable {cs text before behind : List Char}

/-- All of a text is white space. -/
def IsBlankRun (cs : List Char) : Prop := ∀ c ∈ cs, isBlank c

/-- A text neither starts nor ends with white space. -/
structure IsTrimmed (cs : List Char) : Prop where
  head : ∀ c ∈ cs.head?, isBlank c = false
  last : ∀ c ∈ cs.getLast?, isBlank c = false

/-- Blanks at the start are cut off. -/
theorem trimStart_append (h : IsBlankRun before) (cs : List Char) :
    trimStart (before ++ cs) = trimStart cs :=
  List.dropWhile_append_of_pos h

theorem trimStart_eq_nil (h : IsBlankRun cs) : trimStart cs = [] :=
  List.dropWhile_eq_nil_iff.mpr h

/-- A text that does not start with a blank keeps its start. -/
theorem trimStart_eq_self (h : ∀ c ∈ cs.head?, isBlank c = false) : trimStart cs = cs := by
  cases cs with
  | nil => rfl
  | cons c cs => exact List.dropWhile_cons_of_neg (by simp [h c rfl])

theorem trimEnd_append (cs : List Char) (h : IsBlankRun behind) :
    trimEnd (cs ++ behind) = trimEnd cs := by
  rw [trimEnd, List.reverse_append,
    trimStart_append fun c hc => h c (List.mem_reverse.mp hc), trimEnd]

theorem trimEnd_eq_self (h : ∀ c ∈ cs.getLast?, isBlank c = false) : trimEnd cs = cs := by
  rw [trimEnd, trimStart_eq_self (by rwa [List.head?_reverse]), List.reverse_reverse]

/-- White space around a trimmed text is cut off. -/
theorem trim_append_append (hbefore : IsBlankRun before) (h : IsTrimmed text)
    (hbehind : IsBlankRun behind) : trim (before ++ text ++ behind) = text := by
  rw [trim, List.append_assoc, trimStart_append hbefore]
  cases text with
  | nil =>
    rw [List.nil_append, trimStart_eq_nil hbehind]
    rfl
  | cons c cs =>
    rw [trimStart_eq_self (by simpa using h.head), trimEnd_append _ hbehind,
      trimEnd_eq_self h.last]

/-- Only white space is cut off. -/
theorem exists_append_trim (cs : List Char) :
    ∃ before behind, IsBlankRun before ∧ IsBlankRun behind ∧
      cs = before ++ trim cs ++ behind := by
  refine ⟨cs.takeWhile isBlank, (trimStart cs).rtakeWhile isBlank,
    fun _ => List.mem_takeWhile_imp, fun _ => List.mem_rtakeWhile_imp, ?_⟩
  calc cs = cs.takeWhile isBlank ++ trimStart cs := List.takeWhile_append_dropWhile.symm
    _ = _ := by
      rw [List.append_assoc]
      exact congrArg _ List.rdropWhile_append_rtakeWhile.symm

theorem isBlank_of_mem_head?_trimStart {c : Char} (cs : List Char)
    (h : c ∈ (trimStart cs).head?) : isBlank c = false := by
  obtain ⟨rest, hrest⟩ := List.head?_eq_some_iff.mp h
  exact isBlank_head_trimStart hrest

/-- What is left has a blank at neither end. -/
theorem isTrimmed_trim (cs : List Char) : IsTrimmed (trim cs) := by
  refine ⟨fun c hc => isBlank_of_mem_head?_trimStart cs ?_, fun c hc => ?_⟩
  · -- Cutting off the end leaves a start of the text, which begins with the same character.
    obtain ⟨cut, hcut⟩ : trim cs <+: trimStart cs := List.rdropWhile_prefix isBlank (trimStart cs)
    obtain ⟨rest, hrest⟩ := List.head?_eq_some_iff.mp hc
    rw [← hcut, hrest]
    rfl
  · rw [trim, trimEnd, List.getLast?_reverse] at hc
    exact isBlank_of_mem_head?_trimStart _ hc

/-- **Trimming finds the trimmed text that has white space around it.** -/
theorem trim_eq_iff :
    trim cs = text ↔ IsTrimmed text ∧ ∃ before behind, IsBlankRun before ∧ IsBlankRun behind ∧
      cs = before ++ text ++ behind := by
  constructor
  · rintro rfl
    exact ⟨isTrimmed_trim cs, exists_append_trim cs⟩
  · rintro ⟨htext, before, behind, hbefore, hbehind, rfl⟩
    exact trim_append_append hbefore htext hbehind

/-- Nothing is left of blanks alone. -/
theorem trim_eq_nil_iff : trim cs = [] ↔ IsBlankRun cs := by
  refine ⟨fun h => ?_, fun h => ?_⟩
  · obtain ⟨-, before, behind, hbefore, hbehind, rfl⟩ := trim_eq_iff.mp h
    rw [List.append_nil]
    exact List.forall_mem_append.mpr ⟨hbefore, hbehind⟩
  · rw [trim, trimStart_eq_nil h]
    rfl

end GlslCompliance.Text
