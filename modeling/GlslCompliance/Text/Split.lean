/-!
# Splitting at a separator

A text is split at the first occurrence of a separator; the second part may hold the separator
again. `splitFirst?_eq_some_iff` says that the two parts, with the separator between them, make up
the text, and that there is no other way to do it.
-/

namespace GlslCompliance.Text

/-- The parts of a text in front of the first separator and behind it; `none` where there is no
separator. -/
def splitFirst? (separator : Char) : List Char → Option (List Char × List Char)
  | [] => none
  | c :: cs =>
    if c = separator then some ([], cs)
    else (splitFirst? separator cs).map fun parts => (c :: parts.1, parts.2)

theorem splitFirst?_eq_none_iff {separator : Char} {cs : List Char} :
    splitFirst? separator cs = none ↔ separator ∉ cs := by
  induction cs with
  | nil => simp [splitFirst?]
  | cons c cs ih =>
    by_cases h : c = separator
    · simp [splitFirst?, h]
    · simp [splitFirst?, h, ih, Ne.symm h]

/-- A text is split at the first separator. -/
theorem splitFirst?_append {separator : Char} {before : List Char} (h : separator ∉ before)
    (behind : List Char) :
    splitFirst? separator (before ++ separator :: behind) = some (before, behind) := by
  induction before with
  | nil => simp [splitFirst?]
  | cons c cs ih =>
    obtain ⟨hc, hcs⟩ := List.ne_and_not_mem_of_not_mem_cons h
    simp [splitFirst?, Ne.symm hc, ih hcs]

/-- The two parts make up the text, and there is no separator in the first. -/
theorem splitFirst?_eq_some_iff {separator : Char} {cs before behind : List Char} :
    splitFirst? separator cs = some (before, behind) ↔
      cs = before ++ separator :: behind ∧ separator ∉ before := by
  refine ⟨fun h => ?_, fun h => h.1 ▸ splitFirst?_append h.2 behind⟩
  induction cs generalizing before with
  | nil => simp [splitFirst?] at h
  | cons c cs ih =>
    by_cases hc : c = separator
    · simp only [splitFirst?, hc, if_true, Option.some.injEq, Prod.mk.injEq] at h
      obtain ⟨rfl, rfl⟩ := h
      simp [hc]
    · simp only [splitFirst?, hc, if_false, Option.map_eq_some_iff, Prod.mk.injEq,
        Prod.exists] at h
      obtain ⟨a, b, hab, rfl, rfl⟩ := h
      obtain ⟨rfl, ha⟩ := ih hab
      simp [ha, Ne.symm hc]

end GlslCompliance.Text
