import GlslCompliance.Text.Styled
import Mathlib.Data.List.TakeWhile

/-!
# Style sequences

A style sequence is what opens or resets a style: an escape character and a bracket, digits and
semicolons, and an `m`. `eraseStyles` deletes all of them from a text. It may meet the rest of a
sequence only behind its escape character, so a text that is put together can be erased part by
part, as long as every part without an escape character keeps to itself and every sequence is
whole. `Unstyles` says this of a part, whatever stands behind it, and holds of painted texts
(`unstyles_paint`).
-/

namespace GlslCompliance.Text

variable {cs rest : List Char} {s t s' t' : String}

/-! ### Deleting sequences -/

/-- A character that can stand in the parameters of a style. -/
def isParameter (c : Char) : Bool := c.isDigit || c == ';'

/-- An escape sequence that opens or resets a style. -/
def IsStyleSequence (cs : List Char) : Prop :=
  ∃ parameters, (∀ c ∈ parameters, isParameter c) ∧ cs = '\x1b' :: '[' :: (parameters ++ ['m'])

/-- What stands behind the style sequence that a text begins with; `none` if it begins with none. -/
def behindSequence? : List Char → Option (List Char)
  | '\x1b' :: '[' :: cs =>
    match cs.dropWhile isParameter with
    | 'm' :: rest => some rest
    | _ => none
  | _ => none

/-- Behind a style sequence stands what was put there. -/
theorem behindSequence?_append (h : IsStyleSequence cs) (rest : List Char) :
    behindSequence? (cs ++ rest) = some rest := by
  obtain ⟨parameters, hparameters, rfl⟩ := h
  have hdrop : (parameters ++ 'm' :: rest).dropWhile isParameter = 'm' :: rest := by
    rw [List.dropWhile_append_of_pos hparameters]
    rfl
  simp [behindSequence?, hdrop]

/-- A text begins with a style sequence if it is one with something behind it. -/
theorem behindSequence?_eq_some_iff :
    behindSequence? cs = some rest ↔ ∃ sequence, IsStyleSequence sequence ∧
      cs = sequence ++ rest := by
  constructor
  · intro h
    unfold behindSequence? at h
    split at h
    · next cs =>
      split at h
      · next behind hdrop =>
        obtain rfl := Option.some.inj h
        refine ⟨'\x1b' :: '[' :: (cs.takeWhile isParameter ++ ['m']),
          ⟨_, fun _ => List.mem_takeWhile_imp, rfl⟩, ?_⟩
        have hsplit := List.takeWhile_append_dropWhile (p := isParameter) (l := cs)
        rw [hdrop] at hsplit
        simp [hsplit]
      · exact nomatch h
    · exact nomatch h
  · rintro ⟨sequence, hsequence, rfl⟩
    exact behindSequence?_append hsequence rest

theorem length_behindSequence?_lt (h : behindSequence? cs = some rest) :
    rest.length < cs.length := by
  obtain ⟨sequence, ⟨parameters, -, rfl⟩, rfl⟩ := behindSequence?_eq_some_iff.mp h
  simp only [List.length_append, List.length_cons]
  omega

/-- A text without the style sequences in it. -/
def eraseStyles : List Char → List Char
  | [] => []
  | c :: cs =>
    match _h : behindSequence? (c :: cs) with
    | some rest => eraseStyles rest
    | none => c :: eraseStyles cs
termination_by cs => cs.length
decreasing_by
  · exact length_behindSequence?_lt _h
  · simp

/-- A style sequence is erased, and the erasing goes on behind it. -/
theorem eraseStyles_append_of_isStyleSequence (h : IsStyleSequence cs) (rest : List Char) :
    eraseStyles (cs ++ rest) = eraseStyles rest := by
  have hbehind := behindSequence?_append h rest
  obtain ⟨parameters, -, rfl⟩ := h
  rw [List.cons_append] at hbehind ⊢
  rw [eraseStyles]
  split
  · next behind hsome =>
    rw [hbehind] at hsome
    rw [Option.some.inj hsome]
  · next hnone =>
    rw [hbehind] at hnone
    exact nomatch hnone

/-- A character that begins no sequence is kept. -/
theorem eraseStyles_cons_of_ne {c : Char} (h : c ≠ '\x1b') (cs : List Char) :
    eraseStyles (c :: cs) = c :: eraseStyles cs := by
  rw [eraseStyles]
  split
  · next rest hsome =>
    obtain ⟨sequence, ⟨parameters, -, rfl⟩, heq⟩ := behindSequence?_eq_some_iff.mp hsome
    exact absurd (List.cons.inj heq).1 h
  · rfl

/-- A text without an escape character is kept, and the erasing goes on behind it. -/
theorem eraseStyles_append_of_notMem (h : '\x1b' ∉ cs) (rest : List Char) :
    eraseStyles (cs ++ rest) = cs ++ eraseStyles rest := by
  induction cs with
  | nil => rfl
  | cons c cs ih =>
    obtain ⟨hc, hcs⟩ := List.ne_and_not_mem_of_not_mem_cons h
    rw [List.cons_append, eraseStyles_cons_of_ne (Ne.symm hc), ih hcs, List.cons_append]

/-! ### Texts in a style -/

theorem isDigit_of_mem_toString {n : Nat} {c : Char} (h : c ∈ (toString n).toList) :
    c.isDigit := by
  have htext : (toString n).toList = Nat.toDigits 10 n := Nat.toList_repr
  rw [htext] at h
  exact Nat.isDigit_of_mem_toDigits (by decide) (by decide) h

namespace Style

theorem isParameter_of_mem_toString {n : Nat} {c : Char} (h : c ∈ (toString n).toList) :
    isParameter c := by
  rw [isParameter, isDigit_of_mem_toString h, Bool.true_or]

theorem isParameter_of_mem_intercalate {ns : List Nat} {c : Char}
    (h : c ∈ (";".intercalate (ns.map toString)).toList) : isParameter c := by
  induction ns with
  | nil => simp at h
  | cons n ns ih =>
    by_cases hns : ns = []
    · rw [hns, List.map_singleton, String.intercalate_singleton] at h
      exact isParameter_of_mem_toString h
    · rw [List.map_cons, String.intercalate_cons_of_ne_nil (mt List.map_eq_nil_iff.mp hns),
        String.toList_append, String.toList_append, List.mem_append, List.mem_append] at h
      rcases h with (h | h) | h
      · exact isParameter_of_mem_toString h
      · obtain rfl : c = ';' := by simpa using h
        rfl
      · exact ih h

/-- What opens a style is a style sequence. -/
theorem isStyleSequence_opening (style : Style) : IsStyleSequence style.opening :=
  ⟨(";".intercalate (style.parameters.map toString)).toList,
    fun _ => isParameter_of_mem_intercalate, rfl⟩

theorem isStyleSequence_reset : IsStyleSequence reset :=
  ⟨['0'], List.forall_mem_singleton.mpr rfl, rfl⟩

/-- A text without an escape character holds no reset. -/
theorem reopen_of_notMem (style : Style) (h : '\x1b' ∉ cs) : style.reopen cs = cs := by
  induction cs with
  | nil => rfl
  | cons c cs ih =>
    obtain ⟨hc, hcs⟩ := List.ne_and_not_mem_of_not_mem_cons h
    rw [reopen, ih hcs]
    rintro rest rfl
    exact absurd rfl hc

end Style

/-- In front of any text, a text with its style sequences deleted is another, in which there is not
even an escape character. -/
structure Unstyles (styled plain : String) : Prop where
  notMem : '\x1b' ∉ plain.toList
  eraseStyles_append : ∀ rest,
    eraseStyles (styled.toList ++ rest) = plain.toList ++ eraseStyles rest

theorem unstyles_self (h : '\x1b' ∉ s.toList) : Unstyles s s :=
  ⟨h, eraseStyles_append_of_notMem h⟩

/-- Texts one behind the other are erased one by one. -/
theorem Unstyles.append (h : Unstyles s t) (h' : Unstyles s' t') :
    Unstyles (s ++ s') (t ++ t') where
  notMem := by simp [h.notMem, h'.notMem]
  eraseStyles_append rest := by
    rw [String.toList_append, String.toList_append, List.append_assoc, h.eraseStyles_append,
      h'.eraseStyles_append, List.append_assoc]

theorem Unstyles.append_plain (h : Unstyles s t) (text : String) (htext : '\x1b' ∉ text.toList) :
    Unstyles (s ++ text) (t ++ text) :=
  h.append (unstyles_self htext)

/-- **Painting adds style sequences only.** -/
theorem unstyles_paint (style : Style) (s : String) (h : '\x1b' ∉ s.toList) :
    Unstyles (paint true style s) (paint false style s) where
  notMem := h
  eraseStyles_append rest := by
    have hwrap : (paint true style s).toList = style.opening ++ s.toList ++ Style.reset := by
      simp [paint, Style.wrap, style.reopen_of_notMem h]
    calc eraseStyles ((paint true style s).toList ++ rest)
        = eraseStyles (style.opening ++ (s.toList ++ (Style.reset ++ rest))) := by
          rw [hwrap, List.append_assoc, List.append_assoc]
      _ = eraseStyles (s.toList ++ (Style.reset ++ rest)) :=
          eraseStyles_append_of_isStyleSequence style.isStyleSequence_opening _
      _ = s.toList ++ eraseStyles (Style.reset ++ rest) := eraseStyles_append_of_notMem h _
      _ = s.toList ++ eraseStyles rest := by
          rw [eraseStyles_append_of_isStyleSequence Style.isStyleSequence_reset]

theorem unstyles_join {α : Type} {f g : α → String} {l : List α}
    (h : ∀ a ∈ l, Unstyles (f a) (g a)) :
    Unstyles (String.join (l.map f)) (String.join (l.map g)) := by
  induction l with
  | nil => exact unstyles_self (by simp)
  | cons a l ih =>
    obtain ⟨ha, hl⟩ := List.forall_mem_cons.mp h
    rw [List.map_cons, List.map_cons, String.join_cons, String.join_cons]
    exact ha.append (ih hl)

/-- With nothing behind it, the whole text is erased. -/
theorem Unstyles.eraseStyles_eq (h : Unstyles s t) : eraseStyles s.toList = t.toList := by
  have hall := h.eraseStyles_append []
  have hnil : eraseStyles [] = [] := by rw [eraseStyles]
  rwa [List.append_nil, hnil, List.append_nil] at hall

end GlslCompliance.Text
