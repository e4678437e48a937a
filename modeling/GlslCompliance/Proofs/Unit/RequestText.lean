import GlslCompliance.Proofs.Text.Trimming
import GlslCompliance.Unit.Request

/-!
# The text of a request

Which texts are read as a request, and as which. A text has two parts at its first colon, if it has
a colon at all (`PartsAt`), and the name must not be blank (`parse_eq_ok_iff`). Seen from the other
end, a request that is read is tidy (`IsTidy`), and its texts are those that have white space around
its name and its keyword (`parse_eq_ok_iff_isPadded`), so it is read again from the plainest of
these.
-/

namespace GlslCompliance.ExtensionRequest

open Text (IsBlankRun IsTrimmed isBlank trim)

variable {s : String} {r : ExtensionRequest} {before behind : List Char}

/-- The parts of a text in front of its first colon and behind it. -/
structure PartsAt (s : String) (before behind : List Char) : Prop where
  eq_append : s.toList = before ++ ':' :: behind
  colon_notMem : ':' ∉ before

/-- A request without white space around its name and its keyword, and with a name that can stand
in front of a colon. -/
structure IsTidy (r : ExtensionRequest) : Prop where
  name_ne : r.name ≠ ""
  colon_notMem : ':' ∉ r.name.toList
  name_trimmed : IsTrimmed r.name.toList
  keyword_trimmed : IsTrimmed r.keyword.toList

/-- A text that holds a request with white space around its name and its keyword. -/
def IsPadded (r : ExtensionRequest) (s : String) : Prop :=
  ∃ w₁ w₂ w₃ w₄ : String, IsBlankRun w₁.toList ∧ IsBlankRun w₂.toList ∧ IsBlankRun w₃.toList ∧
    IsBlankRun w₄.toList ∧ s = w₁ ++ r.name ++ w₂ ++ ":" ++ w₃ ++ r.keyword ++ w₄

/-! ### By the parts of a text -/

/-- A text without a colon is refused. -/
theorem parse_of_colon_notMem (h : ':' ∉ s.toList) : parse s = .error (.malformedRequest s) := by
  rw [parse, Text.splitFirst?_eq_none_iff.mpr h]

/-- A text with nothing in front of its first colon is refused. -/
theorem parse_of_isBlankRun (h : PartsAt s before behind) (hblank : IsBlankRun before) :
    parse s = .error (.malformedRequest s) := by
  rw [parse, Text.splitFirst?_eq_some_iff.mpr ⟨h.eq_append, h.colon_notMem⟩]
  dsimp only
  rw [Text.trim_eq_nil_iff.mpr hblank]

/-- Any other text is read, with both sides of its first colon trimmed. -/
theorem parse_of_not_isBlankRun (h : PartsAt s before behind) (hname : ¬ IsBlankRun before) :
    parse s = .ok ⟨String.ofList (trim before), String.ofList (trim behind)⟩ := by
  rw [parse, Text.splitFirst?_eq_some_iff.mpr ⟨h.eq_append, h.colon_notMem⟩]
  rw [← Text.trim_eq_nil_iff] at hname
  dsimp only
  cases htrim : trim before with
  | nil => exact absurd htrim hname
  | cons c cs => rfl

/-- Every text has a colon and so two parts, or none. -/
theorem colon_notMem_or_exists_partsAt (s : String) :
    ':' ∉ s.toList ∨ ∃ before behind, PartsAt s before behind := by
  cases h : Text.splitFirst? ':' s.toList with
  | none => exact .inl (Text.splitFirst?_eq_none_iff.mp h)
  | some parts =>
    obtain ⟨happend, hnotMem⟩ := Text.splitFirst?_eq_some_iff.mp h
    exact .inr ⟨parts.1, parts.2, happend, hnotMem⟩

/-- What is read stands on the two sides of the first colon. -/
theorem parse_eq_ok_iff :
    parse s = .ok r ↔ ∃ before behind, PartsAt s before behind ∧ ¬ IsBlankRun before ∧
      r.name.toList = trim before ∧ r.keyword.toList = trim behind := by
  constructor
  · intro h
    rcases colon_notMem_or_exists_partsAt s with hcolon | ⟨before, behind, hparts⟩
    · rw [parse_of_colon_notMem hcolon] at h
      exact nomatch h
    by_cases hblank : IsBlankRun before
    · rw [parse_of_isBlankRun hparts hblank] at h
      exact nomatch h
    · rw [parse_of_not_isBlankRun hparts hblank] at h
      obtain rfl := Except.ok.inj h
      exact ⟨before, behind, hparts, hblank, String.toList_ofList, String.toList_ofList⟩
  · rintro ⟨before, behind, hparts, hblank, hname, hkeyword⟩
    rw [parse_of_not_isBlankRun hparts hblank, ← hname, ← hkeyword, String.ofList_toList,
      String.ofList_toList]

/-- An error keeps the text as it is. -/
theorem eq_malformedRequest_of_parse {e : NameError} (h : parse s = .error e) :
    e = .malformedRequest s := by
  rcases colon_notMem_or_exists_partsAt s with hcolon | ⟨before, behind, hparts⟩
  · rw [parse_of_colon_notMem hcolon] at h
    exact (Except.error.inj h).symm
  by_cases hblank : IsBlankRun before
  · rw [parse_of_isBlankRun hparts hblank] at h
    exact (Except.error.inj h).symm
  · rw [parse_of_not_isBlankRun hparts hblank] at h
    exact nomatch h

/-! ### By what is read -/

theorem colon_notMem_of_isBlankRun {cs : List Char} (h : IsBlankRun cs) : ':' ∉ cs := fun hmem =>
  absurd (h ':' hmem) (by decide)

/-- A request that is read is tidy, and its text holds it with white space around it. -/
theorem isTidy_and_isPadded_of_parse (h : parse s = .ok r) : r.IsTidy ∧ r.IsPadded s := by
  obtain ⟨before, behind, hparts, hblank, hname, hkeyword⟩ := parse_eq_ok_iff.mp h
  have hne : r.name ≠ "" := by
    intro hempty
    rw [← Text.trim_eq_nil_iff, ← hname, hempty] at hblank
    exact hblank rfl
  obtain ⟨hnameTrimmed, w₁, w₂, hw₁, hw₂, hbefore⟩ := Text.trim_eq_iff.mp hname.symm
  obtain ⟨hkeywordTrimmed, w₃, w₄, hw₃, hw₄, hbehind⟩ := Text.trim_eq_iff.mp hkeyword.symm
  have hcolon : ':' ∉ r.name.toList := fun hmem => hparts.colon_notMem (by simp [hbefore, hmem])
  refine ⟨⟨hne, hcolon, hnameTrimmed, hkeywordTrimmed⟩,
    String.ofList w₁, String.ofList w₂, String.ofList w₃, String.ofList w₄, ?_⟩
  simp only [String.toList_ofList]
  refine ⟨hw₁, hw₂, hw₃, hw₄, String.toList_inj.mp ?_⟩
  rw [hparts.eq_append, hbefore, hbehind]
  simp

/-- A tidy request is read from each text that holds it with white space around it. -/
theorem parse_of_isPadded (hr : r.IsTidy) (h : r.IsPadded s) : parse s = .ok r := by
  obtain ⟨w₁, w₂, w₃, w₄, hw₁, hw₂, hw₃, hw₄, rfl⟩ := h
  let before := w₁.toList ++ r.name.toList ++ w₂.toList
  let behind := w₃.toList ++ r.keyword.toList ++ w₄.toList
  have hname : trim before = r.name.toList :=
    Text.trim_eq_iff.mpr ⟨hr.name_trimmed, _, _, hw₁, hw₂, rfl⟩
  have hkeyword : trim behind = r.keyword.toList :=
    Text.trim_eq_iff.mpr ⟨hr.keyword_trimmed, _, _, hw₃, hw₄, rfl⟩
  have hcolon : ':' ∉ before := by
    simp [before, colon_notMem_of_isBlankRun hw₁, hr.colon_notMem,
      colon_notMem_of_isBlankRun hw₂]
  have hblank : ¬ IsBlankRun before := by
    rw [← Text.trim_eq_nil_iff, hname, String.toList_eq_nil_iff]
    exact hr.name_ne
  exact parse_eq_ok_iff.mpr
    ⟨before, behind, ⟨by simp [before, behind], hcolon⟩, hblank, hname.symm, hkeyword.symm⟩

/-- **The texts of a request** are those that hold it, tidy, with white space around its name and
its keyword. -/
theorem parse_eq_ok_iff_isPadded : parse s = .ok r ↔ r.IsTidy ∧ r.IsPadded s :=
  ⟨isTidy_and_isPadded_of_parse, fun h => parse_of_isPadded h.1 h.2⟩

/-- Only the first colon separates, and it may have white space around it. -/
example : parse "\tGL_OES_texture_3D\u3000: warn:on " = .ok ⟨"GL_OES_texture_3D", "warn:on"⟩ := by
  decide +kernel

/-- **What comes of the text of a request**: which texts are read, what is read and that it can be
read again, the error of all others, and all texts of one request. -/
theorem parse_outcome (s : String) :
    ((∃ r, parse s = .ok r) ↔
      ∃ before behind, PartsAt s before behind ∧ ∃ c ∈ before, isBlank c = false) ∧
    (∀ r, parse s = .ok r → r.IsTidy ∧ parse (r.name ++ ":" ++ r.keyword) = .ok r ∧
      ∃ before behind, PartsAt s before behind ∧ r.name.toList = trim before ∧
        r.keyword.toList = trim behind) ∧
    (∀ e, parse s = .error e → e = .malformedRequest s) ∧
    ∀ r, parse s = .ok r ↔ r.IsTidy ∧ r.IsPadded s := by
  have hnotBlank : ∀ cs, ¬ IsBlankRun cs ↔ ∃ c ∈ cs, isBlank c = false := fun cs => by
    simp [IsBlankRun]
  refine ⟨⟨?_, ?_⟩, fun r h => ?_, fun e => eq_malformedRequest_of_parse,
    fun r => parse_eq_ok_iff_isPadded⟩
  · rintro ⟨r, h⟩
    obtain ⟨before, behind, hparts, hblank, -⟩ := parse_eq_ok_iff.mp h
    exact ⟨before, behind, hparts, (hnotBlank before).mp hblank⟩
  · rintro ⟨before, behind, hparts, hname⟩
    exact ⟨_, parse_of_not_isBlankRun hparts ((hnotBlank before).mpr hname)⟩
  · obtain ⟨before, behind, hparts, -, hname, hkeyword⟩ := parse_eq_ok_iff.mp h
    have htidy := (isTidy_and_isPadded_of_parse h).1
    have hplain : r.IsPadded (r.name ++ ":" ++ r.keyword) :=
      ⟨"", "", "", "", nofun, nofun, nofun, nofun, by simp⟩
    exact ⟨htidy, parse_of_isPadded htidy hplain, before, behind, hparts, hname, hkeyword⟩

end GlslCompliance.ExtensionRequest
