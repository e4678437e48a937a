import GlslCompliance.Proofs.Extension.Notices
import GlslCompliance.Proofs.Extension.Refusal

/-!
# Extensions with partial support

A directive that changes an extension with gaps in its support says so. What is said follows from
the state before the directive alone, `reports_obey_of_recognized`: one notice for each extension
that the directive brings along and that is partially supported at that moment, in the order of the
search.

No directive gives an extension partial support (`disabledPartial_of_obey`). One extension starts
with it, `Catalog.incomplete`, and nothing implies that extension, so a directive reaches it by its
name or by the wildcard only, `Directive.settles_iff`. By its name it speaks, by the wildcard it is
silent: `partialNotices_obey`.
-/

namespace GlslCompliance

/-- The extension that starts with gaps in its support. -/
def Catalog.incomplete : String := "GL_ARB_gpu_shader5"

theorem Catalog.incomplete_mem_names : incomplete ∈ names := by decide +kernel

/-- Whether a diagnostic says that an extension is only partially supported. -/
def Diagnostic.isPartialNotice (d : Diagnostic) : Bool := d.code == "W0103"

namespace Directive

/-- Whether a directive decides the behavior of the incomplete extension: with one of the four
keywords it names the extension, or it names all and warns or disables. -/
def Settles (d : Directive) : Prop :=
  d.keyword ∈ ["require", "enable", "disable", "warn"] ∧
    (d.name = Catalog.incomplete ∨ d.name = Catalog.wildcard ∧ d.keyword ∈ ["warn", "disable"])

instance (d : Directive) : Decidable d.Settles := instDecidableAnd

end Directive

/-- Nothing brings the incomplete extension along but itself. -/
theorem Implication.reaches_incomplete_iff {name : String} :
    Relation.ReflTransGen (Leads implications) name Catalog.incomplete ↔
      name = Catalog.incomplete := by
  constructor
  · intro h
    rcases Relation.ReflTransGen.cases_tail h with h | ⟨m, -, hl⟩
    · exact h.symm
    · have hnone : ∀ row ∈ implications, Catalog.incomplete ∉ row.dependents := by decide +kernel
      obtain ⟨row, hrow, -, hmem⟩ := exists_row_of_leads hl
      exact absurd hmem (hnone row hrow)
  · rintro rfl
    exact .refl

/-- A directive settles the incomplete extension if it covers it. -/
theorem Directive.settles_iff {d : Directive} : d.Settles ↔ d.Covers Catalog.incomplete := by
  rw [Settles, Covers, Implication.reaches_incomplete_iff]
  refine and_congr_right fun _ => or_congr_left ⟨fun h => ⟨?_, h⟩, fun h => h.2⟩
  exact h ▸ Catalog.incomplete_mem_names

namespace Activation

variable {a : Activation} {e : String} {b : Behavior} {l : Location} {d : Directive}

/-! ### What is said about partial support -/

/-- A recognized extension is spoken of if it is partially supported. -/
theorem remark_of_recognized (h : a.IsListed) (hn : e ∈ Catalog.names) :
    a.remark b l e =
      if a.get e == .disabledPartial then [partiallySupported e l] else [] := by
  have hknown : (!a.isRecognized e) = false := by
    rw [isRecognized_iff.mpr (h ▸ hn), Bool.not_true]
  rw [remark, hknown, if_neg Bool.false_ne_true]
  simp only [beq_iff_eq]

/-- Assignments to different recognized extensions report those that are partially supported. -/
theorem reports_assignEach_of_recognized (h : a.IsListed) {ns : List String}
    (hns : ∀ n ∈ ns, n ∈ Catalog.names) (hnodup : ns.Nodup) :
    (a.assignEach b l ns).2 =
      (ns.filter fun n => a.get n == .disabledPartial).map (partiallySupported · l) := by
  have hw : Catalog.wildcard ∉ ns := fun hc => Catalog.wildcard_notMem_names (hns _ hc)
  have hremarks : ns.flatMap (a.remark b l) = ns.flatMap fun n =>
      if a.get n == .disabledPartial then [partiallySupported n l] else [] :=
    List.flatMap_congr fun n hn => remark_of_recognized h (hns n hn)
  rw [reports_assignEach hw hnodup, hremarks, flatMap_ite]

/-- **One directive for a recognized extension.** -/
theorem reports_obey_of_recognized (h : a.IsListed)
    (hk : Behavior.ofKeyword? d.keyword = some b) (hn : d.name ∈ Catalog.names) :
    (a.obey d).2 = ((Implication.closure implications d.name).filter fun n =>
      a.get n == .disabledPartial).map (partiallySupported · d.location) := by
  rw [obey_of_known hk]
  exact reports_assignEach_of_recognized h (fun n => Implication.recognized_of_mem_closure hn)
    (Implication.nodup_closure implications d.name)

/-! ### Partial support is not regained -/

/-- What is partially supported behind a directive has been so before. -/
theorem disabledPartial_of_obey (h : a.IsListed) (he : (a.obey d).1.get e = .disabledPartial) :
    a.get e = .disabledPartial := by
  by_cases hn : e ∈ Catalog.names
  · rw [get_obey h hn] at he
    by_cases hd : d.Covers e
    · rw [if_pos hd] at he
      exact absurd he (Directive.behavior_ne hd.1).1
    · rwa [if_neg hd] at he
  · rw [get_of_notMem (isListed_obey h) hn] at he
    exact nomatch he

/-- No extension is partially supported but the one that starts so. -/
def IsAlmostComplete (a : Activation) : Prop :=
  ∀ e, a.get e = .disabledPartial → e = Catalog.incomplete

theorem isAlmostComplete_initial : initial.IsAlmostComplete := by
  intro e he
  by_cases hn : e ∈ Catalog.names
  · rw [get_initial hn, Catalog.initialBehavior] at he
    split at he
    · assumption
    · exact absurd he (by decide)
  · rw [get_of_notMem isListed_initial hn] at he
    exact absurd he (by decide)

/-- No directive makes another extension partially supported. -/
theorem isAlmostComplete_obey (h : a.IsListed) (ha : a.IsAlmostComplete) (d : Directive) :
    (a.obey d).1.IsAlmostComplete :=
  fun e he => ha e (disabledPartial_of_obey h he)

/-- Partial support ends with the directive that settles it, and not before. -/
theorem disabledPartial_obey_iff (h : a.IsListed) :
    (a.obey d).1.get Catalog.incomplete = .disabledPartial ↔
      a.get Catalog.incomplete = .disabledPartial ∧ ¬ d.Settles := by
  constructor
  · intro he
    refine ⟨disabledPartial_of_obey h he, fun hd => ?_⟩
    rw [get_obey h Catalog.incomplete_mem_names, if_pos (Directive.settles_iff.mp hd)] at he
    exact (Directive.behavior_ne hd.1).1 he
  · rintro ⟨ha, hd⟩
    rwa [get_obey h Catalog.incomplete_mem_names, if_neg (mt Directive.settles_iff.mpr hd)]

/-! ### The notice of the incomplete extension -/

/-- Among different names the incomplete one alone is partially supported. -/
theorem filter_disabledPartial (ha : a.IsAlmostComplete) {ns : List String} (hnodup : ns.Nodup) :
    (ns.filter fun n => a.get n == .disabledPartial) =
      if a.get Catalog.incomplete = .disabledPartial ∧ Catalog.incomplete ∈ ns then
        [Catalog.incomplete]
      else [] := by
  by_cases hpartial : a.get Catalog.incomplete = .disabledPartial
  · have hself : (ns.filter fun n => a.get n == .disabledPartial) =
        ns.filter (· == Catalog.incomplete) := by
      refine List.filter_congr fun n _ => Bool.eq_iff_iff.mpr ?_
      rw [beq_iff_eq, beq_iff_eq]
      exact ⟨ha n, fun hn => hn ▸ hpartial⟩
    rw [hself, List.filter_beq, hnodup.count]
    by_cases hmem : Catalog.incomplete ∈ ns
    · rw [if_pos hmem, if_pos ⟨hpartial, hmem⟩]
      rfl
    · rw [if_neg hmem, if_neg fun hc => hmem hc.2]
      rfl
  · rw [if_neg fun hc => hpartial hc.1]
    refine List.filter_eq_nil_iff.mpr fun n _ hn => hpartial ?_
    have hn : a.get n = .disabledPartial := beq_iff_eq.mp hn
    exact ha n hn ▸ hn

theorem partialNotices_unsupported (n : String) (b : Behavior) (l : Location) :
    [unsupported n b l].filter Diagnostic.isPartialNotice = [] := by
  unfold unsupported
  split <;> rfl

theorem partialNotices_assignAll (b : Behavior) (l : Location) :
    (a.assignAll b l).2.filter Diagnostic.isPartialNotice = [] := by
  unfold assignAll
  split <;> rfl

/-- **One directive.** It speaks of partial support if it names the incomplete extension, and if
that has not been settled before. -/
theorem partialNotices_obey (h : a.IsListed) (ha : a.IsAlmostComplete) :
    (a.obey d).2.filter Diagnostic.isPartialNotice =
      if a.get Catalog.incomplete = .disabledPartial ∧ d.Settles ∧ d.name = Catalog.incomplete then
        [partiallySupported Catalog.incomplete d.location]
      else [] := by
  rcases hk : Behavior.ofKeyword? d.keyword with _ | b
  · have hfour := Behavior.ofKeyword?_eq_none_iff.mp hk
    rw [obey_of_unknown hk, if_neg fun hc => hfour hc.2.1.1]
    rfl
  by_cases hn : d.name ∈ Catalog.names
  · have hfour := Behavior.mem_keywords_of_ofKeyword? hk
    have hnamed : (a.get Catalog.incomplete = .disabledPartial ∧
          Catalog.incomplete ∈ Implication.closure implications d.name) ↔
        a.get Catalog.incomplete = .disabledPartial ∧ d.Settles ∧
          d.name = Catalog.incomplete := by
      rw [Implication.mem_closure_iff, Implication.reaches_incomplete_iff]
      exact and_congr_right fun _ => ⟨fun hc => ⟨⟨hfour, .inl hc⟩, hc⟩, And.right⟩
    rw [reports_obey_of_recognized h hk hn,
      filter_disabledPartial ha (Implication.nodup_closure implications d.name)]
    simp only [hnamed]
    split <;> rfl
  · have hname : d.name ≠ Catalog.incomplete := fun hc => hn (hc ▸ Catalog.incomplete_mem_names)
    rw [if_neg fun hc => hname hc.2.2]
    by_cases hw : d.name = Catalog.wildcard
    · rw [obey_wildcard hk hw, partialNotices_assignAll]
    · rw [obey_of_unrecognized h hk hw hn, partialNotices_unsupported]

end Activation

end GlslCompliance
