import GlslCompliance.Proofs.Diagnostic.Accounting
import GlslCompliance.Proofs.Extension.Assignment

/-!
# Directives that are refused

A directive is an error in three cases: its keyword is unknown; it would turn every extension on; it
requires an extension that is not recognized. Whether one of them holds can be told from the
directive alone (`Directive.IsRefused`), although a directive is carried out on an activation that
earlier ones have changed: `Activation.errors_obey`. What is said about partial support does depend
on the activation, but it is no error.
-/

namespace GlslCompliance

/-- Whether a directive is an error. -/
def Directive.IsRefused (d : Directive) : Prop :=
  d.keyword ∉ ["require", "enable", "disable", "warn"] ∨
    (d.name = Catalog.wildcard ∧ d.keyword ∈ ["enable", "require"]) ∨
    (d.name ∉ Catalog.names ∧ d.name ≠ Catalog.wildcard ∧ d.keyword = "require")

instance (d : Directive) : Decidable d.IsRefused := instDecidableOr

/-- With one of the four keywords, what matters is the behavior that the directive asks for. -/
theorem Directive.isRefused_iff {d : Directive} {b : Behavior}
    (hk : Behavior.ofKeyword? d.keyword = some b) :
    d.IsRefused ↔ (d.name = Catalog.wildcard ∧ b.isRequested) ∨
      (d.name ∉ Catalog.names ∧ d.name ≠ Catalog.wildcard ∧ b = .required) := by
  have hfour := not_not_intro (Behavior.mem_keywords_of_ofKeyword? hk)
  have hrequire : d.keyword = "require" ↔ b = .required := by
    rcases Behavior.ofKeyword?_eq_some_iff.mp hk with ⟨h, rfl⟩ | ⟨h, rfl⟩ | ⟨h, rfl⟩ | ⟨h, rfl⟩ <;>
      rw [h] <;> decide
  rw [IsRefused, or_iff_right hfour, ← Behavior.isRequested_iff hk, hrequire]

namespace Activation

variable {a : Activation} {n : String} {b : Behavior} {l : Location} {d : Directive}

/-! ### Errors of an assignment -/

theorem errors_assignAll :
    (a.assignAll b l).2.filter Diagnostic.isError =
      if b.isRequested then [wildcardRefused l] else [] := by
  unfold assignAll
  split <;> rfl

/-- Of a recognized extension only partial support is reported. -/
theorem errors_assign_of_recognized (h : a.IsListed) (hn : n ∈ Catalog.names) :
    (a.assign n b l).2.filter Diagnostic.isError = [] := by
  obtain ⟨previous, hp⟩ := exists_lookup_of_mem h hn
  rw [assign_of_recognized hn hp]
  dsimp only
  split <;> rfl

/-- A name that is not recognized is an error where it is required. -/
theorem errors_unsupported :
    [unsupported n b l].filter Diagnostic.isError =
      if b = .required then [unsupported n b l] else [] := by
  unfold unsupported
  by_cases hb : b = .required
  · rw [if_pos hb, if_pos hb]
    rfl
  · rw [if_neg hb, if_neg hb]
    rfl

/-- Known names give no errors. -/
theorem errors_assignEach_of_recognized (h : a.IsListed) {ns : List String}
    (hns : ∀ n ∈ ns, n ∈ Catalog.names) :
    (a.assignEach b l ns).2.filter Diagnostic.isError = [] := by
  induction ns generalizing a with
  | nil => rfl
  | cons n ns ih =>
    obtain ⟨hn, hns⟩ := List.forall_mem_cons.mp hns
    have hfirst : (a.assign n b l).2.filter Diagnostic.isError = [] :=
      errors_assign_of_recognized h hn
    have hothers : ((a.assign n b l).1.assignEach b l ns).2.filter Diagnostic.isError = [] :=
      ih (isListed_assign h) hns
    rw [reports_assignEach_cons, List.filter_append, hfirst, hothers, List.append_nil]

/-! ### Directives by their name -/

/-- A directive for a name that is not recognized is one assignment. -/
theorem obey_of_notMem_names (hk : Behavior.ofKeyword? d.keyword = some b)
    (hn : d.name ∉ Catalog.names) :
    a.obey d = a.assign d.name b d.location := by
  rw [obey_of_known hk, Implication.closure_of_notMem_names hn]
  exact Prod.ext rfl (List.append_nil _)

/-- A directive for the wildcard is an assignment to all. -/
theorem obey_wildcard (hk : Behavior.ofKeyword? d.keyword = some b)
    (hw : d.name = Catalog.wildcard) : a.obey d = a.assignAll b d.location := by
  have hn : d.name ∉ Catalog.names := hw ▸ Catalog.wildcard_notMem_names
  rw [obey_of_notMem_names hk hn, hw, assign_wildcard]

/-- A directive for an unknown name reports it and changes nothing. -/
theorem obey_of_unrecognized (h : a.IsListed) (hk : Behavior.ofKeyword? d.keyword = some b)
    (hw : d.name ≠ Catalog.wildcard) (hn : d.name ∉ Catalog.names) :
    a.obey d = (a, [unsupported d.name b d.location]) := by
  rw [obey_of_notMem_names hk hn, assign_of_unknown h hw hn]

/-- **One directive.** It reports an error exactly if it is refused, whatever the activation is. -/
theorem errors_obey (h : a.IsListed) :
    (a.obey d).2.filter Diagnostic.isError = [] ↔ ¬ d.IsRefused := by
  rcases hk : Behavior.ofKeyword? d.keyword with _ | b
  · have hrefused : d.IsRefused := .inl (Behavior.ofKeyword?_eq_none_iff.mp hk)
    rw [obey_of_unknown hk]
    exact iff_of_false (List.cons_ne_nil _ _) (not_not_intro hrefused)
  rw [Directive.isRefused_iff hk]
  by_cases hw : d.name = Catalog.wildcard
  · rw [obey_wildcard hk hw, errors_assignAll]
    by_cases hb : b.isRequested
    · rw [if_pos hb]
      exact iff_of_false (List.cons_ne_nil _ _) (not_not_intro (.inl ⟨hw, hb⟩))
    · rw [if_neg hb]
      refine iff_of_true rfl ?_
      rintro (⟨-, hc⟩ | ⟨-, hc, -⟩)
      · exact hb hc
      · exact hc hw
  by_cases hn : d.name ∈ Catalog.names
  · rw [obey_of_known hk]
    refine iff_of_true (errors_assignEach_of_recognized h fun n => ?_) ?_
    · exact Implication.recognized_of_mem_closure hn
    · rintro (⟨hc, -⟩ | ⟨hc, -⟩)
      · exact hw hc
      · exact hc hn
  · rw [obey_of_unrecognized h hk hw hn, errors_unsupported]
    by_cases hb : b = .required
    · rw [if_pos hb]
      exact iff_of_false (List.cons_ne_nil _ _) (not_not_intro (.inr ⟨hn, hw, hb⟩))
    · rw [if_neg hb]
      refine iff_of_true rfl ?_
      rintro (⟨hc, -⟩ | ⟨-, -, hc⟩)
      · exact hw hc
      · exact hb hc

end Activation

end GlslCompliance
