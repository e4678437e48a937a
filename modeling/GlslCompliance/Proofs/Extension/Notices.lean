import GlslCompliance.Proofs.Diagnostic.Accounting
import GlslCompliance.Proofs.Extension.Consistency

/-!
# What is reported on a change of the activation

The diagnostics that directives and assignments give rise to. Whatever the activation, the names and
the keywords are, a change is reported in one of four wordings, at the place of the change
(`isWording_of_mem_write`). So it speaks by one of five rules and never adds a note
(`isNotice_of_mem_write`).

Assignments to different names do not interfere. What is said of each is its `remark`, which follows
from the state before them all (`reports_assignEach`).
-/

namespace GlslCompliance

/-- The place of a change. -/
def Write.location : Write → Location
  | directive d => d.location
  | assignment _ _ location => location

namespace Activation

variable {a : Activation} {n : String} {b : Behavior} {l : Location} {d : Diagnostic}

/-! ### Wordings -/

/-- The forms of a diagnostic on a change at some place. -/
inductive IsWording (l : Location) : Diagnostic → Prop
  | keywordRefused (keyword : String) : IsWording l (keywordRefused keyword l)
  | wildcardRefused : IsWording l (wildcardRefused l)
  | partiallySupported (n : String) : IsWording l (partiallySupported n l)
  | unsupported (n : String) (b : Behavior) : IsWording l (unsupported n b l)

theorem isWording_of_mem_assignAll (h : d ∈ (a.assignAll b l).2) : IsWording l d := by
  unfold assignAll at h
  split at h
  · exact List.mem_singleton.mp h ▸ .wildcardRefused
  · exact nomatch h

theorem isWording_of_mem_assign (h : d ∈ (a.assign n b l).2) : IsWording l d := by
  unfold assign at h
  split at h
  · exact isWording_of_mem_assignAll h
  · split at h
    · exact List.mem_singleton.mp h ▸ .unsupported n b
    · dsimp only at h
      split at h
      · exact List.mem_singleton.mp h ▸ .partiallySupported n
      · exact nomatch h

theorem isWording_of_mem_assignEach {ns : List String} (h : d ∈ (a.assignEach b l ns).2) :
    IsWording l d := by
  induction ns generalizing a with
  | nil => exact nomatch h
  | cons n ns ih =>
    rcases List.mem_append.mp h with h | h
    · exact isWording_of_mem_assign h
    · exact ih h

/-- **One change.** It is reported in one of the four wordings, at its place. -/
theorem isWording_of_mem_write {w : Write} (h : d ∈ (a.write w).2) : IsWording w.location d := by
  cases w with
  | directive directive =>
    rw [write] at h
    rcases hk : Behavior.ofKeyword? directive.keyword with _ | b
    · rw [obey_of_unknown hk] at h
      exact List.mem_singleton.mp h ▸ .keywordRefused directive.keyword
    · rw [obey_of_known hk] at h
      exact isWording_of_mem_assignEach h
  | assignment n b l => exact isWording_of_mem_assign h

/-! ### Different names -/

section Names

variable {m : String} {ns : List String}

/-- To put together what some elements have to say is to go through these alone. -/
theorem flatMap_ite {α β : Type} (p : α → Bool) (f : α → β) (xs : List α) :
    (xs.flatMap fun x => if p x then [f x] else []) = (xs.filter p).map f := by
  induction xs with
  | nil => rfl
  | cons x xs ih =>
    rw [List.flatMap_cons, ih, List.filter_cons]
    split <;> rfl

/-- What is said about a name, other than the wildcard, when a behavior is assigned to it. -/
def remark (a : Activation) (b : Behavior) (l : Location) (n : String) : List Diagnostic :=
  if !a.isRecognized n then [unsupported n b l]
  else if a.get n = .disabledPartial then [partiallySupported n l] else []

/-- A name has no entry if it is not recognized. -/
theorem lookup_eq_none_iff : a.entries.lookup n = none ↔ (!a.isRecognized n) = true := by
  rw [List.lookup_eq_none_iff]
  simp only [isRecognized, Bool.not_eq_true', List.any_eq_false, bne_iff_ne, beq_iff_eq, ne_comm, Ne]

theorem replace_eq_self {es : List (String × Behavior)} (h : es.lookup n = none) :
    replace n b es = es := by
  refine (List.map_congr_left fun e he => ?_).trans (List.map_id es)
  exact if_neg fun hc => bne_iff_ne.mp (List.lookup_eq_none_iff.mp h e he) hc.symm

/-- An assignment replaces at most the entry of its name. -/
theorem entries_assign (hw : n ≠ Catalog.wildcard) :
    (a.assign n b l).1.entries = replace n b a.entries := by
  rw [assign, if_neg hw]
  split
  · next h => exact (replace_eq_self h).symm
  · rfl

/-- What an assignment reports is the remark on its name. -/
theorem reports_assign (hw : n ≠ Catalog.wildcard) : (a.assign n b l).2 = a.remark b l n := by
  rw [assign, if_neg hw, remark]
  split
  · next h => rw [if_pos (lookup_eq_none_iff.mp h)]
  · next previous h =>
    have hknown : ¬ (!a.isRecognized n) = true := fun hc =>
      Option.some_ne_none previous (h.symm.trans (lookup_eq_none_iff.mpr hc))
    rw [if_neg hknown, get, h, Option.getD_some]

/-- An assignment to one name has no part in what is said about another. -/
theorem remark_assign (hw : n ≠ Catalog.wildcard) (hm : m ≠ n) :
    (a.assign n b l).1.remark b l m = a.remark b l m := by
  have hlookup : (a.assign n b l).1.entries.lookup m = a.entries.lookup m := by
    rw [entries_assign hw, lookup_replace, if_neg hm]
  have hrecognized : (!(a.assign n b l).1.isRecognized m) = !a.isRecognized m := by
    rw [Bool.eq_iff_iff, ← lookup_eq_none_iff, ← lookup_eq_none_iff, hlookup]
  rw [remark, remark, hrecognized, get, get, hlookup]

/-- Several assignments replace the entries of their names. -/
theorem entries_assignEach (hw : Catalog.wildcard ∉ ns) :
    (a.assignEach b l ns).1.entries =
      a.entries.map fun e => if e.1 ∈ ns then (e.1, b) else e := by
  induction ns generalizing a with
  | nil => simp [assignEach_nil]
  | cons n ns ih =>
    obtain ⟨hn, hns⟩ := List.ne_and_not_mem_of_not_mem_cons hw
    rw [assignEach_cons, ih hns, entries_assign hn.symm, replace, List.map_map]
    refine List.map_congr_left fun e _ => ?_
    by_cases he : e.1 = n <;> simp [he]

/-- Several names are each spoken of as the state before them all says. -/
theorem reports_assignEach (hw : Catalog.wildcard ∉ ns) (hnodup : ns.Nodup) :
    (a.assignEach b l ns).2 = ns.flatMap (a.remark b l) := by
  induction ns generalizing a with
  | nil => rfl
  | cons n ns ih =>
    obtain ⟨hn, hns⟩ := List.ne_and_not_mem_of_not_mem_cons hw
    obtain ⟨hnotMem, hnodup⟩ := List.nodup_cons.mp hnodup
    have hothers : ns.flatMap ((a.assign n b l).1.remark b l) = ns.flatMap (a.remark b l) :=
      List.flatMap_congr fun m hm => remark_assign hn.symm fun hc => hnotMem (hc ▸ hm)
    rw [reports_assignEach_cons, reports_assign hn.symm, ih hns hnodup, hothers,
      List.flatMap_cons]

end Names

/-! ### Rules -/

/-- The rules by which a change is reported. -/
def changeRules : List Rule :=
  [.unsupportedExtension, .unsupportedExtensionNotice, .partialSupport, .wildcardActivation,
    .unknownBehavior]

/-- A diagnostic that may be about a change. -/
def IsNotice (d : Diagnostic) : Prop := (∃ r ∈ changeRules, d.Follows r) ∧ d.notes = []

theorem isNotice_report {r : Rule} (hr : r ∈ changeRules) (message : String) (l : Location) :
    IsNotice (r.report message l) := ⟨⟨r, hr, r.follows_report message l⟩, rfl⟩

/-- An unknown name is reported as an error or as a notice. -/
theorem follows_unsupported (n : String) (b : Behavior) (l : Location) :
    (unsupported n b l).Follows .unsupportedExtension ∨
      (unsupported n b l).Follows .unsupportedExtensionNotice := by
  unfold unsupported
  split
  · exact .inl ⟨rfl, rfl⟩
  · exact .inr ⟨rfl, rfl⟩

theorem isNotice_unsupported (n : String) (b : Behavior) (l : Location) :
    IsNotice (unsupported n b l) := by
  rcases follows_unsupported n b l with h | h
  · exact ⟨⟨_, by decide, h⟩, rfl⟩
  · exact ⟨⟨_, by decide, h⟩, rfl⟩

theorem IsWording.isNotice (h : IsWording l d) : IsNotice d := by
  cases h with
  | keywordRefused | wildcardRefused | partiallySupported => exact isNotice_report (by decide) _ _
  | unsupported n b => exact isNotice_unsupported n b l

/-- **One change.** Every diagnostic on it follows one of the five rules. -/
theorem isNotice_of_mem_write {w : Write} (h : d ∈ (a.write w).2) : IsNotice d :=
  (isWording_of_mem_write h).isNotice

/-- No diagnostic on a change has the code of another rule. -/
theorem code_ne_of_mem_write {w : Write} (h : d ∈ (a.write w).2) {code : String}
    (hcode : ∀ r ∈ changeRules, r.code ≠ code) : d.code ≠ code := by
  obtain ⟨⟨r, hr, hd⟩, -⟩ := isNotice_of_mem_write h
  exact hd.code ▸ hcode r hr

end Activation

end GlslCompliance
