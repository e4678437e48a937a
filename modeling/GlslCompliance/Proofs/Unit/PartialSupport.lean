import GlslCompliance.Proofs.Extension.Partiality
import GlslCompliance.Proofs.Unit.Run

/-!
# Partial support is reported once

A run of directives leaves the state of partial support at most once, with the first directive that
settles it. So what the run says about partial support is decided by that directive alone: one
notice where it names the incomplete extension, none where it is the wildcard, and whatever follows
adds nothing (`partialNotices_reports`, by induction on the run from any state that no directive can
make worse).
-/

namespace GlslCompliance

/-- **A run of directives.** From a state in which the incomplete extension is not settled, the first
directive that settles it speaks, if it does so by name; from any other state none does. -/
theorem Event.partialNotices_reports (ctx : Context) {a : Activation} (h : a.IsListed)
    (ha : a.IsAlmostComplete) (ds : List Directive) :
    (reports ctx a (ds.map fun d => .change (.directive d))).filter Diagnostic.isPartialNotice =
      if a.get Catalog.incomplete = .disabledPartial then
        ((ds.find? fun d => d.Settles).filter fun d => d.name == Catalog.incomplete).toList.map
          fun d => Activation.partiallySupported Catalog.incomplete d.location
      else [] := by
  induction ds generalizing a with
  | nil => split <;> rfl
  | cons d ds ih =>
    have hfirst := Activation.partialNotices_obey (d := d) h ha
    have hrest := ih (Activation.isListed_obey (d := d) h) (Activation.isAlmostComplete_obey h ha d)
    simp only [Activation.disabledPartial_obey_iff h] at hrest
    rw [List.map_cons, reports, List.filter_append]
    refine (congrArg₂ (· ++ ·) hfirst hrest).trans ?_
    by_cases hpartial : a.get Catalog.incomplete = .disabledPartial
    · by_cases hd : d.Settles
      · -- From here on the extension is settled, so the rest of the run is silent.
        have hsettled : ¬ (a.get Catalog.incomplete = .disabledPartial ∧ ¬ d.Settles) :=
          fun hc => hc.2 hd
        have hfind : (d :: ds).find? (fun d => d.Settles) = some d :=
          List.find?_cons_of_pos (decide_eq_true hd)
        rw [if_neg hsettled, if_pos hpartial, hfind, List.append_nil, Option.filter_some]
        by_cases hname : d.name = Catalog.incomplete
        · rw [if_pos ⟨hpartial, hd, hname⟩, if_pos (beq_iff_eq.mpr hname)]
          rfl
        · rw [if_neg fun hc => hname hc.2.2, if_neg (mt beq_iff_eq.mp hname)]
          rfl
      · have hfind : (d :: ds).find? (fun d => d.Settles) = ds.find? fun d => d.Settles :=
          List.find?_cons_of_neg (mt of_decide_eq_true hd)
        rw [if_neg fun hc => hd hc.2.1, if_pos ⟨hpartial, hd⟩, if_pos hpartial, hfind,
          List.nil_append]
    · rw [if_neg fun hc => hpartial hc.1, if_neg fun hc => hpartial hc.1, if_neg hpartial]
      rfl

namespace CompilationUnit

/-- What a run of directives on a fresh unit says about partial support. -/
def partialNotices (ctx : Context) (ds : List Directive) : List Diagnostic :=
  ((fresh ctx).run (ds.map .directive)).log.entries.filter fun d => d.code == "W0103"

theorem partialNotices_eq (ctx : Context) (ds : List Directive) :
    partialNotices ctx ds =
      ((ds.find? fun d => d.Settles).filter fun d => d.name == Catalog.incomplete).toList.map
        fun d => Activation.partiallySupported Catalog.incomplete d.location := by
  have hinitial : Activation.initial.get Catalog.incomplete = .disabledPartial :=
    Activation.get_initial Catalog.incomplete_mem_names
  have hrun : (fresh ctx).run (ds.map .directive) =
      (fresh ctx).follow (ds.map fun d => .change (.directive d)) := by
    rw [follow, List.map_map]
    rfl
  rw [partialNotices, hrun, entries_fresh_follow]
  refine (Event.partialNotices_reports ctx Activation.isListed_initial
    Activation.isAlmostComplete_initial ds).trans ?_
  rw [if_pos hinitial]

/-- **Partial support is reported once.** In a run of directives on a fresh unit at most one notice
says that an extension is only partially supported. There is one exactly if some directive settles
the incomplete extension and the first that does so names it, whatever its keyword is; then the
notice stands at that directive. If the first one is the wildcard, there is none, however the run
goes on. After any changes whatever, no directive makes an extension partially supported. -/
theorem partialSupport_reported_once (ctx : Context) (ds : List Directive) :
    let first := ds.find? fun d => d.Settles
    (partialNotices ctx ds).length ≤ 1 ∧
    (partialNotices ctx ds ≠ [] ↔ ∃ d, first = some d ∧ d.name = Catalog.incomplete) ∧
    (∀ d, first = some d → d.name = Catalog.incomplete → ∀ more, partialNotices ctx (ds ++ more) =
      [Activation.partiallySupported Catalog.incomplete d.location]) ∧
    (∀ d, first = some d → d.name = Catalog.wildcard →
      ∀ more, partialNotices ctx (ds ++ more) = []) ∧
    ∀ (ws : List Write) (d : Directive) (e : String),
      ((Activation.initial.after ws).obey d).1.get e = .disabledPartial →
        (Activation.initial.after ws).get e = .disabledPartial := by
  intro first
  have hmore : ∀ d, first = some d → ∀ more, partialNotices ctx (ds ++ more) =
      ((some d).filter fun d => d.name == Catalog.incomplete).toList.map
        fun d => Activation.partiallySupported Catalog.incomplete d.location := by
    intro d hd more
    have hfind : (ds ++ more).find? (fun d => d.Settles) = some d := by
      rw [List.find?_append, show ds.find? _ = some d from hd, Option.some_or]
    rw [partialNotices_eq, hfind]
  refine ⟨?_, ?_, fun d hd hname more => ?_, fun d hd hname more => ?_, fun ws d e he => ?_⟩
  · rw [partialNotices_eq, List.length_map]
    exact Option.length_toList_le
  · rw [partialNotices_eq, Ne, List.map_eq_nil_iff, Option.toList_eq_nil_iff, ← Ne,
      Option.ne_none_iff_exists']
    simp only [Option.filter_eq_some_iff, beq_iff_eq, first]
  · rw [hmore d hd more, Option.filter_some, if_pos (beq_iff_eq.mpr hname)]
    rfl
  · have hne : d.name ≠ Catalog.incomplete := fun hc => by
      exact Catalog.wildcard_notMem_names (hname ▸ hc ▸ Catalog.incomplete_mem_names)
    rw [hmore d hd more, Option.filter_some, if_neg (mt beq_iff_eq.mp hne)]
    rfl
  · exact Activation.disabledPartial_of_obey (Activation.consistent_after ws).listed he

/-- Disabling the extension by name is reported, and nothing behind it is. -/
example : partialNotices { version := 450 } [⟨"GL_ARB_gpu_shader5", "on", ⟨"a.vert", 1, 1⟩⟩,
      ⟨"GL_ARB_gpu_shader5", "disable", ⟨"a.vert", 2, 1⟩⟩,
      ⟨"GL_ARB_gpu_shader5", "enable", ⟨"a.vert", 3, 1⟩⟩] =
    [Activation.partiallySupported "GL_ARB_gpu_shader5" ⟨"a.vert", 2, 1⟩] := by
  decide +kernel

end CompilationUnit

end GlslCompliance
