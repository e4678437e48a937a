import GlslCompliance.Proofs.Unit.Run

/-!
# Which step reported what

A step is told from its place in a run by what it adds to the log, `CompilationUnit.added`. The log
itself has no part in that: two units that agree in their context and in their activation report the
same and go on to agree (`Agrees.added`, `Agrees.step`), and a check leaves a unit that agrees with
the one before (`agrees_step_of_isCheck`).

`CompilationUnit.sources` follows a run with a label on each step, and hands the label on to each
entry of the log that the step has added.

* `map_snd_sources`: without the labels, this is the log of the run.
* `sources_filter`: without some of the checks, the run has the same activation and the same log, up
  to the entries under the labels of these checks.
-/

namespace GlslCompliance

/-- Whether a step is a check, of a feature or of a numeric type. -/
def Step.isCheck : Step → Bool
  | check _ | numeric _ => true
  | _ => false

namespace CompilationUnit

/-- What a step adds to the log of a unit. -/
def added (u : CompilationUnit) (s : Step) : List Diagnostic :=
  (u.step s).log.entries.drop u.log.entries.length

/-! ### Units that differ in their log alone -/

/-- Two units have the same context and the same activation. -/
structure Agrees (u u' : CompilationUnit) : Prop where
  context : u.context = u'.context
  activation : u.activation = u'.activation

variable {u u' : CompilationUnit} {s : Step}

theorem Agrees.refl (u : CompilationUnit) : u.Agrees u := ⟨rfl, rfl⟩

theorem Agrees.exists_eq (h : u.Agrees u') : ∃ log, u = { u' with log } := by
  obtain ⟨ctx, a, log⟩ := u
  obtain ⟨rfl, rfl⟩ := h
  exact ⟨log, rfl⟩

theorem entries_report (ds : List Diagnostic) :
    (u.report ds).log.entries = u.log.entries ++ ds := Log.entries_addAll _ _

/-- **One step.** It empties the log, or it adds to what is there. -/
theorem entries_step (hs : s ≠ .clear) :
    (u.step s).log.entries = u.log.entries ++ u.added s := by
  cases s with
  | clear => exact absurd rfl hs
  | _ => simp only [added, step, accept, entries_report, List.drop_left]

theorem added_clear : u.added .clear = [] := List.drop_nil

/-- What a step adds does not depend on what is in the log. -/
theorem Agrees.added (h : u.Agrees u') (s : Step) : u.added s = u'.added s := by
  obtain ⟨log, rfl⟩ := h.exists_eq
  cases s with
  | clear => rw [added_clear, added_clear]
  | _ => simp only [CompilationUnit.added, CompilationUnit.step, accept, entries_report,
      List.drop_left, diagnose]

/-- Units that agree do so after a step. -/
theorem Agrees.step (h : u.Agrees u') (s : Step) : (u.step s).Agrees (u'.step s) := by
  obtain ⟨log, rfl⟩ := h.exists_eq
  cases s <;> exact ⟨rfl, rfl⟩

theorem Agrees.trans {u'' : CompilationUnit} (h : u.Agrees u') (h' : u'.Agrees u'') :
    u.Agrees u'' := ⟨h.context.trans h'.context, h.activation.trans h'.activation⟩

/-- A check changes nothing but the log. -/
theorem agrees_step_of_isCheck (hs : s.isCheck) : (u.step s).Agrees u := by
  cases s with
  | check | numeric => exact ⟨rfl, rfl⟩
  | _ => exact absurd hs Bool.false_ne_true

theorem ne_clear_of_isCheck (hs : s.isCheck) : s ≠ .clear := by
  rintro rfl
  exact Bool.false_ne_true hs

/-! ### Labels -/

variable {τ : Type} {old : List (τ × Diagnostic)}

/-- The log after some steps, each entry under the label of the step that has added it. The entries
at the start have labels of their own. -/
def sources (u : CompilationUnit) (old : List (τ × Diagnostic)) :
    List (Step × τ) → List (τ × Diagnostic)
  | [] => old
  | (s, label) :: rest =>
    (u.step s).sources
      ((if s = .clear then [] else old) ++ (u.added s).map fun d => (label, d)) rest

/-- Up to the labels, the sources of a run are its log. -/
theorem map_snd_sources (h : old.map Prod.snd = u.log.entries) (ss : List (Step × τ)) :
    (u.sources old ss).map Prod.snd = (u.run (ss.map Prod.fst)).log.entries := by
  induction ss generalizing u old with
  | nil => exact h
  | cons p ss ih =>
    obtain ⟨s, label⟩ := p
    refine ih ?_
    rw [List.map_append, List.map_map]
    by_cases hs : s = .clear
    · rw [if_pos hs, hs, added_clear]
      rfl
    · rw [if_neg hs, h, entries_step hs]
      exact congrArg _ (List.map_id _)

/-- What holds of all that a step adds, under its label, holds of the sources of a run. -/
theorem forall_mem_sources {P : τ × Diagnostic → Prop} (hold : ∀ p ∈ old, P p)
    (ss : List (Step × τ))
    (hss : ∀ s ∈ ss, ∀ (u : CompilationUnit), ∀ d ∈ u.added s.1, P (s.2, d)) :
    ∀ p ∈ u.sources old ss, P p := by
  induction ss generalizing u old with
  | nil => exact hold
  | cons s ss ih =>
    obtain ⟨hs, hss⟩ := List.forall_mem_cons.mp hss
    refine ih (List.forall_mem_append.mpr ⟨?_, fun p hp => ?_⟩) hss
    · split
      · exact nofun
      · exact hold
    · obtain ⟨d, hd, rfl⟩ := List.mem_map.mp hp
      exact hs u d hd

/-! ### Runs without some of their checks -/

/-- Entries under one label all stay or all go. -/
theorem filter_map_label (keep : τ → Bool) (label : τ) (ds : List Diagnostic) :
    (ds.map fun d => (label, d)).filter (fun p => keep p.1) =
      if keep label then ds.map fun d => (label, d) else [] := by
  by_cases hlabel : keep label
  · rw [if_pos hlabel]
    refine List.filter_eq_self.mpr fun p hp => ?_
    obtain ⟨d, -, rfl⟩ := List.mem_map.mp hp
    exact hlabel
  · rw [if_neg hlabel]
    refine List.filter_eq_nil_iff.mpr fun p hp => ?_
    obtain ⟨d, -, rfl⟩ := List.mem_map.mp hp
    exact hlabel

/-- **Runs without some checks.** Of two units that agree one makes all steps and the other those
whose label is kept. If only checks are left out, the units still agree in the end, and the second
log lacks the entries of what was left out. -/
theorem sources_filter (keep : τ → Bool) (old : List (τ × Diagnostic)) (h : u.Agrees u')
    (ss : List (Step × τ)) (hss : ∀ p ∈ ss, ¬ keep p.2 → p.1.isCheck) :
    (u.run (ss.map Prod.fst)).Agrees
      (u'.run ((ss.filter fun p => keep p.2).map Prod.fst)) ∧
    u'.sources (old.filter fun p => keep p.1) (ss.filter fun p => keep p.2) =
      (u.sources old ss).filter fun p => keep p.1 := by
  induction ss generalizing u u' old with
  | nil => exact ⟨h, rfl⟩
  | cons p ss ih =>
    obtain ⟨s, label⟩ := p
    obtain ⟨hs, hss⟩ := List.forall_mem_cons.mp hss
    have hlabel := filter_map_label keep label (u.added s)
    by_cases hkeep : keep label
    · have hold : ((if s = .clear then [] else old) ++
            (u.added s).map fun d => (label, d)).filter (fun p => keep p.1) =
          (if s = .clear then [] else old.filter fun p => keep p.1) ++
            (u'.added s).map fun d => (label, d) := by
        rw [List.filter_append, hlabel, if_pos hkeep, ← h.added s]
        split <;> rfl
      have hrest : ((s, label) :: ss).filter (fun p => keep p.2) =
          (s, label) :: ss.filter fun p => keep p.2 := List.filter_cons_of_pos hkeep
      rw [hrest, sources, ← hold]
      exact ih _ (h.step s) hss
    · -- The step that is left out is a check, so the units go on to agree.
      have hcheck := hs hkeep
      have hold : ((if s = .clear then [] else old) ++
            (u.added s).map fun d => (label, d)).filter (fun p => keep p.1) =
          old.filter fun p => keep p.1 := by
        rw [List.filter_append, hlabel, if_neg hkeep, if_neg (ne_clear_of_isCheck hcheck),
          List.append_nil]
      have hrest : ((s, label) :: ss).filter (fun p => keep p.2) =
          ss.filter fun p => keep p.2 := List.filter_cons_of_neg hkeep
      rw [hrest, ← hold]
      exact ih _ ((agrees_step_of_isCheck hcheck).trans h) hss

end CompilationUnit

end GlslCompliance
