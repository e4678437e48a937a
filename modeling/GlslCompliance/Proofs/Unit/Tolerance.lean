import GlslCompliance.Proofs.Requirement.Rules
import GlslCompliance.Proofs.Unit.Run

/-!
# Tolerance of disabled extensions

In a relaxed context an extension that is disabled satisfies a request for it, with a warning where
a strict context gives an error. Two runs of the same events, one strict and one relaxed, are
compared:

* both end with the same activation, since no check has a part in it;
* without the warnings of tolerated extensions, the log of the relaxed run is that of the strict
  one with some refusals taken out (`LacksRefusals`), each together with the lines behind it that
  list the candidates;
* a single request that fails in the strict context is tolerated in the relaxed one just if one of
  the listed extensions is disabled, and every disabled one then says so.

The warnings of tolerated extensions are not only in the place of errors: a request that is
satisfied by one extension with a warning also lists those that are disabled. So the two logs are
not compared position by position, but after these warnings are deleted.
-/

namespace GlslCompliance

/-- The context with disabled extensions tolerated, or not. -/
def Context.relaxing (ctx : Context) (relaxed : Bool) : Context :=
  { ctx with messages := { ctx.messages with relaxedErrors := relaxed } }

namespace Diagnostic

/-- A warning for an extension in use that carries a note: the extension is tolerated. -/
def isTolerance (d : Diagnostic) : Bool :=
  d.level == .warning && d.code == "W0104" && !d.notes.isEmpty

/-- The error that no extension is requested of those that a feature asks for. -/
def IsRefusal (d : Diagnostic) : Prop := d.level = .error ∧ (d.code = "C0011" ∨ d.code = "P0011")

/-- A line that lists an extension to choose from. -/
def IsCandidate (d : Diagnostic) : Prop := d.level = .info ∧ d.code = "I0101"

/-- The first list is the second one with some refusals taken out, each with all the candidates that
follow it. -/
inductive LacksRefusals : List Diagnostic → List Diagnostic → Prop
  | nil : LacksRefusals [] []
  | keep (d : Diagnostic) {xs ys : List Diagnostic} :
      LacksRefusals xs ys → LacksRefusals (d :: xs) (d :: ys)
  | drop {e : Diagnostic} {cs xs ys : List Diagnostic} :
      e.IsRefusal → (∀ d ∈ cs, d.IsCandidate) → (∀ d ∈ ys.head?, ¬ d.IsCandidate) →
        LacksRefusals xs ys → LacksRefusals xs (e :: (cs ++ ys))

variable {xs ys xs' ys' : List Diagnostic}

theorem LacksRefusals.refl (xs : List Diagnostic) : LacksRefusals xs xs := by
  induction xs with
  | nil => exact .nil
  | cons d xs ih => exact .keep d ih

/-- What only lacks refusals keeps the order of the rest. -/
theorem LacksRefusals.sublist (h : LacksRefusals xs ys) : xs.Sublist ys := by
  induction h with
  | nil => exact .slnil
  | keep d _ ih => exact ih.cons_cons d
  | drop _ _ _ _ ih => exact .cons _ (ih.trans (List.sublist_append_right _ _))

/-- What is put behind must not go on with the candidates of a refusal in front of it. -/
theorem LacksRefusals.append (h : LacksRefusals xs ys) (h' : LacksRefusals xs' ys')
    (hhead : ∀ d ∈ ys'.head?, ¬ d.IsCandidate) : LacksRefusals (xs ++ xs') (ys ++ ys') := by
  induction h with
  | nil => exact h'
  | keep d _ ih => exact .keep d ih
  | @drop e cs xs ys he hcs hys _ ih =>
    -- Where the refusal ended the first list, its candidates must not run on into the second.
    have hhead' : ∀ d ∈ (ys ++ ys').head?, ¬ d.IsCandidate := by
      cases ys with
      | nil => exact hhead
      | cons d ys => exact hys
    rw [List.cons_append, List.append_assoc]
    exact .drop he hcs hhead' ih

/-- What a relaxed context reports in the place of a strict one. -/
structure Relaxes (xs ys : List Diagnostic) : Prop where
  lacks : LacksRefusals (xs.filter fun d => !d.isTolerance) ys
  opening : ∀ d ∈ ys.head?, ¬ d.IsCandidate

theorem isPartwise_relaxes : IsPartwise Relaxes where
  nil := ⟨.nil, nofun⟩
  append := by
    rintro xs ys xs' ys' h h'
    refine ⟨?_, ?_⟩
    · rw [List.filter_append]
      exact h.lacks.append h'.lacks h'.opening
    · cases ys with
      | nil => exact h'.opening
      | cons d ys => exact h.opening

/-- Diagnostics without notes and candidates are the same in both contexts. -/
theorem relaxes_refl (hnotes : ∀ d ∈ xs, d.notes = [])
    (hopening : ∀ d ∈ xs.head?, ¬ d.IsCandidate) : Relaxes xs xs := by
  refine ⟨?_, hopening⟩
  rw [List.filter_eq_self.mpr]
  · exact .refl xs
  · intro d hd
    rw [isTolerance, hnotes d hd, List.isEmpty_nil, Bool.not_true, Bool.and_false, Bool.not_false]

end Diagnostic

open Diagnostic

/-! ### One check -/

namespace Check

variable {c : Check} {rule : Rule} {a : Activation} {names : List String}

/-- Without the tolerated extensions, every extension says what it says in a strict context. -/
theorem filter_tolerance (n : String) :
    (c.tolerance true a n).filter (fun d => !d.isTolerance) = c.tolerance false a n := by
  unfold tolerance
  cases a.get n <;> rfl

theorem isRefusal_refusal (hrule : rule ∈ requestRules) : (c.refusal rule names).IsRefusal := by
  have hfollows : (c.refusal rule names).Follows rule := follows_refusal
  have hcode : ∀ r ∈ requestRules, r.code = "C0011" ∨ r.code = "P0011" := by decide
  refine ⟨hfollows.level.trans (level_of_mem_requestRules hrule), ?_⟩
  rw [hfollows.code]
  exact hcode rule hrule

theorem isCandidate_of_mem_candidates {d : Diagnostic} (hd : d ∈ c.candidates names) :
    d.IsCandidate :=
  ⟨(follows_of_mem_candidates hd).level, (follows_of_mem_candidates hd).code⟩

/-- **One request.** -/
theorem relaxes_reportExtensions (hrule : rule ∈ requestRules) :
    Relaxes (c.reportExtensions rule true a names) (c.reportExtensions rule false a names) := by
  rw [reportExtensions_eq, reportExtensions_eq]
  by_cases hr : names.any fun n => (a.get n).isRequested
  · rw [if_pos hr, if_pos hr]
    exact isPartwise_relaxes.nil
  rw [if_neg hr, if_neg hr]
  have hfilter : (names.filterMap (c.tolerance true a)).filter (fun d => !d.isTolerance) =
      names.filterMap (c.tolerance false a) := by
    rw [List.filter_filterMap]
    exact List.filterMap_congr fun n _ => filter_tolerance n
  have hrefusal : (c.refusal rule names).IsRefusal := isRefusal_refusal hrule
  have hopening : ¬ (c.refusal rule names).IsCandidate :=
    fun h => nomatch hrefusal.1.symm.trans h.1
  by_cases hstrict : satisfied false a names
  · -- Both contexts are satisfied, and the relaxed one adds the extensions that it tolerates.
    rw [if_pos hstrict, if_pos (satisfied_true_of_satisfied hstrict)]
    refine ⟨hfilter ▸ .refl _, fun d hd hcandidate => ?_⟩
    obtain ⟨n, -, hn⟩ := List.mem_filterMap.mp (List.mem_of_mem_head? hd)
    exact nomatch hcandidate.1.symm.trans (follows_of_tolerance hn).level
  rw [if_neg hstrict]
  by_cases hrelaxed : satisfied true a names
  · -- Only what is tolerated satisfies the request, so the whole refusal is taken out.
    have hnil := (filterMap_tolerance_eq_nil_iff c false hr).mpr hstrict
    rw [if_pos hrelaxed]
    refine ⟨?_, fun d hd => Option.some.inj hd ▸ hopening⟩
    rw [hfilter, hnil, ← List.append_nil (c.candidates names)]
    exact .drop hrefusal (fun d => isCandidate_of_mem_candidates) nofun .nil
  · rw [if_neg hrelaxed]
    refine relaxes_refl (fun d hd => ?_) fun d hd => Option.some.inj hd ▸ hopening
    rcases List.mem_cons.mp hd with rfl | hd
    · obtain ⟨reason, detail, h⟩ := exists_refusal_eq c rule names
      exact h ▸ rfl
    · obtain ⟨n, -, rfl⟩ := exists_of_mem_candidates hd
      rfl

/-- Only requests for extensions list candidates. -/
theorem candidateCode_ne (h : c.requirement.requested? = none) :
    ∀ r ∈ c.requirement.rules, r.code ≠ "I0101" := by
  cases hr : c.requirement with
  | extensions | directiveExtensions => exact nomatch hr ▸ h
  | _ => simp [Requirement.rules, Rule.code]

/-- Only requests for extensions are tolerant. -/
theorem report_relaxing (h : c.requirement.requested? = none) (ctx : Context) (relaxed : Bool) :
    c.report (ctx.relaxing relaxed) a = c.report ctx a := by
  obtain ⟨l, feature, requirement⟩ := c
  cases requirement with
  | extensions | directiveExtensions => exact nomatch h
  | _ => rfl

/-- **One check.** -/
theorem relaxes_report (ctx : Context) (a : Activation) (c : Check) :
    Relaxes (c.report (ctx.relaxing true) a) (c.report (ctx.relaxing false) a) := by
  rcases h : c.requirement.requested? with _ | names
  · rw [report_relaxing h, report_relaxing h]
    refine relaxes_refl (fun d hd => (isFinding_of_mem_report hd).notes h) fun d hd hcandidate => ?_
    exact code_ne_of_mem_report (List.mem_of_mem_head? hd) (candidateCode_ne h) hcandidate.2
  · obtain ⟨rule, hrule, hreport⟩ := exists_report_eq h
    rw [hreport, hreport]
    exact relaxes_reportExtensions hrule

/-! ### One failing request -/

/-- Where no listed extension is on, a relaxed context is satisfied just by the disabled ones. -/
theorem satisfied_true_iff (h : ¬ satisfied false a names = true) :
    satisfied true a names = true ↔ ∃ n ∈ names, a.get n = .disabled := by
  rw [satisfied, Bool.not_eq_true, List.any_eq_false] at h
  rw [satisfied, List.any_eq_true]
  refine exists_congr fun n => and_congr_right fun hn => ?_
  have hoff : (a.get n).isTurnedOn = false := by simpa [Behavior.satisfies] using h n hn
  rw [Behavior.satisfies, hoff, Bool.false_or, Bool.true_and, beq_iff_eq]

/-- Where no listed extension is on, a relaxed context has a warning for each disabled one. -/
theorem filterMap_tolerance_true (h : ¬ satisfied false a names = true) :
    names.filterMap (c.tolerance true a) =
      (names.filter fun n => a.get n == .disabled).map c.extensionTolerated := by
  rw [satisfied, Bool.not_eq_true, List.any_eq_false] at h
  rw [← List.filterMap_eq_map, List.filterMap_filter]
  refine List.filterMap_congr fun n hn => ?_
  have hoff : (a.get n).isTurnedOn = false := by simpa [Behavior.satisfies] using h n hn
  unfold tolerance
  cases hb : a.get n with
  | enabled | required | warn =>
    rw [hb] at hoff
    exact Bool.noConfusion hoff
  | disabled | disabledPartial | missing => rfl

variable {ctx : Context}

/-- A request that fails in the strict context passes in the relaxed one just if a listed extension
is disabled. -/
theorem not_fails_relaxing_iff (h : c.requirement.requested? = some names)
    (hfails : c.Fails (ctx.relaxing false) a) :
    ¬ c.Fails (ctx.relaxing true) a ↔ ∃ n ∈ names, a.get n = .disabled := by
  have hstrict := (fails_iff_of_requested h).mp hfails
  rw [fails_iff_of_requested h, not_not]
  exact satisfied_true_iff hstrict

/-- What a relaxed context reports where the strict one fails. -/
theorem report_relaxing_of_fails (h : c.requirement.requested? = some names)
    (hfails : c.Fails (ctx.relaxing false) a) :
    c.report (ctx.relaxing true) a =
      if ∃ n ∈ names, a.get n = .disabled then
        (names.filter fun n => a.get n == .disabled).map c.extensionTolerated
      else c.report (ctx.relaxing false) a := by
  have hstrict := (fails_iff_of_requested h).mp hfails
  obtain ⟨rule, -, hreport⟩ := exists_report_eq h
  have hr : ¬ (names.any fun n => (a.get n).isRequested) = true := mt satisfied_of_requested hstrict
  rw [hreport, hreport, reportExtensions_eq, reportExtensions_eq, if_neg hr, if_neg hr,
    if_neg hstrict, ← filterMap_tolerance_true hstrict]
  exact if_congr (satisfied_true_iff hstrict) rfl rfl

end Check

/-! ### Runs -/

/-- Whatever changes the activation says the same in both contexts. -/
theorem relaxes_write (a : Activation) (w : Write) : Relaxes (a.write w).2 (a.write w).2 := by
  refine relaxes_refl (fun d hd => (Activation.isNotice_of_mem_write hd).2) ?_
  intro d hd hcandidate
  have hcode : ∀ r ∈ Activation.changeRules, r.code ≠ "I0101" := by decide
  exact Activation.code_ne_of_mem_write (List.mem_of_mem_head? hd) hcode hcandidate.2

/-- **Tolerance over a run** demotes some refusals and changes nothing else. -/
theorem relaxes_reports (ctx : Context) (a : Activation) (es : List Event) :
    Relaxes (Event.reports (ctx.relaxing true) a es) (Event.reports (ctx.relaxing false) a es) :=
  isPartwise_relaxes.reports relaxes_write (Check.relaxes_report ctx) a es

/-- No error is among the warnings that a relaxed context adds. -/
theorem Diagnostic.filter_isError_filter_isTolerance (ds : List Diagnostic) :
    (ds.filter fun d => !d.isTolerance).filter isError = ds.filter isError := by
  rw [List.filter_filter]
  refine List.filter_congr fun d _ => ?_
  unfold isError isTolerance
  cases d.level <;> rfl

namespace CompilationUnit

/-- A fresh unit after some events, in a context with disabled extensions tolerated, or not. -/
def runRelaxing (ctx : Context) (es : List Event) (relaxed : Bool) : CompilationUnit :=
  (fresh (ctx.relaxing relaxed)).follow es

/-- **A relaxed run only demotes.** Next to the strict run of the same events it has the same
activation; up to the warnings of tolerated extensions its log lacks some refusals with their
candidates and nothing else; and it has no further error. A single request that fails in the strict
context is demoted just if a listed extension is disabled, and then reports exactly the disabled
ones. -/
theorem runRelaxing_demotes (ctx : Context) (es : List Event) :
    (runRelaxing ctx es true).activation = (runRelaxing ctx es false).activation ∧
    ((runRelaxing ctx es true).log.entries.filter fun d => !d.isTolerance).Sublist
      (runRelaxing ctx es false).log.entries ∧
    LacksRefusals ((runRelaxing ctx es true).log.entries.filter fun d => !d.isTolerance)
      (runRelaxing ctx es false).log.entries ∧
    ((runRelaxing ctx es true).log.atLevel .error).Sublist
      ((runRelaxing ctx es false).log.atLevel .error) ∧
    (runRelaxing ctx es true).log.errors ≤ (runRelaxing ctx es false).log.errors ∧
    ∀ (a : Activation) (c : Check) (names : List String), c.requirement.requested? = some names →
      c.Fails (ctx.relaxing false) a →
        (¬ c.Fails (ctx.relaxing true) a ↔ ∃ n ∈ names, a.get n = .disabled) ∧
        c.report (ctx.relaxing true) a =
          if ∃ n ∈ names, a.get n = .disabled then
            (names.filter fun n => a.get n == .disabled).map c.extensionTolerated
          else c.report (ctx.relaxing false) a := by
  have hactivation : ∀ relaxed, (runRelaxing ctx es relaxed).activation =
      Activation.initial.after (es.filterMap Event.change?) :=
    fun relaxed => activation_follow (fresh (ctx.relaxing relaxed)) es
  have hlacks : LacksRefusals
      ((runRelaxing ctx es true).log.entries.filter fun d => !d.isTolerance)
      (runRelaxing ctx es false).log.entries := by
    rw [runRelaxing, runRelaxing, entries_fresh_follow, entries_fresh_follow]
    exact (relaxes_reports ctx .initial es).lacks
  have herrors : ((runRelaxing ctx es true).log.atLevel .error).Sublist
      ((runRelaxing ctx es false).log.atLevel .error) := by
    have hsublist := hlacks.sublist.filter isError
    rw [filter_isError_filter_isTolerance] at hsublist
    exact hsublist
  have hcounted : ∀ relaxed, (runRelaxing ctx es relaxed).log.IsCounted :=
    fun relaxed => isCounted_follow (fresh (ctx.relaxing relaxed)) Log.isCounted_empty es
  refine ⟨?_, hlacks.sublist, hlacks, herrors, ?_, fun a c names h hfails => ⟨?_, ?_⟩⟩
  · rw [hactivation, hactivation]
  · rw [(hcounted true).errors, (hcounted false).errors]
    exact herrors.length_le
  · exact Check.not_fails_relaxing_iff h hfails
  · exact Check.report_relaxing_of_fails h hfails

/-- A gather instruction before any directive: an error in the strict context alone. -/
theorem runRelaxing_demotes_gather :
    let ctx : Context := { version := 330 }
    let c : Check := ⟨⟨"main.frag", 3, 7⟩, "textureGather",
      .extensions ["GL_ARB_gpu_shader5", "GL_ARB_texture_gather"]⟩
    c.Fails (ctx.relaxing false) .initial ∧ ¬ c.Fails (ctx.relaxing true) .initial := by
  intro ctx c
  have hfails : c.Fails (ctx.relaxing false) .initial :=
    ⟨c.refusal .extensionNotRequested ["GL_ARB_gpu_shader5", "GL_ARB_texture_gather"],
      by decide, rfl⟩
  have hdisabled : ∃ n ∈ ["GL_ARB_gpu_shader5", "GL_ARB_texture_gather"],
      Activation.initial.get n = .disabled := by decide
  obtain ⟨-, -, -, -, -, hdemoted⟩ := runRelaxing_demotes ctx []
  exact ⟨hfails, (hdemoted .initial c _ rfl hfails).1.mpr hdisabled⟩

end CompilationUnit

end GlslCompliance
