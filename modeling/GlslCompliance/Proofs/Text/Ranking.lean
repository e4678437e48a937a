import GlslCompliance.Proofs.Text.FloatOrder
import Mathlib.Data.List.Basic

/-!
# The best candidate

What selecting a single candidate comes to. The selection filters, sorts and takes the first, and
the scores and keys of those that were left out play no part in it. `IsFirstBest` says the same
without a sort: a candidate passes the threshold, no other that passes has a higher score, and of
those with its score it is the first. There is such a candidate as soon as one passes, and it is
the one that is selected (`head?_topRanked_eq_some_iff`). No score may be the negative zero, which
the sort tells from zero and a comparison of scores does not.
-/

namespace GlslCompliance

variable {α : Type}

/-! ### The head of a descending sort -/

theorem descending_trans (key : α → Int) (a b c : α) :
    decide (key b ≤ key a) → decide (key c ≤ key b) → decide (key c ≤ key a) := by
  simp only [decide_eq_true_eq]
  exact fun hba hcb => Int.le_trans hcb hba

theorem descending_total (key : α → Int) (a b : α) :
    decide (key b ≤ key a) || decide (key a ≤ key b) := by
  simp only [Bool.or_eq_true, decide_eq_true_eq]
  exact Int.le_total (key b) (key a)

/-- The head of a descending sort is the first of the greatest. The induction is on the list: its
first element is sorted in behind those that are greater. -/
theorem exists_split_of_head?_mergeSort (key : α → Int) {l : List α} {c : α}
    (h : (l.mergeSort fun a b => key b ≤ key a).head? = some c) :
    ∃ before behind, l = before ++ c :: behind ∧ (∀ d ∈ before, key d < key c) ∧
      ∀ d ∈ behind, key d ≤ key c := by
  induction l with
  | nil =>
    rw [List.mergeSort_nil] at h
    exact nomatch h
  | cons a l ih =>
    obtain ⟨front, back, hsorted, hrest, hfront⟩ :=
      List.mergeSort_cons (descending_trans key) (descending_total key) a l
    have hpairwise :=
      List.pairwise_mergeSort (descending_trans key) (descending_total key) (a :: l)
    rw [hsorted] at h hpairwise
    cases front with
    | nil =>
      obtain rfl : a = c := Option.some.inj h
      refine ⟨[], l, rfl, nofun, fun d hd => ?_⟩
      have hback : d ∈ back := by
        rwa [← List.nil_append back, ← hrest, List.mem_mergeSort]
      exact of_decide_eq_true (List.rel_of_pairwise_cons hpairwise hback)
    | cons b front =>
      obtain rfl : b = c := Option.some.inj h
      have hhead : (l.mergeSort fun a b => key b ≤ key a).head? = some b := by
        rw [hrest]
        rfl
      obtain ⟨before, behind, rfl, hbefore, hbehind⟩ := ih hhead
      have hgreater : key a < key b := by
        simpa using hfront b List.mem_cons_self
      exact ⟨a :: before, behind, rfl, List.forall_mem_cons.mpr ⟨hgreater, hbefore⟩, hbehind⟩

/-! ### The selection -/

variable {score : α → Float} {threshold : Float} {candidates : List α} {c d : α}

/-- Scores need not be kept beside the candidates. -/
theorem topRanked_eq (limit : Nat) :
    topRanked score threshold limit candidates =
      ((candidates.filter fun c => threshold < score c).mergeSort fun c d =>
        orderKey (score d) ≤ orderKey (score c)).take limit := by
  have hsort : ∀ cs : List α,
      (cs.map fun c => (score c, c)).mergeSort (fun s t => orderKey t.1 ≤ orderKey s.1) =
        (cs.mergeSort fun c d => orderKey (score d) ≤ orderKey (score c)).map
          fun c => (score c, c) := fun cs =>
    Eq.symm (List.map_mergeSort (f := fun c => (score c, c)) fun _ _ _ _ => rfl)
  unfold topRanked
  dsimp only
  rw [List.filter_map, hsort, ← List.map_take, List.map_map]
  exact List.map_id' _

/-- Nothing is selected exactly where nothing passes. -/
theorem head?_topRanked_eq_none_iff :
    (topRanked score threshold 1 candidates).head? = none ↔
      ∀ d ∈ candidates, ¬ threshold < score d := by
  rw [topRanked_eq, List.head?_take, if_neg Nat.one_ne_zero, List.head?_eq_none_iff,
    ← List.length_eq_zero_iff, List.length_mergeSort, List.length_eq_zero_iff,
    List.filter_eq_nil_iff]
  simp only [decide_eq_true_eq]

variable [DecidableEq α]

/-- A candidate passes the threshold, and is the first of those that score highest. -/
structure IsFirstBest (score : α → Float) (threshold : Float) (candidates : List α) (c : α) :
    Prop where
  mem : c ∈ candidates
  passes : threshold < score c
  best : ∀ d ∈ candidates, threshold < score d → score d ≤ score c
  first : ∀ d ∈ candidates, threshold < score d → score c ≤ score d →
    candidates.idxOf c ≤ candidates.idxOf d

/-- There is at most one. -/
theorem IsFirstBest.unique (hc : IsFirstBest score threshold candidates c)
    (hd : IsFirstBest score threshold candidates d) : c = d := by
  have hcd := hc.first d hd.mem hd.passes (hd.best c hc.mem hc.passes)
  have hdc := hd.first c hc.mem hc.passes (hc.best d hd.mem hd.passes)
  exact (List.idxOf_inj hc.mem).mp (Nat.le_antisymm hcd hdc)

/-- A candidate is the first of the best if those before it that pass have smaller keys, and those
behind it that pass no greater ones. -/
theorem isFirstBest_of_split {before behind : List α}
    (hzero : ∀ d ∈ before ++ c :: behind, ¬ IsNegativeZero (score d)) (hc : threshold < score c)
    (hbefore : ∀ d ∈ before, threshold < score d → orderKey (score d) < orderKey (score c))
    (hbehind : ∀ d ∈ behind, threshold < score d → orderKey (score d) ≤ orderKey (score c)) :
    IsFirstBest score threshold (before ++ c :: behind) c := by
  have hle : ∀ d e, e ∈ before ++ c :: behind → threshold < score d → threshold < score e →
      (score d ≤ score e ↔ orderKey (score d) ≤ orderKey (score e)) := fun d e hmem hd he =>
    le_iff_orderKey_le (isNaN_eq_false_of_lt hd) (isNaN_eq_false_of_lt he) (hzero e hmem)
  have hmem : c ∈ before ++ c :: behind := by simp
  have hnotMem : ∀ d ∈ before ++ c :: behind, threshold < score d → score c ≤ score d →
      d ∉ before := fun d hd hpass hcd hin =>
    Int.not_le.mpr (hbefore d hin hpass) ((hle c d hd hc hpass).mp hcd)
  refine ⟨hmem, hc, fun d hd hpass => (hle d c hmem hpass hc).mpr ?_, fun d hd hpass hcd => ?_⟩
  · rcases List.mem_append.mp hd with hd | hd
    · exact Int.le_of_lt (hbefore d hd hpass)
    rcases List.mem_cons.mp hd with rfl | hd
    · exact Int.le_refl _
    · exact hbehind d hd hpass
  · have hself : c ∉ before := hnotMem c hmem hc ((hle c c hmem hc hc).mpr (Int.le_refl _))
    rw [List.idxOf_append_of_notMem hself, List.idxOf_append_of_notMem (hnotMem d hd hpass hcd),
      List.idxOf_cons_self]
    exact Nat.add_le_add_left (Nat.zero_le _) _

/-- The candidate that is selected is the first of the best. -/
theorem isFirstBest_of_head?_topRanked
    (hzero : ∀ c ∈ candidates, ¬ IsNegativeZero (score c))
    (h : (topRanked score threshold 1 candidates).head? = some c) :
    IsFirstBest score threshold candidates c := by
  rw [topRanked_eq, List.head?_take, if_neg Nat.one_ne_zero] at h
  obtain ⟨passed, later, hsplit, hpassed, hlater⟩ :=
    exists_split_of_head?_mergeSort (fun c => orderKey (score c)) h
  obtain ⟨start, rest, rfl, hstart, hrest⟩ := List.filter_eq_append_iff.mp hsplit
  obtain ⟨skipped, behind, rfl, hskipped, hc, hbehind⟩ := List.filter_eq_cons_iff.mp hrest
  have hbefore : (start ++ skipped).filter (fun d => threshold < score d) = passed := by
    rw [List.filter_append, hstart, List.filter_eq_nil_iff.mpr hskipped, List.append_nil]
  rw [← List.append_assoc] at hzero ⊢
  refine isFirstBest_of_split hzero (of_decide_eq_true hc) (fun d hd hpass => ?_)
    fun d hd hpass => ?_
  · exact hpassed d (hbefore ▸ List.mem_filter.mpr ⟨hd, decide_eq_true hpass⟩)
  · exact hlater d (hbehind ▸ List.mem_filter.mpr ⟨hd, decide_eq_true hpass⟩)

/-- **A selected candidate is the first of the best that pass, and the other way round**, where no
score is the negative zero. -/
theorem head?_topRanked_eq_some_iff (hzero : ∀ c ∈ candidates, ¬ IsNegativeZero (score c)) :
    (topRanked score threshold 1 candidates).head? = some c ↔
      IsFirstBest score threshold candidates c := by
  refine ⟨isFirstBest_of_head?_topRanked hzero, fun hc => ?_⟩
  cases h : (topRanked score threshold 1 candidates).head? with
  | none => exact absurd hc.passes (head?_topRanked_eq_none_iff.mp h c hc.mem)
  | some d => rw [(isFirstBest_of_head?_topRanked hzero h).unique hc]

/-- A slip in the last letter is close, another name is not. -/
example : similarNames "GL_OES_texture_3d" ["GL_OES_geometry_shader", "GL_OES_texture_3D"] 0.9 1 =
    ["GL_OES_texture_3D"] := by
  decide +kernel

end GlslCompliance
