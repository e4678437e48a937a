import GlslCompliance.Proofs.Text.FloatSign
import GlslCompliance.Proofs.Text.Ranking
import Mathlib.Data.List.FinRange
import Mathlib.Data.List.Perm.Basic

/-!
# Selections

A whole selection, of which `head?_topRanked_eq_some_iff` describes the head. Candidates may occur
several times and may score the same, so a selection is told by positions in the list of
candidates: `GoesFirst` orders these by descending score and, where the scores are equal, by place.

* `IsSelection` says what is selected, without a sort: some of the positions that pass the
  threshold, in order, and where one that passes is left out, as many as the limit allows, all of
  which go first.
* `topRanked_eq_iff`: there is exactly one such list of candidates, and it is the one selected.
* `RanksBy`: moreover a limit only cuts off the end, and so does a higher threshold.

What carries the proofs is that a descending sort is stable (`pairwise_mergeSort_descending`), and
that positions in their order are a start of all ranked ones as soon as each of them goes before
those that are missing (`isPrefix_of_goesFirst`). The sort tells the negative zero from zero, and
`GoesFirst` does not; so the results are about scores that are never the negative zero, and every
similarity to a name is such a score (`Text.not_isNegativeZero_jaroWinkler`).
-/

namespace GlslCompliance

variable {α : Type}

/-! ### Stability -/

/-- **A descending sort is stable**: what holds between the elements of a list and those behind them
still holds after the sort between those with equal keys. -/
theorem pairwise_mergeSort_descending {R : α → α → Prop} (key : α → Int) {l : List α}
    (h : l.Pairwise R) :
    (l.mergeSort fun a b => key b ≤ key a).Pairwise fun a b =>
      key b < key a ∨ key b = key a ∧ R a b := by
  induction l with
  | nil =>
    rw [List.mergeSort_nil]
    exact .nil
  | cons a l ih =>
    obtain ⟨hahead, hl⟩ := List.pairwise_cons.mp h
    obtain ⟨front, back, hsorted, hrest, hfront⟩ :=
      List.mergeSort_cons (descending_trans key) (descending_total key) a l
    have hdescending :=
      List.pairwise_mergeSort (descending_trans key) (descending_total key) (a :: l)
    obtain ⟨hfirst, hsecond, hcross⟩ := List.pairwise_append.mp (hrest ▸ ih hl)
    rw [hsorted] at hdescending ⊢
    -- The first element is sorted in behind the greater ones only, so it stays ahead of its equals.
    refine List.pairwise_append.mpr
      ⟨hfirst, List.pairwise_cons.mpr ⟨fun b hb => ?_, hsecond⟩, fun b hb c hc => ?_⟩
    · have hle : key b ≤ key a := of_decide_eq_true
        (List.rel_of_pairwise_cons (List.pairwise_append.mp hdescending).2.1 hb)
      have hmem : b ∈ l := by
        rw [← List.mem_mergeSort, hrest]
        exact List.mem_append_right front hb
      rcases Int.lt_or_eq_of_le hle with hlt | heq
      · exact .inl hlt
      · exact .inr ⟨heq, hahead b hmem⟩
    · rcases List.mem_cons.mp hc with rfl | hc
      · exact .inl (by simpa using hfront b hb)
      · exact hcross b hb c hc

/-! ### The order of positions -/

section Positions

variable {n : Nat} {score : Fin n → Float} {threshold : Float} {i j : Fin n}

/-- Position `i` goes before `j` in a ranking: it scores higher, or as high and stands earlier. -/
def GoesFirst (score : Fin n → Float) (i j : Fin n) : Prop :=
  score j < score i ∨ score j ≤ score i ∧ i < j

/-- Positions that pass are ordered by the ranks of their scores, then by place. -/
theorem goesFirst_iff_rank (hi : threshold < score i) (hj : threshold < score j) :
    GoesFirst score i j ↔ rank (score j) < rank (score i) ∨
      rank (score j) = rank (score i) ∧ i < j := by
  have hi' := isNaN_eq_false_of_lt hi
  have hj' := isNaN_eq_false_of_lt hj
  rw [GoesFirst, lt_iff_rank_lt hj' hi', le_iff_rank_le hj' hi']
  omega

/-- Where no score is the negative zero, this is the order that the keys give. -/
theorem goesFirst_iff_orderKey (hzero : ∀ i, ¬ IsNegativeZero (score i))
    (hi : threshold < score i) (hj : threshold < score j) :
    GoesFirst score i j ↔ orderKey (score j) < orderKey (score i) ∨
      orderKey (score j) = orderKey (score i) ∧ i < j := by
  have hi' := isNaN_eq_false_of_lt hi
  have hj' := isNaN_eq_false_of_lt hj
  rw [GoesFirst, lt_iff_orderKey_lt hj' hi' (hzero j), le_iff_orderKey_le hj' hi' (hzero i)]
  omega

/-- Of two positions that pass at most one goes first. -/
theorem GoesFirst.asymm (hi : threshold < score i) (hj : threshold < score j)
    (h : GoesFirst score i j) : ¬ GoesFirst score j i := by
  rw [goesFirst_iff_rank hi hj] at h
  rw [goesFirst_iff_rank hj hi]
  omega

theorem GoesFirst.le (hi : threshold < score i) (hj : threshold < score j)
    (h : GoesFirst score i j) : score j ≤ score i := by
  rw [goesFirst_iff_rank hi hj] at h
  rw [le_iff_rank_le (isNaN_eq_false_of_lt hj) (isNaN_eq_false_of_lt hi)]
  omega

theorem nodup_of_goesFirst {l : List (Fin n)} (hpass : ∀ i ∈ l, threshold < score i)
    (h : l.Pairwise (GoesFirst score)) : l.Nodup :=
  h.imp_of_mem fun {i j} hi hj hij heq => by
    subst heq
    exact hij.asymm (hpass i hi) (hpass i hj) hij

/-- Positions in their order, each before all that are missing, are a start of the whole. -/
theorem isPrefix_of_goesFirst {part whole : List (Fin n)}
    (hpass : ∀ i ∈ whole, threshold < score i) (hsubset : part ⊆ whole)
    (hpart : part.Pairwise (GoesFirst score)) (hwhole : whole.Pairwise (GoesFirst score))
    (hmissing : ∀ j ∈ whole, j ∉ part → ∀ i ∈ part, GoesFirst score i j) : part <+: whole := by
  -- Both the whole and the part with what is missing behind it are in order, which is possible in
  -- one way only.
  let completed := part ++ whole.filter (· ∉ part)
  have hcompleted : completed.Pairwise (GoesFirst score) :=
    List.pairwise_append.mpr ⟨hpart, hwhole.filter _, fun i hi j hj =>
      hmissing j (List.mem_of_mem_filter hj) (by simpa using List.of_mem_filter hj) i hi⟩
  have hmem : ∀ i, i ∈ completed ↔ i ∈ whole := fun i => by
    by_cases hi : i ∈ part
    · simp [completed, hi, hsubset hi]
    · simp [completed, hi]
  have hpass' : ∀ i ∈ completed, threshold < score i := fun i hi => hpass i ((hmem i).mp hi)
  have hperm : completed.Perm whole :=
    (List.perm_ext_iff_of_nodup (nodup_of_goesFirst hpass' hcompleted)
      (nodup_of_goesFirst hpass hwhole)).mpr hmem
  have heq : completed = whole := hperm.eq_of_pairwise
    (fun i j hi hj hij hji => absurd hji (hij.asymm (hpass' i hi) (hpass j hj))) hcompleted hwhole
  exact ⟨whole.filter (· ∉ part), heq⟩

/-! ### Ranked positions -/

variable (score threshold) in
/-- All positions that pass the threshold, the best first. -/
def rankedPositions : List (Fin n) := topRanked score threshold n (List.finRange n)

theorem rankedPositions_eq :
    rankedPositions score threshold =
      ((List.finRange n).filter fun i => threshold < score i).mergeSort fun i j =>
        orderKey (score j) ≤ orderKey (score i) := by
  rw [rankedPositions, topRanked_eq]
  refine List.take_of_length_le ?_
  rw [List.length_mergeSort]
  exact (List.length_filter_le _ _).trans_eq List.length_finRange

theorem mem_rankedPositions : i ∈ rankedPositions score threshold ↔ threshold < score i := by
  simp [rankedPositions_eq]

/-- The ranked positions are in their order, since the sort is stable. -/
theorem pairwise_rankedPositions (hzero : ∀ i, ¬ IsNegativeZero (score i)) :
    (rankedPositions score threshold).Pairwise (GoesFirst score) := by
  have hascending := (List.pairwise_lt_finRange n).filter fun i => threshold < score i
  refine List.Pairwise.imp_of_mem (fun {i j} hi hj hij => ?_) (rankedPositions_eq ▸
    pairwise_mergeSort_descending (fun i => orderKey (score i)) hascending)
  exact (goesFirst_iff_orderKey hzero (mem_rankedPositions.mp hi)
    (mem_rankedPositions.mp hj)).mpr hij

/-- A higher threshold cuts off the end of the ranking: what it keeps scores higher than what it
drops. -/
theorem rankedPositions_isPrefix (hzero : ∀ i, ¬ IsNegativeZero (score i))
    {lower higher : Float} (h : lower ≤ higher) :
    rankedPositions score higher <+: rankedPositions score lower := by
  obtain ⟨hlower, hhigher⟩ := isNaN_eq_false_of_le h
  rw [le_iff_rank_le hlower hhigher] at h
  have hkeep : ∀ i, higher < score i → lower < score i := fun i hi => by
    have hnumber := isNaN_eq_false_of_lt hi
    rw [lt_iff_rank_lt hhigher hnumber] at hi
    rw [lt_iff_rank_lt hlower hnumber]
    omega
  refine isPrefix_of_goesFirst (fun i hi => mem_rankedPositions.mp hi)
    (fun i hi => mem_rankedPositions.mpr (hkeep i (mem_rankedPositions.mp hi)))
    (pairwise_rankedPositions hzero) (pairwise_rankedPositions hzero)
    fun j hj hdropped i hi => .inl ?_
  have hjnumber := isNaN_eq_false_of_lt (mem_rankedPositions.mp hj)
  have hinumber := isNaN_eq_false_of_lt (mem_rankedPositions.mp hi)
  rw [mem_rankedPositions, lt_iff_rank_lt hhigher hjnumber] at hdropped
  rw [mem_rankedPositions, lt_iff_rank_lt hhigher hinumber] at hi
  rw [lt_iff_rank_lt hjnumber hinumber]
  omega

end Positions

/-! ### Selections of candidates -/

variable {score : α → Float} {threshold : Float} {limit : Nat} {candidates selected : List α}

/-- A selection can be made on anything that stands for the candidates. -/
theorem topRanked_map {ι : Type} (f : ι → α) (l : List ι) :
    topRanked score threshold limit (l.map f) =
      (topRanked (fun i => score (f i)) threshold limit l).map f := by
  have hsort : ∀ cs : List ι,
      (cs.map f).mergeSort (fun c d => orderKey (score d) ≤ orderKey (score c)) =
        (cs.mergeSort fun i j => orderKey (score (f j)) ≤ orderKey (score (f i))).map f := fun cs =>
    Eq.symm (List.map_mergeSort fun _ _ _ _ => rfl)
  rw [topRanked_eq, topRanked_eq, List.filter_map, hsort, List.map_take]
  rfl

/-- The score of the candidate at a position. -/
def scoreAt (score : α → Float) (candidates : List α) (i : Fin candidates.length) : Float :=
  score (candidates.get i)

theorem not_isNegativeZero_scoreAt (hzero : ∀ c ∈ candidates, ¬ IsNegativeZero (score c))
    (i : Fin candidates.length) : ¬ IsNegativeZero (scoreAt score candidates i) :=
  hzero _ (List.get_mem candidates i)

/-- Selected are the candidates at the first of the ranked positions. -/
theorem topRanked_eq_map_get :
    topRanked score threshold limit candidates =
      ((rankedPositions (scoreAt score candidates) threshold).take limit).map candidates.get := by
  conv_lhs => rw [← List.map_get_finRange candidates, topRanked_map]
  rw [topRanked_eq, rankedPositions_eq]
  rfl

variable [DecidableEq α]

/-- The candidates above a threshold that a limit leaves, in their order. -/
structure IsSelection (score : α → Float) (threshold : Float) (limit : Nat)
    (candidates selected : List α) : Prop where
  length_le : selected.length ≤ limit
  passes : ∀ c ∈ selected, threshold < score c
  count_le : ∀ c, selected.count c ≤ candidates.count c
  descending : selected.Pairwise fun c d => score d ≤ score c
  /-- The positions of what is selected are in order, and one that passes is left out only if the
  limit is reached and all of these go first. -/
  best : ∃ positions : List (Fin candidates.length), positions.map candidates.get = selected ∧
    positions.Pairwise (GoesFirst (scoreAt score candidates)) ∧
      ∀ j ∉ positions, threshold < scoreAt score candidates j →
        selected.length = limit ∧ ∀ i ∈ positions, GoesFirst (scoreAt score candidates) i j

/-- What is selected is a selection: the ranked positions up to the limit. -/
theorem isSelection_topRanked (hzero : ∀ c ∈ candidates, ¬ IsNegativeZero (score c)) :
    IsSelection score threshold limit candidates
      (topRanked score threshold limit candidates) := by
  let ranked := rankedPositions (scoreAt score candidates) threshold
  have heq : topRanked score threshold limit candidates =
      (ranked.take limit).map candidates.get := topRanked_eq_map_get
  have hpass : ∀ i ∈ ranked.take limit, threshold < scoreAt score candidates i := fun i hi =>
    mem_rankedPositions.mp (List.mem_of_mem_take hi)
  have hordered : ranked.Pairwise (GoesFirst (scoreAt score candidates)) :=
    pairwise_rankedPositions (not_isNegativeZero_scoreAt hzero)
  rw [← List.take_append_drop limit ranked, List.pairwise_append] at hordered
  obtain ⟨htaken, -, hcross⟩ := hordered
  refine ⟨?_, ?_, fun c => ?_, ?_, ranked.take limit, heq.symm, htaken, fun j hj hjpass => ?_⟩
  · rw [heq, List.length_map]
    exact List.length_take_le limit ranked
  · rw [heq, List.forall_mem_map]
    exact hpass
  · have hsubperm : (topRanked score threshold limit candidates).Subperm candidates := by
      rw [topRanked_eq]
      exact (List.take_sublist _ _).subperm.trans
        ((List.mergeSort_perm _ _).subperm.trans List.filter_sublist.subperm)
    exact hsubperm.count_le c
  · have hdescending : (ranked.take limit).Pairwise fun i j =>
        scoreAt score candidates j ≤ scoreAt score candidates i :=
      htaken.imp_of_mem fun hi hj hij => hij.le (hpass _ hi) (hpass _ hj)
    rw [heq, List.pairwise_map]
    exact hdescending
  · have hdropped : j ∈ ranked.drop limit := by
      have hmem : j ∈ ranked.take limit ++ ranked.drop limit := by
        rw [List.take_append_drop]
        exact mem_rankedPositions.mpr hjpass
      exact (List.mem_append.mp hmem).resolve_left hj
    have hlimit : limit < ranked.length := by
      have := List.length_pos_of_mem hdropped
      rw [List.length_drop] at this
      omega
    refine ⟨?_, fun i hi => hcross i hi j hdropped⟩
    rw [heq, List.length_map, List.length_take_of_le (Nat.le_of_lt hlimit)]

/-- There is one selection only, since its positions are a start of the ranked ones. -/
theorem IsSelection.eq_topRanked (hzero : ∀ c ∈ candidates, ¬ IsNegativeZero (score c))
    (h : IsSelection score threshold limit candidates selected) :
    selected = topRanked score threshold limit candidates := by
  have hranked : (rankedPositions (scoreAt score candidates) threshold).Pairwise
      (GoesFirst (scoreAt score candidates)) :=
    pairwise_rankedPositions (not_isNegativeZero_scoreAt hzero)
  obtain ⟨positions, rfl, hordered, hleft⟩ := h.best
  rw [topRanked_eq_map_get]
  have hlimit : positions.length ≤ limit := by simpa using h.length_le
  have hpass : ∀ i ∈ positions, threshold < scoreAt score candidates i := fun i hi =>
    h.passes _ (List.mem_map_of_mem hi)
  have hprefix : positions <+: rankedPositions (scoreAt score candidates) threshold :=
    isPrefix_of_goesFirst (fun i hi => mem_rankedPositions.mp hi)
      (fun i hi => mem_rankedPositions.mpr (hpass i hi)) hordered hranked
      fun j hj hmissing => (hleft j hmissing (mem_rankedPositions.mp hj)).2
  obtain ⟨rest, hrest⟩ := hprefix
  rw [← hrest]
  cases rest with
  | nil => rw [List.append_nil, List.take_of_length_le hlimit]
  | cons j rest =>
    -- The first position behind is left out, so the limit is reached.
    have hnodup : (positions ++ j :: rest).Nodup := by
      rw [hrest]
      exact nodup_of_goesFirst (fun i hi => mem_rankedPositions.mp hi) hranked
    have hj : j ∉ positions := fun hmem =>
      (List.nodup_append.mp hnodup).2.2 j hmem j List.mem_cons_self rfl
    have hjpass : threshold < scoreAt score candidates j := by
      rw [← mem_rankedPositions, ← hrest]
      exact List.mem_append_right positions List.mem_cons_self
    have hlength : positions.length = limit := by simpa using (hleft j hj hjpass).1
    rw [List.take_left' hlength]

/-- **What is selected, and nothing else, is a selection**, where no score is the negative zero. -/
theorem topRanked_eq_iff (hzero : ∀ c ∈ candidates, ¬ IsNegativeZero (score c)) :
    topRanked score threshold limit candidates = selected ↔
      IsSelection score threshold limit candidates selected :=
  ⟨fun h => h ▸ isSelection_topRanked hzero, fun h => (h.eq_topRanked hzero).symm⟩

/-- A way to select from some candidates, by a threshold and a limit, ranks them by a score. -/
structure RanksBy (score : α → Float) (candidates : List α) (select : Float → Nat → List α) :
    Prop where
  eq_iff : ∀ threshold limit selected, select threshold limit = selected ↔
    IsSelection score threshold limit candidates selected
  /-- With as many as there are candidates the limit plays no part, and each limit takes a start of
  what is selected then. -/
  eq_take : ∀ threshold limit,
    select threshold limit = (select threshold candidates.length).take limit
  isPrefix : ∀ lower higher, lower ≤ higher →
    select higher candidates.length <+: select lower candidates.length

/-- The selection by a score ranks by that score, unless this is the negative zero somewhere. -/
theorem ranksBy_topRanked (hzero : ∀ c ∈ candidates, ¬ IsNegativeZero (score c)) :
    RanksBy score candidates fun threshold limit =>
      topRanked score threshold limit candidates := by
  have hunlimited : ∀ threshold, topRanked score threshold candidates.length candidates =
      (rankedPositions (scoreAt score candidates) threshold).map candidates.get :=
    fun threshold => by
      rw [topRanked_eq_map_get, rankedPositions, topRanked_eq, List.take_take, Nat.min_self]
  refine ⟨fun _ _ _ => topRanked_eq_iff hzero, fun threshold limit => ?_,
    fun lower higher h => ?_⟩
  · rw [hunlimited, topRanked_eq_map_get, List.map_take]
  · rw [hunlimited, hunlimited]
    exact (rankedPositions_isPrefix (not_isNegativeZero_scoreAt hzero) h).map candidates.get

/-- **Suggestions are the best candidates, in order.** This holds whatever the score is, as long as
no candidate scores the negative zero; a score that is not a number passes no threshold. So it holds
of the similarity to a name, which is never the negative zero. -/
theorem similarNames_ranksBy (candidates : List String) :
    (∀ score : String → Float, (∀ c ∈ candidates, ¬ IsNegativeZero (score c)) →
      RanksBy score candidates fun threshold limit =>
        topRanked score threshold limit candidates) ∧
    ∀ target : String, RanksBy (fun c => Text.jaroWinkler target.toList c.toList) candidates
      (similarNames target candidates) :=
  ⟨fun _ => ranksBy_topRanked,
    fun _ => ranksBy_topRanked fun _ _ => Text.not_isNegativeZero_jaroWinkler _ _⟩

/-- Ranked by their lengths, the shortest of four names does not pass, and of two with as many
letters the earlier one is selected. -/
theorem similarNames_ranksBy_length :
    let candidates := ["compatibility", "core", "es", "none"]
    let score : String → Float := fun c => .ofNat c.toList.length
    (∀ c ∈ candidates, ¬ IsNegativeZero (score c)) ∧
      IsSelection score 3.5 2 candidates ["compatibility", "core"] := by
  intro candidates score
  have hzero : ∀ c ∈ candidates, ¬ IsNegativeZero (score c) := fun c _ =>
    not_isNegativeZero_of_nonneg (orderKey_ofNat_nonneg c.toList.length)
  have hpassing : (candidates.filter fun c => 3.5 < score c) =
      ["compatibility", "core", "none"] := by
    decide +kernel
  refine ⟨hzero, (((similarNames_ranksBy candidates).1 score hzero).eq_iff 3.5 2 _).mp ?_⟩
  rw [topRanked_eq, hpassing, List.mergeSort_of_pairwise (by decide +kernel)]
  rfl

end GlslCompliance
