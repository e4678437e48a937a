import GlslCompliance.Extension.Activation
import GlslCompliance.Proofs.Extension.Reachability
import Mathlib.Tactic.ByContra

/-!
# What a directive does to the activation

The writers of an `Activation` by what they do to its two views, the behavior of each recognized
extension (`get`) and the list of requested names. `IsListed` says that the entries are those of
the catalog; every writer keeps it.

* `get_assign`, `get_assignEach`, `get_obey`: an extension has the given behavior if the writer
  hits it, and its old one otherwise.
* `requested_assign`, `requested_assignEach`, `requested_obey`: the names that a writer adds.

`Directive.Covers` and `Directive.requests` describe a directive without carrying it out: the
extensions whose behavior it decides, and the names that it asks for, in order.
-/

namespace GlslCompliance

namespace Activation

variable {a : Activation} {n e : String} {b : Behavior} {l : Location}

/-! ### Entries -/

/-- The entries are those of the catalog, in its order. -/
def IsListed (a : Activation) : Prop := a.entries.map Prod.fst = Catalog.names

theorem isListed_initial : initial.IsListed := Catalog.map_fst_entries

/-- A replacement is found under its name, and nothing else has changed. -/
theorem lookup_replace (es : List (String × Behavior)) :
    (replace n b es).lookup e = if e = n then (es.lookup e).map fun _ => b else es.lookup e := by
  induction es with
  | nil => simp [replace]
  | cons entry es ih =>
    unfold replace at ih ⊢
    rw [List.map_cons]
    by_cases hn : entry.1 = n <;> by_cases he : e = entry.1
    · rw [if_pos hn, if_pos (he.trans hn), List.lookup_cons, List.lookup_cons,
        beq_iff_eq.mpr he]
      rfl
    · rw [if_pos hn, List.lookup_cons, List.lookup_cons, beq_false_of_ne he]
      exact ih
    · have hen : e ≠ n := fun h => hn (he ▸ h)
      rw [if_neg hn, if_neg hen, List.lookup_cons, List.lookup_cons, beq_iff_eq.mpr he]
    · rw [if_neg hn, List.lookup_cons, List.lookup_cons, beq_false_of_ne he]
      exact ih

theorem lookup_map_const (es : List (String × Behavior)) :
    (es.map fun entry => (entry.1, b)).lookup e = (es.lookup e).map fun _ => b := by
  induction es with
  | nil => rfl
  | cons entry es ih =>
    rw [List.map_cons, List.lookup_cons, List.lookup_cons, ih]
    cases e == entry.1 <;> rfl

theorem map_fst_replace (es : List (String × Behavior)) :
    (replace n b es).map Prod.fst = es.map Prod.fst := by
  rw [replace, List.map_map]
  refine List.map_congr_left fun entry _ => ?_
  rw [Function.comp_apply]
  split <;> rfl

/-- A recognized extension has an entry. -/
theorem exists_lookup_of_mem (h : a.IsListed) (hn : n ∈ Catalog.names) :
    ∃ previous, a.entries.lookup n = some previous := by
  rw [← h] at hn
  obtain ⟨entry, hmem, rfl⟩ := List.mem_map.mp hn
  refine Option.isSome_iff_exists.mp (List.lookup_isSome_iff.mpr ⟨entry, hmem, ?_⟩)
  exact beq_iff_eq.mpr rfl

/-- A name that is not recognized has no entry. -/
theorem lookup_of_notMem (h : a.IsListed) (hn : n ∉ Catalog.names) :
    a.entries.lookup n = none := by
  refine List.lookup_eq_none_iff.mpr fun entry hmem => bne_iff_ne.mpr ?_
  rintro rfl
  exact hn (h ▸ List.mem_map_of_mem hmem)

/-- A name outside the catalog is missing. -/
theorem get_of_notMem (h : a.IsListed) (hn : n ∉ Catalog.names) : a.get n = .missing := by
  rw [get, lookup_of_notMem h hn, Option.getD_none]

/-! ### One assignment -/

/-- For a known name the entry changes, a request is noted, and partial support is reported. -/
theorem assign_of_recognized {previous : Behavior} (hn : n ∈ Catalog.names)
    (hp : a.entries.lookup n = some previous) :
    a.assign n b l =
      ({ entries := replace n b a.entries,
         requested := if b.isRequested then addRequest n a.requested else a.requested },
        if previous = .disabledPartial then [partiallySupported n l] else []) := by
  have hw : n ≠ Catalog.wildcard := fun h => Catalog.wildcard_notMem_names (h ▸ hn)
  rw [assign, if_neg hw, hp]

/-- For an unknown name there is a report and no change. -/
theorem assign_of_unknown (h : a.IsListed) (hw : n ≠ Catalog.wildcard)
    (hn : n ∉ Catalog.names) : a.assign n b l = (a, [unsupported n b l]) := by
  rw [assign, if_neg hw, lookup_of_notMem h hn]

theorem assign_wildcard : a.assign Catalog.wildcard b l = a.assignAll b l := if_pos rfl

/-- An assignment keeps the entries those of the catalog. -/
theorem isListed_assign (h : a.IsListed) : (a.assign n b l).1.IsListed := by
  by_cases hw : n = Catalog.wildcard
  · rw [hw, assign_wildcard, assignAll]
    split
    · exact h
    · rw [IsListed, List.map_map]
      exact h
  · by_cases hn : n ∈ Catalog.names
    · obtain ⟨previous, hp⟩ := exists_lookup_of_mem h hn
      rw [assign_of_recognized hn hp, IsListed, map_fst_replace]
      exact h
    · rw [assign_of_unknown h hw hn]
      exact h

/-- Whether the assignment of a behavior to a name decides the behavior of an extension: the name
is that of the extension, or the wildcard where the wildcard is not refused. -/
def Hits (n : String) (b : Behavior) (e : String) : Prop :=
  n = e ∨ n = Catalog.wildcard ∧ b.isRequested = false

instance (n : String) (b : Behavior) (e : String) : Decidable (Hits n b e) := instDecidableOr

/-- An assignment decides the behavior of the extensions that it hits, and of no other. -/
theorem get_assign (h : a.IsListed) (he : e ∈ Catalog.names) :
    (a.assign n b l).1.get e = if Hits n b e then b else a.get e := by
  have hew : Catalog.wildcard ≠ e := fun hc => Catalog.wildcard_notMem_names (hc ▸ he)
  obtain ⟨previous, hp⟩ := exists_lookup_of_mem h he
  -- The wildcard writes all entries or none, a recognized name its own, any other name none.
  by_cases hw : n = Catalog.wildcard
  · subst hw
    rw [assign_wildcard, assignAll]
    by_cases hb : b.isRequested
    · have hhit : ¬ Hits Catalog.wildcard b e := by simp [Hits, hew, hb]
      rw [if_pos hb, if_neg hhit]
    · have hhit : Hits Catalog.wildcard b e := .inr ⟨rfl, eq_false_of_ne_true hb⟩
      rw [if_neg hb, if_pos hhit, get, lookup_map_const, hp]
      rfl
  · by_cases hn : n ∈ Catalog.names
    · obtain ⟨before, hbefore⟩ := exists_lookup_of_mem h hn
      rw [assign_of_recognized hn hbefore, get, lookup_replace]
      by_cases hne : e = n
      · rw [if_pos hne, if_pos (.inl hne.symm), hp]
        rfl
      · have hhit : ¬ Hits n b e := by simp [Hits, hw, Ne.symm hne]
        rw [if_neg hne, if_neg hhit, get]
    · have hhit : ¬ Hits n b e := by
        rintro (rfl | hc)
        · exact hn he
        · exact hw hc.1
      rw [assign_of_unknown h hw hn, if_neg hhit]

/-- An assignment asks for a name if it enables or requires a recognized extension. -/
theorem requested_assign (h : a.IsListed) :
    (a.assign n b l).1.requested =
      if b.isRequested ∧ n ∈ Catalog.names then addRequest n a.requested else a.requested := by
  by_cases hw : n = Catalog.wildcard
  · have hn : ¬ (b.isRequested ∧ n ∈ Catalog.names) := fun hc =>
      Catalog.wildcard_notMem_names (hw ▸ hc.2)
    rw [if_neg hn, hw, assign_wildcard, assignAll]
    split <;> rfl
  · by_cases hn : n ∈ Catalog.names
    · obtain ⟨previous, hp⟩ := exists_lookup_of_mem h hn
      rw [assign_of_recognized hn hp]
      simp only [hn, and_true]
    · rw [assign_of_unknown h hw hn, if_neg fun hc => hn hc.2]

/-! ### Several assignments -/

theorem assignEach_nil : a.assignEach b l [] = (a, []) := rfl

theorem assignEach_cons (n : String) (ns : List String) :
    (a.assignEach b l (n :: ns)).1 = ((a.assign n b l).1.assignEach b l ns).1 := rfl

theorem reports_assignEach_cons (n : String) (ns : List String) :
    (a.assignEach b l (n :: ns)).2 =
      (a.assign n b l).2 ++ ((a.assign n b l).1.assignEach b l ns).2 := rfl

theorem isListed_assignEach (h : a.IsListed) (ns : List String) :
    (a.assignEach b l ns).1.IsListed := by
  induction ns generalizing a with
  | nil => exact h
  | cons n ns ih => exact ih (isListed_assign h)

/-- An extension has the new behavior as soon as one of the names stands for it. -/
theorem get_assignEach (h : a.IsListed) (he : e ∈ Catalog.names) (ns : List String) :
    (a.assignEach b l ns).1.get e = if ∃ n ∈ ns, Hits n b e then b else a.get e := by
  induction ns generalizing a with
  | nil => simp [assignEach_nil]
  | cons n ns ih =>
    rw [assignEach_cons, ih (isListed_assign h), get_assign h he]
    by_cases hn : Hits n b e <;> simp [hn]

/-- The known ones among the names are requested, one after the other. -/
theorem requested_assignEach (h : a.IsListed) (ns : List String) :
    (a.assignEach b l ns).1.requested =
      if b.isRequested then
        (ns.filter (· ∈ Catalog.names)).foldl (fun r n => addRequest n r) a.requested
      else a.requested := by
  induction ns generalizing a with
  | nil => simp [assignEach_nil]
  | cons n ns ih =>
    rw [assignEach_cons, ih (isListed_assign h), requested_assign h]
    by_cases hb : b.isRequested <;> by_cases hn : n ∈ Catalog.names <;> simp [hb, hn]

end Activation

/-! ### One directive -/

namespace Directive

/-- The behavior that a directive asks for; without meaning where its keyword is unknown. -/
def behavior (d : Directive) : Behavior := (Behavior.ofKeyword? d.keyword).getD .missing

/-- Whether a directive decides the behavior of an extension. Its keyword is one of four, and
either its name is recognized and implies the extension, directly or not, or it is the wildcard
and only warns or disables. -/
def Covers (d : Directive) (e : String) : Prop :=
  d.keyword ∈ ["require", "enable", "disable", "warn"] ∧
    (d.name ∈ Catalog.names ∧
        Relation.ReflTransGen (Implication.Leads implications) d.name e ∨
      d.name = Catalog.wildcard ∧ d.keyword ∈ ["warn", "disable"])

instance (d : Directive) (e : String) : Decidable (d.Covers e) := instDecidableAnd

/-- The names that a directive asks for, in the order in which they are noted: all that a
recognized name brings along, if it is to be enabled or required. -/
def requests (d : Directive) : List String :=
  if d.keyword ∈ ["enable", "require"] ∧ d.name ∈ Catalog.names then
    Implication.closure implications d.name
  else []

end Directive

namespace Behavior

variable {keyword : String} {b : Behavior}

/-- A keyword is unknown unless it is one of the four. -/
theorem ofKeyword?_eq_none_iff :
    ofKeyword? keyword = none ↔ keyword ∉ ["require", "enable", "disable", "warn"] := by
  simp only [List.mem_cons, List.not_mem_nil, or_false, not_or]
  unfold ofKeyword?
  repeat' split
  all_goals simp_all

/-- The four keywords, each with the behavior that it asks for. -/
theorem ofKeyword?_eq_some_iff :
    ofKeyword? keyword = some b ↔
      keyword = "require" ∧ b = required ∨ keyword = "enable" ∧ b = enabled ∨
        keyword = "disable" ∧ b = disabled ∨ keyword = "warn" ∧ b = warn := by
  constructor
  · intro h
    unfold ofKeyword? at h
    repeat' split at h
    all_goals simp_all
  · rintro (⟨rfl, rfl⟩ | ⟨rfl, rfl⟩ | ⟨rfl, rfl⟩ | ⟨rfl, rfl⟩) <;> rfl

theorem mem_keywords_of_ofKeyword? (h : ofKeyword? keyword = some b) :
    keyword ∈ ["require", "enable", "disable", "warn"] := by
  by_contra hc
  rw [ofKeyword?_eq_none_iff.mpr hc] at h
  exact Option.some_ne_none b h.symm

/-- The keywords that enable or require. -/
theorem isRequested_iff (h : ofKeyword? keyword = some b) :
    b.isRequested = true ↔ keyword ∈ ["enable", "require"] := by
  rcases ofKeyword?_eq_some_iff.mp h with ⟨rfl, rfl⟩ | ⟨rfl, rfl⟩ | ⟨rfl, rfl⟩ | ⟨rfl, rfl⟩ <;>
    decide

/-- The keywords that the wildcard may have. -/
theorem isRequested_eq_false_iff (h : ofKeyword? keyword = some b) :
    b.isRequested = false ↔ keyword ∈ ["warn", "disable"] := by
  rcases ofKeyword?_eq_some_iff.mp h with ⟨rfl, rfl⟩ | ⟨rfl, rfl⟩ | ⟨rfl, rfl⟩ | ⟨rfl, rfl⟩ <;>
    decide

end Behavior

/-- With one of the four keywords, a directive asks neither for partial support nor for an unknown
extension. -/
theorem Directive.behavior_ne {d : Directive}
    (h : d.keyword ∈ ["require", "enable", "disable", "warn"]) :
    d.behavior ≠ .disabledPartial ∧ d.behavior ≠ .missing := by
  obtain ⟨b, hb⟩ := Option.ne_none_iff_exists'.mp
    (mt Behavior.ofKeyword?_eq_none_iff.mp (not_not_intro h))
  rw [behavior, hb, Option.getD_some]
  exact Behavior.ofKeyword?_ne hb

namespace Activation

variable {a : Activation} {e : String} {d : Directive} {b : Behavior}

/-- A directive with an unknown keyword reports the keyword and changes nothing. -/
theorem obey_of_unknown (h : Behavior.ofKeyword? d.keyword = none) :
    a.obey d = (a, [keywordRefused d.keyword d.location]) := by
  rw [obey, h]

/-- A directive with one of the keywords assigns to all that its name brings along. -/
theorem obey_of_known (h : Behavior.ofKeyword? d.keyword = some b) :
    a.obey d = a.assignEach b d.location (Implication.closure implications d.name) := by
  rw [obey, h]
  rfl

theorem isListed_obey (h : a.IsListed) : (a.obey d).1.IsListed := by
  rcases hk : Behavior.ofKeyword? d.keyword with _ | b
  · rw [obey_of_unknown hk]
    exact h
  · rw [obey_of_known hk]
    exact isListed_assignEach h _

/-- Of the names that a directive brings along one hits an extension if and only if the directive
covers the extension. -/
theorem exists_hits_iff (hk : Behavior.ofKeyword? d.keyword = some b)
    (he : e ∈ Catalog.names) :
    (∃ n ∈ Implication.closure implications d.name, Hits n b e) ↔ d.Covers e := by
  have hfour := Behavior.mem_keywords_of_ofKeyword? hk
  constructor
  · rintro ⟨n, hn, rfl | ⟨rfl, hb⟩⟩
    · refine ⟨hfour, .inl ⟨?_, Implication.mem_closure_iff.mp hn⟩⟩
      -- A name that is not recognized brings along nothing but itself.
      by_contra hc
      rw [Implication.closure_of_notMem_names hc] at hn
      exact hc (List.mem_singleton.mp hn ▸ he)
    · refine ⟨hfour, .inr ⟨?_, (Behavior.isRequested_eq_false_iff hk).mp hb⟩⟩
      by_cases hd : d.name ∈ Catalog.names
      · exact absurd (Implication.recognized_of_mem_closure hd hn) Catalog.wildcard_notMem_names
      · rw [Implication.closure_of_notMem_names hd] at hn
        exact (List.mem_singleton.mp hn).symm
  · rintro ⟨-, ⟨-, hr⟩ | ⟨hw, hb⟩⟩
    · exact ⟨e, Implication.mem_closure_iff.mpr hr, .inl rfl⟩
    · exact ⟨Catalog.wildcard, hw ▸ Implication.mem_closure_self _ _,
        .inr ⟨rfl, (Behavior.isRequested_eq_false_iff hk).mpr hb⟩⟩

/-- A directive decides the behavior of the extensions that it covers, and of no other. -/
theorem get_obey (h : a.IsListed) (he : e ∈ Catalog.names) :
    (a.obey d).1.get e = if d.Covers e then d.behavior else a.get e := by
  rcases hk : Behavior.ofKeyword? d.keyword with _ | b
  · rw [obey_of_unknown hk, if_neg fun hc => Behavior.ofKeyword?_eq_none_iff.mp hk hc.1]
  · have hb : d.behavior = b := by rw [Directive.behavior, hk, Option.getD_some]
    rw [obey_of_known hk, get_assignEach h he, hb]
    simp only [exists_hits_iff hk he]

/-- A directive notes the names that it asks for, each unless it is noted already. -/
theorem requested_obey (h : a.IsListed) :
    (a.obey d).1.requested = d.requests.foldl (fun r n => addRequest n r) a.requested := by
  rcases hk : Behavior.ofKeyword? d.keyword with _ | b
  · have hnone : d.requests = [] := by
      refine if_neg fun hc => Behavior.ofKeyword?_eq_none_iff.mp hk ?_
      have hrequest := hc.1
      simp only [List.mem_cons, List.not_mem_nil, or_false] at hrequest ⊢
      exact hrequest.elim (fun he => .inr (.inl he)) .inl
    rw [obey_of_unknown hk, hnone, List.foldl_nil]
  · rw [obey_of_known hk, requested_assignEach h, Directive.requests]
    by_cases hd : d.name ∈ Catalog.names
    · have hall : (Implication.closure implications d.name).filter (· ∈ Catalog.names) =
          Implication.closure implications d.name :=
        List.filter_eq_self.mpr fun n hn =>
          decide_eq_true (Implication.recognized_of_mem_closure hd hn)
      simp only [hall, Behavior.isRequested_iff hk, hd, and_true]
      split <;> rfl
    · have hnone : ¬ (d.keyword ∈ ["enable", "require"] ∧ d.name ∈ Catalog.names) :=
        fun hc => hd hc.2
      rw [Implication.closure_of_notMem_names hd, if_neg hnone]
      simp [hd]

end Activation

end GlslCompliance
