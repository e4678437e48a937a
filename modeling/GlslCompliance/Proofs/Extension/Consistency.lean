import GlslCompliance.Proofs.Extension.Assignment
import Mathlib.Data.List.Nodup

/-!
# Every run keeps the activation consistent

A run is any interleaving of directives and of direct assignments, with any names and behaviors.
`Consistent` is what every state of a run satisfies:

* the entries are those of the catalog, one for each recognized extension, in its order;
* the requested names are recognized, and none is noted twice;
* an extension that is enabled or required now is noted as requested. This holds because the
  wildcard, which notes nothing, can neither enable nor require.

`consistent_assign` is the step, `consistent_after` the run, and `representation_after` spells out
what this means for the entries, the positions in the catalog and the lookup by name.
-/

namespace GlslCompliance

/-- A change of an activation: by a directive, or by an assignment without one. -/
inductive Write where
  | directive (d : Directive)
  | assignment (name : String) (behavior : Behavior) (location : Location)
  deriving DecidableEq, Repr

/-- The position of an extension in the catalog. -/
def Catalog.position? (name : String) : Option Nat := Catalog.names.idxOf? name

namespace Activation

/-- Carries out one change. -/
def write (a : Activation) : Write → Activation × List Diagnostic
  | .directive d => a.obey d
  | .assignment name behavior location => a.assign name behavior location

/-- The activation after several changes. -/
def after (a : Activation) (ws : List Write) : Activation := ws.foldl (fun a w => (a.write w).1) a

variable {a : Activation} {n e : String} {b : Behavior} {l : Location}

@[simp] theorem after_nil : a.after [] = a := rfl

@[simp] theorem after_cons (w : Write) (ws : List Write) :
    a.after (w :: ws) = (a.write w).1.after ws := rfl

theorem after_append (first second : List Write) :
    a.after (first ++ second) = (a.after first).after second := List.foldl_append

/-- Every change is a sequence of assignments of one behavior. -/
theorem exists_assignEach_eq_write (a : Activation) (w : Write) :
    ∃ b l ns, (a.write w).1 = (a.assignEach b l ns).1 := by
  cases w with
  | directive d =>
    rcases hk : Behavior.ofKeyword? d.keyword with _ | b
    · exact ⟨.missing, d.location, [], by rw [write, obey_of_unknown hk, assignEach_nil]⟩
    · exact ⟨b, d.location, _, by rw [write, obey_of_known hk]⟩
  | assignment n b l => exact ⟨b, l, [n], rfl⟩

/-! ### Lookups -/

theorem isRecognized_iff : a.isRecognized n = true ↔ n ∈ a.entries.map Prod.fst := by
  simp only [isRecognized, List.any_eq_true, beq_iff_eq, List.mem_map]

/-- A name has one entry, and that holds the behavior that is looked up. -/
theorem get_of_mem_entries (h : a.IsListed) (hm : (n, b) ∈ a.entries) : a.get n = b := by
  have hn : n ∈ Catalog.names := h ▸ List.mem_map_of_mem hm
  obtain ⟨c, hlookup⟩ := exists_lookup_of_mem h hn
  obtain ⟨before, behind, hsplit, -⟩ := List.lookup_eq_some_iff.mp hlookup
  have hc : (n, c) ∈ a.entries := by
    rw [hsplit]
    exact List.mem_append_right _ List.mem_cons_self
  have hnodup : (a.entries.map Prod.fst).Nodup := h ▸ Catalog.nodup_names
  have hcb : c = b := congrArg Prod.snd (List.inj_on_of_nodup_map hnodup hc hm rfl)
  rw [get, hlookup, Option.getD_some, hcb]

/-- The entry at the position of a name is the entry of that name. -/
theorem getElem?_position (h : a.IsListed) {i : Nat} (hi : Catalog.position? n = some i) :
    a.entries[i]? = some (n, a.get n) := by
  obtain ⟨hlt, hat, -⟩ := List.idxOf?_eq_some_iff.mp hi
  have hname : (a.entries.map Prod.fst)[i]? = some n := by
    rw [h, List.getElem?_eq_getElem hlt, hat]
  rw [List.getElem?_map] at hname
  obtain ⟨⟨m, b⟩, hentry, rfl⟩ := Option.map_eq_some_iff.mp hname
  rw [hentry, get_of_mem_entries h (List.mem_of_getElem? hentry)]

/-! ### Requested names -/

theorem mem_addRequest {r : List String} : e ∈ addRequest n r ↔ e ∈ r ∨ e = n := by
  unfold addRequest
  split
  · exact ⟨.inl, fun h => h.elim id fun he => he ▸ ‹n ∈ r›⟩
  · rw [List.mem_append, List.mem_singleton]

theorem nodup_addRequest {r : List String} (h : r.Nodup) : (addRequest n r).Nodup := by
  unfold addRequest
  split
  · exact h
  · next hn =>
    refine List.nodup_append.mpr ⟨h, List.nodup_singleton n, fun m hm k hk hmk => ?_⟩
    exact hn (List.mem_singleton.mp hk ▸ hmk ▸ hm)

/-- A request is added behind the others. -/
theorem prefix_addRequest (n : String) (r : List String) : r <+: addRequest n r := by
  unfold addRequest
  split
  · exact List.prefix_rfl
  · exact List.prefix_append r [n]

/-! ### Consistency -/

/-- What every state of a run satisfies. -/
structure Consistent (a : Activation) : Prop where
  /-- The entries are those of the catalog, in its order. -/
  listed : a.IsListed
  nodup_requested : a.requested.Nodup
  recognized_of_requested : ∀ n ∈ a.requested, n ∈ Catalog.names
  /-- What is enabled or required now has been requested. -/
  requested_of_on : ∀ n, (a.get n).isRequested → n ∈ a.requested

theorem get_initial (he : e ∈ Catalog.names) : initial.get e = Catalog.initialBehavior e :=
  get_of_mem_entries isListed_initial (List.mem_map.mpr ⟨e, he, rfl⟩)

/-- No extension is requested from the start. -/
theorem isRequested_initialBehavior (n : String) :
    (Catalog.initialBehavior n).isRequested = false := by
  unfold Catalog.initialBehavior
  split <;> rfl

/-- Only recognized extensions are ever on. -/
theorem recognized_of_isRequested (h : a.IsListed) (hon : (a.get n).isRequested) :
    n ∈ Catalog.names := by
  by_contra hn
  rw [get_of_notMem h hn] at hon
  exact Bool.false_ne_true hon

theorem consistent_initial : initial.Consistent where
  listed := isListed_initial
  nodup_requested := List.nodup_nil
  recognized_of_requested n hn := absurd hn List.not_mem_nil
  requested_of_on n hon := by
    rw [get_initial (recognized_of_isRequested isListed_initial hon),
      isRequested_initialBehavior] at hon
    exact absurd hon Bool.false_ne_true

/-- **One assignment.** Whatever is given to whichever name, the activation stays consistent. -/
theorem consistent_assign (h : a.Consistent) (n : String) (b : Behavior) (l : Location) :
    (a.assign n b l).1.Consistent where
  listed := isListed_assign h.listed
  nodup_requested := by
    rw [requested_assign h.listed]
    split
    · exact nodup_addRequest h.nodup_requested
    · exact h.nodup_requested
  recognized_of_requested e he := by
    rw [requested_assign h.listed] at he
    split at he
    · next hb =>
      rcases mem_addRequest.mp he with he | rfl
      · exact h.recognized_of_requested e he
      · exact hb.2
    · exact h.recognized_of_requested e he
  requested_of_on e hon := by
    have he := recognized_of_isRequested (isListed_assign h.listed) hon
    rw [get_assign h.listed he] at hon
    rw [requested_assign h.listed]
    by_cases hhit : Hits n b e
    · rw [if_pos hhit] at hon
      -- The wildcard hits without noting, but only with a behavior that is not on.
      rcases hhit with rfl | ⟨-, hb⟩
      · rw [if_pos ⟨hon, he⟩]
        exact mem_addRequest.mpr (.inr rfl)
      · exact absurd (hb ▸ hon) Bool.false_ne_true
    · rw [if_neg hhit] at hon
      have hmem := h.requested_of_on e hon
      split
      · exact mem_addRequest.mpr (.inl hmem)
      · exact hmem

theorem consistent_assignEach (h : a.Consistent) (b : Behavior) (l : Location)
    (ns : List String) : (a.assignEach b l ns).1.Consistent := by
  induction ns generalizing a with
  | nil => exact h
  | cons n ns ih => exact ih (consistent_assign h n b l)

/-- **One change.** -/
theorem consistent_write (h : a.Consistent) (w : Write) : (a.write w).1.Consistent := by
  obtain ⟨b, l, ns, hw⟩ := exists_assignEach_eq_write a w
  rw [hw]
  exact consistent_assignEach h b l ns

/-- **Any changes keep an activation consistent.** The induction is on the changes. -/
theorem consistent_after_of (h : a.Consistent) (ws : List Write) : (a.after ws).Consistent := by
  induction ws generalizing a with
  | nil => exact h
  | cons w ws ih => exact ih (consistent_write h w)

/-- **Every run.** -/
theorem consistent_after (ws : List Write) : (initial.after ws).Consistent :=
  consistent_after_of consistent_initial ws

/-! ### The list of requests only grows -/

/-- An assignment adds behind the requests there are. -/
theorem requested_prefix_assign (h : a.IsListed) (n : String) (b : Behavior) (l : Location) :
    a.requested <+: (a.assign n b l).1.requested := by
  rw [requested_assign h]
  split
  · exact prefix_addRequest n a.requested
  · exact List.prefix_rfl

theorem requested_prefix_assignEach (h : a.IsListed) (b : Behavior) (l : Location)
    (ns : List String) : a.requested <+: (a.assignEach b l ns).1.requested := by
  induction ns generalizing a with
  | nil => exact List.prefix_rfl
  | cons n ns ih => exact (requested_prefix_assign h n b l).trans (ih (isListed_assign h))

/-- No change loses or reorders a requested name. -/
theorem requested_prefix_write (h : a.IsListed) (w : Write) :
    a.requested <+: (a.write w).1.requested := by
  obtain ⟨b, l, ns, hw⟩ := exists_assignEach_eq_write a w
  rw [hw]
  exact requested_prefix_assignEach h b l ns

/-- Requests are never taken back, and their order stays. -/
theorem requested_prefix_after (h : a.Consistent) (ws : List Write) :
    a.requested <+: (a.after ws).requested := by
  induction ws generalizing a with
  | nil => exact List.prefix_rfl
  | cons w ws ih => exact (requested_prefix_write h.listed w).trans (ih (consistent_write h w))

/-! ### Known names -/

/-- Every recognized extension has a behavior other than `missing`. -/
def IsComplete (a : Activation) : Prop := ∀ e ∈ Catalog.names, a.get e ≠ .missing

/-- In the beginning no extension of the catalog is missing. -/
theorem isComplete_initial : initial.IsComplete := by
  intro e he
  rw [get_initial he, Catalog.initialBehavior]
  split <;> exact nofun

/-- An assignment keeps this so, unless it makes an extension missing. -/
theorem isComplete_assign (h : a.IsListed) (hc : a.IsComplete) (hb : b ≠ .missing) :
    (a.assign n b l).1.IsComplete := by
  intro e he
  rw [get_assign h he]
  split
  · exact hb
  · exact hc e he

/-- Only an assignment of `missing` makes a recognized extension look unknown. -/
theorem isComplete_write (h : a.IsListed) (hc : a.IsComplete) {w : Write}
    (hw : ∀ n l, w ≠ .assignment n .missing l) : (a.write w).1.IsComplete := by
  cases w with
  | directive d =>
    intro e he
    rw [write, get_obey h he]
    by_cases hd : d.Covers e
    · rw [if_pos hd]
      exact (Directive.behavior_ne hd.1).2
    · rw [if_neg hd]
      exact hc e he
  | assignment n b l => exact isComplete_assign h hc fun hb => hw n l (by rw [hb])

/-- Any changes keep this so, unless one of them makes an extension missing. -/
theorem isComplete_after (h : a.Consistent) (hc : a.IsComplete) {ws : List Write}
    (hws : ∀ n l, .assignment n .missing l ∉ ws) : (a.after ws).IsComplete := by
  induction ws generalizing a with
  | nil => exact hc
  | cons w ws ih =>
    refine ih (consistent_write h w) (isComplete_write h.listed hc fun n l hw => ?_)
      fun n l hm => hws n l (List.mem_cons_of_mem _ hm)
    exact hws n l (hw ▸ List.mem_cons_self)

/-! ### The representation -/

/-- **The representation of a run.** After any interleaving of directives and assignments:

* the entries are the recognized extensions, in catalog order and without repetition;
* the entries, the positions in the catalog and the lookup by name agree, and what is not listed
  is looked up as `missing`;
* the requested names are recognized, not repeated, and only added to at the end;
* what is enabled or required has been requested;
* unless `missing` was assigned, just the names that are not recognized are looked up as `missing`.
-/
theorem representation_after (ws : List Write) :
    let a := initial.after ws
    (a.entries.map Prod.fst = Catalog.names ∧ (a.entries.map Prod.fst).Nodup) ∧
    (∀ n, (a.isRecognized n = true ↔ n ∈ a.entries.map Prod.fst) ∧
      (∀ b, (n, b) ∈ a.entries → a.get n = b) ∧
      (n ∉ a.entries.map Prod.fst → a.get n = .missing) ∧
      (a.isRecognized n = true ↔ (Catalog.position? n).isSome) ∧
      ∀ i, Catalog.position? n = some i → a.entries[i]? = some (n, a.get n)) ∧
    (a.requested.Nodup ∧ (∀ n ∈ a.requested, n ∈ Catalog.names) ∧
      ∀ w, a.requested <+: (a.write w).1.requested) ∧
    (∀ n, (a.get n).isRequested → n ∈ a.requested) ∧
    ((∀ n l, .assignment n .missing l ∉ ws) → ∀ n, a.get n = .missing ↔ n ∉ Catalog.names) := by
  intro a
  have hc : a.Consistent := consistent_after ws
  have hrec : ∀ n, a.isRecognized n = true ↔ n ∈ Catalog.names := fun n => by
    rw [isRecognized_iff, hc.listed]
  refine ⟨⟨hc.listed, hc.listed ▸ Catalog.nodup_names⟩, fun n => ⟨isRecognized_iff, ?_, ?_, ?_, ?_⟩,
    ⟨hc.nodup_requested, hc.recognized_of_requested, requested_prefix_write hc.listed⟩,
    hc.requested_of_on, fun hws n => ⟨?_, get_of_notMem hc.listed⟩⟩
  · exact fun b hm => get_of_mem_entries hc.listed hm
  · exact fun hn => get_of_notMem hc.listed (hc.listed ▸ hn)
  · rw [hrec n, Catalog.position?, List.isSome_idxOf?]
  · exact fun i hi => getElem?_position hc.listed hi
  · exact fun hget hn => isComplete_after consistent_initial isComplete_initial hws n hn hget

end Activation

end GlslCompliance
