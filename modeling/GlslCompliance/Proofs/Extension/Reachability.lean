import GlslCompliance.Extension.Catalog
import GlslCompliance.Extension.Implication
import Mathlib.Logic.Relation

/-!
# Implied extensions as reachable names

The search behind `Implication.closure`, described from outside, for any table of implications:

* `DepthFirst` is the recursive search: a name that was entered before is skipped, and a new name
  is followed by a search from its dependents before the next name's turn. `depthFirst_iff` says
  that `visit` lists exactly what this search enters, in its order.
* `mem_closure_iff`: the names that a name brings along are those that can be reached from it.
* `nodup_closure`: no name is entered twice.

In the shipped table all triggers and dependents are recognized (`recognized_of_leads`), so a
recognized name brings along recognized names only, and any other name only itself.
-/

namespace GlslCompliance

namespace Implication

open Relation

variable {rows : List Implication}

/-- One name brings another along directly. -/
def Leads (rows : List Implication) (a b : String) : Prop := b ∈ dependentsIn rows a

/-- The depth-first search from the names that wait, where some names were entered before, and the
names that it enters, in order. -/
inductive DepthFirst (rows : List Implication) : List String → List String → List String → Prop
  | done (seen : List String) : DepthFirst rows seen [] []
  | skip {seen todo order : List String} {name : String} :
      name ∈ seen → DepthFirst rows seen todo order → DepthFirst rows seen (name :: todo) order
  | enter {seen todo below order : List String} {name : String} :
      name ∉ seen → DepthFirst rows (name :: seen) (dependentsIn rows name) below →
      DepthFirst rows (below ++ name :: seen) todo order →
      DepthFirst rows seen (name :: todo) (name :: below ++ order)

/-! ### The search is depth first -/

/-- Of the names entered before only the membership counts. -/
theorem visit_congr {seen seen' : List String} (todo : List String)
    (h : ∀ n, n ∈ seen ↔ n ∈ seen') : visit rows seen todo = visit rows seen' todo := by
  fun_induction visit rows seen todo generalizing seen' with
  | case1 => rw [visit_nil]
  | case2 seen name todo hm ih => rw [visit_cons_of_mem ((h name).mp hm), ih h]
  | case3 seen name todo hm ih =>
    have hcons : ∀ n, n ∈ name :: seen ↔ n ∈ name :: seen' := fun n => by
      rw [List.mem_cons, List.mem_cons, h n]
    rw [visit_cons_of_notMem fun hc => hm ((h name).mpr hc), ih hcons]

/-- A search from two lists is a search from the first, then one from the second that knows what
the first has entered. -/
theorem visit_append (seen first second : List String) :
    visit rows seen (first ++ second) =
      visit rows seen first ++ visit rows (visit rows seen first ++ seen) second := by
  fun_induction visit rows seen first with
  | case1 => simp
  | case2 seen name todo hm ih => rw [List.cons_append, visit_cons_of_mem hm, ih]
  | case3 seen name todo hm ih =>
    have hmid : visit rows (visit rows (name :: seen) (dependentsIn rows name ++ todo)
          ++ name :: seen) second =
        visit rows (name :: visit rows (name :: seen) (dependentsIn rows name ++ todo) ++ seen)
          second :=
      visit_congr second fun n => by
        rw [List.cons_append, List.mem_append, List.mem_cons, List.mem_cons, List.mem_append]
        exact or_left_comm
    rw [List.cons_append, visit_cons_of_notMem hm, ← List.append_assoc, ih, hmid]
    rfl

/-- A new name is followed by the search from its dependents, and that by the search from the
names that wait. -/
theorem visit_cons_eq_below {seen todo : List String} {name : String} (h : name ∉ seen) :
    visit rows seen (name :: todo) =
      name :: visit rows (name :: seen) (dependentsIn rows name) ++
        visit rows (visit rows (name :: seen) (dependentsIn rows name) ++ name :: seen) todo := by
  rw [visit_cons_of_notMem h, visit_append, List.cons_append]

/-- Entering more names leaves fewer rows. -/
theorem pending_append_le (more seen : List String) (rows : List Implication) :
    pending (more ++ seen) rows ≤ pending seen rows := by
  induction more with
  | nil => exact Nat.le_refl _
  | cons name more ih => exact Nat.le_trans (pending_cons_le (more ++ seen) name rows) ih

/-- `visit` lists what the depth-first search enters. -/
theorem depthFirst_visit (rows : List Implication) (seen todo : List String) :
    DepthFirst rows seen todo (visit rows seen todo) := by
  match todo with
  | [] =>
    rw [visit_nil]
    exact .done seen
  | name :: todo =>
    by_cases h : name ∈ seen
    · rw [visit_cons_of_mem h]
      exact .skip h (depthFirst_visit rows seen todo)
    · rw [visit_cons_eq_below h]
      exact .enter h (depthFirst_visit rows (name :: seen) (dependentsIn rows name))
        (depthFirst_visit rows _ todo)
termination_by todo.length + pending seen rows
decreasing_by
  · simp
  · have := length_dependentsIn_add_pending_le h rows
    simp only [List.length_cons]
    omega
  · have := pending_append_le (visit rows (name :: seen) (dependentsIn rows name)) (name :: seen)
      rows
    have := pending_cons_le seen name rows
    simp only [List.length_cons]
    omega

/-- The depth-first search enters the names of `visit`, and in no other order. -/
theorem depthFirst_iff {seen todo order : List String} :
    DepthFirst rows seen todo order ↔ order = visit rows seen todo := by
  constructor
  · intro h
    induction h with
    | done seen => rw [visit_nil]
    | skip hm _ ih => rw [visit_cons_of_mem hm, ih]
    | enter hm _ _ ihBelow ihOrder => rw [visit_cons_eq_below hm, ← ihBelow, ← ihOrder]
  · rintro rfl
    exact depthFirst_visit rows seen todo

/-! ### The search enters what can be reached -/

/-- A search enters nothing that was entered before. -/
theorem notMem_seen_of_mem_visit {seen todo : List String} {n : String}
    (h : n ∈ visit rows seen todo) : n ∉ seen := by
  fun_induction visit rows seen todo with
  | case1 => simp at h
  | case2 seen name todo hm ih => exact ih h
  | case3 seen name todo hm ih =>
    rcases List.mem_cons.mp h with rfl | h
    · exact hm
    · exact fun hc => ih h (List.mem_cons_of_mem _ hc)

/-- A search enters no name twice. -/
theorem nodup_visit (rows : List Implication) (seen todo : List String) :
    (visit rows seen todo).Nodup := by
  fun_induction visit rows seen todo with
  | case1 => exact List.nodup_nil
  | case2 seen name todo hm ih => exact ih
  | case3 seen name todo hm ih =>
    exact List.nodup_cons.mpr
      ⟨fun hc => notMem_seen_of_mem_visit hc List.mem_cons_self, ih⟩

/-- What a search enters can be reached from a name that waits. -/
theorem reachable_of_mem_visit {seen todo : List String} {n : String}
    (h : n ∈ visit rows seen todo) : ∃ t ∈ todo, ReflTransGen (Leads rows) t n := by
  fun_induction visit rows seen todo with
  | case1 => simp at h
  | case2 seen name todo hm ih =>
    obtain ⟨t, ht, hr⟩ := ih h
    exact ⟨t, List.mem_cons_of_mem _ ht, hr⟩
  | case3 seen name todo hm ih =>
    rcases List.mem_cons.mp h with rfl | h
    · exact ⟨n, List.mem_cons_self, .refl⟩
    · obtain ⟨t, ht, hr⟩ := ih h
      rcases List.mem_append.mp ht with ht | ht
      · exact ⟨name, List.mem_cons_self, .head ht hr⟩
      · exact ⟨t, List.mem_cons_of_mem _ ht, hr⟩

/-- A name that waits is entered, unless that has happened before. -/
theorem mem_visit_of_mem_todo {seen todo : List String} {n : String} (h : n ∈ todo)
    (hn : n ∉ seen) : n ∈ visit rows seen todo := by
  fun_induction visit rows seen todo with
  | case1 => simp at h
  | case2 seen name todo hm ih =>
    rcases List.mem_cons.mp h with rfl | h
    · exact absurd hm hn
    · exact ih h hn
  | case3 seen name todo hm ih =>
    by_cases he : n = name
    · exact he ▸ List.mem_cons_self
    · have hw : n ∈ todo := (List.mem_cons.mp h).resolve_left he
      refine List.mem_cons_of_mem _ (ih (List.mem_append_right _ hw) fun hc => ?_)
      exact hn ((List.mem_cons.mp hc).resolve_left he)

/-- With a name its dependents are entered, unless that has happened before. -/
theorem mem_visit_of_leads {seen todo : List String} {a b : String}
    (ha : a ∈ visit rows seen todo) (hl : Leads rows a b) (hb : b ∉ seen) :
    b ∈ visit rows seen todo := by
  fun_induction visit rows seen todo with
  | case1 => simp at ha
  | case2 seen name todo hm ih => exact ih ha hb
  | case3 seen name todo hm ih =>
    by_cases he : b = name
    · exact he ▸ List.mem_cons_self
    · have hb' : b ∉ name :: seen := fun hc => hb ((List.mem_cons.mp hc).resolve_left he)
      refine List.mem_cons_of_mem _ ?_
      rcases List.mem_cons.mp ha with rfl | ha
      · exact mem_visit_of_mem_todo (List.mem_append_left _ hl) hb'
      · exact ih ha hb'

theorem mem_closure_self (rows : List Implication) (name : String) : name ∈ closure rows name :=
  mem_visit_of_mem_todo List.mem_cons_self List.not_mem_nil

/-- A name brings along exactly the names that can be reached from it. -/
theorem mem_closure_iff {name n : String} :
    n ∈ closure rows name ↔ ReflTransGen (Leads rows) name n := by
  constructor
  · intro h
    obtain ⟨t, ht, hr⟩ := reachable_of_mem_visit h
    rwa [List.mem_singleton.mp ht] at hr
  · intro h
    induction h with
    | refl => exact mem_closure_self rows name
    | tail _ hl ih => exact mem_visit_of_leads ih hl List.not_mem_nil

/-- No name is brought along twice. -/
theorem nodup_closure (rows : List Implication) (name : String) : (closure rows name).Nodup :=
  nodup_visit rows [] [name]

instance (name n : String) : Decidable (ReflTransGen (Leads rows) name n) :=
  decidable_of_iff _ mem_closure_iff

/-- A name without dependents brings along only itself. -/
theorem closure_eq_singleton {name : String} (h : dependentsIn rows name = []) :
    closure rows name = [name] := by
  rw [closure, visit_cons_of_notMem List.not_mem_nil, h, List.nil_append, visit_nil]

/-- Dependents stand in a row of the table. -/
theorem exists_row_of_leads {a b : String} (h : Leads rows a b) :
    ∃ row ∈ rows, row.trigger = a ∧ b ∈ row.dependents := by
  unfold Leads at h
  induction rows with
  | nil => simp [dependentsIn] at h
  | cons row rest ih =>
    by_cases ht : row.trigger = a
    · rw [dependentsIn, if_pos ht] at h
      exact ⟨row, List.mem_cons_self, ht, h⟩
    · rw [dependentsIn, if_neg ht] at h
      obtain ⟨r, hr, hra⟩ := ih h
      exact ⟨r, List.mem_cons_of_mem _ hr, hra⟩

/-! ### The shipped table -/

/-- Every name in the table of implications is recognized. -/
theorem recognized_of_mem_implications :
    ∀ row ∈ implications, row.trigger ∈ Catalog.names ∧
      ∀ n ∈ row.dependents, n ∈ Catalog.names := by
  decide +kernel

/-- Implications hold between recognized extensions only. -/
theorem recognized_of_leads {a b : String} (h : Leads implications a b) :
    a ∈ Catalog.names ∧ b ∈ Catalog.names := by
  obtain ⟨row, hrow, rfl, hb⟩ := exists_row_of_leads h
  exact ⟨(recognized_of_mem_implications row hrow).1,
    (recognized_of_mem_implications row hrow).2 b hb⟩

/-- A recognized extension brings along recognized extensions only. -/
theorem recognized_of_mem_closure {name n : String} (hname : name ∈ Catalog.names)
    (h : n ∈ closure implications name) : n ∈ Catalog.names := by
  rcases ReflTransGen.cases_tail (mem_closure_iff.mp h) with rfl | ⟨m, -, hl⟩
  · exact hname
  · exact (recognized_of_leads hl).2

/-- A name that is not recognized brings along only itself. -/
theorem closure_of_notMem_names {name : String} (h : name ∉ Catalog.names) :
    closure implications name = [name] := by
  refine closure_eq_singleton (List.eq_nil_iff_forall_not_mem.mpr fun n hn => ?_)
  exact h (recognized_of_leads hn).1

end Implication

end GlslCompliance
