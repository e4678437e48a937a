import GlslCompliance.Proofs.Extension.Notices

/-!
# Behaviors spread along implications

What is done to a trigger is done to its dependents, and to theirs. `Spreads` describes this as the
recursion that it is, for any table of implications: names are gone through one after the other; a
name that was entered before is skipped; a new one is entered, which assigns the behavior to it, and
its dependents are gone through before the next name's turn. The relation holds of finished runs
only, and counts the names that were looked at.

* Every run comes to an end: `exists_spreads`, by the measure of the search behind
  `Implication.visit`, since a name that is entered uses up its rows. There is one outcome
  (`Spreads.unique`), and that is the one of `Activation.propagate`.
* The names are entered depth first, and they are the names that can be reached. So the entries of
  these are changed and no others, and of the rest each is reported (`spreads_reachable`).
-/

namespace GlslCompliance

open Implication (Leads DepthFirst closure dependentsIn pending visit)

/-- The state of a behavior that spreads: the activation by now, the names that were entered, in
order, and what has been reported. -/
@[ext] structure Spread where
  activation : Activation
  entered : List String := []
  reports : List Diagnostic := []
  deriving DecidableEq, Repr

namespace Spread

/-- Enters a name: the behavior is assigned to it. -/
def enter (b : Behavior) (l : Location) (s : Spread) (name : String) : Spread where
  activation := (s.activation.assign name b l).1
  entered := s.entered ++ [name]
  reports := s.reports ++ (s.activation.assign name b l).2

/-- Enters several names, one after the other. -/
def enterEach (b : Behavior) (l : Location) (s : Spread) (names : List String) : Spread :=
  names.foldl (enter b l) s

end Spread

/-- The recursion through some names, with the number of names that it looks at. -/
inductive Spreads (rows : List Implication) (b : Behavior) (l : Location) :
    Nat → List String → Spread → Spread → Prop
  | done (s : Spread) : Spreads rows b l 0 [] s s
  | skip {s t : Spread} {k : Nat} {name : String} {todo : List String} :
      name ∈ s.entered → Spreads rows b l k todo s t → Spreads rows b l (k + 1) (name :: todo) s t
  | enter {s m t : Spread} {j k : Nat} {name : String} {todo : List String} :
      name ∉ s.entered → Spreads rows b l j (dependentsIn rows name) (s.enter b l name) m →
      Spreads rows b l k todo m t → Spreads rows b l (j + k + 1) (name :: todo) s t

namespace Spread

variable {b : Behavior} {l : Location}

theorem enterEach_cons (s : Spread) (name : String) (names : List String) :
    s.enterEach b l (name :: names) = (s.enter b l name).enterEach b l names := rfl

theorem enterEach_append (s : Spread) (first second : List String) :
    s.enterEach b l (first ++ second) = (s.enterEach b l first).enterEach b l second :=
  List.foldl_append

theorem entered_enterEach (s : Spread) (names : List String) :
    (s.enterEach b l names).entered = s.entered ++ names := by
  induction names generalizing s with
  | nil => exact (List.append_nil _).symm
  | cons name names ih =>
    rw [enterEach_cons, ih, enter, List.append_assoc, List.singleton_append]

theorem activation_enterEach (s : Spread) (names : List String) :
    (s.enterEach b l names).activation = (s.activation.assignEach b l names).1 := by
  induction names generalizing s with
  | nil => rfl
  | cons name names ih => rw [enterEach_cons, ih, Activation.assignEach_cons, enter]

theorem reports_enterEach (s : Spread) (names : List String) :
    (s.enterEach b l names).reports =
      s.reports ++ (s.activation.assignEach b l names).2 := by
  induction names generalizing s with
  | nil => exact (List.append_nil _).symm
  | cons name names ih =>
    rw [enterEach_cons, ih, Activation.reports_assignEach_cons, enter, List.append_assoc]

/-! ### Entering what a search enters -/

theorem mem_entered_enter (s : Spread) (name n : String) :
    n ∈ (s.enter b l name).entered ↔ n ∈ name :: s.entered := by
  rw [enter, List.mem_append, List.mem_singleton, List.mem_cons, or_comm]

/-- The state behind the search through some names. -/
def explore (rows : List Implication) (b : Behavior) (l : Location) (todo : List String)
    (s : Spread) : Spread :=
  s.enterEach b l (visit rows s.entered todo)

variable {rows : List Implication}

/-- A search enters the names of a depth-first visit behind those entered before. -/
theorem entered_explore (todo : List String) (s : Spread) :
    (s.explore rows b l todo).entered = s.entered ++ visit rows s.entered todo :=
  entered_enterEach s _

theorem explore_nil (s : Spread) : s.explore rows b l [] = s := by
  rw [explore, Implication.visit_nil]
  rfl

/-- A name that was entered before is passed over. -/
theorem explore_cons_of_mem {s : Spread} {name : String} (h : name ∈ s.entered)
    (todo : List String) : s.explore rows b l (name :: todo) = s.explore rows b l todo := by
  rw [explore, Implication.visit_cons_of_mem h, explore]

/-- A new name is entered, then its dependents are explored, then the names that wait. -/
theorem explore_cons_of_notMem {s : Spread} {name : String} (h : name ∉ s.entered)
    (todo : List String) :
    s.explore rows b l (name :: todo) =
      ((s.enter b l name).explore rows b l (dependentsIn rows name)).explore rows b l todo := by
  have hbelow : visit rows (s.enter b l name).entered (dependentsIn rows name) =
      visit rows (name :: s.entered) (dependentsIn rows name) :=
    Implication.visit_congr _ (mem_entered_enter s name)
  have hrest : visit rows ((s.enter b l name).explore rows b l (dependentsIn rows name)).entered
      todo = visit rows (visit rows (name :: s.entered) (dependentsIn rows name)
        ++ name :: s.entered) todo :=
    Implication.visit_congr todo fun n => by
      rw [entered_explore, hbelow, List.mem_append, mem_entered_enter, List.mem_append, or_comm]
  calc s.explore rows b l (name :: todo)
      = ((s.enter b l name).enterEach b l
          (visit rows (name :: s.entered) (dependentsIn rows name))).enterEach b l
          (visit rows (visit rows (name :: s.entered) (dependentsIn rows name)
            ++ name :: s.entered) todo) := by
        rw [explore, Implication.visit_cons_eq_below h, enterEach_append, enterEach_cons]
    _ = ((s.enter b l name).explore rows b l (dependentsIn rows name)).explore rows b l todo := by
        rw [← hrest, ← hbelow]
        rfl

/-- To explore from one name is to propagate. -/
theorem explore_singleton (a : Activation) (name : String) :
    explore rows b l [name] { activation := a } =
      ⟨(a.propagate rows name b l).1, closure rows name, (a.propagate rows name b l).2⟩ :=
  Spread.ext (activation_enterEach _ _) (entered_enterEach _ _) (reports_enterEach _ _)

end Spread

namespace Spreads

variable {rows : List Implication} {b : Behavior} {l : Location}

/-! ### Runs come to an end -/

/-- Of the names seen before only the membership counts. -/
theorem pending_congr {seen seen' : List String} (h : ∀ n, n ∈ seen ↔ n ∈ seen')
    (rows : List Implication) : pending seen rows = pending seen' rows := by
  induction rows with
  | nil => rfl
  | cons row rest ih => simp only [pending, h, ih]

/-- **Every run comes to an end.** The names that it looks at are at most those that wait at first
and the dependents in the rows that it uses up. -/
theorem exists_spreads (rows : List Implication) (b : Behavior) (l : Location)
    (todo : List String) (s : Spread) :
    ∃ k, Spreads rows b l k todo s (s.explore rows b l todo) ∧
      k + pending (s.explore rows b l todo).entered rows ≤ todo.length + pending s.entered rows := by
  match todo with
  | [] =>
    rw [Spread.explore_nil]
    exact ⟨0, .done s, by simp⟩
  | name :: todo =>
    by_cases hmem : name ∈ s.entered
    · obtain ⟨k, hrun, hk⟩ := exists_spreads rows b l todo s
      rw [Spread.explore_cons_of_mem hmem]
      exact ⟨k + 1, .skip hmem hrun, by simp only [List.length_cons]; omega⟩
    · have huse := Implication.length_dependentsIn_add_pending_le hmem rows
      have henter := pending_congr (Spread.mem_entered_enter (b := b) (l := l) s name) rows
      obtain ⟨j, hbelow, hj⟩ :=
        exists_spreads rows b l (dependentsIn rows name) (s.enter b l name)
      obtain ⟨k, hrest, hk⟩ := exists_spreads rows b l todo
        ((s.enter b l name).explore rows b l (dependentsIn rows name))
      rw [Spread.explore_cons_of_notMem hmem]
      exact ⟨j + k + 1, .enter hmem hbelow hrest, by simp only [List.length_cons]; omega⟩
termination_by todo.length + pending s.entered rows
decreasing_by
  · simp
  · simp only [List.length_cons]
    omega
  · simp only [List.length_cons]
    omega

/-- A run has one outcome. -/
theorem unique {j k : Nat} {todo : List String} {s t u : Spread}
    (ht : Spreads rows b l j todo s t) (hu : Spreads rows b l k todo s u) : j = k ∧ t = u := by
  induction ht generalizing k u with
  | done s =>
    cases hu
    exact ⟨rfl, rfl⟩
  | skip hmem _ ih =>
    cases hu with
    | skip _ hu =>
      obtain ⟨rfl, rfl⟩ := ih hu
      exact ⟨rfl, rfl⟩
    | enter hnotMem => exact absurd hmem hnotMem
  | enter hnotMem _ _ ihBelow ihRest =>
    cases hu with
    | skip hmem => exact absurd hmem hnotMem
    | enter _ hbelow hrest =>
      obtain ⟨rfl, rfl⟩ := ihBelow hbelow
      obtain ⟨rfl, rfl⟩ := ihRest hrest
      exact ⟨rfl, rfl⟩

end Spreads

/-! ### Names that are not recognized -/

/-- Whether a diagnostic says that a name is not recognized. -/
def Diagnostic.isUnknownNotice (d : Diagnostic) : Bool := d.code == "C0007" || d.code == "W0102"

namespace Activation

variable {a : Activation} {n : String} {b : Behavior} {l : Location}

theorem isUnknownNotice_unsupported : (unsupported n b l).isUnknownNotice = true := by
  unfold unsupported
  split <;> rfl

/-- A name has a notice of its being unknown if no entry bears it. -/
theorem unknownNotices_remark :
    (a.remark b l n).filter Diagnostic.isUnknownNotice =
      if !a.isRecognized n then [unsupported n b l] else [] := by
  unfold remark
  split
  · rw [List.filter_cons_of_pos isUnknownNotice_unsupported, List.filter_nil]
  · split <;> rfl

/-- Each name that is not recognized is reported once as such. -/
theorem unknownNotices_flatMap_remark (ns : List String) :
    (ns.flatMap (a.remark b l)).filter Diagnostic.isUnknownNotice =
      (ns.filter fun n => !a.isRecognized n).map fun n => unsupported n b l := by
  rw [List.filter_flatMap, ← flatMap_ite]
  exact List.flatMap_congr fun n _ => unknownNotices_remark

end Activation

/-! ### What is reached -/

namespace Implication

variable {rows : List Implication} {name : String}

theorem pending_nil (rows : List Implication) :
    pending [] rows = (rows.flatMap Implication.dependents).length := by
  induction rows with
  | nil => rfl
  | cons row rest ih =>
    rw [List.flatMap_cons, List.length_append, ← ih]
    rfl

/-- A name that stands nowhere in the table is not brought along by another. -/
theorem notMem_closure {n : String} (hname : name ≠ n) (hrows : ∀ row ∈ rows, n ∉ row.dependents) :
    n ∉ closure rows name := by
  intro hmem
  rcases Relation.ReflTransGen.cases_tail (mem_closure_iff.mp hmem) with h | ⟨m, -, hl⟩
  · exact hname h.symm
  · obtain ⟨row, hrow, -, hn⟩ := exists_row_of_leads hl
    exact hrows row hrow hn

/-- The wildcard depends on nothing. -/
theorem wildcard_notMem_dependents :
    ∀ row ∈ implications, Catalog.wildcard ∉ row.dependents := fun row hrow hmem =>
  Catalog.wildcard_notMem_names ((recognized_of_mem_implications row hrow).2 _ hmem)

end Implication

/-- **A behavior spreads to what can be reached.** Take any table of implications, any activation,
any behavior and any name but the wildcard, which is no dependent in the table either.

* The recursion comes to an end, after it has looked at no more names than the table has dependents
  and the one it starts with. It has one outcome, that of `propagate`.
* The names are entered depth first, each of them once, and they are those that can be reached.
* The entries of these have the behavior, and every other entry is as it was.
* What is said follows from the state before, name by name; of each name that was entered and is not
  recognized one report says so.

A directive with one of the keywords is such a run through the table of this library. -/
theorem Spreads.spreads_reachable {rows : List Implication} {name : String}
    (hname : name ≠ Catalog.wildcard) (hrows : ∀ row ∈ rows, Catalog.wildcard ∉ row.dependents)
    (a : Activation) (b : Behavior) (l : Location) :
    (∃ k t, (∀ j u, Spreads rows b l j [name] { activation := a } u ↔ j = k ∧ u = t) ∧
      k ≤ 1 + (rows.flatMap Implication.dependents).length ∧
      a.propagate rows name b l = (t.activation, t.reports) ∧
      DepthFirst rows [] [name] t.entered ∧ t.entered.Nodup ∧
      (∀ n, n ∈ t.entered ↔ Relation.ReflTransGen (Leads rows) name n) ∧
      t.activation.entries = a.entries.map (fun e =>
        if Relation.ReflTransGen (Leads rows) name e.1 then (e.1, b) else e) ∧
      t.reports = t.entered.flatMap (a.remark b l) ∧
      t.reports.filter Diagnostic.isUnknownNotice =
        (t.entered.filter fun n => !a.isRecognized n).map fun n =>
          Activation.unsupported n b l) ∧
    (∀ row ∈ implications, Catalog.wildcard ∉ row.dependents) ∧
    ∀ d : Directive, Behavior.ofKeyword? d.keyword = some b →
      a.obey d = a.propagate implications d.name b d.location := by
  have hwild : Catalog.wildcard ∉ closure rows name := Implication.notMem_closure hname hrows
  have hnodup := Implication.nodup_closure rows name
  have hreports := Activation.reports_assignEach (a := a) (b := b) (l := l) hwild hnodup
  obtain ⟨k, hrun, hk⟩ := Spreads.exists_spreads rows b l [name] { activation := a }
  rw [Spread.explore_singleton] at hrun hk
  refine ⟨⟨k, _, fun j u => ⟨fun hu => hu.unique hrun, ?_⟩, ?_, rfl,
    Implication.depthFirst_iff.mpr rfl, hnodup, fun n => Implication.mem_closure_iff, ?_, hreports,
    ?_⟩, Implication.wildcard_notMem_dependents, fun d hd => Activation.obey_of_known hd⟩
  · rintro ⟨rfl, rfl⟩
    exact hrun
  · rw [Implication.pending_nil, List.length_singleton] at hk
    exact Nat.le_trans (Nat.le_add_right k _) hk
  · simp only [← Implication.mem_closure_iff]
    exact Activation.entries_assignEach hwild
  · exact hreports ▸ Activation.unknownNotices_flatMap_remark _

/-- A table with a loop, a name that is not recognized, and a second row for it that does not
count. -/
theorem Spreads.spreads_reachable_loop :
    let rows : List Implication := [
      ⟨"GL_EXT_geometry_shader",
        ["GL_EXT_geometry_shader", "GL_X", "GL_EXT_shader_io_blocks", "GL_X"]⟩,
      ⟨"GL_X", ["GL_EXT_gpu_shader5", "GL_EXT_geometry_shader"]⟩,
      ⟨"GL_X", ["GL_EXT_texture_buffer"]⟩]
    "GL_EXT_geometry_shader" ≠ Catalog.wildcard ∧
    (∀ row ∈ rows, Catalog.wildcard ∉ row.dependents) ∧
    ∃ k t, k ≤ 8 ∧
      Spreads rows .warn ⟨"a.geom", 1, 1⟩ k ["GL_EXT_geometry_shader"] { activation := .initial } t ∧
      t.entered = ["GL_EXT_geometry_shader", "GL_X", "GL_EXT_gpu_shader5",
        "GL_EXT_shader_io_blocks"] ∧
      t.reports.filter Diagnostic.isUnknownNotice =
        [Activation.unsupported "GL_X" .warn ⟨"a.geom", 1, 1⟩] := by
  intro rows
  have hname : "GL_EXT_geometry_shader" ≠ Catalog.wildcard := by decide
  have hrows : ∀ row ∈ rows, Catalog.wildcard ∉ row.dependents := by decide
  obtain ⟨⟨k, t, hrun, hk, -, horder, -, -, -, -, hunknown⟩, -⟩ :=
    spreads_reachable hname hrows .initial .warn ⟨"a.geom", 1, 1⟩
  have hentered : t.entered = ["GL_EXT_geometry_shader", "GL_X", "GL_EXT_gpu_shader5",
      "GL_EXT_shader_io_blocks"] :=
    (Implication.depthFirst_iff.mp horder).trans (by decide +kernel)
  refine ⟨hname, hrows, k, t, hk, (hrun k t).mpr ⟨rfl, rfl⟩, hentered, ?_⟩
  rw [hunknown, hentered]
  have hrecognized : (["GL_EXT_geometry_shader", "GL_X", "GL_EXT_gpu_shader5",
      "GL_EXT_shader_io_blocks"].filter fun n => !Activation.initial.isRecognized n) = ["GL_X"] := by
    decide +kernel
  rw [hrecognized]
  rfl

end GlslCompliance
