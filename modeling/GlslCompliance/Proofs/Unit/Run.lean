import GlslCompliance.Proofs.Extension.Notices
import GlslCompliance.Unit.Compilation

/-!
# What a run reports

A source acts on its unit in two ways: it changes the activation, and it uses features. A run is
any sequence of these events. What it leaves behind comes apart into two:

* the activation depends on the changes alone (`activation_follow`), so neither the context nor any
  use of a feature has a part in it;
* the log is what was in it before and then what each event reports (`entries_follow`).

To compare two runs of the same events under different contexts it is therefore enough to compare
what one check reports, `IsPartwise.reports`: a relation between lists of diagnostics that can be
put together from parts holds of two runs if it holds of each change with itself and of each check
under the two contexts.
-/

namespace GlslCompliance

/-! ### Lists that are put together from parts -/

/-- A relation that holds of two lists if it holds of their parts. -/
structure IsPartwise {α : Type} (R : List α → List α → Prop) : Prop where
  nil : R [] []
  append : ∀ {xs ys xs' ys'}, R xs ys → R xs' ys' → R (xs ++ xs') (ys ++ ys')

/-- What holds of the parts of two lists holds of the lists. -/
theorem IsPartwise.flatMap {α β : Type} {R : List β → List β → Prop} (hR : IsPartwise R)
    {f g : α → List β} (l : List α) (h : ∀ i ∈ l, R (f i) (g i)) :
    R (l.flatMap f) (l.flatMap g) := by
  induction l with
  | nil => exact hR.nil
  | cons i l ih =>
    obtain ⟨hi, hl⟩ := List.forall_mem_cons.mp h
    rw [List.flatMap_cons, List.flatMap_cons]
    exact hR.append hi (ih hl)

/-! ### Events -/

/-- The use of a feature or of a numeric type. -/
inductive Use where
  | feature (c : Check)
  | numeric (n : NumericUse)
  deriving DecidableEq, Repr

/-- The checks that a use asks for. -/
def Use.checks : Use → List Check
  | feature c => [c]
  | numeric n => n.checks

/-- What a source does to its unit: it changes the activation, or it uses something. -/
inductive Event where
  | change (w : Write)
  | use (x : Use)
  deriving DecidableEq, Repr

namespace Event

/-- The step of a unit that an event is. -/
def step : Event → Step
  | change (.directive d) => .directive d
  | change (.assignment name behavior location) => .assignment name behavior location
  | use (.feature c) => .check c
  | use (.numeric n) => .numeric n

/-- The change that an event is, if it is one. -/
def change? : Event → Option Write
  | change w => some w
  | use _ => none

/-- The activation behind an event. -/
def activation (a : Activation) : Event → Activation
  | change w => (a.write w).1
  | use _ => a

/-- What an event reports. -/
def report (ctx : Context) (a : Activation) : Event → List Diagnostic
  | change w => (a.write w).2
  | use x => Check.reportAll ctx a x.checks

/-- What several events report, one after the other. -/
def reports (ctx : Context) (a : Activation) : List Event → List Diagnostic
  | [] => []
  | e :: es => e.report ctx a ++ reports ctx (e.activation a) es

end Event

/-! ### Runs -/

namespace CompilationUnit

/-- A unit to which nothing has happened yet. -/
def fresh (ctx : Context) : CompilationUnit := { context := ctx }

/-- The unit after some events. -/
def follow (u : CompilationUnit) (es : List Event) : CompilationUnit := u.run (es.map Event.step)

/-- What is added to the log of a unit by some events. -/
def emitted (u : CompilationUnit) (es : List Event) : List Diagnostic :=
  (u.follow es).log.entries.drop u.log.entries.length

variable (u : CompilationUnit)

/-- **One event.** -/
theorem step_step (e : Event) :
    u.step e.step =
      { u with activation := e.activation u.activation }.report
        (e.report u.context u.activation) := by
  cases e with
  | change w => cases w <;> rfl
  | use x => cases x <;> rfl

theorem follow_cons (e : Event) (es : List Event) :
    u.follow (e :: es) = (u.step e.step).follow es := rfl

theorem follow_append (es es' : List Event) : u.follow (es ++ es') = (u.follow es).follow es' := by
  rw [follow, List.map_append, run_append, follow, follow]

/-- **The activation of a run.** It is that of the changes alone. -/
theorem activation_follow (es : List Event) :
    (u.follow es).activation = u.activation.after (es.filterMap Event.change?) := by
  induction es generalizing u with
  | nil => rfl
  | cons e es ih =>
    rw [follow_cons, ih, step_step]
    cases e <;> rfl

/-- **The log of a run.** -/
theorem entries_follow (es : List Event) :
    (u.follow es).log.entries =
      u.log.entries ++ Event.reports u.context u.activation es := by
  induction es generalizing u with
  | nil => exact (List.append_nil _).symm
  | cons e es ih =>
    rw [follow_cons, ih, step_step, Event.reports, ← List.append_assoc]
    exact congrArg (· ++ _) (Log.entries_addAll _ _)

/-- The log of a run from the start is made of the reports of its events. -/
theorem entries_fresh_follow (ctx : Context) (es : List Event) :
    ((fresh ctx).follow es).log.entries = Event.reports ctx .initial es :=
  entries_follow (fresh ctx) es

theorem emitted_eq (es : List Event) :
    u.emitted es = Event.reports u.context u.activation es := by
  rw [emitted, entries_follow, List.drop_left]

/-- Every event keeps the totals of the log right. -/
theorem isCounted_follow (h : u.log.IsCounted) (es : List Event) :
    (u.follow es).log.IsCounted := by
  induction es generalizing u with
  | nil => exact h
  | cons e es ih =>
    rw [follow_cons, step_step]
    exact ih _ (Log.isCounted_addAll h _)

end CompilationUnit

namespace Event

/-- Uses leave the activation alone, so they report what their checks report. -/
theorem reports_map_use (ctx : Context) (a : Activation) (xs : List Use) :
    reports ctx a (xs.map .use) = Check.reportAll ctx a (xs.flatMap Use.checks) := by
  induction xs with
  | nil => rfl
  | cons x xs ih =>
    rw [List.map_cons, reports, List.flatMap_cons, Check.reportAll, List.flatMap_append]
    exact congrArg (_ ++ ·) ih

end Event

/-- **Two runs.** The same events under two contexts report related diagnostics if each check does
and each change is related to itself. -/
theorem IsPartwise.reports {R : List Diagnostic → List Diagnostic → Prop} (hR : IsPartwise R)
    {ctx ctx' : Context} (hchange : ∀ a w, R (Activation.write a w).2 (Activation.write a w).2)
    (hcheck : ∀ a c, R (Check.report ctx a c) (Check.report ctx' a c)) (a : Activation)
    (es : List Event) : R (Event.reports ctx a es) (Event.reports ctx' a es) := by
  -- Before each event the activation is the same in both runs, so one `a` serves for both.
  induction es generalizing a with
  | nil => exact hR.nil
  | cons e es ih =>
    refine hR.append ?_ (ih (e.activation a))
    cases e with
    | change w => exact hchange a w
    | use x => exact hR.flatMap x.checks fun c _ => hcheck a c

end GlslCompliance
