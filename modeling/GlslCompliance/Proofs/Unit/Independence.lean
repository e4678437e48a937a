import GlslCompliance.Proofs.Unit.Provenance

/-!
# Logs count right, and checks are independent

A log may be handed around: a unit reports into it, then perhaps another one, diagnostics arrive
from elsewhere, and at times it is emptied. A `Turn` is one step of any of these.

* Whoever reports, the totals of a log are those of its entries, and until the log is emptied
  entries are only put behind those that are there (`isAccounted_turns`, `entries_prefix_turns`).
* Checks may be left out of a run at will. What remains of the run reports what it has reported
  before, and leaves the same activation (`CompilationUnit.log_accounts_and_checks_independent`).
-/

namespace GlslCompliance

/-- One step of a unit that is in some state. -/
structure Turn where
  context : Context
  activation : Activation
  step : Step
  deriving DecidableEq, Repr

namespace Log

variable {log : Log}

/-- The log after a turn. -/
def turn (log : Log) (t : Turn) : Log :=
  (CompilationUnit.step ⟨t.context, t.activation, log⟩ t.step).log

/-- The log after several turns. -/
def turns (log : Log) (ts : List Turn) : Log := ts.foldl turn log

/-- **One turn.** -/
theorem isCounted_turn (h : log.IsCounted) (t : Turn) : (log.turn t).IsCounted := by
  obtain ⟨ctx, a, s⟩ := t
  cases s with
  | clear => exact isCounted_empty
  | _ => exact isCounted_addAll h _

theorem isCounted_turns (h : log.IsCounted) (ts : List Turn) : (log.turns ts).IsCounted := by
  induction ts generalizing log with
  | nil => exact h
  | cons t ts ih => exact ih (isCounted_turn h t)

/-- Whatever happens to a log, its counters tell what it contains. -/
theorem isAccounted_turns (ts : List Turn) : (empty.turns ts).IsAccounted :=
  (isCounted_turns isCounted_empty ts).isAccounted

theorem turn_clear {t : Turn} (h : t.step = .clear) : log.turn t = empty := by
  rw [turn, h]
  rfl

/-- A turn that does not clear the log adds behind the entries there are. -/
theorem entries_prefix_turn {t : Turn} (h : t.step ≠ .clear) :
    log.entries <+: (log.turn t).entries :=
  let u : CompilationUnit := ⟨t.context, t.activation, log⟩
  ⟨u.added t.step, (CompilationUnit.entries_step (u := u) h).symm⟩

/-- **Turns only add to a log**, unless it is emptied. -/
theorem entries_prefix_turns {ts : List Turn} (h : ∀ t ∈ ts, t.step ≠ .clear) :
    log.entries <+: (log.turns ts).entries := by
  induction ts generalizing log with
  | nil => exact List.prefix_rfl
  | cons t ts ih =>
    obtain ⟨ht, hts⟩ := List.forall_mem_cons.mp h
    exact (entries_prefix_turn ht).trans (ih hts)

end Log

namespace CompilationUnit

/-- The steps of a unit are turns, each in the state that the unit is in by then. -/
theorem exists_turns_eq (u : CompilationUnit) (steps : List Step) :
    ∃ ts : List Turn, ts.map Turn.step = steps ∧ (u.run steps).log = u.log.turns ts := by
  induction steps generalizing u with
  | nil => exact ⟨[], rfl, rfl⟩
  | cons s steps ih =>
    obtain ⟨ts, hsteps, hlog⟩ := ih (u.step s)
    exact ⟨⟨u.context, u.activation, s⟩ :: ts, congrArg (s :: ·) hsteps, hlog⟩

/-- A run without its checks leaves a unit that agrees with that of the whole run. -/
theorem agrees_run_filter (u : CompilationUnit) (steps : List Step) :
    (u.run steps).Agrees (u.run (steps.filter fun s => !s.isCheck)) := by
  let marked : List (Step × Bool) := steps.map fun s => (s, !s.isCheck)
  have hwhole : marked.map Prod.fst = steps := by
    rw [List.map_map]
    exact List.map_id _
  have hrest : (marked.filter Prod.snd).map Prod.fst = steps.filter fun s => !s.isCheck := by
    rw [List.filter_map, List.map_map]
    exact List.map_id _
  have hchecks : ∀ p ∈ marked, ¬ p.2 = true → p.1.isCheck := by
    intro p hp hlabel
    obtain ⟨s, -, rfl⟩ := List.mem_map.mp hp
    simpa using hlabel
  have hagrees : (u.run (marked.map Prod.fst)).Agrees
      (u.run ((marked.filter Prod.snd).map Prod.fst)) :=
    (sources_filter id [] (.refl u) marked hchecks).1
  rwa [hwhole, hrest] at hagrees

/-- **Logs count right, and checks are independent.**

* After any turns, the totals and the questions to a log say what its entries say. Turns only add
  at the end, until one empties the log. A message is one of these turns, and so is every step of a
  unit.
* From any run of a unit any checks may be left out, marked by `false`. The activation is the same
  then, and the log lacks the entries that these checks have added, and no other.
* Whatever a unit has checked before, a step adds the same to the log and leaves the same
  activation. -/
theorem log_accounts_and_checks_independent :
    ((∀ ts : List Turn, (Log.empty.turns ts).IsAccounted) ∧
      (∀ (log : Log) (ts : List Turn), (∀ t ∈ ts, t.step ≠ .clear) →
        log.entries <+: (log.turns ts).entries) ∧
      (∀ (log : Log) (t : Turn), t.step = .clear → log.turn t = Log.empty) ∧
      (∀ (log : Log) level code text location ctx a, log.message level code text location =
        log.turn ⟨ctx, a, .message { level, code, message := text, location }⟩) ∧
      ∀ (u : CompilationUnit) (steps : List Step),
        ∃ ts : List Turn, ts.map Turn.step = steps ∧ (u.run steps).log = u.log.turns ts) ∧
    (∀ (ctx : Context) (marked : List (Step × Bool)), (∀ s, (s, false) ∈ marked → s.isCheck) →
      let whole := (fresh ctx).run (marked.map Prod.fst)
      let rest := (fresh ctx).run ((marked.filter Prod.snd).map Prod.fst)
      let sources := (fresh ctx).sources [] marked
      rest.activation = whole.activation ∧
      whole.log.entries = sources.map Prod.snd ∧
      rest.log.entries = (sources.filter Prod.fst).map Prod.snd) ∧
    ∀ (u : CompilationUnit) (before : List Step) (s : Step),
      let whole := u.run before
      let unchecked := u.run (before.filter fun s => !s.isCheck)
      whole.added s = unchecked.added s ∧
      (whole.step s).activation = (unchecked.step s).activation := by
  refine ⟨⟨Log.isAccounted_turns, fun log ts => Log.entries_prefix_turns, fun log t => Log.turn_clear,
    fun _ _ _ _ _ _ _ => rfl, exists_turns_eq⟩, fun ctx marked hmarked => ?_, fun u before s => ?_⟩
  · have hchecks : ∀ p ∈ marked, ¬ p.2 = true → p.1.isCheck := by
      rintro ⟨s, label⟩ hp hlabel
      obtain rfl : label = false := eq_false_of_ne_true hlabel
      exact hmarked s hp
    have hrest := sources_filter id [] (.refl (fresh ctx)) marked hchecks
    have hentries : ∀ marked : List (Step × Bool),
        ((fresh ctx).run (marked.map Prod.fst)).log.entries =
          ((fresh ctx).sources [] marked).map Prod.snd :=
      fun marked => (map_snd_sources rfl marked).symm
    refine ⟨hrest.1.activation.symm, hentries marked, ?_⟩
    rw [hentries]
    exact congrArg (List.map Prod.snd) hrest.2
  · have hagrees := agrees_run_filter u before
    exact ⟨hagrees.added s, (hagrees.step s).activation⟩

end CompilationUnit

end GlslCompliance
