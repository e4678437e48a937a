import GlslCompliance.Proofs.Diagnostic.Conformance
import GlslCompliance.Proofs.Requirement.Rules
import GlslCompliance.Proofs.Unit.Building
import GlslCompliance.Proofs.Unit.Provenance

/-!
# What is reported, and where

Every diagnostic that this library issues by itself follows a rule, stands at the place of the event
that has given rise to it, and has a help or notes only under a rule that provides for them:

* a change is reported in one of four wordings, and each of them is of this form
  (`Activation.IsWording.isIssued`);
* so is every finding of a check (`Check.IsFinding.isIssued`), and the checks of a numeric type
  stand where the type is used;
* by the rules, the first letter of a code tells the level (`Diagnostic.IsIssued.isClassified`).

`CompilationUnit.entries_classified_and_placed` says this of every run of a unit, and with it that
the report of the run has the form that is published.
-/

namespace GlslCompliance

/-! ### Classes of diagnostics -/

namespace Diagnostic

/-- A diagnostic of the library about something at a place. -/
structure IsIssued (l : Location) (d : Diagnostic) : Prop where
  follows : ∃ r, d.Follows r
  location : d.location = l
  help : d.help ≠ none → d.Follows .unsupportedExtension ∨ d.Follows .unsupportedExtensionNotice
  notes : d.notes ≠ [] → d.Follows .extensionInUse

/-- A diagnostic whose code is in use, whose level is that of its code, and which has a help or notes
only where its code provides for them. -/
structure IsClassified (d : Diagnostic) : Prop where
  code : ∃ r : Rule, d.code = r.code
  error : d.level = .error ↔ d.code.toList.head? = some 'C' ∨ d.code.toList.head? = some 'P'
  warning : d.level = .warning ↔ d.code.toList.head? = some 'W'
  info : d.level = .info ↔ d.code.toList.head? = some 'I'
  help : d.help ≠ none → d.code = "C0007" ∨ d.code = "W0102"
  notes : d.notes ≠ [] → d.code = "W0104"

variable {l : Location} {d : Diagnostic}

/-- The first letter of a code tells the level. -/
theorem level_iff_letter (r : Rule) :
    (r.level = .error ↔ r.code.toList.head? = some 'C' ∨ r.code.toList.head? = some 'P') ∧
    (r.level = .warning ↔ r.code.toList.head? = some 'W') ∧
    (r.level = .info ↔ r.code.toList.head? = some 'I') := by
  cases r <;> decide

/-- What follows a rule has its level and its letter. -/
theorem IsIssued.isClassified (h : IsIssued l d) : d.IsClassified := by
  obtain ⟨r, hlevel, hcode⟩ := h.follows
  obtain ⟨herror, hwarning, hinfo⟩ := level_iff_letter r
  rw [← hlevel, ← hcode] at herror hwarning hinfo
  exact
    { code := ⟨r, hcode⟩
      error := herror
      warning := hwarning
      info := hinfo
      help := fun hhelp => (h.help hhelp).imp Follows.code Follows.code
      notes := fun hnotes => (h.notes hnotes).code }

theorem IsIssued.hasCodeForm (h : IsIssued l d) : hasCodeForm d.code = true := by
  obtain ⟨r, hr⟩ := h.follows
  exact hr.code ▸ r.hasCodeForm_code

theorem isIssued_report (r : Rule) (message : String) (l : Location) :
    IsIssued l (r.report message l) :=
  ⟨⟨r, r.follows_report message l⟩, rfl, fun h => absurd rfl h, fun h => absurd rfl h⟩

end Diagnostic

open Diagnostic (IsIssued)

/-- The report on an unknown name may have a help. -/
theorem Activation.isIssued_unsupported (n : String) (b : Behavior) (l : Location) :
    IsIssued l (unsupported n b l) where
  follows := (follows_unsupported n b l).elim (fun h => ⟨_, h⟩) fun h => ⟨_, h⟩
  location := rfl
  help _ := follows_unsupported n b l
  notes h := absurd rfl h

/-- What is said of a change is issued at the place of the change. -/
theorem Activation.IsWording.isIssued {l : Location} {d : Diagnostic} (h : IsWording l d) :
    IsIssued l d := by
  cases h with
  | keywordRefused | wildcardRefused | partiallySupported => exact Diagnostic.isIssued_report _ _ l
  | unsupported n b => exact isIssued_unsupported n b l

/-- What a check reports is issued at the place of the check. -/
theorem Check.IsFinding.isIssued {c : Check} {d : Diagnostic} (h : c.IsFinding d) :
    IsIssued c.location d where
  follows := h.follows.imp fun _ hr => hr.2
  location := h.location
  help hhelp := absurd h.help hhelp
  notes := h.noted

/-! ### Events -/

/-- The checks of a numeric type stand where the type is used. -/
theorem NumericUse.location_of_mem_checks {n : NumericUse} {c : Check} (h : c ∈ n.checks) :
    c.location = n.location := by
  unfold checks typeChecks at h
  split at h
  · exact nomatch h
  · have hsized : ∀ version, ∀ c ∈ (sizedFrom version).map n.check, c.location = n.location := by
      intro version c hc
      obtain ⟨r, -, rfl⟩ := List.mem_map.mp hc
      rfl
    split at h
    · rcases List.mem_pair.mp h with rfl | rfl <;> rfl
    · exact hsized _ c h
    all_goals
      rcases List.mem_cons.mp h with rfl | h
      · rfl
      · exact hsized _ c h

/-- The place of an event. -/
def Event.location : Event → Location
  | change w => w.location
  | use (.feature c) => c.location
  | use (.numeric n) => n.location

theorem Use.location_of_mem_checks {x : Use} {c : Check} (h : c ∈ x.checks) :
    c.location = (Event.use x).location := by
  cases x with
  | feature c' => exact congrArg Check.location (List.mem_singleton.mp h)
  | numeric n => exact NumericUse.location_of_mem_checks h

/-- **One event.** What it reports stands at its place. -/
theorem Event.isIssued_of_mem_report {ctx : Context} {a : Activation} {e : Event} {d : Diagnostic}
    (h : d ∈ e.report ctx a) : IsIssued e.location d := by
  cases e with
  | change w => exact (Activation.isWording_of_mem_write h).isIssued
  | use x =>
    obtain ⟨c, hc, hd⟩ := List.mem_flatMap.mp h
    exact Use.location_of_mem_checks hc ▸ (Check.isFinding_of_mem_report hd).isIssued

/-! ### Runs -/

namespace CompilationUnit

theorem added_step (u : CompilationUnit) (e : Event) :
    u.added e.step = e.report u.context u.activation := by
  rw [added, step_step, entries_report, List.drop_left]

/-- The entries that some events have added to the log of a new unit, each with its event. -/
def eventSources (ctx : Context) (es : List Event) : List (Event × Diagnostic) :=
  (fresh ctx).sources [] (es.map fun e => (e.step, e))

/-- Without their sources, the diagnostics of a run are those of its log. -/
theorem map_snd_eventSources (ctx : Context) (es : List Event) :
    (eventSources ctx es).map Prod.snd = ((fresh ctx).follow es).log.entries := by
  rw [eventSources, map_snd_sources rfl, List.map_map]
  rfl

/-- Each entry comes of one of the events, and stands at its place. -/
theorem isIssued_of_mem_eventSources {ctx : Context} {es : List Event} :
    ∀ p ∈ eventSources ctx es, p.1 ∈ es ∧ IsIssued p.1.location p.2 := by
  refine forall_mem_sources (P := fun p => p.1 ∈ es ∧ IsIssued p.1.location p.2)
    (List.forall_mem_nil _) _ ?_
  intro s hs u d hd
  obtain ⟨e, he, rfl⟩ := List.mem_map.mp hs
  rw [added_step] at hd
  exact ⟨he, Event.isIssued_of_mem_report hd⟩

/-- Every diagnostic of a run is issued at the place of one of its events. -/
theorem exists_isIssued_of_mem_follow {ctx : Context} {es : List Event} {d : Diagnostic}
    (hd : d ∈ ((fresh ctx).follow es).log.entries) : ∃ e ∈ es, IsIssued e.location d := by
  rw [← map_snd_eventSources] at hd
  obtain ⟨p, hp, rfl⟩ := List.mem_map.mp hd
  obtain ⟨he, hissued⟩ := isIssued_of_mem_eventSources p hp
  exact ⟨p.1, he, hissued⟩

/-- **Every diagnostic is well classified and well placed.** Take the unit of any description, with
any requests, and let any events happen to it. Its log holds what the requests and then the events
have added, each entry from one of them. Every entry has a code that is in use; its level is that of
the first letter of the code; it has a help only if it is about an unknown extension, and notes only
if it is a warning for an extension in use. It stands at the place of the event that it comes from,
which for requests is the configuration. So the report has the form that is published for it: its
text is a document, and the schema accepts that document. -/
theorem entries_classified_and_placed (c : UnitDescription) (es : List Event) :
    let u := c.build.follow es
    let sources := eventSources c.context (c.requests.map ExtensionRequest.event ++ es)
    sources.map Prod.snd = u.log.entries ∧
    (∀ p ∈ sources, p.2.IsClassified ∧ p.2.location = p.1.location) ∧
    (∀ d ∈ c.build.log.entries, d.location = ⟨"<config>", 0, 0⟩) ∧
    (Json.parse? u.log.toJson.render).any Log.schema.accepts = true := by
  intro u sources
  -- The requests are the first events, so the run is one of a fresh unit.
  have hu : u = (fresh c.context).follow (c.requests.map ExtensionRequest.event ++ es) := by
    rw [follow_append, ← c.build_eq_follow]
  refine ⟨hu ▸ map_snd_eventSources _ _, fun p hp => ?_, fun d hd => ?_, ?_⟩
  · have hissued := (isIssued_of_mem_eventSources p hp).2
    exact ⟨hissued.isClassified, hissued.location⟩
  · rw [c.build_eq_follow] at hd
    obtain ⟨e, he, hissued⟩ := exists_isIssued_of_mem_follow hd
    obtain ⟨r, -, rfl⟩ := List.mem_map.mp he
    exact hissued.location
  · have hforms : ∀ d ∈ u.log.entries, Diagnostic.hasCodeForm d.code = true := by
      rw [hu]
      intro d hd
      obtain ⟨e, -, hissued⟩ := exists_isIssued_of_mem_follow hd
      exact hissued.hasCodeForm
    rw [u.log.parse?_render]
    exact u.log.accepts_toJson_iff.mpr hforms

end CompilationUnit

end GlslCompliance
