import GlslCompliance.Proofs.Command.Listing
import GlslCompliance.Proofs.Command.Merging
import GlslCompliance.Proofs.Diagnostic.Recovery
import GlslCompliance.Proofs.Unit.Building

/-!
# All queries describe the same unit

What the queries about one unit write is related, although each of them writes it in its own way:

* the report that tools read and the reports for people tell the same diagnostics in the same order,
  and the totals that end the reports for people are numbers of objects in the other one
  (`ReportsAgree`);
* the two listings and the line of requested extensions tell the same of every extension
  (`ListingsAgree`).

The first rests on the totals of a log, which are right after every run, and the second on the
consistency of the activation.
-/

namespace GlslCompliance.Command

open Json (Node valueOf)

/-- The number of objects of a report whose level is a given word. -/
def countLevel (level : String) (objects : List (List (String × Node))) : Nat :=
  objects.countP fun ms => valueOf Node.text? ms "level" == some level

theorem countLevel_objects (log : Log) (l : Level) :
    countLevel l.name log.objects = (log.atLevel l).length := by
  have hlevel : ∀ d : Diagnostic,
      (valueOf Node.text? d.members "level" == some l.name) = (d.level == l) := by
    intro d
    have hvalue : valueOf Node.text? d.members "level" = some d.level.name := rfl
    rw [hvalue]
    cases d.level <;> cases l <;> rfl
  rw [countLevel, Log.objects, List.countP_map, Log.atLevel, ← List.countP_eq_length_filter]
  exact congrArg (fun p => log.entries.countP p) (funext hlevel)

/-- The outcomes of the queries report the same diagnostics. -/
structure ReportsAgree (out : Query → Outcome) (objects : List (List (String × Node)))
    (ds : List Diagnostic) : Prop where
  /-- The report for tools is the text of one document only, which holds some objects. -/
  json : ∃ text, (out (.checkUnit true)).stdout = text ++ "\n" ∧
    ∀ v : Node, v.IsWritten text.toList ↔
      v = .record [("diagnostics", .list (objects.map .record))]
  /-- The objects tell the diagnostics, one each. -/
  told : List.Forall₂ Diagnostic.IsTold objects ds
  /-- Nothing else is written with it. -/
  quiet : (out (.checkUnit true)).stderr = ""
  /-- The report for people is the texts of the diagnostics and then the totals, as many errors and
  warnings as there are such objects. -/
  stderr : ∀ q, q ≠ .checkUnit true →
    let errors := countLevel "error" objects
    let warnings := countLevel "warning" objects
    (out q).stderr = String.join (ds.map fun d => d.render false ++ "\n") ++
      ((if errors = 0 then "" else "\n" ++ Log.renderTotal .error errors) ++
        if warnings = 0 then "" else Log.renderTotal .warning warnings)

/-- The forms of a report tell of the same diagnostics. -/
theorem reportsAgree_answer (c : UnitDescription) :
    ReportsAgree (fun q => q.answer c.build) c.build.log.objects c.build.log.entries where
  json := ⟨c.build.log.toJson.render, rfl, c.build.log.isWritten_toJson_iff_eq_objects⟩
  told := c.build.log.forall₂_isTold_objects
  quiet := rfl
  stderr q hq := by
    have hstderr : (q.answer c.build).stderr = c.build.log.render := by
      match q with
      | .preamble | .extensions _ | .checkUnit false => rfl
      | .checkUnit true => exact absurd rfl hq
    -- What is printed are the running totals, so they have to be right.
    have herrors := countLevel_objects c.build.log .error
    have hwarnings := countLevel_objects c.build.log .warning
    rw [← c.isCounted_build.errors] at herrors
    rw [← c.isCounted_build.warnings] at hwarnings
    dsimp only [Level.name] at herrors hwarnings
    simp only [hstderr, herrors, hwarnings, Log.render, Log.renderTotals]

/-- The outcomes of the queries tell the same of every extension. -/
structure ListingsAgree (out : Query → Outcome) (a : Activation) : Prop where
  /-- A listing is a text of whole lines. -/
  whole : Text.unlines (Text.lines (out (.extensions false)).stdout) =
    (out (.extensions false)).stdout
  /-- Name and behavior are read back from every line. -/
  read : (Text.lines (out (.extensions false)).stdout).mapM readLine? = some a.entries
  /-- There is one line for each recognized extension, in the order of the catalog. -/
  names : a.entries.map Prod.fst = Catalog.names
  /-- The listing of the active ones has just the lines that tell of an active one. -/
  active : (out (.extensions true)).stdout =
    Text.unlines ((Text.lines (out (.extensions false)).stdout).filter fun line =>
      (readLine? line).any fun e => [.enabled, .required, .warn].contains e.2)
  /-- What is enabled or required is among the requested extensions of a check. -/
  requested : ∀ n b, (n, b) ∈ a.entries → b = .enabled ∨ b = .required →
    n ∈ requestedIn (out (.checkUnit false)).stdout

/-- What holds of the names of the catalog holds of the entries. -/
theorem isPlain_of_mem_entries {a : Activation} (h : a.IsListed) :
    ∀ e ∈ a.entries, Catalog.IsPlain e.1 := by
  intro e he
  refine Catalog.isPlain_of_mem_names e.1 ?_
  rw [← h]
  exact List.mem_map_of_mem he

/-- The lines of a listing are the entries. -/
theorem lines_listing {a : Activation} (h : a.IsListed) :
    Text.lines (listing a false) = a.entries.map entryText := by
  rw [listing_eq_unlines]
  refine Text.lines_unlines fun l hl => ?_
  obtain ⟨e, he, rfl⟩ := List.mem_map.mp hl
  exact notMem_entryText (isPlain_of_mem_entries h e he)

/-- The lines of the active extensions are told from the others by what is read in them. -/
theorem filter_lines_listing {a : Activation} (h : a.IsListed) :
    (Text.lines (listing a false)).filter (fun line =>
      (readLine? line).any fun e => [.enabled, .required, .warn].contains e.2) =
        a.turnedOn.map entryText := by
  rw [lines_listing h, List.filter_map, Activation.turnedOn]
  refine congrArg _ (List.filter_congr fun e he => ?_)
  rw [Function.comp_apply, readLine?_entryText (isPlain_of_mem_entries h e he), Option.any_some]
  cases e.2 <;> rfl

/-- The forms of a listing tell of the same extensions. -/
theorem listingsAgree_answer (u : CompilationUnit) (h : u.activation.Consistent) :
    ListingsAgree (fun q => q.answer u) u.activation where
  whole := by
    rw [Query.answer, lines_listing h.listed, listing_eq_unlines]
    rfl
  read := by
    rw [Query.answer, lines_listing h.listed]
    exact Json.mapM_map_eq_some fun e he =>
      readLine?_entryText (isPlain_of_mem_entries h.listed e he)
  names := h.listed
  active := by
    rw [Query.answer, Query.answer, filter_lines_listing h.listed, listing_eq_unlines]
    rfl
  requested n b he hb := by
    have hnames : ∀ n ∈ u.activation.requested, Catalog.IsPlain n := fun n hn =>
      Catalog.isPlain_of_mem_names n (h.recognized_of_requested n hn)
    rw [Query.answer, requestedIn_requestedLine hnames]
    refine h.requested_of_on n ?_
    rw [Activation.get_of_mem_entries h.listed he]
    rcases hb with rfl | rfl <;> rfl

/-! ### Command lines -/

variable {read : String → Except ReadFailure String} {u : UnitArguments} {c : UnitDescription}

/-- **All queries describe the same unit.** Take any arguments whose description can be loaded, and
let `out` be the outcomes of the queries about them, which are those of all command lines that have
these arguments. All of them are about one unit. The reports on it agree: they tell the same
diagnostics in the same order, and the totals are right. The listings agree: they tell the name and
the behavior of each extension, and which of them are active, and what is enabled or required has
been requested. -/
theorem queries_describe_one_unit (horigin : u.Origin read c) :
    let out (q : Query) : Outcome := q.execute u read
    let unit := (u.merge c).build
    (∀ args q, Invocation.parse args = .ok (.ask q u) → run read args = out q) ∧
    (∃ objects, ReportsAgree out objects unit.log.entries) ∧
    ListingsAgree out unit.activation := by
  intro out unit
  have hout : out = fun q => q.answer unit := funext (Query.execute_of_origin horigin)
  rw [hout]
  refine ⟨fun args q h => run_of_origin h horigin, ⟨unit.log.objects, ?_⟩, ?_⟩
  · exact reportsAgree_answer (u.merge c)
  · exact listingsAgree_answer unit (u.merge c).consistent_build

/-- A file with a request for an extension that is not known: the preamble and the listing of active
extensions come with the same report. -/
theorem queries_describe_one_unit_unknown_extension :
    let c : UnitDescription :=
      { context := { profile := .es, version := 300 }, requests := [⟨"GL_FOO_bar", "warn"⟩] }
    let there (_ : String) : Except ReadFailure String := .ok c.toJson.render
    (run there (Query.preamble.onFile "unit.json")).stderr =
      (run there ((Query.extensions true).onFile "unit.json")).stderr := by
  intro c there
  have horigin : UnitArguments.Origin there { config := some "unit.json" } c :=
    origin_of_render rfl rfl
  have hagree := queries_describe_one_unit horigin
  -- The outcomes stay behind the name `out`: none of them has to be computed.
  extract_lets out unit at hagree
  obtain ⟨hrun, ⟨objects, hreports⟩, -⟩ := hagree
  rw [hrun _ _ (parse_onFile .preamble (by decide)),
    hrun _ _ (parse_onFile (.extensions true) (by decide)),
    hreports.stderr .preamble (by decide), hreports.stderr (.extensions true) (by decide)]

end GlslCompliance.Command
