import GlslCompliance.Proofs.Command.Origin
import GlslCompliance.Proofs.Unit.RoundTrip

/-!
# Flags and files agree

What a command line says about a unit, on top of a description, can be said by a description alone.

* `UnitArguments.Merged` is that description, field by field: settings replace, a switch adds to one
  that is set already, requests are appended; one setting counts for both Vulkan targets.
* `Query.onFile` is the command line that says nothing but where a description is.
* `run_eq_run_of_merged`: the two command lines have the same outcome. It needs that a description
  is read back from its text, `UnitDescription.ofText_render`.
* A merged description can be merged again. Nothing changes then, except that requests are carried
  out once more: `UnitArguments.merge_merge`.
-/

namespace GlslCompliance.Command

/-! ### The merged description -/

attribute [ext] Targets MessageOptions Context UnitDescription

namespace UnitArguments

/-- `m` is what the arguments make of the description `c`. -/
structure Merged (u : UnitArguments) (c m : UnitDescription) : Prop where
  profile : m.context.profile = u.profile.getD c.context.profile
  version : m.context.version = u.version.getD c.context.version
  stage : m.context.stage = u.stage.getD c.context.stage
  spv : m.context.targets.spv = u.spv.getD c.context.targets.spv
  openGl : m.context.targets.openGl = u.openGl.getD c.context.targets.openGl
  vulkan : m.context.targets.vulkan = u.vulkan.getD c.context.targets.vulkan
  vulkanGlsl : m.context.targets.vulkanGlsl = u.vulkan.getD c.context.targets.vulkanGlsl
  forwardCompatible :
    m.context.forwardCompatible = (c.context.forwardCompatible || u.forwardCompatible)
  relaxedErrors :
    m.context.messages.relaxedErrors = (c.context.messages.relaxedErrors || u.relaxedErrors)
  suppressWarnings :
    m.context.messages.suppressWarnings =
      (c.context.messages.suppressWarnings || u.suppressWarnings)
  requests : m.requests = c.requests ++ u.requests

variable {u : UnitArguments} {c m : UnitDescription}

/-- The merged description is the one that is said to come of it. -/
theorem merged_iff : u.Merged c m ↔ m = u.merge c := by
  constructor
  · intro h
    have htargets : m.context.targets = u.mergeTargets c.context.targets :=
      Targets.ext h.spv h.vulkanGlsl h.vulkan h.openGl
    have hmessages : m.context.messages = (u.mergeContext c.context).messages :=
      MessageOptions.ext h.relaxedErrors h.suppressWarnings
    have hcontext : m.context = u.mergeContext c.context :=
      Context.ext h.profile h.version h.stage h.forwardCompatible htargets hmessages
    exact UnitDescription.ext hcontext h.requests
  · rintro rfl
    exact ⟨rfl, rfl, rfl, rfl, rfl, rfl, rfl, rfl, rfl, rfl, rfl⟩

/-- There is one merged description. -/
theorem merged_merge (u : UnitArguments) (c : UnitDescription) : u.Merged c (u.merge c) :=
  merged_iff.mpr rfl

/-- Arguments that at most say where a description is leave it as it is. -/
theorem merge_of_config (config : Option String) (c : UnitDescription) :
    ({ config } : UnitArguments).merge c = c := by
  refine (merged_iff.mp ?_).symm
  exact ⟨rfl, rfl, rfl, rfl, rfl, rfl, rfl, (Bool.or_false _).symm, (Bool.or_false _).symm,
    (Bool.or_false _).symm, (List.append_nil _).symm⟩

private theorem getD_getD {α : Type} (flag : Option α) (a : α) :
    flag.getD (flag.getD a) = flag.getD a := by
  cases flag <;> rfl

/-- To merge twice changes the context no more than to merge once, but repeats the requests. -/
theorem merge_merge (u : UnitArguments) (c : UnitDescription) :
    u.merge (u.merge c) =
      { context := (u.merge c).context, requests := (u.merge c).requests ++ u.requests } := by
  refine (merged_iff.mp ?_).symm
  exact ⟨(getD_getD _ _).symm, (getD_getD _ _).symm, (getD_getD _ _).symm, (getD_getD _ _).symm,
    (getD_getD _ _).symm, (getD_getD _ _).symm, (getD_getD _ _).symm,
    (Bool.or_self_right _ _).symm, (Bool.or_self_right _ _).symm, (Bool.or_self_right _ _).symm,
    rfl⟩

/-- To merge twice is to merge once exactly where no extensions are requested. -/
theorem merge_merge_eq_iff (u : UnitArguments) (c : UnitDescription) :
    u.merge (u.merge c) = u.merge c ↔ u.requests = [] := by
  rw [merge_merge, UnitDescription.ext_iff, and_iff_right rfl]
  exact List.append_right_eq_self

end UnitArguments

/-! ### Command lines that only name a file -/

/-- The words of a query: a subcommand and its own switch. -/
def Query.words : Query → List String
  | preamble => ["preamble"]
  | extensions activeOnly => "extensions" :: if activeOnly then ["--active"] else []
  | checkUnit asJson => "check-unit" :: if asJson then ["--json"] else []

/-- The command line of a query about the unit that a file describes. -/
def Query.onFile (q : Query) (path : String) : List String := q.words ++ ["--config=" ++ path]

theorem ofString_config (path : String) :
    Argument.ofString ("--config=" ++ path) = .long "config" (some path) := by
  have hread : Argument.ofString ("--config=" ++ path) =
      .long "config" (some (String.ofList path.toList)) := by
    rw [Argument.ofString, String.toList_append]
    rfl
  rw [hread, String.ofList_toList]

theorem give_config {path : String} (hpath : path ≠ "") :
    ({} : UnitArguments).give .config path = .ok { config := some path } := by
  have hgiven : ¬ ({} : UnitArguments).isGiven .config = true := by decide
  rw [UnitArguments.give, if_neg hgiven, if_neg fun h => hpath h.2]
  rfl

/-- The last word of `Query.onFile`, behind any switches. -/
theorem readAll_config (s : Subcommand) (switches : List Switch) {path : String}
    (hpath : path ≠ "") :
    Reading.readAll s { switches } ["--config=" ++ path] =
      Reading.finish { unit := { config := some path }, switches } s := by
  have htake : Reading.takeItem { switches } (.setting .config (some path)) =
      .ok (some { unit := { config := some path }, switches }) := by
    rw [Reading.takeItem, Reading.settle]
    dsimp only [bind, Except.bind]
    rw [Reading.takeSetting, give_config hpath]
    rfl
  have hitem : Item.ofLong s "config" (some path) = .ok (.setting .config (some path)) := rfl
  rw [Reading.readAll, ofString_config]
  dsimp only
  rw [hitem]
  dsimp only [bind, Except.bind]
  rw [htake]
  rfl

/-- A command line may consist of a file alone. -/
theorem parse_onFile (q : Query) {path : String} (hpath : path ≠ "") :
    Invocation.parse (q.onFile path) = .ok (.ask q { config := some path }) := by
  match q with
  | .preamble => exact readAll_config .preamble [] hpath
  | .extensions false => exact readAll_config .extensions [] hpath
  | .extensions true => exact readAll_config .extensions [.active] hpath
  | .checkUnit false => exact readAll_config .checkUnit [] hpath
  | .checkUnit true => exact readAll_config .checkUnit [.json] hpath

/-! ### Outcomes -/

variable {read read' : String → Except ReadFailure String} {args args' : List String} {q : Query}
  {u : UnitArguments} {c m : UnitDescription} {path : String}

/-- A file that a description has been written to is an origin. -/
theorem origin_of_render (hconfig : u.config = some path)
    (hread : read path = .ok c.toJson.render) : u.Origin read c :=
  .file hconfig hread (UnitDescription.ofText_render c)

/-- The settings and switches of a command line, put into the file. -/
theorem run_eq_run_of_origin (h : Invocation.parse args = .ok (.ask q u))
    (horigin : u.Origin read c) (hm : u.Merged c m)
    (h' : Invocation.parse args' = .ok (.ask q { config := some path }))
    (hread : read' path = .ok m.toJson.render) :
    run read args = run read' args' := by
  have hfile : UnitArguments.Origin read' { config := some path } m := origin_of_render rfl hread
  rw [run_of_origin h horigin, run_of_origin h' hfile, UnitArguments.merge_of_config,
    UnitArguments.merged_iff.mp hm]

/-- The settings and switches of a command line that names no file, on top of a file. -/
theorem run_eq_run_of_standalone (h : Invocation.parse args = .ok (.ask q u))
    (hconfig : u.config = none)
    (h' : Invocation.parse args' = .ok (.ask q { u with config := some path }))
    (hread : read' path =
      .ok (UnitDescription.new (u.profile.getD .core) (u.version.getD 450)).toJson.render) :
    run read args = run read' args' := by
  have hfile : UnitArguments.Origin read' { u with config := some path }
      (.new (u.profile.getD .core) (u.version.getD 450)) := origin_of_render rfl hread
  rw [run_of_origin h (.standalone hconfig), run_of_origin h' hfile]
  rfl

/-- **Flags and files agree.** Arguments make one description of another, as `Merged` tells field by
field. Where they start from the description `c`, in a file or not, the outcome is that of the same
query about a file that holds the merged description, with nothing else said about the unit; and
there is such a command line for every query and every path. Where they name no file, the outcome
is also that of the same arguments on top of a file that fixes nothing but profile and version.
A merged description stays as it is if nothing more is said about the unit. If the same arguments
are merged into it again, all that happens is that their requests are appended once more: merging
is idempotent exactly for arguments without requests. -/
theorem run_eq_run_of_merged (u : UnitArguments) :
    (∀ c, ∃! m, u.Merged c m) ∧
    (∀ read args q c m, Invocation.parse args = .ok (.ask q u) → u.Origin read c → u.Merged c m →
      ∀ read' args' path, Invocation.parse args' = .ok (.ask q { config := some path }) →
        read' path = .ok m.toJson.render → run read args = run read' args') ∧
    (∀ (q : Query) (path : String), path ≠ "" →
      Invocation.parse (q.onFile path) = .ok (.ask q { config := some path })) ∧
    (∀ read args q, Invocation.parse args = .ok (.ask q u) → u.config = none →
      ∀ read' args' path, Invocation.parse args' = .ok (.ask q { u with config := some path }) →
        read' path =
          .ok (UnitDescription.new (u.profile.getD .core) (u.version.getD 450)).toJson.render →
        run read args = run read' args') ∧
    ∀ c m, u.Merged c m →
      (∀ config m', UnitArguments.Merged { config } m m' ↔ m' = m) ∧
      (∀ m', u.Merged m m' ↔ m' = { m with requests := m.requests ++ u.requests }) ∧
      (u.Merged m m ↔ u.requests = []) := by
  refine ⟨fun c => ⟨u.merge c, u.merged_merge c, fun m hm => UnitArguments.merged_iff.mp hm⟩,
    ?_, fun q path => parse_onFile q, ?_, ?_⟩
  · intro read args q c m h horigin hm read' args' path h' hread
    exact run_eq_run_of_origin h horigin hm h' hread
  · intro read args q h hconfig read' args' path h' hread
    exact run_eq_run_of_standalone h hconfig h' hread
  · intro c m hm
    obtain rfl := UnitArguments.merged_iff.mp hm
    refine ⟨fun config m' => ?_, fun m' => ?_, ?_⟩
    · rw [UnitArguments.merged_iff, UnitArguments.merge_of_config]
    · rw [UnitArguments.merged_iff, UnitArguments.merge_merge]
    · rw [UnitArguments.merged_iff, eq_comm, UnitArguments.merge_merge_eq_iff]

/-- A revision of Vulkan, a switch and a request on top of a file that has a request itself. -/
theorem run_eq_run_of_merged_vulkan :
    let c : UnitDescription :=
      { context := { profile := .es, version := 310 },
        requests := [⟨"GL_OES_texture_3D", "warn"⟩] }
    let m : UnitDescription :=
      { context :=
          { profile := .es, version := 310, targets := { vulkan := 100, vulkanGlsl := 100 },
            messages := { relaxedErrors := true } },
        requests := [⟨"GL_OES_texture_3D", "warn"⟩, ⟨"GL_ARB_compute_shader", "on"⟩] }
    let holding (d : UnitDescription) (_ : String) : Except ReadFailure String :=
      .ok d.toJson.render
    run (holding c) ["check-unit", "--config", "unit.json", "--vulkan=100", "--relaxed-errors",
        "-e", "GL_ARB_compute_shader:on", "--json"] =
      run (holding m) ["check-unit", "--json", "--config=merged.json"] := by
  intro c m holding
  let u : UnitArguments :=
    { config := some "unit.json", vulkan := some 100, relaxedErrors := true,
      requests := [⟨"GL_ARB_compute_shader", "on"⟩] }
  have horigin : u.Origin (holding c) c := origin_of_render rfl rfl
  have hm : u.Merged c m := ⟨rfl, rfl, rfl, rfl, rfl, rfl, rfl, rfl, rfl, rfl, rfl⟩
  have hagree := (run_eq_run_of_merged u).2.1
  exact hagree (holding c) _ (.checkUnit true) c m rfl horigin hm (holding m) _ "merged.json"
    rfl rfl

/-- With a request, merging is not idempotent: a check then tells of the unknown keyword twice. -/
theorem merge_merge_unknown_keyword :
    let u : UnitArguments :=
      { config := some "unit.json", requests := [⟨"GL_ARB_compute_shader", "on"⟩] }
    let m : UnitDescription := u.merge (.new .core 450)
    let holding (_ : String) : Except ReadFailure String := .ok m.toJson.render
    u.merge m ≠ m ∧
      run holding ["check-unit", "--config", "unit.json", "-e", "GL_ARB_compute_shader:on"] ≠
        run holding ["check-unit", "--config", "unit.json"] := by
  intro u m holding
  have hfile : UnitArguments.Origin holding { config := some "unit.json" } m :=
    origin_of_render rfl rfl
  have hparse : Invocation.parse ["check-unit", "--config", "unit.json"] =
      .ok (.ask (.checkUnit false) { config := some "unit.json" }) := rfl
  have honce : run holding ["check-unit", "--config", "unit.json"] =
      (Query.checkUnit false).answer m.build := by
    rw [run_of_origin hparse hfile, UnitArguments.merge_of_config]
  have htwice : run holding
      ["check-unit", "--config", "unit.json", "-e", "GL_ARB_compute_shader:on"] =
        (Query.checkUnit false).answer (u.merge m).build :=
    run_of_origin rfl (origin_of_render rfl rfl)
  refine ⟨by decide, ?_⟩
  rw [honce, htwice]
  intro hsame
  have hstderr := congrArg Outcome.stderr hsame
  exact absurd hstderr (by decide +kernel)

end GlslCompliance.Command
