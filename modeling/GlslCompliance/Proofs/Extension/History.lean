import GlslCompliance.Proofs.Extension.Consistency

/-!
# What a run of directives leaves behind

A run of directives on a fresh activation, described by the list of directives alone:

* `get_after_eq_last_covering`: the behavior of an extension is that of the last directive that
  covers it, or its initial one. Directives that cover nothing leave no trace in any lookup.
* `requested_after_eq_eraseDups`: the requested names are the requests of the directives, one
  after the other, each name in the place where it occurred first.
-/

namespace GlslCompliance

namespace Directive

/-- Whether a directive is one that changes no behavior: its keyword is unknown, or its name is
neither recognized nor the wildcard, or it would turn every extension on. -/
def IsIdle (d : Directive) : Prop :=
  d.keyword ∉ ["require", "enable", "disable", "warn"] ∨
    (d.name ∉ Catalog.names ∧ d.name ≠ Catalog.wildcard) ∨
    (d.name = Catalog.wildcard ∧ d.keyword ∈ ["enable", "require"])

theorem not_covers_of_isIdle {d : Directive} (h : d.IsIdle) (e : String) : ¬ d.Covers e := by
  rintro ⟨hk, ⟨hn, -⟩ | ⟨hw, hk'⟩⟩
  · rcases h with h | ⟨h, -⟩ | ⟨h, -⟩
    · exact h hk
    · exact h hn
    · exact Catalog.wildcard_notMem_names (h ▸ hn)
  · rcases h with h | ⟨-, h⟩ | ⟨-, h⟩
    · exact h hk
    · exact h hw
    · simp only [List.mem_cons, List.not_mem_nil, or_false] at h hk'
      rcases h with h | h <;> rcases hk' with hk' | hk' <;> simp [h] at hk'

end Directive

namespace Activation

variable {a : Activation} {e : String}

/-! ### Behaviors -/

/-- From any state on, the last directive that covers an extension decides its behavior. -/
theorem get_after_directives (h : a.IsListed) (he : e ∈ Catalog.names) (ds : List Directive) :
    (a.after (ds.map .directive)).get e =
      ((ds.filter fun d => d.Covers e).getLast?.map Directive.behavior).getD (a.get e) := by
  induction ds generalizing a with
  | nil => rfl
  | cons d ds ih =>
    rw [List.map_cons, after_cons, write, ih (isListed_obey h), get_obey h he]
    by_cases hd : d.Covers e
    · rw [if_pos hd, List.filter_cons, if_pos (decide_eq_true hd), List.getLast?_cons]
      cases (ds.filter fun d => d.Covers e).getLast? <;> rfl
    · rw [if_neg hd, List.filter_cons, if_neg (by simpa using hd)]

/-- **The last directive decides.** After a run of directives a recognized extension has the
behavior of the last directive that covers it, and its initial behavior where none does. Idle
directives may be left out of a run. -/
theorem get_after_eq_last_covering (ds : List Directive) :
    (∀ e ∈ Catalog.names, (initial.after (ds.map .directive)).get e =
      ((ds.filter fun d => d.Covers e).getLast?.map Directive.behavior).getD
        (Catalog.initialBehavior e)) ∧
    ∀ first d rest, ds = first ++ d :: rest → d.IsIdle → ∀ n,
      (initial.after (ds.map .directive)).get n =
        (initial.after ((first ++ rest).map .directive)).get n := by
  have hlast : ∀ ds : List Directive, ∀ e ∈ Catalog.names,
      (initial.after (ds.map .directive)).get e =
        ((ds.filter fun d => d.Covers e).getLast?.map Directive.behavior).getD
          (Catalog.initialBehavior e) := fun ds e he => by
    rw [get_after_directives isListed_initial he, get_initial he]
  refine ⟨hlast ds, ?_⟩
  rintro first d rest rfl hd n
  by_cases hn : n ∈ Catalog.names
  · have hskip : ¬ decide (d.Covers n) = true := by simpa using Directive.not_covers_of_isIdle hd n
    rw [hlast _ n hn, hlast _ n hn, List.filter_append, List.filter_append, List.filter_cons,
      if_neg hskip]
  · rw [get_of_notMem (consistent_after _).listed hn, get_of_notMem (consistent_after _).listed hn]

/-! ### Requests -/

/-- To add a request is to add it behind the others and to drop repetitions. -/
theorem addRequest_eraseDups (n : String) (r : List String) :
    addRequest n r.eraseDups = (r ++ [n]).eraseDups := by
  rw [List.eraseDups_append, addRequest]
  by_cases hn : n ∈ r
  · simp [hn, List.removeAll]
  · simp [hn, List.removeAll, List.eraseDups_cons]

/-- Noting names one by one keeps each where it occurs first. -/
theorem foldl_addRequest_eraseDups (ns r : List String) :
    ns.foldl (fun r n => addRequest n r) r.eraseDups = (r ++ ns).eraseDups := by
  induction ns generalizing r with
  | nil => rw [List.foldl_nil, List.append_nil]
  | cons n ns ih => rw [List.foldl_cons, addRequest_eraseDups, ih, List.append_assoc,
      List.singleton_append]

/-- From any state on, a run notes the requests of its directives. -/
theorem requested_after_directives (h : a.IsListed) {r : List String}
    (hr : a.requested = r.eraseDups) (ds : List Directive) :
    (a.after (ds.map .directive)).requested = (r ++ ds.flatMap Directive.requests).eraseDups := by
  induction ds generalizing a r with
  | nil => rw [List.map_nil, after_nil, List.flatMap_nil, List.append_nil, hr]
  | cons d ds ih =>
    have hstep : (a.obey d).1.requested = (r ++ d.requests).eraseDups := by
      rw [requested_obey h, hr, foldl_addRequest_eraseDups]
    rw [List.map_cons, after_cons, write, ih (isListed_obey h) hstep, List.flatMap_cons,
      List.append_assoc]

/-- **The history of requests.** What a name brings along is listed in the order of the depth-first
search through the implications. After a run of directives the requested names are these lists, for
each directive that enables or requires a recognized name, in the order of the run, without
repetition. So a name keeps its place whatever follows, and only recognized names are noted. -/
theorem requested_after_eq_eraseDups :
    (∀ name order, Implication.DepthFirst implications [] [name] order ↔
      order = Implication.closure implications name) ∧
    ∀ ds : List Directive,
      let requested := (initial.after (ds.map .directive)).requested
      requested = (ds.flatMap fun d =>
        if d.keyword ∈ ["enable", "require"] ∧ d.name ∈ Catalog.names then
          Implication.closure implications d.name
        else []).eraseDups ∧
      requested.Nodup ∧ (∀ n ∈ requested, n ∈ Catalog.names) ∧ Catalog.wildcard ∉ requested ∧
      ∀ more : List Directive,
        requested <+: (initial.after ((ds ++ more).map .directive)).requested := by
  refine ⟨fun name order => Implication.depthFirst_iff, fun ds => ?_⟩
  have hc : (initial.after (ds.map .directive)).Consistent := consistent_after _
  refine ⟨requested_after_directives isListed_initial (r := []) rfl ds, hc.nodup_requested,
    hc.recognized_of_requested, fun hw => ?_, fun more => ?_⟩
  · exact Catalog.wildcard_notMem_names (hc.recognized_of_requested _ hw)
  · rw [List.map_append, after_append]
    exact requested_prefix_after hc _

/-- The geometry shader brings its interface blocks along. They stay noted when they are disabled,
and the tessellation shader, which brings them along as well, does not note them again. -/
example :
    let a := initial.after ([
      ⟨"GL_EXT_geometry_shader", "require", ⟨"a.geom", 1, 1⟩⟩,
      ⟨"GL_EXT_shader_io_blocks", "disable", ⟨"a.geom", 2, 1⟩⟩,
      ⟨"all", "warn", ⟨"a.geom", 3, 1⟩⟩,
      ⟨"GL_EXT_tessellation_shader", "enable", ⟨"a.geom", 4, 1⟩⟩].map .directive)
    a.get "GL_EXT_shader_io_blocks" = .enabled ∧
      a.requested = ["GL_EXT_geometry_shader", "GL_EXT_shader_io_blocks",
        "GL_EXT_tessellation_shader"] := by
  decide +kernel

end Activation

end GlslCompliance
