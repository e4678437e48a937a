import GlslCompliance.Proofs.Extension.Consistency
import GlslCompliance.Proofs.Extension.Partiality
import GlslCompliance.Proofs.Text.FloatSign
import GlslCompliance.Proofs.Text.Ranking

/-!
# The response to one directive

What a directive has to say, in full, for every name and every keyword. Four cases exclude one
another, in this order: the keyword is unknown; the wildcard would turn every extension on; the name
is not known; none of these. In the first three there is one diagnostic and the activation stays as
it is. In the last there is no error, and what is said is about partial support alone.

Where the name is not known a recognized one may be suggested. `IsSuggestion` says which, without
the search: the first of those closest to the name. Since a run keeps the entries those of the
catalog, it does not matter that the search goes through the entries as they stand
(`suggestion?_eq_search_entries`).
-/

namespace GlslCompliance

namespace Activation

variable {a : Activation} {d : Directive} {b : Behavior} {name : String}

/-! ### Suggestions -/

/-- How close a recognized name is to a name. -/
def closeness (name recognized : String) : Float :=
  Text.jaroWinkler name.toList recognized.toList

/-- What is suggested in place of a name: of the recognized names that are closer than 0.9, the first
of the closest ones. -/
def IsSuggestion (name : String) : Option String → Prop
  | none => ∀ n ∈ Catalog.names, ¬ 0.9 < closeness name n
  | some n => IsFirstBest (closeness name) 0.9 Catalog.names n

/-- The suggestion is the one that is described. -/
theorem suggestion?_eq_iff {s : Option String} : suggestion? name = s ↔ IsSuggestion name s := by
  cases s with
  | none => exact head?_topRanked_eq_none_iff
  | some n => exact head?_topRanked_eq_some_iff fun _ _ => Text.not_isNegativeZero_jaroWinkler _ _

/-- The search among the entries finds what the search in the catalog finds. -/
theorem suggestion?_eq_search_entries (h : a.IsListed) :
    suggestion? name = (similarNames name (a.entries.map Prod.fst) 0.9 1).head? := by
  rw [h]
  rfl

/-! ### The cases -/

/-- A name that is not known is an error exactly where it is required. -/
theorem unsupported_eq (hk : Behavior.ofKeyword? d.keyword = some b) :
    unsupported d.name b d.location =
      { level := if d.keyword = "require" then .error else .warning
        code := if d.keyword = "require" then "C0007" else "W0102"
        message := "'#extension' : extension not supported: " ++ d.name
        location := d.location
        help := (suggestion? d.name).map fun n => "did you mean `" ++ n ++ "`?" } := by
  rcases Behavior.ofKeyword?_eq_some_iff.mp hk with ⟨h, rfl⟩ | ⟨h, rfl⟩ | ⟨h, rfl⟩ | ⟨h, rfl⟩ <;>
    rw [h] <;> rfl

/-- The wildcard is no extension. -/
theorem filter_closure_wildcard (h : a.IsListed) :
    ((Implication.closure implications Catalog.wildcard).filter fun n =>
      a.get n == .disabledPartial) = [] := by
  rw [Implication.closure_of_notMem_names Catalog.wildcard_notMem_names, List.filter_cons,
    get_of_notMem h Catalog.wildcard_notMem_names]
  rfl

/-- A directive that is not refused, for a name that is known, speaks of partial support alone. -/
theorem reports_obey_of_known_name (h : a.IsListed)
    (hk : Behavior.ofKeyword? d.keyword = some b)
    (hname : d.name ∈ Catalog.names ∨ d.name = Catalog.wildcard ∧ b.isRequested = false) :
    (a.obey d).2 = ((Implication.closure implications d.name).filter fun n =>
      a.get n == .disabledPartial).map (partiallySupported · d.location) := by
  rcases hname with hn | ⟨hw, hb⟩
  · exact reports_obey_of_recognized h hk hn
  · rw [obey_wildcard hk hw, assignAll, if_neg (ne_true_of_eq_false hb), hw,
      filter_closure_wildcard h]
    rfl

theorem errors_map_partiallySupported (ns : List String) (l : Location) :
    (ns.map (partiallySupported · l)).filter Diagnostic.isError = [] := by
  refine Diagnostic.filter_isError_eq_nil (r := .partialSupport) (by decide) fun e he => ?_
  obtain ⟨n, -, rfl⟩ := List.mem_map.mp he
  exact Rule.follows_report _ _ _

/-- **The response to one directive**, after any changes, of any name and any keyword:

* with an unknown keyword there is one error about it, whatever the name is;
* else a wildcard that would enable or require is one error;
* else a name that is not known is one error if it is required and one warning if not, with the
  suggestion for that name as help, which is the same whatever has changed the activation;
* else there is no error, and one warning for each extension that the directive brings along and
  that is partially supported at that moment, in the order of the search.

In the first three cases the activation stays as it is. -/
theorem obey_after (ws : List Write) (d : Directive) :
    let a := initial.after ws
    (d.keyword ∉ ["require", "enable", "disable", "warn"] →
      a.obey d = (a, [{
        level := .error
        code := "C0008"
        message := "'#extension' : behavior not supported: " ++ d.keyword
        location := d.location }])) ∧
    (d.keyword ∈ ["enable", "require"] → d.name = "all" →
      a.obey d = (a, [{
        level := .error
        code := "C0009"
        message := "'#extension' : extension 'all' cannot have 'require' or 'enable' behavior"
        location := d.location }])) ∧
    (d.keyword ∈ ["require", "enable", "disable", "warn"] → d.name ≠ "all" →
      d.name ∉ Catalog.names →
      ∃ suggestion, (∀ s, s = suggestion ↔ IsSuggestion d.name s) ∧
        suggestion = (similarNames d.name (a.entries.map Prod.fst) 0.9 1).head? ∧
        a.obey d = (a, [{
          level := if d.keyword = "require" then .error else .warning
          code := if d.keyword = "require" then "C0007" else "W0102"
          message := "'#extension' : extension not supported: " ++ d.name
          location := d.location
          help := suggestion.map fun n => "did you mean `" ++ n ++ "`?" }])) ∧
    (d.keyword ∈ ["require", "enable", "disable", "warn"] →
      d.name ∈ Catalog.names ∨ d.name = "all" ∧ d.keyword ∈ ["warn", "disable"] →
      (a.obey d).2.filter Diagnostic.isError = [] ∧
      ∃ order, Implication.DepthFirst implications [] [d.name] order ∧ order.Nodup ∧
        (∀ n, n ∈ order ↔ Relation.ReflTransGen (Implication.Leads implications) d.name n) ∧
        (a.obey d).2 = (order.filter fun n => a.get n == .disabledPartial).map fun n => {
          level := .warning
          code := "W0103"
          message := "'#extension' : extension is only partially supported: " ++ n
          location := d.location }) := by
  intro a
  have h : a.IsListed := (consistent_after ws).listed
  rcases hk : Behavior.ofKeyword? d.keyword with _ | b
  · have hfour := Behavior.ofKeyword?_eq_none_iff.mp hk
    have hsub : ["enable", "require"] ⊆ ["require", "enable", "disable", "warn"] := by decide
    have htwo : d.keyword ∉ ["enable", "require"] := fun hc => hfour (hsub hc)
    -- All cases but the first are about the four keywords.
    exact ⟨fun _ => obey_of_unknown hk, fun hc => absurd hc htwo, fun hc => absurd hc hfour,
      fun hc => absurd hc hfour⟩
  refine ⟨?_, ?_, ?_, ?_⟩
  · intro hc
    exact absurd (Behavior.mem_keywords_of_ofKeyword? hk) hc
  · intro hon hw
    have hrequested : b.isRequested = true := (Behavior.isRequested_iff hk).mpr hon
    rw [obey_wildcard hk hw, assignAll, if_pos hrequested]
    rfl
  · intro _ hw hn
    refine ⟨suggestion? d.name, fun s => ?_, suggestion?_eq_search_entries h, ?_⟩
    · rw [eq_comm, suggestion?_eq_iff]
    · rw [obey_of_unrecognized h hk hw hn, unsupported_eq hk]
  · intro _ hname
    rw [← Behavior.isRequested_eq_false_iff hk] at hname
    have hreports := reports_obey_of_known_name h hk hname
    refine ⟨?_, Implication.closure implications d.name, Implication.depthFirst_iff.mpr rfl,
      Implication.nodup_closure implications d.name, fun n => Implication.mem_closure_iff, hreports⟩
    rw [hreports]
    exact errors_map_partiallySupported _ _

end Activation

end GlslCompliance
