import GlslCompliance.Proofs.Extension.Partiality
import GlslCompliance.Proofs.Preamble.Disclosure
import GlslCompliance.Proofs.Requirement.PerProfile

/-!
# The shape of a preamble

What holds of the macros of a unit in every context (`preamble_wellFormed`):

* a later version keeps the macros of an earlier one, in their order, and may put others between
  them (`preamble_sublist`). So it is enough to look at the latest version of each profile to see
  that no name is defined twice (`nodup_flags`, `nodup_map_name_preamble`);
* with distinct names, a search for a name finds the one macro of that name
  (`find?_name_eq_some_iff`);
* but for a few names, a macro stands for an extension that directives may name
  (`recognized_of_mem_preamble`). The flags and the catalog are tables of their own, and each flag
  is looked up in the catalog here;
* the lines of the targets come last (`suffix_map_text_preamble`).
-/

namespace GlslCompliance

namespace Preamble

variable {ctx : Context} {v w : UInt32} {name : String} {macros : List Macro} {m : Macro}

/-! ### Later versions -/

/-- A condition that holds more often gives more names. -/
theorem whenever_sublist {p q : Bool} (h : p = true → q = true) (names : List String) :
    (whenever p names).Sublist (whenever q names) := by
  unfold whenever
  by_cases hp : p = true
  · rw [if_pos hp, if_pos (h hp)]
  · rw [if_neg hp]
    exact List.nil_sublist _

/-- A threshold that a version has reached, every later version has reached. -/
theorem decide_le_of_le (h : v ≤ w) (threshold : UInt32) :
    decide (threshold ≤ v) = true → decide (threshold ≤ w) = true := fun hv =>
  decide_eq_true (UInt32.le_trans (of_decide_eq_true hv) h)

theorem desktopFlags_sublist (h : ctx.version ≤ w) :
    (desktopFlags ctx).Sublist (desktopFlags { ctx with version := w }) := by
  have hcore := decide_le_of_le h 150
  have hcompatibility : (decide (150 ≤ ctx.version) && ctx.profile == .compatibility) = true →
      (decide (150 ≤ w) && ctx.profile == .compatibility) = true := by
    intro hv
    obtain ⟨hversion, hprofile⟩ := Bool.and_eq_true_iff.mp hv
    exact Bool.and_eq_true_iff.mpr ⟨hcore hversion, hprofile⟩
  exact ((List.Sublist.refl _).append (whenever_sublist hcore _)).append
    (whenever_sublist hcompatibility _)

theorem commonFlags_sublist (h : ctx.version ≤ w) :
    (commonFlags ctx).Sublist (commonFlags { ctx with version := w }) :=
  ((whenever_sublist (decide_le_of_le h _) _).append
    (whenever_sublist (decide_le_of_le h _) _)).append (.refl _)

/-- The flags of a later version are those of the earlier one and perhaps more. -/
theorem flags_sublist (h : ctx.version ≤ w) :
    (flags ctx).Sublist (flags { ctx with version := w }) := by
  refine List.Sublist.append ?_ (commonFlags_sublist h)
  by_cases hes : ctx.profile.isEs = true
  · rw [if_pos hes, if_pos hes]
  · rw [if_neg hes, if_neg hes]
    exact desktopFlags_sublist h

/-- **Two versions.** What an earlier version defines, a later one defines in the same order. -/
theorem preamble_sublist (h : ctx.version ≤ w) :
    ctx.preamble.Sublist { ctx with version := w : Context }.preamble :=
  (((flags_sublist h).map Macro.flag).append (.refl _)).append (.refl _)

/-! ### Names -/

/-- No later version can be given. -/
def latest : UInt32 := 4294967295

theorem le_latest (v : UInt32) : v ≤ latest :=
  UInt32.le_iff_toNat_le.mpr (Nat.le_of_lt_succ v.toNat_lt)

/-- No flag is defined twice, since even in the latest version none is. -/
theorem nodup_flags (ctx : Context) : (flags ctx).Nodup := by
  -- With the profile and the version given, the flags are a table that can be evaluated.
  have hlatest : ∀ p ∈ Profile.all, (flags { profile := p, version := latest }).Nodup := by
    decide +kernel
  have hflags : (flags { ctx with version := latest }).Nodup :=
    hlatest ctx.profile (Profile.mem_all _)
  exact hflags.sublist (flags_sublist (le_latest ctx.version))

theorem map_name_target_sublist (other : String) (value : UInt32) :
    ((target other value).map Macro.name).Sublist [other] := by
  unfold target
  split
  · exact List.nil_sublist _
  · exact .refl _

/-- The names of a preamble are those of its flags, then at most one for each target. -/
theorem map_name_preamble_sublist (ctx : Context) :
    (ctx.preamble.map Macro.name).Sublist (flags ctx ++ (["VULKAN"] ++ ["GL_SPIRV"])) := by
  have hflags : ((flags ctx).map Macro.flag).map Macro.name = flags ctx := by
    rw [List.map_map]
    exact List.map_id'' (fun _ => rfl) _
  rw [Context.preamble, List.map_append, List.map_append, hflags, List.append_assoc]
  exact (List.Sublist.refl _).append
    ((map_name_target_sublist _ _).append (map_name_target_sublist _ _))

/-- **No name is defined twice.** -/
theorem nodup_map_name_preamble (ctx : Context) : (ctx.preamble.map Macro.name).Nodup := by
  refine List.Nodup.sublist (map_name_preamble_sublist ctx) ?_
  -- No version and no profile has a flag with the name of a target.
  refine List.nodup_append'.mpr ⟨nodup_flags ctx, by decide, ?_⟩
  intro name hflag htarget
  exact target_notMem_knownFlags name htarget (mem_knownFlags_of_mem_flags hflag)

/-- With distinct names, a defined name belongs to one macro. -/
theorem isDefined_iff_existsUnique (h : (macros.map Macro.name).Nodup) :
    isDefined macros name = true ↔ ∃! m, m ∈ macros ∧ m.name = name := by
  rw [isDefined, List.any_eq_true]
  constructor
  · rintro ⟨m, hm, heq⟩
    have hname : m.name = name := beq_iff_eq.mp heq
    refine ⟨m, ⟨hm, hname⟩, fun other hother => ?_⟩
    exact List.inj_on_of_nodup_map h hother.1 hm (hother.2.trans hname.symm)
  · rintro ⟨m, ⟨hm, hname⟩, -⟩
    exact ⟨m, hm, beq_iff_eq.mpr hname⟩

/-- With distinct names, a search finds the one macro of a name. -/
theorem find?_name_eq_some_iff (h : (macros.map Macro.name).Nodup) :
    (macros.find? fun other => other.name == name) = some m ↔ m ∈ macros ∧ m.name = name := by
  constructor
  · intro hfind
    have hname := List.find?_some hfind
    exact ⟨List.mem_of_find?_eq_some hfind, beq_iff_eq.mp hname⟩
  · rintro ⟨hm, rfl⟩
    have hsome : (macros.find? fun other => other.name == m.name).isSome = true :=
      List.find?_isSome.mpr ⟨m, hm, beq_self_eq_true _⟩
    obtain ⟨found, hfind⟩ := Option.isSome_iff_exists.mp hsome
    have hname := List.find?_some hfind
    have hfound : found ∈ macros := List.mem_of_find?_eq_some hfind
    rw [hfind, List.inj_on_of_nodup_map h hfound hm (beq_iff_eq.mp hname)]

/-- With distinct names, the value of a name is that of its macro, wherever the macro stands. -/
theorem valueOf?_eq_some_iff (h : (macros.map Macro.name).Nodup) {value : String} :
    valueOf? macros name = some value ↔ ⟨name, some value⟩ ∈ macros := by
  rw [valueOf?, Option.bind_eq_some_iff]
  constructor
  · rintro ⟨⟨other, _⟩, hfind, rfl⟩
    obtain ⟨hm, rfl⟩ := (find?_name_eq_some_iff h).mp hfind
    exact hm
  · intro hm
    exact ⟨_, (find?_name_eq_some_iff h).mpr ⟨hm, rfl⟩, rfl⟩

/-! ### Extensions -/

/-- **Each flag is looked up in the catalog.** -/
theorem recognized_of_mem_knownFlags :
    ∀ name ∈ knownFlags, name ∉ ["GL_ES", "GL_FRAGMENT_PRECISION_HIGH", "GL_core_profile",
      "GL_compatibility_profile"] → name ∈ Catalog.names := by
  decide +kernel

/-- But for six, the macros of a preamble bear names of extensions. -/
theorem recognized_of_mem_preamble (hm : m ∈ ctx.preamble)
    (hname : m.name ∉ ["GL_ES", "GL_FRAGMENT_PRECISION_HIGH", "GL_core_profile",
      "GL_compatibility_profile", "VULKAN", "GL_SPIRV"]) : m.name ∈ Catalog.names := by
  have hmem : m.name ∈ flags ctx ++ (["VULKAN"] ++ ["GL_SPIRV"]) :=
    (map_name_preamble_sublist ctx).subset (List.mem_map_of_mem hm)
  rcases List.mem_append.mp hmem with hflag | htarget
  · refine recognized_of_mem_knownFlags _ (mem_knownFlags_of_mem_flags hflag) fun hc => hname ?_
    exact List.mem_append_left ["VULKAN", "GL_SPIRV"] hc
  · exact absurd (List.mem_append_right ["GL_ES", "GL_FRAGMENT_PRECISION_HIGH", "GL_core_profile",
      "GL_compatibility_profile"] htarget) hname

end Preamble

/-- A directive for a recognized extension does not say that an extension is unsupported, with any
keyword: what it brings along is recognized as well. -/
theorem Activation.code_of_mem_obey {a : Activation} (h : a.IsListed) {d : Directive}
    (hn : d.name ∈ Catalog.names) : ∀ x ∈ (a.obey d).2, x.code ≠ "C0007" ∧ x.code ≠ "W0102" := by
  rcases hk : Behavior.ofKeyword? d.keyword with _ | b
  · have hrefused : (keywordRefused d.keyword d.location).code = "C0008" := rfl
    rw [obey_of_unknown hk, List.forall_mem_singleton, hrefused]
    decide
  · rw [reports_obey_of_recognized h hk hn, List.forall_mem_map]
    intro n _
    have hpartial : (partiallySupported n d.location).code = "W0103" := rfl
    rw [hpartial]
    decide

namespace Preamble

variable {ctx : Context} {m : Macro}

/-! ### Texts -/

theorem exists_value_of_mem_target {other : String} {value : UInt32} (hm : m ∈ target other value) :
    ∃ text, m.value = some text := by
  unfold target at hm
  split at hm
  · exact nomatch hm
  · obtain rfl := List.mem_singleton.mp hm
    exact ⟨_, rfl⟩

/-- Every macro of a unit has a value, so its line has three words. -/
theorem text_of_mem_preamble (hm : m ∈ ctx.preamble) :
    ∃ value, m.value = some value ∧ m.text = "#define " ++ m.name ++ " " ++ value := by
  have hvalue : ∃ value, m.value = some value := by
    rw [Context.preamble, List.mem_append, List.mem_append] at hm
    rcases hm with (hflag | hvulkan) | hspirv
    · obtain ⟨name, -, rfl⟩ := List.mem_map.mp hflag
      exact ⟨"1", rfl⟩
    · exact exists_value_of_mem_target hvulkan
    · exact exists_value_of_mem_target hspirv
  obtain ⟨value, hvalue⟩ := hvalue
  exact ⟨value, hvalue, by rw [Macro.text, hvalue]⟩

/-- **The last lines.** Two flags stand in front of the targets that are in use. -/
theorem suffix_map_text_preamble (ctx : Context) :
    ["#define GL_GOOGLE_cpp_style_line_directive 1", "#define GL_GOOGLE_include_directive 1"] ++
      (if ctx.targets.vulkanGlsl = 0 then []
        else ["#define VULKAN " ++ toString ctx.targets.vulkanGlsl.toNat]) ++
      (if ctx.targets.openGl = 0 then []
        else ["#define GL_SPIRV " ++ toString ctx.targets.openGl.toNat]) <:+
    ctx.preamble.map Macro.text := by
  have hflags : ["GL_GOOGLE_cpp_style_line_directive", "GL_GOOGLE_include_directive"] <:+
      flags ctx := (List.suffix_append _ _).trans (List.suffix_append _ _)
  have hlines := (hflags.map Macro.flag).map Macro.text
  rw [Context.preamble, List.map_append, List.map_append, map_text_target, map_text_target]
  obtain ⟨front, hfront⟩ := hlines
  refine ⟨front, ?_⟩
  rw [← hfront, List.append_assoc, List.append_assoc, List.append_assoc]
  rfl

/-- **The preamble of a unit is well formed, and it grows with the version.** In every context:
* no name is defined twice, so a name that is defined has one macro, and its value is the value of
  that macro;
* but for six names, every macro has the name of a recognized extension. Whatever happened to the
  extensions before, a directive with such a name does not say that an extension is unsupported;
* the text has a line `#define NAME VALUE` for each macro, which is read back as that macro;
* two flags and then the targets in use are the last lines;
* a later version defines the same macros in the same order, and maybe others between them. -/
theorem preamble_wellFormed (ctx : Context) :
    let macros := ctx.preamble
    ((macros.map Macro.name).Nodup ∧
      (∀ name, isDefined macros name = true ↔ ∃! m, m ∈ macros ∧ m.name = name) ∧
      ∀ name value, valueOf? macros name = some value ↔ ⟨name, some value⟩ ∈ macros) ∧
    (∀ m ∈ macros, m.name ∉ ["GL_ES", "GL_FRAGMENT_PRECISION_HIGH", "GL_core_profile",
        "GL_compatibility_profile", "VULKAN", "GL_SPIRV"] →
      m.name ∈ Catalog.names ∧
      ∀ (ws : List Write) (keyword : String) (location : Location),
        ∀ d ∈ ((Activation.initial.after ws).obey ⟨m.name, keyword, location⟩).2,
          d.code ≠ "C0007" ∧ d.code ≠ "W0102") ∧
    ((∀ m ∈ macros, ∃ value, m.value = some value ∧
        m.text = "#define " ++ m.name ++ " " ++ value) ∧
      render macros = String.join (macros.map fun m => m.text ++ "\n") ∧
      Text.lines (render macros) = macros.map Macro.text ∧
      (Text.lines (render macros)).map Macro.ofLine? = macros.map some) ∧
    ["#define GL_GOOGLE_cpp_style_line_directive 1", "#define GL_GOOGLE_include_directive 1"] ++
        (if ctx.targets.vulkanGlsl = 0 then []
          else ["#define VULKAN " ++ toString ctx.targets.vulkanGlsl.toNat]) ++
        (if ctx.targets.openGl = 0 then []
          else ["#define GL_SPIRV " ++ toString ctx.targets.openGl.toNat]) <:+
      Text.lines (render macros) ∧
    ∀ w, ctx.version ≤ w → macros.Sublist { ctx with version := w : Context }.preamble := by
  intro macros
  have hnodup : (macros.map Macro.name).Nodup := nodup_map_name_preamble ctx
  have hplain : ∀ m ∈ macros, m.IsPlain := isPlain_of_mem_preamble ctx
  have hlines : Text.lines (render macros) = macros.map Macro.text := lines_render hplain
  refine ⟨⟨hnodup, fun _ => isDefined_iff_existsUnique hnodup,
      fun _ _ => valueOf?_eq_some_iff hnodup⟩, ?_,
    ⟨fun _ hm => text_of_mem_preamble hm, ?_, hlines, map_ofLine?_lines_render hplain⟩, ?_,
    fun w hw => preamble_sublist hw⟩
  · intro m hm hname
    have hn : m.name ∈ Catalog.names := recognized_of_mem_preamble hm hname
    refine ⟨hn, fun ws keyword location d hd => ?_⟩
    have hlisted := (Activation.consistent_after ws).listed
    exact Activation.code_of_mem_obey hlisted hn d hd
  · rw [render_eq_unlines, Text.unlines, List.map_map]
    rfl
  · rw [hlines]
    exact suffix_map_text_preamble ctx

end Preamble

end GlslCompliance
