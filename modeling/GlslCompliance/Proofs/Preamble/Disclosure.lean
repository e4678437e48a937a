import GlslCompliance.Proofs.Preamble.Reading
import GlslCompliance.Unit.Compilation
import Mathlib.Tactic.Tauto

/-!
# What a preamble discloses

The text of a preamble tells just so much of the context of its unit: whether the profile is that of
embedded systems, on which side of some thresholds the version lies, and the numbers of two targets.
`Context.Resembles` lists these facts, and two contexts have the same text if and only if they
resemble each other, `Context.render_preamble_eq_iff`.

* From the facts to the text: every flag stands under one of these conditions
  (`preamble_eq_of_resembles`).
* From the text to the facts: a text is read back, and each fact has a macro that is there just if
  the fact holds (`mem_flags_iff` and the lemmas behind it).
-/

namespace GlslCompliance

/-- Two contexts agree on all that a preamble tells. -/
structure Context.Resembles (ctx ctx' : Context) : Prop where
  isEs : ctx.profile.isEs = ctx'.profile.isEs
  embedded : ctx.profile.isEs = true →
    (300 ≤ ctx.version ↔ 300 ≤ ctx'.version) ∧ (310 ≤ ctx.version ↔ 310 ≤ ctx'.version)
  desktop : ctx.profile.isEs = false →
    (140 ≤ ctx.version ↔ 140 ≤ ctx'.version) ∧ (150 ≤ ctx.version ↔ 150 ≤ ctx'.version) ∧
      (300 ≤ ctx.version ↔ 300 ≤ ctx'.version) ∧
      (ctx.profile = .compatibility ∧ 150 ≤ ctx.version ↔
        ctx'.profile = .compatibility ∧ 150 ≤ ctx'.version)
  vulkanGlsl : ctx.targets.vulkanGlsl = ctx'.targets.vulkanGlsl
  openGl : ctx.targets.openGl = ctx'.targets.openGl

namespace Preamble

variable {ctx ctx' : Context} {name : String}

/-! ### Flags -/

/-- The version from which on device groups are known. -/
def deviceGroupVersion (p : Profile) : UInt32 := if p.isEs then 310 else 140

/-- The conditions under which a flag is defined. -/
theorem mem_flags_iff :
    name ∈ flags ctx ↔
      ctx.profile.isEs = true ∧ name ∈ esBaseline ∨
      ctx.profile.isEs = false ∧
        (name ∈ desktopBaseline ++ desktopAmd ++ desktopNv ∨
          150 ≤ ctx.version ∧ name = "GL_core_profile" ∨
          (150 ≤ ctx.version ∧ ctx.profile = .compatibility) ∧ name = "GL_compatibility_profile") ∨
      deviceGroupVersion ctx.profile ≤ ctx.version ∧
        name ∈ ["GL_EXT_device_group", "GL_EXT_multiview"] ∨
      300 ≤ ctx.version ∧ name ∈ ["GL_OVR_multiview", "GL_OVR_multiview2"] ∨
      name ∈ ["GL_GOOGLE_cpp_style_line_directive", "GL_GOOGLE_include_directive"] := by
  unfold flags commonFlags deviceGroupVersion
  cases ctx.profile.isEs <;>
    simp [mem_whenever, desktopFlags, or_assoc]

/-- **Each fact about profile and version has a flag of its own.** -/
theorem mem_flags_facts (ctx : Context) :
    ("GL_ES" ∈ flags ctx ↔ ctx.profile.isEs = true) ∧
    ("GL_OVR_multiview" ∈ flags ctx ↔ 300 ≤ ctx.version) ∧
    ("GL_EXT_device_group" ∈ flags ctx ↔ deviceGroupVersion ctx.profile ≤ ctx.version) ∧
    ("GL_core_profile" ∈ flags ctx ↔ ctx.profile.isEs = false ∧ 150 ≤ ctx.version) ∧
    ("GL_compatibility_profile" ∈ flags ctx ↔
      ctx.profile.isEs = false ∧ 150 ≤ ctx.version ∧ ctx.profile = .compatibility) := by
  simp [mem_flags_iff, esBaseline, desktopBaseline, desktopAmd, desktopNv]

theorem target_notMem_knownFlags : ∀ name ∈ ["VULKAN", "GL_SPIRV"], name ∉ knownFlags := by
  simp [knownFlags, esBaseline, desktopBaseline, desktopAmd, desktopNv]

theorem name_of_mem_target {other : String} {value : UInt32} {m : Macro}
    (h : m ∈ target other value) : m.name = other := by
  unfold target at h
  split at h
  · exact nomatch h
  · rw [List.mem_singleton.mp h]
    rfl

/-- The macros tell which of the known flags are defined. -/
theorem isDefined_preamble_iff (hname : name ∈ knownFlags) :
    isDefined ctx.preamble name = true ↔ name ∈ flags ctx := by
  rw [isDefined, List.any_eq_true]
  constructor
  · rintro ⟨m, hm, heq⟩
    obtain rfl := beq_iff_eq.mp heq
    rw [Context.preamble, List.mem_append, List.mem_append] at hm
    rcases hm with (hm | hm) | hm
    · obtain ⟨n, hn, rfl⟩ := List.mem_map.mp hm
      exact hn
    · exact absurd hname (name_of_mem_target hm ▸ target_notMem_knownFlags _ (by decide))
    · exact absurd hname (name_of_mem_target hm ▸ target_notMem_knownFlags _ (by decide))
  · intro h
    refine ⟨.flag name, ?_, beq_iff_eq.mpr rfl⟩
    rw [Context.preamble, List.mem_append, List.mem_append]
    exact .inl (.inl (List.mem_map_of_mem h))

/-! ### Targets -/

theorem filter_map_flag (ctx : Context) (hname : name ∉ knownFlags) :
    ((flags ctx).map Macro.flag).filter (fun m => m.name == name) = [] := by
  refine List.filter_eq_nil_iff.mpr fun m hm heq => hname ?_
  obtain ⟨n, hn, rfl⟩ := List.mem_map.mp hm
  exact beq_iff_eq.mp heq ▸ mem_knownFlags_of_mem_flags hn

/-- A target is found under its name alone. -/
theorem filter_target (other : String) (value : UInt32) :
    (target other value).filter (fun m => m.name == name) =
      if other = name then target other value else [] := by
  unfold target
  split <;> simp [Macro.number, List.filter_cons]

/-- **A target has a macro of its own.** -/
theorem filter_preamble_target (ctx : Context) :
    ∀ t ∈ [("VULKAN", ctx.targets.vulkanGlsl), ("GL_SPIRV", ctx.targets.openGl)],
      ctx.preamble.filter (fun m => m.name == t.1) = target t.1 t.2 := by
  have hvulkan := filter_map_flag ctx (target_notMem_knownFlags "VULKAN" (by decide))
  have hspirv := filter_map_flag ctx (target_notMem_knownFlags "GL_SPIRV" (by decide))
  simp [Context.preamble, filter_target, hvulkan, hspirv]

/-- A target other than zero is written as a definition with its number. -/
theorem map_text_target (name : String) (value : UInt32) :
    (target name value).map Macro.text =
      if value = 0 then [] else ["#define " ++ name ++ " " ++ toString value.toNat] := by
  unfold target
  split <;> rfl

/-- A target is written in decimal. -/
theorem filterMap_decimal?_target (name : String) (value : UInt32) :
    ((target name value).filterMap fun m => m.value.bind decimal?) =
      if value = 0 then [] else [value.toNat] := by
  unfold target
  split
  · rfl
  · have hnumber : (Macro.number name value.toNat).value.bind decimal? = some value.toNat :=
      decimal?_toString value.toNat
    exact List.filterMap_cons_some (f := fun m : Macro => m.value.bind decimal?) hnumber

/-- The macro of a target tells its number. -/
theorem target_injective {v w : UInt32} (h : target name v = target name w) : v = w := by
  have hnumbers := congrArg (List.filterMap fun m => m.value.bind decimal?) h
  rw [filterMap_decimal?_target, filterMap_decimal?_target] at hnumbers
  by_cases hv : v = 0 <;> by_cases hw : w = 0
  · rw [hv, hw]
  · simp [hv, hw] at hnumbers
  · simp [hv, hw] at hnumbers
  · simpa [hv, hw, UInt32.toNat_inj] using hnumbers

/-! ### The facts and the text -/

/-- Contexts that resemble each other have the same preamble. -/
theorem preamble_eq_of_resembles (h : ctx.Resembles ctx') : ctx.preamble = ctx'.preamble := by
  have hflags : flags ctx = flags ctx' := by
    cases hes : ctx.profile.isEs with
    | true =>
      obtain ⟨h300, h310⟩ := h.embedded hes
      simp only [flags, commonFlags, hes, ← h.isEs, h300, h310, if_true]
    | false =>
      obtain ⟨h140, h150, h300, hcompatibility⟩ := h.desktop hes
      have hprofile : (decide (150 ≤ ctx'.version) && ctx.profile == .compatibility) =
          (decide (150 ≤ ctx'.version) && ctx'.profile == .compatibility) := by
        rw [h150] at hcompatibility
        rw [Bool.eq_iff_iff]
        simpa [and_comm] using hcompatibility
      simp only [flags, desktopFlags, commonFlags, hes, ← h.isEs, Bool.false_eq_true, if_false,
        h140, h150, h300, hprofile]
  rw [Context.preamble, Context.preamble, hflags, h.vulkanGlsl, h.openGl]

theorem mem_flags_congr (h : ctx.preamble = ctx'.preamble) (hname : name ∈ knownFlags) :
    name ∈ flags ctx ↔ name ∈ flags ctx' := by
  rw [← isDefined_preamble_iff hname, ← isDefined_preamble_iff hname, h]

theorem targets_congr (h : ctx.preamble = ctx'.preamble) :
    ctx.targets.vulkanGlsl = ctx'.targets.vulkanGlsl ∧ ctx.targets.openGl = ctx'.targets.openGl := by
  have hctx := filter_preamble_target ctx
  have hctx' := filter_preamble_target ctx'
  simp only [List.forall_mem_cons] at hctx hctx'
  rw [h] at hctx
  exact ⟨target_injective (hctx.1.symm.trans hctx'.1),
    target_injective (hctx.2.1.symm.trans hctx'.2.1)⟩

/-- Contexts with the same preamble resemble each other. -/
theorem resembles_of_preamble_eq (h : ctx.preamble = ctx'.preamble) : ctx.Resembles ctx' := by
  obtain ⟨hes, h300, hgroup, hcore, hcompatibility⟩ := mem_flags_facts ctx
  obtain ⟨hes', h300', hgroup', hcore', hcompatibility'⟩ := mem_flags_facts ctx'
  have hknown : ∀ name ∈ ["GL_ES", "GL_OVR_multiview", "GL_EXT_device_group", "GL_core_profile",
      "GL_compatibility_profile"], (name ∈ flags ctx ↔ name ∈ flags ctx') := fun name hname =>
    mem_flags_congr h (List.forall_iff_forall_mem.mp (by simp [knownFlags, esBaseline]) name hname)
  simp only [List.forall_mem_cons, hes, hes', h300, h300', hgroup, hgroup', hcore, hcore',
    hcompatibility, hcompatibility'] at hknown
  obtain ⟨kes, k300, kgroup, kcore, kcompatibility, -⟩ := hknown
  have hisEs : ctx.profile.isEs = ctx'.profile.isEs := Bool.eq_iff_iff.mpr kes
  refine ⟨hisEs, fun he => ⟨k300, ?_⟩, fun hd => ⟨?_, ?_, k300, ?_⟩, (targets_congr h).1,
    (targets_congr h).2⟩
  · simpa [deviceGroupVersion, he, ← hisEs] using kgroup
  · simpa [deviceGroupVersion, hd, ← hisEs] using kgroup
  · simpa [hd, ← hisEs] using kcore
  · simpa [hd, ← hisEs, and_comm] using kcompatibility

end Preamble

namespace Context

open Preamble (render)

/-- Two contexts have the same text as their preambles exactly if they resemble each other. -/
theorem render_preamble_eq_iff {ctx ctx' : Context} :
    render ctx.preamble = render ctx'.preamble ↔ ctx.Resembles ctx' := by
  constructor
  · intro h
    exact Preamble.resembles_of_preamble_eq (Preamble.render_injective
      (Preamble.isPlain_of_mem_preamble ctx) (Preamble.isPlain_of_mem_preamble ctx') h)
  · intro h
    rw [Preamble.preamble_eq_of_resembles h]

end Context

namespace CompilationUnit

@[simp] theorem context_run (u : CompilationUnit) (steps : List Step) :
    (u.run steps).context = u.context := by
  induction steps generalizing u with
  | nil => rfl
  | cons s steps ih => rw [run_cons, ih, context_step]

end CompilationUnit

namespace Preamble

/-- **A preamble discloses some facts and no others.**

* The preambles of two contexts have the same text exactly if the contexts resemble each other.
* So the text depends neither on the stage, nor on the other two targets, nor on how messages are
  given; no directive, no check and no other step of a unit has a part in it; and the first two
  desktop profiles look the same.
* The number of a target stands in decimal on the one line that defines its macro. Where the target
  is not in use, no line does. -/
theorem render_discloses :
    (∀ ctx ctx' : Context, render ctx.preamble = render ctx'.preamble ↔ ctx.Resembles ctx') ∧
    (∀ (ctx : Context) stage spv vulkan forwardCompatible messages,
      render { ctx with
        stage, forwardCompatible, messages,
        targets := { ctx.targets with spv, vulkan } : Context }.preamble = render ctx.preamble) ∧
    (∀ (u : CompilationUnit) (steps : List Step),
      render (u.run steps).preamble = render u.preamble) ∧
    (∀ ctx : Context, render { ctx with profile := .none : Context }.preamble =
      render { ctx with profile := .core : Context }.preamble) ∧
    ∀ ctx : Context, ∀ t ∈ [("VULKAN", ctx.targets.vulkanGlsl), ("GL_SPIRV", ctx.targets.openGl)],
      linesDefining t.1 (render ctx.preamble) =
        (if t.2 = 0 then [] else ["#define " ++ t.1 ++ " " ++ toString t.2.toNat]) ∧
      numbersIn t.1 (render ctx.preamble) = if t.2 = 0 then [] else [t.2.toNat] := by
  refine ⟨fun _ _ => Context.render_preamble_eq_iff, fun ctx _ _ _ _ _ => ?_, fun u steps => ?_,
    fun ctx => ?_, fun ctx t ht => ⟨?_, ?_⟩⟩
  · exact Context.render_preamble_eq_iff.mpr
      ⟨rfl, fun _ => ⟨.rfl, .rfl⟩, fun _ => ⟨.rfl, .rfl, .rfl, .rfl⟩, rfl, rfl⟩
  · rw [CompilationUnit.preamble, CompilationUnit.context_run, CompilationUnit.preamble]
  · exact Context.render_preamble_eq_iff.mpr
      ⟨rfl, fun _ => ⟨.rfl, .rfl⟩, fun _ => ⟨.rfl, .rfl, .rfl, by simp⟩, rfl, rfl⟩
  · rw [linesDefining_render (isPlain_of_mem_preamble ctx), filter_preamble_target ctx t ht,
      map_text_target]
  · rw [numbersIn_render (isPlain_of_mem_preamble ctx), filter_preamble_target ctx t ht,
      filterMap_decimal?_target]

end Preamble

end GlslCompliance
