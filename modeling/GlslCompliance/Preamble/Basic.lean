import GlslCompliance.Language.Context
import GlslCompliance.Preamble.Macro

/-!
# The preamble of a unit

The macros that tell a shader about the unit it is compiled in. They follow from the context alone:
a macro says what is recognized, and directives do not feed into it. The order of the lines is
fixed.
-/

namespace GlslCompliance

namespace Preamble

/-- What the embedded systems profile defines in every version. -/
def esBaseline : List String :=
  ["GL_ES", "GL_FRAGMENT_PRECISION_HIGH", "GL_OES_texture_3D", "GL_OES_standard_derivatives",
    "GL_EXT_frag_depth", "GL_OES_EGL_image_external", "GL_EXT_shader_texture_lod",
    "GL_EXT_shadow_samplers", "GL_ANDROID_extension_pack_es31a",
    "GL_KHR_blend_equation_advanced", "GL_OES_sample_variables", "GL_OES_shader_image_atomic",
    "GL_OES_shader_multisample_interpolation", "GL_OES_texture_storage_multisample_2d_array",
    "GL_EXT_geometry_shader", "GL_EXT_geometry_point_size", "GL_EXT_gpu_shader5",
    "GL_EXT_primitive_bounding_box", "GL_EXT_shader_io_blocks", "GL_EXT_tessellation_shader",
    "GL_EXT_tessellation_point_size", "GL_EXT_texture_buffer", "GL_EXT_texture_cube_map_array",
    "GL_OES_geometry_shader", "GL_OES_geometry_point_size", "GL_OES_gpu_shader5",
    "GL_OES_primitive_bounding_box", "GL_OES_shader_io_blocks", "GL_OES_tessellation_shader",
    "GL_OES_tessellation_point_size", "GL_OES_texture_buffer", "GL_OES_texture_cube_map_array",
    "GL_EXT_shader_non_constant_global_initializers"]

/-- What the desktop profiles define in every version. -/
def desktopBaseline : List String :=
  ["GL_FRAGMENT_PRECISION_HIGH", "GL_ARB_texture_rectangle", "GL_ARB_shading_language_420pack",
    "GL_ARB_texture_gather", "GL_ARB_gpu_shader5", "GL_ARB_separate_shader_objects",
    "GL_ARB_compute_shader", "GL_ARB_tessellation_shader", "GL_ARB_enhanced_layouts",
    "GL_ARB_texture_cube_map_array", "GL_ARB_shader_texture_lod",
    "GL_ARB_explicit_attrib_location", "GL_ARB_shader_image_load_store",
    "GL_ARB_shader_atomic_counters", "GL_ARB_shader_draw_parameters", "GL_ARB_shader_group_vote",
    "GL_ARB_derivative_control", "GL_ARB_shader_texture_image_samples", "GL_ARB_viewport_array",
    "GL_ARB_gpu_shader_int64", "GL_ARB_shader_ballot", "GL_ARB_sparse_texture2",
    "GL_ARB_sparse_texture_clamp", "GL_ARB_shader_stencil_export", "GL_ARB_post_depth_coverage",
    "GL_EXT_shader_non_constant_global_initializers", "GL_EXT_shader_image_load_formatted",
    "GL_EXT_post_depth_coverage"]

/-- The `GL_AMD` macros of the desktop profiles. -/
def desktopAmd : List String :=
  ["GL_AMD_shader_ballot", "GL_AMD_shader_trinary_minmax",
    "GL_AMD_shader_explicit_vertex_parameter", "GL_AMD_gcn_shader",
    "GL_AMD_gpu_shader_half_float", "GL_AMD_texture_gather_bias_lod", "GL_AMD_gpu_shader_int16",
    "GL_AMD_shader_image_load_store_lod"]

/-- The `GL_NV` macros of the desktop profiles. -/
def desktopNv : List String :=
  ["GL_NV_sample_mask_override_coverage", "GL_NV_geometry_shader_passthrough",
    "GL_NV_viewport_array2"]

/-- The names `names` where a condition holds. -/
def whenever (condition : Bool) (names : List String) : List String :=
  if condition then names else []

/-- The flags that the desktop profiles define: profile macros exist from version 150 on. -/
def desktopFlags (ctx : Context) : List String :=
  desktopBaseline ++ desktopAmd ++ desktopNv
    ++ whenever (150 ≤ ctx.version) ["GL_core_profile"]
    ++ whenever (150 ≤ ctx.version && ctx.profile == .compatibility) ["GL_compatibility_profile"]

/-- The flags of the extensions that became available at some version of every profile. -/
def commonFlags (ctx : Context) : List String :=
  let deviceGroup : UInt32 := if ctx.profile.isEs then 310 else 140
  whenever (deviceGroup ≤ ctx.version) ["GL_EXT_device_group", "GL_EXT_multiview"]
    ++ whenever (300 ≤ ctx.version) ["GL_OVR_multiview", "GL_OVR_multiview2"]
    ++ ["GL_GOOGLE_cpp_style_line_directive", "GL_GOOGLE_include_directive"]

/-- The names of all flags. -/
def flags (ctx : Context) : List String :=
  (if ctx.profile.isEs then esBaseline else desktopFlags ctx) ++ commonFlags ctx

/-- A macro for a target environment that is in use. -/
def target (name : String) (value : UInt32) : List Macro :=
  if value = 0 then [] else [.number name value.toNat]

end Preamble

/-- The macros of a unit: flags, then the numbers of its targets. -/
def Context.preamble (ctx : Context) : List Macro :=
  (Preamble.flags ctx).map .flag
    ++ Preamble.target "VULKAN" ctx.targets.vulkanGlsl
    ++ Preamble.target "GL_SPIRV" ctx.targets.openGl

namespace Preamble

/-- The text of a preamble, a line for each macro. -/
def render (macros : List Macro) : String := String.join (macros.map Macro.line)

/-- Whether a macro is defined. -/
def isDefined (macros : List Macro) (name : String) : Bool := macros.any fun m => m.name == name

/-- The value of a macro, if it is defined and has one. -/
def valueOf? (macros : List Macro) (name : String) : Option String :=
  (macros.find? fun m => m.name == name).bind Macro.value

end Preamble

end GlslCompliance
