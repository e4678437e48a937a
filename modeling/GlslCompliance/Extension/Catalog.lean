import GlslCompliance.Extension.Behavior

/-!
# The catalog of extensions

The extensions that are recognized, in listing order, and the behavior each starts a unit with.
Almost all start disabled: what an extension has brought into a core version is permitted by that
version and not by the extension.
-/

namespace GlslCompliance.Catalog

/-- Extensions that belong to no group. -/
def general : List String :=
  ["GL_OES_texture_3D", "GL_OES_standard_derivatives", "GL_EXT_frag_depth",
    "GL_OES_EGL_image_external", "GL_EXT_shader_texture_lod", "GL_EXT_shadow_samplers",
    "GL_ARB_texture_rectangle", "GL_3DL_array_objects", "GL_ARB_shading_language_420pack",
    "GL_ARB_texture_gather", "GL_ARB_gpu_shader5", "GL_ARB_separate_shader_objects",
    "GL_ARB_compute_shader", "GL_ARB_tessellation_shader", "GL_ARB_enhanced_layouts",
    "GL_ARB_texture_cube_map_array", "GL_ARB_shader_texture_lod",
    "GL_ARB_explicit_attrib_location", "GL_ARB_shader_image_load_store",
    "GL_ARB_shader_atomic_counters", "GL_ARB_shader_draw_parameters", "GL_ARB_shader_group_vote",
    "GL_ARB_derivative_control", "GL_ARB_shader_texture_image_samples", "GL_ARB_viewport_array",
    "GL_ARB_gpu_shader_int64", "GL_ARB_shader_ballot", "GL_ARB_sparse_texture2",
    "GL_ARB_sparse_texture_clamp", "GL_ARB_shader_stencil_export", "GL_ARB_post_depth_coverage",
    "GL_ARB_shader_viewport_layer_array", "GL_EXT_shader_non_constant_global_initializers",
    "GL_EXT_shader_image_load_formatted", "GL_EXT_post_depth_coverage",
    "GL_GOOGLE_cpp_style_line_directive", "GL_GOOGLE_include_directive"]

/-- The `GL_AMD` extensions. -/
def amd : List String :=
  ["GL_AMD_shader_ballot", "GL_AMD_shader_trinary_minmax",
    "GL_AMD_shader_explicit_vertex_parameter", "GL_AMD_gcn_shader",
    "GL_AMD_gpu_shader_half_float", "GL_AMD_texture_gather_bias_lod", "GL_AMD_gpu_shader_int16",
    "GL_AMD_shader_image_load_store_lod"]

/-- The `GL_NV` and `GL_NVX` extensions. -/
def nv : List String :=
  ["GL_NV_sample_mask_override_coverage", "GL_NV_geometry_shader_passthrough",
    "GL_NV_viewport_array2", "GL_NV_stereo_view_rendering",
    "GL_NVX_multiview_per_view_attributes"]

/-- The Android extension pack and its members. -/
def androidPack : List String :=
  ["GL_ANDROID_extension_pack_es31a", "GL_KHR_blend_equation_advanced",
    "GL_OES_sample_variables", "GL_OES_shader_image_atomic",
    "GL_OES_shader_multisample_interpolation", "GL_OES_texture_storage_multisample_2d_array",
    "GL_EXT_geometry_shader", "GL_EXT_geometry_point_size", "GL_EXT_gpu_shader5",
    "GL_EXT_primitive_bounding_box", "GL_EXT_shader_io_blocks", "GL_EXT_tessellation_shader",
    "GL_EXT_tessellation_point_size", "GL_EXT_texture_buffer", "GL_EXT_texture_cube_map_array"]

/-- The `GL_OES` counterparts of the pack's members. -/
def embeddedPack : List String :=
  ["GL_OES_geometry_shader", "GL_OES_geometry_point_size", "GL_OES_gpu_shader5",
    "GL_OES_primitive_bounding_box", "GL_OES_shader_io_blocks", "GL_OES_tessellation_shader",
    "GL_OES_tessellation_point_size", "GL_OES_texture_buffer", "GL_OES_texture_cube_map_array"]

/-- Rendering to several views or devices. -/
def multiview : List String :=
  ["GL_EXT_device_group", "GL_EXT_multiview", "GL_OVR_multiview", "GL_OVR_multiview2"]

/-- The name of every recognized extension, in listing order. -/
def names : List String := general ++ amd ++ nv ++ androidPack ++ embeddedPack ++ multiview

/-- The behavior an extension starts with: one has gaps in its support, all others are disabled. -/
def initialBehavior (name : String) : Behavior :=
  if name = "GL_ARB_gpu_shader5" then .disabledPartial else .disabled

/-- Every recognized extension with its initial behavior. -/
def entries : List (String × Behavior) := names.map fun n => (n, initialBehavior n)

/-- Whether an extension is recognized. -/
def isRecognized (name : String) : Bool := names.contains name

/-- The name that stands for every extension in a directive. -/
def wildcard : String := "all"

theorem map_fst_entries : entries.map Prod.fst = names := by
  simp [entries, Function.comp_def]

/-- No extension is listed twice. -/
theorem nodup_names : names.Nodup := by decide +kernel

theorem wildcard_notMem_names : wildcard ∉ names := by decide +kernel

end GlslCompliance.Catalog
