/-!
# Extensions that bring others along

Some extensions carry others: what a directive does to the trigger, it does to the dependents too,
and to their dependents. `closure` lists the names that a name brings along, itself first, in the
order of a depth-first search that never enters a name twice. It is defined for any table, cyclic
or not: a name that is entered uses up its row of the table, so the names that the remaining rows
can add (`pending`) get fewer while the search goes on.
-/

namespace GlslCompliance

/-- One row of an implication table. -/
structure Implication where
  trigger : String
  dependents : List String
  deriving DecidableEq, Repr

namespace Implication

/-- The direct dependents of a name. Of two rows for one trigger the first counts. -/
def dependentsIn (rows : List Implication) (name : String) : List String :=
  match rows with
  | [] => []
  | row :: rest => if row.trigger = name then row.dependents else dependentsIn rest name

/-- How many dependents stand in rows whose trigger is not among the `seen` names. -/
def pending (seen : List String) : List Implication → Nat
  | [] => 0
  | row :: rest =>
    (if row.trigger ∈ seen then 0 else row.dependents.length) + pending seen rest

/-- To have seen one more name leaves no more pending. -/
theorem pending_cons_le (seen : List String) (name : String) (rows : List Implication) :
    pending (name :: seen) rows ≤ pending seen rows := by
  induction rows with
  | nil => simp [pending]
  | cons row rest ih =>
    simp only [pending, List.mem_cons]
    split <;> split <;> first | omega | simp_all

/-- Entering a new name uses up the rows of that name. -/
theorem length_dependentsIn_add_pending_le {seen : List String} {name : String}
    (h : name ∉ seen) (rows : List Implication) :
    (dependentsIn rows name).length + pending (name :: seen) rows ≤ pending seen rows := by
  induction rows with
  | nil => simp [pending, dependentsIn]
  | cons row rest ih =>
    by_cases ht : row.trigger = name
    · have := pending_cons_le seen name rest
      simp only [dependentsIn, pending, ht, List.mem_cons_self, if_true, h, if_false]
      omega
    · simp only [dependentsIn, pending, ht, List.mem_cons, false_or, if_false]
      omega

/-- The names a depth-first search enters, in order, when `todo` is waiting and `seen` was entered
before. -/
def visit (rows : List Implication) (seen : List String) : List String → List String
  | [] => []
  | name :: todo =>
    if name ∈ seen then visit rows seen todo
    else name :: visit rows (name :: seen) (dependentsIn rows name ++ todo)
termination_by todo => todo.length + pending seen rows
decreasing_by
  · simp
  · next h =>
    have := length_dependentsIn_add_pending_le h rows
    simp only [List.length_append, List.length_cons]
    omega

/-- The names that a name brings along: itself, then its dependents in table order, each followed
at once by its own, and no name twice. -/
def closure (rows : List Implication) (name : String) : List String := visit rows [] [name]

@[simp] theorem visit_nil (rows : List Implication) (seen : List String) :
    visit rows seen [] = [] := by
  rw [visit]

theorem visit_cons_of_mem {rows : List Implication} {seen todo : List String} {name : String}
    (h : name ∈ seen) : visit rows seen (name :: todo) = visit rows seen todo := by
  rw [visit, if_pos h]

theorem visit_cons_of_notMem {rows : List Implication} {seen todo : List String} {name : String}
    (h : name ∉ seen) :
    visit rows seen (name :: todo) =
      name :: visit rows (name :: seen) (dependentsIn rows name ++ todo) := by
  rw [visit, if_neg h]

end Implication

/-- The implications between recognized extensions. -/
def implications : List Implication := [
  ⟨"GL_ANDROID_extension_pack_es31a",
    ["GL_KHR_blend_equation_advanced", "GL_OES_sample_variables", "GL_OES_shader_image_atomic",
      "GL_OES_shader_multisample_interpolation", "GL_OES_texture_storage_multisample_2d_array",
      "GL_EXT_geometry_shader", "GL_EXT_gpu_shader5", "GL_EXT_primitive_bounding_box",
      "GL_EXT_shader_io_blocks", "GL_EXT_tessellation_shader", "GL_EXT_texture_buffer",
      "GL_EXT_texture_cube_map_array"]⟩,
  ⟨"GL_EXT_geometry_shader", ["GL_EXT_shader_io_blocks"]⟩,
  ⟨"GL_OES_geometry_shader", ["GL_OES_shader_io_blocks"]⟩,
  ⟨"GL_EXT_tessellation_shader", ["GL_EXT_shader_io_blocks"]⟩,
  ⟨"GL_OES_tessellation_shader", ["GL_OES_shader_io_blocks"]⟩,
  ⟨"GL_GOOGLE_include_directive", ["GL_GOOGLE_cpp_style_line_directive"]⟩]

/-- The direct dependents of an extension. -/
def dependentsOf (name : String) : List String := Implication.dependentsIn implications name

end GlslCompliance
