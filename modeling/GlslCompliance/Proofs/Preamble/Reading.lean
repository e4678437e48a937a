import GlslCompliance.Preamble.Basic
import GlslCompliance.Proofs.Text.Lines
import GlslCompliance.Text.Split
import Mathlib.Data.List.Basic

/-!
# Preambles are read back

What stands in a preamble can be told from its text. `Macro.ofLine?` reads the line of one macro:
behind the word `#define` a name, as far as the first blank, and what follows that blank as the
value. A text is read line by line, `map_ofLine?_lines_render`, so two preambles with the same text
are the same (`render_injective`).

This asks for macros whose names have no blanks in them and that stand on one line
(`Macro.IsPlain`). The macros of a unit are such, `isPlain_of_mem_preamble`: whatever the context
is, the names of the flags are among those that this library knows (`knownFlags`).
-/

namespace GlslCompliance

namespace Macro

/-- The line of a macro, without its end. -/
def text (m : Macro) : String :=
  match m.value with
  | some value => "#define " ++ m.name ++ " " ++ value
  | none => "#define " ++ m.name

/-- Reads the line of a macro. -/
def ofLine? (line : String) : Option Macro :=
  match Text.splitFirst? ' ' line.toList with
  | none => none
  | some (keyword, definition) =>
    if String.ofList keyword = "#define" then
      match Text.splitFirst? ' ' definition with
      | none => some ⟨String.ofList definition, none⟩
      | some (name, value) => some ⟨String.ofList name, some (String.ofList value)⟩
    else none

/-- A macro that can be read back: its name has no blank, and it stands on one line. -/
structure IsPlain (m : Macro) : Prop where
  noBlank : ' ' ∉ m.name.toList
  oneLine : '\n' ∉ m.text.toList

theorem line_eq (m : Macro) : m.line = m.text ++ "\n" := by
  rcases m with ⟨name, _ | value⟩ <;> rfl

/-- **One macro.** -/
theorem ofLine?_text {m : Macro} (h : m.IsPlain) : ofLine? m.text = some m := by
  obtain ⟨name, value⟩ := m
  have hname : ' ' ∉ name.toList := h.noBlank
  cases value with
  | none =>
    have htext : (text ⟨name, none⟩).toList = "#define".toList ++ ' ' :: name.toList := by
      simp [text]
    have hsplit := Text.splitFirst?_eq_none_iff.mpr hname
    rw [ofLine?, htext, Text.splitFirst?_append (by decide)]
    simp [hsplit]
  | some value =>
    have htext : (text ⟨name, some value⟩).toList =
        "#define".toList ++ ' ' :: (name.toList ++ ' ' :: value.toList) := by
      simp [text]
    rw [ofLine?, htext, Text.splitFirst?_append (by decide)]
    simp [Text.splitFirst?_append hname]

end Macro

namespace Preamble

variable {macros macros' : List Macro}

/-! ### Texts of macros -/

/-- The lines of a text that define a macro of a given name. -/
def linesDefining (name text : String) : List String :=
  (Text.lines text).filter fun l => (Macro.ofLine? l).any fun m => m.name == name

/-- Reads a number that is written in decimal. -/
def decimal? (value : String) : Option Nat :=
  if !value.toList.isEmpty && value.toList.all Char.isDigit then
    some (Nat.ofDigitChars 10 value.toList 0)
  else none

/-- The numbers that a text defines a macro as. -/
def numbersIn (name text : String) : List Nat :=
  (linesDefining name text).filterMap fun l => ((Macro.ofLine? l).bind Macro.value).bind decimal?

theorem decimal?_toString (n : Nat) : decimal? (toString n) = some n := by
  have htext : (toString n).toList = Nat.toDigits 10 n := Nat.toList_repr
  have hdigits : (Nat.toDigits 10 n).all Char.isDigit = true := List.all_eq_true.mpr fun c hc =>
    Nat.isDigit_of_mem_toDigits (by decide) (by decide) hc
  have hnonempty : (Nat.toDigits 10 n).isEmpty = false :=
    List.isEmpty_eq_false_iff.mpr Nat.toDigits_ne_nil
  rw [decimal?, htext, hdigits, hnonempty, Bool.not_false, Bool.and_true, if_pos rfl,
    Nat.ofDigitChars_toDigits (by decide) (by decide)]

/-- A preamble has a line for each macro. -/
theorem render_eq_unlines (macros : List Macro) :
    render macros = Text.unlines (macros.map Macro.text) := by
  rw [render, Text.unlines, List.map_map]
  exact congrArg String.join (List.map_congr_left fun m _ => m.line_eq)

/-- Plain macros are found line by line, since none contains a line feed. -/
theorem lines_render (h : ∀ m ∈ macros, m.IsPlain) :
    Text.lines (render macros) = macros.map Macro.text := by
  rw [render_eq_unlines]
  refine Text.lines_unlines fun l hl => ?_
  obtain ⟨m, hm, rfl⟩ := List.mem_map.mp hl
  exact (h m hm).oneLine

/-- **A preamble is read back line by line.** -/
theorem map_ofLine?_lines_render (h : ∀ m ∈ macros, m.IsPlain) :
    (Text.lines (render macros)).map Macro.ofLine? = macros.map some := by
  rw [lines_render h, List.map_map]
  exact List.map_congr_left fun m hm => Macro.ofLine?_text (h m hm)

/-- Different plain macros make different texts. -/
theorem render_injective (h : ∀ m ∈ macros, m.IsPlain) (h' : ∀ m ∈ macros', m.IsPlain)
    (heq : render macros = render macros') : macros = macros' := by
  refine List.map_injective_iff.mpr (fun _ _ => Option.some.inj) ?_
  rw [← map_ofLine?_lines_render h, ← map_ofLine?_lines_render h', heq]

/-- The lines that define a name are those of the macros of that name. -/
theorem linesDefining_render (h : ∀ m ∈ macros, m.IsPlain) (name : String) :
    linesDefining name (render macros) =
      (macros.filter fun m => m.name == name).map Macro.text := by
  rw [linesDefining, lines_render h, List.filter_map]
  refine congrArg (List.map Macro.text) (List.filter_congr fun m hm => ?_)
  rw [Function.comp_apply, Macro.ofLine?_text (h m hm), Option.any_some]

/-- The numbers that a name is defined as are those of the macros of that name. -/
theorem numbersIn_render (h : ∀ m ∈ macros, m.IsPlain) (name : String) :
    numbersIn name (render macros) =
      (macros.filter fun m => m.name == name).filterMap fun m => m.value.bind decimal? := by
  rw [numbersIn, linesDefining_render h, List.filterMap_map]
  refine List.filterMap_congr fun m hm => ?_
  rw [Function.comp_apply, Macro.ofLine?_text (h m (List.mem_of_mem_filter hm)), Option.bind_some]

/-! ### The macros of a unit -/

/-- The names of all flags that some unit defines. -/
def knownFlags : List String :=
  esBaseline ++ desktopBaseline ++ desktopAmd ++ desktopNv ++
    ["GL_core_profile", "GL_compatibility_profile", "GL_EXT_device_group", "GL_EXT_multiview",
      "GL_OVR_multiview", "GL_OVR_multiview2", "GL_GOOGLE_cpp_style_line_directive",
      "GL_GOOGLE_include_directive"]

theorem mem_whenever {condition : Bool} {names : List String} {name : String} :
    name ∈ whenever condition names ↔ condition = true ∧ name ∈ names := by
  unfold whenever
  split <;> simp_all

/-- Every flag of a unit is a known one. -/
theorem mem_knownFlags_of_mem_flags {ctx : Context} {name : String} (h : name ∈ flags ctx) :
    name ∈ knownFlags := by
  unfold flags at h
  rcases List.mem_append.mp h with h | h
  · split at h
    · simp only [knownFlags, List.mem_append, h, true_or]
    · simp only [desktopFlags, List.mem_append, mem_whenever] at h
      simp only [knownFlags, List.mem_append, List.mem_cons] at h ⊢
      tauto
  · simp only [commonFlags, List.mem_append, mem_whenever] at h
    simp only [knownFlags, List.mem_append, List.mem_cons] at h ⊢
    tauto

theorem isPlain_flag_ofList {cs : List Char}
    (h : (cs.all fun c => c != ' ' && c != '\n') = true) :
    (Macro.flag (String.ofList cs)).IsPlain where
  noBlank := fun hmem => by simpa using List.all_eq_true.mp h ' ' (by simpa [Macro.flag] using hmem)
  oneLine := fun hmem => by
    simpa using List.all_eq_true.mp h '\n' (by simpa [Macro.flag, Macro.text] using hmem)

/-- The flags that a preamble may define are plain. -/
theorem isPlain_of_mem_knownFlags : ∀ name ∈ knownFlags, (Macro.flag name).IsPlain := by
  simp only [knownFlags, esBaseline, desktopBaseline, desktopAmd, desktopNv,
    List.forall_mem_append, List.forall_mem_cons]
  -- The characters are those that a name is written with; to decode each name would be slow.
  repeat' apply And.intro
  all_goals first | exact isPlain_flag_ofList rfl | exact List.forall_mem_nil _

theorem isPlain_number {name : String} (hblank : ' ' ∉ name.toList) (hline : '\n' ∉ name.toList)
    (n : Nat) : (Macro.number name n).IsPlain where
  noBlank := hblank
  oneLine := by
    have hdigits : '\n' ∉ Nat.toDigits 10 n := fun hmem =>
      absurd (Nat.isDigit_of_mem_toDigits (by decide) (by decide) hmem) (by decide)
    simp [Macro.number, Macro.text, hline, hdigits]

theorem isPlain_of_mem_target {name : String} (hblank : ' ' ∉ name.toList)
    (hline : '\n' ∉ name.toList) {value : UInt32} :
    ∀ m ∈ target name value, m.IsPlain := by
  unfold target
  split
  · exact List.forall_mem_nil _
  · exact List.forall_mem_singleton.mpr (isPlain_number hblank hline _)

/-- **The macros of a unit can be read back**, whatever its context is. -/
theorem isPlain_of_mem_preamble (ctx : Context) : ∀ m ∈ ctx.preamble, m.IsPlain := by
  rw [Context.preamble, List.forall_mem_append, List.forall_mem_append]
  refine ⟨⟨fun m hm => ?_, isPlain_of_mem_target (by decide) (by decide)⟩,
    isPlain_of_mem_target (by decide) (by decide)⟩
  obtain ⟨name, hname, rfl⟩ := List.mem_map.mp hm
  exact isPlain_of_mem_knownFlags name (mem_knownFlags_of_mem_flags hname)

end Preamble

end GlslCompliance
