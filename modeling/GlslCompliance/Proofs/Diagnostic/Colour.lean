import GlslCompliance.Diagnostic.Rendering
import GlslCompliance.Proofs.Text.StyleSequence

/-!
# Diagnostics in colour

A diagnostic in colour is the plain one with style sequences added: deleting these gives the plain
text back, as long as the texts of the diagnostic hold no escape character of their own
(`eraseStyles_render`). The proof goes along the parts of the rendering, each of which is either
painted or the same in both forms.
-/

namespace GlslCompliance

open Text (Unstyles eraseStyles paint unstyles_join unstyles_paint unstyles_self)

theorem escape_notMem_toString (n : Nat) : '\x1b' ∉ (toString n).toList := fun hmem =>
  absurd (Text.isDigit_of_mem_toString hmem) (by decide)

theorem Level.escape_notMem_name (l : Level) : '\x1b' ∉ l.name.toList := by
  cases l <;> decide

theorem Location.escape_notMem_render {l : Location} (h : '\x1b' ∉ l.file.toList) :
    '\x1b' ∉ l.render.toList := by
  simp only [render, String.toList_append, List.mem_append, not_or]
  exact ⟨⟨⟨⟨h, by decide⟩, escape_notMem_toString l.line⟩, by decide⟩,
    escape_notMem_toString l.column⟩

namespace Diagnostic

/-- No text of a diagnostic holds an escape character. -/
structure LacksEscapes (d : Diagnostic) : Prop where
  code : '\x1b' ∉ d.code.toList
  message : '\x1b' ∉ d.message.toList
  file : '\x1b' ∉ d.location.file.toList
  notes : ∀ note ∈ d.notes, '\x1b' ∉ note.toList
  help : ∀ help ∈ d.help, '\x1b' ∉ help.toList

/-- What stands at the start of a line for a note or the help. -/
theorem unstyles_sign (style : Text.Style) (sign : String) (h : '\x1b' ∉ sign.toList) :
    Unstyles (" " ++ paint true style sign ++ " ") (" " ++ paint false style sign ++ " ") := by
  have hblank : Unstyles " " " " := unstyles_self (by decide)
  exact (hblank.append (unstyles_paint style sign h)).append_plain " " (by decide)

/-- Notes in colour are the plain notes in styles. -/
theorem unstyles_renderNotes {notes : List String} (h : ∀ note ∈ notes, '\x1b' ∉ note.toList) :
    Unstyles (renderNotes true notes) (renderNotes false notes) := by
  refine unstyles_join fun note hnote => ?_
  have hsign := unstyles_sign .cyanBold "=" (by decide)
  exact (hsign.append (unstyles_paint .cyan note (h note hnote))).append_plain "\n" (by decide)

theorem unstyles_renderHelp {help : Option String} (h : ∀ text ∈ help, '\x1b' ∉ text.toList) :
    Unstyles (renderHelp true help) (renderHelp false help) := by
  cases help with
  | none => exact unstyles_self (by decide)
  | some text =>
    have hsign := unstyles_sign .greenBold "help:" (by decide)
    exact (hsign.append_plain text (h text rfl)).append_plain "\n" (by decide)

/-- A diagnostic in colour is the plain one in styles, part by part. -/
theorem unstyles_render {d : Diagnostic} (h : d.LacksEscapes) :
    Unstyles (d.render true) (d.render false) := by
  have hlevel := unstyles_paint d.level.style d.level.name d.level.escape_notMem_name
  have hcode := ((hlevel.append_plain "[" (by decide)).append_plain d.code h.code).append_plain
    "]: " (by decide)
  have hmessage := (hcode.append (unstyles_paint .bold d.message h.message)).append_plain "\n"
    (by decide)
  have harrow := ((hmessage.append_plain " " (by decide)).append
    (unstyles_paint .cyanBold "-->" (by decide))).append_plain " " (by decide)
  have hplace := (harrow.append_plain d.location.render
    (Location.escape_notMem_render h.file)).append_plain "\n" (by decide)
  exact (hplace.append (unstyles_renderNotes h.notes)).append (unstyles_renderHelp h.help)

/-- **Colour adds nothing but style sequences.** With these deleted, a diagnostic in colour is the
plain one, and no escape character is left. -/
theorem eraseStyles_render (d : Diagnostic) (h : d.LacksEscapes) :
    eraseStyles (d.render true).toList = (d.render false).toList ∧
      '\x1b' ∉ (d.render false).toList :=
  ⟨(unstyles_render h).eraseStyles_eq, (unstyles_render h).notMem⟩

/-- The texts look like the end of a style sequence, or are empty. -/
theorem eraseStyles_render_brackets :
    let d : Diagnostic :=
      { level := .warning, code := "W0104", message := "[1m\nm", location := ⟨"a;0m", 12, 3⟩,
        notes := ["", "[0m"], help := some "" }
    d.LacksEscapes ∧
      d.render true = "\x1b[1;33mwarning\x1b[0m[W0104]: \x1b[1m[1m\nm\x1b[0m\n" ++
        " \x1b[1;36m-->\x1b[0m a;0m:12:3\n" ++
        " \x1b[1;36m=\x1b[0m \x1b[36m\x1b[0m\n \x1b[1;36m=\x1b[0m \x1b[36m[0m\x1b[0m\n" ++
        " \x1b[1;32mhelp:\x1b[0m \n" ∧
      d.render false = "warning[W0104]: [1m\nm\n --> a;0m:12:3\n = \n = [0m\n help: \n" ∧
      eraseStyles (d.render true).toList = (d.render false).toList ∧
      '\x1b' ∉ (d.render false).toList := by
  intro d
  have h : d.LacksEscapes :=
    ⟨by decide, by decide, by decide, by decide, fun _ htext => Option.some.inj htext ▸ by decide⟩
  exact ⟨h, by decide +kernel, by decide +kernel, eraseStyles_render d h⟩

end Diagnostic

end GlslCompliance
