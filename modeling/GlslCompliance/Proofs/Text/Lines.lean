/-!
# Lines of a text

`lines` cuts a text at its line feeds, `unlines` puts lines together again. A text that is put
together from lines without line feeds is cut into just these (`lines_unlines`).
-/

namespace GlslCompliance.Text

/-- The lines of a text, without the line feeds at their ends. -/
def lines (text : String) : List String :=
  ((text.toList.splitOn '\n').dropLast).map String.ofList

/-- The text of some lines. -/
def unlines (ls : List String) : String := String.join (ls.map fun l => l ++ "\n")

/-- Behind the last line feed there is an empty rest, which is not a line. -/
theorem splitOn_unlines {ls : List String} (h : ∀ l ∈ ls, '\n' ∉ l.toList) :
    (unlines ls).toList.splitOn '\n' = ls.map String.toList ++ [[]] := by
  induction ls with
  | nil => rfl
  | cons l ls ih =>
    obtain ⟨hl, hls⟩ := List.forall_mem_cons.mp h
    have htext : (unlines (l :: ls)).toList = l.toList ++ '\n' :: (unlines ls).toList := by
      simp [unlines]
    rw [htext, List.splitOn_append_cons_self, ih hls, List.splitOn_eq_singleton hl]
    rfl

theorem lines_unlines {ls : List String} (h : ∀ l ∈ ls, '\n' ∉ l.toList) :
    lines (unlines ls) = ls := by
  rw [lines, splitOn_unlines h, List.dropLast_concat, List.map_map]
  exact List.map_id'' (fun _ => String.ofList_toList) ls

end GlslCompliance.Text
