import GlslCompliance.Command.Execution
import GlslCompliance.Proofs.Extension.Assignment
import GlslCompliance.Proofs.Text.Lines

/-!
# Listings are read back

What a query about extensions has written is taken apart again, by what can be seen in the text
alone:

* `readLine?` reads a line of a listing. A name goes as far as the first blank, so the width of the
  column has no part in it, and the behavior is what comes behind all blanks;
* `requestedIn` reads the names in the line of requested extensions, which stand between commas.

This works because the names of the catalog have neither blanks nor commas nor line feeds in them
(`Catalog.isPlain_of_mem_names`).
-/

namespace GlslCompliance

/-! ### Names -/

/-- A name can stand in front of a blank, a comma or the end of a line. -/
def Catalog.IsPlain (name : String) : Prop := ∀ c ∈ name.toList, c ∉ [' ', ',', '\n']

theorem Catalog.isPlain_ofList {cs : List Char}
    (h : (cs.all fun c => !([' ', ',', '\n'].contains c)) = true) :
    IsPlain (String.ofList cs) := by
  rw [IsPlain, String.toList_ofList]
  simpa using h

/-- The names of the catalog are plain. -/
theorem Catalog.isPlain_of_mem_names : ∀ name ∈ names, IsPlain name := by
  simp only [names, general, amd, nv, androidPack, embeddedPack, multiview,
    List.forall_mem_append, List.forall_mem_cons]
  -- The characters are those that a name is written with; to decode each name would be slow.
  repeat' apply And.intro
  all_goals first | exact isPlain_ofList rfl | exact List.forall_mem_nil _

theorem Catalog.IsPlain.notMem {name : String} (h : IsPlain name) {c : Char}
    (hc : c ∈ [' ', ',', '\n']) : c ∉ name.toList := fun hmem => h c hmem hc

/-- The behavior of a name in listings. -/
def Behavior.ofName? (name : String) : Option Behavior := all.find? fun b => b.name == name

/-- A behavior is recognized by its name. -/
theorem Behavior.ofName?_name (b : Behavior) : ofName? b.name = some b := by
  cases b <;> decide

namespace Command

open Catalog (IsPlain)

/-! ### Entries -/

/-- Reads a line of a listing: a name, blanks, a behavior. -/
def readLine? (line : String) : Option (String × Behavior) :=
  let name := line.toList.takeWhile (· != ' ')
  let behavior := (line.toList.dropWhile (· != ' ')).dropWhile (· == ' ')
  (Behavior.ofName? (String.ofList behavior)).map fun b => (String.ofList name, b)

/-- The line of an extension, without its end. -/
def entryText (e : String × Behavior) : String := padName e.1 ++ " " ++ e.2.name

/-- Between the name and the behavior there are blanks, and one at least. -/
theorem exists_toList_entryText (e : String × Behavior) :
    ∃ k, (entryText e).toList = e.1.toList ++ List.replicate (k + 1) ' ' ++ e.2.name.toList := by
  refine ⟨48 - e.1.length, ?_⟩
  simp [entryText, padName, List.replicate_succ']

/-- An entry is read back from its line. -/
theorem readLine?_entryText {e : String × Behavior} (h : IsPlain e.1) :
    readLine? (entryText e) = some e := by
  obtain ⟨k, htext⟩ := exists_toList_entryText e
  have hname : ∀ c ∈ e.1.toList, (c != ' ') = true := fun c hc =>
    bne_iff_ne.mpr fun hblank => h.notMem (by decide) (hblank ▸ hc)
  have hblanks : ∀ c ∈ List.replicate (k + 1) ' ', (c == ' ') = true := fun c hc =>
    beq_iff_eq.mpr (List.eq_of_mem_replicate hc)
  have hbehavior : e.2.name.toList.dropWhile (· == ' ') = e.2.name.toList := by
    cases e.2 <;> rfl
  have htake : (entryText e).toList.takeWhile (· != ' ') = e.1.toList := by
    rw [htext, List.append_assoc, List.takeWhile_append_of_pos hname]
    exact List.append_nil _
  have hdrop : ((entryText e).toList.dropWhile (· != ' ')).dropWhile (· == ' ') =
      e.2.name.toList := by
    rw [htext, List.append_assoc, List.dropWhile_append_of_pos hname]
    exact (List.dropWhile_append_of_pos hblanks).trans hbehavior
  rw [readLine?, htake, hdrop, String.ofList_toList, String.ofList_toList, Behavior.ofName?_name]
  rfl

theorem notMem_entryText {e : String × Behavior} (h : IsPlain e.1) :
    '\n' ∉ (entryText e).toList := by
  obtain ⟨k, htext⟩ := exists_toList_entryText e
  have hname : '\n' ∉ e.1.toList := h.notMem (by decide)
  have hbehavior : '\n' ∉ e.2.name.toList := by cases e.2 <;> decide
  simp [htext, hname, hbehavior]

/-- A listing has a line for each entry. -/
theorem listing_eq_unlines (a : Activation) (activeOnly : Bool) :
    listing a activeOnly =
      Text.unlines ((if activeOnly then a.turnedOn else a.entries).map entryText) := by
  rw [listing, Text.unlines, List.map_map]
  rfl

/-! ### Requested names -/

/-- Reads a line of requested extensions. -/
def readRequested? (line : String) : Option (List String) :=
  match Text.splitFirst? ':' line.toList with
  | none => none
  | some (label, names) =>
    if String.ofList label = "requested" then
      some ((names.splitOn ',').map fun part => String.ofList (part.drop 1))
    else none

/-- The names that are requested according to a text. -/
def requestedIn (text : String) : List String :=
  ((Text.lines text).filterMap readRequested?).flatten

/-- The blanks behind commas are those in front of the names but the first. -/
theorem toList_intercalate_names {ns : List String} (h : ns ≠ []) :
    ' ' :: (", ".intercalate ns).toList = [','].intercalate (ns.map fun n => ' ' :: n.toList) := by
  induction ns with
  | nil => exact absurd rfl h
  | cons n ns ih =>
    cases ns with
    | nil => simp
    | cons n' ns =>
      -- The blank in front of the rest is the one that its separator ends in.
      have hrest := ih (List.cons_ne_nil _ _)
      rw [String.intercalate_cons_of_ne_nil (List.cons_ne_nil _ _), List.map_cons, List.map_cons,
        List.intercalate_cons_cons]
      rw [List.map_cons] at hrest
      simp [← hrest]

/-- Requested names are read back from their line. -/
theorem readRequested?_intercalate {ns : List String} (h : ns ≠ []) (hns : ∀ n ∈ ns, IsPlain n) :
    readRequested? ("requested: " ++ ", ".intercalate ns) = some ns := by
  have htext : ("requested: " ++ ", ".intercalate ns).toList =
      "requested".toList ++ ':' :: [','].intercalate (ns.map fun n => ' ' :: n.toList) := by
    rw [← toList_intercalate_names h, String.toList_append]
    rfl
  have hparts : ∀ part ∈ ns.map (fun n => ' ' :: n.toList), ',' ∉ part := by
    intro part hpart
    obtain ⟨n, hn, rfl⟩ := List.mem_map.mp hpart
    exact List.not_mem_cons_of_ne_of_not_mem (by decide) ((hns n hn).notMem (by decide))
  have hsplit := List.splitOn_intercalate ',' hparts (mt List.map_eq_nil_iff.mp h)
  rw [readRequested?, htext, Text.splitFirst?_append (by decide)]
  simp [hsplit, Function.comp_def]

theorem notMem_intercalate {ns : List String} (hns : ∀ n ∈ ns, IsPlain n) :
    '\n' ∉ (", ".intercalate ns).toList := by
  induction ns with
  | nil => simp
  | cons n ns ih =>
    obtain ⟨hn, hns⟩ := List.forall_mem_cons.mp hns
    have hname : '\n' ∉ n.toList := hn.notMem (by decide)
    by_cases h : ns = []
    · simp [h, hname]
    · rw [String.intercalate_cons_of_ne_nil h]
      simp [-String.toList_intercalate, hname, ih hns]

/-- The line of the requested names tells them all, also where there are none. -/
theorem requestedIn_requestedLine {a : Activation} (h : ∀ n ∈ a.requested, IsPlain n) :
    requestedIn (requestedLine a) = a.requested := by
  rcases hrequested : a.requested with _ | ⟨n, ns⟩
  · rw [requestedLine, hrequested]
    rfl
  · rw [← hrequested]
    have hne : a.requested ≠ [] := hrequested ▸ List.cons_ne_nil n ns
    have hline : requestedLine a =
        Text.unlines ["requested: " ++ ", ".intercalate a.requested] := by
      rw [requestedLine, if_neg (mt List.isEmpty_iff.mp hne)]
      simp [Text.unlines]
    have hend : '\n' ∉ ("requested: " ++ ", ".intercalate a.requested).toList := by
      rw [String.toList_append]
      exact fun hmem => (List.mem_append.mp hmem).elim (by decide) (notMem_intercalate h)
    rw [requestedIn, hline, Text.lines_unlines (List.forall_mem_singleton.mpr hend)]
    simp [readRequested?_intercalate hne h]

end Command

end GlslCompliance
