import GlslCompliance.Proofs.Json.Values

/-!
# Looking into documents

What can be asked of a document that has been read: the text of a string, the items of an array, the
members of an object, the value of a member by its key. Each question has no answer where the
document is of another kind. `Json.parse?` is the document that is the whole content of a text; by
the grammar there is one at most (`parse?_eq_some_iff`).
-/

namespace GlslCompliance.Json

/-- The members of an object, in the order of the text, if every key stands for a text. -/
def Members.toList? : Members → Option (List (String × Node))
  | closed => some []
  | member (some key) v rest => rest.toList?.map ((key, v) :: ·)
  | _ => none

namespace Node

/-- The text of a string. -/
def text? : Node → Option String
  | .text s => s
  | _ => none

/-- The value of a number that is written by its digits alone. -/
def natural? : Node → Option Nat
  | .number n => if n.integral && !n.negative then some n.digits else none
  | _ => none

/-- The items of an array. -/
def items? : Node → Option (List Node)
  | .array items => some items.toList
  | _ => none

/-- The texts of an array of strings. -/
def texts? (v : Node) : Option (List String) := v.items?.bind (·.mapM text?)

/-- The members of an object. -/
def members? : Node → Option (List (String × Node))
  | .object members => members.toList?
  | _ => none

end Node

/-- The document that is the whole content of a text. -/
def parse? (text : String) : Option Node :=
  let (v, rest) := Node.read (Token.scan text.toList)
  if v.isWhole && rest.isEmpty then some v else none

/-- Reads the value of a member. -/
def valueOf {α : Type} (read : Node → Option α) (ms : List (String × Node)) (key : String) :
    Option α := (ms.lookup key).bind read

/-- Reads the value of a member that may be absent. -/
def valueOf? {α : Type} (read : Node → Option α) (ms : List (String × Node)) (key : String) :
    Option (Option α) :=
  match ms.lookup key with
  | none => some none
  | some v => (read v).map some

/-- A text is read as the document that it is the text of. -/
theorem parse?_eq_some_iff {text : String} {v : Node} :
    parse? text = some v ↔ v.IsWritten text.toList := by
  rw [Node.isWritten_iff, parse?]
  rcases Node.read (Token.scan text.toList) with ⟨w, rest⟩
  cases rest with
  | nil =>
    simp only [List.isEmpty_nil, Bool.and_true, Prod.mk.injEq, and_true]
    constructor
    · intro h
      split at h
      · next hw => exact Option.some.inj h ▸ ⟨hw, rfl⟩
      · exact nomatch h
    · rintro ⟨hv, rfl⟩
      exact if_pos hv
  | cons t rest => simp

theorem Node.items?_list (vs : List Node) : (Node.list vs).items? = some vs :=
  congrArg some (Items.toList_foldr vs)

theorem Node.members?_record (ms : List (String × Node)) : (Node.record ms).members? = some ms := by
  induction ms with
  | nil => rfl
  | cons m ms ih =>
    have hrest : (ms.foldr (fun m rest => Members.member (some m.1) m.2 rest) .closed).toList? =
        some ms := ih
    simp only [Node.record, List.foldr_cons, Node.members?, Members.toList?, hrest, Option.map_some]

/-- What is read back one by one is read back as a list. -/
theorem mapM_map_eq_some {α β : Type} {read : β → Option α} {write : α → β} {as : List α}
    (h : ∀ a ∈ as, read (write a) = some a) : (as.map write).mapM read = some as := by
  induction as with
  | nil => rfl
  | cons a as ih =>
    obtain ⟨ha, has⟩ := List.forall_mem_cons.mp h
    rw [List.map_cons, List.mapM_cons, ha, ih has]
    rfl

theorem Node.texts?_list (ss : List String) :
    (Node.list (ss.map Node.string)).texts? = some ss := by
  have hread : ∀ s ∈ ss, (Node.string s).text? = some s := fun _ _ => rfl
  rw [texts?, items?_list, Option.bind_some, mapM_map_eq_some hread]

end GlslCompliance.Json
