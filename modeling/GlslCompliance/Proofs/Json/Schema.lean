import GlslCompliance.Proofs.Json.Looking
import Mathlib.Algebra.Group.Nat.Defs

/-!
# Schemas of documents

A schema describes documents by their form: the kind of a value, the spelling of a string, the
members an object must have and may have. `Schema.accepts` judges a document by a schema. It looks
at nothing but the document.
-/

namespace GlslCompliance.Json

/-- A number that stands for a whole number: `2`, but also `2.0` and `20e-1`. -/
def Numeral.whole? (n : Numeral) : Option Int :=
  let signed (m : Nat) : Int := if n.negative then -m else m
  match n.scale with
  | .ofNat k => some (signed (n.digits * 10 ^ k))
  | .negSucc k =>
    if 10 ^ (k + 1) ∣ n.digits then some (signed (n.digits / 10 ^ (k + 1))) else none

/-- The whole number of a document. -/
def Node.whole? : Node → Option Int
  | .number n => n.whole?
  | _ => none

/-- The form that a document is to have. -/
inductive Schema where
  /-- A string. -/
  | text
  /-- One of some strings. -/
  | oneOf (texts : List String)
  /-- A string of as many characters as there are sets, one out of each. -/
  | spelled (form : List (List Char))
  /-- A whole number that is not too small. -/
  | integer (minimum : Int)
  /-- An array of items of one form. -/
  | array (items : Schema)
  /-- An object with all the required members, and with none but those that are listed. -/
  | object (required : List String) (properties : List (String × Schema))

namespace Schema

/-- Whether characters are taken out of some sets, one out of each in turn. -/
def matchesForm : List (List Char) → List Char → Bool
  | [], [] => true
  | set :: form, c :: cs => set.contains c && matchesForm form cs
  | _, _ => false

mutual

/-- Whether a document has the form of a schema. -/
def accepts : Schema → Node → Bool
  | text, v => v.text?.isSome
  | oneOf texts, v => v.text?.any fun s => texts.contains s
  | spelled form, v => v.text?.any fun s => matchesForm form s.toList
  | integer minimum, v => v.whole?.any fun n => minimum ≤ n
  | array items, v => v.items?.any fun vs => vs.all fun v => items.accepts v
  | object required properties, v => v.members?.any fun ms =>
    (required.all fun key => ms.any fun m => m.1 == key) &&
      ms.all fun m => acceptsMember properties m.1 m.2

/-- Whether a member is listed, and its value has the form that is listed for it. -/
def acceptsMember : List (String × Schema) → String → Node → Bool
  | [], _, _ => false
  | (name, form) :: properties, key, v =>
    if name = key then form.accepts v else acceptsMember properties key v

end

/-! ### Documents that are written out -/

variable {v : Node}

theorem accepts_text_string (s : String) : text.accepts (.string s) = true := by
  rw [accepts]
  rfl

/-- A text of a certain form is accepted if it has that form. -/
theorem accepts_spelled_string (form : List (List Char)) (s : String) :
    (spelled form).accepts (.string s) = matchesForm form s.toList := by
  rw [accepts]
  rfl

theorem accepts_integer_nat (n : Nat) : (integer 0).accepts (.nat n) = true := by
  have hwhole : (Node.nat n).whole? = some (n : Int) := by
    simp [Node.nat, Node.whole?, Numeral.whole?, Numeral.ofNat]
  rw [accepts, hwhole]
  exact decide_eq_true (Int.natCast_nonneg n)

theorem accepts_array_list (items : Schema) (vs : List Node) :
    (array items).accepts (.list vs) = vs.all fun v => items.accepts v := by
  rw [accepts, Node.items?_list]
  rfl

/-- An object is accepted if nothing required is absent and each member is accepted. -/
theorem accepts_object_record (required : List String) (properties : List (String × Schema))
    (ms : List (String × Node)) : (object required properties).accepts (.record ms) =
      ((required.all fun key => ms.any fun m => m.1 == key) &&
        ms.all fun m => acceptsMember properties m.1 m.2) := by
  rw [accepts, Node.members?_record]
  rfl

theorem acceptsMember_cons_self (key : String) (form : Schema)
    (properties : List (String × Schema)) (v : Node) :
    acceptsMember ((key, form) :: properties) key v = form.accepts v := by
  rw [acceptsMember, if_pos rfl]

end Schema

end GlslCompliance.Json
