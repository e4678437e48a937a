import GlslCompliance.Decimal.Shortest
import GlslCompliance.Json.Document
import GlslCompliance.Text.Quoted

/-!
# Typed reading of JSON

A `Decoder` turns a document into a value. It walks the document in the order in which it is
written and stops at the first thing that is wrong: `malformed` where the text is not JSON, a
`Mismatch` where it is JSON of another shape than wanted.

* `decode` reads a whole text, with nothing but white space behind the value.
* `Record.decoder` reads a record with named fields, given as an object or as an array of the
  fields in order.
-/

namespace GlslCompliance.Json

/-! ### Errors -/

/-- What was found in place of something else. -/
inductive Found where
  | null
  | bool (b : Bool)
  | integer (n : Int)
  | floating (x : Float)
  | text (s : String)
  | sequence
  | map
  deriving DecidableEq, Repr

/-- What was wanted. -/
inductive Wanted where
  | u32
  | boolean
  | text
  | sequence
  | unit
  | record (name : String)
  deriving DecidableEq, Repr

/-- A difference between a JSON value and the shape that is wanted. -/
inductive Mismatch where
  | wrongKind (found : Found) (wanted : Wanted)
  /-- An integer that is no 32 bit number. -/
  | outOfRange (n : Int)
  /-- An array of `length` items that lacks a field of a record. -/
  | tooShort (length : Nat) (record : String) (size : Nat)
  | unknownVariant (name : String) (variants : List String)
  | duplicateField (name : String)
  | missingField (name : String)
  deriving DecidableEq, Repr

/-- Why a text could not be read. -/
inductive DecodeError where
  | malformed
  | mismatch (m : Mismatch)
  deriving DecidableEq, Repr

/-- Doubles in messages: positional from `1e-5` up to `1e16`. -/
def messageFormat : Decimal.Format := ⟨-5, 15⟩

/-- The words for what was found. -/
def Found.message : Found → String
  | null => "null"
  | bool b => s!"boolean `{b}`"
  | integer n => s!"integer `{n}`"
  | floating x => "floating point `" ++ String.ofList (Decimal.renderFloat messageFormat x) ++ "`"
  | text s => "string " ++ Text.quote s
  | sequence => "sequence"
  | map => "map"

/-- The words for what was wanted. -/
def Wanted.message : Wanted → String
  | u32 => "u32"
  | boolean => "a boolean"
  | text => "a string"
  | sequence => "a sequence"
  | unit => "unit"
  | record name => "struct " ++ name

/-- Names in backticks. -/
def backticked (name : String) : String := s!"`{name}`"

/-- The wording of a mismatch. -/
def Mismatch.message : Mismatch → String
  | wrongKind found wanted =>
    "invalid type: " ++ found.message ++ ", expected " ++ wanted.message
  | outOfRange n => s!"invalid value: integer `{n}`, expected u32"
  | tooShort length record size =>
    s!"invalid length {length}, expected struct {record} with {size} elements"
  | unknownVariant name variants =>
    "unknown variant " ++ backticked name ++ ", expected one of "
      ++ ", ".intercalate (variants.map backticked)
  | duplicateField name => "duplicate field " ++ backticked name
  | missingField name => "missing field " ++ backticked name

/-- The wording of an error. -/
def DecodeError.message : DecodeError → String
  | malformed => "malformed JSON text"
  | mismatch m => m.message

/-! ### Reading single values -/

/-- Reads a value out of a document. -/
abbrev Decoder (α : Type) := Node → Except DecodeError α

/-- What a document holds, if it can be read. An array or object is known by its bracket alone. -/
def Node.found? : Node → Option Found
  | .null => some .null
  | .bool b => some (.bool b)
  | .number n =>
    n.number?.map fun
      | .integer n => .integer n
      | .floating x => .floating x
  | .text s => s.map .text
  | .array _ => some .sequence
  | .object _ => some .map
  | .unreadable => none

/-- The error where a document is of another kind than wanted. -/
def wrongKind (wanted : Wanted) (n : Node) : DecodeError :=
  match n.found? with
  | some found => .mismatch (.wrongKind found wanted)
  | none => .malformed

/-- Reads true or false. -/
def decodeBool : Decoder Bool
  | .bool b => .ok b
  | n => .error (wrongKind .boolean n)

/-- Reads a string. -/
def decodeString : Decoder String
  | .text (some s) => .ok s
  | n => .error (wrongKind .text n)

/-- Reads an integer of 32 bits without sign. -/
def decodeUInt32 : Decoder UInt32
  | .number n =>
    match n.number? with
    | some (.integer i) =>
      if 0 ≤ i && i < UInt32.size then .ok i.toNat.toUInt32 else .error (.mismatch (.outOfRange i))
    | some (.floating x) => .error (.mismatch (.wrongKind (.floating x) .u32))
    | none => .error .malformed
  | n => .error (wrongKind .u32 n)

/-- Reads items one after the other. -/
def decodeItems {α : Type} (item : Decoder α) : Items → Except DecodeError (List α)
  | .closed => .ok []
  | .cut => .error .malformed
  | .item value rest => do
    let a ← item value
    let as ← decodeItems item rest
    return a :: as

/-- Reads a list. -/
def decodeList {α : Type} (item : Decoder α) : Decoder (List α)
  | .array items => decodeItems item items
  | n => .error (wrongKind .sequence n)

/-! ### Reading variants -/

/-- The value of a variant's name. -/
def variantNamed {α : Type} (variants : List (String × α)) (name : String) :
    Except DecodeError α :=
  match variants.lookup name with
  | some a => .ok a
  | none => .error (.mismatch (.unknownVariant name (variants.map Prod.fst)))

/-- Reads one of several variants without payload: its name, or an object whose only member has the
variant's name and the value null. Anything that is neither string nor object counts as malformed,
and so does an object that does not start with a key. -/
def decodeVariant {α : Type} (variants : List (String × α)) : Decoder α
  | .text (some name) => variantNamed variants name
  | .object (.member (some name) value rest) => do
    let a ← variantNamed variants name
    match value, rest with
    | .null, .closed => return a
    | .null, _ => throw .malformed
    | value, _ => throw (wrongKind .unit value)
  | _ => .error .malformed

/-! ### Reading records -/

/-- One field of a record that is being read: whether the draft has it, and how to put it there. -/
structure Field (β : Type) where
  name : String
  isFilled : β → Bool
  fill : Node → β → Except DecodeError β

/-- A field that a draft keeps as an option. -/
def Field.of {α β : Type} (name : String) (get : β → Option α) (set : α → β → β)
    (value : Decoder α) : Field β where
  name
  isFilled draft := (get draft).isSome
  fill n draft := do return set (← value n) draft

/-- A record: its fields in order, the draft that has none of them, and the value of a draft. The
value fails with the position of the first field that may not be absent and is. -/
structure Record (α β : Type) where
  name : String
  fields : List (Field β)
  blank : β
  finish : β → Except Nat α

namespace Record

variable {α β : Type}

/-- Fills fields with the items of an array, as far as there are any. There must be no more. -/
def fillItems : List (Field β) → Items → β → Except DecodeError β
  | _, .closed, draft => .ok draft
  | field :: fields, .item value rest, draft => do
    fillItems fields rest (← field.fill value draft)
  | _, _, _ => .error .malformed

/-- Fills fields with the members of an object. No field is given twice; members that are no field
are left out, whatever their value. -/
def fillMembers (fields : List (Field β)) : Members → β → Except DecodeError β
  | .closed, draft => .ok draft
  | .member (some key) value rest, draft =>
    match fields.find? fun f => f.name == key with
    | none => if value.isWhole then fillMembers fields rest draft else .error .malformed
    | some field =>
      if field.isFilled draft then .error (.mismatch (.duplicateField key))
      else do fillMembers fields rest (← field.fill value draft)
  | _, _ => .error .malformed

/-- The name of the field at a position. -/
def fieldName (r : Record α β) (position : Nat) : String :=
  ((r.fields[position]?).map Field.name).getD ""

/-- Reads a record. -/
def decoder (r : Record α β) : Decoder α
  | .array items => do
    let draft ← fillItems r.fields items r.blank
    (r.finish draft).mapError fun position =>
      .mismatch (.tooShort position r.name r.fields.length)
  | .object members => do
    let draft ← fillMembers r.fields members r.blank
    (r.finish draft).mapError fun position => .mismatch (.missingField (r.fieldName position))
  | n => .error (wrongKind (.record r.name) n)

end Record

/-! ### Reading texts -/

/-- Reads a value out of a text that holds nothing else. -/
def decode {α : Type} (d : Decoder α) (text : String) : Except DecodeError α := do
  let (node, rest) := Node.read (Token.scan text.toList)
  let a ← d node
  if rest.isEmpty then return a else throw .malformed

end GlslCompliance.Json
