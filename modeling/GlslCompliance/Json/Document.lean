import GlslCompliance.Json.Token

/-!
# JSON documents

A document as far as it can be read. Where the text breaks off or goes wrong, the value that should
have stood there is `unreadable`, and a container that was begun ends in `cut`. Whoever walks a
document from left to right therefore meets the first fault of the text in its place, and what
stands in front of a fault can be judged before it.

* `Node.read` builds the document from tokens, one token a step. It keeps the containers that wait
  for a value in a list of frames.
* `Node.isWhole` says that nothing is missing anywhere.
* `Node.render` is the compact text of a document.
-/

namespace GlslCompliance.Json

mutual

/-- A JSON value as far as it can be read. -/
inductive Node where
  | null
  | bool (b : Bool)
  | number (n : Numeral)
  /-- A string; `none` is one of right form that stands for no text. -/
  | text (s : Option String)
  | array (items : Items)
  | object (members : Members)
  /-- No value could be read. -/
  | unreadable
  deriving Repr

/-- The items of an array, up to its closing bracket or to a fault. -/
inductive Items where
  | closed
  | cut
  | item (value : Node) (rest : Items)
  deriving Repr

/-- The members of an object, up to its closing brace or to a fault. -/
inductive Members where
  | closed
  | cut
  | member (key : Option String) (value : Node) (rest : Members)
  deriving Repr

end

/-- Puts items, the last one first, in front of others. -/
def Items.prependReversed (rest : Items) : List Node → Items
  | [] => rest
  | value :: before => prependReversed (.item value rest) before

/-- Puts members, the last one first, in front of others. -/
def Members.prependReversed (rest : Members) : List (Option String × Node) → Members
  | [] => rest
  | (key, value) :: before => prependReversed (.member key value rest) before

/-! ### Reading -/

/-- A container that waits for a value, with what stands in front of that value, the last first. -/
inductive Frame where
  | item (before : List Node)
  | member (before : List (Option String × Node)) (key : Option String)
  deriving Repr

/-- A place in a document, between two tokens. -/
inductive Place where
  /-- A value has to come. -/
  | beforeValue (around : List Frame)
  /-- Behind the opening bracket of an array. -/
  | arrayStart (around : List Frame)
  /-- Behind an item. -/
  | afterItem (items : List Node) (around : List Frame)
  /-- Behind the opening brace of an object. -/
  | objectStart (around : List Frame)
  /-- Behind a comma in an object. -/
  | beforeKey (members : List (Option String × Node)) (around : List Frame)
  /-- Behind a key. -/
  | afterKey (members : List (Option String × Node)) (key : Option String) (around : List Frame)
  /-- Behind a member. -/
  | afterMember (members : List (Option String × Node)) (around : List Frame)
  deriving Repr

/-- A value that is complete, or the place that has been reached. -/
inductive Progress where
  | complete (value : Node)
  | at (place : Place)
  deriving Repr

namespace Place

/-- A value has been read in the innermost of some frames. -/
def supply (value : Node) : List Frame → Progress
  | [] => .complete value
  | .item before :: around => .at (.afterItem (value :: before) around)
  | .member before key :: around => .at (.afterMember ((key, value) :: before) around)

/-- The whole document around a value that ends in a fault. -/
def abandon (value : Node) : List Frame → Node
  | [] => value
  | .item before :: around =>
    abandon (.array (Items.prependReversed (.item value .cut) before)) around
  | .member before key :: around =>
    abandon (.object (Members.prependReversed (.member key value .cut) before)) around

/-- The document that has been read up to a place behind which nothing can be read. -/
def giveUp : Place → Node
  | beforeValue around => abandon .unreadable around
  | arrayStart around => abandon (.array .cut) around
  | afterItem items around => abandon (.array (Items.prependReversed .cut items)) around
  | objectStart around => abandon (.object .cut) around
  | beforeKey members around => abandon (.object (Members.prependReversed .cut members)) around
  | afterKey members k around =>
    abandon (.object (Members.prependReversed (.member k .unreadable .cut) members)) around
  | afterMember members around => abandon (.object (Members.prependReversed .cut members)) around

/-- Reads a token where a value has to come. -/
def startValue (around : List Frame) : Token → Option Progress
  | .null => some (supply .null around)
  | .bool b => some (supply (.bool b) around)
  | .number n => some (supply (.number n) around)
  | .text s => some (supply (.text s) around)
  | .openBracket => some (.at (.arrayStart around))
  | .openBrace => some (.at (.objectStart around))
  | _ => none

/-- Reads one token; `none` where it does not belong there. -/
def step : Place → Token → Option Progress
  | beforeValue around, t => startValue around t
  | arrayStart around, .closeBracket => some (supply (.array .closed) around)
  | arrayStart around, t => startValue (.item [] :: around) t
  | afterItem items around, .comma => some (.at (.beforeValue (.item items :: around)))
  | afterItem items around, .closeBracket =>
    some (supply (.array (Items.prependReversed .closed items)) around)
  | objectStart around, .closeBrace => some (supply (.object .closed) around)
  | objectStart around, .text k => some (.at (.afterKey [] k around))
  | beforeKey members around, .text k => some (.at (.afterKey members k around))
  | afterKey members k around, .colon => some (.at (.beforeValue (.member members k :: around)))
  | afterMember members around, .comma => some (.at (.beforeKey members around))
  | afterMember members around, .closeBrace =>
    some (supply (.object (Members.prependReversed .closed members)) around)
  | _, _ => none

/-- Reads tokens from a place until the document is complete or a fault is met. The result is the
document and the tokens behind it. -/
def read (place : Place) : List Token → Node × List Token
  | [] => (place.giveUp, [])
  | t :: ts =>
    match place.step t with
    | none => (place.giveUp, ts)
    | some (.complete value) => (value, ts)
    | some (.at place) => place.read ts

end Place

/-- Reads one value. The result is the value and the tokens behind it. -/
def Node.read (ts : List Token) : Node × List Token := (Place.beforeValue []).read ts

/-! ### Completeness -/

mutual

/-- Whether nothing is missing in a value. -/
def Node.isWhole : Node → Bool
  | .array items => items.isWhole
  | .object members => members.isWhole
  | .unreadable => false
  | _ => true

/-- Whether nothing is missing in items and behind them. -/
def Items.isWhole : Items → Bool
  | .closed => true
  | .cut => false
  | .item value rest => value.isWhole && rest.isWhole

/-- Whether nothing is missing in members and behind them. -/
def Members.isWhole : Members → Bool
  | .closed => true
  | .cut => false
  | .member _ value rest => value.isWhole && rest.isWhole

end

/-! ### Writing -/

mutual

/-- The tokens of a value. -/
def Node.tokens : Node → List Token
  | .null => [.null]
  | .bool b => [.bool b]
  | .number n => [.number n]
  | .text s => [.text s]
  | .array items => .openBracket :: items.tokens true
  | .object members => .openBrace :: members.tokens true
  | .unreadable => []

/-- The tokens of items, the first of which has no comma in front of it. -/
def Items.tokens : Bool → Items → List Token
  | _, .closed => [.closeBracket]
  | _, .cut => []
  | first, .item value rest =>
    (if first then [] else [.comma]) ++ value.tokens ++ rest.tokens false

/-- The tokens of members, the first of which has no comma in front of it. -/
def Members.tokens : Bool → Members → List Token
  | _, .closed => [.closeBrace]
  | _, .cut => []
  | first, .member key value rest =>
    (if first then [] else [.comma]) ++ .text key :: .colon :: value.tokens ++ rest.tokens false

end

namespace Node

/-- The string of a text. -/
def string (s : String) : Node := .text (some s)

/-- The number of a natural number. -/
def nat (n : Nat) : Node := .number (.ofNat n)

/-- An array. -/
def list (values : List Node) : Node := .array (values.foldr .item .closed)

/-- An object with the given members. -/
def record (members : List (String × Node)) : Node :=
  .object (members.foldr (fun m rest => .member (some m.1) m.2 rest) .closed)

/-- The compact text of a document. -/
def render (n : Node) : String := String.ofList (n.tokens.flatMap Token.render)

end Node

end GlslCompliance.Json
