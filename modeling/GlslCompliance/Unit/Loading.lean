import GlslCompliance.Storage.ReadFailure
import GlslCompliance.Unit.Decoding

/-!
# Loading descriptions

A description of a unit as the content of a file, and what can go wrong with it.
-/

namespace GlslCompliance

/-- Why a description could not be loaded. -/
inductive LoadError where
  | unreadable (path : String) (reason : ReadFailure)
  | rejected (reason : Json.DecodeError)
  deriving DecidableEq, Repr

namespace LoadError

/-- The wording of the reason behind an error. -/
def reason : LoadError → String
  | unreadable _ r => r.message
  | rejected r => r.message

/-- The wording of an error. -/
def message : LoadError → String
  | unreadable path _ => "failed to read unit config " ++ path
  | rejected r => "invalid unit config: " ++ r.message

end LoadError

namespace UnitDescription

/-- The description that a text holds. -/
def ofText (text : String) : Except LoadError UnitDescription :=
  (parse text).mapError .rejected

/-- The description in the file at a path, given what reading that file has led to. -/
def load (path : String) (content : Except ReadFailure String) :
    Except LoadError UnitDescription :=
  match content with
  | .error reason => .error (.unreadable path reason)
  | .ok text => ofText text

end UnitDescription

end GlslCompliance
