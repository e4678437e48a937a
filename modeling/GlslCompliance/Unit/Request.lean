import GlslCompliance.Diagnostic.Basic
import GlslCompliance.Extension.Activation
import GlslCompliance.Text.Blank
import GlslCompliance.Text.Split

/-!
# Extension requests

A unit may be given requests for extensions before any source is seen. In text a request is
`NAME:KEYWORD`; the first colon separates the two, and white space around either does not count.
The keyword is not looked at until the request is carried out as a directive.
-/

namespace GlslCompliance

/-- The request to carry out a directive for an extension. -/
structure ExtensionRequest where
  name : String
  keyword : String
  deriving DecidableEq, Repr

namespace ExtensionRequest

/-- Reads the text of a request. The name must not be blank; the keyword may be empty. -/
def parse (s : String) : Except NameError ExtensionRequest :=
  match Text.splitFirst? ':' s.toList with
  | none => .error (.malformedRequest s)
  | some (name, keyword) =>
    match Text.trim name with
    | [] => .error (.malformedRequest s)
    | trimmed => .ok ⟨String.ofList trimmed, String.ofList (Text.trim keyword)⟩

/-- The directive of a request that stands in the configuration of a unit. -/
def directive (r : ExtensionRequest) : Directive := ⟨r.name, r.keyword, .configuration⟩

end ExtensionRequest

end GlslCompliance
