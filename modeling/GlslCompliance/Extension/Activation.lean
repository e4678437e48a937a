import GlslCompliance.Diagnostic.Basic
import GlslCompliance.Extension.Catalog
import GlslCompliance.Extension.Implication
import GlslCompliance.Text.Ranking

/-!
# Which extensions are active

The current behavior of every recognized extension, and the extensions that were ever enabled or
required, in the order in which that first happened. `#extension` directives change both:

* `assign` gives one extension a behavior, or all of them where the name is the wildcard;
* `obey` is a whole directive: it reads the keyword and assigns to every name that the directive's
  name brings along.
-/

namespace GlslCompliance

/-- An `#extension` directive: a name, a keyword, and where it stands. -/
structure Directive where
  name : String
  keyword : String
  location : Location
  deriving DecidableEq, Repr

/-- The behaviors of the recognized extensions, and those requested so far. -/
structure Activation where
  entries : List (String × Behavior)
  requested : List String
  deriving DecidableEq, Repr

namespace Activation

/-- Every extension at its initial behavior, none requested. -/
def initial : Activation := ⟨Catalog.entries, []⟩

/-- The behavior of an extension, `missing` for an unknown name. -/
def get (a : Activation) (name : String) : Behavior := (a.entries.lookup name).getD .missing

/-- Whether a name has an entry. -/
def isRecognized (a : Activation) (name : String) : Bool := a.entries.any fun e => e.1 == name

/-- Whether an extension may be used. -/
def isTurnedOn (a : Activation) (name : String) : Bool := (a.get name).isTurnedOn

/-- Whether one of several extensions may be used. -/
def anyTurnedOn (a : Activation) (names : List String) : Bool := names.any a.isTurnedOn

/-- The entries of the extensions that may be used. -/
def turnedOn (a : Activation) : List (String × Behavior) :=
  a.entries.filter fun e => e.2.isTurnedOn

/-! ### Reports -/

/-- The text of every message about a directive. -/
def directiveMessage (text : String) : String := "'#extension' : " ++ text

/-- The recognized name that is closest to an unknown one, if any is close. -/
def suggestion? (name : String) : Option String := (similarNames name Catalog.names 0.9 1).head?

/-- The report on an unknown name: an error where the extension is required. -/
def unsupported (name : String) (behavior : Behavior) (location : Location) : Diagnostic :=
  let rule := if behavior = .required then Rule.unsupportedExtension
    else Rule.unsupportedExtensionNotice
  let message := directiveMessage ("extension not supported: " ++ name)
  { rule.report message location with
    help := (suggestion? name).map fun n => s!"did you mean `{n}`?" }

/-- The report on an extension with gaps in its support. -/
def partiallySupported (name : String) (location : Location) : Diagnostic :=
  Rule.partialSupport.report
    (directiveMessage ("extension is only partially supported: " ++ name)) location

/-- The report on a wildcard that would turn every extension on. -/
def wildcardRefused (location : Location) : Diagnostic :=
  Rule.wildcardActivation.report
    (directiveMessage "extension 'all' cannot have 'require' or 'enable' behavior") location

/-- The report on a keyword that is not understood. -/
def keywordRefused (keyword : String) (location : Location) : Diagnostic :=
  Rule.unknownBehavior.report
    (directiveMessage ("behavior not supported: " ++ keyword)) location

/-! ### Changes -/

/-- The entries with a new behavior for one name. -/
def replace (name : String) (behavior : Behavior) (entries : List (String × Behavior)) :
    List (String × Behavior) :=
  entries.map fun e => if e.1 = name then (e.1, behavior) else e

/-- The requested names with one more, unless it is there already. -/
def addRequest (name : String) (requested : List String) : List String :=
  if name ∈ requested then requested else requested ++ [name]

/-- Gives every extension one behavior. A wildcard cannot enable or require. -/
def assignAll (a : Activation) (behavior : Behavior) (location : Location) :
    Activation × List Diagnostic :=
  if behavior.isRequested then (a, [wildcardRefused location])
  else ({ a with entries := a.entries.map fun e => (e.1, behavior) }, [])

/-- Gives the extension of a name a behavior. An extension that was partially supported before is
reported, an unknown one only reported. -/
def assign (a : Activation) (name : String) (behavior : Behavior) (location : Location) :
    Activation × List Diagnostic :=
  if name = Catalog.wildcard then a.assignAll behavior location
  else
    match a.entries.lookup name with
    | none => (a, [unsupported name behavior location])
    | some previous =>
      ({ entries := replace name behavior a.entries,
         requested := if behavior.isRequested then addRequest name a.requested else a.requested },
        if previous = .disabledPartial then [partiallySupported name location] else [])

/-- Gives several names a behavior, one after the other. -/
def assignEach (a : Activation) (behavior : Behavior) (location : Location) :
    List String → Activation × List Diagnostic
  | [] => (a, [])
  | name :: names =>
    let (a, first) := a.assign name behavior location
    let (a, others) := a.assignEach behavior location names
    (a, first ++ others)

/-- Gives a name, and all that it brings along in an implication table, a behavior. -/
def propagate (rows : List Implication) (a : Activation) (name : String) (behavior : Behavior)
    (location : Location) : Activation × List Diagnostic :=
  a.assignEach behavior location (Implication.closure rows name)

/-- Carries out a directive. With an unknown keyword it only reports. -/
def obey (a : Activation) (d : Directive) : Activation × List Diagnostic :=
  match Behavior.ofKeyword? d.keyword with
  | none => (a, [keywordRefused d.keyword d.location])
  | some behavior => a.propagate implications d.name behavior d.location

end Activation

end GlslCompliance
