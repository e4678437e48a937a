import GlslCompliance.Language.NameError

/-!
# Pipeline stages

The stages of the graphics and compute pipelines, their names, and sets of them.
-/

namespace GlslCompliance

/-- A stage of the pipeline. -/
inductive Stage where
  | vertex
  | tessControl
  | tessEvaluation
  | geometry
  | fragment
  | compute
  deriving DecidableEq, Repr

namespace Stage

instance : Inhabited Stage := ⟨vertex⟩

/-- All stages, in pipeline order. -/
def all : List Stage := [vertex, tessControl, tessEvaluation, geometry, fragment, compute]

/-- The name of a stage in messages. -/
def name : Stage → String
  | vertex => "vertex"
  | tessControl => "tessellation control"
  | tessEvaluation => "tessellation evaluation"
  | geometry => "geometry"
  | fragment => "fragment"
  | compute => "compute"

/-- The name of a stage in configurations. -/
def key : Stage → String
  | vertex => "vertex"
  | tessControl => "tess_control"
  | tessEvaluation => "tess_evaluation"
  | geometry => "geometry"
  | fragment => "fragment"
  | compute => "compute"

/-- The usual file suffix of a stage's sources. -/
def suffix : Stage → String
  | vertex => "vert"
  | tessControl => "tesc"
  | tessEvaluation => "tese"
  | geometry => "geom"
  | fragment => "frag"
  | compute => "comp"

/-- The stage that a text names in any of the three spellings. -/
def ofName? (s : String) : Option Stage :=
  all.find? fun t => t.name == s || t.key == s || t.suffix == s

/-- Reads a stage by its name, its key or its file suffix. -/
def parse (s : String) : Except NameError Stage :=
  match ofName? s with
  | some t => .ok t
  | none => .error (.unknownStage s)

/-- The position of a stage in `Stage.all`. -/
def index : Stage → Nat
  | vertex => 0
  | tessControl => 1
  | tessEvaluation => 2
  | geometry => 3
  | fragment => 4
  | compute => 5

theorem ofName?_name (t : Stage) : ofName? t.name = some t := by cases t <;> decide

end Stage

/-- A set of stages. -/
structure StageSet where
  bits : BitVec 6
  deriving DecidableEq, Repr

namespace StageSet

/-- Whether a stage belongs to a set. -/
def contains (s : StageSet) (t : Stage) : Bool := s.bits.getLsbD t.index

/-- No stage at all. -/
def empty : StageSet := ⟨0⟩

/-- The set of one stage. -/
def singleton (t : Stage) : StageSet := ⟨BitVec.twoPow 6 t.index⟩

/-- The stages of either set. -/
def union (s t : StageSet) : StageSet := ⟨s.bits ||| t.bits⟩

/-- The union of a list of sets. -/
def unions (sets : List StageSet) : StageSet := sets.foldl union empty

/-- The members of a set, in pipeline order. -/
def members (s : StageSet) : List Stage := Stage.all.filter s.contains

@[simp] theorem contains_empty (t : Stage) : empty.contains t = false := by
  simp [contains, empty]

@[simp] theorem contains_singleton (t u : Stage) :
    (singleton t).contains u = decide (t = u) := by
  cases t <;> cases u <;> decide

@[simp] theorem contains_union (s t : StageSet) (u : Stage) :
    (s.union t).contains u = (s.contains u || t.contains u) := by
  simp [contains, union]

end StageSet

end GlslCompliance
