import GlslCompliance.Language.NameError

/-!
# Language profiles

The compatibility tiers of the shading language and sets of them. A set is a vector of four bits,
one for each profile, so that equality of sets is equality of membership (`ProfileSet.ext`).
-/

namespace GlslCompliance

/-- A compatibility tier of the language. `none` is the desktop language before version 150, which
had no profiles yet. -/
inductive Profile where
  | none
  | core
  | compatibility
  | es
  deriving DecidableEq, Repr

namespace Profile

instance : Inhabited Profile := ⟨core⟩

/-- All profiles, in declaration order. -/
def all : List Profile := [none, core, compatibility, es]

/-- The name of a profile, in messages as well as in configurations. -/
def name : Profile → String
  | none => "none"
  | core => "core"
  | compatibility => "compatibility"
  | es => "es"

/-- The profile of a name. -/
def ofName? (s : String) : Option Profile := all.find? fun p => p.name == s

/-- Reads a profile by its name. -/
def parse (s : String) : Except NameError Profile :=
  match ofName? s with
  | some p => .ok p
  | .none => .error (.unknownProfile s)

/-- Whether this is the profile of embedded systems; all others are desktop profiles. -/
def isEs (p : Profile) : Bool := p == es

/-- The position of a profile in `Profile.all`. -/
def index : Profile → Nat
  | none => 0
  | core => 1
  | compatibility => 2
  | es => 3

theorem index_lt (p : Profile) : p.index < 4 := by cases p <;> decide

theorem ofName?_name (p : Profile) : ofName? p.name = some p := by cases p <;> decide

end Profile

/-- A set of profiles. -/
structure ProfileSet where
  bits : BitVec 4
  deriving DecidableEq, Repr

namespace ProfileSet

/-- Whether a profile belongs to a set. -/
def contains (s : ProfileSet) (p : Profile) : Bool := s.bits.getLsbD p.index

/-- No profile at all. -/
def empty : ProfileSet := ⟨0⟩

/-- Every profile. -/
def all : ProfileSet := ⟨BitVec.allOnes 4⟩

/-- The set of one profile. -/
def singleton (p : Profile) : ProfileSet := ⟨BitVec.twoPow 4 p.index⟩

/-- The profiles of either set. -/
def union (s t : ProfileSet) : ProfileSet := ⟨s.bits ||| t.bits⟩

/-- The profiles outside a set. -/
def complement (s : ProfileSet) : ProfileSet := ⟨~~~s.bits⟩

/-- The union of a list of sets. -/
def unions (sets : List ProfileSet) : ProfileSet := sets.foldl union empty

/-- Whether no profile belongs to a set. -/
def isEmpty (s : ProfileSet) : Bool := s == empty

/-- Every profile but `es`. -/
def desktop : ProfileSet := unions ([.none, .core, .compatibility].map singleton)

/-- The members of a set, in declaration order. -/
def members (s : ProfileSet) : List Profile := Profile.all.filter s.contains

@[simp] theorem contains_empty (p : Profile) : empty.contains p = false := by
  simp [contains, empty]

@[simp] theorem contains_all (p : Profile) : all.contains p = true := by
  cases p <;> decide

@[simp] theorem contains_singleton (p q : Profile) :
    (singleton p).contains q = decide (p = q) := by
  cases p <;> cases q <;> decide

@[simp] theorem contains_union (s t : ProfileSet) (p : Profile) :
    (s.union t).contains p = (s.contains p || t.contains p) := by
  simp [contains, union]

@[simp] theorem contains_complement (s : ProfileSet) (p : Profile) :
    s.complement.contains p = !s.contains p := by
  simp [contains, complement, p.index_lt]

/-- Two sets with the same members are equal. -/
@[ext] theorem ext {s t : ProfileSet} (h : ∀ p, s.contains p = t.contains p) : s = t := by
  obtain ⟨a⟩ := s
  obtain ⟨b⟩ := t
  congr 1
  refine BitVec.eq_of_getLsbD_eq fun i hi => ?_
  match i, hi with
  | 0, _ => exact h .none
  | 1, _ => exact h .core
  | 2, _ => exact h .compatibility
  | 3, _ => exact h .es

end ProfileSet

end GlslCompliance
