import GlslCompliance.Text.Similarity

/-!
# The best candidates

Selection of the candidates that score above a threshold, the best first and equals in the order
given. The threshold is a comparison of floating point numbers. The order is that of integers which
the scores are carried over to, so that it is total; it tells a negative zero from the other one,
which a comparison does not.
-/

namespace GlslCompliance

/-- A number that orders floating point numbers: the bits of the magnitude, and under a minus sign
their complement, so that the negative zero comes right before the other one. -/
def orderKey (x : Float) : Int :=
  let bits := x.toBits.toNat
  if bits < Nat.pow 2 63 then bits else -(bits - Nat.pow 2 63 : Nat) - 1

/-- At most `limit` of the candidates that score strictly above `threshold`, by descending score;
candidates of equal score keep their order. -/
def topRanked {α : Type} (score : α → Float) (threshold : Float) (limit : Nat)
    (candidates : List α) : List α :=
  let scored := candidates.map fun c => (score c, c)
  let passing := scored.filter fun s => threshold < s.1
  ((passing.mergeSort fun s t => orderKey t.1 ≤ orderKey s.1).take limit).map Prod.snd

/-- At most `limit` of the candidates whose similarity to the target is above `threshold`, the most
similar first. -/
def similarNames (target : String) (candidates : List String) (threshold : Float)
    (limit : Nat) : List String :=
  topRanked (fun c => Text.jaroWinkler target.toList c.toList) threshold limit candidates

end GlslCompliance
