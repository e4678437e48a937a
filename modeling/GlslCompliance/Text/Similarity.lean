/-!
# Similarity of names

The Jaro–Winkler similarity of two texts over their characters, a number between 0 and 1. Jaro's
measure pairs equal characters that stand not too far apart and counts the pairs and how many of
them are out of order; Winkler's addition favours texts that start alike.
-/

namespace GlslCompliance.Text

/-- A character of the second text, and whether it has been paired. -/
abbrev Slot := Char × Bool

/-- Takes the first free slot that holds `c` and whose position, counted from `i`, lies at or above
`lo` and below `hi`. -/
def takeSlot (c : Char) (lo hi i : Nat) : List Slot → Option (List Slot)
  | [] => none
  | (d, taken) :: rest =>
    if hi ≤ i then none
    else if lo ≤ i && !taken && d == c then some ((d, true) :: rest)
    else (takeSlot c lo hi (i + 1) rest).map ((d, taken) :: ·)

/-- Pairs the characters of the first text, the one at position `i` next, with slots at most
`range` positions away. The result is the paired characters of the first text and all slots. -/
def pairCharacters (range i : Nat) : List Char → List Slot → List Char × List Slot
  | [], slots => ([], slots)
  | c :: cs, slots =>
    match takeSlot c (i - range) (i + range + 1) 0 slots with
    | none => pairCharacters range (i + 1) cs slots
    | some slots =>
      let (paired, slots) := pairCharacters range (i + 1) cs slots
      (c :: paired, slots)

/-- In how many places two texts differ, as far as both go. -/
def differences (a b : List Char) : Nat := (a.zip b).countP fun p => p.1 != p.2

/-- The Jaro similarity. -/
def jaro (a b : List Char) : Float :=
  if a.isEmpty && b.isEmpty then 1.0
  else
    let range := max (max a.length b.length / 2) 1 - 1
    let (left, slots) := pairCharacters range 0 a (b.map fun c => (c, false))
    let right := (slots.filter fun s => s.2).map Prod.fst
    if left.isEmpty then 0.0
    else
      let pairs := Float.ofNat left.length
      let ordered := Float.ofNat (left.length - differences left right / 2)
      (pairs / Float.ofNat a.length + pairs / Float.ofNat b.length + ordered / pairs) / 3.0

/-- The length of the common start of two texts. -/
def commonStart : List Char → List Char → Nat
  | c :: cs, d :: ds => if c = d then commonStart cs ds + 1 else 0
  | _, _ => 0

/-- The Jaro–Winkler similarity: above 0.7, each of the first four characters in common closes a
tenth of the gap to 1. -/
def jaroWinkler (a b : List Char) : Float :=
  let similarity := jaro a b
  if 0.7 < similarity then
    similarity + 0.1 * Float.ofNat (min (commonStart a b) 4) * (1.0 - similarity)
  else similarity

end GlslCompliance.Text
