import ScenarioTree.Text.Folding

/-!
# Sets of characters

Sets are kept as they are described: as ranges, and as what set operations make of other sets. A
character is looked up in the description.
-/

namespace ScenarioTree

/-- A set of characters. -/
inductive CharacterSet where
  /-- The characters of closed ranges of code points. -/
  | ranges (ranges : List (Nat × Nat))
  /-- All characters that are not in a set. -/
  | complement (set : CharacterSet)
  | union (first second : CharacterSet)
  | intersection (first second : CharacterSet)
  | difference (first second : CharacterSet)
  /-- The characters that are in one of two sets alone. -/
  | symmetricDifference (first second : CharacterSet)
  /-- The characters that differ in case alone from one in a set. -/
  | anyCase (set : CharacterSet)

namespace CharacterSet

/-- Whether a code point is in a set. -/
def has : CharacterSet → Nat → Bool
  | ranges list, n => Text.inRanges list n
  | complement set, n => !set.has n
  | union first second, n => first.has n || second.has n
  | intersection first second, n => first.has n && second.has n
  | difference first second, n => first.has n && !second.has n
  | symmetricDifference first second, n => first.has n != second.has n
  | anyCase set, n => set.has n || (Text.caseVariants n).any set.has

/-- Whether a character is in a set. -/
def contains (set : CharacterSet) (c : Char) : Bool := set.has c.toNat

/-- The set without members. -/
def empty : CharacterSet := ranges []

/-- The set of one character. -/
def only (c : Char) : CharacterSet := ranges [(c.toNat, c.toNat)]

/-- The set of all characters. -/
def any : CharacterSet := ranges [(0, 0x10FFFF)]

/-- The union of some sets. -/
def unions (sets : List CharacterSet) : CharacterSet := sets.foldl union empty

/-- The set, or its complement. -/
def negatedIf (negated : Bool) (set : CharacterSet) : CharacterSet :=
  if negated then complement set else set

/-- The set that a written table of code points describes. -/
def ofTable (text : String) : CharacterSet := ranges (Text.readRanges text)

end CharacterSet

end ScenarioTree
