import ScenarioTree.Pattern.Basic
import ScenarioTree.Pattern.Members

/-!
# Matching patterns

`Pattern.ends` gives all places where a match that starts at a given place can end, each once, in
the order in which they are found. A repetition goes on from every place only once, so that no
pattern without groups is slow to match.
-/

namespace ScenarioTree

/-- The place of a group: where it begins and ends, as far as it has been entered and left. -/
structure Mark where
  number : Nat
  start : Option Nat
  finish : Option Nat
  deriving DecidableEq

/-- A place in a text, with the places of the groups so far. -/
structure Place where
  index : Nat
  marks : List Mark
  deriving DecidableEq

namespace Place

/-- The mark of a group. -/
def mark? (place : Place) (number : Nat) : Option Mark := place.marks.find? (·.number = number)

/-- Begins a group. -/
def enter (place : Place) (number : Nat) : Place :=
  { place with
    marks := place.marks.map fun mark =>
      if mark.number = number then { mark with start := some place.index } else mark }

/-- Ends a group. -/
def leave (place : Place) (number : Nat) : Place :=
  { place with
    marks := place.marks.map fun mark =>
      if mark.number = number then { mark with finish := some place.index } else mark }

end Place

/-! ## Anchors -/

/-- Whether a character of a word stands at an index. -/
def isWordAt (text : Array Char) (i : Nat) : Bool := text[i]?.any Pattern.Members.wordSet.contains

/-- Whether a condition holds at an index. -/
def Anchor.holds (text : Array Char) (i : Nat) : Anchor → Bool
  | start => i == 0
  | finish => i == text.size
  | lineStart => i == 0 || text[i - 1]? == some '\n'
  | lineFinish => i == text.size || text[i]? == some '\n'
  | edge negated => ((0 < i && isWordAt text (i - 1)) != isWordAt text i) != negated
  | wordStart => !(0 < i && isWordAt text (i - 1)) && isWordAt text i
  | wordFinish => 0 < i && isWordAt text (i - 1) && !isWordAt text i

namespace Pattern

/-! ## Repetition -/

/-- Where a repetition has been, by index, and the places found, the last one first. The numbers of
    times at which it has been at a place are the bits of a number. -/
structure Walk where
  seen : Array (List (Place × Nat))
  found : List Place

namespace Walk

def has (walk : Walk) (count : Nat) (place : Place) : Bool :=
  ((walk.seen.getD place.index []).find? (·.1 = place)).any (·.2.testBit count)

/-- Sets the bit of a number of times at a place. -/
def note (count : Nat) (place : Place) : List (Place × Nat) → List (Place × Nat)
  | [] => [(place, 1 <<< count)]
  | (other, counts) :: rest =>
    if other = place then (other, counts ||| 1 <<< count) :: rest
    else (other, counts) :: note count place rest

def visit (walk : Walk) (count : Nat) (place : Place) : Walk :=
  { walk with seen := walk.seen.modify place.index (note count place) }

def find (walk : Walk) (place : Place) : Walk := { walk with found := place :: walk.found }

end Walk

/-- How often something is repeated, and whether first more times are tried or fewer. -/
structure Bounds where
  least : Nat
  most : Option Nat
  isGreedy : Bool

/-- Whether there may be another time after a number of times. -/
def Bounds.allowsMore (bounds : Bounds) (count : Nat) : Bool := bounds.most.all (count < ·)

/-- The number of times after another one. Without an upper bound, it counts only up to the lower
    one. -/
def Bounds.next (bounds : Bounds) (count : Nat) : Nat :=
  if bounds.most.isSome then count + 1 else min (count + 1) bounds.least

/-- Whether another time counts that goes from a place to another. Where nothing asks for it and
    nothing stops it, it has to consume something. -/
def Bounds.admits (bounds : Bounds) (count : Nat) (before after : Place) : Bool :=
  bounds.most.isSome || count < bounds.least || after.index != before.index

/-- Repeats a step from a place, after a number of times. The bound is on the number of steps. -/
def walk (bounds : Bounds) (step : Place → List Place) : Nat → Nat → Place → Walk → Walk
  | 0, _, _, so => so
  | fuel + 1, count, place, so =>
    if so.has count place then so
    else
      let so := so.visit count place
      let here (so : Walk) := if bounds.least ≤ count then so.find place else so
      let further (so : Walk) :=
        if bounds.allowsMore count then
          ((step place).filter (bounds.admits count place)).foldl
            (fun so after => walk bounds step fuel (bounds.next count) after so) so
        else so
      if bounds.isGreedy then here (further so) else further (here so)

/-- The places that a repeated step leads to. -/
def repeatFrom (size : Nat) (bounds : Bounds) (step : Place → List Place) (place : Place) :
    List Place :=
  let steps := bounds.most.getD bounds.least + size + 2
  ((walk bounds step steps 0 place ⟨Array.replicate (size + 1) [], []⟩).found).reverse.eraseDups

/-! ## Matches -/

/-- Where what a mark covers ends, if it stands at an index once more. -/
def endOfCopy? (text : Array Char) (i : Nat) (mark : Mark) : Option Nat :=
  match mark.start, mark.finish with
  | some start, some finish =>
    let copied := text.extract start finish
    if start ≤ finish ∧ text.extract i (i + copied.size) = copied then some (i + copied.size)
    else none
  | _, _ => none

/-- The places where a match that starts at a place can end. -/
def ends (text : Array Char) : Pattern → Place → List Place
  | .empty, place => [place]
  | .one set, place =>
    if text[place.index]?.any set.contains then [{ place with index := place.index + 1 }] else []
  | .anchor condition, place => if condition.holds text place.index then [place] else []
  | .seq first second, place => ((ends text first place).flatMap (ends text second)).eraseDups
  | .either first second, place => (ends text first place ++ ends text second place).eraseDups
  | .repeated pattern 0 (some 1) isGreedy, place =>
    let after := ends text pattern place
    (if isGreedy then after ++ [place] else place :: after).eraseDups
  | .repeated pattern least most isGreedy, place =>
    repeatFrom text.size ⟨least, most, isGreedy⟩ (ends text pattern) place
  | .atomic pattern, place => (ends text pattern place).take 1
  | .group number pattern, place =>
    ((ends text pattern (place.enter number)).map (·.leave number)).eraseDups
  | .again number, place =>
    ((place.mark? number).bind (endOfCopy? text place.index)).toList.map
      ({ place with index := · })
  | .entered number, place => if (place.mark? number).any (·.start.isSome) then [place] else []
  | .look negated pattern, place =>
    let found := ends text pattern place
    if negated then if found.isEmpty then [place] else []
    else (found.map ({ · with index := place.index })).eraseDups
  | .back count, place =>
    if count ≤ place.index then [{ place with index := place.index - count }] else []
  | .choice condition matched otherwise, place =>
    match ends text condition place with
    | after :: _ => ends text matched after
    | [] => ends text otherwise place

/-- The marks of the groups that a pattern refers to, before any has been entered. -/
def marks (pattern : Pattern) : List Mark := pattern.references.eraseDups.map (⟨·, none, none⟩)

/-- Whether the pattern matches somewhere in a text. -/
def occursIn (pattern : Pattern) (text : String) : Bool :=
  let characters := text.toList.toArray
  let marks := pattern.marks
  (List.range (characters.size + 1)).any fun i => !(ends characters pattern ⟨i, marks⟩).isEmpty

/-! ## Ends -/

end Pattern

end ScenarioTree
