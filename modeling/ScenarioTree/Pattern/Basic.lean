import ScenarioTree.Text.CharacterSet

/-!
# Patterns

Regular expressions with bounded and unbounded repetition, anchors, looks ahead and behind, groups
that are referred to, and conditions.

A pattern matches in one way before it matches in another: alternatives in their order, and
repetition as often as possible, or as seldom. Only atomic parts and conditions show that order:
they are left with the first way.
-/

namespace ScenarioTree

/-- A condition on a place in a text. -/
inductive Anchor where
  | start
  | finish
  | lineStart
  | lineFinish
  /-- A place where a word begins or ends, or one where none does. -/
  | edge (negated : Bool)
  | wordStart
  | wordFinish
  deriving DecidableEq

/-- A regular expression. -/
inductive Pattern where
  | empty
  | one (set : CharacterSet)
  | anchor (anchor : Anchor)
  | seq (first second : Pattern)
  | either (first second : Pattern)
  /-- A number of times; without an upper bound as often as it matches. The greedy ones first try
      more times. -/
  | repeated (pattern : Pattern) (least : Nat) (most : Option Nat) (isGreedy : Bool)
  /-- A match that is not looked for again once it has been found. -/
  | atomic (pattern : Pattern)
  /-- A match of which the place is kept. -/
  | group (number : Nat) (pattern : Pattern)
  /-- What a group has matched, once more. -/
  | again (number : Nat)
  /-- A group that has been entered before. -/
  | entered (number : Nat)
  /-- A match that follows here, without being consumed. -/
  | look (negated : Bool) (pattern : Pattern)
  /-- A number of characters back. -/
  | back (count : Nat)
  /-- One of two patterns, the first one behind a condition that matches. -/
  | choice (condition matched otherwise : Pattern)

namespace Pattern

/-! ## Parts -/

/-- The sequence of some patterns. -/
def sequence : List Pattern → Pattern
  | [] => empty
  | [pattern] => pattern
  | pattern :: rest => seq pattern (sequence rest)

/-- Keeps the alternatives of a pattern apart from those around it. -/
def sealed : Pattern → Pattern
  | either first second => seq empty (either first second)
  | pattern => pattern

/-- The pattern with some alternatives. If the last one has alternatives of its own, they do not
    become some of these. -/
def alternatives : List Pattern → Pattern
  | [] => empty
  | [pattern] => pattern
  | [first, last] => either first last.sealed
  | first :: rest => either first (alternatives rest)

/-- Whether a pattern may be repeated: it is not empty, and not a mere condition. -/
def isRepeatable : Pattern → Bool
  | empty | anchor _ | look .. => false
  | _ => true

/-- The groups that a pattern refers to. -/
def references : Pattern → List Nat
  | again number | entered number => [number]
  | seq first second | either first second => first.references ++ second.references
  | repeated pattern .. | atomic pattern | group _ pattern | look _ pattern => pattern.references
  | choice condition matched otherwise =>
    condition.references ++ matched.references ++ otherwise.references
  | empty | one _ | anchor _ | back _ => []

/-- The pattern with only those groups whose places are to be kept. -/
def keeping (numbers : List Nat) : Pattern → Pattern
  | seq first second => seq (first.keeping numbers) (second.keeping numbers)
  | either first second => either (first.keeping numbers) (second.keeping numbers)
  | repeated pattern least most isGreedy => repeated (pattern.keeping numbers) least most isGreedy
  | atomic pattern => atomic (pattern.keeping numbers)
  | group number pattern =>
    if numbers.contains number then group number (pattern.keeping numbers)
    else pattern.keeping numbers
  | look negated pattern => look negated (pattern.keeping numbers)
  | choice condition matched otherwise =>
    choice (condition.keeping numbers) (matched.keeping numbers) (otherwise.keeping numbers)
  | pattern => pattern

/-! ## Width -/

/-- How many characters a match has at least. -/
def width : Pattern → Nat
  | one _ => 1
  | seq first second => first.width + second.width
  | either first second => min first.width second.width
  | repeated pattern least _ _ => pattern.width * least
  | atomic pattern | group _ pattern => pattern.width
  | choice condition matched otherwise => condition.width + min matched.width otherwise.width
  | empty | anchor _ | again _ | entered _ | look .. | back _ => 0

/-- Whether all matches have the same number of characters. -/
def isFixed : Pattern → Bool
  | seq first second => first.isFixed && second.isFixed
  | either first second => first.isFixed && second.isFixed && first.width == second.width
  | repeated pattern least most _ => pattern.isFixed && most == some least
  | atomic pattern | group _ pattern => pattern.isFixed
  | again _ => false
  | choice condition matched otherwise =>
    condition.isFixed && matched.isFixed && otherwise.isFixed
      && condition.width + matched.width == otherwise.width
  | empty | one _ | anchor _ | entered _ | look .. | back _ => true

/-- A pattern of a fixed width behind the place that it ends at. -/
def behindFixed? (pattern : Pattern) : Option Pattern :=
  if pattern.isFixed then some (seq (back pattern.width) pattern) else none

/-- A pattern behind the place that it ends at. It has a fixed width, or its alternatives have one
    each. -/
def behind? : Pattern → Option Pattern
  | either first second =>
    (behindFixed? (either first second)).or do
      return either (← first.behindFixed?) (← second.behind?)
  | pattern => pattern.behindFixed?

end Pattern

end ScenarioTree
