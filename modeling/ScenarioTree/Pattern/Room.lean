import ScenarioTree.Pattern.Basic

/-!
# The room of patterns

A pattern takes room: every repetition of a part is written out, and characters beyond ASCII take
several steps each. Patterns that take too much room are refused. Parts that have to be tried out
place by place are not written out; what they hold counts on its own.
-/

namespace ScenarioTree

namespace CharacterSet

/-- How many ranges describe a set. -/
def rangeCount : CharacterSet → Nat
  | ranges list => list.length
  | complement set => set.rangeCount + 1
  | union first second | intersection first second | difference first second
  | symmetricDifference first second => first.rangeCount + second.rangeCount
  | anyCase set => 2 * set.rangeCount

/-- Whether a set is described by ASCII characters. -/
def isAscii : CharacterSet → Bool
  | ranges list => list.all (·.2 < 0x80)
  | complement _ => false
  | union first second | symmetricDifference first second => first.isAscii && second.isAscii
  | intersection first second => first.isAscii || second.isAscii
  | difference first _ => first.isAscii
  | anyCase set => set.isAscii

/-- The room that a set takes. -/
def room (set : CharacterSet) : Nat :=
  if !set.isAscii then 400 + 28 * set.rangeCount
  else if set.rangeCount ≤ 1 then 32
  else 32 + 8 * set.rangeCount

end CharacterSet

namespace Pattern

/-- Whether a pattern has to be tried out place by place, when some groups are kept. -/
def isTried (kept : List Nat) : Pattern → Bool
  | seq first second | either first second => first.isTried kept || second.isTried kept
  | repeated pattern .. => pattern.isTried kept
  | group number pattern => kept.contains number || pattern.isTried kept
  | anchor condition => condition = .wordStart || condition = .wordFinish
  | empty | one _ => false
  | atomic _ | again _ | entered _ | look .. | back _ | choice .. => true

/-- The room that a pattern takes, when some groups are kept. -/
def room (kept : List Nat) : Pattern → Nat
  | empty | anchor _ => 32
  | one set => set.room
  | seq first second =>
    let (a, b) := (first.room kept, second.room kept)
    if first.isTried kept || second.isTried kept then max a b else a + b
  | either first second =>
    let (a, b) := (first.room kept, second.room kept)
    if first.isTried kept || second.isTried kept then max a b else a + b + 40
  | repeated pattern least most _ =>
    let once := pattern.room kept
    if pattern.isTried kept then once
    else
      match most with
      | some most => once * max least most + 40 * (most - least)
      | none => once * max least 1 + 40
  | group _ pattern => pattern.room kept + 64
  | atomic pattern | look _ pattern => pattern.room kept
  | again _ | entered _ | back _ => 0
  | choice condition matched otherwise =>
    max (condition.room kept) (max (matched.room kept) (otherwise.room kept))

/-- Whether a pattern takes no more room than there is: ten times 2^20 units. -/
def fits (pattern : Pattern) : Bool := pattern.room pattern.references ≤ 10 * 1 <<< 20

end Pattern

end ScenarioTree
