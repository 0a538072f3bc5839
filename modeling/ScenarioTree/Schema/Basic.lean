import ScenarioTree.Pattern.Reading
import ScenarioTree.Schema.Link
import ScenarioTree.Shape.Basic

/-!
# Schemas

A schema as a tree of its rules. A rule that looks at one value alone is an assertion; all other
rules pass the value, or parts of it, on to schemas below. The rules of one schema are kept in
the order in which they are looked at.

A schema that forbids every value carries the name under which violations of it are reported. A
rule that cannot be read stays in its place, with the fault. `Schema.looseEnds` are the faults and
the references of a schema.
-/

namespace ScenarioTree

/-- What strings hold when they are decoded. -/
inductive Content where
  /-- Text in the standard alphabet of 64 characters. -/
  | base64
  /-- A JSON document. -/
  | json
  /-- A JSON document, encoded with the alphabet of 64 characters. -/
  | base64Json
  deriving DecidableEq

/-- What a rule asks of a value alone. -/
inductive Assertion where
  | kind (expected : List Kind)
  /-- A kind, where numbers count as they are written. -/
  | kindAsWritten (expected : List Kind)
  | listed (options : List Value)
  | equal (expected : Value)
  | atMost (counted : Countable) (limit : Nat)
  | atLeast (counted : Countable) (limit : Nat)
  | maximum (limit : Number)
  | exclusiveMaximum (limit : Number)
  | minimum (limit : Number)
  | exclusiveMinimum (limit : Number)
  | multipleOf (divisor : Binary64)
  | pattern (written : String) (pattern : Pattern)
  | shape (name : String) (shape : Shape)
  | content (content : Content)
  | required (properties : List String)
  | distinctItems
  /-- No items behind the first ones. -/
  | noItemsAfter (count : Nat)
  /-- No properties at all: the first one is too many. -/
  | noProperties
  /-- No names of properties: the whole value is wrong where there are any. -/
  | noNames

/-- A schema, or a part of one. -/
inductive Schema where
  /-- Forbids every value. -/
  | never (rule : String)
  | assert (rule : String) (assertion : Assertion)
  /-- All of the parts. -/
  | all (parts : List Schema)
  | anyOf (parts : List Schema)
  | oneOf (parts : List Schema)
  /-- Values that do not satisfy a schema, which is also kept as it is written. -/
  | not (schema : Schema) (written : Value)
  /-- One of two schemas, on a condition. -/
  | branch (condition satisfied otherwise : Schema)
  /-- Some items: one at least, unless there is another bound, and not more than there may be. -/
  | contains (atLeast atMost : Option Nat) (item : Schema)
  /-- Every item behind the first ones. -/
  | items (skipped : Nat) (item : Schema)
  /-- The first items, one by one. -/
  | tuple (items : List Schema)
  /-- The properties with these names. -/
  | properties (schemas : List (String × Schema))
  /-- The properties whose names match these patterns. -/
  | patterns (schemas : List (Pattern × Schema))
  /-- Every property: by its name, by the patterns that its name matches, or else as one of the
      others. Without a schema for the others there may be none. -/
  | members (named : List (String × Schema)) (matched : List (Pattern × Schema))
      (others : Option Schema)
  /-- The names of properties. -/
  | names (name : Schema)
  /-- The whole value, if it has these properties. -/
  | dependent (schemas : List (String × Schema))
  /-- The schema that a link leads to. -/
  | reference (link : Schema.Link)
  /-- A rule that cannot be read. -/
  | unreadable (fault : SchemaFault)

namespace Schema

/-- The schema that every value satisfies. -/
def always : Schema := all []

/-- What is still open in a schema. -/
inductive LooseEnd where
  | link (link : Link)
  | fault (fault : SchemaFault)

mutual

/-- The links and the faults of a schema, in the order in which the rules are looked at. -/
def looseEnds : Schema → List LooseEnd
  | never _ | assert .. => []
  | all parts | anyOf parts | oneOf parts | tuple parts => looseEndsOf parts
  | not schema _ | contains _ _ schema | items _ schema | names schema => schema.looseEnds
  | branch condition satisfied otherwise =>
    condition.looseEnds ++ satisfied.looseEnds ++ otherwise.looseEnds
  | properties schemas | dependent schemas => looseEndsOfNamed schemas
  | patterns schemas => looseEndsOfMatched schemas
  | members named matched others =>
    looseEndsOfMatched matched ++ looseEndsOfNamed named ++ looseEndsOfOthers others
  | reference target => [.link target]
  | unreadable cause => [.fault cause]

def looseEndsOf : List Schema → List LooseEnd
  | [] => []
  | schema :: rest => schema.looseEnds ++ looseEndsOf rest

def looseEndsOfNamed : List (String × Schema) → List LooseEnd
  | [] => []
  | (_, schema) :: rest => schema.looseEnds ++ looseEndsOfNamed rest

def looseEndsOfMatched : List (Pattern × Schema) → List LooseEnd
  | [] => []
  | (_, schema) :: rest => schema.looseEnds ++ looseEndsOfMatched rest

def looseEndsOfOthers : Option Schema → List LooseEnd
  | none => []
  | some schema => schema.looseEnds

end

end Schema

end ScenarioTree
