import ScenarioTree.Format.Yaml.Node
import ScenarioTree.Format.Yaml.Scalar
import ScenarioTree.Format.Yaml.TokenStream

/-!
# Reading YAML

A text holds one document, or none, which reads as null. The keys of mappings are scalars, taken as
strings whatever they look like; of pairs with one key the last one counts. Lists and mappings may
nest 128 deep, also through aliases, and aliases may be followed a hundred times for each part of
the document.
-/

namespace ScenarioTree.Yaml

/-! ## Parts of a document -/

mutual

/-- How many parts a node consists of; a collection counts twice. -/
def Node.size : Node → Nat
  | .scalar .. | .alias _ => 1
  | .sequence _ _ items => 2 + Node.itemsSize items
  | .mapping _ _ pairs => 2 + Node.pairsSize pairs

def Node.itemsSize : List Node → Nat
  | [] => 0
  | item :: rest => item.size + Node.itemsSize rest

def Node.pairsSize : List (Node × Node) → Nat
  | [] => 0
  | (key, value) :: rest => key.size + value.size + Node.pairsSize rest

end

/-- The nodes that anchors stand for. -/
abbrev Targets := List (Nat × Node)

/-- Notes what an anchor stands for, if a node has one. -/
def Targets.define (targets : Targets) (anchor : Option Nat) (node : Node) : Targets :=
  match anchor with
  | some anchor => (anchor, node) :: targets
  | none => targets

mutual

/-- Collects the nodes with anchors. Of nodes with one number the last one counts. -/
def Node.targets (targets : Targets) : Node → Targets
  | .scalar anchor tag plain text => targets.define anchor (.scalar anchor tag plain text)
  | .alias _ => targets
  | .sequence anchor tag items =>
    Node.itemsTargets (targets.define anchor (.sequence anchor tag items)) items
  | .mapping anchor tag pairs =>
    Node.pairsTargets (targets.define anchor (.mapping anchor tag pairs)) pairs

def Node.itemsTargets (targets : Targets) : List Node → Targets
  | [] => targets
  | item :: rest => Node.itemsTargets (item.targets targets) rest

def Node.pairsTargets (targets : Targets) : List (Node × Node) → Targets
  | [] => targets
  | (key, value) :: rest => Node.pairsTargets (value.targets (key.targets targets)) rest

end

/-! ## Values -/

/-- Whether a collection can be read with its tag: not with one of one's own. -/
def acceptsTag (tag : Option String) : Bool := tag.all fun tag => tag.toList.head? != some '!'

/-- The value of a scalar. -/
def scalarValue? (tag : Option String) (plain : Bool) (text : String) : Option Value :=
  match tag with
  | some tag => taggedValue? tag text
  | none => if plain then plainValue? text else some (.string text)

/-- The key that a node stands for, and how many aliases may be followed after it. -/
def keyText? (targets : Targets) (jumps : Nat) : Node → Option (String × Nat)
  | .scalar _ _ _ text => some (text, jumps)
  | .alias anchor =>
    match jumps, targets.lookup anchor with
    | jumps + 1, some (.scalar _ _ _ text) => some (text, jumps)
    | _, _ => none
  | _ => none

mutual

/-- The value of a node in which collections may nest `depth` deep and `jumps` aliases may be
    followed, and how many aliases are left. -/
def nodeValue? (targets : Targets) (depth jumps : Nat) : Node → Option (Value × Nat)
  | .scalar _ tag plain text => (scalarValue? tag plain text).map (·, jumps)
  | .alias anchor =>
    match jumps, targets.lookup anchor with
    | jumps + 1, some (.scalar _ tag plain text) => (scalarValue? tag plain text).map (·, jumps)
    | jumps + 1, some (.sequence _ tag items) => sequenceValue? targets depth jumps tag items
    | jumps + 1, some (.mapping _ tag pairs) => mappingValue? targets depth jumps tag pairs
    | _, _ => none
  | .sequence _ tag items => sequenceValue? targets depth jumps tag items
  | .mapping _ tag pairs => mappingValue? targets depth jumps tag pairs
termination_by (depth, 2, 0)

def sequenceValue? (targets : Targets) (depth jumps : Nat) (tag : Option String)
    (items : List Node) : Option (Value × Nat) :=
  match depth with
  | 0 => none
  | depth + 1 =>
    if acceptsTag tag then
      (itemValues? targets depth jumps items).map fun (values, jumps) => (.array values, jumps)
    else none
termination_by (depth, 1, 0)

def mappingValue? (targets : Targets) (depth jumps : Nat) (tag : Option String)
    (pairs : List (Node × Node)) : Option (Value × Nat) :=
  match depth with
  | 0 => none
  | depth + 1 =>
    if acceptsTag tag then
      (pairValues? targets depth jumps pairs).map fun (entries, jumps) =>
        (.ofEntries entries, jumps)
    else none
termination_by (depth, 1, 0)

def itemValues? (targets : Targets) (depth jumps : Nat) : List Node → Option (List Value × Nat)
  | [] => some ([], jumps)
  | item :: rest => do
    let (value, jumps) ← nodeValue? targets depth jumps item
    let (values, jumps) ← itemValues? targets depth jumps rest
    return (value :: values, jumps)
termination_by items => (depth, 3, items.length)

def pairValues? (targets : Targets) (depth jumps : Nat) :
    List (Node × Node) → Option (List (String × Value) × Nat)
  | [] => some ([], jumps)
  | (key, value) :: rest => do
    let (key, jumps) ← keyText? targets jumps key
    let (value, jumps) ← nodeValue? targets depth jumps value
    let (entries, jumps) ← pairValues? targets depth jumps rest
    return ((key, value) :: entries, jumps)
termination_by pairs => (depth, 3, pairs.length)

end

/-- How deep collections may nest. -/
def nestingLimit : Nat := 128

/-- Reads a YAML text. -/
def parse? (text : String) : Option Value := do
  let tokens ← tokens? text.toList
  match ← documentOfTokens? tokens with
  | none => return .null
  | some node =>
    let (value, _) ← nodeValue? (node.targets []) nestingLimit (100 * node.size) node
    return value

end ScenarioTree.Yaml
