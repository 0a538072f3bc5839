import ScenarioTree.Value

/-!
# Tables under construction

A table may be written in several places: by headers, by dotted keys, and by the headers of its
parts. Whether a place may still add to a table depends on how the table came into being, so tables
carry that until the document is complete.

A header may fill a table that only the headers of its parts have mentioned. A dotted key may add to
tables that dotted keys have made. Finished values, inline tables among them, take no additions, and
no key is given twice.
-/

namespace ScenarioTree.Toml

/-- A part of a document under construction. -/
inductive Node where
  /-- A finished value. -/
  | value (value : Value)
  /-- A table: whether it has been mentioned only as the parent of another one, whether a dotted key
      made it, and its entries. -/
  | table (implied dotted : Bool) (entries : List (String × Node))
  /-- The tables of a list, each with its entries. -/
  | tables (elements : List (List (String × Node)))

/-- The entries of a table under construction, in the order in which they came. -/
abbrev Entries := List (String × Node)

/-- Puts a node in the place of the one under a key. -/
def replace (entries : Entries) (key : String) (node : Node) : Entries :=
  entries.map fun entry => if entry.1 == key then (key, node) else entry

/-- Adds a node under a new key. -/
def add (entries : Entries) (key : String) (node : Node) : Entries := entries ++ [(key, node)]

/-- Follows a path of keys from a table, and changes the table at its end. Tables that are missing
    on the way are made. Of a list of tables the last one counts. A path of dotted keys stays away
    from tables that have a header of their own. -/
def descend {α : Type} (byDots : Bool) (change : Bool → Entries → Option (Entries × α)) :
    List String → Bool → Entries → Option (Entries × α)
  | [], dotted, entries => change dotted entries
  | key :: path, _, entries =>
    match entries.lookup key with
    | none => do
      let (inner, result) ← descend byDots change path byDots []
      return (add entries key (.table true byDots inner), result)
    | some (.value _) => none
    | some (.tables elements) => do
      let last ← elements.getLast?
      let (inner, result) ← descend byDots change path false last
      return (replace entries key (.tables (elements.dropLast ++ [inner])), result)
    | some (.table implied dotted inner) =>
      if byDots && !implied then none
      else do
        let (inner, result) ← descend byDots change path dotted inner
        return (replace entries key (.table implied dotted inner), result)

/-- Gives a value to a dotted key, seen from a table. -/
def assign (entries : Entries) (path : List String) (key : String) (value : Value) :
    Option Entries := do
  let (entries, _) ← descend true (fun dotted inner =>
    if dotted == path.isEmpty || (inner.lookup key).isSome then none
    else some (add inner key (.value value), ())) path false entries
  return entries

/-- Takes the table that a header names out of its parent, to fill it. It must not exist yet, unless
    it was only implied. -/
def openTable (root : Entries) (path : List String) (key : String) : Option (Entries × Entries) :=
  descend false (fun _ parent =>
    match parent.lookup key with
    | none => some (parent, [])
    | some (.table true false inner) => some (parent.filter (·.1 != key), inner)
    | some _ => none) path false root

/-- Puts a filled table back under its parent. -/
def closeTable (root : Entries) (path : List String) (key : String) (table : Entries) :
    Option Entries := do
  let (root, _) ← descend false (fun _ parent =>
    if (parent.lookup key).isSome then none
    else some (add parent key (.table false false table), ())) path false root
  return root

/-- Checks that a header may begin another table of the list that it names. -/
def openElement (root : Entries) (path : List String) (key : String) : Option Entries := do
  let (root, _) ← descend false (fun _ parent =>
    match parent.lookup key with
    | none | some (.tables _) => some (parent, ())
    | some _ => none) path false root
  return root

/-- Adds a filled table to its list. -/
def closeElement (root : Entries) (path : List String) (key : String) (table : Entries) :
    Option Entries := do
  let (root, _) ← descend false (fun _ parent =>
    match parent.lookup key with
    | none => some (add parent key (.tables [table]), ())
    | some (.tables elements) => some (replace parent key (.tables (elements ++ [table])), ())
    | some _ => none) path false root
  return root

mutual

/-- The value of a node. -/
def Node.toValue : Node → Value
  | .value v => v
  | .table _ _ entries => .ofEntries (Node.toFields entries)
  | .tables elements => .array (Node.toItems elements)

def Node.toFields : List (String × Node) → List (String × Value)
  | [] => []
  | (key, node) :: rest => (key, node.toValue) :: Node.toFields rest

def Node.toItems : List (List (String × Node)) → List Value
  | [] => []
  | entries :: rest => .ofEntries (Node.toFields entries) :: Node.toItems rest

end

end ScenarioTree.Toml
