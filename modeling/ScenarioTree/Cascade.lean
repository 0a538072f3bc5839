import ScenarioTree.Record.Basic

/-!
# Handing down sections

Parameters, metadata and hooks go from an application to its routes and from a route to its
scenarios. What the child has stays as it is, in its place; the parent only adds to it:

* of parameters and hooks, those whose key the child does not have, in their order;
* of metadata, the keys that the child does not have; lists under one key are joined, and of equal
  items only the first one stays.

A section that the parent does not have is left alone.
-/

namespace ScenarioTree

/-! ## Lists without repetition -/

/-- The items that are the same as none of those given and none that comes earlier. -/
def unseen {α : Type} (same : α → α → Bool) (seen : List α) : List α → List α
  | [] => []
  | item :: rest =>
    if seen.any (same · item) then unseen same seen rest
    else item :: unseen same (item :: seen) rest

/-- A list with those items of another one at its end that it does not have. -/
def appendUnseen {α : Type} (same : α → α → Bool) (own inherited : List α) : List α :=
  own ++ unseen same own inherited

namespace Cascade

/-- Whether two parameters have one key. -/
def sameKey (a b : Parameter) : Bool := a.key == b.key

/-- Parameters with those inherited whose key is new. -/
def mergeList (own inherited : List Parameter) : List Parameter :=
  appendUnseen sameKey own inherited

def mergeParameters (own inherited : Parameters) : Parameters where
  headers := mergeList own.headers inherited.headers
  pathVariables := mergeList own.pathVariables inherited.pathVariables
  queryParams := mergeList own.queryParams inherited.queryParams

/-- Hooks with those inherited that are new. -/
def mergeHooks (own inherited : List String) : List String := appendUnseen (· == ·) own inherited

/-! ## Metadata -/

/-- The items of two lists, of equal ones only the first. -/
def union (own inherited : List Value) : List Value := unseen Value.same [] (own ++ inherited)

/-- An entry of the metadata that parent and child disagree on. -/
structure Conflict where
  key : String
  child : Value
  parent : Value

/-- The metadata of a child with an entry that it inherits. If the child has another value under that
    key, and the two are not lists, its value stays and they are in conflict. -/
def mergeEntry (own : Fields) (entry : String × Value) : Fields × Option Conflict :=
  match Fields.get? entry.1 own, entry.2 with
  | none, inherited => (Fields.insert entry.1 inherited own, none)
  | some (.array items), .array inherited =>
    (Fields.insert entry.1 (.array (union items inherited)) own, none)
  | some child, parent => (own, if child.same parent then none else some ⟨entry.1, child, parent⟩)

/-- The metadata of a child with the entries of its parent, which it inherits one after another, and
    the conflicts on the way. -/
def mergeEntries (own : Fields) : List (String × Value) → Fields × List Conflict
  | [] => (own, [])
  | entry :: rest =>
    let step := mergeEntry own entry
    let merged := mergeEntries step.1 rest
    (merged.1, step.2.toList ++ merged.2)

/-- Metadata with those inherited. -/
def mergeMeta (own inherited : Fields) : Fields := (mergeEntries own inherited).1

/-- The entries that parent and child disagree on. The child's values stay. -/
def metaConflicts (own inherited : Fields) : List Conflict := (mergeEntries own inherited).2

/-! ## Records -/

/-- A section of a child with that of its parent. One that the parent does not have is left alone;
    one that only the child does not have is merged as an empty one. -/
def inheritSection {α : Type} (merge : α → α → α) (empty : α) (child : Option α) :
    Option α → Option α
  | none => child
  | some inherited => some (merge (child.getD empty) inherited)

/-- The sections of a child with what it inherits. -/
def inheritSections (child parent : Sections) : Sections where
  parameters := inheritSection mergeParameters .empty child.parameters parent.parameters
  metadata := inheritSection mergeMeta [] child.metadata parent.metadata
  hooks := inheritSection mergeHooks [] child.hooks parent.hooks

/-- A record with what it inherits from another one. -/
def inherit {C P : Type} [Record C] [Record P] (child : C) (parent : P) : C :=
  Record.withSections child (inheritSections (Record.sections child) (Record.sections parent))

/-! ## Reports -/

/-- How many parameters a list gains. -/
structure Gain where
  list : String
  count : Nat

/-- The lists of parameters that gain entries, in a fixed order. -/
def parameterGains (own inherited : Parameters) : List Gain :=
  let gain (name : String) (own inherited : List Parameter) : Gain :=
    ⟨name, (unseen sameKey own inherited).length⟩
  [gain "headers" own.headers inherited.headers,
    gain "path_variables" own.pathVariables inherited.pathVariables,
    gain "query_params" own.queryParams inherited.queryParams].filter (0 < ·.count)

/-- The entries of the metadata that two records disagree on. -/
def conflicts (child parent : Sections) : List Conflict :=
  parent.metadata.elim [] (metaConflicts (child.metadata.getD []))

/-- The lists of parameters that a child gains entries in. -/
def gains (child parent : Sections) : List Gain :=
  parent.parameters.elim [] (parameterGains (child.parameters.getD .empty))

end Cascade

end ScenarioTree
