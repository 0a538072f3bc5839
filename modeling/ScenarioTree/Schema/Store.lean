import ScenarioTree.LoadError
import ScenarioTree.Reference
import ScenarioTree.Schema.Linked

/-!
# A store of schemas

A store keeps every schema that it has once given, with its references between files expanded. What
has been given stays: later changes of the files do not show. A request that fails leaves the store
as it was, and is tried again the next time.
-/

namespace ScenarioTree

/-- A schema in a store. -/
structure StoredSchema where
  /-- The document, expanded. -/
  tree : Value
  linked : Linked

namespace StoredSchema

/-- The schema of an expanded document. The path is for messages. -/
def ofValue (tree : Value) (path : Path) : Except LoadError StoredSchema :=
  match Linked.ofValue tree with
  | .ok linked => .ok ⟨tree, linked⟩
  | .error fault => .error (.schema path fault.message)

/-- Accepts data without violations. The first violation is the error. -/
def check (schema : StoredSchema) (data : Value) (path : Path) : Except LoadError Unit :=
  match schema.linked.violations data with
  | [] => .ok ()
  | first :: _ => .error (.invalidData path first.pointer first.rule first.message)

/-- The places of all violations but the first. -/
def furtherPlaces (schema : StoredSchema) (data : Value) : List String :=
  ((schema.linked.violations data).drop 1).map Violation.pointer

end StoredSchema

/-- A store of the schemas of a directory. The entries are in the order of their first request. -/
structure SchemaStore where
  directory : Path
  entries : List (Path × StoredSchema)

namespace SchemaStore

/-- A store that has given nothing yet. -/
def new (directory : Path) : SchemaStore := ⟨directory, []⟩

/-- How many schemas the store keeps. -/
def size (store : SchemaStore) : Nat := store.entries.length

/-- The schema that the store keeps for a path. -/
def get? (store : SchemaStore) (path : Path) : Option StoredSchema :=
  (store.entries.find? (·.1.same path)).map (·.2)

/-- Where in the store the schema of a path is kept. -/
def slot? (store : SchemaStore) (path : Path) : Option Nat :=
  store.entries.findIdx? (·.1.same path)

/-- The path of a schema of the directory. -/
def pathOf (store : SchemaStore) (name : String) : Path := store.directory.child name

/-- The schema of a path, from the store or else by a resolver. -/
def request (store : SchemaStore) (resolver : Resolver) (path : Path) :
    Except LoadError StoredSchema × SchemaStore :=
  match store.get? path with
  | some schema => (.ok schema, store)
  | none =>
    match resolver.resolveFile path with
    | .error error => (.error (.ofFile error), store)
    | .ok tree =>
      match StoredSchema.ofValue tree path with
      | .error error => (.error error, store)
      | .ok schema => (.ok schema, { store with entries := store.entries ++ [(path, schema)] })

/-- The schema under a name in the directory. -/
def compiled (store : SchemaStore) (resolver : Resolver) (name : String) :
    Except LoadError StoredSchema × SchemaStore :=
  store.request resolver (store.pathOf name)

/-- The document of the schema under a name in the directory. -/
def get (store : SchemaStore) (resolver : Resolver) (name : String) :
    Except LoadError Value × SchemaStore :=
  (store.compiled resolver name).map (·.map StoredSchema.tree) id

/-- The document of the schema of a path. -/
def load (store : SchemaStore) (resolver : Resolver) (path : Path) :
    Except LoadError Value × SchemaStore :=
  (store.request resolver path).map (·.map StoredSchema.tree) id

end SchemaStore

end ScenarioTree
