import ScenarioTree.Project.Loader

/-!
# One-line summaries

Texts that show a loader, or a part of it, on one line.
-/

namespace ScenarioTree

/-- The text of a structure: its name and its fields, and dots if there are more of them. -/
def summary (name : String) (fields : List (String × String)) (hasMore : Bool) : String :=
  let shown := fields.map fun (key, text) => key ++ ": " ++ text
  name ++ " \x7b " ++ ", ".intercalate (shown ++ if hasMore then [".."] else []) ++ " \x7d"

def SchemaStore.summary (store : SchemaStore) : String :=
  ScenarioTree.summary "SchemaStore"
    [("schema_dir", Text.quoted store.directory.text), ("cached", toString store.size)] true

def StoredSchema.summary (schema : StoredSchema) : String :=
  ScenarioTree.summary "CompiledSchema" [("tree", schema.tree.listing)] true

def Options.summary (options : Options) : String :=
  ScenarioTree.summary "LoadOptions"
    [("schema_dir", Text.quoted options.schemaDirectory.text),
      ("environment", match options.environment with
        | none => "None"
        | some name => "Some(" ++ Text.quoted name ++ ")"),
      ("max_reference_depth", toString options.maxDepth)] false

/-- The text of what loads documents with a bound on their nesting. -/
def Options.documentSummary (options : Options) : String :=
  ScenarioTree.summary "DocumentLoader" [("max_depth", toString options.maxDepth)] true

def Loader.summary (loader : Loader) : String :=
  ScenarioTree.summary "ProjectLoader"
    [("options", loader.options.summary), ("schemas", loader.schemas.summary),
      ("documents", loader.options.documentSummary)] true

end ScenarioTree
