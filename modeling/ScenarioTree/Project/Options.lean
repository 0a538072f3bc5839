import ScenarioTree.Reference
import ScenarioTree.Schema.Bundled
import ScenarioTree.Text.Blank

/-!
# Options

What a project does not say about how it is loaded: where the schemas are, which environment is
selected, and how many documents may be open inside each other.
-/

namespace ScenarioTree

/-- How a project is loaded. -/
structure Options where
  schemaDirectory : Path
  /-- The selected environment, if any. -/
  environment : Option String
  maxDepth : Nat
  deriving DecidableEq

namespace Options

/-- The directory of the bundled schemas. It is fixed when the program is built, to the place of its
    sources; this path stands for whichever it is, and nothing depends on its spelling. -/
def bundledDirectory : Path := ⟨"/usr/share/scenario-tree/schema"⟩

/-- The bundled schemas, no environment, and the usual depth. -/
def usual : Options := ⟨bundledDirectory, none, Reference.defaultDepth⟩

/-- The variable that selects an environment. -/
def environmentVariable : String := "ROUTEST_ENV"

/-- The variable that names the directory of the schemas. -/
def schemaVariable : String := "ROUTEST_SCHEMA_DIR"

/-- The usual options with what the variables of a process say. Blank variables say nothing. -/
def ofVariables (process : Variables) : Options :=
  let said? (name : String) := (process name).filter fun text => !text.toList.all Text.isBlank
  { usual with
    environment := said? environmentVariable
    schemaDirectory := ((said? schemaVariable).map Path.mk).getD usual.schemaDirectory }

end Options

end ScenarioTree
