import ScenarioTree.FileError
import ScenarioTree.Tag.Query

/-!
# Why a project cannot be loaded

The causes for which a project cannot be loaded or its scenarios cannot be selected, and their
wording.
-/

namespace ScenarioTree

/-- Why the configuration of an environment cannot be selected. -/
inductive EnvironmentFault where
  | noFile (directory : Path)
  | severalFiles (count : Nat)
  deriving DecidableEq

def EnvironmentFault.text : EnvironmentFault → String
  | .noFile directory => s!"no config file found in {directory.text}"
  | .severalFiles count => s!"expected one config file, found {count}"

/-- Why a project cannot be loaded. -/
inductive LoadError where
  | invalidPath (path : Path)
  /-- The schema is not well formed. -/
  | schema (path : Path) (text : String)
  /-- The document does not fit: where in it, and which rule it breaks. -/
  | invalidData (path : Path) (instancePath rule text : String)
  /-- The schema declares a property that records of the kind do not have. -/
  | unknownProperty (path : Path) (kind property : String)
  | environment (name : String) (fault : EnvironmentFault)
  | malformedQuery (query : String) (reason : Tag.Reason)
  | file (error : FileError)
  deriving DecidableEq

/-- The wording of an error. -/
def LoadError.message : LoadError → String
  | .invalidPath path => s!"Invalid path: {path.text}"
  | .schema path text => s!"Invalid schema {path.text}: {text}"
  | .invalidData path instancePath rule text =>
    s!"Invalid data in {path.text} at '{instancePath}' ({rule}): {text}"
  | .unknownProperty path kind property =>
    s!"Schema for {path.text} declares unknown {kind} property '{property}'"
  | .environment name fault => s!"Environment '{name}' config error: {fault.text}"
  | .malformedQuery query reason => s!"Malformed tag expression '{query}': {reason.message}"
  | .file error => error.message

/-- A document that is missing makes the path invalid. -/
def LoadError.ofFile : FileError → LoadError
  | .invalidPath path => .invalidPath path
  | error => .file error

end ScenarioTree
