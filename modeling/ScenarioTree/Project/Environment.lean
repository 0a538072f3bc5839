import ScenarioTree.LoadError
import ScenarioTree.Project.Layout
import ScenarioTree.Source

/-!
# Environments

The values that a project has for one environment. They are in the one file of the configuration
directory whose name, without its extension, is that of the environment. What else is in the
directory does not matter, and neither does the order of its entries.
-/

namespace ScenarioTree

/-- The values of one environment. -/
structure Environment where
  name : String
  /-- The configuration directory, and the file in it that the values come from. -/
  directory : Path
  file : EntryName
  values : Value

namespace Environment

/-- The file that the values come from. -/
def source (environment : Environment) : Path := environment.directory.entry environment.file

/-- The value under a key. -/
def get? (environment : Environment) (key : String) : Option Value := environment.values.get? key

/-- Whether an entry is a file that is called like an environment. -/
def isNamed (name : String) (entry : EntryName × FileTree) : Bool :=
  entry.2.isFile && entry.1.stem? == some name

/-- The files of a directory that are called like an environment. -/
def candidates (name : String) (entries : Entries) : List EntryName :=
  (entries.filter (isNamed name)).map (·.1)

/-- The one file among the entries of a directory that is called like an environment. -/
def select (directory : Path) (name : String) (entries : Entries) : Except LoadError EntryName :=
  match candidates name entries with
  | [file] => .ok file
  | [] => .error (.environment name (.noFile directory))
  | files => .error (.environment name (.severalFiles files.length))

/-- The entries of the configuration directory; none if it is missing. -/
def entries (disk : Disk) (directory : Path) : Except LoadError Entries :=
  match disk.list directory with
  | .ok entries => .ok entries
  | .error .notFound => .ok []
  | .error fault => .error (.file (.io directory fault))

/-- The environment of a project with a name. -/
def load (disk : Disk) (source : Source) (project : Path) (name : String) :
    Except LoadError Environment := do
  let directory := ProjectPart.configDirectory.inDirectory project
  let file ← select directory name (← entries disk directory)
  match source.loadEntry directory file with
  | .ok values => return ⟨name, directory, file, values⟩
  | .error error => throw (.file error)

end Environment

end ScenarioTree
