import ScenarioTree.Project.Environment

/-!
# Finding the routes of a project

A route is a directory below the directory of routes whose name is a text that ends in `_route` and
that holds the file of a route. A directory whose name is no text is passed over. Routes come in the
ascending order of their names, whatever order the entries of the directory have.
-/

namespace ScenarioTree

/-- How the documents of the routes are found in the directory of routes. -/
abbrev Discovery := Path → Except LoadError (List Path)

namespace Discovery

/-- The name of an entry that is the directory of a route; only a text can be one. -/
def routeName? (entry : EntryName × FileTree) : Option String :=
  entry.1.text?.filter fun name =>
    routeSuffix.toList.isSuffixOf name.toList
      && (entry.2.below? ProjectPart.routeFile.name).any FileTree.isFile

/-- The names of the routes among the entries of a directory. -/
def routeNames (entries : Entries) : List String :=
  (entries.filterMap routeName?).mergeSort (· ≤ ·)

/-- The document of a route. -/
def manifest (directory : Path) (name : String) : Path :=
  (directory.child name).child ProjectPart.routeFile.name

/-- The routes on a disk. What is not a directory has none. -/
def ofDisk (disk : Disk) : Discovery := fun directory =>
  match disk.list directory with
  | .ok entries => .ok ((routeNames entries).map (manifest directory))
  | .error _ => .ok []

end Discovery

end ScenarioTree
