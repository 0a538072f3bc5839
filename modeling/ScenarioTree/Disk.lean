import ScenarioTree.FileTree
import ScenarioTree.Format.Basic

/-!
# Disks

A file tree with what a process has beside it: the directory where relative paths start, and its
variables. A path is followed part by part: an empty part and `.` stay where they are and `..` goes
up, but each of them stands in a directory. At the root `..` stays. So `a/../b` is only there if `a`
is.
-/

namespace ScenarioTree

/-- A file tree, and what a process has beside it. -/
structure Disk where
  tree : FileTree
  /-- The names that lead from the root to the directory where relative paths start. -/
  current : List String
  /-- The variables of the process; none unless they are given. -/
  process : Variables := fun _ => none

namespace Disk

/-- The disk without any file. -/
def empty : Disk := { tree := .directory [], current := [] }

/-! ## Places -/

/-- Follows one part of a path. A place is given by the names that lead to it from the root. -/
def step (disk : Disk) (place : List String) (part : List Char) : Except FileFault (List String) :=
  match disk.tree.at? place with
  | none => .error .notFound
  | some (.file _) => .error .notADirectory
  | some (.directory entries) =>
    if part = [] ∨ part = ['.'] then .ok place
    else if part = ['.', '.'] then .ok place.dropLast
    else if (entries.lookup (.text (String.ofList part))).isSome then .ok (place ++ [String.ofList part])
    else .error .notFound

/-- The place where a path starts. -/
def start (disk : Disk) (path : Path) : List String := if path.isAbsolute then [] else disk.current

/-- The place that a path leads to. The empty path leads nowhere. -/
def place (disk : Disk) (path : Path) : Except FileFault (List String) :=
  if path.text = "" then .error .notFound else path.parts.foldlM disk.step (disk.start path)

/-- What a path leads to. -/
def tree? (disk : Disk) (path : Path) : Except FileFault FileTree := do
  let place ← disk.place path
  match disk.tree.at? place with
  | some tree => return tree
  | none => throw .notFound

/-- The absolute path of a place. -/
def pathOf (place : List String) : Path := ⟨"/" ++ "/".intercalate place⟩

/-- The identity of a file: its place if the path leads anywhere, or else its normal form. -/
def identity (disk : Disk) (path : Path) : Path :=
  match disk.place path with
  | .ok place => pathOf place
  | .error _ => path.normalize

/-! ## Reading -/

/-- Whether a path leads anywhere. -/
def contains (disk : Disk) (path : Path) : Bool := (disk.place path).isOk

def isFile (disk : Disk) (path : Path) : Bool :=
  match disk.tree? path with
  | .ok tree => tree.isFile
  | .error _ => false

def isDirectory (disk : Disk) (path : Path) : Bool :=
  match disk.tree? path with
  | .ok tree => tree.isDirectory
  | .error _ => false

/-- The text of a file, which has to be UTF-8. -/
def readText (disk : Disk) (path : Path) : Except FileFault String := do
  (← disk.tree? path).readText

/-- The entries of a directory, in no particular order. -/
def list (disk : Disk) (path : Path) : Except FileFault Entries := do
  match ← disk.tree? path with
  | .directory entries => return entries
  | .file _ => throw .notADirectory

/-- The text of a file in a directory, whose name need not be a text. -/
def readEntry (disk : Disk) (directory : Path) (name : EntryName) : Except FileFault String := do
  match (← disk.list directory).lookup name with
  | some tree => tree.readText
  | none => throw .notFound

/-! ## Writing -/

/-- The disk with a tree at a place. -/
def put (disk : Disk) (place : List String) (tree : FileTree) : Disk :=
  { disk with tree := FileTree.put tree place disk.tree }

/-- Makes a directory in one that is there. -/
def makeDirectory (disk : Disk) (path : Path) : Except FileFault Disk :=
  match disk.place path with
  | .ok _ => .error .alreadyExists
  | .error .notFound => do
    match path.components.reverse with
    | .name name :: outer =>
      let place ←
        if outer = [] then .ok disk.current else disk.place (.ofComponents outer.reverse)
      return disk.put (place ++ [name]) (.directory [])
    | _ => throw .notFound
  | .error fault => .error fault

/-- Makes the first of the directories, each of which stands in the next one, and those of them that
    it needs. One that is there already is no fault. -/
def makeNested (disk : Disk) : List Path → Except FileFault Disk
  | [] => .ok disk
  | path :: outer =>
    let unlessThere (disk : Disk) (fault : FileFault) : Except FileFault Disk :=
      if disk.isDirectory path then .ok disk else .error fault
    match disk.makeDirectory path with
    | .ok disk => .ok disk
    | .error .notFound => do
      let disk ← disk.makeNested outer
      match disk.makeDirectory path with
      | .ok disk => .ok disk
      | .error fault => unlessThere disk fault
    | .error fault => unlessThere disk fault

/-- Makes a directory and those that it stands in. -/
def makeDirectories (disk : Disk) (path : Path) : Except FileFault Disk :=
  let lengths := (List.range path.components.length).reverse.map (· + 1)
  disk.makeNested (lengths.map fun n => .ofComponents (path.components.take n))

/-- Writes a file in a directory that is there. A path with a slash at its end means a directory. -/
def writeFile (disk : Disk) (path : Path) (content : ByteArray) : Except FileFault Disk :=
  match path.parts.reverse.dropWhile (· == []) with
  | [] => .error .isADirectory
  | last :: outer => do
    let directory ← outer.reverse.foldlM disk.step (disk.start path)
    let slashed := path.parts.getLast? == some []
    match disk.step directory last with
    | .ok place =>
      if slashed || (disk.tree.at? place).any FileTree.isDirectory then throw .isADirectory
      else return disk.put place (.file content)
    | .error .notFound =>
      if slashed then throw .isADirectory
      else return disk.put (directory ++ [String.ofList last]) (.file content)
    | .error fault => throw fault

/-- Takes away a file, or a directory with all that it holds. -/
def remove (disk : Disk) (path : Path) : Disk :=
  match disk.place path with
  | .ok place => { disk with tree := FileTree.remove place disk.tree }
  | .error _ => disk

end Disk

end ScenarioTree
