import ScenarioTree.EntryName
import ScenarioTree.FileError

/-!
# File trees

Files and directories as a value. The entries of a directory have no order that means anything; each
name occurs once.
-/

namespace ScenarioTree

/-- A file, or a directory with its entries. -/
inductive FileTree where
  | file (content : ByteArray)
  | directory (entries : List (EntryName × FileTree))

instance : Inhabited FileTree := ⟨.directory []⟩

/-- The entries of a directory. -/
abbrev Entries := List (EntryName × FileTree)

/-- Gives an entry a new content, or adds it. -/
def Entries.set (name : EntryName) (tree : FileTree) : Entries → Entries
  | [] => [(name, tree)]
  | entry :: rest =>
    if entry.1 = name then (name, tree) :: rest else entry :: Entries.set name tree rest

namespace FileTree

def isFile : FileTree → Bool
  | .file _ => true
  | .directory _ => false

def isDirectory : FileTree → Bool
  | .file _ => false
  | .directory _ => true

/-- The entries of a directory. -/
def entries? : FileTree → Option Entries
  | .file _ => none
  | .directory entries => some entries

/-- The text of a file, which has to be UTF-8. -/
def readText : FileTree → Except FileFault String
  | .directory _ => .error .isADirectory
  | .file content =>
    match String.fromUTF8? content with
    | some text => .ok text
    | none => .error .invalidText

/-- What stands under a text in a directory. -/
def below? (name : String) : FileTree → Option FileTree
  | .file _ => none
  | .directory entries => entries.lookup (.text name)

/-- What a walk down along names leads to. A walk only takes names that are texts. -/
def at? : List String → FileTree → Option FileTree
  | [], tree => some tree
  | name :: rest, tree => (tree.below? name).bind (at? rest)

/-- Puts a tree at the end of a walk. Missing directories on the way are made; a file on the way
    leaves everything as it is. -/
def put (new : FileTree) : List String → FileTree → FileTree
  | [], _ => new
  | _ :: _, .file content => .file content
  | name :: rest, .directory entries =>
    let old := (entries.lookup (.text name)).getD (.directory [])
    .directory (Entries.set name (put new rest old) entries)

/-- Takes away what stands at the end of a walk. -/
def remove : List String → FileTree → FileTree
  | _, .file content => .file content
  | [], _ => .directory []
  | [name], .directory entries => .directory (entries.filter (·.1 != .text name))
  | name :: rest, .directory entries =>
    match entries.lookup (.text name) with
    | some inner => .directory (Entries.set name (remove rest inner) entries)
    | none => .directory entries

mutual

/-- All files with the names that lead to them, as these are shown. -/
def files : FileTree → List (List String × ByteArray)
  | .file content => [([], content)]
  | .directory entries => filesOf entries

def filesOf : List (EntryName × FileTree) → List (List String × ByteArray)
  | [] => []
  | (name, tree) :: rest =>
    tree.files.map (fun file => (name.shown :: file.1, file.2)) ++ filesOf rest

end

end FileTree

end ScenarioTree
