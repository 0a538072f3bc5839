import ScenarioTree.Disk
import ScenarioTree.Format

/-!
# Where documents come from

A source gives the document of a path. On a disk, the format of a document follows from its name; a
source of ready documents finds a document by the components of its path and looks at no format.

The path of a file whose name is no text is given by its directory and the name. No document refers
to such a file, but the listing of a directory can lead to it.
-/

namespace ScenarioTree

/-- Where documents come from. -/
structure Source where
  load : Path → Except FileError Value
  /-- The document in a directory under a name that is no text. -/
  loadBroken : Path → BrokenName → Except FileError Value :=
    fun directory name => .error (.invalidPath (directory.entry (.broken name)))

/-- The document of an entry of a directory. -/
def Source.loadEntry (source : Source) (directory : Path) : EntryName → Except FileError Value
  | .text name => source.load (directory.child name)
  | .broken name => source.loadBroken directory name

namespace Disk

variable (disk : Disk)

/-- The document of what has been read for a path. A file that is missing makes the path invalid. -/
def document (format : Format) (path : Path) : Except FileFault String → Except FileError Value
  | .ok text => format.parse disk.process text path
  | .error .notFound => .error (.invalidPath path)
  | .error fault => .error (.io path fault)

/-- The files of a disk. -/
def source : Source where
  load path := do
    disk.document (← Format.ofPath path) path (disk.readText path)
  loadBroken directory name := do
    let format ← Format.ofEntry directory (.broken name)
    disk.document format (directory.entry (.broken name)) (disk.readEntry directory (.broken name))

end Disk

/-- Ready documents. Of several under one path the last one counts. -/
def Source.ofDocuments (documents : List (Path × Value)) : Source where
  load path :=
    match documents.reverse.find? (·.1.same path) with
    | some (_, document) => .ok document
    | none => .error (.invalidPath path)

end ScenarioTree
