import ScenarioTree.Format.Basic
import ScenarioTree.Path

/-!
# Why a document cannot be had

The causes for which a document, or a document that it refers to, cannot be read, and their wording.
-/

namespace ScenarioTree

/-- Why the file system refuses an access. -/
inductive FileFault where
  | notFound
  | alreadyExists
  | notADirectory
  | isADirectory
  | invalidText
  deriving DecidableEq

/-- The system's wording of a fault. -/
def FileFault.text : FileFault → String
  | .notFound => "No such file or directory (os error 2)"
  | .alreadyExists => "File exists (os error 17)"
  | .notADirectory => "Not a directory (os error 20)"
  | .isADirectory => "Is a directory (os error 21)"
  | .invalidText => "stream did not contain valid UTF-8"

/-- Why a document cannot be had. -/
inductive FileError where
  | io (path : Path) (fault : FileFault)
  | invalidPath (path : Path)
  /-- The text cannot be read in the format. What is wrong with it is said by the reader of the
      format, and is no part of the error here. -/
  | malformed (path : Path) (format : Format)
  | unsupportedFormat (path : Path) (extension : String)
  | depthExceeded (path : Path) (limit : Nat)
  /-- The chain ends with the file that closes the cycle. -/
  | cyclic (path : Path) (chain : List Path)
  deriving DecidableEq

/-- The wording of an error. -/
def FileError.message : FileError → String
  | .io path fault => s!"I/O error at {path.text}: {fault.text}"
  | .invalidPath path => s!"Invalid path: {path.text}"
  | .malformed path format => s!"Failed to parse {format.name} document at {path.text}"
  | .unsupportedFormat path extension => s!"Unsupported format '{extension}' for {path.text}"
  | .depthExceeded path limit =>
    s!"Reference resolution exceeded depth {limit} at {path.text}"
  | .cyclic path chain =>
    s!"Cyclic reference to {path.text} (via " ++ " -> ".intercalate (chain.map Path.text) ++ ")"

end ScenarioTree
