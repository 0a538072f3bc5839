import ScenarioTree.Source

/-!
# References between documents

A map with a string under `$ref` stands for the document that the string names, unless the string
begins with `#`. Expanding a tree puts these documents in the place of the maps, whatever else the
maps hold. The markers of a document are seen from its own directory, so that a document means the
same wherever it is put.

A resolver opens documents inside each other. It never opens a file inside itself, and has no more
than a given number of files open at once. The bound is what makes it end, whatever the source
serves, so the recursion is on the number of files that may still be opened.

* `expand` replaces the markers of one tree by what a function gives for their paths.
* `Resolver.openFile` is that function: it loads the file and expands it with one file more open.
-/

namespace ScenarioTree

namespace Reference

/-- The key that makes a map stand for a document. -/
def key : String := "$ref"

/-- The target of a map that stands for a document. -/
def target? (fields : Fields) : Option String :=
  match Fields.get? key fields with
  | some (.string target) => if target.toList.head? = some '#' then none else some target
  | _ => none

/-- How many files may be open inside each other, unless stated otherwise. -/
def defaultDepth : Nat := 32

mutual

/-- The tree with the content of their documents in the place of the markers. -/
def expand (content : Path → Except FileError Value) (directory : Path) :
    Value → Except FileError Value
  | .object fields =>
    match target? fields with
    | some target => do
      let path := Path.locate directory target
      let _ ← Format.ofReference path
      content path
    | none => do return .object (← expandFields content directory fields)
  | .array items => do return .array (← expandItems content directory items)
  | v => .ok v

def expandFields (content : Path → Except FileError Value) (directory : Path) :
    List (String × Value) → Except FileError (List (String × Value))
  | [] => .ok []
  | (k, v) :: rest => do
    let v ← expand content directory v
    return (k, v) :: (← expandFields content directory rest)

def expandItems (content : Path → Except FileError Value) (directory : Path) :
    List Value → Except FileError (List Value)
  | [] => .ok []
  | v :: rest => do
    let v ← expand content directory v
    return v :: (← expandItems content directory rest)

end

end Reference

/-- What opens documents inside each other. -/
structure Resolver where
  source : Source
  /-- Paths of one file have one identity. -/
  identity : Path → Path
  maxDepth : Nat

namespace Resolver

/-- The content of a file, seen from inside the files that are open, the outermost first. A cycle is
    noticed before the bound, and both before the file is loaded. -/
def openFile (resolver : Resolver) : Nat → List Path → Path → Except FileError Value
  | left, opened, path =>
    let id := resolver.identity path
    if id ∈ opened then .error (.cyclic path (opened ++ [id]))
    else
      match left with
      | 0 => .error (.depthExceeded path resolver.maxDepth)
      | left + 1 => do
        let tree ← resolver.source.load path
        Reference.expand (resolver.openFile left (opened ++ [id])) path.directory tree

/-- The content of a file. -/
def resolveFile (resolver : Resolver) (path : Path) : Except FileError Value :=
  resolver.openFile resolver.maxDepth [] path

/-- A tree that belongs to a directory, expanded. No file is open around it. -/
def resolve (resolver : Resolver) (directory : Path) (tree : Value) : Except FileError Value :=
  Reference.expand (resolver.openFile resolver.maxDepth []) directory tree

end Resolver

end ScenarioTree
